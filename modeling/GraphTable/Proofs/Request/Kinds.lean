import GraphTable.Proofs.Text.AsciiCase
import GraphTable.Proofs.Text.Blank
import GraphTable.Request.Schema

/-!
# Markers of kinds

The metadata of a table mark its kind by the name of the kind, in any ASCII
letter case and with any white space around it.  Every other text is refused as
it stands.
-/

namespace GraphTable

namespace Text

variable {text other : String}

/-- Whether a character is blank does not depend on its letter case. -/
theorem isBlank_lowerChar (c : Char) : isBlank (lowerChar c) = isBlank c := by
  by_cases isCapital : 'A' ≤ c ∧ c ≤ 'Z'
  · have bounds := toNat_of_capital isCapital
    rw [Bool.eq_iff_iff]
    simp only [isBlank, lowerChar_of_capital isCapital, Bool.or_eq_true,
      Bool.and_eq_true, decide_eq_true_eq, beq_iff_eq]
    omega
  · rw [lowerChar_of_not_capital isCapital]

theorem trim_lower (text : String) : trim (lower text) = lower (trim text) := by
  have blank : isBlank ∘ lowerChar = isBlank :=
    funext isBlank_lowerChar
  simp only [trim, lower, trimEnd, trimStart, String.toList_ofList,
    ← List.map_reverse, List.dropWhile_map, blank]

theorem Padded.widen {core text : String} (padded : Padded core text)
    {front back : List Char} (frontBlank : ∀ c ∈ front, isBlank c = true)
    (backBlank : ∀ c ∈ back, isBlank c = true) :
    Padded core (String.ofList (front ++ text.toList ++ back)) := by
  obtain ⟨⟨before, behind, split, beforeBlank, behindBlank⟩, bareFirst,
    bareLast⟩ := padded
  refine ⟨⟨front ++ before, behind ++ back, ?_, ?_, ?_⟩, bareFirst, bareLast⟩
  · rw [String.toList_ofList, split]
    simp only [List.append_assoc]
  · exact List.forall_mem_append.mpr ⟨frontBlank, beforeBlank⟩
  · exact List.forall_mem_append.mpr ⟨behindBlank, backBlank⟩

end Text

namespace TableKind

variable {kind : TableKind} {text other : String}

/-- A text is the name of a kind, in any letter case, between blank characters. -/
inductive Marks (kind : TableKind) (text : String) : Prop
  | mk {front back : List Char} {word : String}
      (around : text.toList = front ++ word.toList ++ back)
      (frontBlank : ∀ c ∈ front, Text.isBlank c = true)
      (backBlank : ∀ c ∈ back, Text.isBlank c = true)
      (isName : Text.SameLetters word kind.name)

theorem ofName?_eq_some_iff : ofName? text = some kind ↔ kind.name = text := by
  constructor
  · intro found
    have named := List.find?_some found
    exact eq_of_beq named
  · rintro rfl
    cases kind <;> rfl

theorem lower_name (kind : TableKind) : Text.lower kind.name = kind.name := by
  cases kind <;> rfl

theorem not_blank_of_mem_name (kind : TableKind) :
    ∀ c ∈ kind.name.toList, Text.isBlank c = false := by
  intro c mem
  have all : kind.name.toList.all (fun c => !Text.isBlank c) = true := by
    cases kind <;> rfl
  simpa only [Bool.not_eq_true'] using List.all_eq_true.mp all c mem

theorem parse_eq_ok_iff :
    parse text = .ok kind ↔ Text.lower (Text.trim text) = kind.name := by
  rw [eq_comm (b := kind.name), ← ofName?_eq_some_iff, parse]
  cases ofName? (Text.lower (Text.trim text)) <;> simp

/-- No letter of a name is blank, so trimming stops at the name. -/
theorem trim_of_sameLetters {word : String} {front back : List Char}
    (around : text.toList = front ++ word.toList ++ back)
    (frontBlank : ∀ c ∈ front, Text.isBlank c = true)
    (backBlank : ∀ c ∈ back, Text.isBlank c = true)
    (isName : Text.SameLetters word kind.name) : Text.trim text = word := by
  have lowered : Text.lower word = kind.name := by
    rw [← kind.lower_name]
    exact Text.lower_eq_iff.mpr isName
  have bare : ∀ c ∈ word.toList, Text.isBlank c = false := by
    intro c mem
    rw [← Text.isBlank_lowerChar]
    apply kind.not_blank_of_mem_name
    rw [← lowered, Text.lower, String.toList_ofList]
    exact List.mem_map_of_mem mem
  refine Text.Padded.trim_eq ⟨⟨front, back, around, frontBlank, backBlank⟩,
    fun c isFirst => ?_, fun c isLast => ?_⟩
  · exact bare c (List.mem_of_mem_head? isFirst)
  · exact bare c (List.mem_of_mem_getLast? isLast)

theorem parse_eq_ok_iff_marks : parse text = .ok kind ↔ kind.Marks text := by
  rw [parse_eq_ok_iff]
  constructor
  · intro named
    obtain ⟨front, back, around, frontBlank, backBlank⟩ :=
      (Text.padded_trim text).around
    rw [← kind.lower_name] at named
    exact ⟨around, frontBlank, backBlank, Text.lower_eq_iff.mp named⟩
  · rintro ⟨around, frontBlank, backBlank, isName⟩
    rw [trim_of_sameLetters around frontBlank backBlank isName,
      ← kind.lower_name]
    exact Text.lower_eq_iff.mpr isName

theorem eq_of_parse_error {error : RequestError}
    (refused : parse text = .error error) : error = .unrecognizedKind text := by
  unfold parse at refused
  split at refused
  · cases refused
  · cases refused
    rfl

theorem parse_eq_error_iff {error : RequestError} :
    parse text = .error error ↔
      error = .unrecognizedKind text ∧ ∀ kind : TableKind, ¬kind.Marks text := by
  simp only [← parse_eq_ok_iff_marks]
  constructor
  · intro refused
    refine ⟨eq_of_parse_error refused, fun kind accepted => ?_⟩
    rw [accepted] at refused
    cases refused
  · rintro ⟨rfl, notAccepted⟩
    cases parsed : parse text with
    | ok kind => exact absurd parsed (notAccepted kind)
    | error error => rw [eq_of_parse_error parsed]

/-- The kind is read off the metadata of a table.  A text is read as a kind
exactly if it marks this kind, and refused as it stands if it marks none.  So
white space around a text and the case of its ASCII letters make no difference,
and no text marks two kinds. -/
theorem parse_recognizes_markers (text : String) :
    (∀ schema : Schema, schema.metadata.get? Schema.kindKey = some text →
      schema.kind = parse text) ∧
    (∀ kind, parse text = .ok kind ↔ kind.Marks text) ∧
    (∀ error, parse text = .error error ↔
      error = .unrecognizedKind text ∧ ∀ kind : TableKind, ¬kind.Marks text) ∧
    (∀ front back : List Char, (∀ c ∈ front, Text.isBlank c = true) →
      (∀ c ∈ back, Text.isBlank c = true) → ∀ kind,
        parse (String.ofList (front ++ text.toList ++ back)) = .ok kind ↔
          parse text = .ok kind) ∧
    (∀ other, Text.SameLetters other text → ∀ kind,
      parse other = .ok kind ↔ parse text = .ok kind) ∧
    ∀ first second : TableKind, first.Marks text → second.Marks text →
      first = second := by
  refine ⟨fun schema given => ?_, fun kind => parse_eq_ok_iff_marks,
    fun error => parse_eq_error_iff, fun front back frontBlank backBlank kind => ?_,
    fun other same kind => ?_, fun first second marks others => ?_⟩
  · rw [Schema.kind, given]
  · have trimmed :=
      ((Text.padded_trim text).widen frontBlank backBlank).trim_eq
    rw [parse_eq_ok_iff, parse_eq_ok_iff, trimmed]
  · rw [parse_eq_ok_iff, parse_eq_ok_iff, ← Text.trim_lower, ← Text.trim_lower,
      Text.lower_eq_iff.mpr same]
  · have accepted := parse_eq_ok_iff_marks.mpr marks
    rw [parse_eq_ok_iff_marks.mpr others] at accepted
    exact (Except.ok.inj accepted).symm

/-- White space of two kinds around a name in mixed letters. -/
theorem parse_spaced_view :
    (∀ c ∈ ['\u3000'], Text.isBlank c = true) ∧
    (∀ c ∈ ['\n', '\u0085'], Text.isBlank c = true) ∧
    Text.SameLetters "ViEw" "view" ∧
    parse "\u3000ViEw\n\u0085" = .ok .view := by
  have front : ∀ c ∈ ['\u3000'], Text.isBlank c = true :=
    List.forall_mem_singleton.mpr rfl
  have back : ∀ c ∈ ['\n', '\u0085'], Text.isBlank c = true :=
    List.forall_mem_cons.mpr ⟨rfl, List.forall_mem_singleton.mpr rfl⟩
  have same : Text.SameLetters "ViEw" "view" :=
    Text.lower_eq_iff.mp rfl
  refine ⟨front, back, same, ?_⟩
  exact ((parse_recognizes_markers "ViEw").2.2.2.1 _ _ front back .view).mpr
    (((parse_recognizes_markers "view").2.2.2.2.1 _ same .view).mpr rfl)

end TableKind

end GraphTable
