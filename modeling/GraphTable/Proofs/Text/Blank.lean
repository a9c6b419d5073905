import GraphTable.Text.Blank

/-!
# Trimmed texts

A text without the blank characters around it is what is left when neither its
first nor its last character is blank.  So there is one way to trim a text, and
it leaves everything inside alone.
-/

namespace GraphTable.Text

variable {cs rest : List Char} {core text : String}

theorem trimStart_eq_iff :
    trimStart cs = rest ↔
      (∃ front, cs = front ++ rest ∧ ∀ c ∈ front, isBlank c = true) ∧
        ∀ c ∈ rest.head?, isBlank c = false := by
  constructor
  · rintro rfl
    refine ⟨⟨cs.takeWhile isBlank, ?_, ?_⟩, ?_⟩
    · exact List.takeWhile_append_dropWhile.symm
    · exact List.all_eq_true.mp List.all_takeWhile
    · intro c isFirst
      have bare := List.head?_dropWhile_not isBlank cs
      rw [← trimStart, isFirst] at bare
      exact bare
  · rintro ⟨⟨front, rfl, blank⟩, bare⟩
    rw [trimStart, List.dropWhile_append_of_pos blank]
    cases rest with
    | nil => rfl
    | cons c rest =>
        apply List.dropWhile_cons_of_neg
        rw [bare c rfl]
        exact Bool.false_ne_true

theorem trimEnd_eq_iff :
    trimEnd cs = rest ↔
      (∃ back, cs = rest ++ back ∧ ∀ c ∈ back, isBlank c = true) ∧
        ∀ c ∈ rest.getLast?, isBlank c = false := by
  have backwards : trimEnd cs = rest ↔ trimStart cs.reverse = rest.reverse := by
    rw [trimEnd, trimStart, List.reverse_eq_iff]
  rw [backwards, trimStart_eq_iff, List.head?_reverse]
  refine and_congr_left fun _ => ?_
  constructor
  · rintro ⟨front, split, blank⟩
    refine ⟨front.reverse, ?_, fun c mem => blank c (List.mem_reverse.mp mem)⟩
    rw [List.reverse_eq_iff.mp split, List.reverse_append, List.reverse_reverse]
  · rintro ⟨back, rfl, blank⟩
    exact ⟨back.reverse, List.reverse_append,
      fun c mem => blank c (List.mem_reverse.mp mem)⟩

/-- A text is another one with blank characters around it, and the other one has
none at its ends. -/
structure Padded (core text : String) : Prop where
  around : ∃ front back : List Char,
    text.toList = front ++ core.toList ++ back ∧
      (∀ c ∈ front, isBlank c = true) ∧ ∀ c ∈ back, isBlank c = true
  bareFirst : ∀ c ∈ core.toList.head?, isBlank c = false
  bareLast : ∀ c ∈ core.toList.getLast?, isBlank c = false

theorem padded_trim (text : String) : Padded (trim text) text := by
  obtain ⟨⟨front, frontSplit, frontBlank⟩, bareFirst⟩ :=
    (@trimStart_eq_iff text.toList _).mp rfl
  obtain ⟨⟨back, backSplit, backBlank⟩, bareLast⟩ :=
    (@trimEnd_eq_iff (trimStart text.toList) _).mp rfl
  rw [backSplit] at frontSplit bareFirst
  have isCore : (trim text).toList = trimEnd (trimStart text.toList) :=
    String.toList_ofList
  refine ⟨⟨front, back, ?_, frontBlank, backBlank⟩, ?_, ?_⟩
  · rw [isCore, List.append_assoc]
    exact frontSplit
  · intro c isFirst
    rw [isCore] at isFirst
    apply bareFirst
    rw [List.head?_append, Option.mem_def.mp isFirst]
    rfl
  · rw [isCore]
    exact bareLast

theorem Padded.trim_eq (padded : Padded core text) : trim text = core := by
  obtain ⟨⟨front, back, split, frontBlank, backBlank⟩, bareFirst, bareLast⟩ :=
    padded
  have frontTrimmed :
      trimStart text.toList = trimStart (core.toList ++ back) := by
    rw [split, List.append_assoc, trimStart,
      List.dropWhile_append_of_pos frontBlank, trimStart]
  have backTrimmed : trimEnd (trimStart text.toList) = core.toList := by
    rw [frontTrimmed]
    cases isCore : core.toList with
    | nil =>
        rw [List.nil_append]
        have nothing : trimStart back = [] :=
          trimStart_eq_iff.mpr
            ⟨⟨back, (List.append_nil back).symm, backBlank⟩, nofun⟩
        rw [nothing]
        rfl
    | cons c rest =>
        rw [isCore] at bareFirst bareLast
        have whole : trimStart (c :: rest ++ back) = c :: rest ++ back :=
          trimStart_eq_iff.mpr ⟨⟨[], rfl, nofun⟩, bareFirst⟩
        rw [whole]
        exact trimEnd_eq_iff.mpr ⟨⟨back, rfl, backBlank⟩, bareLast⟩
  rw [trim, backTrimmed, String.ofList_toList]

end GraphTable.Text
