import Mathlib.Algebra.Ring.Parity
import Mathlib.Data.List.DropRight
import GraphTable.Proofs.Traversal.Literal

/-!
# Scanners of literals

A literal ends at its first quote that is not escaped, and a quote is escaped if
an odd number of backslashes stands right before it.  Scanners may differ in what
they make of a backslash before a character that is none of the four escaped
ones.  On a written literal they agree: each of them gives its text and leaves
what stands behind it.
-/

namespace GraphTable.Literal

variable {c d : Char} {cs before inner text rest : List Char}
variable {others : Char → Option (List Char)}

/-- A text ends in an odd number of backslashes, so that the character behind it
is escaped. -/
def Escapes (before : List Char) : Prop :=
  Odd (before.rtakeWhile (· = '\\')).length

instance (before : List Char) : Decidable (Escapes before) :=
  inferInstanceAs (Decidable (Odd _))

theorem escapes_nil : ¬Escapes [] := by
  decide

theorem escapes_concat : Escapes (before ++ [c]) ↔ c = '\\' ∧ ¬Escapes before := by
  unfold Escapes
  by_cases backslash : c = '\\' <;> simp [backslash, Nat.odd_add_one]

/-- Behind what was read before, a text reaches up to the first quote that is not
escaped, and no line break stands in it. -/
structure UpToQuote (before inner : List Char) : Prop where
  closed : ¬Escapes (before ++ inner)
  first : ∀ front back, inner = front ++ '\'' :: back → Escapes (before ++ front)
  unbroken : ∀ c ∈ inner, ¬(c = '\n' ∨ c = '\r')

theorem upToQuote_nil_iff : UpToQuote before [] ↔ ¬Escapes before := by
  constructor
  · rintro ⟨closed, -, -⟩
    rwa [List.append_nil] at closed
  · intro closed
    refine ⟨by rwa [List.append_nil], ?_, by simp⟩
    intro front back empty
    simp at empty

theorem upToQuote_cons_iff :
    UpToQuote before (c :: inner) ↔
      (c = '\'' → Escapes before) ∧ ¬(c = '\n' ∨ c = '\r') ∧
        UpToQuote (before ++ [c]) inner := by
  constructor
  · rintro ⟨closed, first, unbroken⟩
    refine ⟨?_, unbroken c List.mem_cons_self, ?_, ?_, ?_⟩
    · rintro rfl
      simpa using first [] inner rfl
    · rwa [List.append_assoc, List.singleton_append]
    · rintro front back rfl
      simpa using first (c :: front) back rfl
    · exact fun d mem => unbroken d (List.mem_cons_of_mem c mem)
  · rintro ⟨escaped, notLineBreak, closed, first, unbroken⟩
    refine ⟨?_, ?_, List.forall_mem_cons.mpr ⟨notLineBreak, unbroken⟩⟩
    · rwa [List.append_assoc, List.singleton_append] at closed
    · rintro (_ | ⟨d, front⟩) back same
      · rw [List.nil_append, List.cons.injEq] at same
        rw [List.append_nil]
        exact escaped same.1
      · rw [List.cons_append, List.cons.injEq] at same
        obtain ⟨rfl, same⟩ := same
        simpa using first front back same

/-- Split a text at the first quote that is not escaped, where `escaped` tells
whether its first character is.  A raw line break is refused. -/
def splitAtQuote (escaped : Bool) : List Char → Option (List Char × List Char)
  | [] => none
  | c :: cs =>
      if c = '\'' ∧ escaped = false then some ([], cs)
      else if c = '\n' ∨ c = '\r' then none
      else (splitAtQuote (c = '\\' && !escaped) cs).map fun (inner, rest) =>
        (c :: inner, rest)

/-- Undo the escapes of what stands inside a literal; every other character
stands for itself.  `others` gives what a backslash means together with a
character that is none of the four escaped ones, if it means anything. -/
def undo (others : Char → Option (List Char)) : List Char → Option (List Char)
  | '\\' :: d :: cs => do
      let front ← match escape? d with
        | some c => some [c]
        | none => others d
      return front ++ (← undo others cs)
  | c :: cs => (undo others cs).map (c :: ·)
  | [] => some []

theorem undo_escape (escapes : escape? d = some c) (cs : List Char) :
    undo others ('\\' :: d :: cs) = (undo others cs).map (c :: ·) := by
  rw [undo, escapes]
  cases undo others cs <;> rfl

theorem undo_plain (notBackslash : c ≠ '\\') (cs : List Char) :
    undo others (c :: cs) = (undo others cs).map (c :: ·) := by
  rw [undo]
  exact fun _ _ backslash _ => notBackslash backslash

/-- Scan a literal at the front of a text. Gives its text and what follows its
closing quote. -/
def scanWith (others : Char → Option (List Char)) :
    List Char → Option (List Char × List Char)
  | '\'' :: cs => do
      let (inner, rest) ← splitAtQuote false cs
      return (← undo others inner, rest)
  | _ => none

theorem splitAtQuote_quote (rest : List Char) :
    splitAtQuote false ('\'' :: rest) = some ([], rest) :=
  rfl

theorem splitAtQuote_lineBreak (lineBreak : c = '\n' ∨ c = '\r')
    (escaped : Bool) (cs : List Char) : splitAtQuote escaped (c :: cs) = none := by
  rcases lineBreak with rfl | rfl <;> rfl

theorem splitAtQuote_inside {escaped : Bool}
    (notClosing : c = '\'' → escaped = true)
    (notLineBreak : ¬(c = '\n' ∨ c = '\r')) (cs : List Char) :
    splitAtQuote escaped (c :: cs) =
      (splitAtQuote (c = '\\' && !escaped) cs).map fun (inner, rest) =>
        (c :: inner, rest) := by
  rw [splitAtQuote, if_neg, if_neg notLineBreak]
  rintro ⟨quote, notEscaped⟩
  rw [notClosing quote] at notEscaped
  cases notEscaped

theorem splitAtQuote_behind (notClosing : c = '\'' → Escapes before)
    (notLineBreak : ¬(c = '\n' ∨ c = '\r')) (cs : List Char) :
    splitAtQuote (decide (Escapes before)) (c :: cs) =
      (splitAtQuote (decide (Escapes (before ++ [c]))) cs).map
        fun (inner, rest) => (c :: inner, rest) := by
  have flag : decide (Escapes (before ++ [c])) =
      (decide (c = '\\') && !decide (Escapes before)) := by
    simp [escapes_concat]
  rw [flag]
  exact splitAtQuote_inside (fun quote => decide_eq_true (notClosing quote))
    notLineBreak cs

theorem splitAtQuote_of_upToQuote (upToQuote : UpToQuote before inner)
    (rest : List Char) :
    splitAtQuote (decide (Escapes before)) (inner ++ '\'' :: rest) =
      some (inner, rest) := by
  induction inner generalizing before with
  | nil =>
      rw [decide_eq_false (upToQuote_nil_iff.mp upToQuote)]
      exact splitAtQuote_quote rest
  | cons c inner ih =>
      obtain ⟨notClosing, notLineBreak, later⟩ := upToQuote_cons_iff.mp upToQuote
      rw [List.cons_append, splitAtQuote_behind notClosing notLineBreak, ih later,
        Option.map_some]

theorem upToQuote_of_splitAtQuote
    (found : splitAtQuote (decide (Escapes before)) cs = some (inner, rest)) :
    cs = inner ++ '\'' :: rest ∧ UpToQuote before inner := by
  induction cs generalizing before inner with
  | nil => cases found
  | cons c cs ih =>
      by_cases closing : c = '\'' ∧ ¬Escapes before
      · obtain ⟨rfl, closed⟩ := closing
        rw [decide_eq_false closed, splitAtQuote_quote] at found
        cases found
        exact ⟨rfl, upToQuote_nil_iff.mpr closed⟩
      have notClosing : c = '\'' → Escapes before := by
        simpa using closing
      by_cases lineBreak : c = '\n' ∨ c = '\r'
      · rw [splitAtQuote_lineBreak lineBreak] at found
        cases found
      · rw [splitAtQuote_behind notClosing lineBreak] at found
        obtain ⟨⟨later, behind⟩, foundLater, both⟩ :=
          Option.map_eq_some_iff.mp found
        cases both
        obtain ⟨rfl, upToQuote⟩ := ih foundLater
        exact ⟨rfl, upToQuote_cons_iff.mpr ⟨notClosing, lineBreak, upToQuote⟩⟩

/-- A scanner finds a literal exactly where one stands: between the opening quote
and the first quote that is not escaped, with no line break in between. -/
theorem scanWith_eq_some_iff :
    scanWith others cs = some (text, rest) ↔
      ∃ inner, cs = '\'' :: inner ++ '\'' :: rest ∧ UpToQuote [] inner ∧
        undo others inner = some text := by
  have atStart : decide (Escapes []) = false := decide_eq_false escapes_nil
  constructor
  · intro scanned
    unfold scanWith at scanned
    split at scanned
    · simp only [Option.bind_eq_bind, Option.bind_eq_some_iff] at scanned
      obtain ⟨⟨inner, behind⟩, found, undone, isText, both⟩ := scanned
      cases both
      rw [← atStart] at found
      obtain ⟨rfl, upToQuote⟩ := upToQuote_of_splitAtQuote found
      exact ⟨inner, rfl, upToQuote, isText⟩
    · cases scanned
  · rintro ⟨inner, rfl, upToQuote, isText⟩
    have found := splitAtQuote_of_upToQuote upToQuote rest
    rw [atStart] at found
    simp [scanWith, found, isText]

theorem not_lineBreak_of_escape (escapes : escape? d = some c) :
    ¬(d = '\n' ∨ d = '\r') := by
  rintro (rfl | rfl) <;> cases escapes

theorem splitAtQuote_escape (notLineBreak : ¬(d = '\n' ∨ d = '\r'))
    (cs : List Char) :
    splitAtQuote false ('\\' :: d :: cs) =
      (splitAtQuote false cs).map fun (inner, rest) =>
        ('\\' :: d :: inner, rest) := by
  have behind : splitAtQuote true (d :: cs) =
      (splitAtQuote false cs).map fun (inner, rest) => (d :: inner, rest) := by
    rw [splitAtQuote_inside (fun _ => rfl) notLineBreak, Bool.not_true,
      Bool.and_false]
  rw [splitAtQuote_inside (by decide) (by decide)]
  change (splitAtQuote true (d :: cs)).map _ = _
  rw [behind, Option.map_map]
  rfl

theorem splitAtQuote_plain (plain : IsPlain c) (cs : List Char) :
    splitAtQuote false (c :: cs) =
      (splitAtQuote false cs).map fun (inner, rest) => (c :: inner, rest) := by
  obtain ⟨notBackslash, notQuote, notLineBreak⟩ := plain
  rw [splitAtQuote_inside (fun quote => absurd quote notQuote) notLineBreak,
    decide_eq_false notBackslash, Bool.false_and]

theorem scanWith_front (front : List Char)
    (inside : splitAtQuote false (front ++ cs) =
      (splitAtQuote false cs).map fun (inner, rest) => (front ++ inner, rest))
    (means : ∀ inner, undo others (front ++ inner) =
      (undo others inner).map (c :: ·)) :
    scanWith others ('\'' :: (front ++ cs)) =
      (scanWith others ('\'' :: cs)).map fun (text, rest) => (c :: text, rest) := by
  rw [scanWith, scanWith, inside]
  cases splitAtQuote false cs with
  | none => rfl
  | some split =>
      obtain ⟨inner, rest⟩ := split
      simp only [Option.map_some, Option.bind_eq_bind, Option.bind_some, means]
      cases undo others inner <;> rfl

theorem scanWith_unknown (unknown : escape? d = none) (cs : List Char) :
    scanWith (fun _ => none) ('\'' :: '\\' :: d :: cs) = none := by
  by_cases lineBreak : d = '\n' ∨ d = '\r'
  · rcases lineBreak with rfl | rfl <;> rfl
  · rw [scanWith, splitAtQuote_escape lineBreak]
    cases splitAtQuote false cs with
    | none => rfl
    | some split => simp [undo, unknown]

theorem scanBody_eq_scanWith (cs : List Char) :
    scanBody cs = scanWith (fun _ => none) ('\'' :: cs) := by
  fun_induction scanBody cs with
  | case1 => rfl
  | case2 => rfl
  | case3 d cs ih =>
      cases escapes : escape? d with
      | none => rw [scanWith_unknown escapes]; rfl
      | some c =>
          have step : scanWith (fun _ => none) ('\'' :: '\\' :: d :: cs) = _ :=
            scanWith_front ['\\', d]
              (splitAtQuote_escape (not_lineBreak_of_escape escapes) cs)
              (undo_escape escapes)
          rw [ih, step]
          cases scanWith (fun _ => none) ('\'' :: cs) <;> rfl
  | case4 => rfl
  | case5 c cs notLast notEscape notQuote lineBreak =>
      rw [scanWith, splitAtQuote_lineBreak lineBreak]
      rfl
  | case6 c cs notLast notEscape notQuote notLineBreak ih =>
      have notBackslash : c ≠ '\\' := by
        rintro rfl
        cases cs with
        | nil => exact notLast rfl rfl
        | cons d cs => exact notEscape d cs rfl rfl
      have step : scanWith (fun _ => none) ('\'' :: c :: cs) = _ :=
        scanWith_front [c]
          (splitAtQuote_plain ⟨notBackslash, notQuote, notLineBreak⟩ cs)
          (undo_plain notBackslash)
      rw [ih, step]
      cases scanWith (fun _ => none) ('\'' :: cs) <;> rfl

/-- The scanner of scripts is the one to which a backslash before any other
character means nothing. -/
theorem scan_eq_scanWith : scan = scanWith fun _ => none := by
  funext cs
  unfold scan
  split
  · exact scanBody_eq_scanWith _
  · rw [scanWith]
    assumption

/-- No quote ends a written text early: a character that is written with a
backslash adds two, of which the first escapes the second. -/
theorem upToQuote_flatMap_writeChar (closed : ¬Escapes before) (text : List Char) :
    UpToQuote before (text.flatMap writeChar) := by
  induction text generalizing before with
  | nil => exact upToQuote_nil_iff.mpr closed
  | cons c text ih =>
      rw [List.flatMap_cons]
      rcases escape_or_plain c with ⟨d, escapes⟩ | plain
      · rw [writeChar_of_escape escapes]
        have escaping : Escapes (before ++ ['\\']) :=
          escapes_concat.mpr ⟨rfl, closed⟩
        have closedAgain : ¬Escapes (before ++ ['\\'] ++ [d]) :=
          fun escaped => (escapes_concat.mp escaped).2 escaping
        refine upToQuote_cons_iff.mpr ⟨by simp, by decide, ?_⟩
        exact upToQuote_cons_iff.mpr ⟨fun _ => escaping,
          not_lineBreak_of_escape escapes, ih closedAgain⟩
      · rw [writeChar_of_plain plain]
        obtain ⟨notBackslash, notQuote, notLineBreak⟩ := plain
        have closedAgain : ¬Escapes (before ++ [c]) :=
          fun escaped => notBackslash (escapes_concat.mp escaped).1
        exact upToQuote_cons_iff.mpr
          ⟨fun quote => absurd quote notQuote, notLineBreak, ih closedAgain⟩

theorem undo_flatMap_writeChar (others : Char → Option (List Char))
    (text : List Char) : undo others (text.flatMap writeChar) = some text := by
  induction text with
  | nil => rfl
  | cons c text ih =>
      rw [List.flatMap_cons]
      rcases escape_or_plain c with ⟨d, escapes⟩ | plain
      · rw [writeChar_of_escape escapes, List.cons_append, List.singleton_append,
          undo_escape escapes, ih, Option.map_some]
      · rw [writeChar_of_plain plain, List.singleton_append,
          undo_plain plain.notBackslash, ih, Option.map_some]

/-- A written text cannot leave its literal: whatever the text, and whatever
stands behind it, a scanner gives exactly the text and leaves exactly what stands
behind, no matter what a backslash before any other character means to it.  The
scanner of scripts does so, too. -/
theorem write_stays_enclosed (value rest : String) :
    (∀ others : Char → Option (List Char),
      scanWith others (write value.toList ++ rest.toList) =
        some (value.toList, rest.toList)) ∧
    scan (write value.toList ++ rest.toList) =
      some (value.toList, rest.toList) := by
  have enclosed (others : Char → Option (List Char)) :
      scanWith others (write value.toList ++ rest.toList) =
        some (value.toList, rest.toList) := by
    refine scanWith_eq_some_iff.mpr ⟨value.toList.flatMap writeChar, ?_,
      upToQuote_flatMap_writeChar escapes_nil _, undo_flatMap_writeChar others _⟩
    simp [write]
  refine ⟨enclosed, ?_⟩
  rw [scan_eq_scanWith]
  exact enclosed _

/-- A text that ends in a backslash, before a text that begins with a quote, for
a scanner that keeps all other backslashes. -/
example :
    scanWith (fun c => some ['\\', c])
        (write "it's \\d\\".toList ++ "'.drop()".toList) =
      some ("it's \\d\\".toList, "'.drop()".toList) := by
  decide

end GraphTable.Literal
