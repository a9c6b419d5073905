import GraphTable.Traversal.Literal

/-!
# Written literals

A written literal ends at its own closing quote, whatever stands behind it, and
nothing is scanned as a literal that was not written as one.
-/

namespace GraphTable.Literal

variable {c d : Char} {cs text rest : List Char}

/-- A character that is written as it stands. -/
structure IsPlain (c : Char) : Prop where
  notBackslash : c ≠ '\\'
  notQuote : c ≠ '\''
  notLineBreak : ¬(c = '\n' ∨ c = '\r')

theorem writeChar_of_escape (escapes : escape? d = some c) :
    writeChar c = ['\\', d] := by
  grind [escape?, writeChar]

theorem writeChar_of_plain (plain : IsPlain c) : writeChar c = [c] := by
  obtain ⟨notBackslash, notQuote, notLineBreak⟩ := plain
  grind [writeChar]

theorem escape_or_plain (c : Char) :
    (∃ d, escape? d = some c) ∨ IsPlain c := by
  by_cases backslash : c = '\\'
  · exact .inl ⟨'\\', by rw [backslash]; rfl⟩
  by_cases quote : c = '\''
  · exact .inl ⟨'\'', by rw [quote]; rfl⟩
  by_cases lineFeed : c = '\n'
  · exact .inl ⟨'n', by rw [lineFeed]; rfl⟩
  by_cases carriageReturn : c = '\r'
  · exact .inl ⟨'r', by rw [carriageReturn]; rfl⟩
  exact .inr ⟨backslash, quote, by simp [lineFeed, carriageReturn]⟩

theorem scanBody_quote (rest : List Char) :
    scanBody ('\'' :: rest) = some ([], rest) := by
  rw [scanBody] <;> simp

theorem scanBody_plain (plain : IsPlain c)
    (scanned : scanBody cs = some (text, rest)) :
    scanBody (c :: cs) = some (c :: text, rest) := by
  obtain ⟨notBackslash, notQuote, notLineBreak⟩ := plain
  rw [scanBody, if_neg notQuote, if_neg notLineBreak, scanned]
  · rfl
  · exact fun backslash _ => notBackslash backslash
  · exact fun _ _ backslash _ => notBackslash backslash

theorem scanBody_escape (escapes : escape? d = some c)
    (scanned : scanBody cs = some (text, rest)) :
    scanBody ('\\' :: d :: cs) = some (c :: text, rest) := by
  rw [scanBody, escapes, scanned]
  rfl

theorem scanBody_write (text rest : List Char) :
    scanBody (text.flatMap writeChar ++ '\'' :: rest) = some (text, rest) := by
  induction text with
  | nil => exact scanBody_quote rest
  | cons c text ih =>
      rw [List.flatMap_cons, List.append_assoc]
      rcases escape_or_plain c with ⟨d, escapes⟩ | plain
      · rw [writeChar_of_escape escapes]
        exact scanBody_escape escapes ih
      · rw [writeChar_of_plain plain]
        exact scanBody_plain plain ih

theorem eq_of_scanBody (scanned : scanBody cs = some (text, rest)) :
    cs = text.flatMap writeChar ++ '\'' :: rest := by
  fun_induction scanBody cs generalizing text with
  | case1 => cases scanned
  | case2 => cases scanned
  | case3 d cs ih =>
      simp only [Option.bind_eq_bind, Option.bind_eq_some_iff] at scanned
      obtain ⟨c, escapes, ⟨others, behind⟩, later, both⟩ := scanned
      cases both
      rw [List.flatMap_cons, writeChar_of_escape escapes, ih later]
      rfl
  | case4 cs =>
      cases scanned
      rfl
  | case5 => cases scanned
  | case6 c cs notLast notEscape notQuote notLineBreak ih =>
      simp only [Option.bind_eq_bind, Option.bind_eq_some_iff] at scanned
      obtain ⟨⟨others, behind⟩, later, both⟩ := scanned
      cases both
      have notBackslash : c ≠ '\\' := by
        rintro rfl
        cases cs with
        | nil => exact notLast rfl rfl
        | cons d cs => exact notEscape d cs rfl rfl
      rw [List.flatMap_cons,
        writeChar_of_plain ⟨notBackslash, notQuote, notLineBreak⟩, ih later]
      rfl

/-- A literal is scanned exactly where one was written: the scan ends at its
closing quote and gives its text. -/
theorem scan_eq_some_iff :
    scan cs = some (text, rest) ↔ cs = write text ++ rest := by
  have written : write text ++ rest =
      '\'' :: (text.flatMap writeChar ++ '\'' :: rest) := by
    simp [write]
  rw [written]
  constructor
  · intro scanned
    unfold scan at scanned
    split at scanned
    · rw [eq_of_scanBody scanned]
    · cases scanned
  · rintro rfl
    exact scanBody_write text rest

end GraphTable.Literal
