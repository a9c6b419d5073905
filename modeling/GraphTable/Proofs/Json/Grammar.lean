import GraphTable.Json.Reader

/-!
# The grammar of JSON texts

Each relation says what a text begins with and what is left of the text behind
it.  Nothing is said about how a text is read: a value has many texts, with
spaces between all parts, with or without escapes in its strings, and with any
numeral that stands for its number.
-/

namespace GraphTable

namespace Grammar

inductive Spaces : List Char → List Char → Prop
  | nil {rest : List Char} : Spaces rest rest
  | cons {c : Char} {cs rest : List Char} (isSpace : Draft.isSpace c = true)
      (others : Spaces cs rest) : Spaces (c :: cs) rest

/-- The characters of a string up to its closing quote. -/
inductive Chars : List Char → List Char → List Char → Prop
  | closed {rest : List Char} : Chars [] ('"' :: rest) rest
  | plain {c : Char} {content cs rest : List Char} (notQuote : c ≠ '"')
      (notBackslash : c ≠ '\\') (notControl : ¬c < ' ')
      (others : Chars content cs rest) : Chars (c :: content) (c :: cs) rest
  | short {d c : Char} {content cs rest : List Char}
      (escapes : Draft.shortEscape? d = some c) (others : Chars content cs rest) :
      Chars (c :: content) ('\\' :: d :: cs) rest
  | unit {a b c d : Char} {n : Nat} {content cs rest : List Char}
      (isUnit : Draft.codeUnit? a b c d = some n) (notHigh : isHighUnit n = false)
      (notLow : isLowUnit n = false) (others : Chars content cs rest) :
      Chars (Char.ofNat n :: content) ('\\' :: 'u' :: a :: b :: c :: d :: cs) rest
  | pair {a b c d e f g h : Char} {high low : Nat} {content cs rest : List Char}
      (isUnit : Draft.codeUnit? a b c d = some high)
      (isHigh : isHighUnit high = true)
      (nextIsUnit : Draft.codeUnit? e f g h = some low)
      (isLow : isLowUnit low = true) (others : Chars content cs rest) :
      Chars (joinUnits high low :: content)
        ('\\' :: 'u' :: a :: b :: c :: d :: '\\' :: 'u' :: e :: f :: g :: h :: cs)
        rest

/-- Digits, one at least. -/
inductive Digits : List Nat → List Char → List Char → Prop
  | last {c : Char} {rest : List Char} (isDigit : Draft.isDigit c = true) :
      Digits [c.toNat - 48] (c :: rest) rest
  | cons {c : Char} {digits : List Nat} {cs rest : List Char}
      (isDigit : Draft.isDigit c = true) (others : Digits digits cs rest) :
      Digits ((c.toNat - 48) :: digits) (c :: cs) rest

/-- The digits behind the point, unless there is none. -/
inductive Fraction : Option (List Nat) → List Char → List Char → Prop
  | absent {rest : List Char} : Fraction none rest rest
  | present {digits : List Nat} {cs rest : List Char}
      (areDigits : Digits digits cs rest) :
      Fraction (some digits) ('.' :: cs) rest

/-- The sign of an exponent, true for minus. -/
inductive Sign : Bool → List Char → List Char → Prop
  | absent {rest : List Char} : Sign false rest rest
  | plus {rest : List Char} : Sign false ('+' :: rest) rest
  | minus {rest : List Char} : Sign true ('-' :: rest) rest

/-- The exponent, unless there is none. -/
inductive Exponent : Option (Bool × List Nat) → List Char → List Char → Prop
  | absent {rest : List Char} : Exponent none rest rest
  | present {e : Char} {minus : Bool} {digits : List Nat}
      {cs behindSign rest : List Char} (marks : e = 'e' ∨ e = 'E')
      (hasSign : Sign minus cs behindSign)
      (areDigits : Digits digits behindSign rest) :
      Exponent (some (minus, digits)) (e :: cs) rest

/-- A numeral behind its sign: no zero stands in front of other digits. -/
inductive Unsigned : Numeral → List Char → List Char → Prop
  | mk {negative : Bool} {whole : List Nat} {fraction : Option (List Nat)}
      {exponent : Option (Bool × List Nat)}
      {cs behindWhole behindFraction rest : List Char}
      (areDigits : Digits whole cs behindWhole)
      (noZeroInFront : ∀ digit digits, whole ≠ 0 :: digit :: digits)
      (hasFraction : Fraction fraction behindWhole behindFraction)
      (hasExponent : Exponent exponent behindFraction rest) :
      Unsigned ⟨negative, whole, fraction, exponent⟩ cs rest

/-- A numeral. -/
inductive Signed : Numeral → List Char → List Char → Prop
  | positive {numeral : Numeral} {cs rest : List Char}
      (notNegative : numeral.negative = false)
      (isAmount : Unsigned numeral cs rest) : Signed numeral cs rest
  | negative {numeral : Numeral} {cs rest : List Char}
      (isNegative : numeral.negative = true)
      (isAmount : Unsigned numeral cs rest) : Signed numeral ('-' :: cs) rest

/-- A name, with any spaces in front of it, and the colon behind it. -/
inductive Name : String → List Char → List Char → Prop
  | mk {content cs text behind rest : List Char} (opens : Spaces cs ('"' :: text))
      (areChars : Chars content text behind)
      (colon : Spaces behind (':' :: rest)) : Name (String.ofList content) cs rest

mutual

/-- A value, with any spaces in front of it. -/
inductive Value : Json → List Char → List Char → Prop
  | space {value : Json} {c : Char} {cs rest : List Char}
      (isSpace : Draft.isSpace c = true) (isValue : Value value cs rest) :
      Value value (c :: cs) rest
  | null {rest : List Char} : Value .null ('n' :: 'u' :: 'l' :: 'l' :: rest) rest
  | yes {rest : List Char} :
      Value (.bool true) ('t' :: 'r' :: 'u' :: 'e' :: rest) rest
  | no {rest : List Char} :
      Value (.bool false) ('f' :: 'a' :: 'l' :: 's' :: 'e' :: rest) rest
  | number {numeral : Numeral} {number : Number} {cs rest : List Char}
      (isNumeral : Signed numeral cs rest)
      (standsFor : numeral.value? = some number) : Value (.number number) cs rest
  | string {content cs rest : List Char} (areChars : Chars content cs rest) :
      Value (.string (String.ofList content)) ('"' :: cs) rest
  | emptyArray {cs rest : List Char} (closes : Spaces cs (']' :: rest)) :
      Value (.array []) ('[' :: cs) rest
  | array {items : List Json} {cs rest : List Char}
      (areItems : Items items cs rest) : Value (.array items) ('[' :: cs) rest
  | emptyObject {cs rest : List Char} (closes : Spaces cs ('\x7d' :: rest)) :
      Value (.object []) ('\x7b' :: cs) rest
  | object {members : Entries Json} {cs rest : List Char}
      (areMembers : Members members cs rest) :
      Value (.object members) ('\x7b' :: cs) rest

/-- Items up to the closing bracket, one at least. -/
inductive Items : List Json → List Char → List Char → Prop
  | last {item : Json} {cs behind rest : List Char}
      (isValue : Value item cs behind) (closes : Spaces behind (']' :: rest)) :
      Items [item] cs rest
  | cons {item : Json} {items : List Json} {cs behind others rest : List Char}
      (isValue : Value item cs behind) (goesOn : Spaces behind (',' :: others))
      (areItems : Items items others rest) : Items (item :: items) cs rest

/-- Members up to the closing brace, one at least. -/
inductive Members : Entries Json → List Char → List Char → Prop
  | last {name : String} {value : Json} {cs text behind rest : List Char}
      (isName : Name name cs text) (isValue : Value value text behind)
      (closes : Spaces behind ('\x7d' :: rest)) : Members [(name, value)] cs rest
  | cons {name : String} {value : Json} {members : Entries Json}
      {cs text behind others rest : List Char} (isName : Name name cs text)
      (isValue : Value value text behind) (goesOn : Spaces behind (',' :: others))
      (areMembers : Members members others rest) :
      Members ((name, value) :: members) cs rest

end

/-- A text of a value, with any spaces behind it. -/
inductive Text (text : String) (value : Json) : Prop
  | mk {behind : List Char} (isValue : Value value text.toList behind)
      (ends : Spaces behind [])

variable {digits : List Nat} {numeral : Numeral} {content cs rest : List Char}

theorem Spaces.length_le (spaces : Spaces cs rest) : rest.length ≤ cs.length := by
  induction spaces with
  | nil => exact Nat.le_refl _
  | cons isSpace others ih => exact Nat.le_succ_of_le ih

theorem Chars.length_lt (chars : Chars content cs rest) :
    rest.length < cs.length := by
  induction chars <;> simp only [List.length_cons] <;> omega

theorem Digits.length_lt (areDigits : Digits digits cs rest) :
    rest.length < cs.length := by
  induction areDigits <;> simp only [List.length_cons] <;> omega

theorem Fraction.length_le {fraction : Option (List Nat)}
    (hasFraction : Fraction fraction cs rest) : rest.length ≤ cs.length := by
  cases hasFraction with
  | absent => exact Nat.le_refl _
  | present areDigits => exact Nat.le_succ_of_le (Nat.le_of_lt areDigits.length_lt)

theorem Sign.length_le {minus : Bool} (hasSign : Sign minus cs rest) :
    rest.length ≤ cs.length := by
  cases hasSign with
  | absent => exact Nat.le_refl _
  | plus => exact Nat.le_succ _
  | minus => exact Nat.le_succ _

theorem Exponent.length_le {exponent : Option (Bool × List Nat)}
    (hasExponent : Exponent exponent cs rest) : rest.length ≤ cs.length := by
  cases hasExponent with
  | absent => exact Nat.le_refl _
  | present marks hasSign areDigits =>
      have shorter :=
        Nat.lt_of_lt_of_le areDigits.length_lt hasSign.length_le
      exact Nat.le_succ_of_le (Nat.le_of_lt shorter)

theorem Unsigned.length_lt (isAmount : Unsigned numeral cs rest) :
    rest.length < cs.length := by
  obtain ⟨areDigits, -, hasFraction, hasExponent⟩ := isAmount
  exact Nat.lt_of_le_of_lt
    (Nat.le_trans hasExponent.length_le hasFraction.length_le) areDigits.length_lt

theorem Signed.length_lt (isNumeral : Signed numeral cs rest) :
    rest.length < cs.length := by
  cases isNumeral with
  | positive notNegative isAmount => exact isAmount.length_lt
  | negative isNegative isAmount =>
      exact Nat.lt_succ_of_lt isAmount.length_lt

theorem Name.length_lt {name : String} (isName : Name name cs rest) :
    rest.length < cs.length := by
  obtain ⟨opens, areChars, colon⟩ := isName
  have quote := opens.length_le
  have content := areChars.length_lt
  have mark := colon.length_le
  rw [List.length_cons] at quote mark
  omega

mutual

theorem Value.length_lt : {value : Json} → {cs rest : List Char} →
    Value value cs rest → rest.length < cs.length
  | _, _, _, .space _ isValue => Nat.lt_succ_of_lt isValue.length_lt
  | _, _, _, .null => by simp only [List.length_cons]; omega
  | _, _, _, .yes => by simp only [List.length_cons]; omega
  | _, _, _, .no => by simp only [List.length_cons]; omega
  | _, _, _, .number isNumeral _ => isNumeral.length_lt
  | _, _, _, .string areChars => Nat.lt_succ_of_lt areChars.length_lt
  | _, _, _, .emptyArray closes => Nat.lt_succ_of_lt closes.length_le
  | _, _, _, .array areItems => Nat.lt_succ_of_lt areItems.length_lt
  | _, _, _, .emptyObject closes => Nat.lt_succ_of_lt closes.length_le
  | _, _, _, .object areMembers => Nat.lt_succ_of_lt areMembers.length_lt

theorem Items.length_lt : {items : List Json} → {cs rest : List Char} →
    Items items cs rest → rest.length < cs.length
  | _, _, _, .last isValue closes =>
      Nat.lt_trans (Nat.lt_of_succ_le closes.length_le) isValue.length_lt
  | _, _, _, .cons isValue goesOn areItems => by
      have first := isValue.length_lt
      have comma := goesOn.length_le
      have others := areItems.length_lt
      rw [List.length_cons] at comma
      omega

theorem Members.length_lt : {members : Entries Json} → {cs rest : List Char} →
    Members members cs rest → rest.length < cs.length
  | _, _, _, .last isName isValue closes =>
      Nat.lt_trans (Nat.lt_of_succ_le closes.length_le)
        (Nat.lt_trans isValue.length_lt isName.length_lt)
  | _, _, _, .cons isName isValue goesOn areMembers => by
      have name := isName.length_lt
      have value := isValue.length_lt
      have comma := goesOn.length_le
      have others := areMembers.length_lt
      rw [List.length_cons] at comma
      omega

end

open Draft

theorem Digits.head {digits : List Nat} (areDigits : Digits digits cs rest) :
    ∃ c behind, cs = c :: behind ∧ isDigit c = true := by
  cases areDigits with
  | last isDigit => exact ⟨_, _, rfl, isDigit⟩
  | cons isDigit others => exact ⟨_, _, rfl, isDigit⟩

theorem Signed.head {numeral : Numeral} (isNumeral : Signed numeral cs rest) :
    ∃ c behind, cs = c :: behind ∧ (c = '-' ∨ isDigit c = true) := by
  cases isNumeral with
  | positive notNegative isAmount =>
      obtain ⟨areDigits, -, -, -⟩ := isAmount
      obtain ⟨c, behind, rfl, isDigit⟩ := areDigits.head
      exact ⟨c, behind, rfl, .inr isDigit⟩
  | negative isNegative isAmount => exact ⟨'-', _, rfl, .inl rfl⟩

/-- What a numeral begins with is nothing else. -/
theorem apart_of_numeral {c : Char} (first : c = '-' ∨ isDigit c = true) :
    isSpace c = false ∧ c ≠ ']' ∧ c ≠ '[' ∧ c ≠ '\x7b' := by
  rcases first with rfl | isDigit
  · decide
  · have other : ∀ d, Draft.isDigit d = false → c ≠ d := by
      rintro d notDigit rfl
      rw [isDigit] at notDigit
      cases notDigit
    refine ⟨?_, other _ rfl, other _ rfl, other _ rfl⟩
    simp only [isSpace, Bool.or_eq_false_iff, decide_eq_false_iff_not]
    exact ⟨⟨⟨other _ rfl, other _ rfl⟩, other _ rfl⟩, other _ rfl⟩

/-- What a value begins with behind its spaces. -/
theorem Value.starts : {value : Json} → {cs rest : List Char} →
    Value value cs rest →
      ∃ c behind, Spaces cs (c :: behind) ∧ isSpace c = false ∧ c ≠ ']'
  | _, _, _, .space isSpace isValue => by
      obtain ⟨c, behind, spaces, apart⟩ := isValue.starts
      exact ⟨c, behind, .cons isSpace spaces, apart⟩
  | _, _, _, .null => ⟨_, _, .nil, rfl, by decide⟩
  | _, _, _, .yes => ⟨_, _, .nil, rfl, by decide⟩
  | _, _, _, .no => ⟨_, _, .nil, rfl, by decide⟩
  | _, _, _, .number isNumeral _ => by
      obtain ⟨c, behind, rfl, first⟩ := isNumeral.head
      obtain ⟨notSpace, notClosed, -, -⟩ := apart_of_numeral first
      exact ⟨c, behind, .nil, notSpace, notClosed⟩
  | _, _, _, .string _ => ⟨_, _, .nil, rfl, by decide⟩
  | _, _, _, .emptyArray _ => ⟨_, _, .nil, rfl, by decide⟩
  | _, _, _, .array _ => ⟨_, _, .nil, rfl, by decide⟩
  | _, _, _, .emptyObject _ => ⟨_, _, .nil, rfl, by decide⟩
  | _, _, _, .object _ => ⟨_, _, .nil, rfl, by decide⟩

theorem Items.starts {items : List Json} (areItems : Items items cs rest) :
    ∃ c behind, Spaces cs (c :: behind) ∧ isSpace c = false ∧ c ≠ ']' := by
  cases areItems with
  | last isValue closes => exact isValue.starts
  | cons isValue goesOn areItems => exact isValue.starts

end Grammar

end GraphTable
