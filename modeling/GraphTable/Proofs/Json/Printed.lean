import GraphTable.Json.Printer
import GraphTable.Proofs.Json.Reading

/-!
# Printed values

A value is printed as a text of it.  Of its numbers it is only asked that each is
printed as a numeral that stands for it, as integers of 64 bits are.
-/

namespace GraphTable

namespace Grammar

open Draft

variable {rest : List Char}

theorem hexValue?_hexDigit :
    ∀ n < 16, hexValue? (Text.hexDigit n) = some n := by
  decide

theorem codeUnit?_hexDigit {n : Nat} (small : n < 0x20) :
    codeUnit? '0' '0' (Text.hexDigit (n / 16)) (Text.hexDigit (n % 16)) =
      some n := by
  have zero : hexValue? '0' = some 0 := by decide
  have high := hexValue?_hexDigit (n / 16) (by omega)
  have low := hexValue?_hexDigit (n % 16) (by omega)
  simp only [codeUnit?, zero, high, low, Option.bind_eq_bind, Option.bind_some,
    Option.pure_def, Option.some.injEq]
  omega

theorem toNat_lt_of_control {c : Char} (isControl : c < ' ') :
    c.toNat < 0x20 :=
  isControl

/-- A character of a string is printed as itself, as its short escape or as its
code unit. -/
theorem Chars.cons_writeChar {content cs : List Char} (c : Char)
    (chars : Chars content cs rest) :
    Chars (c :: content) (Json.writeChar c ++ cs) rest := by
  unfold Json.writeChar
  split
  next quote => exact .short (by rw [quote]; rfl) chars
  split
  next backslash => exact .short (by rw [backslash]; rfl) chars
  split
  next backspace => exact .short (by rw [backspace]; rfl) chars
  split
  next tab => exact .short (by rw [tab]; rfl) chars
  split
  next lineFeed => exact .short (by rw [lineFeed]; rfl) chars
  split
  next formFeed => exact .short (by rw [formFeed]; rfl) chars
  split
  next carriageReturn => exact .short (by rw [carriageReturn]; rfl) chars
  split
  next isControl =>
    have small := toNat_lt_of_control isControl
    have notHigh : isHighUnit c.toNat = false := by
      simp only [isHighUnit, Bool.and_eq_false_iff, decide_eq_false_iff_not]
      omega
    have notLow : isLowUnit c.toNat = false := by
      simp only [isLowUnit, Bool.and_eq_false_iff, decide_eq_false_iff_not]
      omega
    have unit := Chars.unit (codeUnit?_hexDigit small) notHigh notLow chars
    rw [Char.ofNat_toNat] at unit
    exact unit
  next notQuote notBackslash _ _ _ _ _ notControl =>
    exact .plain notQuote notBackslash notControl chars

theorem Chars.written (cs rest : List Char) :
    Chars cs (cs.flatMap Json.writeChar ++ '"' :: rest) rest := by
  induction cs with
  | nil => exact .closed
  | cons c cs ih =>
      rw [List.flatMap_cons, List.append_assoc]
      exact ih.cons_writeChar c

theorem writeString_append (text : String) (rest : List Char) :
    Json.writeString text ++ rest =
      '"' :: (text.toList.flatMap Json.writeChar ++ '"' :: rest) := by
  rw [Json.writeString, List.cons_append, List.cons_append, List.append_assoc,
    List.singleton_append]

theorem Name.written (name : String) (rest : List Char) :
    Name name (Json.writeString name ++ ':' :: rest) rest := by
  have areChars := Chars.written name.toList (':' :: rest)
  have isName := Name.mk .nil areChars .nil
  rw [String.ofList_toList] at isName
  rw [writeString_append]
  exact isName

theorem Value.written_string (text : String) (rest : List Char) :
    Value (.string text) (Json.writeString text ++ rest) rest := by
  have isString := Value.string (Chars.written text.toList rest)
  rw [String.ofList_toList] at isString
  rw [writeString_append]
  exact isString

def digitValues (cs : List Char) : List Nat :=
  cs.map fun c => c.toNat - 48

theorem Digits.of_isDigit {cs : List Char} (notEmpty : cs ≠ [])
    (areDigits : ∀ c ∈ cs, isDigit c = true) (rest : List Char) :
    Digits (digitValues cs) (cs ++ rest) rest := by
  induction cs with
  | nil => exact absurd rfl notEmpty
  | cons c cs ih =>
      obtain ⟨isDigit, others⟩ := List.forall_mem_cons.mp areDigits
      cases cs with
      | nil => exact .last isDigit
      | cons d cs => exact .cons isDigit (ih (List.cons_ne_nil d cs) others)

theorem isDigit_of_mem_toDigits {n : Nat} :
    ∀ c ∈ Nat.toDigits 10 n, isDigit c = true := by
  intro c mem
  have isDigit := Nat.isDigit_of_mem_toDigits (by decide) (by decide) mem
  rw [Char.isDigit, Bool.and_eq_true, decide_eq_true_eq,
    decide_eq_true_eq] at isDigit
  rw [Draft.isDigit, Bool.and_eq_true, decide_eq_true_eq, decide_eq_true_eq]
  exact isDigit

theorem digits_toDigits (n : Nat) (rest : List Char) :
    Digits (digitValues (Nat.toDigits 10 n)) (Nat.toDigits 10 n ++ rest) rest :=
  .of_isDigit Nat.toDigits_ne_nil isDigit_of_mem_toDigits rest

/-- Only zero begins with a zero. -/
theorem exists_first_digit {n : Nat} (positive : 0 < n) :
    ∃ digit digits,
      digitValues (Nat.toDigits 10 n) = digit :: digits ∧ digit ≠ 0 := by
  induction n using Nat.strongRecOn with
  | ind n ih =>
      by_cases small : n < 10
      · rw [Nat.toDigits_of_lt_base small]
        have notZero : ∀ n < 10, 0 < n → (Nat.digitChar n).toNat - 48 ≠ 0 := by
          decide
        exact ⟨_, [], rfl, notZero n small positive⟩
      · rw [Nat.toDigits_of_base_le (by decide) (by omega)]
        obtain ⟨digit, digits, split, notZero⟩ := ih (n / 10) (by omega) (by omega)
        refine ⟨digit, digits ++ digitValues [Nat.digitChar (n % 10)], ?_, notZero⟩
        rw [digitValues, List.map_append, ← digitValues, split]
        rfl

theorem noZeroInFront_toDigits (n digit : Nat) (digits : List Nat) :
    digitValues (Nat.toDigits 10 n) ≠ 0 :: digit :: digits := by
  intro same
  rcases Nat.eq_zero_or_pos n with rfl | positive
  · cases same
  · obtain ⟨first, others, split, notZero⟩ := exists_first_digit positive
    rw [same] at split
    exact notZero (List.cons.inj split).1.symm

theorem le_foldl_digits (amount : Nat) (digits : List Nat) :
    amount ≤ digits.foldl (fun n d => n * 10 + d) amount := by
  induction digits generalizing amount with
  | nil => exact Nat.le_refl amount
  | cons digit digits ih =>
      have grown : amount ≤ amount * 10 + digit := by omega
      exact Nat.le_trans grown (ih _)

/-- All digits are gathered if what they amount to is small. -/
theorem gather_eq {amount : Nat} {digits : List Nat}
    (small : digits.foldl (fun n d => n * 10 + d) amount < Word.limit 64) :
    Numeral.gather amount digits =
      (digits.foldl (fun n d => n * 10 + d) amount, []) := by
  induction digits generalizing amount with
  | nil => rfl
  | cons digit digits ih =>
      have next : amount * 10 + digit < Word.limit 64 :=
        Nat.lt_of_le_of_lt (le_foldl_digits _ digits) small
      rw [Numeral.gather, if_pos next, ih small]
      rfl

theorem gather_toDigits {n : Nat} (small : n < Word.limit 64) :
    Numeral.gather 0 (digitValues (Nat.toDigits 10 n)) = (n, []) := by
  have value :
      (digitValues (Nat.toDigits 10 n)).foldl (fun n d => n * 10 + d) 0 = n := by
    have read : Nat.ofDigitChars 10 (Nat.toDigits 10 n) 0 = n :=
      Nat.ofDigitChars_ten_toDigits
    have zero : '0'.toNat = 48 := rfl
    rw [digitValues, List.foldl_map]
    simpa only [Nat.ofDigitChars, Nat.mul_comm, zero] using read
  rw [gather_eq (by rw [value]; exact small), value]

def wholeNumeral (negative : Bool) (n : Nat) : Numeral :=
  ⟨negative, digitValues (Nat.toDigits 10 n), none, none⟩

theorem unsigned_wholeNumeral (negative : Bool) (n : Nat) (rest : List Char) :
    Unsigned (wholeNumeral negative n) (Nat.toDigits 10 n ++ rest) rest :=
  .mk (digits_toDigits n rest) (noZeroInFront_toDigits n) .absent .absent

end Grammar

/-- A number is printed as a numeral that stands for it. -/
def Number.Printed (number : Number) : Prop :=
  ∃ numeral : Numeral, numeral.value? = some number ∧
    ∀ rest, Grammar.Signed numeral (Json.writeNumber number ++ rest) rest

open Grammar in
theorem Number.printed_int {n : Int} (notBelow : -(Word.limit 63 : Int) ≤ n)
    (notAbove : n < Word.limit 64) : (Number.int n).Printed := by
  cases n with
  | ofNat n =>
      have small : n < Word.limit 64 := Int.ofNat_lt.mp notAbove
      refine ⟨wholeNumeral false n, ?_, fun rest => ?_⟩
      · simp [Numeral.value?, wholeNumeral, gather_toDigits small]
      · rw [Json.writeNumber, Int.toString_eq_repr, Int.repr, Nat.toList_repr]
        exact .positive rfl (unsigned_wholeNumeral false n rest)
  | negSucc n =>
      have within : ¬Word.limit 63 < n + 1 := by omega
      have wider : Word.limit 63 < Word.limit 64 := by decide
      have small : n + 1 < Word.limit 64 := by omega
      refine ⟨wholeNumeral true (n + 1), ?_, fun rest => ?_⟩
      · simp only [Numeral.value?, wholeNumeral, gather_toDigits small, within]
        rfl
      · rw [Json.writeNumber, Int.toString_eq_repr, Int.repr, String.toList_append,
          Nat.toList_repr]
        exact .negative rfl (unsigned_wholeNumeral true (n + 1) rest)

/-- A value whose numbers are printed as numerals that stand for them. -/
inductive Json.Printed : Json → Prop
  | null : Printed .null
  | bool {value : Bool} : Printed (.bool value)
  | number {number : Number} (isPrinted : number.Printed) : Printed (.number number)
  | string {text : String} : Printed (.string text)
  | array {items : List Json} (arePrinted : ∀ item ∈ items, Printed item) :
      Printed (.array items)
  | object {members : Entries Json}
      (arePrinted : ∀ member ∈ members, Printed member.2) :
      Printed (.object members)

namespace Grammar

/-- What is printed of a value is a text of it, whatever stands behind. -/
def Separate (value : Json) : Prop :=
  ∀ rest, Value value (Json.writeValue value ++ rest) rest

theorem Items.written {item : Json} {items : List Json} (first : Separate item)
    (others : ∀ other ∈ items, Separate other) (rest : List Char) :
    Items (item :: items)
      (Json.writeValue item ++ (Json.writeItems items ++ rest)) rest := by
  induction items generalizing item with
  | nil => exact .last (first _) .nil
  | cons next items ih =>
      obtain ⟨nextSeparate, othersSeparate⟩ := List.forall_mem_cons.mp others
      rw [Json.writeItems, List.cons_append, List.cons_append, List.append_assoc]
      exact .cons (first _) .nil (ih nextSeparate othersSeparate)

theorem Members.written {name : String} {value : Json} {members : Entries Json}
    (first : Separate value) (others : ∀ other ∈ members, Separate other.2)
    (rest : List Char) :
    Members ((name, value) :: members)
      (Json.writeString name ++ ':' ::
        (Json.writeValue value ++ (Json.writeMembers members ++ rest))) rest := by
  induction members generalizing name value with
  | nil => exact .last (Name.written name _) (first _) .nil
  | cons next members ih =>
      obtain ⟨nextName, nextValue⟩ := next
      obtain ⟨nextSeparate, othersSeparate⟩ := List.forall_mem_cons.mp others
      simp only [Json.writeMembers, List.cons_append, List.append_assoc]
      exact .cons (Name.written name _) (first _) .nil (ih nextSeparate othersSeparate)

theorem Value.written {value : Json} (isPrinted : value.Printed) :
    Separate value := by
  induction isPrinted with
  | null => exact fun rest => .null
  | @bool value => cases value with
    | true => exact fun rest => .yes
    | false => exact fun rest => .no
  | number isPrinted =>
      obtain ⟨numeral, standsFor, isNumeral⟩ := isPrinted
      exact fun rest => .number (isNumeral rest) standsFor
  | @string text => exact Value.written_string text
  | @array items arePrinted ih =>
      intro rest
      cases items with
      | nil => exact .emptyArray .nil
      | cons item items =>
          obtain ⟨first, others⟩ := List.forall_mem_cons.mp ih
          rw [Json.writeValue, List.cons_append, List.cons_append,
            List.append_assoc]
          exact .array (Items.written first others rest)
  | @object members arePrinted ih =>
      intro rest
      cases members with
      | nil => exact .emptyObject .nil
      | cons member members =>
          obtain ⟨name, value⟩ := member
          obtain ⟨first, others⟩ := List.forall_mem_cons.mp ih
          simp only [Json.writeValue, List.cons_append, List.append_assoc]
          exact .object (Members.written first others rest)

/-- What is printed is a text of the value. -/
theorem text_write {value : Json} (isPrinted : value.Printed) :
    Text value.write value := by
  have isValue := Value.written isPrinted []
  rw [List.append_nil] at isValue
  refine .mk ?_ .nil
  rw [Json.write, String.toList_ofList]
  exact isValue

end Grammar

/-- What is printed is read back, unless it is nested too deeply or names a member
twice. -/
theorem Json.parse_write {value : Json} {levels : Nat}
    (isPrinted : value.Printed) (fits : value.Fits levels)
    (shallow : levels < Draft.depthLimit) : parse value.write = .ok value :=
  (Grammar.text_write isPrinted).parse_eq fits shallow

end GraphTable
