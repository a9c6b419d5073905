import Mathlib.Data.Nat.Digits.Defs
import GraphTable.Config.Environment

/-!
# Texts of settings

A number is written in decimal digits, with a plus sign or zeros in front or
without, and has to fit into its number of bits; a truth value is one of two
words.  A variable that has no text leaves its setting at the default.
-/

namespace GraphTable

namespace Setting

/-- Digits that stand for a number, the most significant one first. -/
structure Digits (digits : List Char) (n : Nat) : Prop where
  notEmpty : digits ≠ []
  areDigits : ∀ c ∈ digits, '0' ≤ c ∧ c ≤ '9'
  value : Nat.ofDigits 10 (digits.reverse.map fun c => c.toNat - 48) = n

/-- A text stands for a number below a limit. -/
inductive SpellsNatural (limit : Nat) (text : String) (n : Nat) : Prop
  | plain (digits : Digits text.toList n) (small : n < limit)
  | signed {digits : List Char} (written : text.toList = '+' :: digits)
      (isNumber : Digits digits n) (small : n < limit)

/-- A text stands for a truth value. -/
inductive SpellsBool (text : String) : Bool → Prop
  | yes (isTrue : text = "true") : SpellsBool text true
  | no (isFalse : text = "false") : SpellsBool text false

variable {limit amount n : Nat} {digits : List Char} {text : String}

/-- Read digits after an amount, without a limit. -/
def follow (amount : Nat) (digits : List Char) : Nat :=
  digits.foldl (fun amount c => amount * 10 + (c.toNat - 48)) amount

theorem le_follow (amount : Nat) (digits : List Char) :
    amount ≤ follow amount digits := by
  induction digits generalizing amount with
  | nil => exact Nat.le_refl amount
  | cons c rest ih =>
      have grown : amount ≤ amount * 10 + (c.toNat - 48) := by omega
      exact Nat.le_trans grown (ih _)

theorem follow_zero (digits : List Char) :
    follow 0 digits =
      Nat.ofDigits 10 (digits.reverse.map fun c => c.toNat - 48) := by
  rw [Nat.ofDigits_eq_foldr, List.foldr_map, List.foldr_reverse, follow]
  congr 1
  funext amount c
  rw [Nat.cast_id, Nat.mul_comm, Nat.add_comm]

/-- No amount on the way is larger than the last one, so the limit is exceeded on
the way only if it is exceeded in the end. -/
theorem digitsBelow_eq_ok_iff (small : amount < limit) :
    digitsBelow limit amount digits = .ok n ↔
      (∀ c ∈ digits, '0' ≤ c ∧ c ≤ '9') ∧ follow amount digits = n ∧
        n < limit := by
  induction digits generalizing amount with
  | nil =>
      rw [digitsBelow, Except.ok.injEq]
      constructor
      · rintro rfl
        exact ⟨nofun, rfl, small⟩
      · rintro ⟨-, value, -⟩
        exact value
  | cons c rest ih =>
      rw [digitsBelow, List.forall_mem_cons]
      split
      next isDigit =>
        dsimp only
        split
        next next =>
          rw [ih next]
          simp only [isDigit, true_and, follow, List.foldl_cons]
        next tooLarge =>
          constructor
          · nofun
          · rintro ⟨-, rfl, within⟩
            have grown := le_follow (amount * 10 + (c.toNat - 48)) rest
            exact absurd (Nat.lt_of_le_of_lt grown within) tooLarge
      next notDigit =>
        constructor
        · nofun
        · rintro ⟨⟨isDigit, -⟩, -⟩
          exact absurd isDigit notDigit

theorem digitsBelow_zero_eq_ok_iff (positive : 0 < limit)
    (notEmpty : digits ≠ []) :
    digitsBelow limit 0 digits = .ok n ↔ Digits digits n ∧ n < limit := by
  rw [digitsBelow_eq_ok_iff positive, follow_zero]
  constructor
  · rintro ⟨areDigits, value, small⟩
    exact ⟨⟨notEmpty, areDigits, value⟩, small⟩
  · rintro ⟨⟨-, areDigits, value⟩, small⟩
    exact ⟨areDigits, value, small⟩

theorem not_digits_plus : ¬Digits ('+' :: digits) n := by
  intro isNumber
  exact absurd (isNumber.areDigits '+' List.mem_cons_self) (by decide)

theorem natural_eq_ok_iff (positive : 0 < limit) :
    natural limit text = .ok n ↔ SpellsNatural limit text n := by
  unfold natural
  split
  next empty =>
    constructor
    · nofun
    · rintro (⟨isNumber, -⟩ | ⟨written, -, -⟩)
      · exact absurd empty isNumber.notEmpty
      · rw [empty] at written
        cases written
  next onlyPlus =>
    constructor
    · nofun
    · rintro (⟨isNumber, -⟩ | ⟨written, isNumber, -⟩)
      · rw [onlyPlus] at isNumber
        exact absurd isNumber not_digits_plus
      · rw [onlyPlus] at written
        cases written
        exact absurd rfl isNumber.notEmpty
  next digits notAlone signed =>
    have notEmpty : digits ≠ [] := by
      rintro rfl
      exact notAlone rfl
    rw [digitsBelow_zero_eq_ok_iff positive notEmpty]
    constructor
    · rintro ⟨isNumber, small⟩
      exact .signed signed isNumber small
    · rintro (⟨isNumber, -⟩ | ⟨written, isNumber, small⟩)
      · rw [signed] at isNumber
        exact absurd isNumber not_digits_plus
      · rw [signed] at written
        cases written
        exact ⟨isNumber, small⟩
  next notEmpty _ notSigned =>
    rw [digitsBelow_zero_eq_ok_iff positive notEmpty]
    constructor
    · rintro ⟨isNumber, small⟩
      exact .plain isNumber small
    · rintro (⟨isNumber, small⟩ | ⟨written, -, -⟩)
      · exact ⟨isNumber, small⟩
      · exact absurd written (notSigned _)

theorem bool_eq_ok_iff {value : Bool} :
    bool text = .ok value ↔ SpellsBool text value := by
  constructor
  · intro accepted
    unfold bool at accepted
    split at accepted
    next isTrue =>
      cases accepted
      exact .yes isTrue
    next =>
      split at accepted
      next isFalse =>
        cases accepted
        exact .no isFalse
      next => cases accepted
  · rintro (rfl | rfl) <;> rfl

/-- Zeros and a plus sign in front do not count. -/
example : natural (Word.limit 16) "+007" = .ok 7 := by
  decide

/-- Sixteen bits are exceeded by one. -/
example : natural (Word.limit 16) "65536" = .error .integerTooLarge := by
  decide

section Read

variable {α : Type} {environment : Environment} {name : String} {default value : α}
  {parse : String → Except SettingFault α} {Spells : String → α → Prop}

/-- What a variable says: what its text stands for, or the default if it has no
text. -/
inductive Tells (environment : Environment) (name : String) (default : α)
    (Spells : String → α → Prop) : α → Prop
  | unset (noText : environment.text? name = none) :
      Tells environment name default Spells default
  | set {text : String} {value : α} (hasText : environment.text? name = some text)
      (spells : Spells text value) : Tells environment name default Spells value

theorem read_eq_ok_iff
    (exact : ∀ text value, parse text = .ok value ↔ Spells text value) :
    read environment name default parse = .ok value ↔
      Tells environment name default Spells value := by
  unfold read
  constructor
  · intro isRead
    split at isRead
    next noText =>
      cases isRead
      exact .unset noText
    next text hasText =>
      split at isRead
      next parsed =>
        cases isRead
        exact .set hasText ((exact text value).mp parsed)
      next => cases isRead
  · rintro (noText | ⟨hasText, spells⟩)
    · simp only [noText]
    · simp only [hasText, (exact _ value).mpr spells]

/-- A variable has a text that stands for nothing. -/
def Unreadable (environment : Environment) (name : String)
    (Spells : String → α → Prop) (text : String) : Prop :=
  environment.text? name = some text ∧ ∀ value, ¬Spells text value

theorem read_eq_error_iff
    (exact : ∀ text value, parse text = .ok value ↔ Spells text value)
    {error : ConfigError} :
    read environment name default parse = .error error ↔
      ∃ text fault, error = .setting name text fault ∧
        parse text = .error fault ∧ Unreadable environment name Spells text := by
  unfold read
  constructor
  · intro refused
    split at refused
    next => cases refused
    next text hasText =>
      split at refused
      next => cases refused
      next fault failed =>
        cases refused
        refine ⟨text, fault, rfl, failed, hasText, fun value spells => ?_⟩
        rw [(exact text value).mpr spells] at failed
        cases failed
  · rintro ⟨text, fault, rfl, failed, hasText, -⟩
    simp only [hasText, failed]

end Read

end Setting

end GraphTable
