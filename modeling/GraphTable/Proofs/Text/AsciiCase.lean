import Mathlib.Data.List.Forall2
import GraphTable.Text.AsciiCase

/-!
# Texts in other letter cases

Two texts have the same small letters when they agree character by character but
for the case of ASCII letters.
-/

namespace GraphTable.Text

variable {c d : Char} {s t : String}

/-- Two characters are the same, or the capital and the small form of one ASCII
letter. -/
inductive SameLetter : Char → Char → Prop
  | same (c : Char) : SameLetter c c
  | capital {big small : Char} (isCapital : 'A' ≤ big ∧ big ≤ 'Z')
      (paired : small.toNat = big.toNat + 32) : SameLetter big small
  | small {big small : Char} (isCapital : 'A' ≤ big ∧ big ≤ 'Z')
      (paired : small.toNat = big.toNat + 32) : SameLetter small big

/-- Two texts agree but for the case of ASCII letters. -/
def SameLetters (s t : String) : Prop :=
  List.Forall₂ SameLetter s.toList t.toList

theorem toNat_of_capital (isCapital : 'A' ≤ c ∧ c ≤ 'Z') :
    65 ≤ c.toNat ∧ c.toNat ≤ 90 :=
  isCapital

theorem lowerChar_of_capital (isCapital : 'A' ≤ c ∧ c ≤ 'Z') :
    (lowerChar c).toNat = c.toNat + 32 := by
  have bounds := toNat_of_capital isCapital
  have valid : (c.toNat + 32).isValidChar := .inl (by omega)
  rw [lowerChar, if_pos isCapital, Char.ofNat, dif_pos valid]
  rfl

theorem lowerChar_of_not_capital (notCapital : ¬('A' ≤ c ∧ c ≤ 'Z')) :
    lowerChar c = c :=
  if_neg notCapital

/-- The small form of a letter is no capital. -/
theorem lowerChar_of_paired (isCapital : 'A' ≤ c ∧ c ≤ 'Z')
    (paired : d.toNat = c.toNat + 32) : lowerChar d = lowerChar c := by
  have bounds := toNat_of_capital isCapital
  have notCapital : ¬('A' ≤ d ∧ d ≤ 'Z') := by
    intro isCapital
    have others := toNat_of_capital isCapital
    omega
  rw [lowerChar_of_not_capital notCapital]
  apply Char.toNat_inj.mp
  rw [lowerChar_of_capital isCapital, paired]

theorem lowerChar_eq_iff : lowerChar c = lowerChar d ↔ SameLetter c d := by
  constructor
  · intro same
    have numbers := congrArg Char.toNat same
    by_cases capital : 'A' ≤ c ∧ c ≤ 'Z'
    · rw [lowerChar_of_capital capital] at numbers
      by_cases otherCapital : 'A' ≤ d ∧ d ≤ 'Z'
      · rw [lowerChar_of_capital otherCapital] at numbers
        obtain rfl : c = d := Char.toNat_inj.mp (Nat.add_right_cancel numbers)
        exact .same c
      · rw [lowerChar_of_not_capital otherCapital] at numbers
        exact .capital capital numbers.symm
    · rw [lowerChar_of_not_capital capital] at same numbers
      by_cases otherCapital : 'A' ≤ d ∧ d ≤ 'Z'
      · rw [lowerChar_of_capital otherCapital] at numbers
        exact .small otherCapital numbers
      · rw [lowerChar_of_not_capital otherCapital] at same
        exact same ▸ .same c
  · rintro (_ | ⟨isCapital, paired⟩ | ⟨isCapital, paired⟩)
    · rfl
    · exact (lowerChar_of_paired isCapital paired).symm
    · exact lowerChar_of_paired isCapital paired

theorem lower_eq_iff : lower s = lower t ↔ SameLetters s t := by
  rw [lower, lower, String.ofList_inj, SameLetters, ← List.forall₂_eq_eq_eq,
    List.forall₂_map_left_iff, List.forall₂_map_right_iff]
  simp only [lowerChar_eq_iff]

end GraphTable.Text
