import GraphTable.Text.Utf8

/-!
# Texts written as bytes

Reading the bytes of a text gives the text back, also where its characters take
two, three or four bytes.
-/

namespace GraphTable.Text

theorem utf8Lead_two : ∀ n < 32, 2 ≤ n →
    utf8Lead (UInt8.ofNat (n + 0xC0)) = some (0x80, 0xBF, 0) := by
  decide

theorem utf8Lead_three : ∀ n < 16,
    utf8Lead (UInt8.ofNat (n + 0xE0)) = some
      (UInt8.ofNat (if n = 0 then 0xA0 else 0x80),
        UInt8.ofNat (if n = 13 then 0x9F else 0xBF), 1) := by
  decide

theorem utf8Lead_four : ∀ n < 5,
    utf8Lead (UInt8.ofNat (n + 0xF0)) = some
      (UInt8.ofNat (if n = 0 then 0x90 else 0x80),
        UInt8.ofNat (if n = 4 then 0x8F else 0xBF), 2) := by
  decide

theorem ofNat_between (low high : Nat) {n : Nat} (notLess : low ≤ n)
    (notMore : n ≤ high) (small : high < 256) :
    UInt8.ofNat low ≤ UInt8.ofNat n ∧ UInt8.ofNat n ≤ UInt8.ofNat high := by
  have size : UInt8.size = 256 := rfl
  constructor
  · rw [UInt8.ofNat_le_iff_le (by omega) (by omega)]
    exact notLess
  · rw [UInt8.ofNat_le_iff_le (by omega) (by omega)]
    exact notMore

theorem utf8Tail_cons {n : Nat} (small : n < 64) (seen missing point : Nat)
    (rest : List UInt8) :
    utf8Tail seen (missing + 1) point (UInt8.ofNat (n + 0x80) :: rest) =
      utf8Tail (seen + 1) missing (point * 64 + n) rest := by
  have between : (0x80 : UInt8) ≤ UInt8.ofNat (n + 0x80) ∧
      UInt8.ofNat (n + 0x80) ≤ 0xBF :=
    ofNat_between 0x80 0xBF (by omega) (by omega) (by omega)
  have value : (UInt8.ofNat (n + 0x80)).toNat = n + 0x80 :=
    UInt8.toNat_ofNat_of_lt' (show n + 0x80 < 256 by omega)
  rw [utf8Tail, if_pos between, value, Nat.add_sub_cancel]

theorem utf8Char_ascii {n : Nat} (small : n < 0x80) (rest : List UInt8) :
    utf8Char (UInt8.ofNat n) rest = .ok (n, rest) := by
  have size : UInt8.size = 256 := rfl
  have isAscii : UInt8.ofNat n < 0x80 :=
    (UInt8.ofNat_lt_iff_lt (by omega) (show 0x80 < 256 by omega)).mpr small
  have value : (UInt8.ofNat n).toNat = n :=
    UInt8.toNat_ofNat_of_lt' (show n < 256 by omega)
  rw [utf8Char, if_pos isAscii, value]

/-- The first two bytes of a character.  `n` and `m` are the bits that they
carry besides the marks of their places. -/
theorem utf8Char_cons (low high : Nat) {n m missing mark : Nat}
    (isLead : utf8Lead (UInt8.ofNat (n + mark)) =
      some (UInt8.ofNat low, UInt8.ofNat high, missing))
    (isMark : (if missing = 0 then 0xC0 else if missing = 1 then 0xE0
      else 0xF0) = mark)
    (fits : n + mark < 256) (notLess : low ≤ m + 0x80)
    (notMore : m + 0x80 ≤ high) (small : high < 256) (rest : List UInt8) :
    utf8Char (UInt8.ofNat (n + mark)) (UInt8.ofNat (m + 0x80) :: rest) =
      utf8Tail 2 missing (n * 64 + m) rest := by
  have size : UInt8.size = 256 := rfl
  have marked : 0x80 ≤ mark := by
    rw [← isMark]
    split
    · omega
    · split <;> omega
  have notAscii : ¬UInt8.ofNat (n + mark) < 0x80 := by
    have least : (0x80 : UInt8) ≤ UInt8.ofNat (n + mark) :=
      (UInt8.ofNat_le_iff_le (show 0x80 < 256 by omega) fits).mpr
        (Nat.le_add_left_of_le marked)
    exact UInt8.not_lt.mpr least
  have between := ofNat_between low high notLess notMore small
  have first : (UInt8.ofNat (n + mark)).toNat = n + mark :=
    UInt8.toNat_ofNat_of_lt' (show n + mark < 256 by omega)
  have second : (UInt8.ofNat (m + 0x80)).toNat = m + 0x80 :=
    UInt8.toNat_ofNat_of_lt' (show m + 0x80 < 256 by omega)
  rw [utf8Char, if_neg notAscii, isLead]
  simp only [if_pos between, isMark, first, second, Nat.add_sub_cancel]

/-- The first byte of a character and the bytes behind it are read as the
character. -/
theorem utf8Char_utf8EncodeChar (c : Char) :
    ∃ first others, String.utf8EncodeChar c = first :: others ∧
      ∀ rest, utf8Char first (others ++ rest) = .ok (c.toNat, rest) := by
  have valid : c.toNat < 0xD800 ∨ 0xDFFF < c.toNat ∧ c.toNat < 0x110000 :=
    c.valid
  unfold String.utf8EncodeChar
  rw [show c.val.toNat = c.toNat from rfl]
  generalize c.toNat = point at valid
  dsimp only
  split
  · exact ⟨_, _, rfl, fun rest => utf8Char_ascii (by omega) rest⟩
  split
  · refine ⟨_, _, rfl, fun rest => ?_⟩
    rw [List.cons_append, List.nil_append,
      utf8Char_cons 0x80 0xBF (utf8Lead_two _ (by omega) (by omega)) rfl
        (by omega) (by omega) (by omega) (by omega),
      utf8Tail]
    congr 2
    omega
  split
  · refine ⟨_, _, rfl, fun rest => ?_⟩
    rw [List.cons_append, List.cons_append, List.nil_append,
      utf8Char_cons _ _ (utf8Lead_three _ (by omega)) rfl (by omega)
        (by split <;> omega) (by split <;> omega) (by split <;> omega),
      utf8Tail_cons (by omega), utf8Tail]
    congr 2
    omega
  · refine ⟨_, _, rfl, fun rest => ?_⟩
    rw [List.cons_append, List.cons_append, List.cons_append, List.nil_append,
      utf8Char_cons _ _ (utf8Lead_four _ (by omega)) rfl (by omega)
        (by split <;> omega) (by split <;> omega) (by split <;> omega),
      utf8Tail_cons (by omega), utf8Tail_cons (by omega), utf8Tail]
    congr 2
    omega

theorem utf8Chars_flatMap (cs : List Char) {fuel : Nat}
    (enough : cs.length ≤ fuel) (index : Nat) :
    utf8Chars fuel index (cs.flatMap String.utf8EncodeChar) = .ok cs := by
  induction cs generalizing fuel index with
  | nil => cases fuel <;> rfl
  | cons c cs ih =>
      obtain ⟨less, rfl⟩ : ∃ less, fuel = less + 1 :=
        ⟨fuel - 1, by rw [List.length_cons] at enough; omega⟩
      obtain ⟨first, others, bytes, isRead⟩ := utf8Char_utf8EncodeChar c
      rw [List.length_cons] at enough
      rw [List.flatMap_cons, bytes, List.cons_append, utf8Chars, isRead]
      simp only [ih (Nat.le_of_succ_le_succ enough), Char.ofNat_toNat]

theorem length_le_utf8 (cs : List Char) :
    cs.length ≤ (cs.flatMap String.utf8EncodeChar).length := by
  induction cs with
  | nil => exact Nat.le_refl _
  | cons c cs ih =>
      obtain ⟨first, others, bytes, _⟩ := utf8Char_utf8EncodeChar c
      rw [List.flatMap_cons, bytes, List.cons_append, List.length_cons,
        List.length_cons, List.length_append]
      omega

/-- A text that is written as bytes is read back. -/
theorem decodeUtf8_encodeUtf8 (text : String) :
    decodeUtf8 (encodeUtf8 text) = .ok text := by
  rw [decodeUtf8, encodeUtf8, utf8Chars_flatMap _ (length_le_utf8 _)]
  simp [Except.map]

end GraphTable.Text
