import GraphTable.Proofs.Json.Depicted
import GraphTable.Proofs.Json.Grammar

/-!
# Every JSON text is read

A text of a value is read to its end, and the draft depicts the value.  Each part
of a text is read up to what is left of the text behind it.  The induction is on
the derivation of the text, and the fuel lasts, as each part takes a character.
-/

namespace GraphTable

namespace Draft

theorem skipSpace_cons {c : Char} (notSpace : isSpace c = false)
    (rest : List Char) : skipSpace (c :: rest) = c :: rest := by
  rw [skipSpace, List.dropWhile_cons, notSpace, if_neg Bool.false_ne_true]

section StringStep

variable {c d : Char} {seen pieces : List Piece} {content rest : List Char}

theorem readString_quote (seen : List Piece) (rest : List Char) :
    readString seen ('"' :: rest) = (⟨seen.reverse, none⟩, some rest) := by
  rw [readString]

theorem readString_plain (notQuote : c ≠ '"') (notBackslash : c ≠ '\\')
    (notControl : ¬c < ' ') :
    readString seen (c :: rest) = readString (.char c :: seen) rest := by
  rw [readString, if_neg notControl]
  · exact notQuote
  all_goals simp [notBackslash]

theorem readString_short (escapes : shortEscape? d = some c) :
    readString seen ('\\' :: d :: rest) = readString (.char c :: seen) rest := by
  have notUnit : d ≠ 'u' := by
    rintro rfl
    cases escapes
  rw [readString, escapes]
  all_goals simp [notUnit]

theorem readPieces_char (areRead : readPieces none pieces = .ok content) :
    readPieces none (.char c :: pieces) = .ok (c :: content) := by
  rw [readPieces, areRead, Except.map]

theorem readPieces_unit {n : Nat}
    (notHigh : isHighUnit n = false) (notLow : isLowUnit n = false)
    (areRead : readPieces none pieces = .ok content) :
    readPieces none (.unit n :: pieces) = .ok (Char.ofNat n :: content) := by
  unfold readPieces
  simp only [notHigh, notLow, areRead, Bool.false_eq_true, if_false, Except.map]

theorem readPieces_pair {high low : Nat}
    (isHigh : isHighUnit high = true) (isLow : isLowUnit low = true)
    (areRead : readPieces none pieces = .ok content) :
    readPieces none (.unit high :: .unit low :: pieces) =
      .ok (joinUnits high low :: content) := by
  have notLow : isLowUnit high = false := by
    simp only [isHighUnit, isLowUnit, Bool.and_eq_true, decide_eq_true_eq,
      Bool.and_eq_false_iff, decide_eq_false_iff_not] at isHigh ⊢
    omega
  unfold readPieces
  simp only [isHigh, notLow, isLow, areRead, Bool.false_eq_true, if_true, if_false,
    Except.map]

end StringStep

end Draft

namespace Grammar

open Draft

variable {content cs rest : List Char}

theorem Spaces.skipSpace_eq (spaces : Spaces cs rest) :
    skipSpace cs = skipSpace rest := by
  induction spaces with
  | nil => rfl
  | cons isSpace others ih =>
      rw [← ih, skipSpace, List.dropWhile_cons_of_pos isSpace, skipSpace]

/-- Up to a character that is none, spaces are skipped. -/
theorem Spaces.skipSpace_cons {c : Char} (spaces : Spaces cs (c :: rest))
    (notSpace : isSpace c = false) : skipSpace cs = c :: rest := by
  rw [spaces.skipSpace_eq, Draft.skipSpace_cons notSpace]

/-- The characters of a string are read up to the closing quote. -/
theorem Chars.isRead (chars : Chars content cs rest) :
    ∃ pieces, readPieces none pieces = .ok content ∧ ∀ seen,
      readString seen cs = (⟨seen.reverse ++ pieces, none⟩, some rest) := by
  induction chars with
  | closed =>
      refine ⟨[], rfl, fun seen => ?_⟩
      rw [List.append_nil]
      exact readString_quote seen _
  | plain notQuote notBackslash notControl others ih =>
      obtain ⟨pieces, areRead, isRead⟩ := ih
      refine ⟨_, readPieces_char areRead, fun seen => ?_⟩
      rw [readString_plain notQuote notBackslash notControl, isRead,
        List.reverse_cons, List.append_assoc, List.singleton_append]
  | short escapes others ih =>
      obtain ⟨pieces, areRead, isRead⟩ := ih
      refine ⟨_, readPieces_char areRead, fun seen => ?_⟩
      rw [readString_short escapes, isRead, List.reverse_cons, List.append_assoc,
        List.singleton_append]
  | unit isUnit notHigh notLow others ih =>
      obtain ⟨pieces, areRead, isRead⟩ := ih
      refine ⟨_, readPieces_unit notHigh notLow areRead, fun seen => ?_⟩
      rw [readString, isUnit]
      simp only [isRead, List.reverse_cons, List.append_assoc,
        List.singleton_append]
  | pair isUnit isHigh nextIsUnit isLow others ih =>
      obtain ⟨pieces, areRead, isRead⟩ := ih
      refine ⟨_, readPieces_pair isHigh isLow areRead, fun seen => ?_⟩
      rw [readString, isUnit]
      simp only
      rw [readString, nextIsUnit]
      simp only [isRead, List.reverse_cons, List.append_assoc, List.cons_append,
        List.nil_append]

theorem Chars.exists_raw (chars : Chars content cs rest) :
    ∃ raw : RawString, raw.text = .ok (String.ofList content) ∧
      readString [] cs = (raw, some rest) := by
  obtain ⟨pieces, areRead, isRead⟩ := chars.isRead
  refine ⟨⟨pieces, none⟩, ?_, isRead []⟩
  rw [RawString.text, areRead, Except.map]

/-- Nothing that a numeral could go on with. -/
def Ends (cs : List Char) : Prop :=
  ∀ c ∈ cs.head?, isDigit c = false ∧ c ≠ '.' ∧ c ≠ 'e' ∧ c ≠ 'E'

theorem ends_nil : Ends [] :=
  nofun

theorem ends_cons {c : Char}
    (ends : isDigit c = false ∧ c ≠ '.' ∧ c ≠ 'e' ∧ c ≠ 'E') :
    Ends (c :: rest) := by
  rintro _ ⟨⟩
  exact ends

theorem Spaces.ends (spaces : Spaces cs rest) (ends : Ends rest) : Ends cs := by
  cases spaces with
  | nil => exact ends
  | @cons c cs rest isSpace others =>
      refine ends_cons ?_
      simp only [Draft.isSpace, Bool.or_eq_true, decide_eq_true_eq] at isSpace
      rcases isSpace with ((rfl | rfl) | rfl) | rfl <;> decide

theorem Digits.takeDigits_eq {digits : List Nat} (areDigits : Digits digits cs rest)
    (ends : ∀ c ∈ rest.head?, isDigit c = false) :
    takeDigits cs = (digits, rest) := by
  induction areDigits with
  | @last c rest isDigit =>
      cases rest with
      | nil => simp [takeDigits, isDigit]
      | cons d rest =>
          have stops := ends d rfl
          simp [takeDigits, isDigit, stops]
  | cons isDigit others ih =>
      have same := ih ends
      simp only [takeDigits, Prod.mk.injEq] at same
      simp [takeDigits, isDigit, same.1, same.2]

theorem Digits.ne_nil {digits : List Nat} (areDigits : Digits digits cs rest) :
    digits ≠ [] := by
  cases areDigits <;> exact List.cons_ne_nil _ _

theorem Exponent.head {exponent : Option (Bool × List Nat)}
    (hasExponent : Exponent exponent cs rest) (ends : Ends rest) :
    ∀ c ∈ cs.head?, isDigit c = false ∧ c ≠ '.' := by
  rintro c isHead
  cases hasExponent with
  | absent => exact ⟨(ends c isHead).1, (ends c isHead).2.1⟩
  | present marks hasSign areDigits =>
      cases isHead
      rcases marks with rfl | rfl <;> decide

theorem Fraction.head {fraction : Option (List Nat)} {behind : List Char}
    (hasFraction : Fraction fraction cs behind)
    (next : ∀ c ∈ behind.head?, isDigit c = false) :
    ∀ c ∈ cs.head?, isDigit c = false := by
  cases hasFraction with
  | absent => exact next
  | present areDigits =>
      rintro _ ⟨⟩
      decide

theorem Exponent.isRead {exponent : Option (Bool × List Nat)} {negative : Bool}
    {whole : List Nat} {fraction : Option (List Nat)}
    (hasExponent : Exponent exponent cs rest) (ends : Ends rest) :
    readExponent ⟨negative, whole, fraction, none⟩ cs =
      (.number ⟨negative, whole, fraction, exponent⟩, some rest) := by
  have stops : ∀ c ∈ rest.head?, isDigit c = false := fun c isHead =>
    (ends c isHead).1
  cases hasExponent with
  | absent =>
      cases cs with
      | nil => rfl
      | cons c rest =>
          obtain ⟨-, -, notSmall, notLarge⟩ := ends c rfl
          unfold readExponent
          simp only [notSmall, notLarge, or_self, if_false]
  | present marks hasSign areDigits =>
      cases hasSign with
      | absent =>
          obtain ⟨c, behind, rfl, isDigit⟩ := areDigits.head
          rw [readExponent, if_pos marks]
          · simp [areDigits.takeDigits_eq stops, areDigits.ne_nil]
          · rintro _ ⟨⟩
            cases isDigit
          · rintro _ ⟨⟩
            cases isDigit
      | plus =>
          unfold readExponent
          simp [marks, areDigits.takeDigits_eq stops, areDigits.ne_nil]
      | minus =>
          unfold readExponent
          simp [marks, areDigits.takeDigits_eq stops, areDigits.ne_nil]

theorem Fraction.isRead {fraction : Option (List Nat)}
    {exponent : Option (Bool × List Nat)} {negative : Bool} {whole : List Nat}
    {behind : List Char} (hasFraction : Fraction fraction cs behind)
    (hasExponent : Exponent exponent behind rest) (ends : Ends rest) :
    readFraction ⟨negative, whole, none, none⟩ cs =
      (.number ⟨negative, whole, fraction, exponent⟩, some rest) := by
  cases hasFraction with
  | absent =>
      unfold readFraction
      split
      next cs behind =>
        exact absurd rfl (hasExponent.head ends '.' rfl).2
      next => exact hasExponent.isRead ends
  | @present digits cs rest areDigits =>
      have stops := fun c isHead => (hasExponent.head ends c isHead).1
      unfold readFraction
      simp [areDigits.takeDigits_eq stops, areDigits.ne_nil,
        hasExponent.isRead ends]

theorem Unsigned.isRead {numeral : Numeral} (isAmount : Unsigned numeral cs rest)
    (ends : Ends rest) :
    readNumeral numeral.negative cs = (.number numeral, some rest) := by
  obtain ⟨areDigits, noZeroInFront, hasFraction, hasExponent⟩ := isAmount
  have stops := hasFraction.head fun c isHead => (hasExponent.head ends c isHead).1
  unfold readNumeral
  rw [areDigits.takeDigits_eq stops]
  split
  next empty =>
    cases empty
    exact absurd rfl areDigits.ne_nil
  next zero =>
    cases zero
    exact absurd rfl (noZeroInFront _ _)
  next same =>
    cases same
    exact hasFraction.isRead hasExponent ends

theorem Signed.readScalar_eq {numeral : Numeral} {c : Char}
    (isNumeral : Signed numeral (c :: cs) rest) (ends : Ends rest) :
    readScalar c cs = (.number numeral, some rest) := by
  cases isNumeral with
  | positive notNegative isAmount =>
      have read := isAmount.isRead ends
      rw [notNegative] at read
      obtain ⟨areDigits, -, -, -⟩ := isAmount
      obtain ⟨_, _, ⟨⟩, isDigit⟩ := areDigits.head
      have notQuote : c ≠ '"' := by
        rintro rfl
        cases isDigit
      have notMinus : c ≠ '-' := by
        rintro rfl
        cases isDigit
      rw [readScalar, if_neg notQuote, if_neg notMinus, if_pos isDigit, read]
  | negative isNegative isAmount =>
      have read := isAmount.isRead ends
      rw [isNegative] at read
      exact read

end Grammar

namespace Draft

section Step

variable {fuel depth : Nat} {afterComma : Bool} {c : Char}
  {cs text behindName valueText behind others rest : List Char}
  {raw : RawString} {draft : Draft} {drafts : List Draft}
  {members : List (RawString × Draft)} {lapse : Option Lapse} {ending : Ending}
  {left : Option (List Char)}

/-- Values are read from their first character that is no space. -/
theorem readValue_of_starts (starts : skipSpace cs = c :: behind)
    (notSpace : isSpace c = false) :
    readValue fuel depth (c :: behind) = readValue fuel depth cs := by
  cases fuel with
  | zero => rfl
  | succ fuel => rw [readValue, readValue, skipSpace_cons notSpace, starts]

theorem readItems_of_starts (starts : skipSpace cs = c :: behind)
    (notSpace : isSpace c = false) :
    readItems fuel depth (c :: behind) = readItems fuel depth cs := by
  cases fuel with
  | zero => rfl
  | succ fuel => rw [readItems, readItems, readValue_of_starts starts notSpace]

theorem readValue_space (isSpace : isSpace c = true) :
    readValue fuel depth (c :: cs) = readValue fuel depth cs := by
  have skipped : skipSpace (c :: cs) = skipSpace cs :=
    List.dropWhile_cons_of_pos isSpace
  cases fuel with
  | zero => rfl
  | succ fuel => rw [readValue, readValue, skipped]

theorem readValue_scalar (notSpace : isSpace c = false) (notBracket : c ≠ '[')
    (notBrace : c ≠ '\x7b') :
    readValue (fuel + 1) depth (c :: cs) = readScalar c cs := by
  unfold readValue
  rw [skipSpace_cons notSpace]
  split
  next empty => cases empty
  next bracket => exact absurd (List.cons.inj bracket).1 notBracket
  next brace => exact absurd (List.cons.inj brace).1 notBrace
  next same =>
    cases same
    rfl

theorem readValue_quote (isRead : readString [] text = (raw, left)) :
    readValue (fuel + 1) depth ('"' :: text) = (.string raw, left) := by
  rw [readValue, skipSpace_cons rfl]
  simp [readScalar, isRead]

theorem readValue_brace
    (areRead : readMembers fuel (depth + 1) false text =
      (members, ending, left)) :
    readValue (fuel + 1) depth ('\x7b' :: text) =
      (.object (decide (depthLimit ≤ depth + 1)) members ending, left) := by
  rw [readValue, skipSpace_cons rfl]
  simp only [areRead]

theorem readItems_last (valueRead : readValue fuel depth cs = (draft, some behind))
    (closes : skipSpace behind = ']' :: rest) :
    readItems (fuel + 1) depth cs = ([draft], none, some rest) := by
  rw [readItems]
  simp only [valueRead, closes]

theorem readItems_comma (valueRead : readValue fuel depth cs = (draft, some behind))
    (goesOn : skipSpace behind = ',' :: others)
    (areRead : readItems fuel depth others = (drafts, lapse, left)) :
    readItems (fuel + 1) depth cs = (draft :: drafts, lapse, left) := by
  rw [readItems]
  simp only [valueRead, goesOn, areRead]

theorem readValue_emptyArray (closes : skipSpace cs = ']' :: rest) :
    readValue (fuel + 1) depth ('[' :: cs) =
      (.array (decide (depthLimit ≤ depth + 1)) [] none, some rest) := by
  rw [readValue, skipSpace_cons rfl]
  simp only [closes]

theorem readValue_bracket (starts : skipSpace cs = c :: behind)
    (notSpace : isSpace c = false) (notClosed : c ≠ ']')
    (areRead : readItems fuel (depth + 1) cs = (drafts, lapse, left)) :
    readValue (fuel + 1) depth ('[' :: cs) =
      (.array (decide (depthLimit ≤ depth + 1)) drafts lapse, left) := by
  rw [← readItems_of_starts starts notSpace] at areRead
  rw [readValue, skipSpace_cons rfl]
  simp only [starts]
  split
  next closed => exact absurd (List.cons.inj closed).1 notClosed
  next empty => cases empty
  next => rw [areRead]

theorem readMembers_empty (closes : skipSpace cs = '\x7d' :: rest) :
    readMembers (fuel + 1) depth false cs = ([], .closed, some rest) := by
  rw [readMembers]
  simp [closes]

theorem readMembers_last (opens : skipSpace cs = '"' :: text)
    (nameRead : readString [] text = (raw, some behindName))
    (colon : skipSpace behindName = ':' :: valueText)
    (valueRead : readValue fuel depth valueText = (draft, some behind))
    (closes : skipSpace behind = '\x7d' :: rest) :
    readMembers (fuel + 1) depth afterComma cs =
      ([(raw, draft)], .closed, some rest) := by
  rw [readMembers]
  simp only [opens, nameRead, colon, valueRead, closes]

theorem readMembers_comma (opens : skipSpace cs = '"' :: text)
    (nameRead : readString [] text = (raw, some behindName))
    (colon : skipSpace behindName = ':' :: valueText)
    (valueRead : readValue fuel depth valueText = (draft, some behind))
    (goesOn : skipSpace behind = ',' :: others)
    (areRead : readMembers fuel depth true others = (members, ending, left)) :
    readMembers (fuel + 1) depth afterComma cs =
      ((raw, draft) :: members, ending, left) := by
  rw [readMembers]
  simp only [opens, nameRead, colon, valueRead, goesOn, areRead]

end Step

end Draft

namespace Grammar

open Draft

variable {value : Json} {cs rest : List Char}

theorem Name.isRead {name : String} (isName : Name name cs rest) :
    ∃ text raw behind, skipSpace cs = '"' :: text ∧ raw.text = .ok name ∧
      readString [] text = (raw, some behind) ∧ skipSpace behind = ':' :: rest := by
  obtain ⟨opens, areChars, colon⟩ := isName
  obtain ⟨raw, isText, isRead⟩ := areChars.exists_raw
  exact ⟨_, raw, _, opens.skipSpace_cons rfl, isText, isRead,
    colon.skipSpace_cons rfl⟩

theorem exists_succ_of_enough {fuel : Nat} (enough : cs.length ≤ fuel + rest.length)
    (shorter : rest.length < cs.length) : ∃ less, fuel = less + 1 :=
  ⟨fuel - 1, by omega⟩

mutual

theorem Value.isRead (depth : Nat) : {value : Json} → {cs rest : List Char} →
    Value value cs rest → Ends rest →
      ∃ draft, Depicts depth draft value ∧ ∀ fuel,
        cs.length ≤ fuel + rest.length →
          readValue fuel depth cs = (draft, some rest)
  | _, _, _, .space isSpace isValue, ends => by
      obtain ⟨draft, depicts, isRead⟩ := isValue.isRead depth ends
      refine ⟨draft, depicts, fun fuel enough => ?_⟩
      rw [readValue_space isSpace]
      exact isRead fuel (Nat.le_of_succ_le enough)
  | _, _, _, .null, _ => by
      refine ⟨_, .null, fun fuel enough => ?_⟩
      obtain ⟨less, rfl⟩ := exists_succ_of_enough enough Value.null.length_lt
      rw [readValue_scalar rfl (by decide) (by decide)]
      rfl
  | _, _, _, .yes, _ => by
      refine ⟨_, .bool, fun fuel enough => ?_⟩
      obtain ⟨less, rfl⟩ := exists_succ_of_enough enough Value.yes.length_lt
      rw [readValue_scalar rfl (by decide) (by decide)]
      rfl
  | _, _, _, .no, _ => by
      refine ⟨_, .bool, fun fuel enough => ?_⟩
      obtain ⟨less, rfl⟩ := exists_succ_of_enough enough Value.no.length_lt
      rw [readValue_scalar rfl (by decide) (by decide)]
      rfl
  | _, _, _, .number isNumeral standsFor, ends => by
      refine ⟨_, .number standsFor, fun fuel enough => ?_⟩
      obtain ⟨less, rfl⟩ := exists_succ_of_enough enough isNumeral.length_lt
      obtain ⟨c, behind, rfl, first⟩ := isNumeral.head
      obtain ⟨notSpace, -, notBracket, notBrace⟩ := apart_of_numeral first
      rw [readValue_scalar notSpace notBracket notBrace,
        isNumeral.readScalar_eq ends]
  | _, _, _, .string areChars, _ => by
      obtain ⟨raw, isText, isRead⟩ := areChars.exists_raw
      refine ⟨_, .string isText, fun fuel enough => ?_⟩
      obtain ⟨less, rfl⟩ :=
        exists_succ_of_enough enough (Value.string areChars).length_lt
      exact readValue_quote isRead
  | _, _, _, .emptyArray closes, _ => by
      refine ⟨_, .array .nil, fun fuel enough => ?_⟩
      obtain ⟨less, rfl⟩ :=
        exists_succ_of_enough enough (Value.emptyArray closes).length_lt
      exact readValue_emptyArray (closes.skipSpace_cons rfl)
  | _, _, _, .array areItems, _ => by
      obtain ⟨drafts, depict, areRead⟩ := areItems.isRead (depth + 1)
      refine ⟨_, .array depict, fun fuel enough => ?_⟩
      obtain ⟨less, rfl⟩ :=
        exists_succ_of_enough enough (Value.array areItems).length_lt
      obtain ⟨c, behind, starts, notSpace, notClosed⟩ := areItems.starts
      refine readValue_bracket (starts.skipSpace_cons notSpace) notSpace notClosed
        (areRead less ?_)
      simp only [List.length_cons] at enough ⊢
      omega
  | _, _, _, .emptyObject closes, _ => by
      refine ⟨_, .object .nil, fun fuel enough => ?_⟩
      have shorter := closes.length_le
      simp only [List.length_cons] at enough shorter
      obtain ⟨less, rfl⟩ : ∃ less, fuel = less + 2 := ⟨fuel - 2, by omega⟩
      exact readValue_brace (readMembers_empty (closes.skipSpace_cons rfl))
  | _, _, _, .object areMembers, _ => by
      obtain ⟨raw, depict, areRead⟩ := areMembers.isRead (depth + 1)
      refine ⟨_, .object depict, fun fuel enough => ?_⟩
      obtain ⟨less, rfl⟩ :=
        exists_succ_of_enough enough (Value.object areMembers).length_lt
      refine readValue_brace (areRead less false ?_)
      simp only [List.length_cons] at enough ⊢
      omega

theorem Items.isRead (depth : Nat) : {items : List Json} → {cs rest : List Char} →
    Items items cs rest →
      ∃ drafts, DepictItems depth drafts items ∧ ∀ fuel,
        cs.length ≤ fuel + rest.length →
          readItems fuel depth cs = (drafts, none, some rest)
  | _, _, _, .last isValue closes => by
      have ends := closes.ends (ends_cons (by decide))
      obtain ⟨draft, depicts, isRead⟩ := isValue.isRead depth ends
      refine ⟨[draft], .cons depicts .nil, fun fuel enough => ?_⟩
      obtain ⟨less, rfl⟩ :=
        exists_succ_of_enough enough (Items.last isValue closes).length_lt
      refine readItems_last (isRead less ?_) (closes.skipSpace_cons rfl)
      have shorter := closes.length_le
      simp only [List.length_cons] at enough shorter ⊢
      omega
  | _, _, _, .cons isValue goesOn areItems => by
      have ends := goesOn.ends (ends_cons (by decide))
      obtain ⟨draft, depicts, isRead⟩ := isValue.isRead depth ends
      obtain ⟨drafts, depict, areRead⟩ := areItems.isRead depth
      refine ⟨draft :: drafts, .cons depicts depict, fun fuel enough => ?_⟩
      obtain ⟨less, rfl⟩ :=
        exists_succ_of_enough enough (Items.cons isValue goesOn areItems).length_lt
      have first := isValue.length_lt
      have comma := goesOn.length_le
      have others := areItems.length_lt
      simp only [List.length_cons] at enough comma
      refine readItems_comma (isRead less ?_) (goesOn.skipSpace_cons rfl)
        (areRead less ?_)
      · omega
      · omega

theorem Members.isRead (depth : Nat) :
    {members : Entries Json} → {cs rest : List Char} → Members members cs rest →
      ∃ raw, DepictMembers depth raw members ∧ ∀ fuel afterComma,
        cs.length ≤ fuel + rest.length →
          readMembers fuel depth afterComma cs = (raw, .closed, some rest)
  | _, _, _, .last isName isValue closes => by
      have ends := closes.ends (ends_cons (by decide))
      obtain ⟨draft, depicts, isRead⟩ := isValue.isRead depth ends
      obtain ⟨text, rawName, behind, opens, isNamed, nameRead, colon⟩ :=
        isName.isRead
      refine ⟨[(rawName, draft)], .cons isNamed depicts .nil,
        fun fuel afterComma enough => ?_⟩
      obtain ⟨less, rfl⟩ :=
        exists_succ_of_enough enough (Members.last isName isValue closes).length_lt
      refine readMembers_last opens nameRead colon (isRead less ?_)
        (closes.skipSpace_cons rfl)
      have first := isName.length_lt
      have shorter := closes.length_le
      simp only [List.length_cons] at enough shorter ⊢
      omega
  | _, _, _, .cons isName isValue goesOn areMembers => by
      have ends := goesOn.ends (ends_cons (by decide))
      obtain ⟨draft, depicts, isRead⟩ := isValue.isRead depth ends
      obtain ⟨text, rawName, behind, opens, isNamed, nameRead, colon⟩ :=
        isName.isRead
      obtain ⟨raw, depict, areRead⟩ := areMembers.isRead depth
      refine ⟨(rawName, draft) :: raw, .cons isNamed depicts depict,
        fun fuel afterComma enough => ?_⟩
      obtain ⟨less, rfl⟩ := exists_succ_of_enough enough
        (Members.cons isName isValue goesOn areMembers).length_lt
      have name := isName.length_lt
      have first := isValue.length_lt
      have comma := goesOn.length_le
      have others := areMembers.length_lt
      simp only [List.length_cons] at enough comma
      refine readMembers_comma opens nameRead colon (isRead less ?_)
        (goesOn.skipSpace_cons rfl) (areRead less true ?_)
      · omega
      · omega

end

/-- A text of a value is read as a draft that depicts the value. -/
theorem Text.isRead {text : String} (isText : Text text value) :
    ∃ draft, Depicts 0 draft value ∧ Draft.read text = (draft, none) := by
  obtain @⟨behind, isValue, ends⟩ := isText
  obtain ⟨draft, depicts, isRead⟩ := isValue.isRead 0 (ends.ends ends_nil)
  have enough : text.toList.length ≤
      2 * text.toList.length + 2 + behind.length := by
    omega
  have skipped : skipSpace behind = [] := ends.skipSpace_eq
  exact ⟨draft, depicts, by simp [Draft.read, isRead _ enough, skipped]⟩

/-- A text of a value that is not nested too deeply is read as the value. -/
theorem Text.parse_eq {text : String} {levels : Nat} (isText : Text text value)
    (fits : value.Fits levels) (shallow : levels < depthLimit) :
    Json.parse text = .ok value := by
  obtain ⟨draft, depicts, isRead⟩ := isText.isRead
  rw [Json.parse, isRead]
  simp only [depicts.toJson_eq (by omega) fits]

end Grammar

end GraphTable
