import Spreadsheet.Proofs.Coordinate.Written

/-! What reads as an address in A1 notation, and what it reads as. Letters and digits may be of any length, and all of
them are reckoned in numbers of a sheet. So the address is the one that was spelled only up to a row and a column of
`2 ^ 53`; further on it is a rounded one, and beyond all finite numbers it is none that a check lets pass. -/
namespace Spreadsheet.A1
attribute [local instance (high)] instPowNat

/-- A dollar sign, or none. -/
def dollar (written : Bool) : List Char := if written then ['$'] else []

/-- Text that is letters and then digits, each of them after a dollar sign or after none. -/
structure Spells (text letters digits : List Char) : Prop where
  lettered : letters ≠ []
  alpha : ∀ c ∈ letters, c.isAlpha = true
  numbered : digits ≠ []
  decimal : ∀ c ∈ digits, c.isDigit = true
  parts : ∃ column row : Bool, text = dollar column ++ letters ++ dollar row ++ digits

variable {input text letters digits : List Char}

theorem exists_dollar (text : List Char) : ∃ written, text = dollar written ++ dropDollar text := by
  unfold dropDollar
  split
  · exact ⟨true, rfl⟩
  · exact ⟨false, rfl⟩

theorem dropDollar_append (written : Bool) (plain : ∀ c ∈ text.head?, c ≠ '$') :
    dropDollar (dollar written ++ text) = text := by
  cases written with
  | true => rfl
  | false =>
    unfold dropDollar
    split
    · rename_i rest same
      exact absurd rfl (plain '$' (by rw [show text = '$' :: rest from same]; rfl))
    · rfl

/-- The letters end where they have to: neither a dollar sign nor a digit is one. -/
theorem split?_eq_some_iff : split? text = some (letters, digits) ↔ Spells text letters digits := by
  constructor
  · intro split
    simp only [split?, List.span_eq_takeWhile_dropWhile, Option.ite_none_right_eq_some, Bool.and_eq_true,
      Bool.not_eq_true', List.isEmpty_eq_false_iff, Text.allDigits, List.all_eq_true, Option.some.injEq,
      Prod.mk.injEq] at split
    obtain ⟨⟨lettered, numbered, decimal⟩, rfl, rfl⟩ := split
    refine ⟨lettered, fun c member => List.mem_takeWhile_imp member, numbered, decimal, ?_⟩
    obtain ⟨column, front⟩ := exists_dollar text
    obtain ⟨row, back⟩ := exists_dollar ((dropDollar text).dropWhile Char.isAlpha)
    refine ⟨column, row, ?_⟩
    rw [List.append_assoc, ← back, List.append_assoc, List.takeWhile_append_dropWhile]
    exact front
  · rintro ⟨lettered, alpha, numbered, decimal, column, row, rfl⟩
    have first : ∀ c ∈ (letters ++ (dollar row ++ digits)).head?, c ≠ '$' := by
      rw [List.head?_append_of_ne_nil _ lettered]
      rintro c member rfl
      exact absurd (alpha '$' (List.mem_of_mem_head? member)) (by decide)
    have number : ∀ c ∈ digits.head?, c ≠ '$' := by
      rintro c member rfl
      exact absurd (decimal '$' (List.mem_of_mem_head? member)) (by decide)
    have ends : ∀ c ∈ (dollar row ++ digits).head?, c.isAlpha = false := by
      cases row with
      | true =>
        rintro c ⟨⟩
        decide
      | false => exact fun c member => Text.not_isAlpha_of_isDigit (decimal c (List.mem_of_mem_head? member))
    unfold split?
    rw [List.append_assoc, List.append_assoc, dropDollar_append column first, Text.span_append alpha ends]
    dsimp only
    rw [dropDollar_append row number, if_pos]
    simpa [lettered, numbered, Text.allDigits] using decimal

/-- Only the number zero is below one, however many digits there are. -/
private theorem lt_one_iff (number : Nat) : Number.ofNat number < 1 ↔ number = 0 := by
  have one : (1 : Number).toInt? = some 1 := Number.toInt?_ofNat (by decide)
  constructor
  · intro less
    by_contra some
    have count := (Number.atLeast_ofNat number).mono (Nat.le_min.mpr ⟨Nat.pos_of_ne_zero some, Nat.le_refl 1⟩)
    rcases count with infinite | ⟨k, whole, positive⟩
    · rw [infinite] at less
      exact absurd less (by decide +kernel)
    · rw [Number.lt_iff whole one] at less
      omega
  · rintro rfl
    decide +kernel

theorem toAddress_of_spells (spelled : Spells (Text.trim input) letters digits) (positive : 1 ≤ Text.digitsValue digits) :
    toAddress input = .ok ⟨.ofNat (Text.digitsValue digits) - 1, columnOf letters⟩ := by
  unfold toAddress
  rw [split?_eq_some_iff.mpr spelled]
  exact if_neg fun less => by
    have none := (lt_one_iff _).mp less
    omega

/-- All other text is refused, and the error has it as it was given. -/
theorem toAddress_of_not_spells
    (other : ¬∃ letters digits, Spells (Text.trim input) letters digits ∧ 1 ≤ Text.digitsValue digits) :
    ∃ error, toAddress input = .error error ∧ error.kind = .malformed (String.ofList input) := by
  unfold toAddress
  cases found : split? (Text.trim input) with
  | none => exact ⟨_, rfl, rfl⟩
  | some pieces =>
    obtain ⟨letters, digits⟩ := pieces
    have none : Text.digitsValue digits = 0 := by
      by_contra some
      exact other ⟨letters, digits, split?_eq_some_iff.mp found, Nat.pos_of_ne_zero some⟩
    exact ⟨_, if_pos ((lt_one_iff _).mpr none), rfl⟩

/-- An address of counts passes its check unless one of them is infinite. -/
private theorem exists_checked_iff {address : Address Number} (row : address.row.AtLeast 0)
    (column : address.column.AtLeast 0) :
    (∃ cell, address.checked = .ok cell) ↔ address.row ≠ .infinite false ∧ address.column ≠ .infinite false := by
  rw [← row.exists_toInt?_iff, ← column.exists_toInt?_iff]
  simp only [Address.checked_ok_iff, Address.toInt?_eq_some_iff]
  constructor
  · rintro ⟨cell, ⟨namedRow, namedColumn⟩, positiveRow, positiveColumn⟩
    exact ⟨⟨_, namedRow, positiveRow⟩, _, namedColumn, positiveColumn⟩
  · rintro ⟨⟨row, namedRow, positiveRow⟩, column, namedColumn, positiveColumn⟩
    exact ⟨⟨row, column⟩, ⟨namedRow, namedColumn⟩, positiveRow, positiveColumn⟩

/-- What is spelled with a row and a column of no more than `2 ^ 53` is written in its plain form. -/
private theorem ofAddress_of_spells (spelled : Spells text letters digits) (positive : 1 ≤ Text.digitsValue digits)
    (shortRow : Text.digitsValue digits ≤ 2 ^ (53 : Nat)) (shortColumn : numberOf letters ≤ 2 ^ (53 : Nat)) :
    (⟨.ofNat (Text.digitsValue digits) - 1, columnOf letters⟩ : Address Number).checked =
        .ok ⟨(Text.digitsValue digits - 1 : Nat), (numberOf letters - 1 : Nat)⟩ ∧
      ofAddress ⟨.ofNat (Text.digitsValue digits) - 1, columnOf letters⟩ =
        .ok (letters.map Char.toUpper ++ digits.dropWhile (· == '0')) := by
  have least := one_le_numberOf spelled.lettered
  obtain ⟨before, next⟩ := Nat.exists_eq_add_of_le' positive
  have row : Number.ofNat (Text.digitsValue digits) - 1 = .ofInt before := by
    refine Number.sub_one_eq ?_ (Int.natCast_nonneg before) (by omega)
    rw [Number.toInt?_ofNat_of_le shortRow, next, Int.natCast_add]
    rfl
  have namedRow : (Number.ofInt before).toInt? = some (before : Int) := Number.toInt?_ofInt (by omega)
  have namedColumn : (Number.ofInt (numberOf letters - 1 : Nat)).toInt? = some ((numberOf letters - 1 : Nat) : Int) :=
    Number.toInt?_ofInt (by omega)
  have passes : (⟨.ofInt before, .ofInt (numberOf letters - 1 : Nat)⟩ : Address Number).checked =
      .ok ⟨before, (numberOf letters - 1 : Nat)⟩ :=
    Address.checked_ok_iff.mpr ⟨Address.toInt?_eq_some_iff.mpr ⟨namedRow, namedColumn⟩, Int.natCast_nonneg before,
      Int.natCast_nonneg _⟩
  rw [row, columnOf_eq spelled.lettered shortColumn, ofAddress_of_checked passes, write,
    lettersOf_eq namedColumn (by omega), columnLetters_numberOf spelled.lettered spelled.alpha,
    Number.text_add_one (by omega), ← next, Text.numeral_digitsValue spelled.decimal positive, passes, next,
    Nat.add_sub_cancel]
  exact ⟨rfl, rfl⟩

/-- Text is refused if and only if it does not spell an address, white space around it apart. What is spelled is an
address with no fraction and no negative number; it passes its check unless it is beyond all finite numbers, and up to
`2 ^ 53` it is the one that was spelled and is written without dollar signs, in upper case and without zeros in front. -/
theorem reads_spelled (input : List Char) :
    ((∃ error, toAddress input = .error error ∧ error.kind = .malformed (String.ofList input)) ↔
      ¬∃ letters digits, Spells (Text.trim input) letters digits ∧ 1 ≤ Text.digitsValue digits) ∧
    ∀ letters digits, Spells (Text.trim input) letters digits → 1 ≤ Text.digitsValue digits →
      ∃ address, toAddress input = .ok address ∧
        ((∃ cell, address.checked = .ok cell) ↔ address.row ≠ .infinite false ∧ address.column ≠ .infinite false) ∧
        (Text.digitsValue digits ≤ 2 ^ (53 : Nat) → numberOf letters ≤ 2 ^ (53 : Nat) →
          address.checked = .ok ⟨(Text.digitsValue digits - 1 : Nat), (numberOf letters - 1 : Nat)⟩ ∧
          ofAddress address = .ok (letters.map Char.toUpper ++ digits.dropWhile (· == '0'))) := by
  refine ⟨⟨?refused, toAddress_of_not_spells⟩, ?spelled⟩
  case refused =>
    rintro ⟨error, refuses, -⟩ ⟨letters, digits, spelled, positive⟩
    rw [toAddress_of_spells spelled positive] at refuses
    cases refuses
  case spelled =>
    intro letters digits spelled positive
    have row : (Number.ofNat (Text.digitsValue digits) - 1).AtLeast 0 :=
      ((Number.atLeast_ofNat _).mono (Nat.le_min.mpr ⟨positive, Nat.le_refl 1⟩)).sub_one
    exact ⟨_, toAddress_of_spells spelled positive, exists_checked_iff row (atLeast_columnOf spelled.lettered),
      ofAddress_of_spells spelled positive⟩

/-- White space, dollar signs and zeros around the last row that is exact; and row zero, which is none. -/
theorem reads_spelled_last_row :
    (∃ address, toAddress " $aB$09007199254740992\n".toList = .ok address ∧
      address.checked = .ok ⟨9007199254740991, 27⟩ ∧ ofAddress address = .ok "AB9007199254740992".toList) ∧
    ∃ error, toAddress "A0".toList = .error error ∧ error.kind = .malformed "A0" := by
  have spelled : Spells (Text.trim " $aB$09007199254740992\n".toList) "aB".toList "09007199254740992".toList :=
    ⟨by decide, List.all_eq_true.mp rfl, by decide, List.all_eq_true.mp rfl, true, true, by decide⟩
  constructor
  · obtain ⟨address, reads, -, exact⟩ := (reads_spelled " $aB$09007199254740992\n".toList).2 _ _ spelled (by decide)
    exact ⟨address, reads, exact (by decide) (by decide)⟩
  · refine (reads_spelled "A0".toList).1.mpr ?_
    rintro ⟨letters, digits, spelled, positive⟩
    have pieces := (split?_eq_some_iff.mpr spelled).symm.trans (show _ = some (['A'], ['0']) by decide)
    cases pieces
    exact absurd positive (by decide)

/-- Of a column with more bits another one is read, although the column itself is a number and is written as it was
spelled; and of a row with many digits nothing is left that passes its check. -/
theorem not_reads_exactly :
    (Spells (Text.trim "DWOVQMDNPVWC1".toList) "DWOVQMDNPVWC".toList ['1'] ∧
      toAddress "DWOVQMDNPVWC1".toList = .ok ⟨0, 18014398509482004⟩ ∧
      ofAddress ⟨0, 18014398509482004⟩ = .ok "DWOVQMDNPVWG1".toList ∧
      ofAddress ⟨0, 18014398509482000⟩ = .ok "DWOVQMDNPVWC1".toList) ∧
    Spells (Text.trim ('A' :: List.replicate 309 '9')) ['A'] (List.replicate 309 '9') ∧
      ∃ address, toAddress ('A' :: List.replicate 309 '9') = .ok address ∧ ¬∃ cell, address.checked = .ok cell := by
  have drifts : Spells (Text.trim "DWOVQMDNPVWC1".toList) "DWOVQMDNPVWC".toList ['1'] :=
    ⟨by decide, List.all_eq_true.mp rfl, by decide, List.all_eq_true.mp rfl, false, false, by decide⟩
  have endless : Spells (Text.trim ('A' :: List.replicate 309 '9')) ['A'] (List.replicate 309 '9') := by
    have digit : ∀ c ∈ List.replicate 309 '9', c.isDigit = true := fun c member => by
      rw [List.eq_of_mem_replicate member]
      decide
    rw [Text.trim_of_isAlphanum]
    · exact ⟨by decide, List.all_eq_true.mp rfl, by decide, digit, false, false, rfl⟩
    · exact List.forall_mem_cons.mpr ⟨by decide, fun c member => by simp [Char.isAlphanum, digit c member]⟩
  have first : (0 : Number).toInt? = some 0 := by decide +kernel
  have passes (column : Number) (index : Int) (named : column.toInt? = some index) (positive : 0 ≤ index) :
      (⟨0, column⟩ : Address Number).checked = .ok ⟨0, index⟩ :=
    Address.checked_ok_iff.mpr ⟨Address.toInt?_eq_some_iff.mpr ⟨first, named⟩, Int.le_refl 0, positive⟩
  have read := passes 18014398509482004 18014398509482004 (by decide +kernel) (by decide)
  have meant := passes 18014398509482000 18014398509482000 (by decide +kernel) (by decide)
  refine ⟨⟨drifts, (toAddress_of_spells drifts (by decide)).trans (congrArg Except.ok ?_),
    (ofAddress_of_checked read).trans (congrArg Except.ok ?_),
    (ofAddress_of_checked meant).trans (congrArg Except.ok ?_)⟩,
    endless, _, toAddress_of_spells endless (by decide +kernel), ?_⟩
  · decide +kernel
  · decide +kernel
  · decide +kernel
  · rintro ⟨cell, passes⟩
    have named := (Address.toInt?_eq_some_iff.mp (Address.checked_ok_iff.mp passes).1).1
    have beyond : (Number.ofNat (Text.digitsValue (List.replicate 309 '9')) - 1).toInt? = none := by decide +kernel
    cases beyond.symm.trans named

end Spreadsheet.A1
