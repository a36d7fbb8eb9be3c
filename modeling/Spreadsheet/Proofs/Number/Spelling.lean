import Spreadsheet.Proofs.Number.Numerals

/-! What reads as a decimal number: a sign or none, digits with a point among or around them or without one, and an
exponent part or none. The grammar is told apart from the reader, and the reader accepts exactly what it spells. -/
namespace Spreadsheet

namespace Text
variable {text front rest digits : List Char}

theorem allDigits_iff : allDigits digits = true ↔ digits ≠ [] ∧ ∀ c ∈ digits, c.isDigit = true := by simp [allDigits]

/-- A run of digits ends where something else begins. -/
theorem spanDigits_append (decimal : ∀ c ∈ front, c.isDigit = true) (ends : ∀ c ∈ rest.head?, c.isDigit = false) :
    spanDigits (front ++ rest) = (front, rest) := span_append decimal ends

theorem spanDigits_spec (divided : spanDigits text = (front, rest)) :
    (∀ c ∈ front, c.isDigit = true) ∧ text = front ++ rest := by
  rw [spanDigits, List.span_eq_takeWhile_dropWhile, Prod.mk.injEq] at divided
  obtain ⟨rfl, rfl⟩ := divided
  exact ⟨fun c member => List.mem_takeWhile_imp member, List.takeWhile_append_dropWhile.symm⟩

end Text

/-- A sign or none. -/
inductive SpellsSign : List Char → Bool → Prop where
  | none : SpellsSign [] false
  | plus : SpellsSign ['+'] false
  | minus : SpellsSign ['-'] true

namespace DecimalNumeral

/-- An exponent of ten after its mark, or nothing. -/
inductive SpellsExponent : List Char → Int → Prop where
  | none : SpellsExponent [] 0
  | some {mark : Char} {sign digits : List Char} {negative : Bool} (marked : mark = 'e' ∨ mark = 'E')
      (signed : SpellsSign sign negative) (decimal : Text.allDigits digits = true) :
      SpellsExponent (mark :: (sign ++ digits)) (Number.signed negative (Text.digitsValue digits))

/-- Digits, of which there is one at least, with a point or without one, and an exponent part. -/
inductive Spells : List Char → DecimalNumeral → Prop where
  | whole {digits part : List Char} {exponent : Int} (decimal : Text.allDigits digits = true)
      (power : SpellsExponent part exponent) : Spells (digits ++ part) ⟨digits, 0, exponent⟩
  | point {whole decimals part : List Char} {exponent : Int} (decimal : Text.allDigits (whole ++ decimals) = true)
      (power : SpellsExponent part exponent) :
      Spells (whole ++ '.' :: (decimals ++ part)) ⟨whole ++ decimals, decimals.length, exponent⟩

variable {text part : List Char} {exponent : Int} {numeral : DecimalNumeral}

/-- An exponent part does not go on with the digits in front of it, nor does it have a point there. -/
theorem SpellsExponent.head (power : SpellsExponent part exponent) :
    ∀ c ∈ part.head?, c.isDigit = false ∧ c ≠ '.' := by
  cases power with
  | none => simp
  | some marked =>
    rintro c ⟨⟩
    rcases marked with rfl | rfl <;> decide

theorem exponent?_of_spells (power : SpellsExponent part exponent) : exponent? part = some exponent := by
  cases power with
  | none => rfl
  | @some mark _ digits _ marked signed decimal =>
    have passed : ¬(mark ≠ 'e' ∧ mark ≠ 'E') := by tauto
    cases signed with
    | none =>
      obtain ⟨c, rest, rfl, digit⟩ := Text.exists_cons_of_allDigits decimal
      have minus : c ≠ '-' := by rintro rfl; cases digit
      have plus : c ≠ '+' := by rintro rfl; cases digit
      simp [exponent?, passed, decimal, minus, plus, Number.signed]
    | plus => simp [exponent?, passed, decimal, Number.signed]
    | minus => simp [exponent?, passed, decimal, Number.signed]

theorem spells_of_exponent? (read : exponent? part = some exponent) : SpellsExponent part exponent := by
  unfold exponent? at read
  split at read
  · cases read
    exact .none
  rename_i mark rest
  split at read
  · cases read
  rename_i marked
  have among : mark = 'e' ∨ mark = 'E' := by tauto
  split at read
  all_goals
    simp only [Option.ite_none_right_eq_some, Option.some.injEq] at read
    obtain ⟨decimal, rfl⟩ := read
  · exact .some among .minus decimal
  · exact .some among .plus decimal
  · exact .some among .none decimal

theorem read?_of_spells (spelled : Spells text numeral) : read? text = some numeral := by
  cases spelled with
  | @whole digits part exponent decimal power =>
    obtain ⟨some, digital⟩ := Text.allDigits_iff.mp decimal
    have ends := power.head
    have divided := Text.spanDigits_append digital fun c member => (ends c member).1
    unfold read?
    rw [divided]
    dsimp only
    split
    · rename_i rest
      exact absurd rfl (ends '.' rfl).2
    · rw [exponent?_of_spells power, Option.map_some, if_neg (by simpa using some)]
  | @point whole decimals part exponent decimal power =>
    obtain ⟨some, digital⟩ := Text.allDigits_iff.mp decimal
    obtain ⟨front, back⟩ := List.forall_mem_append.mp digital
    have first : Text.spanDigits (whole ++ '.' :: (decimals ++ part)) = (whole, '.' :: (decimals ++ part)) :=
      Text.spanDigits_append front (by rintro c ⟨⟩; decide)
    have second := Text.spanDigits_append back fun c member => (power.head c member).1
    unfold read?
    simp only [first, second, exponent?_of_spells power, Option.map_some]
    rw [if_neg]
    simpa using some

theorem spells_of_read? (read : read? text = some numeral) : Spells text numeral := by
  unfold read? at read
  cases divided : Text.spanDigits text with
  | mk whole rest =>
    obtain ⟨front, rfl⟩ := Text.spanDigits_spec divided
    simp only [divided] at read
    split at read
    · rename_i rest
      cases again : Text.spanDigits rest with
      | mk decimals part =>
        obtain ⟨back, rfl⟩ := Text.spanDigits_spec again
        simp only [again, Option.ite_none_left_eq_some, Option.map_eq_some_iff, Bool.and_eq_true, List.isEmpty_iff] at read
        obtain ⟨some, exponent, power, rfl⟩ := read
        exact .point (Text.allDigits_iff.mpr ⟨by simpa using some, List.forall_mem_append.mpr ⟨front, back⟩⟩)
          (spells_of_exponent? power)
    · simp only [Option.ite_none_left_eq_some, Option.map_eq_some_iff, List.isEmpty_iff] at read
      obtain ⟨some, exponent, power, rfl⟩ := read
      exact .whole (Text.allDigits_iff.mpr ⟨some, front⟩) (spells_of_exponent? power)

/-- What spells a numeral starts with a digit or with a point. -/
theorem Spells.head (spelled : Spells text numeral) : ∃ c rest, text = c :: rest ∧ (c.isDigit = true ∨ c = '.') := by
  cases spelled with
  | whole decimal power =>
    obtain ⟨c, rest, rfl, digit⟩ := Text.exists_cons_of_allDigits decimal
    exact ⟨c, _, rfl, .inl digit⟩
  | @point whole decimals part exponent decimal power =>
    cases whole with
    | nil => exact ⟨'.', _, rfl, .inr rfl⟩
    | cons c rest => exact ⟨c, _, rfl, .inl ((Text.allDigits_iff.mp decimal).2 c (by simp))⟩

end DecimalNumeral

namespace Number
variable {text : List Char} {x : Number}

/-- A decimal numeral after a sign or none, and the number nearest to it. -/
inductive Spells : List Char → Number → Prop where
  | numeral {sign digits : List Char} {negative : Bool} {numeral : DecimalNumeral} (signed : SpellsSign sign negative)
      (spelled : DecimalNumeral.Spells digits numeral) : Spells (sign ++ digits) (numeral.toNumber negative)

/-- Exactly what spells a decimal number is read as one. -/
theorem ofDecimal?_eq_some_iff : ofDecimal? text = some x ↔ Spells text x := by
  constructor
  · intro read
    unfold ofDecimal? at read
    split at read
    all_goals
      obtain ⟨numeral, found, rfl⟩ := Option.map_eq_some_iff.mp read
      have spelled := DecimalNumeral.spells_of_read? found
    · exact .numeral .minus spelled
    · exact .numeral .plus spelled
    · exact .numeral .none spelled
  · rintro ⟨signed, spelled⟩
    have found := DecimalNumeral.read?_of_spells spelled
    cases signed with
    | none =>
      obtain ⟨c, rest, rfl, first⟩ := spelled.head
      have minus : c ≠ '-' := by
        rintro rfl
        revert first
        decide
      have plus : c ≠ '+' := by
        rintro rfl
        revert first
        decide
      simp [ofDecimal?, minus, plus, found]
    | plus => simp [ofDecimal?, found]
    | minus => simp [ofDecimal?, found]

end Number
end Spreadsheet
