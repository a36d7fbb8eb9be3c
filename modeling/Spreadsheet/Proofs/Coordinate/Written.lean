import Spreadsheet.Coordinate.A1
import Spreadsheet.Proofs.Coordinate.Letters
import Spreadsheet.Proofs.Coordinate.Named
import Spreadsheet.Proofs.Number.Numerals

/-! What is written in A1 notation is read back: letters end where the digits start, no address has a colon in it, and
the numbers on both axes are the same on the way out and on the way back. All of this is about rows and columns that
have an exact successor. -/
namespace Spreadsheet
attribute [local instance (high)] instPowNat

/-- Rows and columns are whole, not negative and have a successor that is exact as well. -/
def Address.IsCountable (cell : Address Int) : Prop :=
  (0 ≤ cell.row ∧ cell.row < 2 ^ (53 : Nat) - 1) ∧ 0 ≤ cell.column ∧ cell.column < 2 ^ (53 : Nat) - 1

instance (cell : Address Int) : Decidable cell.IsCountable :=
  inferInstanceAs (Decidable ((0 ≤ cell.row ∧ cell.row < 2 ^ (53 : Nat) - 1) ∧
    0 ≤ cell.column ∧ cell.column < 2 ^ (53 : Nat) - 1))

namespace Number
variable {a b : Int}

theorem min_ofInt (ordered : a ≤ b) (first : a.natAbs < 2 ^ (53 : Nat)) (second : b.natAbs < 2 ^ (53 : Nat)) :
    min (ofInt a) (ofInt b) = ofInt a := by
  change Number.min _ _ = _
  unfold Number.min
  rw [compare?_of_toInt? (toInt?_ofInt first) (toInt?_ofInt second)]
  rcases Int.lt_or_eq_of_le ordered with less | rfl
  · rw [Int.compare_eq_lt.mpr less]
  · rw [Int.compare_eq_eq.mpr rfl]
    exact ite_self _

theorem max_ofInt (ordered : a ≤ b) (first : a.natAbs < 2 ^ (53 : Nat)) (second : b.natAbs < 2 ^ (53 : Nat)) :
    max (ofInt a) (ofInt b) = ofInt b := by
  change Number.max _ _ = _
  unfold Number.max
  rw [compare?_of_toInt? (toInt?_ofInt first) (toInt?_ofInt second)]
  rcases Int.lt_or_eq_of_le ordered with less | rfl
  · rw [Int.compare_eq_lt.mpr less]
  · rw [Int.compare_eq_eq.mpr rfl]
    exact ite_self _

end Number

namespace A1

/-- The notation of an address as it stands for whole coordinates. -/
def plain (cell : Address Int) : List Char :=
  columnLetters cell.column.toNat ++ Text.numeral (cell.row.toNat + 1)

variable {address : Address Number} {cell : Address Int} {range : Range Number} {cells : Range Int}

/-- Letters and digits only, so that there is no dollar sign and no colon. -/
private theorem isAlphanum_of_mem_plain : ∀ c ∈ plain cell, c.isAlphanum = true := by
  intro c member
  rw [Char.isAlphanum, Bool.or_eq_true]
  exact (List.mem_append.mp member).imp isAlpha_of_mem_columnLetters Text.isDigit_of_mem_numeral

private theorem ne_colon_of_mem_plain : ∀ c ∈ plain cell, c ≠ ':' := by
  rintro c member rfl
  exact absurd (isAlphanum_of_mem_plain _ member) (by decide)

private theorem dropDollar_eq_self {text : List Char} (plain : ∀ c ∈ text, c.isAlphanum = true) :
    dropDollar text = text := by
  unfold dropDollar
  split
  · exact absurd (plain '$' List.mem_cons_self) (by decide)
  · rfl

/-- The letters of an address end where its digits start. -/
private theorem split?_plain :
    split? (plain cell) = some (columnLetters cell.column.toNat, Text.numeral (cell.row.toNat + 1)) := by
  have ends : ∀ c ∈ (Text.numeral (cell.row.toNat + 1)).head?, c.isAlpha = false := fun c member =>
    Text.not_isAlpha_of_isDigit (Text.isDigit_of_mem_numeral (List.mem_of_mem_head? member))
  have digits : dropDollar (Text.numeral (cell.row.toNat + 1)) = Text.numeral (cell.row.toNat + 1) :=
    dropDollar_eq_self fun c member => isAlphanum_of_mem_plain c (List.mem_append_right _ member)
  have letters : ∀ c ∈ columnLetters cell.column.toNat, c.isAlpha = true := fun _ => isAlpha_of_mem_columnLetters
  have split := Text.span_append letters ends
  unfold split?
  rw [dropDollar_eq_self isAlphanum_of_mem_plain, plain, split]
  simp only [digits, Text.allDigits_numeral, Bool.and_true, Bool.not_eq_true', List.isEmpty_eq_false_iff]
  rw [if_pos (columnLetters_ne_nil _)]

/-- The plain notation of an address reads as the address. -/
private theorem toAddress_plain (countable : cell.IsCountable) : toAddress (plain cell) = .ok cell.toNumber := by
  obtain ⟨⟨row, shortRow⟩, column, shortColumn⟩ := countable
  have whole : (Number.ofNat (cell.row.toNat + 1)).toInt? = some (cell.row + 1) := by
    rw [Number.toInt?_ofNat (by omega), Int.natCast_add, Int.toNat_of_nonneg row]
    rfl
  have least : ¬Number.ofNat (cell.row.toNat + 1) < 1 := by
    rw [Number.lt_iff whole Number.toInt?_one]
    omega
  have number : numberOf (columnLetters cell.column.toNat) < 2 ^ (53 : Nat) := by
    rw [numberOf_columnLetters]
    omega
  unfold toAddress
  rw [Text.trim_of_isAlphanum isAlphanum_of_mem_plain, split?_plain]
  dsimp only
  rw [Text.digitsValue_numeral, if_neg least, columnOf_eq (columnLetters_ne_nil _) number.le, numberOf_columnLetters,
    Nat.add_sub_cancel, Int.toNat_of_nonneg column, Number.sub_one_eq whole row (by omega)]
  rfl

theorem lettersOf_eq {column : Number} {index : Nat} (named : column.toInt? = some (index : Int))
    (short : index < 2 ^ (53 : Nat)) : lettersOf column = columnLetters index := by
  simp only [lettersOf, named, Int.toNat_natCast]
  exact if_pos short

/-- An address is written in its plain notation, whichever zeros it is given with. -/
private theorem ofAddress_eq (named : address.toInt? = some cell) (countable : cell.IsCountable) :
    ofAddress address = .ok (plain cell) := by
  obtain ⟨⟨row, shortRow⟩, column, shortColumn⟩ := countable
  obtain ⟨namedRow, namedColumn⟩ := Address.toInt?_eq_some_iff.mp named
  have next : address.row + 1 = .ofNat (cell.row.toNat + 1) := by
    refine Number.eq_of_toInt? (Number.toInt?_add namedRow Number.toInt?_one (by omega)) ?_ (by omega)
    rw [Number.toInt?_ofNat (by omega), Int.natCast_add, Int.toNat_of_nonneg row]
    rfl
  have letters : lettersOf address.column = columnLetters cell.column.toNat :=
    lettersOf_eq (by rwa [Int.toNat_of_nonneg column]) (by omega)
  rw [ofAddress_of_checked (Address.checked_ok_iff.mpr ⟨named, row, column⟩), write, letters, next,
    Number.text_ofNat (by omega), plain]

/-- Text without a colon is one part. -/
private theorem parts_of_forall {text : List Char} (plain : ∀ c ∈ text, c ≠ ':') : parts text = [text] := by
  induction text with
  | nil => rfl
  | cons c rest ih =>
    obtain ⟨here, later⟩ := List.forall_mem_cons.mp plain
    rw [parts, ih later]
    exact here

private theorem parts_append {text : List Char} (plain : ∀ c ∈ text, c ≠ ':') (rest : List Char) :
    parts (text ++ ':' :: rest) = text :: parts rest := by
  induction text with
  | nil => rfl
  | cons c text ih =>
    obtain ⟨here, later⟩ := List.forall_mem_cons.mp plain
    rw [List.cons_append, parts, ih later]
    exact here

/-- A range is written as one address if it is one cell, and else as two. -/
private theorem ofRange_eq (named : range.toInt? = some cells) (first : cells.topLeft.IsCountable)
    (last : cells.bottomRight.IsCountable) :
    ofRange range = .ok (if cells.topLeft = cells.bottomRight then plain cells.topLeft
      else plain cells.topLeft ++ ':' :: plain cells.bottomRight) := by
  obtain ⟨top, left, bottom, right⟩ := Range.toInt?_eq_some_iff.mp named
  have start : range.topLeft.toInt? = some cells.topLeft := Address.toInt?_eq_some_iff.mpr ⟨top, left⟩
  have stop : range.bottomRight.toInt? = some cells.bottomRight := Address.toInt?_eq_some_iff.mpr ⟨bottom, right⟩
  have alike := Address.same_iff start stop
  unfold ofRange
  rw [ofAddress_eq start first]
  by_cases one : cells.topLeft = cells.bottomRight
  · rw [if_pos one]
    change (if _ then _ else _) = _
    rw [if_pos (alike.mpr one)]
    rfl
  · rw [if_neg one]
    change (if _ then _ else _) = _
    rw [if_neg (one ∘ alike.mp), ofAddress_eq stop last]
    rfl

/-- Corners in their order are the corners of the range, which passes its check. -/
private theorem checked_corners (proper : cells.Proper) (first : cells.topLeft.IsCountable)
    (last : cells.bottomRight.IsCountable) :
    Range.ofCorners cells.topLeft.toNumber cells.bottomRight.toNumber = cells.toNumber ∧
      cells.toNumber.checked = .ok cells := by
  obtain ⟨⟨rowFirst, shortTop⟩, columnFirst, shortLeft⟩ := first
  obtain ⟨⟨rowLast, shortBottom⟩, columnLast, shortRight⟩ := last
  obtain ⟨rows, columns⟩ := proper
  simp only [Range.topLeft, Range.bottomRight] at *
  have top : cells.top.natAbs < 2 ^ (53 : Nat) := by omega
  have left : cells.left.natAbs < 2 ^ (53 : Nat) := by omega
  have bottom : cells.bottom.natAbs < 2 ^ (53 : Nat) := by omega
  have right : cells.right.natAbs < 2 ^ (53 : Nat) := by omega
  constructor
  · simp only [Range.ofCorners, Address.toNumber, Address.map, Range.toNumber, Range.map,
      Number.min_ofInt rows top bottom, Number.min_ofInt columns left right,
      Number.max_ofInt rows top bottom, Number.max_ofInt columns left right]
  · refine Range.checked_ok_iff.mpr ⟨?_, rowFirst, columnFirst, rows, columns⟩
    exact Range.toInt?_eq_some_iff.mpr ⟨Number.toInt?_ofInt top, Number.toInt?_ofInt left, Number.toInt?_ofInt bottom,
      Number.toInt?_ofInt right⟩

/-- A range reads as it was written, of one cell or of more. -/
private theorem toRange_written (proper : cells.Proper) (first : cells.topLeft.IsCountable)
    (last : cells.bottomRight.IsCountable) :
    toRange (if cells.topLeft = cells.bottomRight then plain cells.topLeft
      else plain cells.topLeft ++ ':' :: plain cells.bottomRight) = .ok cells.toNumber := by
  obtain ⟨corners, passes⟩ := checked_corners proper first last
  by_cases one : cells.topLeft = cells.bottomRight
  · have pieces : parts (plain cells.topLeft) = [plain cells.topLeft] := parts_of_forall ne_colon_of_mem_plain
    rw [← one] at corners
    rw [if_pos one]
    simp only [toRange, pieces, toAddress_plain first]
    change (Range.ofCorners cells.topLeft.toNumber cells.topLeft.toNumber).checked >>= _ = _
    rw [corners, passes]
    rfl
  · have pieces : parts (plain cells.topLeft ++ ':' :: plain cells.bottomRight) =
        [plain cells.topLeft, plain cells.bottomRight] := by
      rw [parts_append ne_colon_of_mem_plain, parts_of_forall ne_colon_of_mem_plain]
    rw [if_neg one]
    simp only [toRange, pieces, toAddress_plain first, toAddress_plain last]
    change (Range.ofCorners cells.topLeft.toNumber cells.bottomRight.toNumber).checked >>= _ = _
    rw [corners, passes]
    rfl

/-- Columns that have an exact number are told apart by their letters. -/
private theorem columnToLetters_eq {column : Number} {index : Int} (named : column.toInt? = some index)
    (positive : 0 ≤ index) (short : index < 2 ^ (53 : Nat)) :
    columnToLetters column = .ok (columnLetters index.toNat) := by
  unfold columnToLetters
  rw [requireIndex_ok_iff.mpr ⟨named, positive⟩]
  exact congrArg Except.ok (lettersOf_eq (by rwa [Int.toNat_of_nonneg positive]) (by omega))

/-- Letters of either case stand for the column that has them in upper case. -/
private theorem columnOfLetters_eq {letters : List Char} (written : letters ≠ [])
    (alpha : ∀ c ∈ letters, c.isAlpha = true) (short : numberOf letters - 1 < 2 ^ (53 : Nat) - 1) :
    columnOfLetters letters = .ok (.ofInt (numberOf letters - 1 : Nat)) := by
  unfold columnOfLetters
  rw [if_pos, columnOf_eq written (by omega)]
  simpa [written] using alpha

/-- What is written in A1 notation is read back: addresses, ranges of one cell or of more, and the letters of columns
in both directions. -/
theorem reads_written :
    (∀ (address : Address Number) (cell : Address Int), address.toInt? = some cell → cell.IsCountable →
      ∃ text, ofAddress address = .ok text ∧ toAddress text = .ok cell.toNumber) ∧
    (∀ (range : Range Number) (cells : Range Int), range.toInt? = some cells → cells.Proper →
      cells.topLeft.IsCountable → cells.bottomRight.IsCountable →
      ∃ text, ofRange range = .ok text ∧ toRange text = .ok cells.toNumber) ∧
    (∀ (column other : Number) (index place : Int), column.toInt? = some index → other.toInt? = some place →
      0 ≤ index → index < 2 ^ (53 : Nat) → 0 ≤ place → place < 2 ^ (53 : Nat) →
      ∃ letters text, columnToLetters column = .ok letters ∧ columnToLetters other = .ok text ∧
        (letters = text → index = place)) ∧
    (∀ letters : List Char, letters ≠ [] → (∀ c ∈ letters, c.isAlpha = true) →
      numberOf letters - 1 < 2 ^ (53 : Nat) - 1 →
      ∃ column, columnOfLetters letters = .ok column ∧ column.toInt? = some ((numberOf letters - 1 : Nat) : Int) ∧
        columnToLetters column = .ok (letters.map Char.toUpper)) := by
  refine ⟨?address, ?range, ?columns, ?letters⟩
  case address =>
    intro address cell named countable
    exact ⟨_, ofAddress_eq named countable, toAddress_plain countable⟩
  case range =>
    intro range cells named proper first last
    exact ⟨_, ofRange_eq named first last, toRange_written proper first last⟩
  case columns =>
    intro column other index place named namedOther positive short positiveOther shortOther
    refine ⟨_, _, columnToLetters_eq named positive short, columnToLetters_eq namedOther positiveOther shortOther, ?_⟩
    intro same
    have equal := eq_of_columnLetters same
    omega
  case letters =>
    intro letters written alpha short
    have named : (Number.ofInt (numberOf letters - 1 : Nat)).toInt? = some ((numberOf letters - 1 : Nat) : Int) :=
      Number.toInt?_ofInt (by omega)
    refine ⟨_, columnOfLetters_eq written alpha short, named, ?_⟩
    rw [columnToLetters_eq named (by omega) (by omega), Int.toNat_natCast, columnLetters_numberOf written alpha]

/-- Around the column that is the first to have two letters, with a row that is given as negative zero. -/
theorem reads_written_past_one_letter :
    (∃ text, ofAddress ⟨.zero true, 26⟩ = .ok text ∧ toAddress text = .ok (Address.toNumber ⟨0, 26⟩)) ∧
    (∃ text, ofRange ⟨3, 25, 3, 26⟩ = .ok text ∧ toRange text = .ok (Range.toNumber ⟨3, 25, 3, 26⟩)) ∧
    (∃ letters text, columnToLetters 25 = .ok letters ∧ columnToLetters 26 = .ok text ∧
      (letters = text → (25 : Int) = 26)) ∧
    (∃ column, columnOfLetters ['a', 'A'] = .ok column ∧ column.toInt? = some ((numberOf ['a', 'A'] - 1 : Nat) : Int) ∧
      columnToLetters column = .ok (['a', 'A'].map Char.toUpper)) := by
  obtain ⟨address, range, columns, letters⟩ := reads_written
  refine ⟨address _ _ ?_ ?_, range _ _ ?_ ⟨by decide, by decide⟩ ?_ ?_, ?columns, ?letters⟩
  case columns => refine columns 25 26 25 26 ?_ ?_ ?_ ?_ ?_ ?_ <;> decide +kernel
  case letters => exact letters _ (by decide) (List.all_eq_true.mp rfl) (by decide +kernel)
  all_goals decide +kernel

end A1
end Spreadsheet
