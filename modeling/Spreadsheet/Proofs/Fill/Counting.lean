import Spreadsheet.Proofs.Fill.Classification
import Spreadsheet.Proofs.Number.Long

/-! A run of texts that count on: what is made for it are the common head and the plain numeral of the next number, unless
this has fewer digits than the first number of the run, and so is filled up with zeros, or is too long to be written without
an exponent. -/
namespace Spreadsheet

/-- What is wide enough is not filled up. -/
theorem Text.padLeft_of_le {width : Nat} {fill : Char} {text : List Char} (wide : width ≤ text.length) :
    padLeft width fill text = text := by
  rw [padLeft, Nat.sub_eq_zero_of_le wide, List.replicate_zero, List.nil_append]

namespace FillPattern
attribute [local instance (high)] instPowNat
variable {equality : CellEquality} {cells : List (Option Cell)} {head : List Char} {numbers : List Nat} {step : Int}

/-- No number at the end of a text begins with a zero, unless it is zero. -/
def Unpadded (cells : List (Option Cell)) : Prop :=
  ∀ cell ∈ cells, ∀ value ∈ valueOf? cell, ∀ suffix ∈ suffixOf? value, suffix.2 = Text.numeral (Text.digitsValue suffix.2)

/-- The text of a head and a plain numeral. -/
def counted (head : List Char) (number : Nat) : CellValue := .text (String.ofList (head ++ Text.numeral number))

/-- Texts that count by a constant step. -/
structure Counting (cells : List (Option Cell)) (head : List Char) (numbers : List Nat) (step : Int) : Prop where
  holds : Holds cells (numbers.map (counted head))
  numbering : ∀ number ∈ numbers, Numbering head (Text.numeral number)
  moves : step ≠ 0
  steady : ∀ gap ∈ gaps (numbers.map Int.ofNat), gap = step

/-- Backward each gap is the opposite. -/
theorem neg_mem_gaps_of_reverse {values : List Int} {gap : Int} (member : gap ∈ gaps values.reverse) :
    -gap ∈ gaps values := by
  obtain ⟨index, place⟩ := List.mem_iff_getElem?.mp member
  rw [gaps, List.getElem?_zipWith_eq_some] at place
  obtain ⟨low, high, first, second, rfl⟩ := place
  rw [List.getElem?_tail] at second
  obtain ⟨inside, _⟩ := List.getElem?_eq_some_iff.mp second
  rw [List.length_reverse] at inside
  rw [List.getElem?_reverse (by omega)] at first second
  rw [Int.neg_sub]
  refine sub_mem_gaps _ _ second ?_
  rw [show values.length - 1 - (index + 1) + 1 = values.length - 1 - index by omega]
  exact first

/-- The kind of numbered texts is that of no other run. -/
theorem isNumbered_of_kind (kind : (detect equality cells).kind = "textSuffix") : 2 ≤ cells.length ∧ IsNumbered cells := by
  obtain ⟨_, same⟩ | ⟨several, ⟨_, found⟩ | ⟨_, found⟩ | ⟨_, found⟩ | same⟩ := detect_cases equality cells
  · simp [same, FillPattern.kind] at kind
  · simp [kind_of_detectLinear? found] at kind
  · simp [kind_of_detectDate? found] at kind
  · exact ⟨several, (exists_detectSuffix?_iff several).mp ⟨_, found⟩⟩
  · simp [same, FillPattern.kind] at kind

/-- A run of numbered texts without zeros in front counts. -/
theorem IsNumbered.exists_counting (numbered : IsNumbered cells) (unpadded : Unpadded cells) :
    ∃ head numbers step, Counting cells head numbers step := by
  obtain ⟨head, numerals, holds, all, step, moves, steady⟩ := numbered
  have plain (digits : List Char) (member : digits ∈ numerals) : Text.numeral (Text.digitsValue digits) = digits := by
    obtain ⟨cell, listed, valued⟩ := List.mem_map.mp
      (holds ▸ List.mem_map_of_mem (f := some) (List.mem_map_of_mem member) : _ ∈ cells.map valueOf?)
    exact (unpadded cell listed _ valued _ (suffixOf?_eq_some_iff.mpr ⟨rfl, all digits member⟩)).symm
  refine ⟨head, numerals.map Text.digitsValue, step, ?_, ?_, moves, ?_⟩
  · have same : (numerals.map Text.digitsValue).map (counted head) =
        numerals.map fun digits => .text (String.ofList (head ++ digits)) := by
      rw [List.map_map]
      exact List.map_congr_left fun digits member => by rw [Function.comp_apply, counted, plain digits member]
    rwa [same]
  · rw [List.forall_mem_map]
    exact fun digits member => (plain digits member).symm ▸ all digits member
  · rwa [List.map_map]

theorem Counting.reverse (counts : Counting cells head numbers step) :
    Counting cells.reverse head numbers.reverse (-step) := by
  refine ⟨?_, fun number member => counts.numbering number (List.mem_reverse.mp member), Int.neg_ne_zero.mpr counts.moves, ?_⟩
  · rw [Holds, List.map_reverse, counts.holds, List.map_reverse, List.map_reverse]
  · rw [List.map_reverse]
    intro gap member
    rw [← counts.steady _ (neg_mem_gaps_of_reverse member), Int.neg_neg]

/-- A run counts in one way only. -/
theorem Counting.unique {other : List Char} {others : List Nat} {stride : Int} (counts : Counting cells head numbers step)
    (again : Counting cells other others stride) (several : 2 ≤ cells.length) :
    head = other ∧ numbers = others ∧ step = stride := by
  have suffixes {head numbers step} (counts : Counting cells head numbers step) :
      (numbers.map (counted head)).map suffixOf? = numbers.map fun number => some (head, Text.numeral number) := by
    rw [List.map_map]
    exact List.map_congr_left fun number member => suffixOf?_eq_some_iff.mpr ⟨rfl, counts.numbering number member⟩
  have values := (Option.some_injective CellValue).list_map (counts.holds.symm.trans again.holds)
  have same := (suffixes counts).symm.trans ((congrArg (List.map suffixOf?) values).trans (suffixes again))
  have enough : 2 ≤ numbers.length := counts.holds.length_eq ▸ several
  have equal : numbers = others := by
    have digits := congrArg (List.map fun suffix => suffix.elim 0 fun suffix => Text.digitsValue suffix.2) same
    simpa only [List.map_map, Function.comp_def, Option.elim_some, Text.digitsValue_numeral, List.map_id'] using digits
  subst equal
  match numbers, enough with
  | first :: second :: rest, _ =>
    simp only [List.map_cons, List.cons.injEq, Option.some.injEq, Prod.mk.injEq] at same
    have gap := sub_mem_gaps ((first :: second :: rest).map Int.ofNat) 0 rfl rfl
    exact ⟨same.1.1, rfl, (counts.steady _ gap).symm.trans (again.steady _ gap)⟩

/-- Texts that count are not all the same. -/
theorem Counting.not_isConstant {first : Option Cell} {rest : List (Option Cell)}
    (counts : Counting (first :: rest) head numbers step) (several : 2 ≤ numbers.length) : ¬IsConstant equality first rest := by
  intro constant
  obtain ⟨holds, _, moves, steady⟩ := counts
  match numbers, several with
  | start :: second :: others, _ =>
    have same := constant.same_values holds _ List.mem_cons_self
    simp only [counted, CellValue.text.injEq, CellValue.same, beq_iff_eq, or_self, ← String.toList_inj,
      String.toList_ofList, List.append_cancel_left_eq] at same
    have equal := congrArg Text.digitsValue same
    rw [Text.digitsValue_numeral, Text.digitsValue_numeral] at equal
    have gap := steady (Int.ofNat second - Int.ofNat start) (sub_mem_gaps _ 0 rfl rfl)
    rw [equal, Int.sub_self] at gap
    exact moves gap.symm

/-- The numerals of a run stand for its numbers. -/
theorem map_digitsValue_numeral (numbers : List Nat) :
    (numbers.map Text.numeral).map (fun digits => (Text.digitsValue digits : Int)) = numbers.map Int.ofNat := by
  rw [List.map_map]
  exact List.map_congr_left fun number _ => congrArg Int.ofNat (Text.digitsValue_numeral number)

/-- Numbers that are safe lie no step apart that is not. -/
theorem Counting.natAbs_step_lt (counts : Counting cells head numbers step) (several : 2 ≤ numbers.length) :
    step.natAbs < 2 ^ (53 : Nat) :=
  natAbs_lt_of_forall_eq (gaps_ne_nil (by simpa using several)) counts.steady
    (map_digitsValue_numeral numbers ▸ natAbs_gap_lt (List.forall_mem_map.mpr counts.numbering))

/-- The pattern of texts that count. -/
theorem Counting.exists_detect {first : Nat} {others : List Nat} (equality : CellEquality)
    (counts : Counting cells head (first :: others) step) (several : 2 ≤ cells.length) :
    ∃ template, cells.head? = some (some template) ∧ detect equality cells =
      textSuffix template head (Text.numeral first).length (.ofNat first) (.ofInt step) cells.length := by
  have enough : 2 ≤ (first :: others).length := counts.holds.length_eq ▸ several
  obtain ⟨entry, rest, rfl⟩ := List.exists_cons_of_length_pos (Nat.lt_of_lt_of_le Nat.zero_lt_two several)
  obtain ⟨template, _, rfl, _, _⟩ := exists_of_valueOf? (List.cons.inj counts.holds).1
  obtain ⟨digits, number, begins, steps, found⟩ := exists_detectSuffix?_of_numbering several
    (List.forall_mem_map.mpr counts.numbering) template (by rw [List.map_map]; exact counts.holds) counts.moves
    (map_digitsValue_numeral (first :: others) ▸ counts.steady)
  obtain rfl := Option.some.inj begins
  have same := Number.eq_of_toInt? steps (Number.toInt?_ofInt (counts.natAbs_step_lt enough)) counts.moves
  refine ⟨template, rfl, ?_⟩
  rw [detect_of_not_isConstant (counts.not_isConstant enough), Option.bind_some, detectLinear?_eq_none counts.holds rfl,
    detectDate?_eq_none counts.holds rfl, found, same, Text.digitsValue_numeral, List.length_map, counts.holds.length_eq]
  rfl

/-- The number that is reckoned for a place after a run, without its sign. -/
def reckoned (first : Nat) (step : Int) (length index : Nat) : Number :=
  (Number.ofNat first + .ofInt step * (.ofNat length + .ofNat index)).abs

section reckoned
variable {first length index : Nat} (stride : step.natAbs < 2 ^ (53 : Nat))
include stride

/-- It is exact if neither the way to it nor itself is too long. -/
theorem toInt?_reckoned (start : first < 2 ^ (53 : Nat)) (moves : step ≠ 0)
    (near : (step * (length + index)).natAbs < 2 ^ (53 : Nat))
    (small : (first + step * (length + index)).natAbs < 2 ^ (53 : Nat)) :
    (reckoned first step length index).toInt? = some ((first + step * (length + index)).natAbs : Int) := by
  have few : length + index ≤ (step * (length + index)).natAbs := by
    rw [Int.natAbs_mul]
    exact Nat.le_mul_of_pos_left _ (Int.natAbs_pos.mpr moves)
  have count := Number.toInt?_add (Number.toInt?_ofNat (k := length) (by omega)) (Number.toInt?_ofNat (k := index) (by omega))
    (by omega)
  have way := Number.toInt?_mul (Number.toInt?_ofInt stride) count near
  exact Number.toInt?_abs (Number.toInt?_add (Number.toInt?_ofNat start) way small)

/-- If it has no more than twenty-one digits, it is written as a numeral. -/
theorem exists_text_reckoned (range : reckoned first step length index < .ofNat (10 ^ (21 : Nat))) :
    ∃ value, (reckoned first step length index).text = Text.numeral value := by
  have whole : (Number.ofInt step).Integral := fun _ => ⟨step, Number.toInt?_ofInt stride⟩
  exact ((Number.integral_ofNat first).add
    (whole.mul ((Number.integral_ofNat length).add (Number.integral_ofNat index)))).exists_text range

end reckoned

/-- A run of texts that count without zeros in front goes on so in either direction: with the plain numeral of the number
that is reckoned, if this has no fewer digits than the first number of the run, and no more than twenty-one. -/
theorem generate_detect_counting (equality : CellEquality) (kind : (detect equality cells).kind = "textSuffix")
    (unpadded : Unpadded cells) (backward : Bool) :
    let run := if backward then cells.reverse else cells
    ∃ template head first others step, run.head? = some (some template) ∧ Counting run head (first :: others) step ∧
      ∀ index : Nat,
        let number := reckoned first step run.length index
        number < .ofNat (10 ^ (21 : Nat)) → (Text.numeral first).length ≤ number.text.length → ∃ value : Nat,
          (detect equality run).generate (.ofNat index) = some (templated template (counted head value)) ∧
            number.text = Text.numeral value ∧ ((step * (run.length + index)).natAbs < 2 ^ (53 : Nat) →
              (first + step * (run.length + index)).natAbs < 2 ^ (53 : Nat) →
                value = (first + step * (run.length + index)).natAbs) := by
  intro run
  obtain ⟨several, numbered⟩ := isNumbered_of_kind kind
  obtain ⟨head, numbers, step, counts⟩ : ∃ head numbers step, Counting run head numbers step := by
    obtain ⟨head, numbers, step, counts⟩ := numbered.exists_counting unpadded
    cases backward with
    | false => exact ⟨head, numbers, step, counts⟩
    | true => exact ⟨head, numbers.reverse, -step, counts.reverse⟩
  have enough : 2 ≤ run.length := by
    cases backward <;> simpa [run] using several
  have long : 2 ≤ numbers.length := counts.holds.length_eq ▸ enough
  match numbers, long with
  | first :: others, long =>
    obtain ⟨template, begins, pattern⟩ := counts.exists_detect equality enough
    have stride := counts.natAbs_step_lt long
    have start := (counts.numbering first List.mem_cons_self).safe
    rw [Text.digitsValue_numeral] at start
    refine ⟨template, head, first, others, step, begins, counts, ?_⟩
    intro index number range wide
    obtain ⟨value, text⟩ := exists_text_reckoned stride range
    refine ⟨value, ?_, text, fun near small => ?_⟩
    · rw [pattern, counted, ← text, ← Text.padLeft_of_le wide]
      rfl
    · have exact := Number.text_of_toInt? (toInt?_reckoned stride start counts.moves near small) small
      have same := congrArg Text.digitsValue (text.symm.trans exact)
      rwa [Text.digitsValue_numeral, Text.digitsValue_numeral] at same

/-- Three texts that are filled backward count down to a hundred. -/
theorem generate_detect_counting_backward :
    let run := ["Item101", "Item102", "Item103"].map fun content => some (Cell.ofValue (.text content))
    Unpadded run ∧ valueOf? ((detect {} run.reverse).generate (.ofNat 0)) = some (.text "Item100") := by
  intro run
  have unpadded : Unpadded run := by
    unfold Unpadded
    decide +kernel
  have backward : Counting run.reverse "Item".toList [103, 102, 101] (-1) := by
    have ends : ∀ c ∈ "Item".toList.getLast?, c.isDigit = false := by simp
    refine ⟨rfl, fun number member => ⟨by decide, ends, Text.allDigits_numeral number, ?_⟩, by decide, by decide⟩
    rw [Text.digitsValue_numeral]
    revert number
    decide
  obtain ⟨template, head, first, others, step, begins, counts, goes⟩ :=
    generate_detect_counting {} (by decide +kernel) unpadded true
  obtain ⟨rfl, same, rfl⟩ := counts.unique backward (by decide)
  obtain ⟨rfl, rfl⟩ := List.cons.inj same
  obtain ⟨value, generated, -, exact⟩ := goes 0 (by decide +kernel) (by decide +kernel)
  have value : value = 100 := by
    rw [exact (by decide) (by decide)]
    decide
  subst value
  exact ⟨unpadded, congrArg valueOf? generated⟩

/-- A run that counts down from ten fills the next number up with a zero. -/
theorem generate_detect_counting_down :
    let run := ["Q10", "Q9"].map fun content => some (Cell.ofValue (.text content))
    (detect {} run).kind = "textSuffix" ∧ Unpadded run ∧ valueOf? ((detect {} run).generate 0) = some (.text "Q08") ∧
      Text.numeral 8 ≠ ['0', '8'] := by
  refine ⟨by decide +kernel, ?_, by decide +kernel, by decide⟩
  unfold Unpadded
  decide +kernel

end FillPattern
end Spreadsheet
