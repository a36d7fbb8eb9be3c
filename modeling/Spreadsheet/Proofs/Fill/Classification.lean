import Spreadsheet.Proofs.Calendar.Shifted
import Spreadsheet.Proofs.Fill.Progression
import Spreadsheet.Proofs.Number.Differences

/-! The kinds of runs, told by what their cells hold, and that the pattern of a run has its kind. Differences of numbers are
rounded, and a date is read by its fields, so that a run may look like one of another kind: where a difference is
not-a-number, where a year is short for another, and where dates are so far apart that their distance is rounded. -/
namespace Spreadsheet

namespace FillPattern
attribute [local instance (high)] instPowNat
variable {equality : CellEquality} {cells : List (Option Cell)} {numbers : List Number} {tolerance step : Number}

/-- The value of a cell of a run, if it has one. -/
def valueOf? (entry : Option Cell) : Option CellValue := entry.bind (·.value.toOption)

/-- Every cell of a run has a value, and these are the values. -/
def Holds (cells : List (Option Cell)) (values : List CellValue) : Prop := cells.map valueOf? = values.map some

/-- What lies between neighbours. -/
def gaps {α : Type} [Sub α] (values : List α) : List α := List.zipWith (fun low high => high - low) values values.tail

/-- A gap is a number, and as near to the step as the tolerance allows. -/
def Near (tolerance step gap : Number) : Prop := gap.isNaN = false ∧ (gap = step ∨ (gap - step).abs ≤ tolerance)

/-- There is one cell, or all others equal the first. -/
def IsConstant (equality : CellEquality) (first : Option Cell) (rest : List (Option Cell)) : Prop :=
  ∀ cell ∈ rest, equality.same cell first = true

/-- Numbers, the first gap between which is not zero and every other one is near to it. -/
def IsLinear (cells : List (Option Cell)) : Prop :=
  ∃ numbers : List Number, Holds cells (numbers.map .number) ∧ ∃ step later, gaps numbers = step :: later ∧
    step.isNaN = false ∧ step.same 0 = false ∧ ∀ gap ∈ later, Near stepTolerance step gap

/-- Points in time that are some days apart, and all the same number of days. -/
def Daily (dates : List Instant) (days : Int) : Prop :=
  days ≠ 0 ∧ ∀ gap ∈ gaps (dates.map Instant.ms), gap = days * msPerDay

/-- Dates that are points in time, a constant number of whole days apart. -/
def IsDaily (cells : List (Option Cell)) : Prop :=
  ∃ (dates : List Instant) (days : Int), Holds cells (dates.map fun instant => .date (some instant)) ∧ Daily dates days

/-- A numeral that can be told from the text before it: this is on one line and does not end in a digit. The number is
one whose neighbours are numbers too. -/
structure Numbering (head digits : List Char) : Prop where
  line : head.any Text.isLineBreak = false
  ends : ∀ c ∈ head.getLast?, c.isDigit = false
  numeral : Text.allDigits digits = true
  safe : Text.digitsValue digits < Number.safeBound

/-- Texts that differ in the numbers at their ends only, which are a constant step apart. -/
def IsNumbered (cells : List (Option Cell)) : Prop :=
  ∃ (head : List Char) (numerals : List (List Char)),
    Holds cells (numerals.map fun digits => .text (String.ofList (head ++ digits))) ∧
    (∀ digits ∈ numerals, Numbering head digits) ∧
    ∃ step : Int, step ≠ 0 ∧ ∀ gap ∈ gaps (numerals.map fun digits => (Text.digitsValue digits : Int)), gap = step

theorem valuesOf?_eq_some_iff {α : Type} {f : CellValue → Option α} {make : α → CellValue} {P : α → Prop}
    (reads : ∀ value a, f value = some a ↔ value = make a ∧ P a) {found : List α} :
    valuesOf? f cells = some found ↔ Holds cells (found.map make) ∧ ∀ a ∈ found, P a := by
  unfold valuesOf? Holds
  induction cells generalizing found with
  | nil => cases found <;> simp
  | cons entry rest ih =>
    have reading (a : α) : (entry.bind fun cell => cell.value.toOption.bind f) = some a ↔
        valueOf? entry = some (make a) ∧ P a := by
      cases entry with
      | none => simp [valueOf?]
      | some cell => simp [valueOf?, Option.bind_eq_some_iff, reads]
    cases found with
    | nil => simp [List.mapM_cons, Option.bind_eq_some_iff]
    | cons a found =>
      simp only [List.mapM_cons, Option.bind_eq_bind, Option.bind_eq_some_iff, reading, ih, Option.pure_def,
        Option.some.injEq, List.cons.injEq, List.map_cons, List.forall_mem_cons]
      constructor
      · rintro ⟨b, ⟨same, holds⟩, others, ⟨rest, all⟩, rfl, rfl⟩
        exact ⟨⟨same, rest⟩, holds, all⟩
      · rintro ⟨⟨same, rest⟩, holds, all⟩
        exact ⟨a, ⟨same, holds⟩, found, ⟨rest, all⟩, rfl, rfl⟩

theorem constantStep?_eq_some_iff : constantStep? tolerance numbers = some step ↔ ∃ later, gaps numbers = step :: later ∧
    step.same 0 = false ∧ ∀ gap ∈ later, ¬tolerance < (gap - step).abs := by
  match numbers with
  | [] => simp [constantStep?, gaps]
  | [_] => simp [constantStep?, gaps]
  | first :: second :: rest =>
    have others : List.zipWith (fun low high => high - low) (second :: rest) rest =
        ((second :: rest).zip rest).map fun pair => pair.2 - pair.1 := by rw [List.zip_eq_zipWith, List.map_zipWith]
    simp only [constantStep?, gaps, List.tail_cons, List.zipWith_cons_cons, List.cons.injEq, others]
    constructor
    · intro found
      split at found
      · cases found
      · rename_i steady
        cases found
        simp only [Bool.or_eq_true, List.any_eq_true, decide_eq_true_eq, not_or, not_exists, not_and, Bool.not_eq_true]
          at steady
        exact ⟨_, ⟨rfl, rfl⟩, steady.1, List.forall_mem_map.mpr steady.2⟩
    · rintro ⟨_, ⟨rfl, rfl⟩, moves, near⟩
      rw [List.forall_mem_map] at near
      rw [if_neg]
      simpa only [moves, Bool.false_or, List.any_eq_true, decide_eq_true_eq, not_exists, not_and] using near

theorem kind_of_detectLinear? {template : Cell} {pattern : FillPattern}
    (found : detectLinear? template cells = some pattern) : pattern.kind = "linear" := by
  simp only [detectLinear?, Option.bind_eq_bind, Option.bind_eq_some_iff, Option.pure_def, Option.some.injEq] at found
  obtain ⟨_, _, _, _, _, _, rfl⟩ := found
  rfl

/-- Steps are found in numbers of which there is a first. -/
theorem exists_head?_of_constantStep? (found : constantStep? tolerance numbers = some step) :
    ∃ start, numbers.head? = some start := by
  cases numbers with
  | nil => cases found
  | cons start rest => exact ⟨start, rfl⟩

theorem exists_detectLinear?_iff {template : Cell} : (∃ pattern, detectLinear? template cells = some pattern) ↔
    ∃ numbers step, Holds cells (numbers.map .number) ∧ constantStep? stepTolerance numbers = some step := by
  have reads (value : CellValue) (a : Number) : numberOf? value = some a ↔ value = .number a ∧ True := by
    cases value <;> simp [numberOf?]
  simp only [detectLinear?, Option.bind_eq_bind, Option.bind_eq_some_iff, Option.pure_def, Option.some.injEq,
    valuesOf?_eq_some_iff reads, implies_true, and_true]
  constructor
  · rintro ⟨_, numbers, holds, step, steady, _⟩
    exact ⟨numbers, step, holds, steady⟩
  · rintro ⟨numbers, step, holds, steady⟩
    obtain ⟨start, first⟩ := exists_head?_of_constantStep? steady
    exact ⟨_, numbers, holds, step, steady, start, first, rfl⟩

/-- If all differences are numbers, a constant step of numbers is found exactly where there is one. -/
theorem exists_detectLinear?_iff_isLinear {template : Cell}
    (sober : ∀ numbers, Holds cells (numbers.map .number) → ∀ gap ∈ gaps numbers, gap.isNaN = false) :
    (∃ pattern, detectLinear? template cells = some pattern) ↔ IsLinear cells := by
  have numeric : stepTolerance.isNaN = false := by decide +kernel
  have positive : ¬stepTolerance < 0 := by decide +kernel
  simp only [exists_detectLinear?_iff, constantStep?_eq_some_iff, IsLinear]
  refine exists_congr fun numbers => ?_
  rw [exists_and_left]
  refine and_congr_right fun holds => exists_congr fun step => exists_congr fun later => ?_
  refine and_congr_right fun same => ?_
  have sane := sober numbers holds
  rw [same, List.forall_mem_cons] at sane
  rw [and_iff_right sane.1]
  refine and_congr_right fun _ => forall₂_congr fun gap member => ?_
  rw [Near, and_iff_right (sane.2 gap member), Number.not_lt_abs_sub_iff (sane.2 gap member) sane.1 numeric positive]

theorem gaps_map {α β : Type} [Sub β] (f : α → β) (items : List α) :
    gaps (items.map f) = (items.zip items.tail).map fun pair => f pair.2 - f pair.1 := by
  rw [gaps, ← List.map_tail, List.zipWith_map, List.zip_eq_zipWith, List.map_zipWith]

/-- What lies between two neighbours is one of the gaps. -/
theorem sub_mem_gaps {α : Type} [Sub α] (values : List α) (index : Nat) {low high : α}
    (first : values[index]? = some low) (second : values[index + 1]? = some high) : high - low ∈ gaps values := by
  refine List.mem_of_getElem? (i := index) ?_
  rw [gaps, List.getElem?_zipWith, first, List.getElem?_tail, second]

section whole
variable {α : Type} {items : List α} {number : α → Number} {value : α → Int} {k : Int}
  (whole : ∀ item ∈ items, (number item).toInt? = some (value item))
  (near : ∀ gap ∈ gaps (items.map value), gap.natAbs < 2 ^ (53 : Nat))
include whole near

theorem toInt?_gap : ∀ pair ∈ items.zip items.tail,
    (number pair.2 - number pair.1).toInt? = some (value pair.2 - value pair.1) := by
  intro pair member
  obtain ⟨low, high⟩ := List.of_mem_zip member
  rw [gaps_map, List.forall_mem_map] at near
  exact Number.toInt?_sub (whole _ (List.mem_of_mem_tail high)) (whole _ low) (near pair member)

/-- Whole numbers that are not too far apart have the constant step that is found for them. -/
theorem exists_constantStep?_iff : (∃ step, constantStep? 0 (items.map number) = some step ∧ step.toInt? = some k) ↔
    k ≠ 0 ∧ gaps (items.map value) ≠ [] ∧ ∀ gap ∈ gaps (items.map value), gap = k := by
  have exact := toInt?_gap whole near
  simp only [constantStep?_eq_some_iff, gaps_map]
  cases pairs : items.zip items.tail with
  | nil => simp
  | cons first later =>
    rw [pairs, List.forall_mem_cons] at exact
    simp only [List.map_cons, List.cons.injEq, ne_eq, reduceCtorEq, not_false_eq_true, true_and, List.forall_mem_cons,
      List.forall_mem_map]
    have moves : (number first.2 - number first.1).same 0 = false ↔ value first.2 - value first.1 ≠ 0 := by
      rw [← Bool.not_eq_true, Number.same_iff_units (Number.toInt?_eq_some_iff.mp exact.1) Number.zero_units, ne_eq,
        Int.mul_eq_zero, or_iff_left (by exact_mod_cast Number.unitsPerOne_pos.ne')]
    have steady (pair : α × α) (member : pair ∈ later) :
        ¬0 < (number pair.2 - number pair.1 - (number first.2 - number first.1)).abs ↔
          value pair.2 - value pair.1 = value first.2 - value first.1 := by
      rw [Number.abs_sub_pos_iff (Number.toInt?_eq_some_iff.mp (exact.2 pair member))
        (Number.toInt?_eq_some_iff.mp exact.1), ne_eq, not_not]
      exact Int.mul_eq_mul_right_iff (by exact_mod_cast Number.unitsPerOne_pos.ne')
    constructor
    · rintro ⟨_, ⟨_, ⟨rfl, rfl⟩, moving, others⟩, is⟩
      obtain rfl := Option.some.inj (exact.1.symm.trans is)
      rw [List.forall_mem_map] at others
      exact ⟨moves.mp moving, rfl, fun pair member => (steady pair member).mp (others pair member)⟩
    · rintro ⟨moving, rfl, others⟩
      refine ⟨_, ⟨_, ⟨rfl, rfl⟩, moves.mpr moving, List.forall_mem_map.mpr fun pair member => ?_⟩, exact.1⟩
      exact (steady pair member).mpr (others pair member)

/-- Every step that is found is a whole number. -/
theorem exists_toInt?_of_constantStep? (found : constantStep? 0 (items.map number) = some step) :
    ∃ k, step.toInt? = some k := by
  have exact := toInt?_gap whole near
  obtain ⟨later, same, _⟩ := constantStep?_eq_some_iff.mp found
  rw [gaps_map] at same
  obtain ⟨pair, member, rfl⟩ := List.mem_map.mp (same ▸ List.mem_cons_self)
  exact ⟨_, exact pair member⟩

end whole

/-- A step that some gap is of is no larger than gaps are. -/
theorem natAbs_lt_of_forall_eq {steps : List Int} {k : Int} {bound : Nat} (some : steps ≠ []) (all : ∀ gap ∈ steps, gap = k)
    (near : ∀ gap ∈ steps, gap.natAbs < bound) : k.natAbs < bound := by
  obtain ⟨gap, member⟩ := List.exists_mem_of_ne_nil _ some
  exact all gap member ▸ near gap member

/-- A pattern of dates is that of dates a constant step apart, this being a multiple of a day, and the first of them. -/
theorem detectDate?_eq_some_iff {template : Cell} {pattern : FillPattern} :
    detectDate? template cells = some pattern ↔ ∃ (dates : List (Option Instant)) (step : Number) (origin : Instant),
      Holds cells (dates.map .date) ∧ constantStep? 0 (dates.map dateTime) = some step ∧
        (step % .ofNat msPerDay).same 0 = true ∧ dates.head? = some (some origin) ∧
          date template origin (step / .ofNat msPerDay) dates.length = pattern := by
  have reads (value : CellValue) (a : Option Instant) : dateOf? value = some a ↔ value = .date a ∧ True := by
    cases value <;> simp [dateOf?]
  simp only [detectDate?, Option.bind_eq_bind, Option.bind_none, Option.ite_none_left_eq_some, Option.bind_eq_some_iff,
    Option.pure_def, Option.some.injEq, Bool.not_eq_true', Bool.not_eq_false, valuesOf?_eq_some_iff reads, implies_true,
    and_true]
  constructor
  · rintro ⟨dates, holds, step, steady, even, _, first, origin, rfl, rfl⟩
    exact ⟨dates, step, origin, holds, steady, even, first, rfl⟩
  · rintro ⟨dates, step, origin, holds, steady, even, first, rfl⟩
    exact ⟨dates, holds, step, steady, even, _, first, origin, rfl, rfl⟩

theorem splitSuffix?_eq_some_iff {text head digits : List Char} : splitSuffix? text = some (head, digits) ↔
    text = head ++ digits ∧ head.any Text.isLineBreak = false ∧ (∀ c ∈ head.getLast?, c.isDigit = false) ∧
      Text.allDigits digits = true := by
  constructor
  · intro split
    obtain ⟨front, run, parts, whole, ends⟩ : ∃ front run, (text.reverse.takeWhile Char.isDigit).reverse = run ∧
        text = front ++ run ∧ ∀ c ∈ front.getLast?, c.isDigit = false := by
      refine ⟨(text.reverse.dropWhile Char.isDigit).reverse, _, rfl, ?_, fun c last => ?_⟩
      · rw [← List.reverse_append, List.takeWhile_append_dropWhile, List.reverse_reverse]
      · have stops := List.head?_dropWhile_not Char.isDigit text.reverse
        rwa [← List.getLast?_reverse, Option.mem_def.mp last] at stops
    have cut : text.take (text.length - run.length) = front := by simp [whole]
    rw [splitSuffix?, parts, cut, Option.ite_none_left_eq_some, Bool.or_eq_true, not_or, Bool.not_eq_true,
      Bool.not_eq_true, Option.some.injEq, Prod.mk.injEq] at split
    obtain ⟨⟨some, line⟩, rfl, rfl⟩ := split
    refine ⟨whole, line, ends, ?_⟩
    rw [Text.allDigits, some, ← parts]
    simp
  · rintro ⟨rfl, line, ends, numeral⟩
    exact splitSuffix?_append line ends numeral

/-- A text is read as its head and the numeral at its end. -/
theorem suffixOf?_eq_some_iff {value : CellValue} {head digits : List Char} :
    suffixOf? value = some (head, digits) ↔ value = .text (String.ofList (head ++ digits)) ∧ Numbering head digits := by
  cases value with
  | text content =>
    rw [suffixOf?, Option.filter_eq_some_iff, splitSuffix?_eq_some_iff, CellValue.text.injEq, ← String.toList_inj,
      String.toList_ofList, and_assoc]
    refine and_congr_right fun _ => ?_
    constructor
    · rintro ⟨⟨line, ends, numeral⟩, safe⟩
      exact ⟨line, ends, numeral, of_decide_eq_true safe⟩
    · rintro ⟨line, ends, numeral, safe⟩
      exact ⟨⟨line, ends, numeral⟩, decide_eq_true safe⟩
  | _ => simp [suffixOf?]

/-- A pattern of texts is that of texts with one head and numbers a constant step apart. -/
theorem detectSuffix?_eq_some_iff {template : Cell} {pattern : FillPattern} :
    detectSuffix? template cells = some pattern ↔ ∃ (head digits : List Char) (rest : List (List Char)) (step : Number),
      Holds cells ((digits :: rest).map fun digits => .text (String.ofList (head ++ digits))) ∧
        (∀ numeral ∈ digits :: rest, Numbering head numeral) ∧
          constantStep? 0 ((digits :: rest).map fun digits => .ofNat (Text.digitsValue digits)) = some step ∧
            textSuffix template head digits.length (.ofNat (Text.digitsValue digits)) step (rest.length + 1) = pattern := by
  have reads (value : CellValue) (a : List Char × List Char) : suffixOf? value = some a ↔
      value = .text (String.ofList (a.1 ++ a.2)) ∧ Numbering a.1 a.2 := suffixOf?_eq_some_iff
  simp only [detectSuffix?, Option.bind_eq_bind, Option.bind_none, Option.ite_none_left_eq_some, Option.bind_eq_some_iff,
    Option.pure_def, Option.some.injEq, valuesOf?_eq_some_iff reads, Bool.not_eq_true, List.any_eq_false, bne_iff_ne,
    ne_eq, not_not]
  constructor
  · rintro ⟨suffixes, ⟨holds, all⟩, ⟨head, digits⟩, first, heads, step, steady, start, starts, rfl⟩
    obtain ⟨rest, rfl⟩ : ∃ rest : List (List Char), suffixes = (digits :: rest).map (Prod.mk head) := by
      obtain ⟨others, rfl⟩ := List.head?_eq_some_iff.mp first
      refine ⟨others.map Prod.snd, ?_⟩
      rw [List.map_cons, List.map_map, List.cons.injEq, and_iff_right rfl]
      refine (List.map_id' others).symm.trans (List.map_congr_left fun suffix member => ?_)
      exact Prod.ext (heads suffix (List.mem_cons_of_mem _ member)) rfl
    rw [List.map_map] at holds steady starts
    rw [List.forall_mem_map] at all
    obtain rfl := Option.some.inj starts
    refine ⟨head, digits, rest, step, holds, all, steady, ?_⟩
    rw [List.length_map, List.length_cons]
    rfl
  · rintro ⟨head, digits, rest, step, holds, all, steady, rfl⟩
    refine ⟨(digits :: rest).map (Prod.mk head), ⟨?_, List.forall_mem_map.mpr all⟩, _, rfl, List.forall_mem_map.mpr
      fun _ _ => rfl, step, ?_, _, rfl, by rw [List.length_map, List.length_cons]⟩
    · rwa [List.map_map]
    · rwa [List.map_map]

theorem kind_of_detectDate? {template : Cell} {pattern : FillPattern}
    (found : detectDate? template cells = some pattern) : pattern.kind = "date" := by
  obtain ⟨_, _, _, _, _, _, _, rfl⟩ := detectDate?_eq_some_iff.mp found
  rfl

theorem kind_of_detectSuffix? {template : Cell} {pattern : FillPattern}
    (found : detectSuffix? template cells = some pattern) : pattern.kind = "textSuffix" := by
  obtain ⟨_, _, _, _, _, _, _, rfl⟩ := detectSuffix?_eq_some_iff.mp found
  rfl

/-- Nothing in a run makes it look like one of another kind: no difference of its numbers is not-a-number, and its dates are
points in time whose year is not short and that are not so far apart that their distance is rounded. -/
structure Sober (cells : List (Option Cell)) : Prop where
  numbers : ∀ numbers, Holds cells (numbers.map .number) → ∀ gap ∈ gaps numbers, gap.isNaN = false
  dates : ∀ dates, Holds cells (dates.map .date) → ∃ instants : List Instant, dates = instants.map some ∧
    (∀ instant ∈ instants, ¬instant.HasShortYear) ∧ ∀ gap ∈ gaps (instants.map Instant.ms), gap.natAbs < 2 ^ (53 : Nat)

/-- The time of a date whose year is not short is that of the point in time. -/
theorem toInt?_dateTime {instant : Instant} (long : ¬instant.HasShortYear) :
    (dateTime (some instant)).toInt? = some instant.ms := by
  have bounded := instant.bounded
  have same : dateTime (some instant) = .ofInt instant.ms := by
    rw [dateTime, Option.bind_some, Instant.reread?_of_long long]
    rfl
  rw [same, Number.toInt?_ofInt (by omega)]

theorem toInt?_msPerDay : (Number.ofNat msPerDay).toInt? = some (msPerDay : Int) := Number.toInt?_ofNat (by decide)

theorem Holds.length_eq {α : Type} {make : α → CellValue} {items : List α} (holds : Holds cells (items.map make)) :
    items.length = cells.length := by
  simpa using (congrArg List.length holds).symm

/-- The values of a run are told once. -/
theorem Holds.unique {α : Type} {make : α → CellValue} (injective : make.Injective) {items others : List α}
    (first : Holds cells (items.map make)) (second : Holds cells (others.map make)) : items = others :=
  injective.list_map ((Option.some_injective CellValue).list_map (first.symm.trans second))

/-- Two values have one between them. -/
theorem gaps_ne_nil {α : Type} [Sub α] {values : List α} (several : 2 ≤ values.length) : gaps values ≠ [] := by
  match values, several with
  | first :: second :: rest, _ => simp [gaps]

section several
variable {template : Cell} (several : 2 ≤ cells.length)
include several

/-- Dates that are days apart are found, with their step in days. -/
theorem exists_detectDate?_of_daily {dates : List Instant} {days : Int} {origin : Instant} (template : Cell)
    (holds : Holds cells (dates.map fun instant => .date (some instant))) (daily : Daily dates days)
    (first : dates.head? = some origin) (long : ∀ instant ∈ dates, ¬instant.HasShortYear)
    (near : ∀ gap ∈ gaps (dates.map Instant.ms), gap.natAbs < 2 ^ (53 : Nat)) :
    ∃ step, detectDate? template cells = some (date template origin step dates.length) ∧ step.toInt? = some days := by
  have whole := fun instant member => toInt?_dateTime (long instant member)
  have enough : 2 ≤ dates.length := holds.length_eq ▸ several
  have distant : gaps (dates.map Instant.ms) ≠ [] := gaps_ne_nil (by simpa using enough)
  have small := natAbs_lt_of_forall_eq distant daily.2 near
  obtain ⟨step, steady, steps⟩ := (exists_constantStep?_iff whole near).mpr
    ⟨Int.mul_ne_zero daily.1 (by decide), distant, daily.2⟩
  have even := (Number.rem_same_zero_iff steps toInt?_msPerDay (by decide) small).mpr ⟨days, Int.mul_comm _ _⟩
  have quotient := Number.toInt?_div steps toInt?_msPerDay (by decide) rfl
    (by rw [Int.natAbs_mul] at small; exact (Nat.le_mul_of_pos_right _ (by decide)).trans_lt small)
  refine ⟨_, detectDate?_eq_some_iff.mpr ⟨dates.map some, step, origin, ?_, ?_, even, ?_, ?_⟩, quotient⟩
  · rwa [List.map_map]
  · rwa [List.map_map]
  · rw [List.head?_map, first, Option.map_some]
  · rw [List.length_map]

/-- If nothing is mistaken in its dates, a run of them is found exactly where there is one. -/
theorem exists_detectDate?_iff (sober : Sober cells) :
    (∃ pattern, detectDate? template cells = some pattern) ↔ IsDaily cells := by
  constructor
  · rintro ⟨_, found⟩
    obtain ⟨_, step, origin, holds, steady, even, _, _⟩ := detectDate?_eq_some_iff.mp found
    obtain ⟨dates, rfl, long, near⟩ := sober.dates _ holds
    rw [List.map_map] at holds steady
    have whole := fun instant member => toInt?_dateTime (long instant member)
    obtain ⟨k, steps⟩ := exists_toInt?_of_constantStep? whole near steady
    obtain ⟨moves, distant, all⟩ := (exists_constantStep?_iff whole near).mp ⟨step, steady, steps⟩
    have small := natAbs_lt_of_forall_eq distant all near
    obtain ⟨days, rfl⟩ := (Number.rem_same_zero_iff steps toInt?_msPerDay (by decide) small).mp even
    rw [Int.mul_comm] at moves all
    exact ⟨dates, days, holds, left_ne_zero_of_mul moves, all⟩
  · rintro ⟨dates, days, holds, daily⟩
    obtain ⟨_, same, long, near⟩ := sober.dates (dates.map some) (by rwa [List.map_map])
    obtain rfl := (Option.some_injective Instant).list_map same
    obtain ⟨origin, rest, rfl⟩ := List.exists_cons_of_length_pos (l := dates) (by rw [holds.length_eq]; omega)
    obtain ⟨step, found, _⟩ := exists_detectDate?_of_daily several template holds daily rfl long near
    exact ⟨_, found⟩

section numbering
variable {head : List Char} {numerals : List (List Char)} (all : ∀ digits ∈ numerals, Numbering head digits)
include all

omit several in
theorem toInt?_of_numbering : ∀ digits ∈ numerals,
    (Number.ofNat (Text.digitsValue digits)).toInt? = some (Text.digitsValue digits : Int) :=
  fun digits member => Number.toInt?_ofNat (all digits member).safe

omit several in
theorem natAbs_gap_lt : ∀ gap ∈ gaps (numerals.map fun digits => (Text.digitsValue digits : Int)),
    gap.natAbs < 2 ^ (53 : Nat) := by
  rw [gaps_map, List.forall_mem_map]
  intro pair member
  obtain ⟨low, high⟩ := List.of_mem_zip member
  have below := (all _ low).safe
  have above := (all _ (List.mem_of_mem_tail high)).safe
  rw [Number.safeBound] at below above
  omega

/-- Texts that are numbered by a constant step are found, with this step. -/
theorem exists_detectSuffix?_of_numbering (template : Cell)
    (holds : Holds cells (numerals.map fun digits => .text (String.ofList (head ++ digits)))) {k : Int} (moves : k ≠ 0)
    (steady : ∀ gap ∈ gaps (numerals.map fun digits => (Text.digitsValue digits : Int)), gap = k) :
    ∃ digits step, numerals.head? = some digits ∧ step.toInt? = some k ∧ detectSuffix? template cells =
      some (textSuffix template head digits.length (.ofNat (Text.digitsValue digits)) step numerals.length) := by
  have enough : 2 ≤ numerals.length := holds.length_eq ▸ several
  have distant : gaps (numerals.map fun digits => (Text.digitsValue digits : Int)) ≠ [] :=
    gaps_ne_nil (by simpa using enough)
  obtain ⟨step, constant, steps⟩ :=
    (exists_constantStep?_iff (toInt?_of_numbering all) (natAbs_gap_lt all)).mpr ⟨moves, distant, steady⟩
  match numerals, enough with
  | digits :: rest, _ =>
    exact ⟨digits, step, rfl, steps, detectSuffix?_eq_some_iff.mpr ⟨head, digits, rest, step, holds, all, constant, rfl⟩⟩

end numbering

/-- A run of numbered texts is found exactly where there is one. -/
theorem exists_detectSuffix?_iff : (∃ pattern, detectSuffix? template cells = some pattern) ↔ IsNumbered cells := by
  constructor
  · rintro ⟨_, found⟩
    obtain ⟨head, digits, rest, step, holds, all, steady, _⟩ := detectSuffix?_eq_some_iff.mp found
    have whole := toInt?_of_numbering all
    have near := natAbs_gap_lt all
    obtain ⟨k, steps⟩ := exists_toInt?_of_constantStep? whole near steady
    obtain ⟨moves, _, equal⟩ := (exists_constantStep?_iff whole near).mp ⟨step, steady, steps⟩
    exact ⟨head, digits :: rest, holds, all, k, moves, equal⟩
  · rintro ⟨head, numerals, holds, all, k, moves, steady⟩
    obtain ⟨_, _, _, _, found⟩ := exists_detectSuffix?_of_numbering several all template holds moves steady
    exact ⟨_, found⟩

end several

/-- Every cell of a run whose values are told is there. -/
theorem Holds.ne_none {values : List CellValue} (holds : Holds cells values) : none ∉ cells := by
  intro member
  have valued : valueOf? none ∈ values.map some := holds ▸ List.mem_map_of_mem member
  simp [valueOf?] at valued

/-- A cell that has a value is there, and this is the value of its content. -/
theorem exists_of_valueOf? {entry : Option Cell} {value : CellValue} (valued : valueOf? entry = some value) :
    ∃ (cell : Cell) (content : Content CellValue), entry = some cell ∧ cell.value = .present content ∧
      content.value = value := by
  obtain ⟨cell, rfl, taken⟩ := Option.bind_eq_some_iff.mp valued
  cases aspect : cell.value with
  | present content =>
    rw [aspect] at taken
    exact ⟨cell, content, rfl, aspect, Option.some.inj taken⟩
  | absent | blank =>
    rw [aspect] at taken
    cases taken

/-- A run that begins with a value of another type has no pattern of numbers, and none of dates. -/
theorem detectLinear?_eq_none {template : Cell} {value : CellValue} {values : List CellValue}
    (holds : Holds cells (value :: values)) (other : numberOf? value = none) : detectLinear? template cells = none := by
  match cells, holds with
  | first :: rest, holds =>
    obtain ⟨cell, content, rfl, present, rfl⟩ := exists_of_valueOf? (List.cons.inj holds).1
    simp [detectLinear?, valuesOf?_cons present, other]

theorem detectDate?_eq_none {template : Cell} {value : CellValue} {values : List CellValue}
    (holds : Holds cells (value :: values)) (other : dateOf? value = none) : detectDate? template cells = none := by
  match cells, holds with
  | first :: rest, holds =>
    obtain ⟨cell, content, rfl, present, rfl⟩ := exists_of_valueOf? (List.cons.inj holds).1
    simp [detectDate?, valuesOf?_cons present, other]

/-- In a constant run all values are the same, however styles and rich texts are compared. -/
theorem IsConstant.same_values {first : Option Cell} {rest : List (Option Cell)} {value : CellValue}
    {values : List CellValue} (constant : IsConstant equality first rest) (holds : Holds (first :: rest) (value :: values)) :
    ∀ other ∈ values, other = value ∨ other.same value = true := by
  intro other member
  obtain ⟨begins, goes⟩ := List.cons.inj holds
  obtain ⟨entry, listed, valued⟩ := List.mem_map.mp (goes ▸ List.mem_map_of_mem (f := some) member)
  obtain ⟨cell, content, rfl, present, rfl⟩ := exists_of_valueOf? begins
  obtain ⟨_, copy, rfl, given, rfl⟩ := exists_of_valueOf? valued
  exact equality.same_of_present given present (constant _ listed)

theorem detect_of_isConstant {first : Option Cell} {rest : List (Option Cell)} (constant : IsConstant equality first rest) :
    detect equality (first :: rest) = .constant first := by
  rw [detect.eq_def]
  dsimp only
  rw [if_pos (List.all_eq_true.mpr constant)]

theorem length_of_not_isConstant {first : Option Cell} {rest : List (Option Cell)}
    (moving : ¬IsConstant equality first rest) : 2 ≤ (first :: rest).length := by
  cases rest with
  | nil => exact absurd (fun _ member => nomatch member) moving
  | cons second rest => simp

/-- The pattern of a run that is not constant goes on from its first cell, or plays the run over again. -/
theorem detect_of_not_isConstant {first : Option Cell} {rest : List (Option Cell)}
    (moving : ¬IsConstant equality first rest) :
    detect equality (first :: rest) = (first.bind fun template =>
      (detectLinear? template (first :: rest)).or ((detectDate? template (first :: rest)).or
        (detectSuffix? template (first :: rest)))).getD (cycle (first :: rest)) := by
  rw [detect.eq_def]
  dsimp only
  rw [if_neg (by simpa [IsConstant] using moving)]
  cases first <;> rfl

/-- How the pattern of a run comes about. -/
theorem detect_cases (equality : CellEquality) (cells : List (Option Cell)) :
    (∃ cell, detect equality cells = constant cell) ∨ 2 ≤ cells.length ∧
      ((∃ template, detectLinear? template cells = some (detect equality cells)) ∨
        (∃ template, detectDate? template cells = some (detect equality cells)) ∨
        (∃ template, detectSuffix? template cells = some (detect equality cells)) ∨
        detect equality cells = cycle cells) := by
  cases cells with
  | nil => exact .inl ⟨none, rfl⟩
  | cons first rest =>
    by_cases same : IsConstant equality first rest
    · exact .inl ⟨first, detect_of_isConstant same⟩
    · refine .inr ⟨length_of_not_isConstant same, ?_⟩
      rw [detect_of_not_isConstant same]
      cases first with
      | none => exact .inr (.inr (.inr rfl))
      | some template =>
        rw [Option.bind_some]
        cases linear : detectLinear? template (some template :: rest) with
        | some pattern => exact .inl ⟨template, linear⟩
        | none =>
          cases date : detectDate? template (some template :: rest) with
          | some pattern => exact .inr (.inl ⟨template, date⟩)
          | none =>
            cases suffix : detectSuffix? template (some template :: rest) with
            | some pattern => exact .inr (.inr (.inl ⟨template, suffix⟩))
            | none => exact .inr (.inr (.inr rfl))

open Classical in
/-- A run that does not look like one of another kind has the first kind that it is of. -/
theorem kind_detect (equality : CellEquality) (first : Option Cell) (rest : List (Option Cell))
    (sober : ¬IsConstant equality first rest → Sober (first :: rest)) :
    (detect equality (first :: rest)).kind =
      if IsConstant equality first rest then "constant"
      else if IsLinear (first :: rest) then "linear"
      else if IsDaily (first :: rest) then "date"
      else if IsNumbered (first :: rest) then "textSuffix"
      else "cycle" := by
  by_cases moving : IsConstant equality first rest
  · rw [if_pos moving, detect_of_isConstant moving]
    rfl
  have sane := sober moving
  have several := length_of_not_isConstant moving
  rw [if_neg moving, detect_of_not_isConstant moving]
  cases first with
  | none =>
    rw [if_neg, if_neg, if_neg]
    · rfl
    · rintro ⟨_, _, holds, _⟩
      exact holds.ne_none List.mem_cons_self
    · rintro ⟨_, _, holds, _⟩
      exact holds.ne_none List.mem_cons_self
    · rintro ⟨_, holds, _⟩
      exact holds.ne_none List.mem_cons_self
  | some template =>
    let run := some template :: rest
    have linearly : (∃ pattern, detectLinear? template run = some pattern) ↔ IsLinear run :=
      exists_detectLinear?_iff_isLinear sane.numbers
    have daily : (∃ pattern, detectDate? template run = some pattern) ↔ IsDaily run := exists_detectDate?_iff several sane
    have numbered : (∃ pattern, detectSuffix? template run = some pattern) ↔ IsNumbered run :=
      exists_detectSuffix?_iff several
    rw [Option.bind_some, ← linearly, ← daily, ← numbered]
    cases linear : detectLinear? template (some template :: rest) with
    | some pattern =>
      rw [if_pos ⟨_, rfl⟩]
      exact kind_of_detectLinear? linear
    | none =>
      rw [if_neg (by simp), Option.none_or]
      cases date : detectDate? template (some template :: rest) with
      | some pattern =>
        rw [if_pos ⟨_, rfl⟩]
        exact kind_of_detectDate? date
      | none =>
        rw [if_neg (by simp), Option.none_or]
        cases suffix : detectSuffix? template (some template :: rest) with
        | some pattern =>
          rw [if_pos ⟨_, rfl⟩]
          exact kind_of_detectSuffix? suffix
        | none =>
          rw [if_neg (by simp)]
          rfl

/-- The days around a leap day are dates one day apart. -/
theorem kind_detect_leap_days :
    let dates : List Instant := [⟨1709078400000, by decide⟩, ⟨1709164800000, by decide⟩, ⟨1709251200000, by decide⟩]
    let run := dates.map fun instant => some (Cell.ofValue (.date (some instant)))
    Sober run ∧ (detect {} run).kind = "date" ∧ IsDaily run := by
  intro dates run
  have sober : Sober run := by
    refine ⟨fun numbers holds => ?_, fun found holds => ⟨dates, ?_, ?_, by decide +kernel⟩⟩
    · cases numbers <;> cases holds
    · exact Holds.unique (fun _ _ => CellValue.date.inj) holds rfl
    · unfold Instant.HasShortYear
      decide +kernel
  have kind : (detect {} run).kind = "date" := by decide +kernel
  refine ⟨sober, kind, ?_⟩
  have told := (kind_detect {} _ run.tail fun _ => sober).symm.trans kind
  split_ifs at told with constant linear daily numbered
  · exact absurd told (by decide)
  · exact absurd told (by decide)
  · exact daily
  · exact absurd told (by decide)
  · exact absurd told (by decide)

/-- Two numbers and not-a-number are taken for numbers a constant step apart, though the second gap is no number. -/
theorem kind_detect_undefined_gap :
    let run := [1, 2, Number.nan].map fun number => some (Cell.ofValue (.number number))
    (detect {} run).kind = "linear" ∧ ¬IsConstant {} (run.head (by decide)) run.tail ∧ ¬IsLinear run ∧ ¬IsDaily run ∧
      ¬IsNumbered run := by
  intro run
  refine ⟨by decide +kernel, ?_, ?_, ?_, ?_⟩
  · unfold IsConstant
    decide +kernel
  · rintro ⟨numbers, holds, step, later, same, _, _, near⟩
    have listed : Holds run ([1, 2, Number.nan].map .number) := rfl
    obtain rfl := Holds.unique (fun _ _ => CellValue.number.inj) holds listed
    obtain ⟨rfl, rfl⟩ := List.cons.inj same
    exact absurd (near _ List.mem_cons_self).1 (by decide +kernel)
  · rintro ⟨dates, _, holds, _⟩
    cases dates <;> cases holds
  · rintro ⟨_, numerals, holds, _⟩
    cases numerals <;> cases holds

end FillPattern
end Spreadsheet
