import Spreadsheet.Proofs.Calendar.Serials
import Spreadsheet.Proofs.Fill.Classification

/-! A run of dates that are a constant number of days apart goes on by this number of days, at the same time of the day. Only
a year of at most two digits is in the way: it is read as one of the twentieth century. -/
namespace Spreadsheet

namespace FillPattern
attribute [local instance (high)] instPowNat
variable {equality : CellEquality} {cells : List (Option Cell)} {dates : List Instant} {days : Int}
  {origin last result : Instant}

/-- Each date lies as many steps after the first one as its place is. -/
theorem Daily.ms_eq (daily : Daily dates days) (first : dates[0]? = some origin) {index : Nat} {instant : Instant}
    (place : dates[index]? = some instant) : instant.ms = origin.ms + days * index * msPerDay := by
  induction index generalizing instant with
  | zero =>
    obtain rfl := Option.some.inj (first.symm.trans place)
    simp
  | succ index ih =>
    obtain ⟨before, low⟩ : ∃ before, dates[index]? = some before :=
      ⟨_, List.getElem?_eq_getElem (by have := (List.getElem?_eq_some_iff.mp place).1; omega)⟩
    have gap := daily.2 _ (sub_mem_gaps (dates.map Instant.ms) index (by rw [List.getElem?_map, low]; rfl)
      (by rw [List.getElem?_map, place]; rfl))
    rw [sub_eq_iff_eq_add.mp gap, ih low]
    push_cast
    ring

/-- Points in time of the years that are told with four digits are not too far apart to be reckoned with. -/
theorem natAbs_sub_lt {a b : Instant} (first : 0 ≤ a.date.year ∧ a.date.year ≤ 9999)
    (second : 0 ≤ b.date.year ∧ b.date.year ≤ 9999) : (a.ms - b.ms).natAbs < 2 ^ (50 : Nat) := by
  have one := Instant.abs_ms_sub_serialEpoch_le first.1 first.2
  have other := Instant.abs_ms_sub_serialEpoch_le second.1 second.2
  rw [abs_le] at one other
  omega

/-- The day that is reckoned for a place after the run is that of the date which lies so many steps after the first one. -/
theorem withDay?_reached {step : Number} {length index : Nat} (steps : step.toInt? = some days) (moves : days ≠ 0)
    (long : 100 ≤ origin.date.year ∧ origin.date.year ≤ 9999) (told : 0 ≤ result.date.year ∧ result.date.year ≤ 9999)
    (away : result.ms = origin.ms + days * (length + index) * msPerDay) :
    (Number.ofNat origin.date.day + step * (.ofNat length + .ofNat index)).truncate?.bind origin.withDay? = some result := by
  have close := natAbs_sub_lt (a := result) (b := origin) told (by omega)
  have small : (days * (length + index)).natAbs < 2 ^ (50 : Nat) := by
    rw [away, add_sub_cancel_left, Int.natAbs_mul] at close
    exact (Nat.le_mul_of_pos_right _ (by decide)).trans_lt close
  have few : length + index < 2 ^ (50 : Nat) := by
    refine Nat.lt_of_le_of_lt ?_ small
    rw [Int.natAbs_mul]
    exact Nat.le_mul_of_pos_left _ (Int.natAbs_pos.mpr moves)
  have count := Number.toInt?_add (Number.toInt?_ofNat (k := length) (by omega)) (Number.toInt?_ofNat (k := index) (by omega))
    (by omega)
  have month : origin.date.day ≤ 31 := Calendar.day_le origin.dayNumber
  have sum := Number.toInt?_add (Number.toInt?_ofNat (k := origin.date.day) (by omega))
    (Number.toInt?_mul steps count (by omega)) (by omega)
  have proper : ¬origin.HasShortYear := fun short => absurd long.1 (by have := short.2; omega)
  rw [Number.truncate?_of_toInt? sum, Option.bind_some, Instant.withDay?_add proper away]

/-- Dates that are days apart are not all the same. -/
theorem not_isConstant_of_daily {first : Option Cell} {rest : List (Option Cell)}
    (holds : Holds (first :: rest) (dates.map fun instant => .date (some instant))) (several : 2 ≤ dates.length)
    (daily : Daily dates days) : ¬IsConstant equality first rest := by
  intro constant
  match dates, several with
  | origin :: second :: others, _ =>
    have same := constant.same_values holds _ List.mem_cons_self
    have apart : second.ms = origin.ms + days * (1 : Nat) * msPerDay := daily.ms_eq rfl rfl
    simp only [CellValue.date.injEq, Option.some.injEq, CellValue.same, decide_eq_true_eq, or_self] at same
    subst same
    have moves := daily.1
    simp only [msPerDay] at apart
    omega

/-- A run of dates goes on by its number of days, as far as the years are told with four digits; the time of the day stays. -/
theorem generate_detect_of_daily (equality : CellEquality)
    (holds : Holds cells (dates.map fun instant => .date (some instant))) (several : 2 ≤ dates.length)
    (daily : Daily dates days) (long : ∀ instant ∈ dates, 100 ≤ instant.date.year ∧ instant.date.year ≤ 9999)
    (ends : dates.getLast? = some last) :
    (detect equality cells).kind = "date" ∧ ∀ (index : Nat) (result : Instant),
      result.ms = last.ms + (index + 1) * days * msPerDay → 0 ≤ result.date.year → result.date.year ≤ 9999 →
        ∃ template, cells.head? = some (some template) ∧
          (detect equality cells).generate (.ofNat index) = some (templated template (.date (some result))) ∧
            result.timeOfDay = last.timeOfDay := by
  obtain ⟨origin, rest, rfl⟩ := List.exists_cons_of_length_pos (Nat.lt_of_lt_of_le Nat.zero_lt_two several)
  obtain ⟨entry, others, rfl⟩ := List.exists_cons_of_length_pos (l := cells) (by rw [← holds.length_eq]; omega)
  obtain ⟨first, _, rfl, _, _⟩ := exists_of_valueOf? (List.cons.inj holds).1
  have near : ∀ gap ∈ gaps ((origin :: rest).map Instant.ms), gap.natAbs < 2 ^ (53 : Nat) := by
    rw [gaps_map, List.forall_mem_map]
    intro pair member
    obtain ⟨low, high⟩ := List.of_mem_zip member
    have below := long _ low
    have above := long _ (List.mem_of_mem_tail high)
    exact (natAbs_sub_lt (by omega) (by omega)).trans (by decide)
  have proper (instant : Instant) (member : instant ∈ origin :: rest) : ¬instant.HasShortYear := by
    intro short
    have := (long instant member).1
    have := short.2
    omega
  obtain ⟨step, found, steps⟩ := exists_detectDate?_of_daily (holds.length_eq ▸ several) first holds daily rfl proper near
  rw [detect_of_not_isConstant (not_isConstant_of_daily holds several daily), Option.bind_some,
    detectLinear?_eq_none holds rfl, Option.none_or, found]
  have reached := daily.ms_eq rfl (List.getLast?_eq_getElem? ▸ ends)
  refine ⟨rfl, fun index result later early late => ⟨first, rfl, ?_, ?_⟩⟩
  · have away : result.ms = origin.ms + days * ((origin :: rest).length + index) * msPerDay := by
      rw [later, reached]
      simp only [List.length_cons, Nat.add_sub_cancel]
      push_cast
      ring
    have day := withDay?_reached steps daily.1 (long origin List.mem_cons_self) ⟨early, late⟩ away
    exact congrArg (fun date => some (templated first (.date date))) day
  · exact Instant.timeOfDay_of_days later

/-- Two dates a week apart, on 1 and 8 February 2024 at half past nine, go on through the leap day. -/
theorem generate_detect_weeks :
    let dates : List Instant := [⟨1706779800000, by decide⟩, ⟨1707384600000, by decide⟩]
    let template (instant : Instant) := Cell.ofValue (.date (some instant))
    let run := dates.map fun instant => some (template instant)
    (detect {} run).generate (.ofNat 3) = some (template ⟨1709803800000, by decide⟩) := by
  intro dates template run
  have daily : Daily dates 7 := by
    unfold Daily
    decide +kernel
  have holds : Holds run (dates.map fun instant => .date (some instant)) := rfl
  obtain ⟨_, later⟩ := generate_detect_of_daily {} holds (by decide) daily (by decide +kernel) rfl
  obtain ⟨_, ⟨⟩, generated, _⟩ :=
    later 3 ⟨1709803800000, by decide⟩ (by decide +kernel) (by decide +kernel) (by decide +kernel)
  exact generated

/-- The first two days of the year 50 go on with the third day of the year 1950. -/
theorem generate_detect_short_years :
    let dates : List Instant := [⟨-60589296000000, by decide⟩, ⟨-60589209600000, by decide⟩]
    let pattern := detect {} (dates.map fun instant => some (Cell.ofValue (.date (some instant))))
    let next : Instant := ⟨-60589123200000, by decide⟩
    let made : Instant := ⟨-630979200000, by decide⟩
    Daily dates 1 ∧ (dates ++ [next]).map Instant.date = [⟨50, 1, 1⟩, ⟨50, 1, 2⟩, ⟨50, 1, 3⟩] ∧ pattern.kind = "date" ∧
      valueOf? (pattern.generate 0) = some (.date (some made)) ∧ made.date = ⟨1950, 1, 3⟩ := by
  intro dates pattern next made
  have daily : Daily dates 1 := by
    unfold Daily
    decide +kernel
  exact ⟨daily, by decide +kernel⟩

end FillPattern
end Spreadsheet
