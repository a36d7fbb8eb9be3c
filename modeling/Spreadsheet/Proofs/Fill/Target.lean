import Spreadsheet.Proofs.Coordinate.Named

/-! The target of a fill: the strip next to the source that leads to the far edge of the destination, stretched to whole
spans of the source where there is room. -/
namespace Spreadsheet.FillDirection
variable {direction : FillDirection} {area source destination target strip : Range Int}

/-- The cells on the lines of the source that a fill passes on its way to the far edge of the destination. -/
def Passes (direction : FillDirection) (source destination : Range Int) (cell : Address Int) : Prop :=
  match direction with
  | ⟨true, false⟩ =>
    source.bottom < cell.row ∧ cell.row ≤ destination.bottom ∧ source.left ≤ cell.column ∧ cell.column ≤ source.right
  | ⟨true, true⟩ =>
    destination.top ≤ cell.row ∧ cell.row < source.top ∧ source.left ≤ cell.column ∧ cell.column ≤ source.right
  | ⟨false, false⟩ =>
    source.right < cell.column ∧ cell.column ≤ destination.right ∧ source.top ≤ cell.row ∧ cell.row ≤ source.bottom
  | ⟨false, true⟩ =>
    destination.left ≤ cell.column ∧ cell.column < source.left ∧ source.top ≤ cell.row ∧ cell.row ≤ source.bottom

/-- The target starts next to the source and is as wide. -/
def Adjoins (direction : FillDirection) (source target : Range Int) : Prop :=
  match direction with
  | ⟨true, false⟩ => target.top = source.bottom + 1 ∧ target.left = source.left ∧ target.right = source.right
  | ⟨true, true⟩ => target.bottom = source.top - 1 ∧ target.left = source.left ∧ target.right = source.right
  | ⟨false, false⟩ => target.left = source.right + 1 ∧ target.top = source.top ∧ target.bottom = source.bottom
  | ⟨false, true⟩ => target.right = source.left - 1 ∧ target.top = source.top ∧ target.bottom = source.bottom

/-- The same, told of the lines of the ranges. -/
theorem adjoins_iff : direction.Adjoins source target ↔
    (if direction.backward
      then (target.oriented direction.vertical).bottom = (source.oriented direction.vertical).top - 1
      else (target.oriented direction.vertical).top = (source.oriented direction.vertical).bottom + 1) ∧
    (target.oriented direction.vertical).left = (source.oriented direction.vertical).left ∧
      (target.oriented direction.vertical).right = (source.oriented direction.vertical).right := by
  obtain ⟨vertical, backward⟩ := direction
  cases vertical <;> cases backward <;> exact Iff.rfl

/-- How long a range is along the direction. -/
def length (direction : FillDirection) (range : Range Int) : Int := (range.oriented direction.vertical).rows

/-- The range ends where the area ends in the direction. -/
def AtEdge (direction : FillDirection) (area range : Range Int) : Prop :=
  match direction with
  | ⟨true, false⟩ => range.bottom = area.bottom
  | ⟨true, true⟩ => range.top = area.top
  | ⟨false, false⟩ => range.right = area.right
  | ⟨false, true⟩ => range.left = area.left

/-- What is asked of a target: it is a strip of the area next to the source that has all cells on the way. -/
structure Targets (direction : FillDirection) (area source destination target : Range Int) : Prop where
  proper : target.Proper
  within : area.containsRange target = true
  adjoins : direction.Adjoins source target
  passes : ∀ cell, direction.Passes source destination cell → target.contains cell = true

/-- A fill has a direction unless the destination is inside the source. -/
theorem of?_eq_none_iff : of? source destination = none ↔ source.containsRange destination = true := by
  rw [Range.containsRange_iff]
  unfold of?
  split
  · simp; omega
  · split
    · simp; omega
    · split
      · simp; omega
      · split
        · simp; omega
        · simp; omega

theorem Adjoins.apart (adjoins : direction.Adjoins source target) : target.Apart source := by
  rintro cell ⟨here, there⟩
  rw [Range.contains_iff] at here there
  obtain ⟨vertical, backward⟩ := direction
  cases vertical <;> cases backward <;> simp only [Adjoins] at adjoins <;> omega

/-- The destination ends beyond the source in the direction. -/
def Leads (direction : FillDirection) (source destination : Range Int) : Prop :=
  match direction with
  | ⟨true, false⟩ => source.bottom < destination.bottom
  | ⟨true, true⟩ => destination.top < source.top
  | ⟨false, false⟩ => source.right < destination.right
  | ⟨false, true⟩ => destination.left < source.left

theorem leads_of_of? (some : of? source destination = some direction) : direction.Leads source destination := by
  unfold of? at some
  split at some
  · cases some
    assumption
  · split at some
    · cases some
      assumption
    · split at some
      · cases some
        assumption
      · split at some
        · cases some
          assumption
        · cases some

/-- The strip that a fill starts from is such a target. -/
theorem targets_strip (leads : direction.Leads source destination) (proper : source.Proper)
    (inside : area.containsRange source = true) (within : area.containsRange destination = true) :
    direction.Targets area source destination (direction.strip source destination) := by
  unfold Range.Proper at proper
  rw [Range.containsRange_iff] at inside within
  obtain ⟨vertical, backward⟩ := direction
  cases vertical <;> cases backward <;> simp only [Leads] at leads
  all_goals
    refine ⟨?_, ?_, ?_, fun cell passed => ?_⟩
    · simp only [Range.Proper, strip, Range.oriented, Range.transpose, Bool.false_eq_true, ↓reduceIte]
      omega
    · simp only [Range.containsRange_iff, strip, Range.oriented, Range.transpose, Bool.false_eq_true, ↓reduceIte]
      omega
    · exact ⟨rfl, rfl, rfl⟩
    · simp only [Passes] at passed
      simp only [Range.contains_iff, strip, Range.oriented, Range.transpose, Bool.false_eq_true, ↓reduceIte]
      omega

/-- A target that ends elsewhere. -/
def stretchedTo (direction : FillDirection) (target : Range Int) (farEnd : Int) : Range Int :=
  let target := target.oriented direction.vertical
  Range.oriented direction.vertical
    (if direction.backward then { target with top := farEnd } else { target with bottom := farEnd })

/-- The target for a source with regions inside, which is stretched if it has to be. -/
def stretched (direction : FillDirection) (area source target : Range Int) : Range Int :=
  ((direction.farEnd? area source target).map (direction.stretchedTo target)).getD target

/-- An end that is no nearer to the source than that of the target, and in the area. -/
def Reaches (direction : FillDirection) (area target : Range Int) (farEnd : Int) : Prop :=
  let area := area.oriented direction.vertical
  let target := target.oriented direction.vertical
  if direction.backward then area.top ≤ farEnd ∧ farEnd ≤ target.top
  else target.bottom ≤ farEnd ∧ farEnd ≤ area.bottom

theorem Targets.stretchedTo {farEnd : Int} (targets : direction.Targets area source destination target)
    (reaches : direction.Reaches area target farEnd) :
    direction.Targets area source destination (direction.stretchedTo target farEnd) := by
  obtain ⟨order, within, adjoins, passes⟩ := targets
  have shape : (direction.stretchedTo target farEnd).Proper ∧
      area.containsRange (direction.stretchedTo target farEnd) = true ∧
      direction.Adjoins source (direction.stretchedTo target farEnd) ∧
      (direction.stretchedTo target farEnd).containsRange target = true := by
    unfold Range.Proper at order
    rw [Range.containsRange_iff] at within
    obtain ⟨vertical, backward⟩ := direction
    cases vertical <;> cases backward <;>
      simp only [Reaches, Adjoins, FillDirection.stretchedTo, Range.oriented, Range.transpose, Range.Proper,
        Range.containsRange_iff, Bool.false_eq_true, ↓reduceIte] at * <;>
      omega
  exact ⟨shape.1, shape.2.1, shape.2.2.1, fun cell passed => Range.contains_trans shape.2.2.2 (passes cell passed)⟩

theorem length_stretchedTo (direction : FillDirection) (target : Range Int) (farEnd : Int) :
    direction.length (direction.stretchedTo target farEnd) =
      if direction.backward then (target.oriented direction.vertical).bottom - farEnd + 1
      else farEnd - (target.oriented direction.vertical).top + 1 := by
  unfold length FillDirection.stretchedTo
  rw [Range.oriented_oriented]
  split <;> rfl

theorem atEdge_stretchedTo (direction : FillDirection) (area target : Range Int) :
    direction.AtEdge area (direction.stretchedTo target
      (if direction.backward then (area.oriented direction.vertical).top else (area.oriented direction.vertical).bottom)) := by
  obtain ⟨vertical, backward⟩ := direction
  cases vertical <;> cases backward <;> rfl

/-- How much is missing to a whole number of spans of the source. -/
def missing (direction : FillDirection) (source target : Range Int) : Int :=
  -direction.length target % direction.length source

theorem missing_nonneg (proper : source.Proper) : 0 ≤ direction.missing source target := by
  have order : (source.oriented direction.vertical).Proper := (Range.proper_oriented _).mpr proper
  unfold Range.Proper at order
  refine Int.emod_nonneg _ ?_
  simp only [length, Range.rows]
  omega

theorem dvd_add_missing (direction : FillDirection) (source target : Range Int) :
    direction.length source ∣ direction.length target + direction.missing source target := by
  apply Int.dvd_of_emod_eq_zero
  rw [missing, Int.add_emod_emod, Int.add_right_neg, Int.zero_emod]

/-- Where a target has to end, if there is room in the area. -/
def clippedEnd (direction : FillDirection) (area source target : Range Int) : Int :=
  let missing := direction.missing source target
  let area := area.oriented direction.vertical
  let target := target.oriented direction.vertical
  if direction.backward then max (target.top - missing) area.top else min (target.bottom + missing) area.bottom

/-- In an area of small coordinates lengths are divided exactly. -/
theorem farEnd?_eq (small : area.IsSmall) (within : area.containsRange target = true) :
    direction.farEnd? area source target =
      if direction.missing source target = 0 then none else some (direction.clippedEnd area source target) := by
  have inside : (area.oriented direction.vertical).containsRange (target.oriented direction.vertical) = true :=
    (Range.containsRange_oriented _).trans within
  have bound : (area.oriented direction.vertical).IsSmall := (Range.isSmall_oriented _).mpr small
  rw [Range.containsRange_iff] at inside
  unfold Range.IsSmall at bound
  unfold farEnd?
  dsimp only
  rw [if_neg]
  · simp only [clippedEnd, apply_ite some]
    rfl
  · simp only [Number.safeBound, Range.rows]
    omega

theorem reaches_clippedEnd (proper : source.Proper) (within : area.containsRange target = true) :
    direction.Reaches area target (direction.clippedEnd area source target) := by
  have more : 0 ≤ direction.missing source target := missing_nonneg proper
  have inside : (area.oriented direction.vertical).containsRange (target.oriented direction.vertical) = true :=
    (Range.containsRange_oriented _).trans within
  rw [Range.containsRange_iff] at inside
  unfold Reaches clippedEnd
  dsimp only
  split <;> omega

/-- A target that ends there is as long as it has to be, or there was no room. -/
theorem length_or_atEdge_clippedEnd (direction : FillDirection) (area source target : Range Int) :
    direction.length (direction.stretchedTo target (direction.clippedEnd area source target)) =
        direction.length target + direction.missing source target ∨
      direction.AtEdge area (direction.stretchedTo target (direction.clippedEnd area source target)) := by
  have edge := direction.atEdge_stretchedTo area target
  rw [length_stretchedTo]
  unfold clippedEnd length Range.rows
  cases backward : direction.backward
  · simp only [backward, Bool.false_eq_true, ↓reduceIte] at edge ⊢
    rcases Int.le_total ((target.oriented direction.vertical).bottom + direction.missing source target)
        (area.oriented direction.vertical).bottom with room | short
    · rw [Int.min_eq_left room]
      omega
    · rw [Int.min_eq_right short]
      exact .inr edge
  · simp only [backward, ↓reduceIte] at edge ⊢
    rcases Int.le_total (area.oriented direction.vertical).top
        ((target.oriented direction.vertical).top - direction.missing source target) with room | short
    · rw [Int.max_eq_left room]
      omega
    · rw [Int.max_eq_right short]
      exact .inr edge

/-- A stretched target is a target still, and it is made of whole spans or ends at the edge. -/
theorem Targets.stretched (targets : direction.Targets area source destination target) (proper : source.Proper)
    (small : area.IsSmall) :
    direction.Targets area source destination (direction.stretched area source target) ∧
      (direction.length source ∣ direction.length (direction.stretched area source target) ∨
        direction.AtEdge area (direction.stretched area source target)) := by
  have spans := direction.dvd_add_missing source target
  unfold FillDirection.stretched
  rw [farEnd?_eq small targets.within]
  by_cases whole : direction.missing source target = 0
  · rw [if_pos whole]
    rw [whole, Int.add_zero] at spans
    exact ⟨targets, .inl spans⟩
  · rw [if_neg whole]
    refine ⟨targets.stretchedTo (reaches_clippedEnd proper targets.within), ?_⟩
    rcases direction.length_or_atEdge_clippedEnd area source target with long | edge
    · exact .inl (long ▸ spans)
    · exact .inr edge

section named
variable {givenSource givenDestination given : Range Number}

theorem of?_of_named (first : givenSource.toInt? = some source) (second : givenDestination.toInt? = some destination) :
    of? givenSource givenDestination = of? source destination := by
  obtain ⟨top, left, bottom, right⟩ := Range.toInt?_eq_some_iff.mp first
  obtain ⟨otherTop, otherLeft, otherBottom, otherRight⟩ := Range.toInt?_eq_some_iff.mp second
  unfold of?
  simp only [Number.lt_iff bottom otherBottom, Number.lt_iff otherTop top, Number.lt_iff right otherRight,
    Number.lt_iff otherLeft left]

theorem toInt?_strip (first : givenSource.toInt? = some source) (second : givenDestination.toInt? = some destination)
    (small : source.IsSmall) :
    (direction.strip givenSource givenDestination).toInt? = some (direction.strip source destination) := by
  have turned := Range.toInt?_oriented first direction.vertical
  have turned' := Range.toInt?_oriented second direction.vertical
  obtain ⟨top, left, bottom, right⟩ := Range.toInt?_eq_some_iff.mp turned
  obtain ⟨otherTop, _, otherBottom, _⟩ := Range.toInt?_eq_some_iff.mp turned'
  obtain ⟨smallTop, _, smallBottom, _⟩ := (Range.isSmall_oriented direction.vertical).mpr small
  unfold strip
  refine Range.toInt?_oriented ?_ direction.vertical
  split
  · exact Range.toInt?_eq_some_iff.mpr ⟨otherTop, left, Number.toInt?_sub top Number.toInt?_one (by omega), right⟩
  · exact Range.toInt?_eq_some_iff.mpr ⟨Number.toInt?_add bottom Number.toInt?_one (by omega), left, otherBottom, right⟩

theorem toInt?_endingAt {farEnd : Int} (named : given.toInt? = some target)
    (small : (direction.stretchedTo target farEnd).IsSmall) :
    (direction.endingAt given (.ofInt farEnd)).toInt? = some (direction.stretchedTo target farEnd) := by
  obtain ⟨top, left, bottom, right⟩ := Range.toInt?_eq_some_iff.mp (Range.toInt?_oriented named direction.vertical)
  rw [← Range.isSmall_oriented direction.vertical] at small
  unfold stretchedTo at small ⊢
  rw [Range.oriented_oriented] at small
  unfold endingAt
  refine Range.toInt?_oriented ?_ direction.vertical
  split
  · rw [if_pos ‹_›] at small
    exact Range.toInt?_eq_some_iff.mpr ⟨Number.toInt?_ofInt (Nat.lt_trans small.1 (by decide)), left, bottom, right⟩
  · rw [if_neg ‹_›] at small
    exact Range.toInt?_eq_some_iff.mpr
      ⟨top, left, Number.toInt?_ofInt (Nat.lt_trans small.2.2.1 (by decide)), right⟩

/-- The target that a fill works out from given numbers. -/
theorem toInt?_stretched (named : given.toInt? = some target) (small : (direction.stretched area source target).IsSmall) :
    (((direction.farEnd? area source target).map fun farEnd => direction.endingAt given (.ofInt farEnd)).getD given).toInt? =
      some (direction.stretched area source target) := by
  unfold stretched at small ⊢
  cases farEnd : direction.farEnd? area source target with
  | none => exact named
  | some place =>
    rw [farEnd] at small
    exact toInt?_endingAt named small

end named

end Spreadsheet.FillDirection
