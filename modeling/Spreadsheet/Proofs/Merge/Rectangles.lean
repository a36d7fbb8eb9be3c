import Mathlib.Tactic.Linarith
import Spreadsheet.Proofs.Merge.Soundness

/-! A registry stands for a list of rectangles that share no cell. Every request changes this list by a rule that speaks
of cells alone, and what is read of the registry is read of the list. -/
namespace Spreadsheet

namespace Range
variable {a b range : Range Int} {cell : Address Int}

/-- No cell is in both. -/
def Apart (a b : Range Int) : Prop := ∀ cell, ¬(a.contains cell = true ∧ b.contains cell = true)

theorem Apart.mono {inner : Range Int} (apart : a.Apart b) (inside : b.containsRange inner = true) : a.Apart inner :=
  fun cell ⟨here, there⟩ => apart cell ⟨here, contains_trans inside there⟩

theorem overlaps_eq_false_iff (proper : a.Proper) (other : b.Proper) : a.overlaps b = false ↔ a.Apart b := by
  rw [← Bool.not_eq_true, overlaps_iff_exists proper other, not_exists]
  rfl

/-- At least two cells are in the range. -/
def IsLarge (range : Range Int) : Prop := ∃ a b, a ≠ b ∧ range.contains a = true ∧ range.contains b = true

theorem isLarge_iff (proper : range.Proper) : range.IsLarge ↔ 2 ≤ range.size := by
  unfold Proper at proper
  constructor
  · rintro ⟨first, second, different, here, there⟩
    rw [contains_iff] at here there
    have sides : 1 ≤ range.rows ∧ 1 ≤ range.columns := by
      simp only [rows, columns]
      omega
    have long : 2 ≤ range.rows ∨ 2 ≤ range.columns := by
      refine Decidable.byContradiction fun short => different ?_
      simp only [rows, columns] at short
      cases first
      cases second
      congr 1 <;> simp only at here there <;> omega
    unfold size
    rcases long with tall | wide <;> nlinarith
  · intro large
    refine ⟨range.topLeft, range.bottomRight, ?_, contains_topLeft proper, ?_⟩
    · intro same
      simp only [topLeft, bottomRight, Address.mk.injEq] at same
      simp only [size, rows, columns, same.1, same.2, Int.sub_self] at large
      omega
    · simp only [contains_iff, bottomRight]
      omega

end Range

/-- A given range whose check passes, and which covers two cells or more, becomes a region, and nothing else does. -/
theorem MergeRegion.ofRange_ok_iff {range : Range Number} {region : MergeRegion} :
    MergeRegion.ofRange range = .ok region ↔
      region.given = range ∧ range.checked = .ok region.cells ∧ 2 ≤ region.cells.size := by
  unfold MergeRegion.ofRange
  constructor
  · intro accepted
    split at accepted
    · cases accepted
    · rename_i cells passed
      split at accepted
      · cases accepted
      · rename_i large
        cases accepted
        exact ⟨rfl, passed, by simp only; omega⟩
  · rintro ⟨given, passed, large⟩
    split
    · rename_i error refused
      rw [refused] at passed
      cases passed
    · rename_i cells accepted
      have same : cells = region.cells := Except.ok.inj (accepted.symm.trans passed)
      rw [if_neg (by rw [same]; omega)]
      cases region
      simp only at given same
      subst given same
      rfl

/-- What can be asked of a registry, with whatever numbers. -/
inductive MergeRequest where
  | merge (range : Range Number)
  | unmerge (address : Address Number)
  | unmergeInRange (range : Range Number)
  | clear

namespace MergeRegistry
variable {area : Range Int} {registry : MergeRegistry} {region : MergeRegion}

/-- The registry after a request. One that is refused leaves it as it is. -/
def after (registry : MergeRegistry) : MergeRequest → MergeRegistry
  | .merge range =>
    match registry.merge range with
    | .ok (_, merged) => merged
    | .error _ => registry
  | .unmerge address => (registry.unmerge address).2
  | .unmergeInRange range => (registry.unmergeInRange range).2
  | .clear => {}

/-- The registry after requests one after another. -/
def afterAll (requests : List MergeRequest) : MergeRegistry := requests.foldl after {}

theorem Sound.mono {outer : Range Int} (covers : outer.containsRange area = true) (sound : Sound area registry) :
    Sound outer registry :=
  { sound with inside := fun region member => Range.containsRange_trans covers (sound.inside region member) }

/-- Whatever is asked of a sound registry, it is sound afterwards. Its area grows by what is merged. -/
theorem Sound.exists_after (sound : Sound area registry) (request : MergeRequest) :
    ∃ area, Sound area (registry.after request) := by
  cases request with
  | merge range =>
    simp only [after]
    cases accepted : registry.merge range with
    | error error => exact ⟨area, sound⟩
    | ok made =>
      have wider : Sound (area.union made.1.cells) registry := sound.mono Range.containsRange_union_left
      exact ⟨_, wider.merge accepted Range.containsRange_union_right⟩
  | unmerge address =>
    simp only [after, unmerge]
    cases found : registry.at? address with
    | none => exact ⟨area, sound⟩
    | some region => exact ⟨area, sound.remove (sound.removable (sound.mem_of_at? found))⟩
  | unmergeInRange range =>
    refine ⟨area, sound.foldl_remove fun region member => ?_⟩
    exact sound.removable (List.mem_filter.mp member).1
  | clear => exact ⟨area, sound_empty area⟩

theorem exists_sound_afterAll (requests : List MergeRequest) : ∃ area, Sound area (afterAll requests) := by
  have run (registry : MergeRegistry) (sound : ∃ area, Sound area registry) :
      ∃ area, Sound area (requests.foldl after registry) := by
    induction requests generalizing registry with
    | nil => exact sound
    | cons request rest ih =>
      obtain ⟨area, sound⟩ := sound
      exact ih _ (sound.exists_after request)
  exact run {} ⟨⟨0, 0, 0, 0⟩, sound_empty _⟩

/-- A region is registered exactly if its range may become one and shares no cell with any that is registered. -/
theorem Sound.merge_ok_iff {range : Range Number} {merged : MergeRegistry} (sound : Sound area registry) :
    registry.merge range = .ok (region, merged) ↔
      MergeRegion.ofRange range = .ok region ∧ (∀ other ∈ registry.regions, other.cells.Apart region.cells) ∧
        merged = registry.add region := by
  constructor
  · intro accepted
    obtain ⟨passed, added, free⟩ := merge_ok accepted
    refine ⟨passed, ?_, added⟩
    rintro other member cell ⟨there, here⟩
    have covered := (sound.covering_iff cell other).mpr ⟨member, there⟩
    rw [free cell here] at covered
    cases covered
  · rintro ⟨passed, apart, rfl⟩
    have free : region.cells.findSome? (registry.covering[·]?) = none := by
      rw [Range.findSome?_eq_none_iff]
      intro cell here
      cases covered : registry.covering[cell]? with
      | none => rfl
      | some other =>
        obtain ⟨registered, there⟩ := (sound.covering_iff cell other).mp covered
        exact absurd ⟨there, here⟩ (apart other registered cell)
    refine bind_eq_ok_iff.mpr ⟨region, passed, ?_⟩
    rw [free]
    rfl

/-- The rectangles are large, and no two share a cell. -/
structure IsTiling (registry : MergeRegistry) : Prop where
  large : ∀ region ∈ registry.regions, region.cells.IsLarge
  apart : registry.regions.Pairwise fun a b => a.cells.Apart b.cells

/-- What is read at an address is read of the list: the one region there that has the cell, if there is one. -/
structure ReadsList (registry : MergeRegistry) (address : Address Number) (cell : Address Int) : Prop where
  at?_eq_some : ∀ region,
    registry.at? address = some region ↔ region ∈ registry.regions ∧ region.cells.contains cell = true
  at?_eq_none : registry.at? address = none ↔ ∀ region ∈ registry.regions, region.cells.contains cell = false
  isMerged : registry.isMerged address = true ↔ ∃ region ∈ registry.regions, region.cells.contains cell = true
  isAnchor : registry.isAnchor address = true ↔
    ∃ region, registry.at? address = some region ∧ region.cells.topLeft = cell
  resolve_merged : ∀ region, registry.at? address = some region →
    registry.resolve address = region.anchor ∧ region.anchor.toInt? = some region.cells.topLeft
  resolve_single : registry.at? address = none → registry.resolve address = address

/-- A range that is not negative nor inverted, has two cells or more, and none that is taken. -/
structure Admits (registry : MergeRegistry) (cells : Range Int) : Prop where
  top : 0 ≤ cells.top
  left : 0 ≤ cells.left
  proper : cells.Proper
  large : cells.IsLarge
  free : ∀ region ∈ registry.regions, region.cells.Apart cells

/-- How the list changes, and how it stays as it is if a request is refused. -/
structure ChangesList (registry : MergeRegistry) : Prop where
  merged : ∀ (range : Range Number) cells, range.toInt? = some cells → registry.Admits cells →
    ∃ region after, registry.merge range = .ok (region, after) ∧ region.given = range ∧ region.cells = cells ∧
      after.regions = registry.regions ++ [region]
  refused : ∀ (range : Range Number) cells, range.toInt? = some cells → ¬registry.Admits cells →
    (∃ error, registry.merge range = .error error) ∧ registry.after (.merge range) = registry
  unmerged : ∀ (address : Address Number) cell, address.toInt? = some cell →
    (registry.unmerge address).1 = registry.at? address ∧
      (registry.unmerge address).2.regions = registry.regions.filter (!·.cells.contains cell)
  removed : ∀ (range : Range Number) cells, range.toInt? = some cells → cells.Proper →
    (registry.unmergeInRange range).1.Sublist registry.regions ∧ ∀ region,
      region ∈ (registry.unmergeInRange range).1 ↔ region ∈ registry.regions ∧ ¬region.cells.Apart cells
  kept : ∀ (range : Range Number) cells, range.toInt? = some cells → cells.Proper →
    (registry.unmergeInRange range).2.regions.Sublist registry.regions ∧ ∀ region,
      region ∈ (registry.unmergeInRange range).2.regions ↔ region ∈ registry.regions ∧ region.cells.Apart cells

theorem Sound.isTiling (sound : Sound area registry) : registry.IsTiling where
  large region member := (Range.isLarge_iff (sound.proper region member)).mpr (sound.large region member)
  apart := sound.disjoint

theorem Sound.at?_eq_some_iff {address : Address Number} {cell : Address Int} (sound : Sound area registry)
    (named : address.toInt? = some cell) :
    registry.at? address = some region ↔ region ∈ registry.regions ∧ region.cells.contains cell = true := by
  unfold at?
  rw [named, Option.bind_some]
  exact sound.covering_iff cell region

theorem Sound.at?_eq_none_iff {address : Address Number} {cell : Address Int} (sound : Sound area registry)
    (named : address.toInt? = some cell) :
    registry.at? address = none ↔ ∀ region ∈ registry.regions, region.cells.contains cell = false := by
  rw [Option.eq_none_iff_forall_ne_some]
  simp only [Ne, sound.at?_eq_some_iff named, not_and, Bool.not_eq_true]

theorem Sound.readsList {address : Address Number} {cell : Address Int} (sound : Sound area registry)
    (named : address.toInt? = some cell) : registry.ReadsList address cell where
  at?_eq_some region := sound.at?_eq_some_iff named
  at?_eq_none := sound.at?_eq_none_iff named
  isMerged := by
    simp only [MergeRegistry.isMerged, Option.isSome_iff_exists, sound.at?_eq_some_iff named]
  isAnchor := by
    simp only [MergeRegistry.isAnchor, named, List.any_eq_true, beq_iff_eq, sound.at?_eq_some_iff named]
    constructor
    · rintro ⟨region, member, same⟩
      exact ⟨region, ⟨member, same ▸ Range.contains_topLeft (sound.proper region member)⟩, same⟩
    · rintro ⟨region, ⟨member, _⟩, same⟩
      exact ⟨region, member, same⟩
  resolve_merged region found := by
    refine ⟨?_, anchor_toInt? region⟩
    rw [MergeRegistry.resolve, found]
    rfl
  resolve_single none := by
    rw [MergeRegistry.resolve, none]
    rfl

/-- What a registry admits is what it registers. -/
theorem Sound.merge_of_admits {range : Range Number} {cells : Range Int} (sound : Sound area registry)
    (named : range.toInt? = some cells) (admits : registry.Admits cells) :
    ∃ region, registry.merge range = .ok (region, registry.add region) ∧ region.given = range ∧
      region.cells = cells := by
  have passed : range.checked = .ok cells :=
    Range.checked_ok_iff.mpr ⟨named, admits.top, admits.left, admits.proper⟩
  have large : 2 ≤ cells.size := (Range.isLarge_iff admits.proper).mp admits.large
  refine ⟨⟨range, cells, named⟩, sound.merge_ok_iff.mpr ⟨?_, admits.free, rfl⟩, rfl, rfl⟩
  exact MergeRegion.ofRange_ok_iff.mpr ⟨rfl, passed, large⟩

theorem Sound.admits_of_merge {range : Range Number} {cells : Range Int} {merged : MergeRegistry}
    (sound : Sound area registry) (named : range.toInt? = some cells)
    (accepted : registry.merge range = .ok (region, merged)) : registry.Admits cells := by
  obtain ⟨passed, free, _⟩ := sound.merge_ok_iff.mp accepted
  obtain ⟨_, checked, large⟩ := MergeRegion.ofRange_ok_iff.mp passed
  obtain ⟨again, top, left, proper⟩ := Range.checked_ok_iff.mp checked
  rw [named, Option.some.injEq] at again
  subst again
  exact ⟨top, left, proper, (Range.isLarge_iff proper).mpr large, free⟩

/-- A region that covers a cell is the only one to be removed with it. -/
theorem Sound.regions_remove {cell : Address Int} (sound : Sound area registry) (member : region ∈ registry.regions)
    (here : region.cells.contains cell = true) :
    (registry.remove region).regions = registry.regions.filter (!·.cells.contains cell) := by
  refine List.filter_congr fun other listed => ?_
  by_cases there : other.cells.contains cell = true
  · obtain rfl := sound.eq_of_contains listed member there here
    simp [here]
  · have different : other.cells.topLeft ≠ region.cells.topLeft := by
      intro same
      exact there (sound.eq_of_topLeft listed member same ▸ here)
    simp [there, different]

theorem regions_foldl_remove (removed : List MergeRegion) :
    (removed.foldl MergeRegistry.remove registry).regions =
      registry.regions.filter fun other => removed.all (other.cells.topLeft != ·.cells.topLeft) := by
  induction removed generalizing registry with
  | nil => exact (List.filter_eq_self.mpr fun _ _ => rfl).symm
  | cons region rest ih => simp [ih, remove, List.filter_filter, Bool.and_comm]

theorem Sound.mem_inRange {range : Range Number} {cells : Range Int} (sound : Sound area registry)
    (named : range.toInt? = some cells) (proper : cells.Proper) :
    region ∈ registry.inRange range ↔ region ∈ registry.regions ∧ ¬region.cells.Apart cells := by
  rw [inRange, List.mem_filter]
  refine and_congr_right fun member => ?_
  rw [← Range.overlaps_eq_false_iff (sound.proper region member) proper, Bool.not_eq_false]
  simp [MergeRegion.overlaps, named]

theorem Sound.mem_unmergeInRange {range : Range Number} {cells : Range Int} (sound : Sound area registry)
    (named : range.toInt? = some cells) (proper : cells.Proper) :
    region ∈ (registry.unmergeInRange range).2.regions ↔ region ∈ registry.regions ∧ region.cells.Apart cells := by
  simp only [unmergeInRange, mem_regions_foldl_remove, sound.mem_inRange named proper]
  refine and_congr_right fun member => ⟨?_, ?_⟩
  · intro different
    by_contra meets
    exact different region ⟨member, meets⟩ rfl
  · rintro apart other ⟨registered, meets⟩ same
    exact meets (sound.eq_of_topLeft member registered same ▸ apart)

theorem Sound.changesList (sound : Sound area registry) : registry.ChangesList where
  merged range cells named admits := by
    obtain ⟨region, accepted, given, same⟩ := sound.merge_of_admits named admits
    exact ⟨region, _, accepted, given, same, rfl⟩
  refused range cells named refused := by
    simp only [after]
    cases accepted : registry.merge range with
    | error error => exact ⟨⟨error, rfl⟩, rfl⟩
    | ok made => exact absurd (sound.admits_of_merge named accepted) refused
  unmerged address cell named := by
    unfold unmerge
    cases found : registry.at? address with
    | none =>
      have absent := (sound.at?_eq_none_iff named).mp found
      refine ⟨rfl, (List.filter_eq_self.mpr fun region member => ?_).symm⟩
      simp [absent region member]
    | some region =>
      obtain ⟨member, here⟩ := (sound.at?_eq_some_iff named).mp found
      exact ⟨rfl, sound.regions_remove member here⟩
  removed range cells named proper := ⟨List.filter_sublist, fun region => sound.mem_inRange named proper⟩
  kept range cells named proper := by
    refine ⟨?_, fun region => sound.mem_unmergeInRange named proper⟩
    simp only [unmergeInRange, regions_foldl_remove]
    exact List.filter_sublist

/-- Whatever has been asked of a registry, it is a tiling by a list of rectangles: what is read of it is read of the list,
and what is asked of it next changes the list as it says. -/
theorem afterAll_refines_rectangles (requests : List MergeRequest) :
    let registry := afterAll requests
    registry.IsTiling ∧
      (∀ (address : Address Number) cell, address.toInt? = some cell → registry.ReadsList address cell) ∧
      registry.ChangesList := by
  obtain ⟨area, sound⟩ := exists_sound_afterAll requests
  exact ⟨sound.isTiling, fun address cell named => sound.readsList named, sound.changesList⟩

end MergeRegistry
end Spreadsheet
