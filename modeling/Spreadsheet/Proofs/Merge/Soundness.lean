import Spreadsheet.Merge.Registry
import Spreadsheet.Proofs.Coordinate.Checked

/-! The two indices of merged regions describe one set of rectangles that do not overlap, whatever is registered and
removed. -/
namespace Spreadsheet

namespace Range

private theorem searchSpan_eq_none {α : Type} {f : Int → Option α} {count : Nat} {first : Int} :
    searchSpan f count first = none ↔ ∀ value, first ≤ value → value < first + count → f value = none := by
  induction count generalizing first with
  | zero =>
    simp only [searchSpan, true_iff]
    intro value low high
    omega
  | succ count ih =>
    simp only [searchSpan, Option.or_eq_none_iff, ih]
    constructor
    · rintro ⟨head, rest⟩ value low high
      by_cases same : value = first
      · exact same ▸ head
      · exact rest value (by omega) (by omega)
    · intro all
      exact ⟨all first (by omega) (by omega), fun value low high => all value (by omega) (by omega)⟩

variable {range : Range Int} {α : Type} {f : Address Int → Option α}

/-- The search finds nothing if and only if no cell of the range has anything. -/
theorem findSome?_eq_none_iff :
    range.findSome? f = none ↔ ∀ cell, range.contains cell = true → f cell = none := by
  simp only [findSome?, searchSpan_eq_none, contains_iff, rows, columns]
  constructor
  · intro all cell within
    exact all cell.row (by omega) (by omega) cell.column (by omega) (by omega)
  · intro all row top bottom column left right
    have last : row ≤ range.bottom ∧ column ≤ range.right := by omega
    exact all ⟨row, column⟩ ⟨top, last.1, left, last.2⟩

theorem contains_topLeft (proper : range.Proper) : range.contains range.topLeft = true := by
  unfold Proper at proper
  simp only [contains_iff, topLeft]
  omega

end Range

/-- Only what is in accepted order and covers two cells or more becomes a region. -/
theorem MergeRegion.ofRange_ok {range : Range Number} {region : MergeRegion}
    (accepted : MergeRegion.ofRange range = .ok region) :
    region.given = range ∧ 0 ≤ region.cells.top ∧ 0 ≤ region.cells.left ∧ region.cells.Proper ∧
      2 ≤ region.cells.size := by
  unfold MergeRegion.ofRange at accepted
  split at accepted
  · cases accepted
  · rename_i cells passed
    split at accepted
    · cases accepted
    · rename_i large
      cases accepted
      obtain ⟨_, top, left, proper⟩ := Range.checked_ok_iff.mp passed
      exact ⟨rfl, top, left, proper, by simp only; omega⟩

namespace MergeRegistry
variable {area : Range Int} {registry : MergeRegistry} {region other : MergeRegion} {cell : Address Int}

/-- Every region is a rectangle of an area with two cells or more, no two share a cell, and the index of cells finds
exactly the region that covers a cell. -/
structure Sound (area : Range Int) (registry : MergeRegistry) : Prop where
  inside : ∀ region ∈ registry.regions, area.containsRange region.cells = true
  proper : ∀ region ∈ registry.regions, region.cells.Proper
  large : ∀ region ∈ registry.regions, 2 ≤ region.cells.size
  disjoint : registry.regions.Pairwise fun a b =>
    ∀ cell, ¬(a.cells.contains cell = true ∧ b.cells.contains cell = true)
  covering_iff : ∀ cell region,
    registry.covering[cell]? = some region ↔ region ∈ registry.regions ∧ region.cells.contains cell = true

theorem sound_empty (area : Range Int) : Sound area {} where
  inside region member := by simp at member
  proper region member := by simp at member
  large region member := by simp at member
  disjoint := by simp
  covering_iff cell region := by simp

/-- Regions that share a cell are one. -/
theorem Sound.eq_of_contains (sound : Sound area registry) (first : region ∈ registry.regions)
    (second : other ∈ registry.regions) (here : region.cells.contains cell = true)
    (there : other.cells.contains cell = true) : region = other :=
  Option.some.inj (((sound.covering_iff cell region).mpr ⟨first, here⟩).symm.trans
    ((sound.covering_iff cell other).mpr ⟨second, there⟩))

/-- Regions that start at one cell are one. -/
theorem Sound.eq_of_topLeft (sound : Sound area registry) (first : region ∈ registry.regions)
    (second : other ∈ registry.regions) (same : region.cells.topLeft = other.cells.topLeft) : region = other := by
  refine sound.eq_of_contains first second (Range.contains_topLeft (sound.proper region first)) ?_
  rw [same]
  exact Range.contains_topLeft (sound.proper other second)

private theorem covering_foldl_insert (cells : List (Address Int))
    (covering : Std.TreeMap (Address Int) MergeRegion Address.rowMajor) :
    (cells.foldl (·.insert · region) covering)[cell]? = if cell ∈ cells then some region else covering[cell]? := by
  induction cells generalizing covering with
  | nil => simp
  | cons head rest ih =>
    simp only [List.foldl_cons, ih, Std.TreeMap.getElem?_insert, Std.LawfulEqCmp.compare_eq_iff_eq]
    by_cases same : head = cell
    · simp [same]
    · simp [same, Ne.symm same]

private theorem covering_foldl_erase (cells : List (Address Int))
    (covering : Std.TreeMap (Address Int) MergeRegion Address.rowMajor) :
    (cells.foldl (·.erase ·) covering)[cell]? = if cell ∈ cells then none else covering[cell]? := by
  induction cells generalizing covering with
  | nil => simp
  | cons head rest ih =>
    simp only [List.foldl_cons, ih, Std.TreeMap.getElem?_erase, Std.LawfulEqCmp.compare_eq_iff_eq]
    by_cases same : head = cell
    · simp [same]
    · simp [same, Ne.symm same]

theorem covering_add :
    (registry.add region).covering[cell]? =
      if region.cells.contains cell = true then some region else registry.covering[cell]? := by
  simp only [add, covering_foldl_insert, Range.mem_cells]

theorem covering_remove :
    (registry.remove region).covering[cell]? =
      if region.cells.contains cell = true then none else registry.covering[cell]? := by
  simp only [remove, covering_foldl_erase, Range.mem_cells]

theorem mem_regions_remove :
    other ∈ (registry.remove region).regions ↔
      other ∈ registry.regions ∧ other.cells.topLeft ≠ region.cells.topLeft := by
  simp [remove]

/-- A range is registered if it is in order, has two cells or more, and none of them is covered. -/
theorem merge_ok {range : Range Number} {after : MergeRegistry}
    (accepted : registry.merge range = .ok (region, after)) :
    MergeRegion.ofRange range = .ok region ∧ after = registry.add region ∧
      ∀ cell, region.cells.contains cell = true → registry.covering[cell]? = none := by
  unfold merge at accepted
  obtain ⟨made, passed, free⟩ := bind_eq_ok_iff.mp accepted
  split at free
  · cases free
  · rename_i none
    cases free
    exact ⟨passed, rfl, Range.findSome?_eq_none_iff.mp none⟩

theorem Sound.merge {range : Range Number} {after : MergeRegistry} (sound : Sound area registry)
    (accepted : registry.merge range = .ok (region, after)) (within : area.containsRange region.cells = true) :
    Sound area after := by
  obtain ⟨passed, rfl, free⟩ := merge_ok accepted
  obtain ⟨_, _, _, proper, large⟩ := MergeRegion.ofRange_ok passed
  have apart : ∀ other ∈ registry.regions, ∀ cell,
      ¬(other.cells.contains cell = true ∧ region.cells.contains cell = true) := by
    rintro other member cell ⟨there, here⟩
    have covered := (sound.covering_iff cell other).mpr ⟨member, there⟩
    rw [free cell here] at covered
    cases covered
  refine ⟨?_, ?_, ?_, ?_, ?_⟩
  · simpa [add, or_imp, forall_and] using ⟨sound.inside, within⟩
  · simpa [add, or_imp, forall_and] using ⟨sound.proper, proper⟩
  · simpa [add, or_imp, forall_and] using ⟨sound.large, large⟩
  · refine List.pairwise_append.mpr ⟨sound.disjoint, List.pairwise_singleton _ _, ?_⟩
    intro other member last same
    rw [List.mem_singleton.mp same]
    exact apart other member
  · intro cell other
    rw [covering_add]
    by_cases here : region.cells.contains cell = true
    · simp only [here, ↓reduceIte, Option.some.injEq, add, List.mem_append, List.mem_singleton]
      constructor
      · rintro rfl
        exact ⟨.inr rfl, here⟩
      · rintro ⟨member | same, there⟩
        · exact absurd ⟨there, here⟩ (apart other member cell)
        · exact same.symm
    · simp only [here, Bool.false_eq_true, ↓reduceIte, sound.covering_iff, add, List.mem_append, List.mem_singleton]
      constructor
      · rintro ⟨member, there⟩
        exact ⟨.inl member, there⟩
      · rintro ⟨member | rfl, there⟩
        · exact ⟨member, there⟩
        · exact absurd there here

/-- A region that is registered, or was so until it has been removed: nothing else covers its cells. -/
def Removable (registry : MergeRegistry) (region : MergeRegion) : Prop :=
  region.cells.Proper ∧ ∀ cell, region.cells.contains cell = true →
    registry.covering[cell]? = some region ∨ registry.covering[cell]? = none

theorem Sound.removable (sound : Sound area registry) (member : region ∈ registry.regions) :
    registry.Removable region :=
  ⟨sound.proper region member, fun cell within => .inl ((sound.covering_iff cell region).mpr ⟨member, within⟩)⟩

theorem Removable.remove (removable : registry.Removable region) : (registry.remove other).Removable region := by
  refine ⟨removable.1, ?_⟩
  intro cell within
  rw [covering_remove]
  split
  · exact .inr rfl
  · exact removable.2 cell within

theorem Sound.remove (sound : Sound area registry) (removable : registry.Removable region) :
    Sound area (registry.remove region) := by
  have kept : ∀ other ∈ (registry.remove region).regions, other ∈ registry.regions :=
    fun other member => (mem_regions_remove.mp member).1
  refine ⟨fun other member => sound.inside other (kept other member),
    fun other member => sound.proper other (kept other member),
    fun other member => sound.large other (kept other member), sound.disjoint.filter _, ?_⟩
  intro cell other
  rw [covering_remove, mem_regions_remove]
  by_cases here : region.cells.contains cell = true
  · simp only [here, ↓reduceIte, reduceCtorEq, false_iff]
    rintro ⟨⟨member, different⟩, there⟩
    have covered := (sound.covering_iff cell other).mpr ⟨member, there⟩
    rcases removable.2 cell here with same | none
    · rw [covered, Option.some.injEq] at same
      exact different (same ▸ rfl)
    · rw [covered] at none
      cases none
  · simp only [here, Bool.false_eq_true, ↓reduceIte, sound.covering_iff]
    constructor
    · rintro ⟨member, there⟩
      refine ⟨⟨member, ?_⟩, there⟩
      intro same
      have start := Range.contains_topLeft (sound.proper other member)
      have covered := (sound.covering_iff _ other).mpr ⟨member, start⟩
      rw [same] at covered
      rcases removable.2 _ (Range.contains_topLeft removable.1) with found | none
      · rw [covered, Option.some.injEq] at found
        exact here (found ▸ there)
      · rw [covered] at none
        cases none
    · rintro ⟨⟨member, _⟩, there⟩
      exact ⟨member, there⟩

/-- Regions that were registered may be removed one after another. -/
theorem Sound.foldl_remove {removed : List MergeRegion} (sound : Sound area registry)
    (removable : ∀ region ∈ removed, registry.Removable region) : Sound area (removed.foldl MergeRegistry.remove registry) := by
  induction removed generalizing registry with
  | nil => exact sound
  | cons region rest ih =>
    exact ih (sound.remove (removable region (by simp)))
      fun other member => (removable other (List.mem_cons_of_mem _ member)).remove

theorem mem_regions_foldl_remove {removed : List MergeRegion} :
    other ∈ (removed.foldl MergeRegistry.remove registry).regions ↔
      other ∈ registry.regions ∧ ∀ region ∈ removed, other.cells.topLeft ≠ region.cells.topLeft := by
  induction removed generalizing registry with
  | nil => simp
  | cons region rest ih => simp [ih, mem_regions_remove, and_assoc]

/-- The region that covers a cell is registered. -/
theorem Sound.mem_of_at? {address : Address Number} (sound : Sound area registry)
    (found : registry.at? address = some region) : region ∈ registry.regions := by
  obtain ⟨cell, _, covered⟩ := Option.bind_eq_some_iff.mp found
  exact ((sound.covering_iff cell region).mp covered).1

theorem anchor_toInt? (region : MergeRegion) : region.anchor.toInt? = some region.cells.topLeft := by
  obtain ⟨top, left, _⟩ := Range.toInt?_eq_some_iff.mp region.named
  exact Address.toInt?_eq_some_iff.mpr ⟨top, left⟩

/-- The first cell of a registered region leads to it. -/
theorem Sound.at?_anchor (sound : Sound area registry) (member : region ∈ registry.regions) :
    registry.at? region.anchor = some region := by
  have start := Range.contains_topLeft (sound.proper region member)
  unfold at?
  rw [anchor_toInt?, Option.bind_some]
  exact (sound.covering_iff _ region).mpr ⟨member, start⟩

/-- No two regions start at one cell. -/
theorem Sound.pairwise_topLeft (sound : Sound area registry) :
    registry.regions.Pairwise fun a b => a.cells.topLeft ≠ b.cells.topLeft := by
  apply sound.disjoint.imp_of_mem
  intro a b first second apart same
  refine apart _ ⟨Range.contains_topLeft (sound.proper a first), ?_⟩
  rw [same]
  exact Range.contains_topLeft (sound.proper b second)

end MergeRegistry
end Spreadsheet
