import Spreadsheet.Proofs.Sheet.Consistency

/-! Maps under keys. If what is held for cells were held under the keys of the cells, no two cells would share an entry:
under the key of an address stands what is read at the address, and nothing else. -/
namespace Spreadsheet

/-- A list has at most the one element of a kind that is known. -/
theorem filter_eq_toList {α : Type} {list : List α} {p : α → Bool} {found : Option α} (nodup : list.Nodup)
    (only : ∀ a, a ∈ list ∧ p a = true ↔ found = some a) : list.filter p = found.toList := by
  have single : found.toList.Nodup := by cases found <;> simp
  have perm : (list.filter p).Perm found.toList :=
    (List.perm_ext_iff_of_nodup (nodup.filter p) single).mpr fun a => by simp [List.mem_filter, only]
  cases found with
  | none => exact perm.eq_nil
  | some a => exact List.perm_singleton.mp perm

namespace Address
variable {α : Type} {address : Address Number} {cell : Address Int}

/-- Addresses that name one cell are equal, whatever the signs of their zeros. -/
theorem same_of_toInt? {other : Address Number} (first : address.toInt? = some cell) (second : other.toInt? = some cell) :
    address.same other = true := by
  have equal {x y : Number} {k : Int} (first : x.toInt? = some k) (second : y.toInt? = some k) : (x == y) = true := by
    change (x.compare? y == some .eq) = true
    rw [Number.compare?_of_toInt? first second, Int.compare_eq_eq.mpr rfl]
    rfl
  obtain ⟨row, column⟩ := toInt?_eq_some_iff.mp first
  obtain ⟨otherRow, otherColumn⟩ := toInt?_eq_some_iff.mp second
  rw [same, equal row otherRow, equal column otherColumn]
  rfl

/-- What a map of cells holds under a key. -/
def under (map : Std.TreeMap (Address Int) α rowMajor) (key : List Char) : List α :=
  (map.toList.filter (·.1.toNumber.key == key)).map Prod.snd

/-- Under the key of an address stands what the map holds for the cell that it names. -/
theorem under_key {map : Std.TreeMap (Address Int) α rowMajor}
    (only : ∀ cell ∈ map, cell.toNumber.key = address.key ↔ address.toInt? = some cell) :
    under map address.key = (address.toInt?.bind (map[·]?)).toList := by
  have entry (a : Address Int × α) : a ∈ map.toList ∧ (a.1.toNumber.key == address.key) = true ↔
      (address.toInt?.bind fun cell => map[cell]?.map (cell, ·)) = some a := by
    obtain ⟨cell, x⟩ := a
    simp only [Std.TreeMap.mem_toList_iff_getElem?_eq_some, beq_iff_eq, Option.bind_eq_some_iff, Option.map_eq_some_iff,
      Prod.mk.injEq]
    constructor
    · rintro ⟨held, same⟩
      exact ⟨cell, (only cell (Std.TreeMap.mem_iff_isSome_getElem?.mpr (by simp [held]))).mp same, x, held, rfl, rfl⟩
    · rintro ⟨_, named, _, held, rfl, rfl⟩
      exact ⟨held, (only _ (Std.TreeMap.mem_iff_isSome_getElem?.mpr (by simp [held]))).mpr named⟩
  have nodup : map.toList.Nodup := Std.TreeMap.distinct_keys_toList.imp fun apart same => apart (by
    rw [same, Std.LawfulEqCmp.compare_eq_iff_eq])
  rw [under, filter_eq_toList nodup entry]
  cases address.toInt? with
  | none => rfl
  | some cell => simp [Option.toList_map, Function.comp_def]

end Address

namespace MergeRegistry
variable {area : Range Int} {registry : MergeRegistry} {address : Address Number}

/-- The two maps of a registry under the key of an address: that of the cells that are covered, and that of the first
cells of regions. -/
structure HeldUnder (registry : MergeRegistry) (address : Address Number) : Prop where
  covering : Address.under registry.covering address.key = (registry.at? address).toList
  anchors : registry.regions.filter (·.anchor.key == address.key) =
    if registry.isAnchor address then (registry.at? address).toList else []

theorem Sound.nodup_regions (sound : Sound area registry) : registry.regions.Nodup :=
  sound.disjoint.imp_of_mem fun {a _} member _ apart same =>
    have within := Range.contains_topLeft (sound.proper a member)
    apart a.cells.topLeft ⟨within, same ▸ within⟩

/-- Under the key of an address stands the region of which it is the first cell. -/
theorem Sound.anchors_under (sound : Sound area registry)
    (only : ∀ region ∈ registry.regions, region.anchor.key = address.key ↔ address.toInt? = some region.cells.topLeft) :
    registry.regions.filter (·.anchor.key == address.key) =
      if registry.isAnchor address then (registry.at? address).toList else [] := by
  have listed : registry.regions.filter (·.anchor.key == address.key) =
      (if registry.isAnchor address then registry.at? address else none).toList := by
    refine filter_eq_toList sound.nodup_regions fun region => ?_
    rw [Option.ite_none_right_eq_some, beq_iff_eq]
    constructor
    · rintro ⟨member, same⟩
      have named := (only region member).mp same
      have read := sound.readsList named
      have here := (read.at?_eq_some region).mpr ⟨member, Range.contains_topLeft (sound.proper region member)⟩
      exact ⟨read.isAnchor.mpr ⟨region, here, rfl⟩, here⟩
    · rintro ⟨first, here⟩
      obtain ⟨cell, named, -⟩ := Option.bind_eq_some_iff.mp here
      have read := sound.readsList named
      obtain ⟨other, there, same⟩ := read.isAnchor.mp first
      cases here.symm.trans there
      obtain ⟨member, -⟩ := (read.at?_eq_some region).mp here
      exact ⟨member, (only region member).mpr (same ▸ named)⟩
  rw [listed]
  split <;> rfl

/-- Whatever has been asked of a registry, which may have cells that are too large for numbers to tell them exactly. -/
theorem heldUnder_afterAll (requests : List MergeRequest) {cell : Address Int} (named : address.toInt? = some cell)
    (exact : cell.IsExact) : (afterAll requests).HeldUnder address := by
  obtain ⟨area, sound⟩ := exists_sound_afterAll requests
  have key : address.key = cell.toNumber.key := (Address.key_eq_key_toNumber_iff exact).mpr named
  constructor
  · refine Address.under_key fun other _ => ?_
    rw [key, Address.toNumber_key_eq_iff exact, named, Option.some.injEq, eq_comm]
  · refine sound.anchors_under fun region _ => ?_
    rw [key, Address.key_eq_key_toNumber_iff exact, anchor_toInt?, named, eq_comm]

end MergeRegistry

namespace Sheet
variable {rows columns : Nat} {sheet : Sheet}

/-- The maps of a sheet under the key of an address. -/
structure HeldUnder (sheet : Sheet) (address : Address Number) : Prop where
  values : (Address.under sheet.grid.values address.key).map (·.value) = (sheet.value? address).toList
  styles : (Address.under sheet.grid.styles address.key).map (·.value) = (sheet.style? address).toList
  formats : (Address.under sheet.grid.formats address.key).map (·.value) = (sheet.format? address).toList
  richTexts : (Address.under sheet.grid.richTexts address.key).map (·.value) = (sheet.richText? address).toList
  populated : sheet.grid.populated.toList.filter (·.toNumber.key == address.key) =
    (address.toInt?.filter sheet.grid.populated.contains).toList
  merges : sheet.merges.HeldUnder address

theorem contentIn_under {α : Type} {layer : Layer α} {address : Address Number}
    (only : ∀ cell ∈ layer, cell.toNumber.key = address.key ↔ address.toInt? = some cell) :
    (Address.under layer address.key).map (·.value) = (contentIn layer address).toList := by
  rw [Address.under_key only, contentIn, read]
  cases address.toInt? with
  | none => rfl
  | some cell => simp [Option.toList_map]

/-- Whatever the address, and be it no cell of the sheet: under its key stands what is read at it. -/
theorem Sound.heldUnder (sound : sheet.Sound rows columns) (address : Address Number) : sheet.HeldUnder address := by
  have consistent := sound.consistent
  have exact {cell : Address Int}
      (within : (0 ≤ cell.row ∧ cell.row < sheet.rows) ∧ 0 ≤ cell.column ∧ cell.column < sheet.columns) : cell.IsExact := by
    have rows := sound.bounded.rows
    have columns := sound.bounded.columns
    simp only [maxRows, maxColumns, Address.IsExact] at *
    omega
  have only {cell : Address Int} (exact : cell.IsExact) :
      cell.toNumber.key = address.key ↔ address.toInt? = some cell :=
    eq_comm.trans (Address.key_eq_key_toNumber_iff exact)
  have stored {cell : Address Int} (member : cell ∈ sheet.grid.populated) :=
    only (exact (consistent.populated_inside cell member))
  have populated {cell : Address Int} := (consistent.mem_populated cell).mpr
  refine ⟨contentIn_under fun cell member => stored (populated (.inl member)),
    contentIn_under fun cell member => stored (populated (.inr (.inl member))),
    contentIn_under fun cell member => stored (populated (.inr (.inr (.inl member)))),
    contentIn_under fun cell member => stored (populated (.inr (.inr (.inr member)))), ?_, ?_, ?_⟩
  · have nodup : sheet.grid.populated.toList.Nodup := Std.TreeSet.distinct_toList.imp fun apart same => apart (by
      rw [same, Std.LawfulEqCmp.compare_eq_iff_eq])
    refine filter_eq_toList nodup fun cell => ?_
    rw [Std.TreeSet.mem_toList, beq_iff_eq, Option.filter_eq_some_iff, Std.TreeSet.contains_iff_mem, and_comm]
    exact and_congr_left stored
  · refine Address.under_key fun cell covered => ?_
    obtain ⟨region, held⟩ := Option.isSome_iff_exists.mp (Std.TreeMap.mem_iff_isSome_getElem?.mp covered)
    obtain ⟨member, within⟩ := (consistent.covering cell region).mp held
    exact only (exact (consistent.region_inside region member cell within))
  · refine sound.merges.anchors_under fun region member => ?_
    have first := Range.contains_topLeft (sound.merges.proper region member)
    have exact := exact (consistent.region_inside region member _ first)
    rw [(Address.key_eq_key_toNumber_iff exact).mpr (MergeRegistry.anchor_toInt? region)]
    exact only exact

end Sheet
namespace Address

/-- Keys are faithful to cells. The key of an address reads back as the cell that the address names, only addresses of the
same cell have it, and in whatever maps of a sheet or a registry it is looked up, the entry is that of the cell. -/
theorem key_faithful {address : Address Number} {cell : Address Int} (named : address.toInt? = some cell)
    (exact : cell.IsExact) :
    (ofKey address.key = cell.toNumber ∧ (ofKey address.key).same address = true) ∧
    (∀ other : Address Number, other.key = address.key ↔ other.toInt? = some cell) ∧
    (∀ world, SheetWorld.Reachable world → SheetWorld.Throughout (·.HeldUnder address) world) ∧
    ∀ requests, (MergeRegistry.afterAll requests).HeldUnder address := by
  have key : address.key = cell.toNumber.key := (key_eq_key_toNumber_iff exact).mpr named
  have back : ofKey address.key = cell.toNumber := by rw [key, ofKey_key_of_isExact exact]
  refine ⟨⟨back, ?_⟩, fun other => ?_, fun world reachable => ?_, fun requests => ?_⟩
  · rw [back]
    exact same_of_toInt? ((key_eq_key_toNumber_iff exact).mp rfl) named
  · rw [key]
    exact key_eq_key_toNumber_iff exact
  · obtain ⟨rows, columns, sound, shown⟩ := reachable.sound
    exact ⟨sound.heldUnder address, fun delivery member => (shown delivery member).heldUnder address⟩
  · exact MergeRegistry.heldUnder_afterAll requests named exact

/-- The least coordinate that numbers tell exactly, and a negative zero in a registry where the cell is covered. -/
theorem key_faithful_signed :
    let far : Address Number := ⟨.ofInt (-9007199254740991), .ofInt (-1)⟩
    let near : Address Number := ⟨.zero true, 5⟩
    let registry := MergeRegistry.afterAll [.merge ⟨0, 5, 1, 6⟩]
    (far.key = "-9007199254740991_-1".toList ∧ ofKey far.key = far) ∧
    (near.key = "0_5".toList ∧ (ofKey near.key).same near = true) ∧ near.key ≠ far.key ∧
    registry.isMerged near = true ∧ under registry.covering near.key = (registry.at? near).toList := by
  intro far near registry
  have farthest : far.toInt? = some ⟨-9007199254740991, -1⟩ := by decide +kernel
  have nearest : near.toInt? = some ⟨0, 5⟩ := by decide +kernel
  obtain ⟨⟨back, -⟩, only, -⟩ := key_faithful farthest ⟨by decide, by decide⟩
  obtain ⟨⟨-, same⟩, -, -, held⟩ := key_faithful nearest ⟨by decide, by decide⟩
  refine ⟨⟨by decide +kernel, back⟩, ⟨by decide +kernel, same⟩, ?_, by decide +kernel, (held _).covering⟩
  rw [Ne, only near, nearest]
  decide

end Address
end Spreadsheet
