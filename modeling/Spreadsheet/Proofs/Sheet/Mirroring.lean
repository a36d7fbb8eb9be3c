import Spreadsheet.Proofs.Sheet.Mirrored

/-! A fill on a sheet beside the transposed fill on the transposed sheet. Each part of a fill keeps the two sheets
transposes of each other, so a whole fill does. -/
namespace Spreadsheet.Session
open Run Sheet
variable {height width : Nat} {publish : Publisher} {α β : Type} {alike : α → β → Prop}

section checks

theorem parallel_check {f : Sheet → Except SheetError α} {g : Sheet → Except SheetError β}
    (agree : ∀ sheet mirror, Twins height width sheet mirror → Agree alike (f sheet) (g mirror)) :
    Parallel (Twins height width) (check f) (check g) alike :=
  fun _ _ _ _ twins => alike_of_outcome (outcome_check f) (outcome_check g) twins (agree _ _ twins)

theorem parallel_sheet : Parallel (Twins height width) sheet sheet (Twins height width) := parallel_state

theorem parallel_requireLive :
    Parallel (Twins height width) (check Sheet.requireLive) (check Sheet.requireLive) fun _ _ => True :=
  parallel_check fun _ _ twins => twins.requireLive

/-- What is found stays true of the range, whatever happens to the sheet later. -/
theorem parallel_writableRange (range : Range Number) :
    Parallel (Twins height width) (check (·.writableRange range)) (check (·.writableRange range.transpose))
      fun cells others => (range.checked = .ok cells ∧ (areaOf height width).containsRange cells = true) ∧
        others = cells.transpose := by
  refine parallel_check fun sheet mirror twins => (twins.writableRange range).mono ?_
  rintro cells others ⟨passed, same⟩
  exact ⟨⟨checked_of_writableRange passed, twins.sound.area_eq ▸ (writableRange_ok_iff.mp passed).2.2.2⟩, same⟩

end checks

section publish
variable (tells : OnlyTells publish)
include tells

theorem parallel_put {address : Address Int} (within : (areaOf height width).contains address = true)
    (made : Except SheetError (Option Cell)) :
    Parallel (Twins height width) (put publish (address, made)) (put publish (address.transpose, made))
      fun _ _ => True := by
  intro world mirror reads silent twins
  cases made with
  | error error => exact alike_of_outcome (outcome_put _ _) (outcome_put _ _) twins (.error _ _)
  | ok cell =>
    refine Alike.of_outcome ((outcome_put _ _).trans (outcome_settle_ok _))
      ((outcome_put _ _).trans (outcome_settle_ok _)) ?_
    exact (parallel_forM_publish tells _ _).go reads silent (twins.put within cell)

theorem parallel_endBatch :
    Parallel (Twins height width) (endBatch publish) (endBatch publish) fun _ _ => True := by
  intro world mirror reads silent twins
  refine Alike.of_outcome (outcome_endBatch world) (outcome_endBatch mirror) ?_
  exact (parallel_forM_publish tells _ _).go reads silent twins.batchClosed

theorem parallel_batch {body : Session α} {other : Session β} (parallel : Parallel (Twins height width) body other alike) :
    Parallel (Twins height width) (batch publish body) (batch publish other) alike := by
  have begins : Parallel (Twins height width) beginBatch beginBatch fun _ _ => True :=
    parallel_requireLive.bind fun _ _ _ => parallel_modifyState fun _ _ twins => twins.batchOpened
  refine begins.bind fun _ _ _ => parallel.attempt.bind fun result answer agree => ?_
  exact (parallel_endBatch tells).bind fun _ _ _ => parallel_lift agree

/-- The same cells are written at the transposed places. -/
theorem parallel_writeAll {cells : List (Address Int × Except SheetError (Option Cell))}
    (within : ∀ made ∈ cells, (areaOf height width).contains made.1 = true) :
    Parallel (Twins height width) (writeAll publish cells)
      (writeAll publish (cells.map fun made => (made.1.transpose, made.2))) fun _ _ => True := by
  rw [writeAll_eq, writeAll_eq]
  exact parallel_batch tells (parallel_forM _ fun made member => parallel_put tells (within made member) made.2)

theorem parallel_unmergeInRange (range : Range Number) :
    Parallel (Twins height width) (unmergeInRange publish range) (unmergeInRange publish range.transpose)
      fun removed others => others = removed.map MergeRegion.transpose := by
  intro world mirror reads silent twins
  cases live : world.state.isDisposed with
  | true =>
    have ended : mirror.state.isDisposed = true := twins.isDisposed.trans live
    exact alike_of_outcome (outcome_check_error (if_pos live)) (outcome_check_error (if_pos ended)) twins (.error _ _)
  | false =>
    refine Alike.of_outcome (outcome_unmergeInRange live range)
      (outcome_unmergeInRange (twins.isDisposed.trans live) range.transpose) ?_
    have told : Parallel (Twins height width)
        ((world.state.merges.inRange range).forM fun region => publish (.unmerge region.cells))
        ((mirror.state.merges.inRange range.transpose).forM fun region => publish (.unmerge region.cells))
        fun _ _ => True := by
      rw [twins.regions.inRange]
      exact parallel_forM _ fun _ _ => parallel_publish tells _ _
    refine Parallel.go ?_ reads silent (twins.unmergeInRange range)
    exact told.bind fun _ _ _ => parallel_pure (twins.regions.inRange range)

theorem parallel_addMerge {range : Range Number}
    (within : ∀ cells, range.toInt? = some cells → (areaOf height width).containsRange cells = true) :
    Parallel (Twins height width) (addMerge publish range) (addMerge publish range.transpose)
      fun region other => other = region.transpose := by
  intro world mirror reads silent twins
  cases answer : world.state.merges.merge range with
  | error error =>
    obtain ⟨_, refused⟩ := twins.regions.merge_error twins.sound.merges twins.other.merges answer
    exact alike_of_outcome (outcome_addMerge_of_error answer) (outcome_addMerge_of_error refused) twins (.error _ _)
  | ok made =>
    obtain ⟨region, merges⟩ := made
    obtain ⟨accepted, rfl, _⟩ := MergeRegistry.merge_ok answer
    have inside : (areaOf height width).containsRange region.cells = true :=
      within _ ((MergeRegion.ofRange_ok accepted).1 ▸ region.named)
    refine Alike.of_outcome (outcome_addMerge answer)
      (outcome_addMerge ((twins.regions.merge_ok_iff twins.sound.merges twins.other.merges).mpr answer)) ?_
    refine Parallel.go ?_ reads silent (twins.merged answer inside)
    exact (parallel_publish tells _ _).bind fun _ _ _ => parallel_pure rfl

/-- The regions inside the source are copied along the other axis. -/
theorem parallel_replicateMerges {source target : Range Number} {wide goal : Range Int} (first : source.checked = .ok wide)
    (second : target.checked = .ok goal) (vertical : Bool) :
    Parallel (Twins height width) (replicateMerges publish source target vertical)
      (replicateMerges publish source.transpose target.transpose !vertical)
      (List.Forall₂ fun region other => other = region.transpose) := by
  refine parallel_requireLive.bind fun _ _ _ => parallel_sheet.bind fun sheet mirror twins => ?_
  rw [twins.regions.inside]
  dsimp only
  rw [List.isEmpty_map]
  split
  · exact parallel_pure .nil
  · refine (parallel_unmergeInRange tells target).bind fun _ _ _ => parallel_sheet.bind fun now last twins => ?_
    have copies : (Tiling.replicas source.transpose target.transpose (!vertical)
          (((sheet.merges.inside source).map MergeRegion.transpose).map MergeRegion.given)).filter last.holds =
        ((Tiling.replicas source target vertical ((sheet.merges.inside source).map MergeRegion.given)).filter now.holds).map
          Range.transpose := by
      have givens : ((sheet.merges.inside source).map MergeRegion.transpose).map MergeRegion.given =
          ((sheet.merges.inside source).map MergeRegion.given).map Range.transpose := by
        simp only [List.map_map]
        rfl
      rw [givens, Tiling.replicas_transpose, List.filter_map]
      congr 2
      exact funext twins.holds
    rw [copies]
    refine (parallel_mapM _ fun copy member => parallel_addMerge tells ?_).bind fun created others same => ?_
    · intro cells named
      exact twins.sound.area_eq ▸ containsRange_of_holds named (List.mem_filter.mp member).2
    · obtain ⟨_, wrote⟩ := A1.exists_ofRange first
      obtain ⟨_, written⟩ := A1.exists_ofRange second
      obtain ⟨_, other⟩ := A1.exists_ofRange (Range.checked_transpose.mpr first)
      obtain ⟨_, turned⟩ := A1.exists_ofRange (Range.checked_transpose.mpr second)
      rw [wrote, written, other, turned]
      refine (parallel_lift (.ok trivial)).bind fun _ _ (_ : True) => ?_
      exact (parallel_lift (.ok trivial)).bind fun _ _ (_ : True) => parallel_pure same

/-- The last part of a fill: the cells that go on from the source, and then the regions. -/
theorem parallel_carryOn {sheet mirror : Sheet} (twins : Twins height width sheet mirror) {source target : Range Number}
    {wide goal : Range Int} (first : source.checked = .ok wide) (second : target.checked = .ok goal)
    (within : (areaOf height width).containsRange goal = true) (direction : FillDirection) (origin other : Address Number)
    (answer : Range Number) :
    Parallel (Twins height width)
      (writeAll publish (sheet.continued direction origin wide goal none) >>= fun _ =>
        replicateMerges publish source target direction.vertical >>= fun _ => pure (some answer))
      (writeAll publish (mirror.continued direction.turned other wide.transpose goal.transpose none) >>= fun _ =>
        replicateMerges publish source.transpose target.transpose direction.turned.vertical >>= fun _ =>
          pure (some answer.transpose))
      fun found other => other = found.map Range.transpose := by
  rw [twins.continued direction origin]
  refine (parallel_writeAll tells ?_).bind fun _ _ _ => ?_
  · exact fun made member => Range.contains_trans within (contains_of_mem_continued member)
  · exact (parallel_replicateMerges tells first second direction.vertical).bind fun _ _ _ => parallel_pure rfl

/-- Transposed arguments on the transposed sheet give the transposed answer, and the sheets stay transposes of each
other. -/
theorem parallel_smartFill {source destination : Range Number} (single : ¬FillDirection.LeavesBoth source destination) :
    Parallel (Twins height width) (smartFill publish source destination none)
      (smartFill publish source.transpose destination.transpose none)
      fun found other => other = found.map Range.transpose := by
  refine (parallel_writableRange source).bind ?_
  rintro wide _ ⟨⟨first, _⟩, rfl⟩
  rw [FillDirection.toward?_transpose single]
  cases FillDirection.toward? source destination with
  | none => exact parallel_pure rfl
  | some found =>
    obtain ⟨direction, strip⟩ := found
    refine (parallel_lift (agree_checked strip)).bind ?_
    rintro narrow _ rfl
    refine parallel_sheet.bind fun sheet mirror twins => ?_
    -- The target depends on the regions and the edge of the sheet, so it has to be turned before it can be checked.
    have turns := twins.fillTarget direction source strip wide narrow
    unfold Sheet.fillTarget at turns
    dsimp only
    rw [turns]
    refine (parallel_writableRange _).bind ?_
    rintro goal _ ⟨⟨second, within⟩, rfl⟩
    exact parallel_carryOn tells twins first second within direction _ _ _

end publish

end Spreadsheet.Session
