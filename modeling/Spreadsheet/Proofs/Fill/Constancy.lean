import Spreadsheet.Proofs.Cell.Equality
import Spreadsheet.Proofs.Fill.Classification

/-! Runs whose cells are all equal. They are compared with the first one, and as equality is an equivalence, any other one
would do. -/
namespace Spreadsheet

namespace FillPattern
variable {equality : CellEquality} {source : Nat → Cell} {run other : List (Option Cell)}

theorem kind_detect_cons (first : Option Cell) (rest : List (Option Cell)) :
    (detect equality (first :: rest)).kind = "constant" ↔ IsConstant equality first rest := by
  refine ⟨fun constant => ?_, fun constant => by rw [detect_of_isConstant constant]; rfl⟩
  by_contra moving
  rw [detect_of_not_isConstant moving] at constant
  cases found : first.bind fun template => (detectLinear? template (first :: rest)).or
      ((detectDate? template (first :: rest)).or (detectSuffix? template (first :: rest))) with
  | none => simp [found, kind] at constant
  | some pattern =>
    rw [found, Option.getD_some] at constant
    obtain ⟨template, rfl, goesOn⟩ := Option.bind_eq_some_iff.mp found
    rw [Option.or_eq_some_iff, Option.or_eq_some_iff] at goesOn
    rcases goesOn with linear | ⟨-, date | ⟨-, suffix⟩⟩
    · simp [kind_of_detectLinear? linear] at constant
    · simp [kind_of_detectDate? date] at constant
    · simp [kind_of_detectSuffix? suffix] at constant

/-- The order of a run makes no difference to whether any two of its cells are equal. -/
theorem kind_detect_eq_constant_iff (equivalence : IsEquivalenceOn (CellEquality.IsGiven source) equality.same)
    (given : ∀ entry ∈ run, CellEquality.IsGiven source entry) :
    (detect equality run).kind = "constant" ↔ ∀ a ∈ run, ∀ b ∈ run, equality.same a b = true := by
  cases run with
  | nil => simp [detect, kind]
  | cons first rest =>
    rw [kind_detect_cons]
    have start := given first List.mem_cons_self
    constructor
    · intro constant
      have toFirst : ∀ entry ∈ first :: rest, equality.same entry first = true :=
        List.forall_mem_cons.mpr ⟨equivalence.refl start, constant⟩
      intro a left b right
      exact equivalence.trans (given a left) start (given b right) (toFirst a left)
        (equivalence.symm (given b right) start (toFirst b right))
    · exact fun alike entry member => alike entry (List.mem_cons_of_mem _ member) first List.mem_cons_self

end FillPattern

namespace CellEquality
variable {equality : CellEquality}

/-- If styles and rich texts are compared by equivalences, cells are: those without aspects and places without a cell are
one class. Whether a run is constant does not depend on the order of its cells then. -/
theorem classes_of_cells (source : Nat → Cell) (styles : IsEquivalenceOn Payload.IsStyle equality.style)
    (richTexts : IsEquivalenceOn Payload.IsRichText equality.richText) :
    IsEquivalenceOn (IsGiven source) equality.same ∧
    (∀ a b, IsGiven source a → IsGiven source b → IsBare a → (equality.same a b = true ↔ IsBare b)) ∧
    ∀ run other : List (Option Cell), run.Perm other → (∀ entry ∈ run, IsGiven source entry) →
      ((FillPattern.detect equality run).kind = "constant" ↔ (FillPattern.detect equality other).kind = "constant") := by
  have equivalence : IsEquivalenceOn (IsGiven source) equality.same := isEquivalenceOn_same styles richTexts
  refine ⟨equivalence, fun a b first second bare => ?_, fun run other perm given => ?_⟩
  · rw [same_iff first second]
    simp [bare]
  · have others : ∀ entry ∈ other, IsGiven source entry := fun entry member => given entry (perm.mem_iff.mpr member)
    rw [FillPattern.kind_detect_eq_constant_iff equivalence given,
      FillPattern.kind_detect_eq_constant_iff equivalence others]
    simp only [perm.mem_iff]

/-- Deep equality, and a run of two cells with either zero whose styles list the same fields in a different order. -/
theorem classes_of_cells_zeros :
    let style (fields : List (String × Payload)) : Aspect Payload := .of (.record fields)
    let first : Cell := { value := .of (.number (.zero false)),
                          style := style [("bold", .flag true), ("indent", .number 1)] }
    let second : Cell := { value := .of (.number (.zero true)),
                           style := style [("indent", .number 1), ("bold", .flag true)] }
    (∀ entry ∈ [some first, some second], IsGiven (fun _ => {}) entry) ∧
      (FillPattern.detect {} [some first, some second]).kind = "constant" ∧
      (FillPattern.detect {} [some second, some first]).kind = "constant" := by
  intro style first second
  have styles : IsEquivalenceOn Payload.IsStyle Payload.same := Payload.isEquivalenceOn_same.mono fun _ => And.left
  have richTexts : IsEquivalenceOn Payload.IsRichText Payload.same := Payload.isEquivalenceOn_same.mono fun _ => And.left
  have proper (value : Number) (fields : List (String × Payload)) (names : (fields.map Prod.fst).Nodup)
      (each : ∀ field ∈ fields, field.2.IsProper) :
      ({ value := .of (.number value), style := style fields } : Cell).IsGiven fun _ => {} := by
    refine ⟨nofun, ⟨nofun, ?_⟩, nofun, nofun⟩
    rintro content ⟨⟩
    exact ⟨⟨.record names each, fields, rfl⟩, nofun⟩
  have given : ∀ entry ∈ [some first, some second], IsGiven (fun _ => {}) entry := by
    have fields (a b : String × Payload) (first : a.2.IsProper) (second : b.2.IsProper) : ∀ field ∈ [a, b], field.2.IsProper :=
      List.forall_mem_cons.mpr ⟨first, List.forall_mem_singleton.mpr second⟩
    refine List.forall_mem_cons.mpr ⟨?_, List.forall_mem_singleton.mpr ?_⟩
    · rintro cell ⟨⟩
      exact proper _ _ (by decide) (fields _ _ (.flag true) (.number 1))
    · rintro cell ⟨⟩
      exact proper _ _ (by decide) (fields _ _ (.number 1) (.flag true))
  have constant : (FillPattern.detect {} [some first, some second]).kind = "constant" := by decide +kernel
  have classes := @classes_of_cells {} (fun _ => {}) styles richTexts
  have order := classes.2.2 _ [some second, some first]
    (List.Perm.swap _ _ _) given
  exact ⟨given, constant, order.mp constant⟩

end CellEquality
end Spreadsheet
