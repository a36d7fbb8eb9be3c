import Mathlib.Data.List.Perm.Subperm
import Spreadsheet.Cell.Equality
import Spreadsheet.Proofs.Cell.Hashing

/-! Equality of cells as an equivalence. Deep equality of contents is one where the names in every record are distinct,
and equality of cells is one if the comparers of styles and rich texts are: a cell without content is equal to no other
cell, and two cells that are equal have content in the same places. -/
namespace Spreadsheet

/-- Reflexive, symmetric and transitive among some things. -/
structure IsEquivalenceOn {α : Type} (among : α → Prop) (equal : α → α → Bool) : Prop where
  refl : ∀ {a}, among a → equal a a = true
  symm : ∀ {a b}, among a → among b → equal a b = true → equal b a = true
  trans : ∀ {a b c}, among a → among b → among c → equal a b = true → equal b c = true → equal a c = true

theorem IsEquivalenceOn.mono {α : Type} {among fewer : α → Prop} {equal : α → α → Bool}
    (equivalence : IsEquivalenceOn among equal) (less : ∀ a, fewer a → among a) : IsEquivalenceOn fewer equal where
  refl a := equivalence.refl (less _ a)
  symm a b := equivalence.symm (less _ a) (less _ b)
  trans a b c := equivalence.trans (less _ a) (less _ b) (less _ c)

namespace Payload
variable {a b c content : Payload} {items others : List Payload} {fields rest : List (String × Payload)} {name : String}

/-- The names in every record are distinct. -/
inductive IsProper : Payload → Prop
  | null : IsProper null
  | flag (value : Bool) : IsProper (flag value)
  | number (value : Number) : IsProper (number value)
  | text (content : String) : IsProper (text content)
  | list {items : List Payload} (each : ∀ item ∈ items, IsProper item) : IsProper (list items)
  | record {fields : List (String × Payload)} (names : (fields.map Prod.fst).Nodup)
      (each : ∀ field ∈ fields, IsProper field.2) : IsProper (record fields)

/-- A style is a record. -/
def IsStyle (payload : Payload) : Prop := payload.IsProper ∧ ∃ fields, payload = record fields

/-- A rich text is a list. -/
def IsRichText (payload : Payload) : Prop := payload.IsProper ∧ ∃ items, payload = list items

theorem lookup_eq_some_iff_mem (names : (fields.map Prod.fst).Nodup) :
    fields.lookup name = some content ↔ (name, content) ∈ fields := by
  induction fields with
  | nil => simp
  | cons field fields ih =>
    obtain ⟨first, own⟩ := field
    rw [List.map_cons, List.nodup_cons] at names
    rw [List.lookup_cons, List.mem_cons, Prod.mk.injEq]
    by_cases same : name = first
    · subst same
      have absent : (name, content) ∉ fields := fun member => names.1 (List.mem_map.mpr ⟨_, member, rfl⟩)
      simp [absent, eq_comm]
    · simp [same, beq_eq_false_iff_ne.mpr same, ih names.2]

theorem sameItems_iff : sameItems items others = true ↔ List.Forall₂ (fun a b => same a b = true) items others := by
  induction items generalizing others with
  | nil => cases others <;> simp [sameItems]
  | cons item items ih => cases others <;> simp [sameItems, ih]

theorem sameFields_iff : sameFields fields rest = true ↔
    ∀ field ∈ fields, ∃ other, rest.lookup field.1 = some other ∧ same field.2 other = true := by
  induction fields with
  | nil => simp [sameFields]
  | cons field fields ih =>
    rw [sameFields, Bool.and_eq_true, ih, List.forall_mem_cons]
    refine and_congr_left fun _ => ?_
    cases rest.lookup field.1 <;> simp

theorem same_record : same (record fields) (record rest) = true ↔ fields.length = rest.length ∧
    ∀ field ∈ fields, ∃ other, rest.lookup field.1 = some other ∧ same field.2 other = true := by
  rw [same, Bool.and_eq_true, beq_iff_eq, sameFields_iff]

theorem same_list : same (list items) (list others) = true ↔
    List.Forall₂ (fun a b => same a b = true) items others := by
  rw [same, sameItems_iff]

theorem same_self (proper : a.IsProper) : same a a = true := by
  induction proper with
  | null => rfl
  | flag | number | text => simp [same]
  | list each ih => exact same_list.mpr (List.forall₂_same.mpr ih)
  | record names each ih =>
    exact same_record.mpr ⟨rfl, fun field member => ⟨field.2, (lookup_eq_some_iff_mem names).mpr member, ih field member⟩⟩

/-- Records of one length, each name of one of which is in the other, have the same names. -/
theorem same_comm (first : a.IsProper) (second : b.IsProper) (alike : same a b = true) : same b a = true := by
  induction first generalizing b with
  | null | flag | number | text => cases b <;> simp_all [same]
  | list each ih =>
    cases second with
    | list others =>
      rw [same_list] at alike ⊢
      refine (List.forall₂_iff_get.mpr ⟨alike.length_eq.symm, fun i low high => ?_⟩)
      exact ih _ (List.get_mem _ _) (others _ (List.get_mem _ _)) (alike.get high low)
    | _ => cases alike
  | @record fields names each ih =>
    cases second with
    | @record rest distinct others =>
      rw [same_record] at alike ⊢
      obtain ⟨length, found⟩ := alike
      have subset : fields.map Prod.fst ⊆ rest.map Prod.fst := by
        intro name member
        obtain ⟨field, present, rfl⟩ := List.mem_map.mp member
        obtain ⟨other, looked, -⟩ := found field present
        exact List.mem_map.mpr ⟨_, (lookup_eq_some_iff_mem distinct).mp looked, rfl⟩
      have perm : (fields.map Prod.fst).Perm (rest.map Prod.fst) :=
        (names.subperm subset).perm_of_length_le (by simp [length])
      refine ⟨length.symm, fun field member => ?_⟩
      obtain ⟨⟨name, content⟩, present, same⟩ := List.mem_map.mp (perm.mem_iff.mpr (List.mem_map_of_mem member))
      obtain ⟨other, looked, alike⟩ := found _ present
      obtain rfl : name = field.1 := same
      have own := (lookup_eq_some_iff_mem distinct).mpr member
      obtain rfl := Option.some.inj (own.symm.trans looked)
      exact ⟨content, (lookup_eq_some_iff_mem names).mpr present, ih _ present (others _ member) alike⟩
    | _ => cases alike

theorem same_trans (second : b.IsProper) (alike : same a b = true) (next : same b c = true) : same a c = true := by
  induction second generalizing a c with
  | null | flag | number | text => cases a <;> cases c <;> simp_all [same]
  | list each ih =>
    cases a with
    | list items => cases c with
      | list others =>
        rw [same_list, List.forall₂_iff_get] at *
        refine ⟨alike.1.trans next.1, fun i low high => ?_⟩
        have middle := alike.1 ▸ low
        exact ih _ (List.get_mem _ _) (alike.2 i low middle) (next.2 i middle high)
      | _ => cases next
    | _ => cases alike
  | record names each ih =>
    cases a with
    | record fields => cases c with
      | record rest =>
        rw [same_record] at *
        refine ⟨alike.1.trans next.1, fun field member => ?_⟩
        obtain ⟨middle, looked, first⟩ := alike.2 field member
        have present := (lookup_eq_some_iff_mem names).mp looked
        obtain ⟨other, found, second⟩ := next.2 _ present
        exact ⟨other, found, ih _ present first second⟩
      | _ => cases next
    | _ => cases alike

/-- Deep equality is an equivalence. -/
theorem isEquivalenceOn_same : IsEquivalenceOn IsProper same where
  refl := same_self
  symm := same_comm
  trans _ second _ := same_trans second

end Payload

namespace Aspect
variable {α : Type} {among : α → Prop} {equal : α → α → Bool}

/-- A relation of aspects is an equivalence if it compares contents by one, and no aspect without content is related to
another one. -/
theorem isEquivalenceOn_of_present {given : Aspect α → Prop} {alike : Aspect α → Aspect α → Bool}
    (equivalence : IsEquivalenceOn among equal) (wanted : ∀ content, given (present content) → among content.value)
    (copies : ∀ a b, given (present a) → given (present b) →
      (alike (present a) (present b) = true ↔ equal a.value b.value = true))
    (apart : ∀ a b, given a → given b → ¬(a.content?.isSome = true ∧ b.content?.isSome = true) →
      (alike a b = true ↔ a = b)) : IsEquivalenceOn given alike := by
  have both {a b : Aspect α} (some : a.content?.isSome = true ∧ b.content?.isSome = true) :
      ∃ c d, a = present c ∧ b = present d := by
    cases a <;> cases b <;> simp_all [content?]
  refine ⟨@fun a first => ?refl, @fun a b first second related => ?symm,
    @fun a b c first second third related next => ?trans⟩
  case refl =>
    by_cases some : a.content?.isSome = true
    · obtain ⟨_, _, rfl, -⟩ := both ⟨some, some⟩
      exact (copies _ _ first first).mpr (equivalence.refl (wanted _ first))
    · exact (apart a a first first (some ·.1)).mpr rfl
  case symm =>
    by_cases some : a.content?.isSome = true ∧ b.content?.isSome = true
    · obtain ⟨_, _, rfl, rfl⟩ := both some
      rw [copies _ _ first second] at related
      exact (copies _ _ second first).mpr (equivalence.symm (wanted _ first) (wanted _ second) related)
    · obtain rfl := (apart a b first second some).mp related
      exact related
  case trans =>
    by_cases some : a.content?.isSome = true ∧ b.content?.isSome = true
    · by_cases more : b.content?.isSome = true ∧ c.content?.isSome = true
      · obtain ⟨_, _, rfl, rfl⟩ := both some
        obtain ⟨_, _, -, rfl⟩ := both more
        rw [copies _ _ first second] at related
        rw [copies _ _ second third] at next
        exact (copies _ _ first third).mpr
          (equivalence.trans (wanted _ first) (wanted _ second) (wanted _ third) related next)
      · obtain rfl := (apart b c second third more).mp next
        exact related
    · obtain rfl := (apart a b first second some).mp related
      exact next

/-- Copies of one content are equal contents. -/
theorem isEquivalenceOn_same [BEq α] [LawfulBEq α] (equivalence : IsEquivalenceOn among equal) :
    IsEquivalenceOn (fun aspect : Aspect α => ∀ content ∈ aspect.content?, among content.value) (Aspect.same equal) := by
  refine isEquivalenceOn_of_present equivalence (fun content wanted => wanted content rfl) (fun a b first _ => ?_)
    (fun a b _ _ none => ?_)
  · rw [same, Bool.or_eq_true, or_iff_right_of_imp]
    intro copy
    have alike : a.value = b.value := by simp_all [Content.isCopy]
    exact alike ▸ equivalence.refl (first a rfl)
  · cases a <;> cases b <;> simp_all [same, content?]

/-- Absent, or present with a content as it is wanted. If this bears a stamp, it is what the writing of that stamp brought
in. -/
def IsGiven (wanted : α → Prop) (source : Nat → Option α) (aspect : Aspect α) : Prop :=
  aspect ≠ blank ∧
    ∀ content ∈ aspect.content?, wanted content.value ∧ ∀ stamp ∈ content.stamp, source stamp = some content.value

end Aspect

/-- A cell as it can be given: a date is a point in time, a style is a record and a rich text a list. Stamps are those of
writings, and tell what these brought in. -/
structure Cell.IsGiven (source : Nat → Cell) (cell : Cell) : Prop where
  timed : cell.value.toOption ≠ some (.date none)
  style : cell.style.IsGiven Payload.IsStyle fun stamp => (source stamp).style.toOption
  richText : cell.richText.IsGiven Payload.IsRichText fun stamp => (source stamp).richText.toOption

namespace CellEquality
variable {equality : CellEquality} {equal : Payload → Payload → Bool} {wanted : Payload → Prop}

/-- Contents that are no scalars are left to the comparer, unless they are copies of one content. -/
theorem isEquivalenceOn_samePayload (source : Nat → Option Payload)
    (solid : ∀ a b, wanted a → a.sameScalar b = false) (equivalence : IsEquivalenceOn wanted equal) :
    IsEquivalenceOn (Aspect.IsGiven wanted source) (samePayload equal) := by
  refine Aspect.isEquivalenceOn_of_present equivalence (fun content given => (given.2 content rfl).1)
    (fun a b first second => ?_) (fun a b first second none => ?_)
  · obtain ⟨own, ownSource⟩ := first.2 a rfl
    obtain ⟨-, otherSource⟩ := second.2 b rfl
    simp only [samePayload, Aspect.content?, Option.getD_some, solid _ _ own, Bool.or_false, Bool.or_eq_true]
    refine or_iff_right_of_imp fun copy => ?_
    simp only [Content.isCopy, Bool.and_eq_true, beq_iff_eq, Option.isSome_iff_exists] at copy
    obtain ⟨⟨⟨stamp, stamped⟩, same⟩, -⟩ := copy
    have alike := (ownSource stamp stamped).symm.trans (otherSource stamp (same ▸ stamped))
    exact Option.some.inj alike ▸ equivalence.refl own
  · have plain := first.1
    have other := second.1
    cases a <;> cases b <;> simp_all [samePayload, Aspect.content?]

/-- No cell, or one without aspects. -/
def IsBare (entry : Option Cell) : Prop :=
  ∀ cell ∈ entry, cell.value.content? = none ∧ cell.style.content? = none ∧ cell.format.content? = none ∧
    cell.richText.content? = none

/-- There is no cell, or it is as it can be given. -/
def IsGiven (source : Nat → Cell) (entry : Option Cell) : Prop := ∀ cell ∈ entry, cell.IsGiven source

variable {source : Nat → Cell} {a b c : Option Cell}

/-- Neither a record nor a list is void. -/
theorem isEmpty_iff {cell : Cell} (given : cell.IsGiven source) : cell.isEmpty = true ↔ IsBare (some cell) := by
  have void {wanted : Payload → Prop} {source : Nat → Option Payload} {aspect : Aspect Payload}
      (solid : ∀ a, wanted a → a.isVoid = false) (given : aspect.IsGiven wanted source) :
      aspect.toOption.all Payload.isVoid = true ↔ aspect.content? = none := by
    cases aspect with
    | present content => simp [Aspect.toOption, Aspect.content?, solid _ (given.2 content rfl).1]
    | _ => simp [Aspect.toOption, Aspect.content?]
  have style := void (by rintro _ ⟨-, _, rfl⟩; rfl) given.style
  have richText := void (by rintro _ ⟨-, _, rfl⟩; rfl) given.richText
  have vacant {α : Type} (aspect : Aspect α) : aspect.toOption.isNone = true ↔ aspect.content? = none := by
    simp [Aspect.toOption]
  simp only [Cell.isEmpty, Bool.and_eq_true, style, richText, vacant, and_assoc, IsBare, Option.mem_def, Option.some.injEq,
    forall_eq']

/-- Comparison aspect by aspect, whether or not there are any. -/
def sameAspects (equality : CellEquality) (a b : Cell) : Bool :=
  a.value.same CellValue.same b.value && a.format.same (fun f g => decide (f = g)) b.format &&
    samePayload equality.style a.style b.style && samePayload equality.richText a.richText b.richText

/-- Cells without aspects are equal, and others if they are so aspect by aspect. -/
theorem same_iff (first : IsGiven source a) (second : IsGiven source b) : equality.same a b = true ↔
    IsBare a ∧ IsBare b ∨ ¬IsBare a ∧ ¬IsBare b ∧ equality.sameAspects (a.getD {}) (b.getD {}) = true := by
  have kept {entry : Option Cell} (given : IsGiven source entry) :
      IsBare entry ∧ entry.filter (!·.isEmpty) = none ∨
        ¬IsBare entry ∧ entry.filter (!·.isEmpty) = some (entry.getD {}) := by
    cases entry with
    | none => exact .inl ⟨by simp [IsBare], rfl⟩
    | some cell =>
      rw [← isEmpty_iff (given cell rfl)]
      cases empty : cell.isEmpty <;> simp [Option.filter, empty]
  rw [same]
  rcases kept first with ⟨bare, none⟩ | ⟨some, whole⟩ <;> rcases kept second with ⟨other, gone⟩ | ⟨more, rest⟩
  · simp [none, gone, bare, other]
  · simp [none, rest, bare, more]
  · simp [whole, gone, some, other]
  · simp only [whole, rest, some, more, false_and, not_false_eq_true, true_and, false_or]
    rfl

/-- Equality of values is an equivalence but for dates that are no point in time. -/
theorem isEquivalenceOn_values : IsEquivalenceOn (· ≠ CellValue.date none) CellValue.same := by
  refine ⟨fun timed => CellValue.same_iff_hash_eq.mpr ⟨rfl, timed⟩, fun _ timed alike => ?_,
    fun first _ _ alike next => ?_⟩
  · exact CellValue.same_iff_hash_eq.mpr ⟨(CellValue.same_iff_hash_eq.mp alike).1.symm, timed⟩
  · rw [CellValue.same_iff_hash_eq] at alike next ⊢
    exact ⟨alike.1.trans next.1, first⟩

theorem isEquivalenceOn_formats : IsEquivalenceOn (fun _ : CellFormat => True) fun f g => decide (f = g) where
  refl := by simp
  symm := by simp [eq_comm]
  trans := by simp_all

section comparers
variable (styles : IsEquivalenceOn Payload.IsStyle equality.style)
  (richTexts : IsEquivalenceOn Payload.IsRichText equality.richText)
include styles richTexts

theorem isEquivalenceOn_sameAspects : IsEquivalenceOn (Cell.IsGiven source) equality.sameAspects := by
  have values := Aspect.isEquivalenceOn_same isEquivalenceOn_values
  have formats := Aspect.isEquivalenceOn_same isEquivalenceOn_formats
  have styles := isEquivalenceOn_samePayload (fun stamp => (source stamp).style.toOption)
    (by rintro _ _ ⟨-, _, rfl⟩; rfl) styles
  have richTexts := isEquivalenceOn_samePayload (fun stamp => (source stamp).richText.toOption)
    (by rintro _ _ ⟨-, _, rfl⟩; rfl) richTexts
  have timed {cell : Cell} (given : cell.IsGiven source) :
      ∀ content ∈ cell.value.content?, content.value ≠ .date none := by
    rintro content member same
    exact given.timed (by rw [Aspect.toOption, Option.mem_def.mp member, Option.map_some, same])
  have any {cell : Cell} : ∀ content ∈ cell.format.content?, True := fun _ _ => trivial
  constructor
  · intro a first
    simp only [sameAspects, Bool.and_eq_true]
    exact ⟨⟨⟨values.refl (timed first), formats.refl any⟩, styles.refl first.style⟩, richTexts.refl first.richText⟩
  · intro a b first second alike
    simp only [sameAspects, Bool.and_eq_true] at alike ⊢
    obtain ⟨⟨⟨value, format⟩, style⟩, richText⟩ := alike
    exact ⟨⟨⟨values.symm (timed first) (timed second) value, formats.symm any any format⟩,
      styles.symm first.style second.style style⟩, richTexts.symm first.richText second.richText richText⟩
  · intro a b c first second third alike next
    simp only [sameAspects, Bool.and_eq_true] at alike next ⊢
    obtain ⟨⟨⟨value, format⟩, style⟩, richText⟩ := alike
    obtain ⟨⟨⟨value', format'⟩, style'⟩, richText'⟩ := next
    exact ⟨⟨⟨values.trans (timed first) (timed second) (timed third) value value',
      formats.trans any any any format format'⟩,
      styles.trans first.style second.style third.style style style'⟩,
      richTexts.trans first.richText second.richText third.richText richText richText'⟩

/-- The cells without aspects, and no cell, are a class of their own. -/
theorem isEquivalenceOn_same : IsEquivalenceOn (IsGiven source) equality.same := by
  have aspects : IsEquivalenceOn (Cell.IsGiven source) equality.sameAspects :=
    isEquivalenceOn_sameAspects styles richTexts
  have cell {entry : Option Cell} (given : IsGiven source entry) : (entry.getD {}).IsGiven source := by
    cases entry with
    | none => exact ⟨by simp [Aspect.toOption, Aspect.content?], by simp [Aspect.IsGiven, Aspect.content?],
        by simp [Aspect.IsGiven, Aspect.content?]⟩
    | some cell => exact given cell rfl
  constructor
  · intro a first
    rw [same_iff first first]
    by_cases bare : IsBare a
    · exact .inl ⟨bare, bare⟩
    · exact .inr ⟨bare, bare, aspects.refl (cell first)⟩
  · intro a b first second alike
    rw [same_iff first second] at alike
    rw [same_iff second first]
    refine alike.imp And.symm fun ⟨solid, other, alike⟩ => ?_
    exact ⟨other, solid, aspects.symm (cell first) (cell second) alike⟩
  · intro a b c first second third alike next
    rw [same_iff first second] at alike
    rw [same_iff second third] at next
    rw [same_iff first third]
    rcases alike with ⟨bare, middle⟩ | ⟨some, middle, alike⟩
    · rcases next with ⟨-, last⟩ | ⟨more, -, -⟩
      · exact .inl ⟨bare, last⟩
      · exact absurd middle more
    · rcases next with ⟨bare, -⟩ | ⟨-, last, next⟩
      · exact absurd bare middle
      · exact .inr ⟨some, last, aspects.trans (cell first) (cell second) (cell third) alike next⟩

end comparers
end CellEquality
end Spreadsheet
