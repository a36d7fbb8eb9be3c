import Mathlib.Data.List.Basic
import Spreadsheet.Cell.Value
import Spreadsheet.Proofs.Number.Texts

/-! Values of one hash are equal. A hash is the name of a kind and a content, and there is no content that two values of a
kind share, but for the zeros. The one value that has a hash and is not equal to itself is the date that is no point in
time. -/
namespace Spreadsheet

namespace Text

/-- A numeral has no sign of its own. -/
theorem signedNumeral_inj {a b : Int} : signedNumeral a = signedNumeral b ↔ a = b := by
  refine ⟨fun same => ?_, congrArg signedNumeral⟩
  have numeral_inj {m n : Nat} (same : numeral m = numeral n) : m = n := by
    rw [← digitsValue_numeral m, same, digitsValue_numeral]
  have unsigned (n : Nat) (rest : List Char) : numeral n ≠ '-' :: rest := by
    intro same
    have digit := @isDigit_of_mem_numeral n '-' (same ▸ List.mem_cons_self)
    revert digit
    decide
  unfold signedNumeral at same
  split at same <;> split at same
  · have sizes := numeral_inj (List.tail_eq_of_cons_eq same)
    omega
  · exact absurd same.symm (unsigned _ _)
  · exact absurd same (unsigned _ _)
  · have sizes := numeral_inj same
    omega

end Text

namespace Number
variable {x y : Number}

/-- Only zeros are numerically equal and different numbers. -/
theorem same_iff : x.same y = true ↔ x.isNaN = false ∧ x = y ∨ x.isZero = true ∧ y.isZero = true := by
  have zero_of_units {z : Number} (units : z.units? = some 0) : z.isZero = true := by
    cases z with
    | nan => cases units
    | infinite negative => cases units
    | finite negative s e canonical =>
      have magnitude := congrArg Int.natAbs (Option.some.inj units)
      rw [natAbs_signed] at magnitude
      simpa [isZero] using magnitude
  have equal : x.same y = true ↔ x.compare? y = some .eq := beq_iff_eq
  rw [equal]
  cases x with
  | nan => simp [compare?, isNaN, isZero]
  | infinite negative => cases y with
    | nan => simp [compare?, isNaN, isZero]
    | infinite other => cases negative <;> cases other <;> simp [compare?, isNaN, isZero]
    | finite other t f form => cases negative <;> simp [compare?, isNaN, isZero]
  | finite negative s e canonical => cases y with
    | nan => simp [compare?, isNaN, isZero]
    | infinite other => cases other <;> simp [compare?, isNaN, isZero]
    | finite other t f form =>
      constructor
      · intro compared
        rw [compare?_eq rfl rfl, Option.some.injEq, Int.compare_eq_eq] at compared
        by_cases none : signed negative (s * 2 ^ e) = 0
        · exact .inr ⟨zero_of_units (congrArg some none), zero_of_units (congrArg some (compared ▸ none))⟩
        · exact .inl ⟨rfl, eq_of_units? rfl (congrArg some compared.symm) none⟩
      · rintro (⟨-, same⟩ | ⟨first, second⟩)
        · rw [same, compare?_eq rfl rfl, Int.compare_eq_eq.mpr rfl]
        · rw [compare?, if_pos ⟨beq_iff_eq.mp first, beq_iff_eq.mp second⟩]

/-- Numbers that count as one value have one text. -/
theorem same_iff_text : (decide (x = y) || x.same y) = true ↔ x.text = y.text := by
  rw [Bool.or_eq_true, decide_eq_true_eq, same_iff, text_eq_text_iff]
  tauto

end Number

namespace CellValue
variable {a b c : CellValue}

/-- The name of a kind in front of a hash. -/
def kindName : CellValue → String
  | text _ => "text"
  | number _ => "number"
  | boolean _ => "boolean"
  | formula _ => "formula"
  | error _ => "error"
  | date _ => "date"
  | duration _ => "duration"

/-- What a hash has after the name of the kind. -/
def contentText : CellValue → String
  | text content | formula content | error content => content
  | number value | duration value => toString value
  | boolean value => if value then "true" else "false"
  | date instant => String.ofList (timeText instant)

theorem hash_eq (value : CellValue) : value.hash = value.kindName ++ ":" ++ value.contentText := by
  cases value with
  | boolean value => cases value <;> rfl
  | _ => rfl

/-- A hash has the kind and the content, as the name of no kind has a colon. -/
theorem hash_eq_iff : a.hash = b.hash ↔ a.kindName = b.kindName ∧ a.contentText = b.contentText := by
  have plain (value : CellValue) : ':' ∉ value.kindName.toList := by cases value <;> simp [kindName]
  have parts (value : CellValue) :
      value.hash.toList = value.kindName.toList ++ ':' :: value.contentText.toList := by simp [hash_eq]
  have divided (value : CellValue) : value.hash.toList.span (· != ':') =
      (value.kindName.toList, ':' :: value.contentText.toList) := by
    rw [parts]
    refine Text.span_append (fun c member => ?_) (by simp)
    exact bne_iff_ne.mpr fun same => plain value (same ▸ member)
  constructor
  · intro same
    have halves := divided a
    rw [same, divided, Prod.mk.injEq, List.cons.injEq, String.toList_inj, String.toList_inj] at halves
    exact ⟨halves.1.symm, halves.2.2.symm⟩
  · rintro ⟨kind, content⟩
    rw [hash_eq, hash_eq, kind, content]

/-- Times have one text only if they are the same, or both are none. -/
private theorem timeText_eq_iff {instant : Instant} {other : Option Instant} :
    timeText (some instant) = timeText other ↔ some instant = other := by
  cases other with
  | none =>
    refine iff_of_false (fun same => ?_) (Option.some_ne_none _)
    have digits : ∀ c ∈ Text.signedNumeral instant.ms, c = '-' ∨ c.isDigit = true := by
      unfold Text.signedNumeral
      split
      · exact List.forall_mem_cons.mpr ⟨.inl rfl, fun c member => .inr (Text.isDigit_of_mem_numeral member)⟩
      · exact fun c member => .inr (Text.isDigit_of_mem_numeral member)
    have word : Text.signedNumeral instant.ms = Number.nan.text := same
    rw [word] at digits
    exact absurd (digits 'N' (by decide)) (by decide)
  | some other =>
    cases instant
    cases other
    simp [timeText, Text.signedNumeral_inj]

/-- Numbers of one kind. -/
private theorem same_iff_toString {x y : Number} :
    (decide (x = y) || x.same y) = true ↔ toString x = toString y := by
  rw [Number.same_iff_text]
  exact String.ofList_inj.symm

/-- Equal values have one hash, and values of one hash are equal, but for dates that are no point in time. -/
theorem same_iff_hash_eq : a.same b = true ↔ a.hash = b.hash ∧ a ≠ .date none := by
  rw [hash_eq_iff]
  cases a with
  | text content | formula content | error content => cases b <;> simp [same, kindName, contentText]
  | number value =>
    cases b with
    | number other => simpa [same, kindName, contentText, -Bool.or_eq_true] using same_iff_toString
    | _ => simp [same, kindName]
  | boolean value =>
    cases b with
    | boolean other => cases value <;> cases other <;> simp [same, kindName, contentText]
    | _ => simp [same, kindName]
  | date instant =>
    cases instant with
    | none => simp [same]
    | some instant =>
      cases b with
      | date other =>
        have apart := @timeText_eq_iff instant other
        cases other <;> simp_all [same, kindName, contentText, String.ofList_inj]
      | _ => simp [same, kindName]
  | duration ms =>
    cases b with
    | duration other => simpa [same, kindName, contentText, -Bool.or_eq_true] using same_iff_toString
    | _ => simp [same, kindName]

/-- No value is equal to a date that is no point in time. -/
theorem same_none (value : CellValue) : value.same (.date none) = false := by
  cases value with
  | date instant => cases instant <;> rfl
  | _ => rfl

/-- Equality and the hash coincide for any two values that are not both dates without a point in time; other than these
every value is equal to itself, and equality is symmetric and transitive. -/
theorem equality_matches_hash (a b c : CellValue) :
    (¬(a = .date none ∧ b = .date none) → (a.same b = true ↔ a.hash = b.hash)) ∧
      (a ≠ .date none → a.same a = true) ∧ (a.same b = true → b.same a = true) ∧
      (a.same b = true → b.same c = true → a.same c = true) := by
  refine ⟨?coincide, fun timed => same_iff_hash_eq.mpr ⟨rfl, timed⟩, ?symm, ?trans⟩
  case coincide =>
    intro apart
    rw [same_iff_hash_eq]
    refine and_iff_left_of_imp fun hashes => ?_
    rintro rfl
    have alike := same_iff_hash_eq.mpr ⟨hashes.symm, fun none => apart ⟨rfl, none⟩⟩
    rw [same_none] at alike
    cases alike
  case symm =>
    intro alike
    refine same_iff_hash_eq.mpr ⟨(same_iff_hash_eq.mp alike).1.symm, ?_⟩
    rintro rfl
    rw [same_none] at alike
    cases alike
  case trans =>
    intro first second
    rw [same_iff_hash_eq] at first second ⊢
    exact ⟨first.1.trans second.1, first.2⟩

/-- Zeros of either sign have one hash, and so they are equal, back and forth. -/
theorem equality_matches_hash_zeros :
    (number (.zero true)).hash = (number (.zero false)).hash ∧
      (number (.zero true)).same (number (.zero false)) = true ∧
      (number (.zero false)).same (number (.zero true)) = true ∧
      (number (.zero true)).same (number (.zero true)) = true := by
  have hashes : (number (.zero true)).hash = (number (.zero false)).hash := by decide +kernel
  obtain ⟨coincide, -, symmetric, transitive⟩ :=
    equality_matches_hash (number (.zero true)) (number (.zero false)) (number (.zero true))
  have zeros := (coincide nofun).mpr hashes
  exact ⟨hashes, zeros, symmetric zeros, transitive zeros (symmetric zeros)⟩

/-- Two dates that are no point in time have one hash and are not equal. -/
theorem not_matches_hash_none :
    (date none).hash = "date:NaN" ∧ ¬((date none).same (date none) = true ↔ (date none).hash = (date none).hash) :=
  ⟨by decide +kernel, fun coincide => Bool.false_ne_true (coincide.mpr rfl)⟩

end CellValue
end Spreadsheet
