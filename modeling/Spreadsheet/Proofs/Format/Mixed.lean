import Spreadsheet.Proofs.Cell.Hashing
import Spreadsheet.Proofs.Format.Approximation
import Spreadsheet.Proofs.Number.Differences

/-! Patterns with a whole part beside the fraction. The numerator that prints is neither zero nor the denominator, for a
denominator of either kind. -/
namespace Spreadsheet.Format
attribute [local instance (high)] instPowNat

section printing
variable {α : Type} [Scalar α]

namespace FractionPattern

/-- A whole part in its places, which zero leaves to the padding. -/
def wholeText (fraction : FractionPattern) (whole : α) : List Char :=
  fillInteger (if Scalar.same whole (Scalar.ofInt 0) then [] else Scalar.text whole) fraction.integer none

/-- A whole number that stands alone. -/
def alone (fraction : FractionPattern) (whole : α) : List Char :=
  if (Text.trim (fraction.wholeText whole)).isEmpty then ['0'] else fraction.wholeText whole

/-- A numerator over a denominator, with a whole part in front unless it is zero and no place asks for a digit. -/
def beside (fraction : FractionPattern) (whole numerator denominator : α) : List Char :=
  (if Scalar.same whole (Scalar.ofInt 0) && !fraction.integer.contains '0' then []
    else fraction.wholeText whole ++ fraction.separator) ++
  (padLeftTo fraction.numerator (Scalar.text numerator) ++ '/' :: match fraction.denominator with
    | .fixed _ => Scalar.text denominator
    | .free places => padRightTo places (Scalar.text denominator))

end FractionPattern

/-- What a pattern with a whole part prints for a value: its whole part or the next whole number alone, or its whole
part and a fraction. -/
inductive PrintsMixed (x : α) (fraction : FractionPattern) (proper : α → α → Prop) : List Char → Prop
  | alone {whole : α} (near : whole = Scalar.floor x ∨ whole = Scalar.floor x + Scalar.ofInt 1) :
      PrintsMixed x fraction proper (fraction.alone whole)
  | beside {numerator denominator : α} (is : proper numerator denominator) :
      PrintsMixed x fraction proper (fraction.beside (Scalar.floor x) numerator denominator)

/-- The parts of what is left beside the whole part, if they print: the numerator is neither zero nor the
denominator. -/
def IsPart (x : α) (fraction : FractionPattern) (numerator denominator : α) : Prop :=
  fractionParts? (x - Scalar.floor x) fraction.denominator = some (numerator, denominator) ∧
    Scalar.same numerator (Scalar.ofInt 0) = false ∧ Scalar.same numerator denominator = false

variable {x : α} {fraction : FractionPattern}

theorem PrintsMixed.imp {proper other : α → α → Prop} (more : ∀ numerator denominator, proper numerator denominator →
    other numerator denominator) {text : List Char} (prints : PrintsMixed x fraction proper text) :
    PrintsMixed x fraction other text := by
  cases prints with
  | alone near => exact .alone near
  | beside is => exact .beside (more _ _ is)

/-- A numerator that prints is not zero, and does not reach the denominator. -/
theorem printsMixed_of_fractionText? (mixed : fraction.integer ≠ [])
    (zero : Scalar.same (Scalar.ofInt 0 : α) (Scalar.ofInt 0) = true) {text : List Char}
    (shows : fractionText? x fraction = some text) :
    PrintsMixed x fraction (IsPart x fraction) text := by
  have whole : (!fraction.integer.isEmpty) = true := by simpa using mixed
  unfold fractionText? mixedParts? at shows
  rw [Option.map_map, Option.map_eq_some_iff] at shows
  obtain ⟨⟨numerator, denominator⟩, parts, rfl⟩ := shows
  simp only [whole, if_true, Bool.true_and, Function.comp_apply] at parts ⊢
  cases reaches : Scalar.same numerator denominator with
  | true =>
    simp only [if_true, zero]
    exact .alone (.inr rfl)
  | false =>
    simp only [Bool.false_eq_true, if_false]
    cases none : Scalar.same numerator (Scalar.ofInt 0) with
    | true => exact .alone (.inl rfl)
    | false =>
      have prints : PrintsMixed x fraction (IsPart x fraction)
          (fraction.beside (Scalar.floor x) numerator denominator) := .beside ⟨parts, none, reaches⟩
      unfold FractionPattern.beside FractionPattern.wholeText at prints
      rw [if_neg Bool.false_ne_true, if_neg (by decide)]
      by_cases bare : (Scalar.same (Scalar.floor x) (Scalar.ofInt 0) && !fraction.integer.contains '0') = true
      · rw [if_pos bare, List.nil_append] at prints
        rwa [if_pos bare]
      · rw [if_neg bare] at prints
        rwa [if_neg bare]

end printing

/-- A closest fraction of what is left beside a whole part is not above one. -/
theorem IsClosest.between {value : Rat} {most : Nat} {p : Int} {q : Nat} (closest : IsClosest value most p q)
    (nonneg : 0 ≤ value) (few : value ≤ 1) : 0 ≤ p ∧ p ≤ q := by
  have some : (0 : Rat) < q := by exact_mod_cast closest.positive
  have least := Nat.one_pos.trans_le (closest.positive.trans_le closest.bounded)
  have zero := closest.least 0 1 Nat.one_pos least
  have one := closest.least 1 1 Nat.one_pos least
  rw [Int.cast_zero, zero_div, sub_zero, abs_of_nonneg nonneg] at zero
  rw [Int.cast_one, Nat.cast_one, div_one, abs_of_nonpos (sub_nonpos.mpr few)] at one
  have low : (0 : Rat) ≤ p / q := by linarith [(abs_le.mp zero).2]
  have high : (p / q : Rat) ≤ 1 := by linarith [(abs_le.mp one).1]
  rw [le_div_iff₀ some, zero_mul] at low
  rw [div_le_one some] at high
  exact ⟨by exact_mod_cast low, by exact_mod_cast high⟩

/-- Without places for the denominator the whole numbers are the closest fractions. -/
theorem closestFraction?_zero (value : Rat) : closestFraction? value 0 = closestFraction? value 1 := by
  have found : foundFraction value 0 = foundFraction value 1 := by
    simp only [foundFraction, Nat.zero_sub, Nat.sub_self, improve]
  rw [closestFraction?_eq, closestFraction?_eq, found]

theorem exists_closestFraction?_max {value : Rat} (nonneg : 0 ≤ value) (most : Nat) :
    ∃ p q, closestFraction? value most = some (p, q) ∧ IsClosest value (max 1 most) p q := by
  rcases Nat.eq_zero_or_pos most with rfl | some
  · rw [closestFraction?_zero]
    exact exists_closestFraction? nonneg Nat.one_pos
  · rw [Nat.max_eq_right some]
    exact exists_closestFraction? nonneg some

section exact
variable {x : Rat} {fraction : FractionPattern}

theorem rest_nonneg (x : Rat) : 0 ≤ x - (⌊x⌋ : Rat) := sub_nonneg.mpr (Int.floor_le x)

theorem rest_lt_one (x : Rat) : x - (⌊x⌋ : Rat) < 1 := Int.fract_lt_one x

/-- The parts of what is left beside the whole part are a numerator and a denominator that it does not exceed. -/
theorem exists_fractionParts? (x : Rat) (denominator : Denominator) :
    ∃ k q : Nat, k ≤ q ∧ fractionParts? (x - Scalar.floor x) denominator = some ((k : Rat), (q : Rat)) := by
  have nonneg := rest_nonneg x
  have few := (rest_lt_one x).le
  change ∃ k q : Nat, k ≤ q ∧ fractionParts? (x - (⌊x⌋ : Rat)) denominator = some ((k : Rat), (q : Rat))
  cases denominator with
  | fixed value =>
    have least : (0 : Rat) ≤ value := Nat.cast_nonneg value
    have low : 0 ≤ round ((x - (⌊x⌋ : Rat)) * value) := by
      rw [round_eq, Int.floor_nonneg]
      linarith [mul_nonneg nonneg least]
    have high : round ((x - (⌊x⌋ : Rat)) * value) ≤ value := by
      rw [round_eq, ← Int.lt_add_one_iff, Int.floor_lt]
      push_cast
      linarith [mul_le_of_le_one_left least few]
    obtain ⟨k, is⟩ := Int.eq_ofNat_of_zero_le low
    refine ⟨k, value, by omega, ?_⟩
    have numerator : Scalar.nearest ((x - (⌊x⌋ : Rat)) * value) = (k : Rat) := by
      rw [Scalar.nearest_eq, is, Int.cast_natCast]
    exact congrArg (fun numerator : Rat => some (numerator, (value : Rat))) numerator
  | free places =>
    obtain ⟨p, q, found, closest⟩ := exists_closestFraction?_max nonneg (10 ^ places.length - 1)
    obtain ⟨low, high⟩ := closest.between nonneg few
    obtain ⟨k, rfl⟩ := Int.eq_ofNat_of_zero_le low
    refine ⟨k, q, by omega, ?_⟩
    rw [fractionParts?, found]
    rfl

/-- A numerator and a denominator that make a fraction between zero and one. -/
def IsProper (numerator denominator : Rat) : Prop :=
  ∃ k q : Nat, 0 < k ∧ k < q ∧ numerator = k ∧ denominator = q

theorem IsPart.isProper {numerator denominator : Rat} (part : IsPart x fraction numerator denominator) :
    IsProper numerator denominator := by
  obtain ⟨parts, some, differs⟩ := part
  obtain ⟨k, q, most, is⟩ := exists_fractionParts? x fraction.denominator
  rw [is, Option.some.injEq, Prod.mk.injEq] at parts
  obtain ⟨rfl, rfl⟩ := parts
  change ((k : Rat) == ((0 : Int) : Rat)) = false at some
  change ((k : Rat) == (q : Rat)) = false at differs
  rw [beq_eq_false_iff_ne] at some differs
  have positive : k ≠ 0 := fun none => some (by rw [none]; rfl)
  have less : k ≠ q := fun same => differs (by rw [same])
  exact ⟨k, q, by omega, by omega, rfl, rfl⟩

/-- In exact arithmetic every value has a text. -/
theorem exists_fractionText? (x : Rat) (mixed : fraction.integer ≠ []) :
    ∃ text, fractionText? x fraction = some text ∧ PrintsMixed x fraction IsProper text := by
  obtain ⟨k, q, -, parts⟩ := exists_fractionParts? x fraction.denominator
  have whole : (!fraction.integer.isEmpty) = true := by simpa using mixed
  have shows : ∃ text, fractionText? x fraction = some text := by
    unfold fractionText? mixedParts?
    simp only [whole, if_true, parts, Option.map_some]
    exact ⟨_, rfl⟩
  obtain ⟨text, shows⟩ := shows
  exact ⟨text, shows, (printsMixed_of_fractionText? mixed rfl shows).imp fun _ _ => IsPart.isProper⟩

end exact

/-- In rounded arithmetic as well the texts of the numerator and the denominator differ. -/
theorem IsPart.text_ne {x numerator denominator : Number} {fraction : FractionPattern}
    (part : IsPart x fraction numerator denominator) : numerator.text ≠ denominator.text := by
  obtain ⟨parts, -, differs⟩ := part
  have number : denominator.isNaN = false := by
    unfold fractionParts? at parts
    split at parts
    · cases parts
      exact Number.isNaN_ofScaled _ _ _
    · obtain ⟨_, -, is⟩ := Option.map_eq_some_iff.mp parts
      cases is
      exact Number.isNaN_ofScaled _ _ _
  intro texts
  refine Bool.false_ne_true (differs.symm.trans (Number.same_iff.mpr ?_))
  rcases Number.text_eq_text_iff.mp texts with rfl | zeros
  · exact .inl ⟨number, rfl⟩
  · exact .inr zeros

/-- The search ends with the closest fraction that a bound on the denominator admits, in lowest terms and over the
smallest denominator. Beside a whole part only fractions between zero and one print; rounded arithmetic prints no
numerator that is the denominator either. -/
theorem closestFraction_isClosest {value : Rat} (nonneg : 0 ≤ value) {most : Nat} (some : 0 < most) :
    (∃ p q, closestFraction? value most = Option.some (p, q) ∧ IsClosest value most p q) ∧
    ∀ fraction : FractionPattern, fraction.integer ≠ [] →
      (∀ x : Rat, ∃ text, fractionText? x fraction = Option.some text ∧ PrintsMixed x fraction IsProper text) ∧
      ∀ (x : Number) (text : List Char), fractionText? x fraction = Option.some text →
        PrintsMixed x fraction (fun numerator denominator => numerator.text ≠ denominator.text) text := by
  refine ⟨exists_closestFraction? nonneg some, fun fraction mixed => ⟨fun x => exists_fractionText? x mixed, ?_⟩⟩
  intro x text shows
  exact (printsMixed_of_fractionText? mixed (by decide +kernel) shows).imp fun _ _ => IsPart.text_ne

/-- Five fourteenths with one place for the denominator, and a number that its numerator rounds up to two. -/
theorem closestFraction_isClosest_five_fourteenths :
    let fraction : FractionPattern := ⟨['#'], [' '], ['?'], .free ['?']⟩
    ((0 : Rat) ≤ 5 / 14 ∧ 0 < 9 ∧ fraction.integer ≠ [] ∧ closestFraction? (5 / 14 : Rat) 9 = some (3, 8) ∧
      fractionText? (Number.ofRatio false 39 20) fraction = some ['2']) ∧
    IsClosest (5 / 14) 9 3 8 ∧
    (∃ text, fractionText? (5 / 14 : Rat) fraction = some text ∧ PrintsMixed (5 / 14 : Rat) fraction IsProper text) ∧
    PrintsMixed (Number.ofRatio false 39 20) fraction (fun numerator denominator => numerator.text ≠ denominator.text)
      ['2'] := by
  intro fraction
  have nonneg : (0 : Rat) ≤ 5 / 14 := by decide +kernel
  have found : closestFraction? (5 / 14 : Rat) 9 = some (3, 8) := by decide +kernel
  have shows : fractionText? (Number.ofRatio false 39 20) fraction = some ['2'] := by decide +kernel
  obtain ⟨⟨p, q, is, closest⟩, prints⟩ := closestFraction_isClosest nonneg (by decide : 0 < 9)
  obtain ⟨every, rounded⟩ := prints fraction (by decide)
  rw [found, Option.some.injEq, Prod.mk.injEq] at is
  obtain ⟨rfl, rfl⟩ := is
  exact ⟨⟨nonneg, by decide, by decide, found, shows⟩, closest, every _, rounded _ _ shows⟩

end Spreadsheet.Format
