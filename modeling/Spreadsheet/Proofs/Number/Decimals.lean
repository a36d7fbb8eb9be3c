import Spreadsheet.Proofs.Number.Nearest

/-! Decimals of fifteen digits. Next to a number of 53 bits no two of them lie so close that both are read as this number,
so that the shortest text of what a decimal is read as has the digits of the decimal. -/
namespace Spreadsheet
attribute [local instance (high)] instPowNat

/-- A half goes to the even neighbour, so that an odd one is nearer than a half. -/
theorem nearestEven_odd {n d : Nat} (positive : 0 < d) (odd : nearestEven n d % 2 = 1) :
    2 * n < (2 * nearestEven n d + 1) * d ∧ 2 * nearestEven n d * d < 2 * n + d := by
  have division := Nat.div_add_mod n d
  have small := Nat.mod_lt n positive
  unfold nearestEven at odd ⊢
  simp only at odd ⊢
  generalize n / d = q at *
  generalize n % d = r at *
  subst division
  split at odd <;> rename_i half
  · rw [if_pos half]
    have more : d < 2 * r := by omega
    constructor <;> nlinarith
  · rw [if_neg half]
    have less : 2 * r < d := by omega
    constructor <;> nlinarith

namespace Number
variable {s k m candidate scale size : Nat}

/-- What reads back as a whole number of more than 53 bits: the bounds are told in quarters of its last place. -/
theorem readsBack_iff : readsBack s (1074 + k) scale candidate = true ↔
    if s % 2 = 0 then
      (roundingBounds s (1074 + k)).1 * 2 ^ k ≤ 4 * (candidate * 10 ^ scale) ∧
        4 * (candidate * 10 ^ scale) ≤ (roundingBounds s (1074 + k)).2 * 2 ^ k
    else (roundingBounds s (1074 + k)).1 * 2 ^ k < 4 * (candidate * 10 ^ scale) ∧
      4 * (candidate * 10 ^ scale) < (roundingBounds s (1074 + k)).2 * 2 ^ k := by
  have place : 2 ^ (1074 + k) = 2 ^ k * unitsPerOne := by
    rw [show 1074 + k = k + bias from Nat.add_comm _ _, Nat.pow_add, unitsPerOne]
  have quarters : 4 * ((candidate : Rat) * 10 ^ (scale : Int) * unitsPerOne) =
      (4 * (candidate * 10 ^ scale) * unitsPerOne : Nat) := by
    rw [zpow_natCast, Nat.mul_assoc]
    push_cast
    ring
  simp only [readsBack_iff_isNear, IsNear, quarters, place, ← Nat.mul_assoc _ (2 ^ k), Nat.cast_le, Nat.cast_lt,
    Nat.mul_le_mul_right_iff unitsPerOne_pos, Nat.mul_lt_mul_right unitsPerOne_pos]

/-- What reads back is no farther than half of the last place. -/
theorem near_of_readsBack (scale : Nat) (reads : readsBack s (1074 + k) scale candidate = true) :
    2 * (s * 2 ^ k) ≤ 2 * (candidate * 10 ^ scale) + 2 ^ k ∧
      2 * (candidate * 10 ^ scale) ≤ 2 * (s * 2 ^ k) + 2 ^ k := by
  rw [readsBack_iff] at reads
  have place := Nat.two_pow_pos k
  generalize candidate * 10 ^ scale = value at *
  generalize 2 ^ k = w at *
  have bounds : 4 * s ≤ (roundingBounds s (1074 + k)).1 + 2 ∧ (roundingBounds s (1074 + k)).2 = 4 * s + 2 := by
    unfold roundingBounds
    refine ⟨?_, rfl⟩
    simp only
    split <;> omega
  generalize roundingBounds s (1074 + k) = pair at *
  obtain ⟨low, high⟩ := pair
  obtain ⟨least, rfl⟩ : 4 * s ≤ low + 2 ∧ high = 4 * s + 2 := bounds
  have below : 4 * s * w ≤ (low + 2) * w := Nat.mul_le_mul_right w least
  split at reads <;> constructor <;> nlinarith

/-- A whole number reads back as the nearest significand. -/
theorem readsBack_nearestEven (low : 2 ^ (52 : Nat) * 2 ^ k ≤ m) :
    readsBack (nearestEven m (2 ^ k)) (1074 + k) 0 m = true := by
  have place := Nat.two_pow_pos k
  have near := nearestEven_near m place
  have strict := nearestEven_odd (n := m) place
  rw [← Int.natCast_zero, readsBack_iff, Nat.pow_zero, Nat.mul_one]
  simp only [roundingBounds]
  generalize nearestEven m (2 ^ k) = q at *
  by_cases least : q = 2 ^ (52 : Nat)
  · subst least
    rw [if_pos (by decide), if_pos ⟨rfl, by omega⟩]
    omega
  · simp only [Nat.add_mul, Nat.mul_assoc, Nat.one_mul] at near strict
    simp only [least, false_and, ↓reduceIte, Nat.sub_mul, Nat.add_mul, Nat.mul_assoc]
    split <;> omega

/-- So it does if the significand is carried to the next exponent. -/
theorem readsBack_carried (high : m < 2 ^ (53 : Nat) * 2 ^ k) (carried : nearestEven m (2 ^ k) = 2 ^ (53 : Nat)) :
    readsBack (2 ^ (52 : Nat)) (1074 + (k + 1)) 0 m = true := by
  have place := Nat.two_pow_pos k
  have near := nearestEven_near m place
  rw [carried] at near
  rw [← Int.natCast_zero, readsBack_iff, if_pos (by decide), Nat.pow_zero, Nat.mul_one, Nat.pow_succ]
  simp only [roundingBounds]
  rw [if_pos ⟨trivial, by omega⟩]
  omega

/-- The nearest number to a whole number of more than 53 bits, which reads back as it. -/
theorem exists_ofRatio_one (large : 2 ^ (53 : Nat) ≤ m) (range : m < 2 ^ (80 : Nat)) :
    ∃ s k, ∃ canonical, ofRatio false m 1 = .finite false s (1074 + k) canonical ∧ 2 ^ (52 : Nat) ≤ s ∧
      readsBack s (1074 + k) 0 m = true := by
  have positive : m ≠ 0 := by omega
  have logarithm : floorLog2 m 1 = m.log2 := by
    simpa using floorLog2_add (b := 0) (e := 0) positive Nat.one_pos (by simp)
  have low := Nat.log2_self_le positive
  have high := Nat.lt_log2_self (n := m)
  have long : 53 ≤ m.log2 := (Nat.le_log2 positive).mpr large
  have short : m.log2 < 80 := (Nat.log2_lt positive).mpr range
  obtain ⟨k, bits⟩ : ∃ k, m.log2 = 52 + k := ⟨m.log2 - 52, by omega⟩
  rw [bits, Nat.pow_add] at low
  rw [bits, Nat.add_right_comm, Nat.pow_add] at high
  have target : (floorLog2 m 1 + 1022).toNat = 1074 + k := by omega
  obtain ⟨least, most⟩ := nearestEven_mem (Nat.two_pow_pos k) low high.le
  unfold ofRatio
  rw [if_neg positive, target]
  simp only [show 1074 - (1074 + k) = 0 by omega, Nat.add_sub_cancel_left, Nat.pow_zero, Nat.mul_one, Nat.one_mul]
  by_cases carried : nearestEven m (2 ^ k) = 2 ^ (53 : Nat)
  · refine ⟨2 ^ (52 : Nat), k + 1, ⟨by decide, by omega, .inr (Nat.le_refl _)⟩, ?_, Nat.le_refl _,
      readsBack_carried high carried⟩
    rw [ofSignificand, dif_neg (by omega), dif_pos ⟨by omega, carried⟩]
    rfl
  · have bound : nearestEven m (2 ^ k) < 2 ^ (53 : Nat) := by omega
    exact ⟨_, k, ⟨bound, by omega, .inr least⟩, by rw [ofSignificand, dif_pos], least, readsBack_nearestEven low⟩

/-- The decimal logarithm of a whole number of no more than eighty bits. -/
theorem floorLog10_spec {n : Nat} (positive : n ≠ 0) (short : n.log2 < 80) :
    ∃ size : Nat, floorLog10 n 1 = size ∧ 10 ^ size ≤ n ∧ n < 10 ^ (size + 1) := by
  have logarithm : floorLog2 n 1 = n.log2 := by
    simpa using floorLog2_add (b := 0) (e := 0) positive Nat.one_pos (by simp)
  have estimates : ∀ bits < 80,
      10 ^ (bits * 30103 / 100000) ≤ 2 ^ bits ∧ 2 ^ (bits + 1) ≤ 10 ^ (bits * 30103 / 100000 + 1 + 1) := by decide
  obtain ⟨low, high⟩ := estimates n.log2 short
  have least := low.trans (Nat.log2_self_le positive)
  have most := Nat.lt_log2_self.trans_le high
  have estimate : ((n.log2 : Int) * 30103).fdiv 100000 = (n.log2 * 30103 / 100000 : Nat) := by
    rw [Int.fdiv_eq_ediv_of_nonneg _ (by decide)]
    omega
  unfold floorLog10
  simp only [logarithm, estimate]
  generalize n.log2 * 30103 / 100000 = guess at *
  simp only [show ((guess : Int) + 1).toNat = guess + 1 by omega, show (-((guess : Int) + 1)).toNat = 0 by omega,
    show (-(guess : Int)).toNat = 0 by omega, Int.toNat_natCast, Nat.pow_zero, Nat.mul_one, Nat.one_mul]
  by_cases more : 10 ^ (guess + 1) ≤ n
  · exact ⟨guess + 1, by simp [more], more, most⟩
  · exact ⟨guess, by simp [more, least], least, Nat.lt_of_not_le more⟩

/-- A whole number as a fraction. -/
theorem fraction_whole (s k : Nat) : fraction s (1074 + k) = (s * 2 ^ k, 1) := by
  unfold fraction
  rw [Nat.add_sub_cancel_left, show 1074 - (1074 + k) = 0 by omega, Nat.pow_zero]

theorem magnitude_whole (s k : Nat) : magnitude s (1074 + k) = (s * 2 ^ k : Nat) := by
  simp [magnitude_eq, fraction_whole]

/-- Digits that the search ends with are written with zeros for the places that are left. -/
theorem text_of_searchDigits {found size : Nat} {canonical} (some : 0 < found) (range : found * 10 ^ scale < 10 ^ (21 : Nat))
    (logarithm : floorLog10 (s * 2 ^ k) 1 = size)
    (search : searchDigits s (1074 + k) size 16 1 = (found, (scale : Int))) (significant : s ≠ 0) :
    (finite false s (1074 + k) canonical).text = Text.numeral (found * 10 ^ scale) := by
  have fits : (Text.numeral (found * 10 ^ scale)).length ≤ 21 :=
    (Nat.length_toDigits_le_iff (by decide) (by decide)).mpr range
  rw [← text_scientific some fits]
  simp only [text, significant, ↓reduceIte, Bool.false_eq_true, shortest, fraction_whole, logarithm, search]

/-- A whole number with a place that all of its decimals share, and the form of the number next to it: the place is
greater than that of the last bit. -/
structure Coarse (m s k place : Nat) : Prop where
  reads : readsBack s (1074 + k) 0 m = true
  divides : 10 ^ place ∣ m
  fine : 2 ^ k < 10 ^ place

namespace Coarse
variable {place : Nat} (coarse : Coarse m s k place)
include coarse

/-- Of the decimals of that place only the whole number itself reads back as the number. -/
theorem eq_of_readsBack (long : place ≤ scale) (reads : readsBack s (1074 + k) scale candidate = true) :
    candidate * 10 ^ scale = m := by
  obtain ⟨b, same⟩ := coarse.divides
  have fine := coarse.fine
  have here := near_of_readsBack 0 coarse.reads
  have there := near_of_readsBack scale reads
  have shifted : candidate * 10 ^ scale = 10 ^ place * (candidate * 10 ^ (scale - place)) := by
    rw [Nat.mul_left_comm, ← Nat.pow_add, Nat.add_sub_cancel' long]
  rw [Nat.pow_zero, Nat.mul_one, same] at here
  rw [shifted] at there ⊢
  rw [same]
  congr 1
  generalize candidate * 10 ^ (scale - place) = a at *
  generalize 10 ^ place = u at *
  have upper : u * a < u * (b + 1) := by
    rw [Nat.mul_add]
    omega
  have lower : u * b < u * (a + 1) := by
    rw [Nat.mul_add]
    omega
  have first := Nat.lt_of_mul_lt_mul_left upper
  have second := Nat.lt_of_mul_lt_mul_left lower
  omega

/-- At that place the whole number is found. -/
theorem candidate?_isSome : (candidate? s (1074 + k) place).isSome = true := by
  obtain ⟨b, same⟩ := coarse.divides
  have fine : ((2 ^ k : Nat) : Rat) < (10 ^ place : Nat) := Nat.cast_lt.mpr coarse.fine
  have reads : readsBack s (1074 + k) place b = true := by
    have here := coarse.reads
    rw [← Int.natCast_zero, readsBack_iff, Nat.pow_zero, Nat.mul_one] at here
    rwa [readsBack_iff, Nat.mul_comm b, ← same]
  refine candidate?_isSome_of_readsBack reads ?_
  obtain ⟨low, high⟩ := near_of_readsBack _ reads
  have below : ((2 * (s * 2 ^ k) : Nat) : Rat) ≤ (2 * (b * 10 ^ place) + 2 ^ k : Nat) := Nat.cast_le.mpr low
  have above : ((2 * (b * 10 ^ place) : Nat) : Rat) ≤ (2 * (s * 2 ^ k) + 2 ^ k : Nat) := Nat.cast_le.mpr high
  push_cast at fine below above
  rw [magnitude_whole, zpow_natCast, abs_lt]
  push_cast
  constructor <;> linarith

/-- The search ends at that place or before it, with digits that are the whole number. -/
theorem searchDigits_exact (size : Int) (fuel count : Nat) (before : place ≤ size - count + 1)
    (enough : size + 1 ≤ place + count + fuel) :
    ∃ found scale : Nat, searchDigits s (1074 + k) size fuel count = (found, (scale : Int)) ∧ found * 10 ^ scale = m := by
  obtain ⟨long, reads⟩ := searchDigits_reads coarse.candidate?_isSome size fuel count before enough
  obtain ⟨scale, whole⟩ := Int.eq_ofNat_of_zero_le ((Int.natCast_nonneg place).trans long)
  rw [whole] at long reads
  exact ⟨_, scale, Prod.ext rfl whole, coarse.eq_of_readsBack (Int.ofNat_le.mp long) reads⟩

end Coarse

/-- Fifteen digits are coarse beside 53 bits. -/
theorem coarse_of_near {n d size : Nat} (short : n < 10 ^ (15 : Nat)) (full : 2 ^ (52 : Nat) ≤ s)
    (reads : readsBack s (1074 + k) 0 (n * 10 ^ d) = true) (low : 10 ^ size ≤ s * 2 ^ k)
    (high : s * 2 ^ k < 10 ^ (size + 1)) : Coarse (n * 10 ^ d) s k (size - 14) := by
  have near := near_of_readsBack 0 reads
  rw [Nat.pow_zero, Nat.mul_one] at near
  have bit := Nat.two_pow_pos k
  have long : 2 ^ (52 : Nat) * 2 ^ k ≤ s * 2 ^ k := Nat.mul_le_mul_right _ full
  have digits : (n + 1) * 10 ^ d ≤ 10 ^ (15 : Nat) * 10 ^ d := Nat.mul_le_mul_right _ short
  rw [Nat.add_mul, Nat.one_mul] at digits
  refine ⟨reads, ?_, ?_⟩
  · apply Nat.dvd_mul_left_of_dvd
    apply Nat.pow_dvd_pow
    by_contra less
    have more : 10 ^ (15 : Nat) * 10 ^ d ≤ 10 ^ size := by
      rw [← Nat.pow_add]
      exact Nat.pow_le_pow_right (by decide) (by omega)
    omega
  · have size : 10 ^ (size + 1) ≤ 10 ^ (15 : Nat) * 10 ^ (size - 14) := by
      rw [← Nat.pow_add]
      exact Nat.pow_le_pow_right (by decide) (by omega)
    omega

/-- A decimal of fifteen digits, read and written again. -/
theorem text_ofRatio_one {n d : Nat} (short : n < 10 ^ (15 : Nat)) (range : n * 10 ^ d < 10 ^ (21 : Nat)) :
    (ofRatio false (n * 10 ^ d) 1).text = Text.numeral (n * 10 ^ d) := by
  rcases Nat.lt_or_ge (n * 10 ^ d) (2 ^ (53 : Nat)) with small | large
  · rw [ofRatio_one small, text_ofNat small]
  · obtain ⟨s, k, canonical, form, full, reads⟩ := exists_ofRatio_one large (range.trans (by decide))
    have bit := Nat.two_pow_pos k
    have long : 2 ^ (52 : Nat) * 2 ^ k ≤ s * 2 ^ k := Nat.mul_le_mul_right _ full
    have near := near_of_readsBack 0 reads
    have few : (s * 2 ^ k).log2 < 80 := (Nat.log2_lt (by omega)).mpr (by omega)
    obtain ⟨size, logarithm, low, high⟩ := floorLog10_spec (n := s * 2 ^ k) (by omega) few
    obtain ⟨found, scale, search, same⟩ :=
      (coarse_of_near short full reads low high).searchDigits_exact size 16 1 (by omega) (by omega)
    have some : 0 < found := by
      apply Nat.pos_of_ne_zero
      rintro rfl
      omega
    rw [form, text_of_searchDigits some (same ▸ range) logarithm search (by omega), same]

end Number
end Spreadsheet
