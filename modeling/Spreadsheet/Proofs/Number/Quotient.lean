import Spreadsheet.Proofs.Number.Whole

/-! Quotients of whole numbers: the greatest power of two in a quotient, and the nearest whole number to it. -/
namespace Spreadsheet
attribute [local instance (high)] instPowNat

/-- Only the difference of the exponents counts where powers of two scale the two sides. -/
private theorem scaled_le_iff {m n i j k l : Nat} (same : i + l = k + j) :
    2 ^ i * m ≤ 2 ^ j * n ↔ 2 ^ k * m ≤ 2 ^ l * n := by
  calc 2 ^ i * m ≤ 2 ^ j * n ↔ 2 ^ i * m * 2 ^ l ≤ 2 ^ j * n * 2 ^ l :=
        (Nat.mul_le_mul_right_iff (Nat.two_pow_pos l)).symm
    _ ↔ 2 ^ (i + l) * m ≤ 2 ^ (j + l) * n := by
        rw [Nat.mul_right_comm, Nat.mul_right_comm (2 ^ j), ← Nat.pow_add, ← Nat.pow_add]
    _ ↔ 2 ^ (k + j) * m ≤ 2 ^ (l + j) * n := by rw [same, Nat.add_comm j]
    _ ↔ 2 ^ k * m * 2 ^ j ≤ 2 ^ l * n * 2 ^ j := by
        rw [Nat.mul_right_comm (2 ^ k), Nat.mul_right_comm (2 ^ l), ← Nat.pow_add, ← Nat.pow_add]
    _ ↔ 2 ^ k * m ≤ 2 ^ l * n := Nat.mul_le_mul_right_iff (Nat.two_pow_pos j)

variable {n d : Nat}

/-- The logarithm of a quotient, its power of two written as a quotient of powers. -/
theorem floorLog2_spec (some : 0 < n) (positive : 0 < d) {i j : Nat} (logarithm : floorLog2 n d = (i : Int) - j) :
    2 ^ i * d ≤ 2 ^ j * n ∧ 2 ^ j * n < 2 ^ (i + 1) * d := by
  have lowN := Nat.log2_self_le some.ne'
  have highN := Nat.lt_log2_self (n := n)
  have lowD := Nat.log2_self_le positive.ne'
  have highD := Nat.lt_log2_self (n := d)
  unfold floorLog2 at logarithm
  simp only at logarithm
  split at logarithm
  · rename_i reached
    refine ⟨(scaled_le_iff (by omega)).mp reached, ?_⟩
    rw [← Nat.not_le, scaled_le_iff (k := n.log2 + 1) (l := d.log2) (by omega), Nat.not_le, Nat.mul_comm]
    exact Nat.mul_lt_mul_of_lt_of_le highN lowD positive
  · rename_i short
    refine ⟨?_, ?_⟩
    · rw [scaled_le_iff (k := n.log2) (l := d.log2 + 1) (by omega), Nat.mul_comm]
      exact Nat.mul_le_mul highD.le lowN
    · rw [← Nat.not_le]
      exact fun reached => short ((scaled_le_iff (by omega)).mp reached)

theorem floorLog2_lt {bits : Nat} (some : 0 < n) (positive : 0 < d) (range : n < 2 ^ bits * d) :
    floorLog2 n d < bits := by
  by_contra large
  obtain ⟨more, logarithm⟩ := Int.le.dest (Int.not_lt.mp large)
  have reached := (floorLog2_spec some positive (i := bits + more) (j := 0) (by omega)).1
  have power : 2 ^ bits * d ≤ 2 ^ (bits + more) * d :=
    Nat.mul_le_mul_right d (Nat.pow_le_pow_right Nat.two_pos (Nat.le_add_right bits more))
  rw [Nat.pow_zero, Nat.one_mul] at reached
  exact (range.trans_le power).not_ge reached

namespace Number

theorem nearestEven_mem {low high : Nat} (positive : 0 < d) (above : low * d ≤ n) (below : n ≤ high * d) :
    low ≤ nearestEven n d ∧ nearestEven n d ≤ high := by
  obtain ⟨near, far⟩ := nearestEven_near n positive
  constructor
  · have room : 2 * low * d < (2 * nearestEven n d + 2) * d := by nlinarith
    have apart := Nat.lt_of_mul_lt_mul_right room
    omega
  · have room : 2 * nearestEven n d * d < (2 * high + 2) * d := by nlinarith
    have apart := Nat.lt_of_mul_lt_mul_right room
    omega

end Number
end Spreadsheet
