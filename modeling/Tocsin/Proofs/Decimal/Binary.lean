import Mathlib
import Tocsin.Decimal.Binary

/-!
# Doubles as rational numbers

A finite double is a rational number, and the integer that is found for it is this number
(`Binary.integer?_eq_some_iff`).
-/

set_option autoImplicit false

namespace Tocsin.Decimal

/-- The rational number that a double is, if it is finite. -/
def Binary.toRat? : Binary → Option ℚ
  | finite negative mantissa exponent =>
    some ((if negative then -1 else 1) * mantissa * 2 ^ exponent)
  | _ => none

/-- The size of a double without fraction. -/
theorem Binary.size_eq_some_iff (mantissa : Nat) (exponent : Int) (n : Nat) :
    (if 0 ≤ exponent then some (mantissa * Nat.pow 2 exponent.toNat)
      else if mantissa % Nat.pow 2 (-exponent).toNat = 0 then
        some (mantissa / Nat.pow 2 (-exponent).toNat)
      else none) = some n ↔ (mantissa : ℚ) * 2 ^ exponent = n := by
  by_cases hexponent : 0 ≤ exponent
  · obtain ⟨k, rfl⟩ := Int.eq_ofNat_of_zero_le hexponent
    have hpower : ((mantissa * 2 ^ k : Nat) : ℚ) = mantissa * 2 ^ (k : Int) := by push_cast; rfl
    rw [if_pos hexponent, Option.some_inj, ← hpower, Nat.cast_inj]
    rfl
  · obtain ⟨k, rfl⟩ : ∃ k : Nat, exponent = -k := ⟨(-exponent).toNat, by omega⟩
    have hpos : (0 : ℚ) < 2 ^ k := by positivity
    have hpower : (mantissa : ℚ) * 2 ^ (-(k : Int)) = n ↔ mantissa = n * 2 ^ k := by
      rw [zpow_neg, zpow_natCast, ← div_eq_mul_inv, div_eq_iff hpos.ne']
      exact_mod_cast Iff.rfl
    have htoNat : (- -(k : Int)).toNat = k := by omega
    rw [if_neg hexponent, htoNat, hpower]
    constructor
    · intro h
      split_ifs at h with hdivides
      cases h
      exact (Nat.div_mul_cancel (Nat.dvd_of_mod_eq_zero hdivides)).symm
    · rintro rfl
      show (if n * 2 ^ k % 2 ^ k = 0 then some (n * 2 ^ k / 2 ^ k) else none) = some n
      rw [if_pos (Nat.mul_mod_left n _), Nat.mul_div_cancel n (Nat.two_pow_pos k)]

/-- A double whose size is a natural number has this number for an integer, with its sign. -/
theorem Binary.integer?_of_size (negative : Bool) {mantissa k : Nat} {exponent : Int}
    (h : (mantissa : ℚ) * 2 ^ exponent = k) :
    (finite negative mantissa exponent).integer? = some (if negative then -(k : Int) else k) := by
  unfold integer?
  dsimp only
  rw [(size_eq_some_iff mantissa exponent k).mpr h]
  rfl

/-- The integer that is found for a double is the rational number that it is. -/
theorem Binary.integer?_eq_some_iff {b : Binary} {n : Int} :
    b.integer? = some n ↔ b.toRat? = some (n : ℚ) := by
  cases b with
  | nan => simp [integer?, toRat?]
  | infinite negative => simp [integer?, toRat?]
  | finite negative mantissa exponent =>
      constructor
      · intro h
        obtain ⟨value, hvalue, rfl⟩ := Option.map_eq_some_iff.mp h
        obtain ⟨size, hsize, hcast⟩ := Option.bind_eq_some_iff.mp hvalue
        cases hcast
        rw [size_eq_some_iff] at hsize
        cases negative <;> simp [toRat?, hsize]
      · intro h
        have hsize : (0 : ℚ) ≤ mantissa * 2 ^ exponent := by positivity
        -- The sign of the integer is that of the double, as sizes are not negative.
        cases negative with
        | false =>
            have hsigned : (mantissa : ℚ) * 2 ^ exponent = n := by simpa [toRat?] using h
            rw [hsigned] at hsize
            obtain ⟨k, rfl⟩ := Int.eq_ofNat_of_zero_le (Int.cast_nonneg_iff.mp hsize)
            exact integer?_of_size false hsigned
        | true =>
            have hsigned : -((mantissa : ℚ) * 2 ^ exponent) = n := by simpa [toRat?] using h
            have hnegative : (0 : ℚ) ≤ (-n : Int) := by
              rw [Int.cast_neg, ← hsigned, neg_neg]
              exact hsize
            obtain ⟨k, hk⟩ := Int.eq_ofNat_of_zero_le (Int.cast_nonneg_iff.mp hnegative)
            obtain rfl : n = -k := by omega
            have hpositive : (mantissa : ℚ) * 2 ^ exponent = k := by
              rw [Int.cast_neg, Int.cast_natCast] at hsigned
              exact neg_injective hsigned
            exact integer?_of_size true hpositive

end Tocsin.Decimal
