import SliceAgent.Quantity
import SliceAgent.Proofs.Digits
import Mathlib.Data.Rat.Floor

/-!
# Whole numbers of quantities

A quantity is a rational number (`Quantity.valueOf?`): a whole number, a decimal one or a binary
one, times its suffix. What is read of it is this number without the part behind the point, and
nothing is read exactly if it is none (`Quantity.readQuantity_eq_ok_iff`). Dividing magnitudes drops
that part for negative numbers as it does for positive ones, so the number is rounded towards zero.
-/

namespace SliceAgent

/-- A number without the part behind the point. -/
def towardZero (q : ℚ) : ℤ :=
  if 0 ≤ q then ⌊q⌋ else ⌈q⌉

@[simp]
theorem towardZero_intCast (n : ℤ) : towardZero n = n := by
  rw [towardZero, Int.floor_intCast, Int.ceil_intCast, ite_self]

theorem towardZero_neg (q : ℚ) : towardZero (-q) = -towardZero q := by
  rcases lt_trichotomy q 0 with hq | rfl | hq
  · rw [towardZero, towardZero, if_pos (neg_nonneg.mpr hq.le), if_neg hq.not_ge, Int.floor_neg]
  · rfl
  · rw [towardZero, towardZero, if_neg (neg_neg_of_pos hq).not_ge, if_pos hq.le, Int.ceil_neg]

/-- A signed magnitude times a power of a base. -/
def scaledValue (negative : Bool) (m base : ℕ) (e : ℤ) : ℚ :=
  (signed negative m : ℚ) * (base : ℚ) ^ e

/-- Magnitudes are multiplied or divided by a power of the base. -/
theorem towardZero_scaledValue (negative : Bool) (m base : ℕ) (e : ℤ) :
    towardZero (scaledValue negative m base e) =
      signed negative (if 0 ≤ e then m * base ^ e.toNat else m / base ^ (-e).toNat) := by
  have hmagnitude : towardZero ((m : ℚ) * (base : ℚ) ^ e) =
      ((if 0 ≤ e then m * base ^ e.toNat else m / base ^ (-e).toNat : ℕ) : ℤ) := by
    have hnonneg : (0 : ℚ) ≤ (m : ℚ) * (base : ℚ) ^ e :=
      mul_nonneg (Nat.cast_nonneg m) (zpow_nonneg (Nat.cast_nonneg base) e)
    rw [towardZero, if_pos hnonneg]
    split
    · rename_i he
      obtain ⟨k, rfl⟩ := Int.eq_ofNat_of_zero_le he
      rw [zpow_natCast, Int.toNat_natCast]
      exact_mod_cast Int.floor_natCast (R := ℚ) (m * base ^ k)
    · rename_i he
      obtain ⟨k, hk⟩ := Int.eq_ofNat_of_zero_le (show 0 ≤ -e by omega)
      obtain rfl : e = -(k : ℤ) := by omega
      rw [zpow_neg, zpow_natCast, neg_neg, Int.toNat_natCast, ← div_eq_mul_inv]
      exact_mod_cast Rat.floor_natCast_div_natCast m (base ^ k)
  cases negative with
  | false => exact hmagnitude
  | true =>
    have hvalue : scaledValue true m base e = -((m : ℚ) * (base : ℚ) ^ e) := by
      simp [scaledValue, signed]
    rw [hvalue, towardZero_neg, hmagnitude]
    rfl

/-- The value of a decimal number. -/
def Decimal.value (d : Decimal) : ℚ :=
  scaledValue d.negative d.coefficient 10 d.exponent

theorem Decimal.truncate_eq (d : Decimal) : d.truncate = towardZero d.value := by
  rw [truncate, value, towardZero_scaledValue]
  congr 1
  split
  · rename_i hzero
    simp [hzero]
  · split
    · rfl
    · split
      -- A number with all digits behind the point is less than one.
      · rename_i hexp hcount
        have hlt : d.coefficient < 10 ^ (-d.exponent).toNat :=
          (digitCount_le_iff (by omega)).mp (by omega)
        rw [Nat.div_eq_of_lt hlt]
      · rfl

/-- The value of a floating-point number, if it is finite. -/
def Binary64.value? (x : Binary64) : Option ℚ :=
  match x.decode with
  | .finite negative m e => some (scaledValue negative m 2 e)
  | _ => none

namespace Quantity

/-- The value of a number, if it is finite. -/
def Number.value? : Number → Option ℚ
  | .finite d => some d.value
  | _ => none

/-- The finite number that a value is read as. -/
def valueOf? : Json → Option ℚ
  | .int n => some n
  | .bool b => some (if b then 1 else 0 : ℤ)
  | .float x => x.value?
  | v => (numberOfQuantity v.shown).toOption.bind Number.value?

theorem truncateFloat_eq_ok_iff {x : Binary64} {n : Int} :
    truncateFloat x = .ok n ↔ ∃ q, x.value? = some q ∧ n = towardZero q := by
  rw [truncateFloat, Binary64.value?]
  cases x.decode with
  | finite negative m e =>
    simp [towardZero_scaledValue, eq_comm]
  | infinite negative => simp
  | notANumber => simp

theorem bind_truncate_eq_ok_iff (x : Except QuantityFault Number) {n : Int} :
    x.bind Number.truncate = .ok n ↔
      ∃ q, x.toOption.bind Number.value? = some q ∧ n = towardZero q := by
  rcases x with fault | (d | _ | signals)
  · simp [Except.bind, Except.toOption]
  · simp [Except.bind, Except.toOption, Number.truncate, Number.value?, d.truncate_eq, eq_comm]
  · simp [Except.bind, Except.toOption, Number.truncate, Number.value?]
  · simp [Except.bind, Except.toOption, Number.truncate, Number.value?]

/-- **Reading a quantity.** Just finite numbers are read, without the part behind the point. -/
theorem readQuantity_eq_ok_iff {v : Json} {n : Int} :
    readQuantity v = .ok n ↔ ∃ q, valueOf? v = some q ∧ n = towardZero q := by
  have hint (m : Int) : (Except.ok m : Except QuantityFault Int) = .ok n ↔
      ∃ q, some (m : ℚ) = some q ∧ n = towardZero q := by
    simp [eq_comm]
  cases v with
  | int m => exact hint m
  | bool b => exact hint (if b then 1 else 0)
  | float x => exact truncateFloat_eq_ok_iff
  | _ =>
    unfold readQuantity valueOf?
    exact bind_truncate_eq_ok_iff _

end Quantity

end SliceAgent
