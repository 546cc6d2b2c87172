import Mathlib.Order.Compare
import Mathlib.Order.WithBot
import Mathlib.Tactic.Ring
import PatternAction.Proofs.Number.Exact

/-!
Sizes of numbers.  The size of a number is exact: a rational number, or one of two ends.  What is no
number has none.  Numbers are ordered as their sizes are.
-/

set_option autoImplicit false
set_option relaxedAutoImplicit false

namespace PatternAction

/-- A rational number or one of the two infinities. -/
abbrev Extent := WithBot (WithTop ℚ)

namespace Extent

def ofRat (x : ℚ) : Extent :=
  ((x : WithTop ℚ) : WithBot (WithTop ℚ))

theorem strictMono_ofRat : StrictMono ofRat :=
  WithBot.coe_strictMono.comp WithTop.coe_strictMono

end Extent

namespace Number

def finiteSize (negative : Bool) (m : Nat) (e : Int) : ℚ :=
  (if negative then -(m : ℚ) else m) * 2 ^ e

/-- The size of a number; what is no number has none. -/
def extent? : Number → Option Extent
  | .finite s m e => some (.ofRat (finiteSize s m e))
  | .infinite s => some (if s then ⊥ else ⊤)
  | .nan => none

theorem exists_extent {x : Number} (number : x ≠ .nan) : ∃ a, x.extent? = some a := by
  cases x with
  | finite s m e => exact ⟨_, rfl⟩
  | infinite s => exact ⟨_, rfl⟩
  | nan => exact absurd rfl number

theorem aligned_mul (s : Bool) (m : Nat) {e low : Int} (le : low ≤ e) :
    (aligned s m e low : ℚ) * 2 ^ low = finiteSize s m e := by
  obtain ⟨k, rfl⟩ : ∃ k : Nat, e = low + k := ⟨(e - low).toNat, by omega⟩
  have power : (2 : ℚ) ^ (low + k : Int) = 2 ^ k * 2 ^ low := by
    rw [zpow_add₀ two_ne_zero, zpow_natCast, mul_comm]
  rw [aligned, finiteSize, add_sub_cancel_left, Int.toNat_natCast, Nat.pow_eq, power]
  cases s with
  | true =>
    rw [if_pos rfl, if_pos rfl]
    push_cast
    ring
  | false =>
    rw [if_neg Bool.false_ne_true, if_neg Bool.false_ne_true]
    push_cast
    ring

theorem compare_aligned (s t : Bool) (m n : Nat) (e f : Int) :
    compare (aligned s m e (min e f)) (aligned t n f (min e f)) =
      compare (finiteSize s m e) (finiteSize t n f) := by
  have power : (0 : ℚ) < 2 ^ min e f := by positivity
  have scaled : StrictMono fun z : Int => (z : ℚ) * 2 ^ min e f := by
    intro y z less
    have cast : (y : ℚ) < z := Int.cast_lt.mpr less
    exact mul_lt_mul_of_pos_right cast power
  rw [← aligned_mul s m (min_le_left e f), ← aligned_mul t n (min_le_right e f), ← cmp_eq_compare,
    ← cmp_eq_compare]
  exact (scaled.cmp_map_eq _ _).symm

theorem order_eq_compare {x y : Number} {a b : Extent} (hx : x.extent? = some a)
    (hy : y.extent? = some b) : x.order y = compare a b := by
  cases x with
  | nan => cases hx
  | finite s m e =>
    obtain rfl := Option.some.inj hx
    cases y with
    | nan => cases hy
    | finite t n f =>
      obtain rfl := Option.some.inj hy
      rw [order, compare_aligned, ← cmp_eq_compare, ← cmp_eq_compare]
      exact (Extent.strictMono_ofRat.cmp_map_eq _ _).symm
    | infinite t =>
      obtain rfl := Option.some.inj hy
      cases t with
      | true => exact (compare_gt_iff_gt.mpr (WithBot.bot_lt_coe _)).symm
      | false => exact (compare_lt_iff_lt.mpr (WithBot.coe_lt_coe.mpr (WithTop.coe_lt_top _))).symm
  | infinite s =>
    obtain rfl := Option.some.inj hx
    cases y with
    | nan => cases hy
    | finite t n f =>
      obtain rfl := Option.some.inj hy
      cases s with
      | true => exact (compare_lt_iff_lt.mpr (WithBot.bot_lt_coe _)).symm
      | false => exact (compare_gt_iff_gt.mpr (WithBot.coe_lt_coe.mpr (WithTop.coe_lt_top _))).symm
    | infinite t =>
      obtain rfl := Option.some.inj hy
      cases s with
      | true =>
        cases t with
        | true => exact (compare_eq_iff_eq.mpr rfl).symm
        | false => exact (compare_lt_iff_lt.mpr bot_lt_top).symm
      | false =>
        cases t with
        | true => exact (compare_gt_iff_gt.mpr bot_lt_top).symm
        | false => exact (compare_eq_iff_eq.mpr rfl).symm

end Number

end PatternAction
