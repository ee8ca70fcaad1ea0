import Mathlib.Algebra.Order.Field.Basic
import Mathlib.Algebra.Order.Ring.Int
import Mathlib.Data.Int.ConditionallyCompleteOrder
import Mathlib.Data.Int.SuccPred
import Mathlib.Data.Int.Cast.Lemmas
import Mathlib.Algebra.Order.Ring.Cast
import Mathlib.Order.Monotone.Defs

/-!
# Growing quantities

Quantities of a parameter that are never negative, do not fall as the parameter rises and stay
below an integer bound. Sums, products and quotients by constants of such quantities are such
quantities, and so is what a monotone rounding makes of them. Nothing here names a program.
-/

namespace AegisOt

variable {α K : Type} [Preorder α] [Field K] [LinearOrder K] [IsStrictOrderedRing K]

/-- On a set of parameters the quantity is not negative, does not fall and stays in its bound. -/
structure Growing (s : Set α) (f : α → K) (bound : ℤ) : Prop where
  nonneg : ∀ n ∈ s, 0 ≤ f n
  mono : MonotoneOn f s
  le : ∀ n ∈ s, f n ≤ bound

namespace Growing

variable {s : Set α} {f g : α → K} {bound bound' : ℤ} {c : K}

theorem weaken (hf : Growing s f bound) (h : bound ≤ bound') : Growing s f bound' where
  nonneg := hf.nonneg
  mono := hf.mono
  le n hn := (hf.le n hn).trans (by exact_mod_cast h)

omit [IsStrictOrderedRing K] in
theorem const (hc : 0 ≤ c) (hbound : c ≤ bound) : Growing s (fun _ => c) bound where
  nonneg _ _ := hc
  mono := monotoneOn_const
  le _ _ := hbound

theorem intCast {f : α → ℤ} (hnonneg : ∀ n ∈ s, 0 ≤ f n) (hmono : MonotoneOn f s)
    (hle : ∀ n ∈ s, f n ≤ bound) : Growing s (fun n => (f n : K)) bound where
  nonneg n hn := by exact_mod_cast hnonneg n hn
  mono _ ha _ hb hab := Int.cast_le.mpr (hmono ha hb hab)
  le n hn := by exact_mod_cast hle n hn

theorem add (hf : Growing s f bound) (hg : Growing s g bound') :
    Growing s (fun n => f n + g n) (bound + bound') where
  nonneg n hn := add_nonneg (hf.nonneg n hn) (hg.nonneg n hn)
  mono := hf.mono.add hg.mono
  le n hn := by
    rw [Int.cast_add]
    exact add_le_add (hf.le n hn) (hg.le n hn)

theorem mul (hf : Growing s f bound) (hg : Growing s g bound') :
    Growing s (fun n => f n * g n) (bound * bound') where
  nonneg n hn := mul_nonneg (hf.nonneg n hn) (hg.nonneg n hn)
  mono a ha b hb hab :=
    mul_le_mul (hf.mono ha hb hab) (hg.mono ha hb hab) (hg.nonneg a ha) (hf.nonneg b hb)
  le n hn := by
    rw [Int.cast_mul]
    exact mul_le_mul (hf.le n hn) (hg.le n hn) (hg.nonneg n hn)
      ((hf.nonneg n hn).trans (hf.le n hn))

theorem div (hf : Growing s f bound) (hc : 0 < c) (hbound : (bound : K) ≤ bound' * c) :
    Growing s (fun n => f n / c) bound' where
  nonneg n hn := div_nonneg (hf.nonneg n hn) hc.le
  mono _ ha _ hb hab := div_le_div_of_nonneg_right (hf.mono ha hb hab) hc.le
  le n hn := (div_le_iff₀ hc).mpr ((hf.le n hn).trans hbound)

omit [IsStrictOrderedRing K] in
/-- What a rounding makes of the quantity, if it is monotone and keeps to the bound. -/
theorem round (hf : Growing s f bound) {r : K → K} (hnonneg : ∀ a, 0 ≤ a → 0 ≤ r a)
    (hmono : ∀ a b, 0 ≤ a → a ≤ b → r a ≤ r b) (hle : ∀ a : K, 0 ≤ a → a ≤ bound → r a ≤ bound) :
    Growing s (fun n => r (f n)) bound where
  nonneg n hn := hnonneg _ (hf.nonneg n hn)
  mono a ha _ hb hab := hmono _ _ (hf.nonneg a ha) (hf.mono ha hb hab)
  le n hn := hle _ (hf.nonneg n hn) (hf.le n hn)

end Growing

end AegisOt
