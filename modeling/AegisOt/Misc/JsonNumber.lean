import AegisOt.Misc.JsonRoundTrip
import Mathlib.Data.Int.Order.Basic
import Std.Data.String.ToInt

/-!
# Integers in JSON texts

The token that `int.__repr__` writes for an integer, that the `json` scanner reads it back whole,
and the integer that `json.loads` makes of a token without fraction and exponent. Nothing here
names a program.
-/

namespace AegisOt

namespace Json

/-- The number whose token is `repr(n)`. -/
def ofInt (n : ℤ) : Json := .num n.repr.toList

/-- The integer of a number token. A token with a fraction or an exponent is a `float`. -/
def toInt? : Json → Option ℤ
  | .num token => (String.ofList token).toInt?
  | _ => none

@[simp] theorem toInt?_ofInt (n : ℤ) : (ofInt n).toInt? = some n := by
  simp [toInt?, ofInt, String.ofList_toList, Int.toInt?_repr]

@[simp] theorem ofInt_inj {m n : ℤ} : ofInt m = ofInt n ↔ m = n := by
  constructor
  · intro h
    have hread := congrArg toInt? h
    simpa using hread
  · intro h
    rw [h]

/-! ## The scanner on decimal digits -/

theorem spanDigits_of_isDigit {cs : List Char} (h : ∀ c ∈ cs, c.isDigit = true) :
    spanDigits cs = (cs, []) := by
  induction cs with
  | nil => rfl
  | cons c cs ih =>
    have hrest : ∀ c ∈ cs, c.isDigit = true := by
      intro d hd
      exact h d (List.mem_cons_of_mem c hd)
    simp [spanDigits, h c List.mem_cons_self, ih hrest]

/-- The decimal digits of a positive number do not begin with zero. The induction removes the
    last digit. -/
theorem head_toDigits_ne_zero {n : Nat} (hn : 0 < n) {c : Char} {cs : List Char}
    (h : Nat.toDigits 10 n = c :: cs) : c ≠ '0' := by
  induction n using Nat.strongRecOn generalizing c cs with
  | _ n ih =>
    by_cases hsmall : n < 10
    · rw [Nat.toDigits_of_lt_base hsmall] at h
      obtain ⟨rfl, rfl⟩ := List.cons.inj h
      have hall : ∀ n < 10, 0 < n → Nat.digitChar n ≠ '0' := by decide
      exact hall n hsmall hn
    · rw [Nat.toDigits_of_base_le (by omega) (by omega)] at h
      cases hquotient : Nat.toDigits 10 (n / 10) with
      | nil => exact absurd hquotient Nat.toDigits_ne_nil
      | cons d ds =>
        rw [hquotient, List.cons_append] at h
        obtain ⟨rfl, -⟩ := List.cons.inj h
        exact ih (n / 10) (by omega) (by omega) hquotient

theorem scanUnsigned_toDigits (n : Nat) :
    scanUnsigned (Nat.toDigits 10 n) = some (Nat.toDigits 10 n, []) := by
  by_cases hzero : n = 0
  · rw [hzero]
    decide
  · have hdigits : spanDigits (Nat.toDigits 10 n) = (Nat.toDigits 10 n, []) := by
      apply spanDigits_of_isDigit
      intro c hc
      exact Nat.isDigit_of_mem_toDigits (by omega) (by omega) hc
    cases hcs : Nat.toDigits 10 n with
    | nil => exact absurd hcs Nat.toDigits_ne_nil
    | cons c cs =>
      have hhead := head_toDigits_ne_zero (by omega) hcs
      rw [hcs] at hdigits
      simp [scanUnsigned, scanWhole, hhead, hdigits, scanFraction, scanExponent]

theorem wellFormed_ofInt (n : ℤ) : (ofInt n).wellFormed = true := by
  have hscan : scanNumber n.repr.toList = some (n.repr.toList, []) := by
    rw [Int.repr_eq_if]
    by_cases hn : 0 ≤ n
    · rw [if_pos hn, Nat.toList_repr]
      cases hcs : Nat.toDigits 10 n.toNat with
      | nil => exact absurd hcs Nat.toDigits_ne_nil
      | cons c cs =>
        have hdigit : c.isDigit = true := by
          apply Nat.isDigit_of_mem_toDigits (b := 10) (n := n.toNat) (by omega) (by omega)
          rw [hcs]
          exact List.mem_cons_self
        have hminus : c ≠ '-' := by
          intro h
          rw [h] at hdigit
          exact absurd hdigit (by decide)
        rw [scanNumber, if_neg hminus, ← hcs]
        exact scanUnsigned_toDigits n.toNat
    · rw [if_neg hn, String.toList_append, Nat.toList_repr]
      change scanNumber ('-' :: Nat.toDigits 10 (-n).toNat) = _
      rw [scanNumber, if_pos rfl, scanUnsigned_toDigits]
      rfl
  simp [ofInt, wellFormed, hscan]

end Json

end AegisOt
