import Mathlib.Algebra.BigOperators.Group.List.Basic
import Mathlib.Algebra.Order.BigOperators.Group.List
import Mathlib.Algebra.Order.Floor.Ring
import Mathlib.Data.List.Count
import Mathlib.Data.List.Range
import Mathlib.Data.Rat.Floor
import Mathlib.Tactic.Linarith
import Mathlib.Tactic.NormNum
import Mathlib.Tactic.Ring

/-!
# Largest remainders

The method of the largest remainder: every quota is rounded down, and the units that are left
go one each to the quotas with the largest remainders. The quotas have one divisor, which
divides the sum of the numerators. Nothing here names a program.
-/

namespace AegisOt

/-- The counts allot the sum of the quotas: each quota is rounded down or up, and none is rounded
    up while one with a larger remainder is rounded down. -/
structure LargestRemainder (quotas : List ℚ) (counts : List ℤ) : Prop where
  length_eq : counts.length = quotas.length
  sum_eq : (counts.sum : ℚ) = quotas.sum
  rounds : ∀ item ∈ quotas.zip counts, item.2 = ⌊item.1⌋ ∨ item.2 = ⌈item.1⌉
  prefers : ∀ item ∈ quotas.zip counts, ∀ larger ∈ quotas.zip counts,
    Int.fract item.1 < Int.fract larger.1 → (larger.2 : ℚ) < larger.1 → (item.2 : ℚ) ≤ item.1

/-- No count of nonnegative quotas is negative. -/
theorem LargestRemainder.count_nonneg {quotas : List ℚ} {counts : List ℤ}
    (h : LargestRemainder quotas counts) (hquotas : ∀ quota ∈ quotas, 0 ≤ quota) :
    ∀ count ∈ counts, 0 ≤ count := by
  intro count hcount
  rw [← List.map_snd_zip h.length_eq.le] at hcount
  obtain ⟨⟨quota, count⟩, hmem, rfl⟩ := List.mem_map.mp hcount
  have hquota := hquotas quota (List.of_mem_zip hmem).1
  rcases h.rounds _ hmem with hfloor | hceil
  · exact hfloor ▸ Int.floor_nonneg.mpr hquota
  · exact hceil ▸ Int.ceil_nonneg hquota

/-! ## One unit to each index of an order -/

/-- One unit is added at each index of the order. -/
def increments (counts : List ℤ) (order : List ℕ) : List ℤ :=
  order.foldl (fun counts index => counts.modify index (· + 1)) counts

variable {counts numerators : List ℤ} {order : List ℕ} {index : ℕ}

theorem length_increments (counts : List ℤ) (order : List ℕ) :
    (increments counts order).length = counts.length := by
  induction order generalizing counts with
  | nil => rfl
  | cons index order ih =>
    rw [increments, List.foldl_cons, ← increments, ih, List.length_modify]

theorem sum_modify_succ (h : index < counts.length) :
    (counts.modify index (· + 1)).sum = counts.sum + 1 := by
  induction counts generalizing index with
  | nil => simp at h
  | cons count counts ih =>
    cases index with
    | zero =>
      rw [List.modify_zero_cons, List.sum_cons, List.sum_cons]
      ring
    | succ index =>
      rw [List.modify_succ_cons, List.sum_cons, List.sum_cons, ih (by simpa using h)]
      ring

theorem sum_increments (horder : ∀ index ∈ order, index < counts.length) :
    (increments counts order).sum = counts.sum + order.length := by
  induction order generalizing counts with
  | nil => simp [increments]
  | cons index order ih =>
    obtain ⟨hindex, hrest⟩ := List.forall_mem_cons.mp horder
    rw [increments, List.foldl_cons, ← increments, ih (by simpa using hrest),
      sum_modify_succ hindex, List.length_cons]
    push_cast
    ring

theorem getElem?_increments (hnodup : order.Nodup) (i : ℕ) :
    (increments counts order)[i]? =
      counts[i]?.map fun count => if i ∈ order then count + 1 else count := by
  induction order generalizing counts with
  | nil => simp [increments]
  | cons index order ih =>
    obtain ⟨hindex, hrest⟩ := List.nodup_cons.mp hnodup
    rw [increments, List.foldl_cons, ← increments, ih hrest, List.getElem?_modify]
    cases counts[i]? with
    | none => rfl
    | some count =>
      by_cases hi : index = i
      · subst hi
        simp [hindex]
      · simp [hi, Ne.symm hi]

/-! ## How many units are left -/

/-- A prefix no longer than the items with a property has only such items, when these stand
    before the others. -/
theorem forall_mem_take_of_le_countP {α : Type} {p : α → Prop} [DecidablePred p] {items : List α}
    (hbefore : items.Pairwise fun a b => p b → p a) {k : ℕ}
    (hk : k ≤ items.countP (fun a => p a)) : ∀ a ∈ items.take k, p a := by
  induction items generalizing k with
  | nil => simp
  | cons item items ih =>
    obtain ⟨hfirst, hrest⟩ := List.pairwise_cons.mp hbefore
    cases k with
    | zero => simp
    | succ k =>
      rw [List.countP_cons] at hk
      by_cases hitem : p item
      · rw [List.take_succ_cons]
        refine List.forall_mem_cons.mpr ⟨hitem, ih hrest ?_⟩
        simpa [hitem] using hk
      · -- Nothing behind an item without the property has it.
        have hnone : items.countP (fun a => p a) = 0 :=
          List.countP_eq_zero.mpr fun a ha => by simpa using fun hp => hitem (hfirst a ha hp)
        rw [hnone] at hk
        simp [hitem] at hk

variable {divisor : ℕ}

theorem sum_ediv_emod (divisor : ℕ) (numerators : List ℤ) :
    divisor * (numerators.map (· / (divisor : ℤ))).sum +
      (numerators.map (· % (divisor : ℤ))).sum = numerators.sum := by
  induction numerators with
  | nil => simp
  | cons numerator numerators ih =>
    have hfirst := Int.mul_ediv_add_emod numerator divisor
    rw [List.map_cons, List.map_cons, List.sum_cons, List.sum_cons, List.sum_cons, ← ih]
    linarith

theorem sum_emod_nonneg (hdivisor : 0 < divisor) (numerators : List ℤ) :
    0 ≤ (numerators.map (· % (divisor : ℤ))).sum :=
  List.sum_nonneg fun remainder hremainder => by
    obtain ⟨numerator, -, rfl⟩ := List.mem_map.mp hremainder
    exact Int.emod_nonneg _ (by omega)

theorem sum_emod_le (hdivisor : 0 < divisor) (numerators : List ℤ) :
    (numerators.map (· % (divisor : ℤ))).sum ≤
      divisor * numerators.countP (fun numerator => numerator % (divisor : ℤ) ≠ 0) := by
  induction numerators with
  | nil => simp
  | cons numerator numerators ih =>
    have hlt : numerator % (divisor : ℤ) < divisor := Int.emod_lt_of_pos _ (by omega)
    rw [List.map_cons, List.sum_cons, List.countP_cons]
    by_cases hzero : numerator % (divisor : ℤ) = 0
    · simpa [hzero] using ih
    · simp only [hzero, ne_eq, not_false_eq_true, decide_true, if_true]
      push_cast
      linarith

/-- What is left after rounding down is no more than the quotas that have a remainder. -/
theorem remaining_bounds (hdivisor : 0 < divisor) {total : ℤ}
    (hsum : numerators.sum = divisor * total) :
    0 ≤ total - (numerators.map (· / (divisor : ℤ))).sum ∧
    total - (numerators.map (· / (divisor : ℤ))).sum ≤
      numerators.countP (fun numerator => numerator % (divisor : ℤ) ≠ 0) := by
  have hpos : (0 : ℤ) < divisor := by exact_mod_cast hdivisor
  have hsplit := sum_ediv_emod divisor numerators
  have hleft : (divisor : ℤ) * (total - (numerators.map (· / (divisor : ℤ))).sum) =
      (numerators.map (· % (divisor : ℤ))).sum := by
    rw [hsum] at hsplit
    linarith
  constructor
  · refine nonneg_of_mul_nonneg_right ?_ hpos
    rw [hleft]
    exact sum_emod_nonneg hdivisor numerators
  · refine le_of_mul_le_mul_left ?_ hpos
    rw [hleft]
    exact sum_emod_le hdivisor numerators

/-! ## The method -/

/-- The remainder at an index. -/
def remainderAt (divisor : ℕ) (numerators : List ℤ) (index : ℕ) : ℤ :=
  numerators.getD index 0 % divisor

/-- The indices in the order of their remainders, the largest first. -/
structure RemainderOrder (divisor : ℕ) (numerators : List ℤ) (order : List ℕ) : Prop where
  perm : order.Perm (List.range numerators.length)
  sorted : order.Pairwise fun i j => remainderAt divisor numerators j ≤
    remainderAt divisor numerators i

namespace RemainderOrder

variable (h : RemainderOrder divisor numerators order)

include h

theorem countP_order :
    order.countP (fun index => remainderAt divisor numerators index ≠ 0) =
      numerators.countP (fun numerator => numerator % (divisor : ℤ) ≠ 0) := by
  have hmap : (List.range numerators.length).map (numerators.getD · 0) = numerators := by
    refine List.ext_getElem (by simp) fun i hi hi' => ?_
    simp [List.getD_eq_getElem?_getD, hi']
  calc order.countP (fun index => remainderAt divisor numerators index ≠ 0)
      = (List.range numerators.length).countP
          (fun index => remainderAt divisor numerators index ≠ 0) := h.perm.countP_eq _
    _ = ((List.range numerators.length).map (numerators.getD · 0)).countP
          (fun numerator => numerator % (divisor : ℤ) ≠ 0) := by
            rw [List.countP_map]
            rfl
    _ = _ := by rw [hmap]

theorem nodup_take (k : ℕ) : (order.take k).Nodup :=
  (h.perm.nodup_iff.mpr List.nodup_range).sublist (List.take_sublist k order)

theorem lt_length (k : ℕ) : ∀ index ∈ order.take k, index < numerators.length :=
  fun _ hindex => List.mem_range.mp (h.perm.mem_iff.mp (List.mem_of_mem_take hindex))

/-- The units go only to quotas that have a remainder. -/
theorem ne_zero_of_mem_take (hdivisor : 0 < divisor) {total : ℤ}
    (hsum : numerators.sum = divisor * total) :
    ∀ index ∈ order.take (total - (numerators.map (· / (divisor : ℤ))).sum).toNat,
      remainderAt divisor numerators index ≠ 0 := by
  refine forall_mem_take_of_le_countP (h.sorted.imp fun {i j} hle hj hi => ?_) ?_
  · -- A remainder is not negative, so a larger one than a nonzero one is not zero.
    have hnonneg : 0 ≤ remainderAt divisor numerators j := Int.emod_nonneg _ (by omega)
    omega
  · obtain ⟨-, hle⟩ := remaining_bounds hdivisor hsum
    rw [h.countP_order]
    omega

/-- A unit at an index stands before no larger remainder without one. -/
theorem le_of_mem_take {k i j : ℕ} (hi : i ∈ order.take k) (hj : j ∉ order.take k)
    (hlength : j < numerators.length) :
    remainderAt divisor numerators j ≤ remainderAt divisor numerators i := by
  have hmem : j ∈ order := h.perm.mem_iff.mpr (List.mem_range.mpr hlength)
  have hsorted := h.sorted
  rw [← List.take_append_drop k order] at hmem hsorted
  have hdrop : j ∈ order.drop k := (List.mem_append.mp hmem).resolve_left hj
  exact (List.pairwise_append.mp hsorted).2.2 i hi j hdrop

end RemainderOrder

/-- The quotas. -/
def quotas (divisor : ℕ) (numerators : List ℤ) : List ℚ :=
  numerators.map fun numerator : ℤ => (numerator : ℚ) / divisor

theorem sum_quotas (hdivisor : 0 < divisor) {total : ℤ} (hsum : numerators.sum = divisor * total) :
    (quotas divisor numerators).sum = total := by
  have hne : (divisor : ℚ) ≠ 0 := by exact_mod_cast hdivisor.ne'
  have hcast (items : List ℤ) :
      (quotas divisor items).sum = (items.sum : ℚ) / divisor := by
    induction items with
    | nil => simp [quotas]
    | cons item items ih =>
      rw [quotas, List.map_cons, List.sum_cons, ← quotas, ih, List.sum_cons]
      push_cast
      ring
  rw [hcast, hsum]
  push_cast
  field_simp

theorem fract_quota (hdivisor : 0 < divisor) (numerator : ℤ) :
    Int.fract ((numerator : ℚ) / divisor) = ((numerator % (divisor : ℤ) : ℤ) : ℚ) / divisor := by
  have hne : (divisor : ℚ) ≠ 0 := by exact_mod_cast hdivisor.ne'
  have hsplit := Int.mul_ediv_add_emod numerator divisor
  have hcast : (divisor : ℚ) * ((numerator / (divisor : ℤ) : ℤ) : ℚ) +
      ((numerator % (divisor : ℤ) : ℤ) : ℚ) = numerator := by exact_mod_cast hsplit
  rw [Int.fract, Rat.floor_intCast_div_natCast, ← hcast]
  field_simp
  ring

/-- What stands at one index of the quotas and of the counts. -/
theorem exists_of_mem_zip_increments {taken : List ℕ} (hnodup : taken.Nodup)
    (hdivisor : 0 < divisor) {item : ℚ × ℤ}
    (hmem : item ∈ (quotas divisor numerators).zip
      (increments (numerators.map (· / (divisor : ℤ))) taken)) :
    ∃ i < numerators.length, Int.fract item.1 = (remainderAt divisor numerators i : ℚ) / divisor ∧
      item.2 = ⌊item.1⌋ + if i ∈ taken then 1 else 0 := by
  obtain ⟨i, hi⟩ := List.mem_iff_getElem?.mp hmem
  obtain ⟨hquota, hcount⟩ := List.getElem?_zip_eq_some.mp hi
  rw [quotas, List.getElem?_map] at hquota
  obtain ⟨numerator, hnumerator, hquota⟩ := Option.map_eq_some_iff.mp hquota
  obtain ⟨hlt, rfl⟩ := List.getElem?_eq_some_iff.mp hnumerator
  rw [getElem?_increments hnodup, List.getElem?_map, hnumerator] at hcount
  have hcount := Option.some.inj hcount
  refine ⟨i, hlt, ?_, ?_⟩
  · rw [← hquota, fract_quota hdivisor, remainderAt, List.getD_eq_getElem?_getD, hnumerator]
    rfl
  · rw [← hcount, ← hquota, Rat.floor_intCast_div_natCast]
    split_ifs
    · rfl
    · exact (add_zero _).symm

/-- Units for the first indices in the order of the remainders, as many as are left, make the
    counts of the largest remainder. -/
theorem RemainderOrder.largestRemainder (h : RemainderOrder divisor numerators order)
    (hdivisor : 0 < divisor) {total : ℤ} (hsum : numerators.sum = divisor * total) :
    LargestRemainder (quotas divisor numerators)
      (increments (numerators.map (· / (divisor : ℤ)))
        (order.take (total - (numerators.map (· / (divisor : ℤ))).sum).toNat)) := by
  have hpos : (0 : ℚ) < divisor := by exact_mod_cast hdivisor
  obtain ⟨hnonneg, hle⟩ := remaining_bounds hdivisor hsum
  have hgiven := h.ne_zero_of_mem_take hdivisor hsum
  generalize hk : (total - (numerators.map (· / (divisor : ℤ))).sum).toNat = k at *
  have hk' : (k : ℤ) = total - (numerators.map (· / (divisor : ℤ))).sum := by omega
  have htake := h.nodup_take k
  have hlength : (order.take k).length = k := by
    refine List.length_take_of_le ?_
    have hcount : order.countP (fun index => remainderAt divisor numerators index ≠ 0) ≤
        order.length := List.countP_le_length
    rw [h.countP_order] at hcount
    omega
  refine ⟨?_, ?_, fun item hmem => ?_, fun item hmem larger hlarger hfract hdown => ?_⟩
  · simp [length_increments, quotas]
  · rw [sum_quotas hdivisor hsum, sum_increments (by simpa using h.lt_length k), hlength, hk']
    push_cast
    ring
  · obtain ⟨i, -, hfract, hcount⟩ := exists_of_mem_zip_increments htake hdivisor hmem
    split_ifs at hcount with htaken
    · -- The quota is not whole.
      have hne : Int.fract item.1 ≠ 0 := by
        rw [hfract]
        exact div_ne_zero (by exact_mod_cast hgiven i htaken) hpos.ne'
      have hceil : (⌈item.1⌉ : ℚ) = ⌊item.1⌋ + 1 := by
        rw [Int.ceil_eq_add_one_sub_fract hne, Int.fract]
        ring
      exact Or.inr (hcount.trans (by exact_mod_cast hceil.symm))
    · exact Or.inl (hcount.trans (add_zero _))
  · obtain ⟨i, -, hfracti, hcount⟩ := exists_of_mem_zip_increments htake hdivisor hmem
    obtain ⟨j, hj, hfractj, hcountj⟩ := exists_of_mem_zip_increments htake hdivisor hlarger
    rw [hfracti, hfractj, div_lt_div_iff_of_pos_right hpos] at hfract
    have hlt : remainderAt divisor numerators i < remainderAt divisor numerators j := by
      exact_mod_cast hfract
    have hnotup : i ∉ order.take k := by
      intro htaken
      have hnottaken : j ∉ order.take k := by
        intro htakenj
        rw [if_pos htakenj] at hcountj
        rw [hcountj] at hdown
        push_cast at hdown
        exact absurd (Int.lt_floor_add_one larger.1) (not_lt.mpr hdown.le)
      exact absurd (h.le_of_mem_take htaken hnottaken hj) (not_le.mpr hlt)
    rw [if_neg hnotup, add_zero] at hcount
    rw [hcount]
    exact Int.floor_le item.1

end AegisOt
