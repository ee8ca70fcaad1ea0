import AegisOt.Fleet.Distribution
import AegisOt.Fleet.Proofs.Accepted
import AegisOt.Misc.LargestRemainder
import Mathlib.Algebra.BigOperators.Ring.List
import Mathlib.Data.List.GetD

/-!
# Allotting a total to shares

`_fixed_distribution_counts` is the method of the largest remainder: its counts add up to the
total, so its last check never fails.
-/

namespace AegisOt

/-- The exact quota of a share. -/
def quota (total share : ℤ) : ℚ := (total * share : ℚ) / 10000

theorem quota_nonneg {total share : ℤ} (htotal : 0 ≤ total) (hshare : 0 ≤ share) :
    0 ≤ quota total share := by
  unfold quota
  have hproduct : (0 : ℚ) ≤ total * share := by exact_mod_cast mul_nonneg htotal hshare
  positivity

theorem quotas_numerators (total : ℤ) (basisPoints : List ℤ) :
    quotas 10000 (numerators total basisPoints) = basisPoints.map (quota total) := by
  rw [quotas, numerators, List.map_map]
  refine List.map_congr_left fun share _ => ?_
  simp [quota]

theorem sum_numerators (total : ℤ) (basisPoints : List ℤ) :
    (numerators total basisPoints).sum = total * basisPoints.sum := by
  rw [numerators, List.sum_map_mul_left, List.map_id']

/-- The quotas of shares that make a whole add up to the total. -/
theorem sum_quota {total : ℤ} {basisPoints : List ℤ} (hsum : basisPoints.sum = 10000) :
    (basisPoints.map (quota total)).sum = total := by
  have hnumerators : (numerators total basisPoints).sum = (10000 : ℕ) * total := by
    rw [sum_numerators, hsum, mul_comm]
    rfl
  rw [← quotas_numerators, sum_quotas (by norm_num) hnumerators]

theorem remainders_getD (total : ℤ) (basisPoints : List ℤ) (index : ℕ) :
    (remainders total basisPoints).getD index 0 =
      remainderAt 10000 (numerators total basisPoints) index := by
  have hzero : (0 : ℤ) = (fun numerator : ℤ => numerator % 10000) 0 := rfl
  rw [remainders, hzero, List.getD_map]
  rfl

theorem remainderOrder_allocationOrder (total : ℤ) (basisPoints : List ℤ) :
    RemainderOrder 10000 (numerators total basisPoints) (allocationOrder total basisPoints) := by
  constructor
  · rw [numerators, List.length_map]
    exact sortedBy_perm _ _
  · refine (sortedBy_pairwise _ _).imp fun {i j} hle => ?_
    rw [remainders_getD, remainders_getD] at hle
    have hneg := Prod.Lex.le_iff.mp hle
    simp only [ofLex_toLex] at hneg
    omega

variable {total : ℤ} {basisPoints : List ℤ}

/-- The counts are those of the largest remainder. -/
theorem fixedDistributionCounts_eq_ok (htotal : 0 ≤ total)
    (hshares : ∀ item ∈ basisPoints, 0 ≤ item) (hsum : basisPoints.sum = 10000) :
    ∃ counts, fixedDistributionCounts total basisPoints = .ok counts ∧
      LargestRemainder (basisPoints.map (quota total)) counts := by
  have hnumerators : (numerators total basisPoints).sum = (10000 : ℕ) * total := by
    rw [sum_numerators, hsum, mul_comm]
    rfl
  have hlargest := (remainderOrder_allocationOrder total basisPoints).largestRemainder
    (by norm_num) hnumerators
  rw [quotas_numerators] at hlargest
  refine ⟨_, ?_, hlargest⟩
  have hnil : basisPoints ≠ [] := by
    rintro rfl
    simp at hsum
  have htotals : (increments (floorCounts total basisPoints)
      ((allocationOrder total basisPoints).take
        (total - (floorCounts total basisPoints).sum).toNat)).sum = total := by
    have hexact := hlargest.sum_eq
    rw [sum_quota hsum] at hexact
    exact_mod_cast hexact
  have hneg : ¬ (basisPoints = [] ∨ ∃ item ∈ basisPoints, item < 0) := by
    rintro (hempty | ⟨item, hitem, hlt⟩)
    · exact hnil hempty
    · exact absurd (hshares item hitem) (not_le.mpr hlt)
  unfold increments at htotals
  rw [fixedDistributionCounts, refuseIf_neg (not_lt.mpr htotal), ok_bind, refuseIf_neg hneg,
    ok_bind, refuseIf_neg (not_not.mpr hsum), ok_bind]
  simp only [htotals, ne_eq, not_true_eq_false, refuseIf_neg not_false, ok_bind, increments]
  rfl

/-- The counts add up to the total, so that the last check never fails. Each is its quota rounded
    down or up, none for a share of zero, and no quota is rounded up while one with a larger
    remainder is rounded down. -/
theorem fixedDistributionCounts_largestRemainder (htotal : 0 ≤ total)
    (hshares : ∀ item ∈ basisPoints, 0 ≤ item) (hsum : basisPoints.sum = 10000) :
    ∃ counts, fixedDistributionCounts total basisPoints = .ok counts ∧ counts.sum = total ∧
      LargestRemainder (basisPoints.map (quota total)) counts ∧
      ∀ item ∈ basisPoints.zip counts, item.1 = 0 → item.2 = 0 := by
  obtain ⟨counts, hcounts, hlargest⟩ := fixedDistributionCounts_eq_ok htotal hshares hsum
  refine ⟨counts, hcounts, ?_, hlargest, ?_⟩
  · have hexact := hlargest.sum_eq
    rw [sum_quota hsum] at hexact
    exact_mod_cast hexact
  · rintro ⟨share, count⟩ hitem rfl
    have hmem : (quota total 0, count) ∈ (basisPoints.map (quota total)).zip counts := by
      rw [List.zip_map_left]
      exact List.mem_map.mpr ⟨(0, count), hitem, rfl⟩
    have hquota : quota total 0 = 0 := by simp [quota]
    have hrounds := hlargest.rounds _ hmem
    simpa [hquota] using hrounds

theorem fixedDistributionCounts_seven :
    ∃ counts, fixedDistributionCounts 7 [5000, 2500, 2500] = .ok counts ∧ counts.sum = 7 ∧
      LargestRemainder ([5000, 2500, 2500].map (quota 7)) counts ∧
      ∀ item ∈ ([5000, 2500, 2500] : List ℤ).zip counts, item.1 = 0 → item.2 = 0 :=
  fixedDistributionCounts_largestRemainder (by decide) (by decide) (by decide)

end AegisOt
