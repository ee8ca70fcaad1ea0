import AegisOt.Fleet.Coordination
import AegisOt.Fleet.Proofs.Accepted

/-!
# Open intervals

`_coordination_samples` sorts the starts and the completions on their own. What is lost with
the pairing does not matter to a count: at each instant the difference of the two searches is
the number of intervals that have begun and not ended.
-/

namespace AegisOt

/-- The intervals that begin by an instant and end after it. -/
def openIntervals (intervals : List (ℤ × ℤ)) (t : ℤ) : ℕ :=
  intervals.countP (fun interval => interval.1 ≤ t ∧ t < interval.2)

theorem openIntervals_le_length (intervals : List (ℤ × ℤ)) (t : ℤ) :
    openIntervals intervals t ≤ intervals.length := List.countP_le_length

variable {starts completions : List ℤ} {horizon sample : ℤ}

/-- The two searches find how many intervals are open. -/
theorem bisectRight_sub_bisectRight (hlength : starts.length = completions.length)
    (horder : ∀ interval ∈ starts.zip completions, interval.1 ≤ interval.2) (t : ℤ) :
    (bisectRight (sortedBy id starts) t : ℤ) - bisectRight (sortedBy id completions) t =
      openIntervals (starts.zip completions) t := by
  have hcount := countP_begun horder t
  have hbegun : starts.countP (fun start => start ≤ t) =
      (starts.zip completions).countP (fun interval => interval.1 ≤ t) := by
    conv_lhs => rw [← List.map_fst_zip hlength.le]
    exact List.countP_map
  have hended : completions.countP (fun completion => completion ≤ t) =
      (starts.zip completions).countP (fun interval => interval.2 ≤ t) := by
    conv_lhs => rw [← List.map_snd_zip hlength.ge]
    exact List.countP_map
  rw [bisectRight_sortedBy, bisectRight_sortedBy, hbegun, hended, hcount]
  unfold openIntervals
  push_cast
  omega

/-- The samples are the open intervals at the sampled instants. -/
theorem coordinationSamples_eq_map (hlength : starts.length = completions.length)
    (horder : ∀ interval ∈ starts.zip completions, interval.1 ≤ interval.2) :
    coordinationSamples starts completions horizon sample =
      (rangeBy horizon sample).map fun timestamps =>
        timestamps.map fun t => (openIntervals (starts.zip completions) t : ℤ) := by
  simp only [coordinationSamples, bisectRight_sub_bisectRight hlength horder]
  cases rangeBy horizon sample with
  | error e => rfl
  | ok timestamps => rfl

/-- Every sample counts the intervals that are open at its instant, and so none is negative,
    although the starts and the completions are sorted on their own. -/
theorem coordinationSamples_open (hlength : starts.length = completions.length)
    (horder : ∀ interval ∈ starts.zip completions, interval.1 ≤ interval.2) :
    (coordinationSamples starts completions horizon sample =
      (rangeBy horizon sample).map fun timestamps =>
        timestamps.map fun t => (openIntervals (starts.zip completions) t : ℤ)) ∧
    ∀ samples, coordinationSamples starts completions horizon sample = .ok samples →
      ∀ value ∈ samples, 0 ≤ value := by
  refine ⟨coordinationSamples_eq_map hlength horder, fun samples hsamples value hvalue => ?_⟩
  rw [coordinationSamples_eq_map hlength horder] at hsamples
  cases htimestamps : rangeBy horizon sample with
  | error e =>
    rw [htimestamps] at hsamples
    cases hsamples
  | ok timestamps =>
    rw [htimestamps] at hsamples
    cases hsamples
    obtain ⟨t, -, rfl⟩ := List.mem_map.mp hvalue
    exact Int.natCast_nonneg _

theorem coordinationSamples_overlapping :
    coordinationSamples [4, 0, 2] [5, 9, 2] 10 5 =
      (rangeBy 10 5).map fun timestamps =>
        timestamps.map fun t => (openIntervals [(4, 5), (0, 9), (2, 2)] t : ℤ) := by
  have hlength : [4, 0, 2].length = [5, 9, 2].length := rfl
  have horder : ∀ interval ∈ ([4, 0, 2] : List ℤ).zip [5, 9, 2], interval.1 ≤ interval.2 := by
    decide
  exact (coordinationSamples_open hlength horder).1

end AegisOt
