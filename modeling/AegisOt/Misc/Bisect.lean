import AegisOt.Misc.Checks
import Mathlib.Data.List.Count
import Mathlib.Data.List.Sort

/-!
# Binary search

Python's `sorted`, with and without a key, and `bisect_right` on an ascending list: the search
finds how many items are at most the one looked for, whatever order they stood in before they
were sorted. Nothing here names a program.
-/

namespace AegisOt

/-! ## Sorting by a key -/

section

variable {α κ : Type} [LinearOrder κ] {key : α → κ} {items : List α}

/-- `sorted(items, key=key)`, which keeps the order of items of one key. -/
def sortedBy (key : α → κ) (items : List α) : List α :=
  items.mergeSort (fun a b => decide (key a ≤ key b))

theorem sortedBy_perm (key : α → κ) (items : List α) : (sortedBy key items).Perm items :=
  List.mergeSort_perm items _

@[simp] theorem length_sortedBy : (sortedBy key items).length = items.length :=
  (sortedBy_perm key items).length_eq

theorem sortedBy_ne_nil (h : items ≠ []) : sortedBy key items ≠ [] := by
  rwa [← List.length_pos_iff, length_sortedBy, List.length_pos_iff]

@[simp] theorem mem_sortedBy {a : α} : a ∈ sortedBy key items ↔ a ∈ items :=
  (sortedBy_perm key items).mem_iff

theorem sortedBy_pairwise (key : α → κ) (items : List α) :
    (sortedBy key items).Pairwise (fun a b => key a ≤ key b) := by
  have hsorted : (items.mergeSort fun a b => decide (key a ≤ key b)).Pairwise
      fun a b => decide (key a ≤ key b) = true := by
    refine List.pairwise_mergeSort (fun a b c hab hbc => ?_) (fun a b => ?_) items
    · exact decide_eq_true ((of_decide_eq_true hab).trans (of_decide_eq_true hbc))
    · simpa using le_total (key a) (key b)
  exact hsorted.imp of_decide_eq_true

end

/-! ## Searching -/

section

variable {α : Type} [LinearOrder α] {a : List α} {x : α} {lo hi : ℕ}

/-- The loop of `bisect_right(a, x, lo, hi)`. -/
def bisectRightFrom (a : List α) (x : α) (lo hi : ℕ) : ℕ :=
  if lo < hi then
    match a[(lo + hi) / 2]? with
    | none => lo
    | some item =>
        if x < item then bisectRightFrom a x lo ((lo + hi) / 2)
        else bisectRightFrom a x ((lo + hi) / 2 + 1) hi
  else lo
termination_by hi - lo

/-- `bisect_right(a, x)`. -/
def bisectRight (a : List α) (x : α) : ℕ := bisectRightFrom a x 0 a.length

/-- The items before a position are at most `x`, and those from it on are greater. -/
def SplitAt (a : List α) (x : α) (position : ℕ) : Prop :=
  (∀ item ∈ a.take position, item ≤ x) ∧ ∀ item ∈ a.drop position, x < item

/-- A position that splits the list counts the items before it. -/
theorem SplitAt.countP_eq (h : SplitAt a x lo) (hlo : lo ≤ a.length) :
    a.countP (fun item => item ≤ x) = lo := by
  have hbefore : (a.take lo).countP (fun item => item ≤ x) = (a.take lo).length :=
    List.countP_eq_length.mpr fun item hitem => decide_eq_true (h.1 item hitem)
  have hafter : (a.drop lo).countP (fun item => item ≤ x) = 0 :=
    List.countP_eq_zero.mpr fun item hitem => by simpa using h.2 item hitem
  conv_lhs => rw [← List.take_append_drop lo a]
  rw [List.countP_append, hbefore, hafter, List.length_take, min_eq_left hlo, Nat.add_zero]

theorem le_of_mem_take (hsorted : a.Pairwise (· ≤ ·)) {middle : ℕ} {item : α}
    (hitem : a[middle]? = some item) {other : α} (hother : other ∈ a.take (middle + 1)) :
    other ≤ item := by
  obtain ⟨hmiddle, rfl⟩ := List.getElem?_eq_some_iff.mp hitem
  rw [List.take_succ_eq_append_getElem hmiddle, List.mem_append, List.mem_singleton] at hother
  rcases hother with hother | rfl
  · rw [← List.take_append_drop middle a] at hsorted
    refine (List.pairwise_append.mp hsorted).2.2 other hother _ ?_
    rw [List.drop_eq_getElem_cons hmiddle]
    exact List.mem_cons_self
  · exact le_rfl

theorem le_of_mem_drop (hsorted : a.Pairwise (· ≤ ·)) {middle : ℕ} {item : α}
    (hitem : a[middle]? = some item) {other : α} (hother : other ∈ a.drop middle) :
    item ≤ other := by
  obtain ⟨hmiddle, rfl⟩ := List.getElem?_eq_some_iff.mp hitem
  have hdrop := hsorted.drop (i := middle)
  rw [List.drop_eq_getElem_cons hmiddle] at hother hdrop
  rcases List.mem_cons.mp hother with rfl | hother
  · exact le_rfl
  · exact (List.pairwise_cons.mp hdrop).1 other hother

/-- The search keeps what is behind it at most `x`, and what is ahead of it greater. -/
theorem splitAt_bisectRightFrom (hsorted : a.Pairwise (· ≤ ·)) (hlohi : lo ≤ hi)
    (hhi : hi ≤ a.length) (hlow : ∀ item ∈ a.take lo, item ≤ x)
    (hhigh : ∀ item ∈ a.drop hi, x < item) :
    SplitAt a x (bisectRightFrom a x lo hi) ∧ bisectRightFrom a x lo hi ≤ a.length := by
  fun_induction bisectRightFrom a x lo hi with
  | case1 lo hi hlt hmiddle =>
    rw [List.getElem?_eq_none_iff] at hmiddle
    omega
  | case2 lo hi hlt item hmiddle hx ih =>
    refine ih (by omega) (by omega) hlow fun other hother => ?_
    exact hx.trans_le (le_of_mem_drop hsorted hmiddle hother)
  | case3 lo hi hlt item hmiddle hx ih =>
    refine ih (by omega) hhi (fun other hother => ?_) hhigh
    exact (le_of_mem_take hsorted hmiddle hother).trans (not_lt.mp hx)
  | case4 lo hi hlt =>
    obtain rfl : lo = hi := by omega
    exact ⟨⟨hlow, hhigh⟩, hhi⟩

/-- On an ascending list the search counts the items that are at most `x`. -/
theorem bisectRight_eq_countP (hsorted : a.Pairwise (· ≤ ·)) :
    bisectRight a x = a.countP (fun item => item ≤ x) := by
  obtain ⟨hsplit, hlength⟩ := splitAt_bisectRightFrom (x := x) hsorted (Nat.zero_le a.length)
    le_rfl (by simp) (by simp)
  exact (hsplit.countP_eq hlength).symm

/-- The count does not depend on the order from which the list was sorted. -/
theorem bisectRight_sortedBy (items : List α) :
    bisectRight (sortedBy id items) x = items.countP (fun item => item ≤ x) := by
  rw [bisectRight_eq_countP (sortedBy_pairwise id items)]
  exact (sortedBy_perm id items).countP_eq _

/-! ## Counting open intervals -/

/-- Of the intervals that have begun, some have ended and the others are open. -/
theorem countP_begun {ι : Type} {items : List ι} {low high : ι → α}
    (h : ∀ item ∈ items, low item ≤ high item) (t : α) :
    items.countP (fun item => low item ≤ t) =
      items.countP (fun item => low item ≤ t ∧ t < high item) +
        items.countP (fun item => high item ≤ t) := by
  induction items with
  | nil => rfl
  | cons item items ih =>
    obtain ⟨hfirst, hrest⟩ := List.forall_mem_cons.mp h
    have hended : high item ≤ t → low item ≤ t := hfirst.trans
    rw [List.countP_cons, List.countP_cons, List.countP_cons, ih hrest]
    simp only [decide_eq_true_eq]
    by_cases hhigh : high item ≤ t
    · simp only [hended hhigh, not_lt.mpr hhigh, hhigh, and_false, if_true, if_false]
      omega
    · simp only [not_le.mp hhigh, hhigh, and_true, if_false]
      omega

end

end AegisOt
