import Mathlib.Data.List.Basic
import Mathlib.Data.Multiset.Count
import Mathlib.Data.Multiset.AddSub
import Mathlib.Order.Lattice
import Mathlib.Order.MinMax

/-!
# First come, first served

A queue before a fixed number of servers: every event in its turn takes the server that is free
first. Only the times at which the servers are free matter, not which server is which, so the
pool is a multiset of times. `Serves free bookings free'` is a run of the queue. Starts come in
the order of the arrivals, no more events are in service than there are servers, and an event
waits only while all of them are busy. Nothing here names a program.
-/

namespace AegisOt

/-- One event in the queue. -/
structure Booking (τ : Type) where
  arrival : τ
  start : τ
  completion : τ
  deriving DecidableEq

variable {τ : Type} [LinearOrder τ]

/-- A run of the queue: each event starts when it has arrived and the first server is free. -/
inductive Serves : Multiset τ → List (Booking τ) → Multiset τ → Prop
  | nil (free : Multiset τ) : Serves free [] free
  | cons {available : τ} {rest free' : Multiset τ} {booking : Booking τ}
      {bookings : List (Booking τ)} (hleast : ∀ time ∈ rest, available ≤ time)
      (hstart : booking.start = max booking.arrival available)
      (hcompletion : booking.start ≤ booking.completion)
      (hrest : Serves (booking.completion ::ₘ rest) bookings free') :
      Serves (available ::ₘ rest) (booking :: bookings) free'

/-- The event is in service at an instant. -/
def Booking.InService (booking : Booking τ) (t : τ) : Prop :=
  booking.start ≤ t ∧ t < booking.completion

instance (booking : Booking τ) (t : τ) : Decidable (booking.InService t) := by
  unfold Booking.InService
  infer_instance

/-- The events that are in service at an instant. -/
def inService (bookings : List (Booking τ)) (t : τ) : ℕ :=
  bookings.countP (fun booking => booking.InService t)

namespace Serves

variable {free middle free' : Multiset τ} {bookings later : List (Booking τ)} {m t : τ}

theorem card (h : Serves free bookings free') : free'.card = free.card := by
  induction h with
  | nil => rfl
  | cons hleast hstart hcompletion hrest ih =>
    rw [ih, Multiset.card_cons, Multiset.card_cons]

theorem arrival_le_start (h : Serves free bookings free') :
    ∀ booking ∈ bookings, booking.arrival ≤ booking.start := by
  induction h with
  | nil => simp
  | cons hleast hstart hcompletion hrest ih =>
    rw [List.forall_mem_cons]
    exact ⟨hstart ▸ le_max_left _ _, ih⟩

theorem start_le_completion (h : Serves free bookings free') :
    ∀ booking ∈ bookings, booking.start ≤ booking.completion := by
  induction h with
  | nil => simp
  | cons hleast hstart hcompletion hrest ih =>
    rw [List.forall_mem_cons]
    exact ⟨hcompletion, ih⟩

/-- The first free time never decreases. -/
theorem le_free (h : Serves free bookings free') (hm : ∀ time ∈ free, m ≤ time) :
    (∀ time ∈ free', m ≤ time) ∧ ∀ booking ∈ bookings, m ≤ booking.start := by
  induction h with
  | nil => exact ⟨hm, by simp⟩
  | cons hleast hstart hcompletion hrest ih =>
    rename_i available rest free' booking bookings
    have havailable : m ≤ available := hm available (Multiset.mem_cons_self _ _)
    have hfirst : m ≤ booking.start := havailable.trans (hstart ▸ le_max_right _ _)
    have hnext : ∀ time ∈ booking.completion ::ₘ rest, m ≤ time := by
      intro time htime
      rcases Multiset.mem_cons.mp htime with rfl | htime
      · exact hfirst.trans hcompletion
      · exact havailable.trans (hleast time htime)
    obtain ⟨hfree, hlater⟩ := ih hnext
    exact ⟨hfree, List.forall_mem_cons.mpr ⟨hfirst, hlater⟩⟩

/-- Events start in the order in which they arrive. -/
theorem starts_pairwise (h : Serves free bookings free')
    (harrivals : bookings.Pairwise fun b c => b.arrival ≤ c.arrival) :
    bookings.Pairwise fun b c => b.start ≤ c.start := by
  induction h with
  | nil => exact .nil
  | cons hleast hstart hcompletion hrest ih =>
    rename_i available rest free' booking bookings
    obtain ⟨hfirst, hlater⟩ := List.pairwise_cons.mp harrivals
    refine List.pairwise_cons.mpr ⟨fun other hother => ?_, ih hlater⟩
    have hnext : ∀ time ∈ booking.completion ::ₘ rest, available ≤ time := by
      intro time htime
      rcases Multiset.mem_cons.mp htime with rfl | htime
      · exact (hstart ▸ le_max_right _ _ : available ≤ booking.start).trans hcompletion
      · exact hleast time htime
    rw [hstart]
    exact max_le ((hfirst other hother).trans (hrest.arrival_le_start other hother))
      ((hrest.le_free hnext).2 other hother)

theorem append (h : Serves free bookings middle) (hlater : Serves middle later free') :
    Serves free (bookings ++ later) free' := by
  induction h with
  | nil => exact hlater
  | cons hleast hstart hcompletion hrest ih => exact .cons hleast hstart hcompletion (ih hlater)

theorem exists_middle (h : Serves free (bookings ++ later) free') :
    ∃ middle, Serves free bookings middle ∧ Serves middle later free' := by
  induction bookings generalizing free with
  | nil => exact ⟨free, .nil free, h⟩
  | cons booking bookings ih =>
    cases h with
    | cons hleast hstart hcompletion hrest =>
      obtain ⟨middle, hbefore, hafter⟩ := ih hrest
      exact ⟨middle, .cons hleast hstart hcompletion hbefore, hafter⟩

/-- Of the servers that are busy after an instant, each was busy before or serves an event that
    started by then. -/
theorem countP_free (h : Serves free bookings free')
    (hstarted : ∀ booking ∈ bookings, booking.start ≤ t) :
    free'.countP (fun time => t < time) =
      free.countP (fun time => t < time) +
        bookings.countP (fun booking => t < booking.completion) := by
  induction h with
  | nil => simp
  | cons hleast hstart hcompletion hrest ih =>
    rename_i available rest free' booking bookings
    obtain ⟨hfirst, hlater⟩ := List.forall_mem_cons.mp hstarted
    have havailable : ¬ t < available :=
      not_lt.mpr ((hstart ▸ le_max_right _ _ : available ≤ booking.start).trans hfirst)
    rw [ih hlater, Multiset.countP_cons, Multiset.countP_cons, List.countP_cons,
      if_neg havailable]
    simp only [decide_eq_true_eq]
    omega

/-- The events that have started by an instant, and the others. -/
theorem exists_split (hstarts : bookings.Pairwise fun b c => b.start ≤ c.start) (t : τ) :
    ∃ before after, bookings = before ++ after ∧ (∀ booking ∈ before, booking.start ≤ t) ∧
      ∀ booking ∈ after, t < booking.start := by
  induction bookings with
  | nil => exact ⟨[], [], rfl, by simp, by simp⟩
  | cons booking bookings ih =>
    obtain ⟨hfirst, hlater⟩ := List.pairwise_cons.mp hstarts
    by_cases hstarted : booking.start ≤ t
    · obtain ⟨before, after, rfl, hbefore, hafter⟩ := ih hlater
      exact ⟨booking :: before, after, rfl, List.forall_mem_cons.mpr ⟨hstarted, hbefore⟩, hafter⟩
    · refine ⟨[], booking :: bookings, rfl, by simp, ?_⟩
      rw [List.forall_mem_cons]
      exact ⟨not_le.mp hstarted, fun other hother =>
        (not_le.mp hstarted).trans_le (hfirst other hother)⟩

theorem inService_append {before after : List (Booking τ)}
    (hbefore : ∀ booking ∈ before, booking.start ≤ t)
    (hafter : ∀ booking ∈ after, t < booking.start) :
    inService (before ++ after) t = before.countP (fun booking => t < booking.completion) := by
  have hnone : after.countP (fun booking => booking.InService t) = 0 :=
    List.countP_eq_zero.mpr fun booking hbooking hcounted =>
      absurd (of_decide_eq_true hcounted).1 (not_le.mpr (hafter booking hbooking))
  rw [inService, List.countP_append, hnone, Nat.add_zero]
  apply List.countP_congr
  intro booking hbooking
  simp [Booking.InService, hbefore booking hbooking]

/-- No more events are in service than there are servers. -/
theorem inService_le (h : Serves free bookings free')
    (harrivals : bookings.Pairwise fun b c => b.arrival ≤ c.arrival) (t : τ) :
    inService bookings t ≤ free.card := by
  obtain ⟨before, after, rfl, hbefore, hafter⟩ := exists_split (h.starts_pairwise harrivals) t
  obtain ⟨middle, hrun, -⟩ := h.exists_middle
  have hcount := hrun.countP_free hbefore
  calc inService (before ++ after) t
      = before.countP (fun booking => t < booking.completion) := inService_append hbefore hafter
    _ ≤ middle.countP (fun time => t < time) := by omega
    _ ≤ middle.card := Multiset.countP_le_card _ _
    _ = free.card := hrun.card

/-- While an event waits, every server is busy. -/
theorem inService_of_waiting (h : Serves free bookings free')
    (harrivals : bookings.Pairwise fun b c => b.arrival ≤ c.arrival)
    (hidle : ∀ time ∈ free, time ≤ t) {booking : Booking τ} (hbooking : booking ∈ bookings)
    (harrived : booking.arrival ≤ t) (hwaits : t < booking.start) :
    inService bookings t = free.card := by
  obtain ⟨before, after, rfl, hbefore, hafter⟩ := exists_split (h.starts_pairwise harrivals) t
  have hlater : booking ∈ after := by
    rcases List.mem_append.mp hbooking with hmem | hmem
    · exact absurd (hbefore booking hmem) (not_le.mpr hwaits)
    · exact hmem
  obtain ⟨middle, hrun, hrest⟩ := h.exists_middle
  -- The first event that waits found the first server free after this instant.
  have hbusy : ∀ time ∈ middle, t < time := by
    cases hrest with
    | nil => cases hlater
    | cons hleast hstart hcompletion hrest =>
      rename_i available rest first others
      have hfirst : first.arrival ≤ t := by
        rcases List.mem_cons.mp hlater with rfl | hmem
        · exact harrived
        · have hpairwise := (List.pairwise_append.mp harrivals).2.1
          exact ((List.pairwise_cons.mp hpairwise).1 booking hmem).trans harrived
      have havailable : t < available := by
        have hstarts := hafter first List.mem_cons_self
        rw [hstart, lt_max_iff] at hstarts
        exact hstarts.resolve_left (not_lt.mpr hfirst)
      intro time htime
      rcases Multiset.mem_cons.mp htime with rfl | htime
      · exact havailable
      · exact havailable.trans_le (hleast time htime)
  have hfree : free.countP (fun time => t < time) = 0 :=
    Multiset.countP_eq_zero.mpr fun time htime => not_lt.mpr (hidle time htime)
  have hmiddle : middle.countP (fun time => t < time) = middle.card :=
    Multiset.countP_eq_card.mpr hbusy
  have hcount := hrun.countP_free hbefore
  rw [hfree, hmiddle, Nat.zero_add] at hcount
  rw [inService_append hbefore hafter, ← hcount, hrun.card]

end Serves

end AegisOt
