import AegisOt.Fleet.Proofs.Fcfs
import Mathlib.Order.Bounds.Basic

/-!
# The queue of the fleet model is a queue

For sorted arrivals, what `_simulate_queue` computes is a first-come, first-served queue with
as many servers as there are workers, and the depth that it reports is the greatest number of
waiting events at the instants of the arrivals.
-/

namespace AegisOt

/-- The events that have arrived at an instant and start after it. -/
def waiting (bookings : List (Booking ℤ)) (t : ℤ) : ℕ :=
  bookings.countP (fun booking => booking.arrival ≤ t ∧ t < booking.start)

theorem depthAt_eq_waiting {bookings : List (Booking ℤ)}
    (h : ∀ booking ∈ bookings, booking.arrival ≤ booking.start) (t : ℤ) :
    depthAt (bookings.map Booking.arrival) (bookings.map Booking.start) t = waiting bookings t := by
  have hcount := countP_begun h t
  have hbegun : (bookings.map Booking.arrival).countP (fun arrival => arrival ≤ t) =
      bookings.countP (fun booking => booking.arrival ≤ t) := List.countP_map
  have hended : (bookings.map Booking.start).countP (fun start => start ≤ t) =
      bookings.countP (fun booking => booking.start ≤ t) := List.countP_map
  unfold depthAt waiting
  rw [hbegun, hended, hcount]
  push_cast
  omega

/-- On ascending lists the scan reports the greatest depth at an arrival. -/
theorem isGreatest_maximumQueueDepth {bookings : List (Booking ℤ)} (hbookings : bookings ≠ [])
    (harrivals : bookings.Pairwise fun b c => b.arrival ≤ c.arrival)
    (hstarts : bookings.Pairwise fun b c => b.start ≤ c.start)
    (hwaits : ∀ booking ∈ bookings, booking.arrival ≤ booking.start) :
    IsGreatest {depth : ℤ | ∃ booking ∈ bookings, depth = waiting bookings booking.arrival}
      (maximumQueueDepth (bookings.map Booking.arrival) (bookings.map Booking.start)) := by
  obtain ⟨hnonneg, hall, hreached⟩ := scanDepth_spec (List.pairwise_map.mpr harrivals)
    (List.pairwise_map.mpr hstarts) 0 0 0 (Nat.zero_le _) (by simp)
  rw [List.drop_zero] at hall hreached
  rw [maximumQueueDepth]
  have hupper : ∀ booking ∈ bookings, (waiting bookings booking.arrival : ℤ) ≤
      scanDepth (bookings.map Booking.arrival) (bookings.map Booking.start) 0 0 0 := by
    intro booking hbooking
    rw [← depthAt_eq_waiting hwaits]
    exact hall _ (List.mem_map_of_mem hbooking)
  constructor
  · rcases hreached with hzero | ⟨arrival, harrival, hdepth⟩
    · -- Nothing waits at any arrival.
      obtain ⟨booking, hbooking⟩ := List.exists_mem_of_ne_nil bookings hbookings
      refine ⟨booking, hbooking, le_antisymm ?_ (hupper booking hbooking)⟩
      rw [hzero]
      exact Int.natCast_nonneg _
    · obtain ⟨booking, hbooking, rfl⟩ := List.mem_map.mp harrival
      refine ⟨booking, hbooking, ?_⟩
      rw [hdepth, depthAt_eq_waiting hwaits]
  · rintro depth ⟨booking, hbooking, rfl⟩
    exact hupper booking hbooking

section

variable [FleetPrimitives]

/-- The bookings that belong to the arrivals, their starts and their service times. -/
structure Booked (assumptions : FleetModelAssumptionsFields) (arrivals : List Arrival)
    (starts : List ℤ) (bookings : List (Booking ℤ)) : Prop where
  arrival_eq : bookings.map Booking.arrival = arrivals.map Arrival.arrival
  start_eq : bookings.map Booking.start = starts
  service_eq : List.Forall₂ (fun event booking =>
    serviceTime assumptions event = .ok (booking.completion - booking.start)) arrivals bookings

/-- The queue serves its events in the order of their arrivals, none before it has arrived, as
    many at once as it has workers, and lets an event wait only while every worker is busy. The
    depth that it reports is the greatest number of waiting events at an arrival. The generator
    of the arrivals makes none before the instant zero, from which on the workers are free. -/
theorem simulateQueue_fcfs (assumptions : FleetModelAssumptions) {arrivals : List Arrival}
    (hsorted : arrivals.Pairwise fun a b => a.key ≤ b.key)
    (hnonneg : ∀ event ∈ arrivals, 0 ≤ event.arrival) (harrivals : arrivals ≠ [])
    (hmaximum : (arrivals.length : ℤ) ≤ assumptions.maximumSimulatedEvents) :
    ∃ run bookings result,
      serveEvents arrivals assumptions.toFleetModelAssumptionsFields = .ok run ∧
      simulateQueue arrivals assumptions.toFleetModelAssumptionsFields = .ok result ∧
      Booked assumptions.toFleetModelAssumptionsFields arrivals run.starts bookings ∧
      run.starts.Pairwise (· ≤ ·) ∧
      (∀ booking ∈ bookings, booking.arrival ≤ booking.start) ∧
      (∀ t, (inService bookings t : ℤ) ≤ assumptions.serviceWorkerCount) ∧
      (∀ booking ∈ bookings, ∀ t, booking.arrival ≤ t → t < booking.start →
        (inService bookings t : ℤ) = assumptions.serviceWorkerCount) ∧
      IsGreatest {depth : ℤ | ∃ event ∈ arrivals, depth = waiting bookings event.arrival}
        result.modeledMaximumQueueDepthEvents := by
  have h := assumptions.spec
  obtain ⟨run, bookings, result, hrun, hserved, hresult, -, hdepth⟩ :=
    exists_simulateQueue h hsorted hnonneg harrivals hmaximum
  have hordered := hserved.arrivals_pairwise hsorted
  have hwaits := hserved.serves.arrival_le_start
  have hworkers : ((Multiset.replicate assumptions.serviceWorkerCount.toNat (0 : ℤ)).card : ℤ) =
      assumptions.serviceWorkerCount := by
    rw [Multiset.card_replicate, Int.toNat_of_nonneg]
    linarith [h.integers.serviceWorkers.1]
  have hbookings : bookings ≠ [] := by
    intro hnil
    have hlength := hserved.length_eq
    rw [hnil] at hlength
    exact harrivals (List.length_eq_zero_iff.mp hlength.symm)
  refine ⟨run, bookings, result, hrun, hresult,
    ⟨hserved.map_arrival, hserved.starts.symm,
      hserved.booked.imp fun _ _ hbooks => hbooks.service⟩,
    hserved.starts_sorted hsorted, hwaits, fun t => ?_,
    fun booking hbooking t harrived hstart => ?_, ?_⟩
  · rw [← hworkers]
    exact_mod_cast hserved.serves.inService_le hordered t
  · rw [← hworkers]
    refine congrArg _ (hserved.serves.inService_of_waiting hordered (fun time htime => ?_) hbooking
      harrived hstart)
    obtain ⟨event, hevent, hbooks⟩ := hserved.books booking hbooking
    rw [Multiset.eq_of_mem_replicate htime]
    exact (hnonneg event hevent).trans (hbooks.arrival ▸ harrived)
  · have hgreatest := isGreatest_maximumQueueDepth hbookings hordered
      (hserved.serves.starts_pairwise hordered) hwaits
    rw [hserved.map_arrival, ← hserved.starts, ← hdepth] at hgreatest
    have hset : {depth : ℤ | ∃ booking ∈ bookings, depth = waiting bookings booking.arrival} =
        {depth : ℤ | ∃ event ∈ arrivals, depth = waiting bookings event.arrival} := by
      ext depth
      have hmem (t : ℤ) : (∃ booking ∈ bookings, booking.arrival = t) ↔
          ∃ event ∈ arrivals, event.arrival = t := by
        rw [← List.mem_map, ← List.mem_map, hserved.map_arrival]
      constructor
      · rintro ⟨booking, hbooking, rfl⟩
        obtain ⟨event, hevent, harrival⟩ := (hmem _).mp ⟨booking, hbooking, rfl⟩
        exact ⟨event, hevent, by rw [harrival]⟩
      · rintro ⟨event, hevent, rfl⟩
        obtain ⟨booking, hbooking, harrival⟩ := (hmem _).mpr ⟨event, hevent, rfl⟩
        exact ⟨booking, hbooking, by rw [harrival]⟩
    rwa [hset] at hgreatest

end

namespace FleetSample

scoped instance fleetPrimitives : FleetPrimitives where
  sha256 _ := 0
  isPrintable c := decide (32 ≤ c.toNat ∧ c.toNat < 127)
  isPrintable_ascii _ hlow hhigh := decide_eq_true ⟨hlow, hhigh⟩

/-- Three events at one instant. -/
def burst : List Arrival := [⟨5, 0, 0⟩, ⟨5, 1, 0⟩, ⟨5, 2, 0⟩]

end FleetSample

section

open FleetSample

theorem simulateQueue_burst :
    ∃ run bookings result, serveEvents burst {} = .ok run ∧ simulateQueue burst {} = .ok result ∧
      Booked {} burst run.starts bookings ∧
      IsGreatest {depth : ℤ | ∃ event ∈ burst, depth = waiting bookings event.arrival}
        result.modeledMaximumQueueDepthEvents := by
  have hsorted : burst.Pairwise fun a b => a.key ≤ b.key := by decide
  obtain ⟨run, bookings, result, hrun, hresult, hbooked, -, -, -, -, hdepth⟩ :=
    simulateQueue_fcfs .default hsorted (by decide) (by decide) (by decide)
  exact ⟨run, bookings, result, hrun, hresult, hbooked, hdepth⟩

end

end AegisOt
