import AegisOt.Fleet.Proofs.Accepted
import AegisOt.Fleet.Proofs.Depth
import AegisOt.Misc.FcfsQueue
import Mathlib.Algebra.Order.BigOperators.Group.List
import Mathlib.Data.Multiset.Replicate

/-!
# The queue serves first come, first served

The heap of workers is the pool of servers of the general queue: a pass of the loop over the
arrivals is one of its steps. What holds of every such queue holds of the starts that
`_simulate_queue` computes, and nothing in it raises.
-/

namespace AegisOt

/-! ## The heap -/

theorem heappush_perm (heap : List ℤ) (item : ℤ) : (heappush heap item).Perm (item :: heap) :=
  List.perm_orderedInsert _ item heap

theorem heappush_pairwise {heap : List ℤ} (h : heap.Pairwise (· ≤ ·)) (item : ℤ) :
    (heappush heap item).Pairwise (· ≤ ·) := by
  unfold heappush
  exact List.Pairwise.orderedInsert item heap h

/-! ## Percentiles -/

theorem exists_nearestRankPercentile {values : List ℤ} (hvalues : values ≠ []) {percentile : ℤ}
    (hlow : 1 ≤ percentile) (hhigh : percentile ≤ 100) :
    ∃ value, nearestRankPercentile values percentile = .ok value := by
  have hlength : (1 : ℤ) ≤ values.length := by
    exact_mod_cast List.length_pos_iff.mpr hvalues
  have hpositive : 0 < -(-(percentile * values.length) / 100) :=
    ceil_pos (by norm_num) (by nlinarith)
  have hrank : -(-(percentile * values.length) / 100) ≤ values.length := by
    rw [neg_le, Int.le_ediv_iff_mul_le (by norm_num)]
    nlinarith
  rw [nearestRankPercentile, refuseIf_neg hvalues, ok_bind,
    refuseIf_neg (not_not.mpr ⟨hlow, hhigh⟩), ok_bind, ceilDiv_eq_ok (by norm_num), ok_bind]
  have hindex : (-(-(percentile * values.length) / 100) - 1).toNat < values.length := by omega
  rw [List.getElem?_eq_getElem hindex]
  exact ⟨_, rfl⟩

theorem exists_maximum {values : List ℤ} (h : values ≠ []) :
    ∃ value, maximum values = .ok value := by
  obtain ⟨value, hvalue⟩ := Option.isSome_iff_exists.mp (List.isSome_max?_of_ne_nil h)
  exact ⟨value, by rw [maximum, hvalue]; rfl⟩

section

variable [FleetPrimitives] {assumptions : FleetModelAssumptionsFields} {arrivals : List Arrival}
  {run run' : QueueRun} {bookings : List (Booking ℤ)}

/-! ## How long an event waits -/

omit [FleetPrimitives] in
/-- A server is free when the events that it can have served are over. -/
theorem Serves.free_le {free free' : Multiset ℤ} {m longest : ℤ}
    (h : Serves free bookings free') (hlongest : 0 ≤ longest) (hfree : ∀ time ∈ free, time ≤ m)
    (harrivals : ∀ booking ∈ bookings, booking.arrival ≤ m)
    (hservice : ∀ booking ∈ bookings, booking.completion ≤ booking.start + longest) :
    ∀ time ∈ free', time ≤ m + bookings.length * longest := by
  induction h generalizing m with
  | nil => simpa using hfree
  | cons hleast hstart hcompletion hrest ih =>
    rename_i available rest free' booking bookings
    obtain ⟨harrival, harrivals⟩ := List.forall_mem_cons.mp harrivals
    obtain ⟨hlast, hservice⟩ := List.forall_mem_cons.mp hservice
    have hfirst : booking.start ≤ m := by
      rw [hstart]
      exact max_le harrival (hfree available (Multiset.mem_cons_self _ _))
    have hnext : ∀ time ∈ booking.completion ::ₘ rest, time ≤ m + longest := by
      intro time htime
      rcases Multiset.mem_cons.mp htime with rfl | htime
      · exact hlast.trans (by omega)
      · exact (hfree time (Multiset.mem_cons_of_mem htime)).trans (by omega)
    intro time htime
    have hle := ih hnext (fun other hother => (harrivals other hother).trans (by omega))
      hservice time htime
    rw [List.length_cons]
    push_cast
    linarith

omit [FleetPrimitives] in
/-- An event waits for the events before it at most. -/
theorem Serves.wait_le {free free' : Multiset ℤ} {longest : ℤ}
    (h : Serves free bookings free') (hlongest : 0 ≤ longest)
    (harrivals : bookings.Pairwise fun b c => b.arrival ≤ c.arrival)
    (hfree : ∀ time ∈ free, ∀ booking ∈ bookings, time ≤ booking.arrival)
    (hservice : ∀ booking ∈ bookings, booking.completion ≤ booking.start + longest) :
    ∀ booking ∈ bookings, booking.start - booking.arrival ≤ bookings.length * longest := by
  intro booking hbooking
  obtain ⟨before, after, rfl⟩ := List.append_of_mem hbooking
  obtain ⟨middle, hrun, hrest⟩ := h.exists_middle
  have hmiddle := hrun.free_le hlongest (fun time htime => hfree time htime booking hbooking)
    (fun other hother => (List.pairwise_append.mp harrivals).2.2 other hother booking
      List.mem_cons_self)
    (fun other hother => hservice other (List.mem_append_left _ hother))
  have hcount : ((before.length : ℕ) : ℤ) * longest ≤
      ((before ++ booking :: after).length : ℕ) * longest := by
    refine mul_le_mul_of_nonneg_right ?_ hlongest
    rw [List.length_append]
    push_cast
    omega
  have hnonneg : 0 ≤ ((before.length : ℕ) : ℤ) * longest := by positivity
  cases hrest with
  | cons hleast hstart hcompletion hrest =>
    rename_i available rest
    have havailable := hmiddle available (Multiset.mem_cons_self _ _)
    have hwait : booking.start ≤ booking.arrival + before.length * longest := by
      rw [hstart]
      exact max_le (by omega) havailable
    linarith

/-! ## One event -/

/-- The longest service time. -/
theorem exists_serviceTime (h : assumptions.Accepted) (event : Arrival) :
    ∃ service, serviceTime assumptions event = .ok service ∧ 0 ≤ service ∧
      service ≤ 10000000 := by
  have hspan : 0 < serviceSpan assumptions := by
    have htimes := h.serviceTimes
    unfold serviceSpan
    omega
  obtain ⟨offset, hoffset, hlow, hhigh⟩ := exists_deterministicOffset assumptions.seed
    "queue-service-v1" [event.agentIndex, event.eventOrdinal] hspan
  refine ⟨assumptions.serviceTimeMinMicroseconds + offset, ?_, ?_, ?_⟩
  · rw [serviceTime, hoffset, ok_bind]
  · linarith [h.integers.serviceMin.1]
  · have hmax := h.integers.serviceMax.2
    unfold serviceSpan at hhigh
    omega

/-- How a booking stands for an event. -/
structure Books (assumptions : FleetModelAssumptionsFields) (event : Arrival)
    (booking : Booking ℤ) : Prop where
  arrival : booking.arrival = event.arrival
  service : serviceTime assumptions event = .ok (booking.completion - booking.start)
  nonneg : booking.start ≤ booking.completion
  bounded : booking.completion ≤ booking.start + 10000000

/-- What the variables of the loop are after the events that were served. -/
structure QueueRun.Served (assumptions : FleetModelAssumptionsFields) (events : List Arrival)
    (bookings : List (Booking ℤ)) (run : QueueRun) : Prop where
  serves : Serves (Multiset.replicate assumptions.serviceWorkerCount.toNat 0) bookings
    (run.workers : Multiset ℤ)
  workers : run.workers.Pairwise (· ≤ ·)
  booked : List.Forall₂ (Books assumptions) events bookings
  starts : run.starts = bookings.map Booking.start
  delays : run.delays = bookings.map fun booking => booking.start - booking.arrival
  total : run.totalServiceMicroseconds =
    (bookings.map fun booking => booking.completion - booking.start).sum

/-- One pass of the loop is one step of the queue. -/
theorem QueueRun.Served.serveEvent (h : assumptions.Accepted) {events : List Arrival}
    (hserved : run.Served assumptions events bookings) (event : Arrival) :
    ∃ booking run', AegisOt.serveEvent assumptions run event = .ok run' ∧
      run'.Served assumptions (events ++ [event]) (bookings ++ [booking]) := by
  obtain ⟨service, hservice, hnonneg, hbounded⟩ := exists_serviceTime h event
  have hcard : run.workers.length = assumptions.serviceWorkerCount.toNat := by
    have hcard := hserved.serves.card
    rwa [Multiset.coe_card, Multiset.card_replicate] at hcard
  have hpositive := h.integers.serviceWorkers.1
  cases hworkers : run.workers with
  | nil =>
    rw [hworkers, List.length_nil] at hcard
    omega
  | cons available rest =>
    have hsorted := hserved.workers
    rw [hworkers] at hsorted
    obtain ⟨hleast, hrest⟩ := List.pairwise_cons.mp hsorted
    let start := max event.arrival available
    let booking : Booking ℤ := ⟨event.arrival, start, start + service⟩
    have hcompletion : booking.start ≤ booking.completion := le_add_of_nonneg_right hnonneg
    have hevent : AegisOt.serveEvent assumptions run event = .ok
        ⟨heappush rest (start + service), run.delays ++ [start - event.arrival],
          run.starts ++ [start], run.totalServiceMicroseconds + service,
          run.trace ++ [event.text ++ "," ++ toString start ++ "," ++
            toString (start + service) ++ "\n"]⟩ := by
      rw [AegisOt.serveEvent, hworkers, heappop, ok_bind]
      dsimp only
      rw [hservice, ok_bind]
    have hstep : Serves (run.workers : Multiset ℤ) [booking]
        (heappush rest (start + service) : Multiset ℤ) := by
      rw [hworkers, Multiset.coe_eq_coe.mpr (heappush_perm _ _), ← Multiset.cons_coe,
        ← Multiset.cons_coe]
      exact .cons (fun time htime => hleast time (Multiset.mem_coe.mp htime)) rfl hcompletion
        (.nil _)
    have hbooks : Books assumptions event booking := {
      arrival := rfl
      service := by rw [hservice, add_sub_cancel_left]
      nonneg := hcompletion
      bounded := add_le_add_right hbounded _ }
    exact ⟨booking, _, hevent, {
      serves := hserved.serves.append hstep
      workers := heappush_pairwise hrest _
      booked := List.rel_append hserved.booked (.cons hbooks .nil)
      starts := by rw [hserved.starts, List.map_append, List.map_singleton]
      delays := by rw [hserved.delays, List.map_append, List.map_singleton]
      total := by
        rw [hserved.total, List.map_append, List.sum_append, List.map_singleton,
          List.sum_singleton, add_sub_cancel_left] }⟩

/-- The loop over the arrivals is a run of the queue. -/
theorem exists_serveEvents (h : assumptions.Accepted) (arrivals : List Arrival) :
    ∃ run bookings, serveEvents arrivals assumptions = .ok run ∧
      run.Served assumptions arrivals bookings := by
  have hstart : QueueRun.Served assumptions [] []
      ⟨List.replicate assumptions.serviceWorkerCount.toNat 0, [], [], 0, []⟩ := {
    serves := by
      rw [Multiset.coe_replicate]
      exact .nil _
    workers := List.pairwise_replicate.mpr (.inr le_rfl)
    booked := .nil
    starts := rfl
    delays := rfl
    total := rfl }
  obtain ⟨run, hrun, bookings, hserved⟩ : ∃ run, serveEvents arrivals assumptions = .ok run ∧
      ∃ bookings, run.Served assumptions arrivals bookings := by
    refine foldlM_ok (P := fun events (run : QueueRun) =>
      ∃ bookings, run.Served assumptions events bookings) ⟨[], hstart⟩ ?_
    rintro events event rest run - ⟨bookings, hserved⟩
    obtain ⟨booking, run', hevent, hserved'⟩ := hserved.serveEvent h event
    exact ⟨run', hevent, _, hserved'⟩
  exact ⟨run, bookings, hrun, hserved⟩

/-! ## What the loop computes -/

namespace QueueRun.Served

variable {events : List Arrival}

theorem map_arrival (h : run.Served assumptions events bookings) :
    bookings.map Booking.arrival = events.map Arrival.arrival := by
  have hbooked := h.booked
  clear h
  induction hbooked with
  | nil => rfl
  | cons hbooks _ ih => rw [List.map_cons, List.map_cons, hbooks.arrival, ih]

theorem arrivals_pairwise (h : run.Served assumptions events bookings)
    (hsorted : events.Pairwise fun a b => a.key ≤ b.key) :
    bookings.Pairwise fun b c => b.arrival ≤ c.arrival := by
  have hevents : (events.map Arrival.arrival).Pairwise (· ≤ ·) := by
    refine List.pairwise_map.mpr (hsorted.imp fun {a b} hab => ?_)
    exact Prod.Lex.monotone_fst _ _ hab
  rw [← h.map_arrival] at hevents
  exact List.pairwise_map.mp hevents

theorem books (h : run.Served assumptions events bookings) :
    ∀ booking ∈ bookings, ∃ event ∈ events, Books assumptions event booking := by
  intro booking hbooking
  obtain ⟨event, hevent, hbooks⟩ := exists_mem_of_forall₂ h.booked hbooking
  exact ⟨event, hevent, hbooks⟩

theorem length_eq (h : run.Served assumptions events bookings) :
    bookings.length = events.length := h.booked.length_eq.symm

theorem starts_sorted (h : run.Served assumptions events bookings)
    (hsorted : events.Pairwise fun a b => a.key ≤ b.key) : run.starts.Pairwise (· ≤ ·) := by
  rw [h.starts]
  exact List.pairwise_map.mpr (h.serves.starts_pairwise (h.arrivals_pairwise hsorted))

/-- The delays are not negative, and an event waits for the others at most. -/
theorem delay_mem (h : run.Served assumptions events bookings)
    (hsorted : events.Pairwise fun a b => a.key ≤ b.key)
    (hnonneg : ∀ event ∈ events, 0 ≤ event.arrival) :
    ∀ delay ∈ run.delays, 0 ≤ delay ∧ delay ≤ events.length * 10000000 := by
  intro delay hdelay
  rw [h.delays] at hdelay
  obtain ⟨booking, hbooking, rfl⟩ := List.mem_map.mp hdelay
  refine ⟨sub_nonneg.mpr (h.serves.arrival_le_start booking hbooking), ?_⟩
  rw [← h.length_eq]
  refine h.serves.wait_le (by norm_num) (h.arrivals_pairwise hsorted) (fun time htime => ?_)
    (fun other hother => ?_) booking hbooking
  · intro other hother
    obtain ⟨event, hevent, hbooks⟩ := h.books other hother
    rw [Multiset.eq_of_mem_replicate htime, hbooks.arrival]
    exact hnonneg event hevent
  · obtain ⟨event, -, hbooks⟩ := h.books other hother
    exact hbooks.bounded

theorem total_mem (h : run.Served assumptions events bookings) :
    0 ≤ run.totalServiceMicroseconds ∧
      run.totalServiceMicroseconds ≤ events.length * 10000000 := by
  have hservices : ∀ service ∈ bookings.map fun booking => booking.completion - booking.start,
      0 ≤ service ∧ service ≤ 10000000 := by
    intro service hservice
    obtain ⟨booking, hbooking, rfl⟩ := List.mem_map.mp hservice
    obtain ⟨event, -, hbooks⟩ := h.books booking hbooking
    have hstart := hbooks.nonneg
    have hend := hbooks.bounded
    omega
  rw [h.total, ← h.length_eq]
  refine ⟨List.sum_nonneg fun service hservice => (hservices service hservice).1, ?_⟩
  have hsum := List.sum_le_card_nsmul _ 10000000 fun service hservice =>
    (hservices service hservice).2
  rwa [List.length_map, nsmul_eq_mul] at hsum

theorem workers_ne_nil (h : run.Served assumptions events bookings)
    (haccepted : assumptions.Accepted) : run.workers ≠ [] := by
  have hcard := h.serves.card
  rw [Multiset.coe_card, Multiset.card_replicate] at hcard
  have hpositive := haccepted.integers.serviceWorkers.1
  intro hnil
  rw [hnil, List.length_nil] at hcard
  omega

end QueueRun.Served

/-! ## The result -/

/-- The queue returns for every list of arrivals that it admits. -/
theorem exists_simulateQueue (h : assumptions.Accepted)
    (hsorted : arrivals.Pairwise fun a b => a.key ≤ b.key)
    (hnonneg : ∀ event ∈ arrivals, 0 ≤ event.arrival) (harrivals : arrivals ≠ [])
    (hmaximum : (arrivals.length : ℤ) ≤ assumptions.maximumSimulatedEvents) :
    ∃ run bookings result, serveEvents arrivals assumptions = .ok run ∧
      run.Served assumptions arrivals bookings ∧
      simulateQueue arrivals assumptions = .ok result ∧
      result.generatedEvents = arrivals.length ∧
      result.modeledMaximumQueueDepthEvents =
        maximumQueueDepth (arrivals.map Arrival.arrival) run.starts := by
  obtain ⟨run, bookings, hrun, hserved⟩ := exists_serveEvents h arrivals
  have hlength : (1 : ℤ) ≤ arrivals.length := by
    exact_mod_cast List.length_pos_iff.mpr harrivals
  have hcount : (arrivals.length : ℤ) ≤ 250000 :=
    hmaximum.trans h.integers.maximumSimulatedEvents.2
  have hadmitted : ¬ ((arrivals.length : ℤ) ≤ 0 ∨
      assumptions.maximumSimulatedEvents < arrivals.length) := by omega
  have hdelayCount : run.delays.length = arrivals.length := by
    rw [hserved.delays, List.length_map, hserved.length_eq]
  have hdelays : sortedBy id run.delays ≠ [] := by
    rw [← List.length_pos_iff, length_sortedBy, hdelayCount]
    exact List.length_pos_iff.mpr harrivals
  have hmem := hserved.delay_mem hsorted hnonneg
  obtain ⟨htotal, htotalBound⟩ := hserved.total_mem
  obtain ⟨last, hlast⟩ := exists_maximum (hserved.workers_ne_nil h)
  obtain ⟨p95, hp95⟩ : ∃ p95, nearestRankPercentile (sortedBy id run.delays) 95 = .ok p95 :=
    exists_nearestRankPercentile hdelays (by norm_num) (by norm_num)
  obtain ⟨maximumDelay, hmaximumDelay⟩ :
      ∃ delay, (sortedBy id run.delays).getLast? = some delay :=
    ⟨_, List.getLast?_eq_some_getLast hdelays⟩
  have hhorizon : (1000000 : ℤ) ≤ max assumptions.horizonMicroseconds last := by
    have hseconds := h.integers.horizonSeconds.1
    refine le_max_of_le_left ?_
    unfold FleetModelAssumptionsFields.horizonMicroseconds microsecondsPerSecond
    omega
  generalize hwindow : max assumptions.horizonMicroseconds last = window at hhorizon
  have hwindowPos : (0 : ℚ) < window := by exact_mod_cast (by omega : 0 < window)
  have hcountPos : (0 : ℚ) < (arrivals.length : ℤ) := by exact_mod_cast hlength
  have hcapacity : 0 < assumptions.serviceWorkerCount * window :=
    mul_pos (by linarith [h.integers.serviceWorkers.1]) (by omega)
  have hthroughput := quantize_ratio (arrivals.length * microsecondsPerSecond) window 250000
    (by unfold microsecondsPerSecond; omega) (by omega)
    (by unfold microsecondsPerSecond; nlinarith) (by norm_num)
  have hdelaySum : 0 ≤ run.delays.sum ∧
      run.delays.sum ≤ arrivals.length * (arrivals.length * 10000000) := by
    refine ⟨List.sum_nonneg fun delay hdelay => (hmem delay hdelay).1, ?_⟩
    have hsum := List.sum_le_card_nsmul _ _ fun delay hdelay => (hmem delay hdelay).2
    rwa [hdelayCount, nsmul_eq_mul] at hsum
  have hmean := quantize_ratio run.delays.sum arrivals.length (250000 * 10000000) hdelaySum.1
    (by omega) (by nlinarith [hdelaySum.2]) (by norm_num)
  have hutilization := quantize_ratio (run.totalServiceMicroseconds * 100)
    (assumptions.serviceWorkerCount * window) (250000 * 10000000 * 100) (by omega) hcapacity
    (by nlinarith) (by norm_num)
  refine ⟨run, bookings, ?_⟩
  rw [simulateQueue]
  dsimp only
  rw [refuseIf_neg hadmitted, ok_bind, hrun, ok_bind, hlast, ok_bind, hwindow,
    divide_eq_ok hwindowPos, ok_bind, hthroughput, ok_bind, divide_eq_ok hcountPos, ok_bind,
    hmean, ok_bind, divide_eq_ok (by exact_mod_cast hcapacity), ok_bind, hutilization, ok_bind,
    hp95, ok_bind, hmaximumDelay, orRaise, ok_bind]
  exact ⟨_, rfl, hserved, rfl, rfl, rfl⟩

end

end AegisOt
