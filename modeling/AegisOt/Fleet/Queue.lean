import AegisOt.Fleet.Assumptions
import AegisOt.Misc.Bisect
import Mathlib.Data.List.Sort
import Mathlib.Data.Prod.Lex

/-!
# The queue of the fleet model

`_generate_event_arrivals` and `_simulate_queue` of `m6_fleet.py`: the seeded arrivals of every
logical agent, the workers in a heap of the times at which they are free, and the scan of the
queue's depth with one cursor over the arrivals and one over the starts.
-/

namespace AegisOt

/-! ## Lists of the language -/

/-- `range(stop)`. -/
def rangeTo (stop : ℤ) : List ℤ := (List.range stop.toNat).map Int.ofNat

/-- `//` of two integers. -/
def floorDivide (dividend divisor : ℤ) : Except FleetError ℤ := do
  refuseIf (divisor = 0) .zeroDivision
  .ok (dividend.fdiv divisor)

/-- `max(values)`. -/
def maximum (values : List ℤ) : Except FleetError ℤ :=
  orRaise values.max? (.valueError "max() iterable argument is empty")

/-- `heapq.heappop`. A heap stands for its items in ascending order. -/
def heappop : List ℤ → Except FleetError (ℤ × List ℤ)
  | [] => .error .indexError
  | least :: rest => .ok (least, rest)

/-- `heapq.heappush`. -/
def heappush (heap : List ℤ) (item : ℤ) : List ℤ := heap.orderedInsert (· ≤ ·) item

/-- `_nearest_rank_percentile`. -/
def nearestRankPercentile (sortedValues : List ℤ) (percentile : ℤ) : Except FleetError ℤ := do
  refuseIf (sortedValues = []) (.valueError "percentile requires at least one value")
  refuseIf (¬ (1 ≤ percentile ∧ percentile ≤ 100))
    (.valueError "percentile must be between 1 and 100")
  let rank ← ceilDiv (percentile * sortedValues.length) 100
  orRaise sortedValues[(rank - 1).toNat]? .indexError

/-! ## Arrivals -/

/-- One generated event, a tuple `(arrival, agent_index, event_ordinal)`. -/
structure Arrival where
  arrival : ℤ
  agentIndex : ℤ
  eventOrdinal : ℤ
  deriving DecidableEq, Repr

namespace Arrival

/-- The order of tuples. -/
def key (event : Arrival) : ℤ ×ₗ ℤ ×ₗ ℤ :=
  toLex (event.arrival, toLex (event.agentIndex, event.eventOrdinal))

/-- The agent and the ordinal, by which dictionaries know an event. -/
def identity (event : Arrival) : ℤ ×ₗ ℤ := toLex (event.agentIndex, event.eventOrdinal)

/-- The spelling of an event in a trace. -/
def text (event : Arrival) : String :=
  toString event.arrival ++ "," ++ toString event.agentIndex ++ "," ++
    toString event.eventOrdinal

end Arrival

section

variable [FleetPrimitives]

/-- `_generate_event_arrivals`. -/
def generateEventArrivals (logicalAgents : ℤ) (assumptions : FleetModelAssumptionsFields) :
    Except FleetError (List Arrival) := do
  let eventCount := logicalAgents * assumptions.eventsPerLogicalAgentPerHorizon
  refuseIf (assumptions.maximumSimulatedEvents < eventCount)
    (.valueError "requested fleet exceeds the configured simulated-event bound")
  let interval ← floorDivide assumptions.horizonMicroseconds
    assumptions.eventsPerLogicalAgentPerHorizon
  let arrivals ← (rangeTo assumptions.eventsPerLogicalAgentPerHorizon).mapM fun eventOrdinal =>
    (rangeTo logicalAgents).mapM fun agentIndex => do
      let jitter ← deterministicOffset assumptions.seed "queue-arrival-v1"
        [agentIndex, eventOrdinal] assumptions.arrivalJitterWindowMicroseconds
      .ok (⟨eventOrdinal * interval + jitter, agentIndex, eventOrdinal⟩ : Arrival)
  .ok (sortedBy Arrival.key arrivals.flatten)

/-! ## The queue -/

/-- The variables of the loop over the arrivals. -/
structure QueueRun where
  workers : List ℤ
  delays : List ℤ
  starts : List ℤ
  totalServiceMicroseconds : ℤ
  trace : List String

/-- `service_span`. -/
def serviceSpan (assumptions : FleetModelAssumptionsFields) : ℤ :=
  assumptions.serviceTimeMaxMicroseconds - assumptions.serviceTimeMinMicroseconds + 1

/-- The service time of an event. -/
def serviceTime (assumptions : FleetModelAssumptionsFields) (event : Arrival) :
    Except FleetError ℤ := do
  let offset ← deterministicOffset assumptions.seed "queue-service-v1"
    [event.agentIndex, event.eventOrdinal] (serviceSpan assumptions)
  .ok (assumptions.serviceTimeMinMicroseconds + offset)

/-- One pass of the loop over the arrivals. -/
def serveEvent (assumptions : FleetModelAssumptionsFields) (run : QueueRun) (event : Arrival) :
    Except FleetError QueueRun := do
  let (available, workers) ← heappop run.workers
  let start := max event.arrival available
  let delay := start - event.arrival
  let service ← serviceTime assumptions event
  let completion := start + service
  .ok {
    workers := heappush workers completion
    delays := run.delays ++ [delay]
    starts := run.starts ++ [start]
    totalServiceMicroseconds := run.totalServiceMicroseconds + service
    trace := run.trace ++ [event.text ++ "," ++ toString start ++ "," ++ toString completion ++
      "\n"] }

/-- The loop over the arrivals. -/
def serveEvents (arrivals : List Arrival) (assumptions : FleetModelAssumptionsFields) :
    Except FleetError QueueRun :=
  arrivals.foldlM (serveEvent assumptions)
    ⟨List.replicate assumptions.serviceWorkerCount.toNat 0, [], [], 0, []⟩

/-- `while cursor < len(values) and condition(values[cursor]): cursor += 1`. -/
def passWhile (condition : ℤ → Bool) (values : List ℤ) (cursor : ℕ) : ℕ :=
  match hvalue : values[cursor]? with
  | none => cursor
  | some value =>
      if condition value = true then passWhile condition values (cursor + 1) else cursor
termination_by values.length - cursor
decreasing_by
  have hcursor := (List.getElem?_eq_some_iff.mp hvalue).1
  omega

omit [FleetPrimitives] in
theorem le_passWhile (condition : ℤ → Bool) (values : List ℤ) (cursor : ℕ) :
    cursor ≤ passWhile condition values cursor := by
  fun_induction passWhile condition values cursor with
  | case1 cursor hvalue => exact le_rfl
  | case2 cursor value hvalue hcondition ih => omega
  | case3 cursor value hvalue hcondition => exact le_rfl

/-- The scan of the depth from its two cursors on. -/
def scanDepth (arrivals starts : List ℤ) (arrivalCursor startCursor : ℕ) (maximum : ℤ) : ℤ :=
  match hvalue : arrivals[arrivalCursor]? with
  | none => maximum
  | some timestamp =>
      let arrived := passWhile (fun arrival => arrival = timestamp) arrivals arrivalCursor
      let started := passWhile (fun start => start ≤ timestamp) starts startCursor
      scanDepth arrivals starts arrived started (max maximum (arrived - started))
termination_by arrivals.length - arrivalCursor
decreasing_by
  have hcursor := (List.getElem?_eq_some_iff.mp hvalue).1
  have hpass : arrivalCursor <
      passWhile (fun arrival => arrival = timestamp) arrivals arrivalCursor := by
    rw [passWhile, hvalue]
    simpa using Nat.lt_of_succ_le (le_passWhile _ arrivals (arrivalCursor + 1))
  omega

/-- `maximum_queue_depth`. -/
def maximumQueueDepth (arrivals starts : List ℤ) : ℤ := scanDepth arrivals starts 0 0 0

/-- `QueueModelResult`. -/
structure QueueModelResult where
  generatedEvents : ℤ
  completedEvents : ℤ
  modeledThroughputEventsPerSecond : ℚ
  modeledMeanQueueDelayMicroseconds : ℚ
  modeledP95QueueDelayMicroseconds : ℤ
  modeledMaximumQueueDelayMicroseconds : ℤ
  modeledMaximumQueueDepthEvents : ℤ
  modeledServiceUtilizationPercent : ℚ
  completionWindowMicroseconds : ℤ
  eventTraceSha256 : String

/-- `_simulate_queue`. -/
def simulateQueue (arrivals : List Arrival) (assumptions : FleetModelAssumptionsFields) :
    Except FleetError QueueModelResult := do
  let eventCount : ℤ := arrivals.length
  refuseIf (eventCount ≤ 0 ∨ assumptions.maximumSimulatedEvents < eventCount)
    (.valueError "queue input is outside the configured simulated-event bound")
  let run ← serveEvents arrivals assumptions
  let depth := maximumQueueDepth (arrivals.map Arrival.arrival) run.starts
  let lastWorker ← maximum run.workers
  let completionWindow := max assumptions.horizonMicroseconds lastWorker
  let sortedDelays := sortedBy id run.delays
  let throughput ← divide (eventCount * microsecondsPerSecond : ℤ) completionWindow
  let throughput ← quantize throughput
  let meanDelay ← divide run.delays.sum eventCount
  let meanDelay ← quantize meanDelay
  let utilization ← divide (run.totalServiceMicroseconds * 100 : ℤ)
    (assumptions.serviceWorkerCount * completionWindow : ℤ)
  let utilization ← quantize utilization
  let p95 ← nearestRankPercentile sortedDelays 95
  let maximumDelay ← orRaise sortedDelays.getLast? .indexError
  .ok {
    generatedEvents := eventCount
    completedEvents := eventCount
    modeledThroughputEventsPerSecond := throughput
    modeledMeanQueueDelayMicroseconds := meanDelay
    modeledP95QueueDelayMicroseconds := p95
    modeledMaximumQueueDelayMicroseconds := maximumDelay
    modeledMaximumQueueDepthEvents := depth
    modeledServiceUtilizationPercent := utilization
    completionWindowMicroseconds := completionWindow
    eventTraceSha256 := traceSha256 run.trace }

end

end AegisOt
