import Mathlib.Algebra.Ring.Rat
import Mathlib.Data.List.Dedup
import Mathlib.Data.String.Basic
import Fdai.OntologyPlatform.RollupFacts
import Fdai.Sequences.Summaries

/-!
# Temporal rollups

The statistics of a rollup that depend on the order of the observations: the growth of a counter, the
runs of a state, the extrema with their observations, the time that is covered.

* `Sample` — an observation, with its times as text.
* `observe` — one sample more; `buildTemporal` — the summary of a window.
* `mergeFacts` — one summary more; `mergeTemporal` — the summary of adjacent windows.

Times are compared as the texts that they are printed as. A decimal text is kept as the number it
stands for: `_decimal` prints it, and it is read back, without rounding.
-/

namespace Fdai.Core.OntologyPlatform

open Sequences

/-- The value of a sample: the text of a decimal, or another text. -/
inductive SampleValue where
  | number (value : ℚ)
  | text (value : String)
  deriving DecidableEq

def RollupValue.sampled : RollupValue → SampleValue
  | .number value => .number value
  | .category value => .text value
  | .change value => .text value.value
  | .health value => .text value.value

/-- `Decimal(value)`: the policies that read numbers have observations with numbers. -/
def SampleValue.decimal : SampleValue → Except String ℚ
  | .number value => .ok value
  | .text _ => .error "invalid decimal"

structure Sample where
  observationId : String
  value : SampleValue
  intervalStart : String
  intervalEnd : String
  effectiveAt : String
  eventAt : Option String
  generationRef : String
  sourceRevision : String
  recordedAt : String
  complete : Bool
  conflictCount : ℤ

def RollupObservationFields.sample (item : RollupObservationFields) : Sample where
  observationId := item.observationId
  value := item.value.sampled
  intervalStart := isoformat item.intervalStart
  intervalEnd := isoformat item.intervalEnd
  effectiveAt := isoformat item.effectiveAt
  eventAt := item.eventAt.map isoformat
  generationRef := item.generationRef
  sourceRevision := item.sourceRevision
  recordedAt := isoformat item.recordedAt
  complete := item.complete
  conflictCount := item.conflictCount

def Sample.time (sample : Sample) : String := sample.eventAt.getD sample.effectiveAt

def seconds (start finish : String) : ℚ := (fromIsoformat finish - fromIsoformat start : ℤ) / 1000000

structure PolicyBinding where
  version : ℕ := 1
  statistics : List RollupStatistic
  expectedIntervalSeconds : ℤ
  deriving DecidableEq

def binding (policy : RollupPolicyFields) : PolicyBinding where
  statistics := policy.statistics.insertionSort (·.value ≤ ·.value)
  expectedIntervalSeconds := policy.expectedIntervalSeconds

structure CounterEdge where
  before : Sample
  after : Sample
  reason : Option String := none

structure CounterSummary where
  knownDelta : ℚ := 0
  resets : List CounterEdge := []
  unresolved : List CounterEdge := []

structure StateRun where
  value : SampleValue
  first : Sample
  last : Sample
  count : ℕ
  observedIntervalSeconds : ℚ
  sourceRevisionOrder : List String

/-- The extrema, by their names. -/
structure Extrema where
  minimum : Option Sample := none
  maximum : Option Sample := none

/-- The part of a `TemporalSummary` that is kept sample by sample. -/
structure TemporalFacts where
  first : Option Sample := none
  last : Option Sample := none
  coverage : List (String × String) := []
  counterDelta : Option CounterSummary := none
  timeline : Option (List StateRun) := none
  extrema : Option Extrema := none

structure Transition where
  fromState : SampleValue
  toState : SampleValue
  afterObservedAt : String
  byObservedAt : String
  exactTransitionTimeAvailable : Bool := false
  evidenceStatus : String

/-- `TemporalSummary`: the facts, and what `_finish` adds to them. -/
structure TemporalSummary where
  policy : PolicyBinding
  source : Option (String × String)
  timeBasis : Option String
  facts : TemporalFacts
  gaps : List (String × String)
  observedIntervalSeconds : ℚ
  resetCount : Option ℕ
  unresolvedStepCount : Option ℕ
  knownAtReconstruction : Option String
  transitions : Option (List Transition)

/-! ## One sample more -/

section

variable (policy : RollupPolicyFields)

def validatePair (prior current : Sample) : Except String Unit :=
  if current.intervalStart < prior.intervalEnd then
    .error "temporal observation intervals MUST NOT overlap"
  else if current.time ≤ prior.time ∨ current.effectiveAt ≤ prior.effectiveAt then
    .error "temporal observation order is ambiguous or contradictory"
  else .ok ()

/-- Whether a sample is incomplete or in conflict. -/
def Sample.doubtful (sample : Sample) : Bool := !sample.complete || sample.conflictCount ≠ 0

/-- Why a step of a counter is not resolved. -/
def unresolvedReason (prior current : Sample) : Option String :=
  if current.intervalStart ≠ prior.intervalEnd ∨
      policy.expectedIntervalSeconds < seconds prior.time current.time then
    some "missing_interval"
  else if current.generationRef ≠ prior.generationRef then some "generation_boundary"
  else if prior.doubtful || current.doubtful then some "incomplete_or_conflicting"
  else none

def counterPair (prior current : Sample) (counter : CounterSummary) :
    Except String CounterSummary :=
  match unresolvedReason policy prior current with
  | some reason => .ok
      { counter with unresolved := counter.unresolved ++ [⟨prior, current, some reason⟩] }
  | none => do
    let now ← current.value.decimal
    let before ← prior.value.decimal
    if now < before then
      return { counter with resets := counter.resets ++ [⟨prior, current, none⟩] }
    else return { counter with knownDelta := counter.knownDelta + now - before }

/-- Whether a covered time goes on with an interval. -/
def touches (covered interval : String × String) : Bool := interval.1 = covered.2

def cover (coverage : List (String × String)) (interval : String × String) :
    List (String × String) :=
  appendRun touches (fun covered interval => (covered.1, interval.2)) coverage interval

/-- Whether a run goes on with a run. -/
def StateRun.joins (last run : StateRun) : Bool :=
  policy.selects .stateTimeline && last.value = run.value &&
    last.last.intervalEnd = run.first.intervalStart &&
    last.last.generationRef = run.first.generationRef &&
    seconds last.last.time run.first.time ≤ policy.expectedIntervalSeconds &&
    !last.last.doubtful && !run.first.doubtful

/-- The revisions of two runs: one in which they meet is not listed twice. -/
def meetRevisions (order more : List String) : List String :=
  order ++ more.drop (if order.getLast? = more.head? then 1 else 0)

/-- The run of two runs. -/
def StateRun.join (last run : StateRun) : StateRun :=
  { last with
    last := run.last
    count := last.count + run.count
    sourceRevisionOrder := meetRevisions last.sourceRevisionOrder run.sourceRevisionOrder
    observedIntervalSeconds := last.observedIntervalSeconds + run.observedIntervalSeconds }

/-- `_append_run`. -/
def appendStateRun (runs : List StateRun) (run : StateRun) : List StateRun :=
  appendRun (StateRun.joins policy) StateRun.join runs run

def Sample.run (sample : Sample) : StateRun where
  value := sample.value
  first := sample
  last := sample
  count := 1
  sourceRevisionOrder := [sample.sourceRevision]
  observedIntervalSeconds := seconds sample.intervalStart sample.intervalEnd

/-- One extremum, after a point more. -/
def extremum (better : ℚ → ℚ → Bool) (old : Option Sample) (point : Sample) :
    Except String (Option Sample) :=
  match old with
  | none => .ok (some point)
  | some old => do
    let new ← point.value.decimal
    let best ← old.value.decimal
    return some (if better new best then point else old)

/-- Both extrema, after a sample more. -/
def Extrema.observe (extrema : Extrema) (sample : Sample) : Except String Extrema := do
  let minimum ← extremum (· < ·) extrema.minimum sample
  let maximum ← extremum (· > ·) extrema.maximum sample
  return ⟨minimum, maximum⟩

/-- What a pair of neighbours adds to the counter. -/
def observePair (prior : Option Sample) (current : Option Sample) (counter : Option CounterSummary) :
    Except String (Option CounterSummary) :=
  match prior, current with
  | some prior, some current => do
    validatePair prior current
    match counter with
    | none => return none
    | some counter => return some (← counterPair policy prior current counter)
  | _, _ => .ok counter

/-- The loop of `build_temporal`: one sample more. -/
def observe (facts : TemporalFacts) (sample : Sample) : Except String TemporalFacts := do
  let counterDelta ← observePair policy facts.last (some sample) facts.counterDelta
  let extrema ← facts.extrema.mapM (·.observe sample)
  return {
    first := facts.first.or (some sample)
    last := some sample
    coverage := cover facts.coverage (sample.intervalStart, sample.intervalEnd)
    counterDelta := counterDelta
    timeline := facts.timeline.map (appendStateRun policy · sample.run)
    extrema := extrema }

/-- The facts before the first sample. -/
def noFacts : TemporalFacts where
  counterDelta := if policy.selects .counterDelta then some {} else none
  timeline := if policy.selects .stateTimeline || policy.selects .changeTimeline then some []
    else none
  extrema := if policy.selects .extremaTimestamps then some {} else none

/-- What `_finish` reads off the coverage: the cursor and the gaps before it. -/
def gapsBefore (start : String) (coverage : List (String × String)) :
    String × List (String × String) :=
  coverage.foldl (fun (found : String × List (String × String)) covered =>
    (covered.2, if found.1 < covered.1 then found.2 ++ [(found.1, covered.1)] else found.2))
    (start, [])

/-- The transition between two runs, if they differ in their state. -/
def transition (prior current : StateRun) : Option Transition :=
  if prior.value ≠ current.value then
    some {
      fromState := prior.value
      toState := current.value
      afterObservedAt := prior.last.time
      byObservedAt := current.first.time
      evidenceStatus := if prior.last.doubtful || current.first.doubtful then "unresolved"
        else "observed_bounds_only" }
  else none

def finish (source : Option (String × String)) (timeBasis : Option String) (facts : TemporalFacts)
    (windowStart windowEnd : ℤ) : TemporalSummary :=
  let cursor := gapsBefore (isoformat windowStart) facts.coverage
  { policy := binding policy
    source := source
    timeBasis := timeBasis
    facts := facts
    gaps := if cursor.1 < isoformat windowEnd then cursor.2 ++ [(cursor.1, isoformat windowEnd)]
      else cursor.2
    observedIntervalSeconds := (facts.coverage.map fun covered => seconds covered.1 covered.2).sum
    resetCount := facts.counterDelta.map (·.resets.length)
    unresolvedStepCount := facts.counterDelta.map (·.unresolved.length)
    knownAtReconstruction := facts.timeline.map fun runs =>
      if runs.any (2 < ·.count) then "cannot_reconstruct_intermediate_known_at"
      else "retained_boundary_recorded_times_only"
    transitions := facts.timeline.map fun runs =>
      (runs.zip runs.tail).filterMap fun pair => transition pair.1 pair.2 }

def RollupObservationFields.source (item : RollupObservationFields) : String × String :=
  (item.sourceId, item.sourcePartitionDigest)

/-- The observations, as their intervals begin. -/
def byStart (observations : List RollupObservation) : List RollupObservation :=
  observations.insertionSort (·.val.intervalStart ≤ ·.val.intervalStart)

def checkCumulative : List Sample → Except String Unit
  | [] => .ok ()
  | sample :: rest => do
    let value ← sample.value.decimal
    if value < 0 then throw "counter delta requires non-negative cumulative samples"
    else checkCumulative rest

def checkCounter (samples : List Sample) : Except String Unit :=
  if policy.selects .counterDelta then checkCumulative samples else .ok ()

/-- Whether the time of a sample lies in its interval. -/
def Sample.timely (sample : Sample) : Bool :=
  sample.intervalStart ≤ sample.time && sample.time ≤ sample.intervalEnd

def buildTemporal (observations : List RollupObservation) (windowStart windowEnd : ℤ) :
    Except String TemporalSummary :=
  let sources := (observations.map (·.val.source)).dedup
  let bases := (observations.map (·.val.eventAt.isSome)).dedup
  let samples := (byStart observations).map (·.val.sample)
  if 1 < sources.length then
    .error "temporal rollup requires one source and source partition"
  else if 1 < bases.length then
    .error "temporal rollup MUST NOT mix missing and present event times"
  else if !samples.all Sample.timely then
    .error "temporal sample time MUST be within its observation interval"
  else do
    checkCounter policy samples
    let facts ← samples.foldlM (observe policy) (noFacts policy)
    return finish policy sources.head?
      (bases.head?.map fun present => if present then "event_at" else "effective_at") facts
      windowStart windowEnd

/-- Both extrema, after those of another summary. -/
def Extrema.merge (extrema more : Extrema) : Except String Extrema := do
  let minimum ← match more.minimum with
    | none => .ok extrema.minimum
    | some point => extremum (· < ·) extrema.minimum point
  let maximum ← match more.maximum with
    | none => .ok extrema.maximum
    | some point => extremum (· > ·) extrema.maximum point
  return ⟨minimum, maximum⟩

/-- The counter of two summaries, after the pair where they meet. -/
def CounterSummary.merge (left right : CounterSummary) : CounterSummary where
  knownDelta := left.knownDelta + right.knownDelta
  resets := left.resets ++ right.resets
  unresolved := left.unresolved ++ right.unresolved

/-- What a summary has a key for, the other one has, too. -/
def mergeKey {α : Type} (left right : Option α) (merge : α → α → Except String α) :
    Except String (Option α) :=
  match left, right with
  | none, _ => .ok none
  | some left, some right => (merge left right).map some
  | some _, none => .error "KeyError"

/-- The loop of `merge_temporal`: one summary more. -/
def mergeFacts (result current : TemporalFacts) : Except String TemporalFacts := do
  let paired ← observePair policy result.last current.first result.counterDelta
  let counterDelta ← mergeKey paired current.counterDelta fun left right => .ok (left.merge right)
  let timeline ← mergeKey result.timeline current.timeline fun runs more =>
    .ok (more.foldl (appendStateRun policy) runs)
  let extrema ← mergeKey result.extrema current.extrema Extrema.merge
  return {
    first := result.first.or current.first
    last := current.last.or result.last
    coverage := current.coverage.foldl cover result.coverage
    counterDelta := counterDelta
    timeline := timeline
    extrema := extrema }

/-- A summary that is merged, with its window. -/
structure TemporalPart where
  windowStart : ℤ
  windowEnd : ℤ
  summary : TemporalSummary

/-- The loop of `merge_temporal`, with the source and the time basis. -/
def mergeInto (result : TemporalSummary) (current : TemporalSummary) :
    Except String TemporalSummary := do
  let facts ← mergeFacts policy result.facts current.facts
  let begins := result.facts.first.isNone && current.facts.first.isSome
  return { result with
    facts := facts
    source := if begins then current.source else result.source
    timeBasis := if begins then current.timeBasis else result.timeBasis }

def mergeTemporal : List TemporalPart → Except String TemporalSummary
  | [] => .error "list index out of range"
  | first :: rest =>
    let parts := first :: rest
    let present := (parts.map (·.summary)).filter (·.facts.first.isSome)
    if parts.any (·.summary.policy ≠ binding policy) then
      .error "temporal rollup merge requires the exact statistics policy"
    else if 1 < (present.map (·.source)).dedup.length then
      .error "temporal rollup merge requires one source and source partition"
    else if 1 < (present.map (·.timeBasis)).dedup.length then
      .error "temporal rollup merge MUST NOT mix missing and present event times"
    else do
      let result ← (rest.map (·.summary)).foldlM (mergeInto policy) first.summary
      return finish policy result.source result.timeBasis result.facts first.windowStart
        ((rest.getLast?.map (·.windowEnd)).getD first.windowEnd)

end

end Fdai.Core.OntologyPlatform
