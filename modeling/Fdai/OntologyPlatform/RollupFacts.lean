import Fdai.Providers.Contracts

/-!
# Rollup facts

What a rollup is made of: the policy of one semantic fact, and the observations of it.

* `SemanticRollupPolicy` — the fact and the statistics that are kept of it.
* `RollupObservation` — one fact of a source, over an interval of time.

Both are as their constructors accept them. Times are aware (a constructor refuses a naive one before
it looks at anything else), so they are instants. A `Decimal` is the number it stands for: one that is
not finite is refused for every kind of fact.
-/

namespace Fdai.Core.OntologyPlatform

inductive RollupFactKind where
  | gauge | counter | categoricalState | relationshipChange | evidenceHealth

def RollupFactKind.value : RollupFactKind → String
  | .gauge => "gauge"
  | .counter => "counter"
  | .categoricalState => "categorical_state"
  | .relationshipChange => "relationship_change"
  | .evidenceHealth => "evidence_health"

inductive RelationshipChange where
  | added | removed

def RelationshipChange.value : RelationshipChange → String
  | .added => "added"
  | .removed => "removed"

inductive EvidenceHealth where
  | healthy | incomplete | conflicting

def EvidenceHealth.value : EvidenceHealth → String
  | .healthy => "healthy"
  | .incomplete => "incomplete"
  | .conflicting => "conflicting"

/-- The names that a policy selects statistics by. -/
inductive RollupStatistic where
  | count | sum | minimum | maximum | average | extremaTimestamps | timeCoverage | counterDelta
  | stateCounts | latest | stateTimeline | changeCounts | changeTimeline | healthCounts
  deriving DecidableEq

def RollupStatistic.value : RollupStatistic → String
  | .count => "count"
  | .sum => "sum"
  | .minimum => "minimum"
  | .maximum => "maximum"
  | .average => "average"
  | .extremaTimestamps => "extrema_timestamps"
  | .timeCoverage => "time_coverage"
  | .counterDelta => "counter_delta"
  | .stateCounts => "state_counts"
  | .latest => "latest"
  | .stateTimeline => "state_timeline"
  | .changeCounts => "change_counts"
  | .changeTimeline => "change_timeline"
  | .healthCounts => "health_counts"

def allowedStatistics : RollupFactKind → List RollupStatistic
  | .gauge => [.count, .sum, .minimum, .maximum, .average, .extremaTimestamps, .timeCoverage]
  | .counter => [.count, .sum, .average, .counterDelta, .timeCoverage]
  | .categoricalState => [.stateCounts, .latest, .stateTimeline, .timeCoverage]
  | .relationshipChange => [.changeCounts, .changeTimeline, .timeCoverage]
  | .evidenceHealth => [.healthCounts]

/-- The fields of a `SemanticRollupPolicy`. -/
structure RollupPolicyFields where
  semanticId : String
  revision : String
  ontologyReleaseDigest : String
  factKind : RollupFactKind
  expectedIntervalSeconds : ℤ
  statistics : List RollupStatistic

/-- `SemanticRollupPolicy.__post_init__`. -/
def RollupPolicyFields.check (fields : RollupPolicyFields) : Except String Unit :=
  validate [ (!isBlank fields.semanticId && !isBlank fields.revision,
      "rollup policy identity and revision MUST be non-empty"),
    (isSha256 fields.ontologyReleaseDigest,
      "rollup ontology_release_digest MUST be a canonical SHA-256 digest"),
    (1 ≤ fields.expectedIntervalSeconds, "rollup expected interval MUST be positive"),
    (!fields.statistics.isEmpty && fields.statistics.Nodup,
      "rollup statistics MUST be non-empty and unique"),
    (fields.statistics.all (· ∈ allowedStatistics fields.factKind),
      "rollup statistics are unsupported for " ++ fields.factKind.value),
    (.average ∉ fields.statistics || (.count ∈ fields.statistics && .sum ∈ fields.statistics),
      "rollup average requires count and sum")]

abbrev SemanticRollupPolicy := Valid RollupPolicyFields.check

def RollupPolicyFields.selects (policy : RollupPolicyFields) (statistic : RollupStatistic) : Bool :=
  statistic ∈ policy.statistics

/-- What is observed. -/
inductive RollupValue where
  | number (value : ℚ)
  | category (value : String)
  | change (value : RelationshipChange)
  | health (value : EvidenceHealth)

/-- The fields of a `RollupObservation`. -/
structure RollupObservationFields where
  observationId : String
  semanticId : String
  factKind : RollupFactKind
  sourceId : String
  sourceRevision : String
  sourcePartitionDigest : String
  generationRef : String
  ontologyReleaseDigest : String
  intervalStart : ℤ
  intervalEnd : ℤ
  effectiveAt : ℤ
  eventAt : Option ℤ
  recordedAt : ℤ
  value : RollupValue
  complete : Bool := true
  conflictCount : ℤ := 0

/-- The value check of `RollupObservation.__post_init__`. -/
def RollupObservationFields.valueCheck (fields : RollupObservationFields) : Bool × String :=
  match fields.factKind with
  | .gauge | .counter =>
    (fields.value matches .number _, "numeric rollup observation value MUST be Decimal")
  | .relationshipChange =>
    (fields.value matches .change _, "relationship rollup observation value is invalid")
  | .evidenceHealth =>
    (fields.value matches .health _, "evidence-health rollup observation value is invalid")
  | .categoricalState =>
    -- A change or a health is text, too.
    (match fields.value with
      | .number _ => false
      | .category text => text ≠ ""
      | .change _ | .health _ => true,
      "categorical rollup observation value MUST be non-empty")

/-- `RollupObservation.__post_init__`. -/
def RollupObservationFields.check (fields : RollupObservationFields) : Except String Unit :=
  validate [ (!isBlank fields.observationId, "rollup observation observation_id MUST be non-empty"),
    (!isBlank fields.semanticId, "rollup observation semantic_id MUST be non-empty"),
    (!isBlank fields.sourceId, "rollup observation source_id MUST be non-empty"),
    (!isBlank fields.sourceRevision, "rollup observation source_revision MUST be non-empty"),
    (!isBlank fields.generationRef, "rollup observation generation_ref MUST be non-empty"),
    (isSha256 fields.sourcePartitionDigest,
      "rollup source_partition_digest MUST be a canonical SHA-256 digest"),
    (isSha256 fields.ontologyReleaseDigest,
      "rollup ontology_release_digest MUST be a canonical SHA-256 digest"),
    (fields.intervalStart < fields.intervalEnd, "rollup observation interval MUST be positive"),
    (0 ≤ fields.conflictCount, "rollup observation conflict_count MUST NOT be negative"),
    fields.valueCheck]

abbrev RollupObservation := Valid RollupObservationFields.check

theorem RollupObservation.positive (observation : RollupObservation) :
    observation.val.intervalStart < observation.val.intervalEnd := by
  have accepted := observation.2
  unfold RollupObservationFields.check at accepted
  simp only [validate_cons_eq_ok, decide_eq_true_eq] at accepted
  exact accepted.2.2.2.2.2.2.2.1

/-- Whether the interval of an observation lies inside a window. -/
def RollupObservationFields.inside (windowStart windowEnd : ℤ)
    (observation : RollupObservationFields) : Bool :=
  windowStart ≤ observation.intervalStart && observation.intervalEnd ≤ windowEnd

/-- The observations inside a window. -/
def within (observations : List RollupObservation) (windowStart windowEnd : ℤ) :
    List RollupObservation :=
  observations.filter (·.val.inside windowStart windowEnd)

/-- A cut splits no observation. -/
def Unsplit (observations : List RollupObservation) (cut : ℤ) : Prop :=
  ∀ observation ∈ observations, observation.val.intervalEnd ≤ cut ∨
    cut ≤ observation.val.intervalStart

end Fdai.Core.OntologyPlatform
