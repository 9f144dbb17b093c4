import Fdai.Providers.Checks
import Fdai.Providers.Value

/-!
# Effect verification

An expected effect predicts a range for one metric of one target, over a window of time; an observation
is compared with it.

* `Number` — a bound: Python keeps an integer and a float apart when it writes them.
* `ExpectedEffect`, `ObservedEffect` — as their constructors accept them.
* `verifyEffect` — the verdict.

Times are aware: a constructor refuses a naive one before it looks at anything else.
-/

namespace Fdai.Core.MscpProfile

/-- A number, as it was given. -/
inductive Number where
  | int (value : ℤ)
  | float (value : PyFloat)
  deriving DecidableEq

namespace Number

/-- The number that is compared. -/
def exact : Number → PyFloat
  | .int value => .finite value
  | .float value => value

/-- `<=`. -/
def le (a b : Number) : Bool := a.exact.le b.exact

/-- `float(value)`. -/
def toFloat : Number → PyFloat
  | .int value => .ofRat value
  | .float value => value

/-- `math.isfinite`: no float holds an integer that is too large. -/
def isFinite (a : Number) : Bool :=
  match a.toFloat with
  | .finite _ => true
  | _ => false

end Number

inductive EffectVerificationStatus where
  | verified | mismatch | hold
  deriving DecidableEq

namespace EffectVerificationStatus

def value : EffectVerificationStatus → String
  | .verified => "verified"
  | .mismatch => "mismatch"
  | .hold => "hold"

def all : List EffectVerificationStatus := [.verified, .mismatch, .hold]

end EffectVerificationStatus

inductive EffectVerificationReason where
  | withinAcceptableRange | valueOutsideAcceptableRange | predictionIdMismatch | targetMismatch
  | metricMismatch | observationBeforePrediction | observationBeforeDispatch
  | observationAfterDeadline | observationNotYetRecorded | predictionUnavailable
  | predictionProviderFailed | predictionTargetMismatch | observationUnavailable
  | observationProviderFailed | observationUnitMismatch | observationProvenanceUnavailable
  deriving DecidableEq

namespace EffectVerificationReason

def value : EffectVerificationReason → String
  | .withinAcceptableRange => "within_acceptable_range"
  | .valueOutsideAcceptableRange => "value_outside_acceptable_range"
  | .predictionIdMismatch => "prediction_id_mismatch"
  | .targetMismatch => "target_mismatch"
  | .metricMismatch => "metric_mismatch"
  | .observationBeforePrediction => "observation_before_prediction"
  | .observationBeforeDispatch => "observation_before_dispatch"
  | .observationAfterDeadline => "observation_after_deadline"
  | .observationNotYetRecorded => "observation_not_yet_recorded"
  | .predictionUnavailable => "prediction_unavailable"
  | .predictionProviderFailed => "prediction_provider_failed"
  | .predictionTargetMismatch => "prediction_target_mismatch"
  | .observationUnavailable => "observation_unavailable"
  | .observationProviderFailed => "observation_provider_failed"
  | .observationUnitMismatch => "observation_unit_mismatch"
  | .observationProvenanceUnavailable => "observation_provenance_unavailable"

def all : List EffectVerificationReason :=
  [.withinAcceptableRange, .valueOutsideAcceptableRange, .predictionIdMismatch, .targetMismatch,
    .metricMismatch, .observationBeforePrediction, .observationBeforeDispatch,
    .observationAfterDeadline, .observationNotYetRecorded, .predictionUnavailable,
    .predictionProviderFailed, .predictionTargetMismatch, .observationUnavailable,
    .observationProviderFailed, .observationUnitMismatch, .observationProvenanceUnavailable]

end EffectVerificationReason

/-- What the verification reads of an `EffectPredictionSnapshot`. -/
structure EffectPredictionSnapshot where
  predictionId : String
  metric : String
  unit : String
  predictedAt : ℤ
  observationDeadline : ℤ

/-- The fields of an `ExpectedEffect`. -/
structure ExpectedEffectFields where
  predictionId : String
  targetRef : String
  metric : String
  acceptableMin : Number
  acceptableMax : Number
  predictedAt : ℤ
  observationDeadline : ℤ
  predictionSnapshot : Option EffectPredictionSnapshot := none

/-- `ExpectedEffect.__post_init__`. -/
def ExpectedEffectFields.check (fields : ExpectedEffectFields) : Except String Unit :=
  validate [ (!isBlank fields.predictionId, "prediction_id MUST be non-empty"),
    (!isBlank fields.targetRef, "target_ref MUST be non-empty"),
    (!isBlank fields.metric, "metric MUST be non-empty"),
    (fields.acceptableMin.isFinite, "acceptable_min MUST be finite"),
    (fields.acceptableMax.isFinite, "acceptable_max MUST be finite"),
    (fields.acceptableMin.le fields.acceptableMax, "acceptable_min MUST be <= acceptable_max"),
    (fields.predictedAt ≤ fields.observationDeadline,
      "observation_deadline MUST NOT precede predicted_at"),
    (fields.predictionSnapshot.all fun snapshot =>
        snapshot.predictionId = fields.predictionId ∧ snapshot.metric = fields.metric ∧
          snapshot.predictedAt = fields.predictedAt ∧
            snapshot.observationDeadline = fields.observationDeadline,
      "expected effect MUST match its frozen prediction")]

abbrev ExpectedEffect := Valid ExpectedEffectFields.check

/-- The fields of an `ObservedEffect`. -/
structure ObservedEffectFields where
  predictionId : String
  targetRef : String
  metric : String
  value : Number
  observedAt : ℤ
  unit : Option String := none
  receiptRef : Option String := none

/-- `ObservedEffect.__post_init__`. -/
def ObservedEffectFields.check (fields : ObservedEffectFields) : Except String Unit :=
  validate [ (!isBlank fields.predictionId, "prediction_id MUST be non-empty"),
    (!isBlank fields.targetRef, "target_ref MUST be non-empty"),
    (!isBlank fields.metric, "metric MUST be non-empty"),
    (fields.value.isFinite, "value MUST be finite"),
    (fields.unit.all fun unit => !isBlank unit, "unit MUST be non-empty"),
    (fields.receiptRef.all fun receipt => !isBlank receipt, "receipt_ref MUST be non-empty")]

abbrev ObservedEffect := Valid ObservedEffectFields.check

structure EffectVerificationResult where
  status : EffectVerificationStatus
  reason : EffectVerificationReason
  deriving DecidableEq

def verifyEffect (expected : ExpectedEffectFields) (observed : ObservedEffectFields) :
    EffectVerificationResult :=
  if observed.predictionId ≠ expected.predictionId then ⟨.hold, .predictionIdMismatch⟩
  else if observed.targetRef ≠ expected.targetRef then ⟨.hold, .targetMismatch⟩
  else if observed.metric ≠ expected.metric then ⟨.hold, .metricMismatch⟩
  else if expected.predictionSnapshot.any fun snapshot => observed.unit ≠ some snapshot.unit then
    ⟨.hold, .observationUnitMismatch⟩
  else if expected.predictionSnapshot.isSome && (observed.receiptRef.getD "").isEmpty then
    ⟨.hold, .observationProvenanceUnavailable⟩
  else if observed.observedAt < expected.predictedAt then ⟨.hold, .observationBeforePrediction⟩
  else if observed.observedAt > expected.observationDeadline then
    ⟨.hold, .observationAfterDeadline⟩
  else if !(expected.acceptableMin.le observed.value &&
      observed.value.le expected.acceptableMax) then
    ⟨.mismatch, .valueOutsideAcceptableRange⟩
  else ⟨.verified, .withinAcceptableRange⟩

end Fdai.Core.MscpProfile
