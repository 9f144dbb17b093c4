import Fdai.Providers.Contracts
import Fdai.Providers.Value

/-!
# Independent effect observations

The receipt that an observer writes about one dispatch: what it claims to have seen, and the quality of
the evidence. A claim that its evidence cannot carry is weakened when the receipt is created.

* `IndependentEffectOutcome`, `dispositionFor` — what an observation established, and what may
  follow.
* `IndependentEffectObservationBinding` — the dispatch that an observation is about.
* `ObservationQuality`, `qualityDowngrade` — the six axes of the evidence, and the outcome that weak
  evidence is forced to.
* `IndependentEffectObservationReceipt`, `create` — a receipt, and its only way into being.

`str.casefold` is what the language decides. The bound on the length of a digested text is left out:
it only keeps receipts from being created.
-/

namespace Fdai.Core.IndependentEffect

open Fdai.Providers (Digest)

/-- What is raised: by a constructor, by the arithmetic of times, or by the ledger. -/
inductive EffectError where
  | value (message : String)
  | overflow (message : String)
  | ledger (message : String)
  | conflict (message : String)

/-- A `datetime` and its offset from UTC, in microseconds; a naive one has none, and names the instant
that it would name in UTC. -/
structure Zoned where
  instant : ℤ
  offset : Option ℤ := some 0

/-- A bound in seconds, as it is given. -/
inductive Seconds where
  | int (value : ℤ)
  | float (value : PyFloat)

/-- `value <= 0`. -/
def Seconds.nonPositive : Seconds → Bool
  | .int n => n ≤ 0
  | .float x => x.le (.finite 0)

/-- The span of so many microseconds, unless it has too many days. -/
def boundedSpan (micros : ℤ) : Except EffectError ℤ :=
  if (micros / 86400000000).natAbs ≤ 999999999 then .ok micros
  else .error (.overflow "days MUST have magnitude <= 999999999")

/-- `timedelta(seconds=…)`, in microseconds. The fraction of a float is scaled as a float, and what is
left below a microsecond is rounded to even. -/
def timedeltaSeconds : Seconds → Except EffectError ℤ
  | .int n => boundedSpan (n * 1000000)
  | .float .nan => .error (.value "cannot convert float NaN to integer")
  | .float (.infinite _) => .error (.overflow "cannot convert float infinity to integer")
  | .float (.finite q) =>
    let whole : ℤ := if q < 0 then ⌈q⌉ else ⌊q⌋
    match PyFloat.ofRat ((q - whole) * 1000000) with
    | .finite fraction => boundedSpan (PyFloat.roundHalfEven (whole * 1000000 + fraction))
    | _ => .error (.overflow "cannot convert float infinity to integer")

/-- `validate_text`. -/
def effectText (name value : String) : Bool × EffectError :=
  (canonicalText value, .value ("safeguard dispatch evidence " ++ name ++ " MUST be canonical"))

/-- `validate_digest`. -/
def effectDigest (name : String) (value : Digest) : Bool × EffectError :=
  (wellFormedDigest value, .value ("safeguard dispatch evidence " ++ name ++ " MUST be SHA-256"))

/-- `validate_utc`. -/
def effectUtc (name : String) (value : Zoned) : Bool × EffectError :=
  (value.offset = some 0,
    .value ("safeguard dispatch evidence " ++ name ++ " MUST be normalized to UTC"))

/-- A constructor's own check. -/
def effectCheck (holds : Bool) (message : String) : Bool × EffectError := (holds, .value message)

inductive IndependentEffectOutcome where
  | verified | failed | missing | stale | conflicting | censored | unavailable
  deriving DecidableEq

def IndependentEffectOutcome.value : IndependentEffectOutcome → String
  | .verified => "verified"
  | .failed => "failed"
  | .missing => "missing"
  | .stale => "stale"
  | .conflicting => "conflicting"
  | .censored => "censored"
  | .unavailable => "unavailable"

inductive IndependentEffectDisposition where
  | effectVerified | recoveryRequired | unknownHold
  deriving DecidableEq

def IndependentEffectDisposition.value : IndependentEffectDisposition → String
  | .effectVerified => "effect_verified"
  | .recoveryRequired => "recovery_required"
  | .unknownHold => "unknown_hold"

def dispositionFor : IndependentEffectOutcome → IndependentEffectDisposition
  | .verified => .effectVerified
  | .failed => .recoveryRequired
  | _ => .unknownHold

inductive ObservationFinality where
  | final | provisional
  deriving DecidableEq

inductive ObservationCompleteness where
  | complete | incomplete
  deriving DecidableEq

inductive ObservationContainment where
  | withinDeclaredTarget | exceedsDeclaredTarget | unknown
  deriving DecidableEq

def ObservationFinality.value : ObservationFinality → String
  | .final => "final"
  | .provisional => "provisional"

def ObservationCompleteness.value : ObservationCompleteness → String
  | .complete => "complete"
  | .incomplete => "partial"

def ObservationContainment.value : ObservationContainment → String
  | .withinDeclaredTarget => "within_declared_target"
  | .exceedsDeclaredTarget => "exceeds_declared_target"
  | .unknown => "unknown"

/-- The fields of an `IndependentEffectObservationBinding`. -/
structure BindingFields where
  schemaVersion : String := "1.0.0"
  actionId : String
  actionPayloadDigest : Digest
  targetDigest : Digest
  sourceRevision : String
  executionPath : String
  executionOrigin : String
  executionVenue : String
  safeguardBundleDigest : Digest
  evidenceIdentityDigest : Digest
  evidenceRecordDigest : Digest
  evidenceRecordRevision : ℤ
  executorReceiptDigest : Digest
  bindingDigest : Digest

def BindingFields.body (b : BindingFields) : List Digest := [
  .text b.schemaVersion, .text b.actionId, b.actionPayloadDigest, b.targetDigest,
  .text b.sourceRevision, .text b.executionPath, .text b.executionOrigin, .text b.executionVenue,
  b.safeguardBundleDigest, b.evidenceIdentityDigest, b.evidenceRecordDigest,
  .text (toString b.evidenceRecordRevision), b.executorReceiptDigest]

/-- `payload_digest`, of a binding. -/
def BindingFields.expectedDigest (b : BindingFields) : Digest :=
  .ofFields (.text "independent-effect-observation-binding" :: b.body)

def checkBinding (b : BindingFields) : Except EffectError Unit :=
  validate [ effectCheck (b.schemaVersion = "1.0.0")
      "unsupported independent effect observation binding schema",
    effectText "action_id" b.actionId,
    effectText "execution_path" b.executionPath,
    effectText "source_revision" b.sourceRevision,
    effectDigest "action_payload_digest" b.actionPayloadDigest,
    effectDigest "target_digest" b.targetDigest,
    effectDigest "safeguard_bundle_digest" b.safeguardBundleDigest,
    effectDigest "evidence_identity_digest" b.evidenceIdentityDigest,
    effectDigest "evidence_record_digest" b.evidenceRecordDigest,
    effectDigest "executor_receipt_digest" b.executorReceiptDigest,
    effectDigest "binding_digest" b.bindingDigest,
    effectCheck (1 ≤ b.evidenceRecordRevision)
      "independent effect observation evidence revision MUST be positive",
    effectCheck (b.executionOrigin ∈ ["core", "workflow"] &&
        b.executionVenue ∈ ["core", "isolated_executor"])
      "independent effect observation binding provenance is invalid",
    effectCheck (b.bindingDigest = b.expectedDigest)
      "independent effect observation binding digest mismatched"]

abbrev IndependentEffectObservationBinding := Valid checkBinding

/-- The fields of an `ObservationQuality`. -/
structure QualityFields where
  schemaVersion : String := "1.0.0"
  evidenceWindowStart : Zoned
  evidenceWindowEnd : Zoned
  sourceRecordedAt : Zoned
  maxSourceAgeSeconds : Seconds
  finality : ObservationFinality
  completeness : ObservationCompleteness
  containment : ObservationContainment
  conflictingSourceCount : ℤ
  synthetic : Bool

def checkQuality (q : QualityFields) : Except EffectError Unit :=
  validate [ effectCheck (q.schemaVersion = "1.0.0")
      "unsupported independent effect observation quality schema",
    effectUtc "evidence_window_start" q.evidenceWindowStart,
    effectUtc "evidence_window_end" q.evidenceWindowEnd,
    effectUtc "source_recorded_at" q.sourceRecordedAt,
    effectCheck (q.evidenceWindowStart.instant < q.evidenceWindowEnd.instant)
      "independent effect observation window MUST be positive",
    effectCheck (q.evidenceWindowEnd.instant - q.evidenceWindowStart.instant ≤ 86400000000)
      "independent effect observation window MUST stay bounded",
    effectCheck (q.evidenceWindowStart.instant ≤ q.sourceRecordedAt.instant &&
        q.sourceRecordedAt.instant ≤ q.evidenceWindowEnd.instant)
      "independent effect observation source is outside its window",
    effectCheck (!q.maxSourceAgeSeconds.nonPositive)
      "independent effect observation freshness bound MUST be positive",
    effectCheck (0 ≤ q.conflictingSourceCount)
      "independent effect observation conflict count MUST NOT be negative"]

abbrev ObservationQuality := Valid checkQuality

def staleAt (quality : ObservationQuality) (observedAt : Zoned) : Except EffectError Bool := do
  let age := observedAt.instant - quality.val.sourceRecordedAt.instant
  let bound ← timedeltaSeconds quality.val.maxSourceAgeSeconds
  return bound < age

/-- **`quality_downgrade`.** -/
def qualityDowngrade (quality : ObservationQuality) (observedAt : Zoned) :
    Except EffectError (Option IndependentEffectOutcome) :=
  if quality.val.synthetic then .ok (some .unavailable)
  else if 0 < quality.val.conflictingSourceCount then .ok (some .conflicting)
  else do
    let stale ← staleAt quality observedAt
    return if stale then some .stale
      else if quality.val.finality ≠ .final then some .stale
      else if quality.val.completeness ≠ .complete then some .censored
      else if quality.val.containment ≠ .withinDeclaredTarget then some .conflicting
      else none

/-! ## Receipts -/

section

variable (casefold : String → String)

/-- The fields of an `IndependentEffectObservationReceipt`. Its four authorities are always false. -/
structure ReceiptFields where
  schemaVersion : String := "1.0.0"
  observationId : String
  binding : IndependentEffectObservationBinding
  quality : ObservationQuality
  outcome : IndependentEffectOutcome
  disposition : IndependentEffectDisposition
  reason : String
  observerInstanceId : String
  executorInstanceId : String
  sourceInstanceId : String
  observedAt : Zoned
  completedAt : Zoned
  sequence : ℤ
  priorReceiptDigest : Option Digest
  receiptDigest : Digest
  effectVerified : Bool := false

/-- A time, as part of a digest. -/
def zonedDigest (value : Zoned) : Digest := instantDigest value.instant

/-- A bound in seconds, as part of a digest; JSON has no other floats. -/
def secondsDigest : Seconds → Except EffectError Digest
  | .int n => .ok (.ofFields [.text "int", .text (toString n)])
  | .float (.finite q) =>
    .ok (.ofFields [.text "float", .text (toString q.num), .num q.den])
  | .float _ => .error (.value "Out of range float values are not JSON compliant")

/-- The quality of the evidence, as part of a digest. -/
def qualityDigest (q : QualityFields) : Except EffectError Digest := do
  let bound ← secondsDigest q.maxSourceAgeSeconds
  return .ofFields [.text q.schemaVersion, zonedDigest q.evidenceWindowStart,
    zonedDigest q.evidenceWindowEnd, zonedDigest q.sourceRecordedAt, bound,
    .text q.finality.value, .text q.completeness.value, .text q.containment.value,
    .text (toString q.conflictingSourceCount), .text (toString q.synthetic)]

/-- `payload_digest`, of a receipt. -/
def ReceiptFields.expectedDigest (r : ReceiptFields) : Except EffectError Digest := do
  let quality ← qualityDigest r.quality.val
  return .ofFields [.text "independent-effect-observation-receipt", .text r.schemaVersion,
    .text r.observationId, .ofFields (r.binding.val.bindingDigest :: r.binding.val.body), quality,
    .text r.outcome.value, .text r.disposition.value, .text r.reason, .text r.observerInstanceId,
    .text r.executorInstanceId, .text r.sourceInstanceId, zonedDigest r.observedAt,
    zonedDigest r.completedAt, .text (toString r.sequence), absentOrDigest r.priorReceiptDigest,
    .text (toString r.effectVerified)]

/-- `_validate_independence`: the observer, the executor and the source are three. -/
def ReceiptFields.independent (r : ReceiptFields) : Bool :=
  [casefold r.observerInstanceId, casefold r.executorInstanceId, casefold r.sourceInstanceId].Nodup

def checkReceipt (r : ReceiptFields) : Except EffectError Unit := do
  validate [ effectCheck (r.schemaVersion = "1.0.0")
      "unsupported independent effect observation receipt schema",
    effectCheck (r.disposition = dispositionFor r.outcome)
      "independent effect observation disposition contradicts its outcome",
    effectText "observation_id" r.observationId,
    effectText "reason" r.reason,
    effectText "observer_instance_id" r.observerInstanceId,
    effectText "executor_instance_id" r.executorInstanceId,
    effectText "source_instance_id" r.sourceInstanceId,
    effectCheck (r.independent casefold)
      "independent effect observation observer, executor, and source identities MUST be distinct",
    effectUtc "observed_at" r.observedAt,
    effectUtc "completed_at" r.completedAt,
    effectCheck (r.observedAt.instant ≤ r.completedAt.instant)
      "independent effect observation completion precedes observation",
    effectCheck (1 ≤ r.sequence) "independent effect observation sequence MUST be positive",
    effectCheck (r.sequence ≠ 1 || r.priorReceiptDigest.isNone)
      "the first independent effect observation has no predecessor",
    effectCheck (r.sequence = 1 || r.priorReceiptDigest.isSome)
      "independent effect observation lineage lacks a predecessor",
    effectCheck (r.priorReceiptDigest.all wellFormedDigest)
      "safeguard dispatch evidence prior_receipt_digest MUST be SHA-256",
    effectCheck (r.effectVerified = decide (r.outcome = .verified))
      "independent effect verification requires a verified outcome"]
  if r.outcome = .verified then
    let downgrade ← qualityDowngrade r.quality r.observedAt
    validate [
      effectCheck downgrade.isNone "a verified observation requires complete, final, exact evidence"]
  let expected ← r.expectedDigest
  validate [ effectDigest "receipt_digest" r.receiptDigest, effectCheck (r.receiptDigest = expected)
      "independent effect observation receipt digest mismatched"]

abbrev IndependentEffectObservationReceipt := Valid (checkReceipt casefold)

/-- What a receipt is created from: the outcome is the one that the observer claims. -/
structure ObservationClaim where
  observationId : String
  binding : IndependentEffectObservationBinding
  quality : ObservationQuality
  outcome : IndependentEffectOutcome
  reason : String
  observerInstanceId : String
  executorInstanceId : String
  sourceInstanceId : String
  observedAt : Zoned
  completedAt : Zoned
  sequence : ℤ
  priorReceiptDigest : Option Digest

/-- The outcome that is recorded of a claim: one that the evidence cannot carry is rewritten. -/
def effectiveOutcome (claimed : IndependentEffectOutcome)
    (downgrade : Option IndependentEffectOutcome) : IndependentEffectOutcome :=
  match downgrade with
  | some weaker => if claimed = .verified ∨ claimed = .failed then weaker else claimed
  | none => claimed

/-- The fields of the receipt of a claim; its digest is not taken yet. -/
def ObservationClaim.fields (claim : ObservationClaim) (effective : IndependentEffectOutcome) :
    ReceiptFields where
  observationId := claim.observationId
  binding := claim.binding
  quality := claim.quality
  outcome := effective
  disposition := dispositionFor effective
  reason := claim.reason
  observerInstanceId := claim.observerInstanceId
  executorInstanceId := claim.executorInstanceId
  sourceInstanceId := claim.sourceInstanceId
  observedAt := claim.observedAt
  completedAt := claim.completedAt
  sequence := claim.sequence
  priorReceiptDigest := claim.priorReceiptDigest
  receiptDigest := .none
  effectVerified := decide (effective = .verified)

/-- **`create`.** -/
def ObservationClaim.create (claim : ObservationClaim) :
    Except EffectError (IndependentEffectObservationReceipt casefold) := do
  let downgrade ← qualityDowngrade claim.quality claim.observedAt
  let fields := claim.fields (effectiveOutcome claim.outcome downgrade)
  let digest ← fields.expectedDigest
  construct (checkReceipt casefold) { fields with receiptDigest := digest }

end

end Fdai.Core.IndependentEffect
