import Fdai.Executor.EffectObservation

/-!
# The independent effect ledger

The receipts that are retained of one dispatch, and the state of its effect that is projected from
them.

* `GovernedRecoveryRequest` — what a failed observation may ask for.
* `validateLineage`, `projectState` — the checks of a lineage, and the projection.
* `EffectStore`, `append`, `record` — the retained lineages, and the ledger over them.
-/

namespace Fdai.Core.IndependentEffect

open Fdai.Providers (Digest)

section

variable (casefold : String → String)

/-- The fields of a `GovernedRecoveryRequest`. It always requires every safeguard and a current human
approval, and never grants an authority. -/
structure RecoveryRequestFields where
  schemaVersion : String := "1.0.0"
  evidenceIdentityDigest : Digest
  safeguardBundleDigest : Digest
  actionId : String
  targetDigest : Digest
  sourceRevision : String
  observationReceiptDigest : Digest
  requestedAt : Zoned
  reason : String
  requestDigest : Digest

/-- `payload_digest`, of a request. -/
def RecoveryRequestFields.expectedDigest (r : RecoveryRequestFields) : Digest :=
  .ofFields [.text "governed-recovery-request", .text r.schemaVersion, r.evidenceIdentityDigest,
    r.safeguardBundleDigest, .text r.actionId, r.targetDigest, .text r.sourceRevision,
    r.observationReceiptDigest, zonedDigest r.requestedAt, .text r.reason]

def checkRecoveryRequest (r : RecoveryRequestFields) : Except EffectError Unit :=
  validate [ effectCheck (r.schemaVersion = "1.0.0") "unsupported governed recovery request schema",
    effectText "action_id" r.actionId,
    effectText "source_revision" r.sourceRevision,
    effectText "reason" r.reason,
    effectDigest "evidence_identity_digest" r.evidenceIdentityDigest,
    effectDigest "safeguard_bundle_digest" r.safeguardBundleDigest,
    effectDigest "target_digest" r.targetDigest,
    effectDigest "observation_receipt_digest" r.observationReceiptDigest,
    effectDigest "request_digest" r.requestDigest,
    effectUtc "requested_at" r.requestedAt,
    effectCheck (r.requestDigest = r.expectedDigest) "governed recovery request digest mismatched"]

abbrev GovernedRecoveryRequest := Valid checkRecoveryRequest

variable {casefold}

/-- `GovernedRecoveryRequest.create`. -/
def createRecoveryRequest (receipt : IndependentEffectObservationReceipt casefold)
    (requestedAt : Zoned) : Except EffectError GovernedRecoveryRequest := do
  validate [effectCheck (receipt.val.outcome = .failed)
    "only an authoritative failed observation may request recovery"]
  let fields : RecoveryRequestFields := {
    evidenceIdentityDigest := receipt.val.binding.val.evidenceIdentityDigest
    safeguardBundleDigest := receipt.val.binding.val.safeguardBundleDigest
    actionId := receipt.val.binding.val.actionId
    targetDigest := receipt.val.binding.val.targetDigest
    sourceRevision := receipt.val.binding.val.sourceRevision
    observationReceiptDigest := receipt.val.receiptDigest
    requestedAt
    reason := receipt.val.reason
    requestDigest := .none }
  construct checkRecoveryRequest { fields with requestDigest := fields.expectedDigest }

/-- The fields of an `IndependentEffectState`. -/
structure EffectStateFields where
  evidenceIdentityDigest : Digest
  disposition : IndependentEffectDisposition
  outcome : IndependentEffectOutcome
  latestReceiptDigest : Option Digest
  observationCount : ℕ
  effectVerified : Bool
  recoveryRequest : Option GovernedRecoveryRequest := none

def checkEffectState (s : EffectStateFields) : Except EffectError Unit :=
  validate [ effectCheck (s.effectVerified = decide (s.disposition = .effectVerified))
      "independent effect state verification contradicts its disposition",
    effectCheck (s.recoveryRequest.isNone || s.disposition = .recoveryRequired)
      "only a failed effect may carry a recovery request",
    effectCheck (s.latestReceiptDigest.isNone = decide (s.observationCount = 0))
      "independent effect state receipt lineage is inconsistent"]

abbrev IndependentEffectState := Valid checkEffectState

/-! ## Lineages -/

/-- The receipts from an index on, after the one before it. -/
def validateLineageFrom (index : ℕ) (prior : Option (IndependentEffectObservationReceipt casefold)) :
    List (IndependentEffectObservationReceipt casefold) → Except EffectError Unit
  | [] => .ok ()
  | receipt :: rest => do
    validate [(receipt.val.sequence = index + 1, .ledger "observation lineage is not contiguous")]
    if let some prior := prior then
      validate [ (receipt.val.priorReceiptDigest = some prior.val.receiptDigest,
          .ledger "observation lineage chain is broken"),
        (receipt.val.binding.val.evidenceIdentityDigest =
            prior.val.binding.val.evidenceIdentityDigest,
          .ledger "observation lineage spans two dispatches")]
    validateLineageFrom (index + 1) (some receipt) rest

def validateLineage (receipts : List (IndependentEffectObservationReceipt casefold)) :
    Except EffectError Unit :=
  validateLineageFrom 0 none receipts

def verifiedState (identity : Digest) (latest : IndependentEffectObservationReceipt casefold)
    (count : ℕ) : EffectStateFields where
  evidenceIdentityDigest := identity
  disposition := .effectVerified
  outcome := .verified
  latestReceiptDigest := some latest.val.receiptDigest
  observationCount := count
  effectVerified := true

def failedState (identity : Digest) (latest : IndependentEffectObservationReceipt casefold)
    (count : ℕ) (request : Option GovernedRecoveryRequest) : EffectStateFields where
  evidenceIdentityDigest := identity
  disposition := .recoveryRequired
  outcome := .failed
  latestReceiptDigest := some latest.val.receiptDigest
  observationCount := count
  effectVerified := false
  recoveryRequest := request

/-- The state of an effect that is not known. -/
def heldState (identity : Digest) (latest : IndependentEffectObservationReceipt casefold)
    (count : ℕ) : EffectStateFields where
  evidenceIdentityDigest := identity
  disposition := .unknownHold
  outcome := latest.val.outcome
  latestReceiptDigest := some latest.val.receiptDigest
  observationCount := count
  effectVerified := false

/-- The state of an effect that was not observed. -/
def missingState (identity : Digest) : EffectStateFields where
  evidenceIdentityDigest := identity
  disposition := .unknownHold
  outcome := .missing
  latestReceiptDigest := none
  observationCount := 0
  effectVerified := false

/-- The projection of a lineage that is a chain; `latest` is its last receipt. -/
def projectChain (receipts : List (IndependentEffectObservationReceipt casefold))
    (latest : IndependentEffectObservationReceipt casefold) (identity : Digest)
    (recoveryRequestedAt : Option Zoned) : Except EffectError IndependentEffectState := do
  match receipts.find? (·.val.outcome = .verified) with
  | some verified =>
    if receipts.any fun r => verified.val.sequence < r.val.sequence && r.val.outcome = .failed then
      .error (.conflict "a retained observation contradicts an already-verified effect")
    else construct checkEffectState (verifiedState identity latest receipts.length)
  | none =>
    if latest.val.outcome = .failed then
      let request ← recoveryRequestedAt.mapM (createRecoveryRequest latest)
      construct checkEffectState (failedState identity latest receipts.length request)
    else construct checkEffectState (heldState identity latest receipts.length)

/-- **`project_state`.** -/
def projectState (receipts : List (IndependentEffectObservationReceipt casefold)) (identity : Digest)
    (recoveryRequestedAt : Option Zoned) : Except EffectError IndependentEffectState := do
  validate [effectDigest "evidence_identity_digest" identity]
  match receipts, receipts.getLast? with
  | first :: _, some latest =>
    validateLineage receipts
    validate [(first.val.binding.val.evidenceIdentityDigest = identity,
      .ledger "observation lineage does not bind this dispatch")]
    projectChain receipts latest identity recoveryRequestedAt
  | _, _ => construct checkEffectState (missingState identity)

/-- The retained lineages, by the identity of their dispatch. -/
abbrev EffectStore (casefold : String → String) :=
  Digest → List (IndependentEffectObservationReceipt casefold)

/-- `append`: retain a receipt at the end of its lineage, or find it there. -/
def EffectStore.append (store : EffectStore casefold)
    (receipt : IndependentEffectObservationReceipt casefold) :
    Except EffectError (EffectStore casefold) := do
  let identity := receipt.val.binding.val.evidenceIdentityDigest
  let lineage := store identity
  match lineage[receipt.val.sequence.toNat - 1]? with
  | some retained =>
    validate [(retained.val.receiptDigest = receipt.val.receiptDigest,
      .ledger "a different observation already occupies this sequence")]
    return store
  | none =>
    validate [ (receipt.val.sequence = lineage.length + 1,
        .ledger "observation sequence MUST be contiguous"),
      (receipt.val.priorReceiptDigest = lineage.getLast?.map (·.val.receiptDigest),
        .ledger "observation predecessor does not match")]
    return Function.update store identity (lineage ++ [receipt])

/-- `record`: the receipt is retained before the state is projected. -/
def EffectStore.record (store : EffectStore casefold)
    (receipt : IndependentEffectObservationReceipt casefold) (recoveryRequestedAt : Option Zoned) :
    Except EffectError (EffectStore casefold × Except EffectError IndependentEffectState) := do
  let retained ← store.append receipt
  let identity := receipt.val.binding.val.evidenceIdentityDigest
  return (retained, projectState (retained identity) identity recoveryRequestedAt)

end

end Fdai.Core.IndependentEffect
