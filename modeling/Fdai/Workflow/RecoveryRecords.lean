import Fdai.Providers.ProcessRuntime
import Fdai.Providers.StateStore

/-!
# Records of holds and recoveries

The durable records of one workflow process outside its journal, and the pure checks
that are made of them.

* `HoldRecord` — the automation hold of the target.
* `RecoveryAttemptIdentity`, `AttemptRecord` — one recovery attempt.
* `RecoveryPreDispatchClaim`, `ClaimRecord`, `RecoveryDispatchResult` — the claim an
  attempt is dispatched under, its in-flight lease and the recorded outcome.
* `EffectCompletionClaim`, `EffectRecord` — what was observed of the effect.
* `ReleaseReceiptLookup`, `RecoveryCompletion`, `OutboxRecord` — the terminal commit.

All records are those of one process and one target, so the fields that name these are
left out of records and digests.
-/

namespace Fdai.Core

open Fdai.Providers

/-- A random token; no two are equal. -/
abbrev Token := ℕ

inductive HoldState where
  | active | released
  deriving DecidableEq

/-- Who a hold belongs to: the process of this model, or another one on the target. -/
inductive HoldOwner where
  | process
  | foreign
  deriving DecidableEq

structure ReleaseReceipt where
  actionId : Digest
  releasedHoldRevision : ℕ
  fencingGeneration : ℕ
  recoveryAdmissionDigest : String
  compensationReceiptDigests : List String
  releasedAt : Instant

def ReleaseReceipt.receiptDigest (r : ReleaseReceipt) : Digest :=
  .ofFields [r.actionId, .num r.releasedHoldRevision, .num r.fencingGeneration,
    .text r.recoveryAdmissionDigest, .ofTexts r.compensationReceiptDigests,
    .num r.releasedAt]

/-- The hold of the target, with what a release added to it. -/
structure HoldRecord where
  owner : HoldOwner
  reason : String
  state : HoldState
  revision : ℕ
  fencingGeneration : Option ℕ := none
  consumedRecoveryAdmissionDigest : Option String := none
  releaseReceipt : Option ReleaseReceipt := none

/-- The intent written before a guarded release. -/
structure ReleaseIntent where
  actionId : Digest
  holdRevision : ℕ
  compensationReceiptDigests : List String
  requestedAt : Instant
  revision : ℕ := 1
  deriving DecidableEq

/-- A recovery step's right to dispatch under one hold revision. -/
structure DispatchAuthorization where
  authorizedHoldRevision : ℕ
  released : Bool
  revision : ℕ := 1

/-- Binding of a failed compensation, a hold revision and a recovery action. -/
structure RecoveryAttemptIdentity where
  failedCompensationProposalDigest : Digest
  holdRevision : ℕ
  recoveryActionType : String
  recoveryPayloadDigest : Digest
  attemptNumber : ℕ

namespace RecoveryAttemptIdentity

def identityDigest (a : RecoveryAttemptIdentity) : Digest :=
  .ofFields [a.failedCompensationProposalDigest, .num a.holdRevision,
    .text a.recoveryActionType, a.recoveryPayloadDigest, .num a.attemptNumber]

/-- `recovery_attempt_idempotency_key`. -/
def idempotencyKey (a : RecoveryAttemptIdentity) : Digest :=
  .ofFields [.text "recovery-attempt-dispatch", a.identityDigest, .num a.attemptNumber]

/-- `recovery_action_id`. -/
def actionId (a : RecoveryAttemptIdentity) : Digest :=
  .ofFields [.text "workflow-recovery", a.identityDigest]

end RecoveryAttemptIdentity

/-- The stored attempt. -/
structure AttemptRecord where
  identity : RecoveryAttemptIdentity
  approvalEvidenceDigest : Digest
  safeguardBundleDigest : Option String := none
  revision : ℕ := 1

/-! ## Dispatch claims -/

/-- Exclusive claim on one attempt. -/
structure RecoveryPreDispatchClaim where
  attemptIdentityDigest : Digest
  holdRevision : ℕ
  claimRevision : ℕ
  idempotencyKey : Digest
  claimedAt : Instant

def RecoveryPreDispatchClaim.claimDigest (c : RecoveryPreDispatchClaim) : Digest :=
  .ofFields [c.attemptIdentityDigest, .num c.holdRevision, .num c.claimRevision,
    c.idempotencyKey, .num c.claimedAt]

inductive RecoveryDispatchOutcome where
  | notInvoked | dispatched | inDoubt
  deriving DecidableEq

def RecoveryDispatchOutcome.digest : RecoveryDispatchOutcome → Digest
  | .notInvoked => .text "not_invoked"
  | .dispatched => .text "dispatched"
  | .inDoubt => .text "in_doubt"

/-- What a dispatch, or its reconciliation, came to. -/
structure RecoveryDispatchResult where
  attemptIdentityDigest : Digest
  claimDigest : Digest
  outcome : RecoveryDispatchOutcome
  providerReceiptDigest : Option String
  recordedAt : Instant

/-- An optional text as part of a digest. -/
def optionDigest : Option String → Digest
  | none => .none
  | some value => .text value

def RecoveryDispatchResult.resultDigest (r : RecoveryDispatchResult) : Digest :=
  .ofFields [r.attemptIdentityDigest, r.claimDigest, r.outcome.digest,
    optionDigest r.providerReceiptDigest, .num r.recordedAt]

inductive RecoveryClaimDispatchState where
  | unclaimed | inFlight | resolved
  deriving DecidableEq

/-- The stored claim with its in-flight lease and the last recorded outcome. -/
structure ClaimRecord where
  claim : RecoveryPreDispatchClaim
  dispatchState : RecoveryClaimDispatchState := .unclaimed
  inFlightOwner : Option Token := none
  inFlightExpiresAt : Option Instant := none
  dispatchOutcome : RecoveryDispatchOutcome := .notInvoked
  providerReceiptDigest : Option String := none
  dispatchResultDigest : Option Digest := none
  dispatchRecordedAt : Option Instant := none
  revision : ℕ := 1

/-- `claim_from_record`: the stored claim, if it is this attempt's at this revision. -/
def claimFromRecord (record : ClaimRecord) (attempt : RecoveryAttemptIdentity)
    (holdRevision : ℕ) : Option RecoveryPreDispatchClaim :=
  if record.claim.attemptIdentityDigest = attempt.identityDigest ∧
      record.claim.holdRevision = holdRevision ∧
      record.claim.idempotencyKey = attempt.idempotencyKey then some record.claim
  else none

/-- `dispatch_from_record`: the recorded outcome, if there is one and it is bound to the
claim. -/
def dispatchFromRecord (record : Option ClaimRecord) (claim : RecoveryPreDispatchClaim) :
    Option RecoveryDispatchResult :=
  record.bind fun record => record.dispatchRecordedAt.bind fun recordedAt =>
    let result : RecoveryDispatchResult :=
      { attemptIdentityDigest := claim.attemptIdentityDigest
        claimDigest := claim.claimDigest
        outcome := record.dispatchOutcome
        providerReceiptDigest := record.providerReceiptDigest
        recordedAt }
    if record.dispatchResultDigest = some result.resultDigest then some result else none

/-- An independent observation of the effect. `evidenceEligible` is what
`verify_effect_evidence` says of it. -/
structure RecoveryEffectObservation where
  evidenceEligible : Bool
  finalized : Bool
  success : Bool
  evidenceWindowEnd : Instant
  evidenceDigest : String

structure EffectCompletionClaim where
  attemptIdentityDigest : Digest
  safeguardBundleDigest : String
  providerReceiptDigest : String
  effectEvidenceDigest : String
  validityStart : Instant
  validityEnd : Instant
  holdRevision : ℕ
  admissionDigest : String
  success : Bool
  generation : ℕ
  supersededBy : Option Digest := none

namespace EffectCompletionClaim

def claimDigest (c : EffectCompletionClaim) : Digest :=
  .ofFields [c.attemptIdentityDigest, .text c.safeguardBundleDigest,
    .text c.providerReceiptDigest, .text c.effectEvidenceDigest, .num c.validityStart,
    .num c.validityEnd, .num c.holdRevision, .text c.admissionDigest,
    .num c.success.toNat, .num c.generation, c.supersededBy.getD .none]

/-- A success that was not superseded, within its validity. -/
def isCurrentSuccess (c : EffectCompletionClaim) (now : Instant) : Bool :=
  c.success && c.supersededBy.isNone && c.validityStart ≤ now && now < c.validityEnd

/-- Mark a claim as superseded; one that already is stays as it is. -/
def supersede (c : EffectCompletionClaim) (superseding : Digest) : EffectCompletionClaim :=
  if c.supersededBy.isSome then c else { c with supersededBy := some superseding }

end EffectCompletionClaim

/-- All claims of one attempt. -/
structure EffectRecord where
  currentClaimDigest : Digest
  generation : ℕ
  claims : List EffectCompletionClaim
  revision : ℕ := 1

/-- `read_current_claim`. -/
def EffectRecord.currentClaim (record : EffectRecord) : Option EffectCompletionClaim :=
  record.claims.find? fun claim => claim.claimDigest = record.currentClaimDigest

/-- Index from what is known before a release to its receipt. -/
structure ReleaseReceiptLookup where
  recoveryAttemptDigest : Digest
  effectClaimDigest : Digest
  holdRevision : ℕ
  releaseReceiptDigest : Digest
  revision : ℕ := 1

/-- What the terminal commit is bound to. -/
structure RecoveryCompletion where
  expectedProcessRevision : ℕ
  recoveryAttemptDigest : Digest
  effectClaimGeneration : ℕ
  effectClaimDigest : Digest
  releaseReceiptDigest : Digest
  terminalEventDigest : Digest
  auditPayloadDigest : Digest

def RecoveryCompletion.completionDigest (c : RecoveryCompletion) : Digest :=
  .ofFields [.num c.expectedProcessRevision, c.recoveryAttemptDigest,
    .num c.effectClaimGeneration, c.effectClaimDigest, c.releaseReceiptDigest,
    c.terminalEventDigest, c.auditPayloadDigest]

/-- What an outbox entry delivers. -/
inductive DeliveryKind where
  | processEvent | sagaAudit
  deriving DecidableEq

/-- One pending or delivered outbox entry. -/
structure OutboxRecord where
  delivered : Bool := false
  payloadDigest : Digest
  attemptCount : ℕ := 0
  revision : ℕ := 1

/-- The keys of the state store that belong to one process and its target. -/
inductive StateKey where
  | hold
  | releaseIntent (admissionDigest : String)
  | dispatchAuthorization (attempt : Digest)
  | attempt (identity : Digest)
  | claim (identity : Digest) (holdRevision : ℕ)
  | effect (identity : Digest)
  | lookup (identity effectClaim : Digest) (holdRevision : ℕ)
  | outbox (completion : Digest) (kind : DeliveryKind)
  deriving DecidableEq

/-- The record under each key. -/
def StateRecord : StateKey → Type
  | .hold => HoldRecord
  | .releaseIntent _ => ReleaseIntent
  | .dispatchAuthorization _ => DispatchAuthorization
  | .attempt _ => AttemptRecord
  | .claim _ _ => ClaimRecord
  | .effect _ => EffectRecord
  | .lookup _ _ _ => ReleaseReceiptLookup
  | .outbox _ _ => OutboxRecord

/-- The revision a record carries. -/
def recordRevision : (key : StateKey) → StateRecord key → ℕ
  | .hold, r => HoldRecord.revision r
  | .releaseIntent _, r => ReleaseIntent.revision r
  | .dispatchAuthorization _, r => DispatchAuthorization.revision r
  | .attempt _, r => AttemptRecord.revision r
  | .claim _ _, r => ClaimRecord.revision r
  | .effect _, r => EffectRecord.revision r
  | .lookup _ _ _, r => ReleaseReceiptLookup.revision r
  | .outbox _ _, r => OutboxRecord.revision r

/-- The records of one process and its target. -/
abbrev Records := StateStore StateKey StateRecord

namespace Records

variable (records : Records)

/-- The stored attempts, most recently written first. -/
def attempts : List AttemptRecord :=
  records.rows.reverse.filterMap fun
    | ⟨.attempt _, record⟩ => some record
    | _ => none

/-- The stored attempt that was written least recently (`find_state`). -/
def findAttempt : Option AttemptRecord := records.attempts.getLast?

/-- The lookup of an attempt that was written least recently (`find_state`). -/
def findLookup (attempt : Digest) : Option ReleaseReceiptLookup :=
  records.rows.findSome? fun
    | ⟨.lookup _ _ _, record⟩ =>
      if ReleaseReceiptLookup.recoveryAttemptDigest record = attempt then some record else none
    | _ => none

variable {records}

theorem findLookup_stored {attempt : Digest} {lookup : ReleaseReceiptLookup}
    (found : records.findLookup attempt = some lookup) :
    ∃ identity effectClaim holdRevision,
      records.read (.lookup identity effectClaim holdRevision) = some lookup := by
  obtain ⟨row, mem, matches_⟩ := List.exists_of_findSome?_eq_some found
  split at matches_
  · rename_i identity effectClaim holdRevision record
    split at matches_
    · obtain rfl := Option.some.inj matches_
      exact ⟨identity, effectClaim, holdRevision, (List.mem_dlookup_iff records.nodup).2 mem⟩
    · cases matches_
  · cases matches_

end Records

end Fdai.Core
