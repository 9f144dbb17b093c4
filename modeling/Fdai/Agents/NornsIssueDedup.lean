import Mathlib.Data.List.DropRight
import Fdai.Concurrency.Register
import Fdai.Providers.Checks
import Fdai.Providers.StateStore

/-!
# Counting the occurrences of an issue

Norns counts how often an issue recurs, and proposes a candidate once the count reaches a
threshold. A delivery of an issue operation may be repeated, by a redelivery or by the recovery
after a restart. So each operation has a record of its own, and the record of the fingerprint
keeps, beside the count, a window of the operations that were counted last.

* `FingerprintState`, `OperationState` — the two kinds of records.
* `applyDecision` — one attempt to count an operation.
* `observe`, `recover`, `markCandidateDelivered` — the methods, over the records.

Operations are known by their digests, of any type. What a replica holds in memory (the counters
and candidates it reports) decides no write, and is left out; a delivery may be marked at any time.
-/

namespace Fdai.Core.NornsIssueDedup

open Fdai.Concurrency Fdai.Providers Program

variable {D : Type} [DecidableEq D]

def maxCasAttempts : ℕ := 16

def recoveryPageSize : ℕ := 128

/-- `_MAX_FINGERPRINT_OPERATION_DIGESTS`. -/
@[irreducible] def maxFingerprintOperationDigests : ℕ := 128

inductive CandidateState where
  | collecting | pending | delivered
  deriving DecidableEq

/-- The record of a fingerprint: `_fingerprint_state`. -/
structure FingerprintState (D : Type) where
  revision : ℕ
  fingerprint : String
  promotionThreshold : ℕ
  operationDigests : List D
  occurrenceCount : ℕ
  candidateState : CandidateState

/-- `status` of an operation. -/
inductive OperationStatus where
  | pending | applied
  deriving DecidableEq

/-- The record of an operation: `_operation_state`. -/
structure OperationState (D : Type) where
  revision : ℕ
  status : OperationStatus
  operationDigest : D
  fingerprint : String
  deriving DecidableEq

/-- `_FingerprintApplication`. -/
structure Application where
  fingerprint : String
  promotionThreshold : ℕ
  occurrenceCount : ℕ
  candidateState : CandidateState
  operationCounted : Bool

/-- What a method raises. -/
inductive NornsError where
  /-- `ValueError`. -/
  | value (message : String)
  /-- `RuntimeError`. -/
  | runtime (message : String)

/-- The audit entry of a write to the record of a fingerprint. -/
inductive NornsAudit (D : Type) where
  /-- `issue_learning.applied`. -/
  | applied (operationDigest : D) (revision : ℕ)
  /-- `issue_learning.candidate_delivered`. -/
  | delivered (revision : ℕ)

/-- The threshold of a replica, as the constructor of Norns accepts it. -/
structure Threshold where
  value : ℕ
  pos : 1 ≤ value

/-- The most operations a record of a fingerprint keeps. -/
def windowSize (threshold : ℕ) : ℕ := min threshold maxFingerprintOperationDigests

def applicationFromState (value : FingerprintState D) (fingerprint : String) (threshold : ℕ)
    (operationCounted : Bool) : Except NornsError Application :=
  if value.revision < 1 || value.fingerprint ≠ fingerprint ||
      value.promotionThreshold ≠ threshold || value.operationDigests = [] ||
      windowSize threshold < value.operationDigests.length ||
      value.occurrenceCount < value.operationDigests.length ||
      ¬ value.operationDigests.Nodup ||
      (value.candidateState = .collecting && threshold ≤ value.occurrenceCount) ||
      (value.candidateState ≠ .collecting && value.occurrenceCount < threshold) then
    .error (.runtime "stored issue learning fingerprint state is malformed")
  else .ok ⟨fingerprint, threshold, value.occurrenceCount, value.candidateState, operationCounted⟩

def validateOperationState (value : OperationState D) (operationDigest : D)
    (fingerprint : String) : Except NornsError Unit :=
  let expectedRevision := if value.status = .pending then 1 else 2
  if value ≠ ⟨expectedRevision, value.status, operationDigest, fingerprint⟩ then
    .error (.value "issue learning operation collides with different content")
  else .ok ()

def operationIdentityFromState (value : OperationState D) :
    Except NornsError (D × String × OperationStatus) :=
  if value.fingerprint = "" then
    .error (.runtime "stored issue learning operation state is malformed")
  else do
    validateOperationState value value.operationDigest value.fingerprint
    return (value.operationDigest, value.fingerprint, value.status)

/-- `candidate_state` by the count. -/
def candidateStateOf (count threshold : ℕ) : CandidateState :=
  if threshold ≤ count then .pending else .collecting

/-- What one attempt decides about the record of a fingerprint. -/
abbrev Attempt (D : Type) (α : Type) := Decision (FingerprintState D) (NornsAudit D) NornsError α

/-- The first record of a fingerprint. -/
def firstState (threshold : ℕ) (operationDigest : D) (fingerprint : String) : FingerprintState D :=
  ⟨1, fingerprint, threshold, [operationDigest], 1,
    if threshold = 1 then .pending else .collecting⟩

/-- The record with one operation more. -/
def nextState (threshold : ℕ) (operationDigest : D) (stored : FingerprintState D) :
    FingerprintState D :=
  { stored with
    revision := stored.revision + 1
    operationDigests := (stored.operationDigests ++ [operationDigest]).rtake (windowSize threshold)
    occurrenceCount := stored.occurrenceCount + 1
    candidateState := candidateStateOf (stored.occurrenceCount + 1) threshold }

/-- One attempt of `_apply_fingerprint_operation`. -/
def applyDecision (threshold : ℕ) (operationDigest : D) (fingerprint : String) :
    Option (FingerprintState D) → Attempt D Application
  | none =>
    let value := firstState threshold operationDigest fingerprint
    .write value (.applied operationDigest 1)
      (applicationFromState value fingerprint threshold true)
  | some stored => .ofExcept do
    let current ← applicationFromState stored fingerprint threshold false
    if operationDigest ∈ stored.operationDigests then return .done (.ok current)
    else if current.candidateState ≠ .collecting then return .done (.ok current)
    else
      let value := nextState threshold operationDigest stored
      return .write value (.applied operationDigest (stored.revision + 1))
        (applicationFromState value fingerprint threshold true)

/-- One attempt of `_mark_candidate_delivered`. -/
def deliverDecision (fingerprint : String) : Option (FingerprintState D) → Attempt D Unit
  | none => .done (.error (.runtime "issue learning fingerprint state disappeared"))
  | some stored => .ofExcept do
    let current ← applicationFromState stored fingerprint stored.promotionThreshold false
    match current.candidateState with
    | .delivered => return .done (.ok ())
    | .collecting => throw (.runtime "issue learning candidate is not pending delivery")
    | .pending =>
      return .write { stored with revision := stored.revision + 1, candidateState := .delivered }
        (.delivered (stored.revision + 1)) (.ok ())

/-! ## The methods -/

/-- The calls on the records of operations. -/
inductive NornsRequest (D : Type) where
  /-- `write_state_with_audit_if_absent` of a claim. -/
  | claimOperation (claim : OperationState D)
  | readOperation (operationDigest : D)
  /-- `write_state`. -/
  | writeOperation (value : OperationState D)
  /-- The page of pending operations. -/
  | pendingOperations (limit : ℕ)

@[reducible] def NornsRequest.Answer : NornsRequest D → Type
  | .claimOperation _ => Bool
  | .readOperation _ => Option (OperationState D)
  | .writeOperation _ => Unit
  | .pendingOperations _ => List (OperationState D)

/-- The calls of Norns. -/
abbrev NornsOp (D : Type) := RegisterOp String (FingerprintState D) (NornsAudit D) (NornsRequest D)

/-- A program of Norns. -/
abbrev Norns (D : Type) (α : Type) :=
  Program (NornsOp D) (RegisterOp.Ans NornsRequest.Answer) NornsError α

/-- A call on the records of operations. -/
def ask (request : NornsRequest D) : Norns D request.Answer := invoke (RegisterOp.other request)

/-- Go on with a value, or raise. -/
def lift {α : Type} (result : Except NornsError α) : Norns D α := .done result

def applyFingerprintOperation (threshold : Threshold) (operationDigest : D)
    (fingerprint : String) : Norns D Application :=
  update FingerprintState.revision fingerprint
    (applyDecision threshold.value operationDigest fingerprint)
    (.runtime "issue learning fingerprint CAS retry limit exceeded") maxCasAttempts

def markCandidateDelivered (fingerprint : String) : Norns D Unit :=
  update FingerprintState.revision fingerprint (deliverDecision fingerprint)
    (.runtime "issue learning delivery CAS retry limit exceeded") maxCasAttempts

/-- The value that a stored fingerprint record has for a reader. -/
def readDecision (fingerprint : String) (threshold : ℕ) :
    Option (FingerprintState D) → Except NornsError Application
  | none => .ok ⟨fingerprint, threshold, 0, .collecting, false⟩
  | some stored => applicationFromState stored fingerprint threshold false

def readFingerprintApplication (threshold : Threshold) (fingerprint : String) :
    Norns D Application := do
  let stored ← readRecord fingerprint
  lift (readDecision fingerprint threshold.value stored)

/-- Whether a claim that exists already was applied. -/
def claimApplied (operationDigest : D) (fingerprint : String) : Norns D Bool := do
  let stored : Option (OperationState D) ← ask (.readOperation operationDigest)
  match stored with
  | none => throw (.runtime "issue learning claim disappeared after collision")
  | some claim => do
    lift (validateOperationState claim operationDigest fingerprint)
    let identity ← lift (operationIdentityFromState claim)
    return identity.2.2 = .applied

/-- The rest of `_apply_durable`: the operation is counted and its claim is closed. -/
def applyClaimed (threshold : Threshold) (operationDigest : D) (fingerprint : String) :
    Norns D Application := do
  let application ← applyFingerprintOperation threshold operationDigest fingerprint
  ask (.writeOperation ⟨2, .applied, operationDigest, fingerprint⟩)
  return application

/-- `_apply_durable`, for a claim that exists already. -/
def applyExisting (threshold : Threshold) (operationDigest : D) (fingerprint : String) :
    Norns D Application := do
  let applied ← claimApplied operationDigest fingerprint
  if applied then readFingerprintApplication threshold fingerprint
  else applyClaimed threshold operationDigest fingerprint

/-- `observe`, with a store: `_apply_durable`. -/
def observe (threshold : Threshold) (operationDigest : D) (fingerprint : String) :
    Norns D Application := do
  let created : Bool ← ask (.claimOperation ⟨1, .pending, operationDigest, fingerprint⟩)
  if created then applyClaimed threshold operationDigest fingerprint
  else applyExisting threshold operationDigest fingerprint

def recoverRows (threshold : Threshold) (recoveryLimit : ℕ) :
    List (OperationState D) → ℕ → Norns D ℕ
  | [], recovered => pure recovered
  | row :: rest, recovered =>
    if recovered = recoveryLimit then
      throw (.runtime "pending issue learning operation recovery capacity exceeded")
    else do
      let identity ← lift (operationIdentityFromState row)
      let _ ← applyClaimed threshold identity.1 identity.2.1
      recoverRows threshold recoveryLimit rest (recovered + 1)

/-- The pages of pending operations, at most so many. -/
def recoverPages (threshold : Threshold) (recoveryLimit : ℕ) : ℕ → ℕ → Norns D ℕ
  | 0, recovered => pure recovered
  | pages + 1, recovered =>
    if recoveryLimit < recovered then pure recovered
    else do
      let rows : List (OperationState D) ←
        ask (.pendingOperations (min recoveryPageSize (recoveryLimit - recovered + 1)))
      if rows.isEmpty then pure recovered
      else do
        let recovered ← recoverRows threshold recoveryLimit rows recovered
        recoverPages threshold recoveryLimit pages recovered

/-- `recover`. A page that is not empty recovers an operation or raises, so there are at most
`recoveryLimit + 1` of them. The second loop restores what is held in memory only. -/
def recover (threshold : Threshold) (recoveryLimit : ℕ) : Norns D ℕ :=
  recoverPages threshold recoveryLimit (recoveryLimit + 2) 0

/-- A call of a method. -/
inductive NornsCall (D : Type) where
  | observe (threshold : Threshold) (operationDigest : D) (fingerprint : String)
  | recover (threshold : Threshold) (recoveryLimit : ℕ)
  /-- `after_flush`, of one fingerprint. -/
  | deliver (fingerprint : String)

/-- What a call runs. -/
def NornsCall.program : NornsCall D → Norns D Unit
  | .observe threshold operationDigest fingerprint =>
    if fingerprint = "" then pure ()
    else do
      let _ ← NornsIssueDedup.observe threshold operationDigest fingerprint
      pure ()
  | .recover threshold recoveryLimit => do
    let _ ← NornsIssueDedup.recover threshold recoveryLimit
    pure ()
  | .deliver fingerprint => markCandidateDelivered fingerprint

/-- The records of operations, by their digests. -/
abbrev Operations (D : Type) := StateStore D fun _ => OperationState D

/-- The calls on the records of operations. -/
def performRequest (operations : Operations D) :
    (request : NornsRequest D) → request.Answer × Operations D
  | .claimOperation claim => operations.writeIfAbsent claim.operationDigest claim
  | .readOperation operationDigest => (operations.read operationDigest, operations)
  | .writeOperation value => ((), operations.write value.operationDigest value)
  | .pendingOperations limit =>
    (((operations.rows.map Sigma.snd).reverse.filter (·.status = .pending)).take limit, operations)

/-- The parts of the component. -/
def parts (D : Type) [DecidableEq D] : Registers String (FingerprintState D) (NornsAudit D)
    (Operations D) (NornsRequest D) Unit NornsRequest.Answer where
  revision := FingerprintState.revision
  lets _ _ := true
  other _ := performRequest

/-- **The replicas of Norns over one store.** -/
def nornsIssueDedup (D : Type) [DecidableEq D] : Machine (NornsOp D)
    (RegisterOp.Ans NornsRequest.Answer)
    (RegisterWorld String (FingerprintState D) (NornsAudit D) (Operations D)) NornsError Unit
    (NornsCall D) Unit :=
  (parts D).machine fun _ call => call.program

end Fdai.Core.NornsIssueDedup
