import Mathlib.Data.Finset.Sort
import Mathlib.Data.String.Basic
import Fdai.Providers.Contracts

/-!
# The lifecycle of a standing authorization

A family of standing authorizations is admitted once, renewed by later revisions and revoked. Each
change is a transition of an append-only history, chained by digests, and a snapshot is the
projection of the history that a dispatch is fenced by.

* `AuthorizationLifecycleCommand` — a command, with the checks of its constructor as a field.
* `AuthorizationTransition`, `AuthorizationSnapshot` — the records.
* `replayLifecycle` — the snapshot of a history, or an error.
* `planLifecycleTransition` — what a command does to a history.
* `LifecycleStore.apply` — the store of all families, which keeps what is planned.

Times are instants: the constructors refuse a time without a time zone. Of a revision only what the
planner and the replay read is kept.
-/

namespace Fdai.Core.StandingAuthority

open Fdai.Providers (Digest)

inductive AuthorizationCommandKind where
  | admission | renewal | revocation
  deriving DecidableEq

def AuthorizationCommandKind.value : AuthorizationCommandKind → String
  | .admission => "admit"
  | .renewal => "renew"
  | .revocation => "revoke"

inductive AuthorizationSnapshotStatus where
  | active | revoked
  deriving DecidableEq

def AuthorizationSnapshotStatus.value : AuthorizationSnapshotStatus → String
  | .active => "active"
  | .revoked => "revoked"

inductive AuthorizationWriteStatus where
  | applied | duplicate

def requireText (name value : String) : Bool × String :=
  (!isBlank value && value.length ≤ 512, name ++ " MUST be bounded non-empty text")

def requireDigest (name : String) (value : Digest) : Bool × String :=
  (wellFormedDigest value, name ++ " MUST be a sha256 digest")

/-- `require_digest`, of a digest that may be absent. -/
def requireDigest? (name : String) : Option Digest → Bool × String
  | none => (true, "")
  | some value => requireDigest name value

/-- The digest of a list of texts in its order. -/
def rolesDigest (roles : List String) : Digest := Digest.ofTexts roles

/-! ## Commands -/

/-- The fields of an `AuthenticatedAuthorizationCommand`. -/
structure CommandContextFields where
  commandId : String
  actorRef : String
  actorKind : String
  actorRoles : Finset String
  authenticationEvidenceDigest : Digest
  authenticatedAt : ℤ
  correlationId : String

def CommandContextFields.check (context : CommandContextFields) : Except String Unit := validate [
  requireText "command_id" context.commandId,
  requireText "actor_ref" context.actorRef,
  requireText "correlation_id" context.correlationId,
  (context.actorKind = "human", "standing authority mutation requires a human actor"),
  (context.actorRoles ≠ ∅ ∧ (∀ role ∈ context.actorRoles, isBlank role = false) ∧
      context.actorRoles ∩ {"owner", "service_owner"} ≠ ∅,
    "authenticated command roles MUST be non-empty"),
  (!context.actorRef.startsWith "agent:" && !context.actorRef.startsWith "identity:thor",
    "standing authority mutation requires a human actor"),
  requireDigest "authentication_evidence_digest" context.authenticationEvidenceDigest]

/-- `AuthenticatedAuthorizationCommand`. -/
abbrev CommandContext := Valid CommandContextFields.check

structure AuthorizationProofBindings where
  revisionId : Digest
  approvalClaimDigest : Digest
  approvalsDigest : Digest
  evidenceClaimDigest : Digest
  evidenceVerificationBundleDigest : Digest

structure AuthorizationRevision where
  familyId : String
  revisionId : Digest
  predecessorRevisionId : Option Digest
  proofBindings : AuthorizationProofBindings
  revisionId_wellFormed : wellFormedDigest revisionId = true
  predecessor_wellFormed : ∀ digest ∈ predecessorRevisionId, wellFormedDigest digest = true

/-- The fields of an `AuthorizationLifecycleCommand`. -/
structure LifecycleCommandFields where
  kind : AuthorizationCommandKind
  familyId : String
  context : CommandContext
  occurredAt : ℤ
  expectedRevisionId : Option Digest
  expectedFencingGeneration : ℤ
  revision : Option AuthorizationRevision
  wholeFamily : Bool

/-- Whether the fields have the shape of the kind of command. -/
def LifecycleCommandFields.shape (command : LifecycleCommandFields) : Bool × String :=
  match command.kind, command.revision with
  | .admission, some revision =>
    (revision.familyId = command.familyId ∧ revision.predecessorRevisionId = none ∧
      command.expectedRevisionId = none ∧ command.expectedFencingGeneration = 0 ∧
      command.wholeFamily = false, "admit command shape is invalid")
  | .admission, none => (false, "admit command shape is invalid")
  | .renewal, some revision =>
    (revision.familyId = command.familyId ∧
      revision.predecessorRevisionId = command.expectedRevisionId ∧
      command.expectedRevisionId ≠ none ∧ 1 ≤ command.expectedFencingGeneration ∧
      command.wholeFamily = false, "renew command shape is invalid")
  | .renewal, none => (false, "renew command shape is invalid")
  | .revocation, revision =>
    (revision = none ∧ 1 ≤ command.expectedFencingGeneration ∧
      command.wholeFamily ≠ command.expectedRevisionId.isSome,
      "revoke MUST target either the expected revision or the whole family")

def LifecycleCommandFields.check (command : LifecycleCommandFields) : Except String Unit :=
  validate [ requireText "family_id" command.familyId, (0 ≤ command.expectedFencingGeneration,
      "expected fencing generation MUST be non-negative"),
    requireDigest? "expected_revision_id" command.expectedRevisionId,
    command.shape]

/-- **A lifecycle command.** -/
abbrev AuthorizationLifecycleCommand := Valid LifecycleCommandFields.check

namespace LifecycleCommandFields

/-- `command_id` of the context. -/
def commandId (command : LifecycleCommandFields) : String := command.context.val.commandId

/-- `sorted(actor_roles)`. -/
def actorRoles (command : LifecycleCommandFields) : List String :=
  command.context.val.actorRoles.sort (· ≤ ·)

def commandDigest (command : LifecycleCommandFields) : Digest :=
  let context := command.context.val
  let bindings := command.revision.map AuthorizationRevision.proofBindings
  .ofFields [ .text command.kind.value, .text command.familyId, .text context.commandId,
    .text context.actorRef, rolesDigest command.actorRoles,
    context.authenticationEvidenceDigest, instantDigest context.authenticatedAt,
    .text context.correlationId, instantDigest command.occurredAt,
    absentOrDigest command.expectedRevisionId,
    .text (toString command.expectedFencingGeneration),
    absentOrDigest (command.revision.map AuthorizationRevision.revisionId),
    absentOrDigest (bindings.map AuthorizationProofBindings.approvalsDigest),
    absentOrDigest (bindings.map AuthorizationProofBindings.approvalClaimDigest),
    absentOrDigest (bindings.map AuthorizationProofBindings.evidenceVerificationBundleDigest),
    absentOrDigest (bindings.map AuthorizationProofBindings.evidenceClaimDigest),
    .text (toString command.wholeFamily)]

end LifecycleCommandFields

/-- The fields of an `AuthorizationTransition`. -/
structure TransitionFields where
  familyId : String
  sequence : ℕ
  kind : AuthorizationCommandKind
  commandId : String
  commandDigest : Digest
  actorRef : String
  actorRoles : List String
  authenticationEvidenceDigest : Digest
  authenticatedAt : ℤ
  correlationId : String
  revisionId : Digest
  predecessorRevisionId : Option Digest
  fencingGeneration : ℕ
  occurredAt : ℤ
  previousTransitionDigest : Option Digest
  transitionDigest : Digest

namespace TransitionFields

/-- The digest of `body`. -/
def bodyDigest (transition : TransitionFields) : Digest := .ofFields [
  .text transition.familyId, .num transition.sequence, .text transition.kind.value,
  .text transition.commandId, transition.commandDigest, .text transition.actorRef,
  rolesDigest transition.actorRoles, transition.authenticationEvidenceDigest,
  instantDigest transition.authenticatedAt, .text transition.correlationId,
  transition.revisionId, absentOrDigest transition.predecessorRevisionId,
  .num transition.fencingGeneration, instantDigest transition.occurredAt,
  absentOrDigest transition.previousTransitionDigest]

def check (transition : TransitionFields) : Except String Unit := validate [
  requireText "family_id" transition.familyId,
  requireText "command_id" transition.commandId,
  requireText "actor_ref" transition.actorRef,
  requireText "correlation_id" transition.correlationId,
  requireDigest "command_digest" transition.commandDigest,
  requireDigest "authentication_evidence_digest" transition.authenticationEvidenceDigest,
  requireDigest "revision_id" transition.revisionId,
  requireDigest "transition_digest" transition.transitionDigest,
  (transition.actorRoles ≠ [] ∧ transition.actorRoles = transition.actorRoles.toFinset.sort (· ≤ ·),
    "transition actor roles MUST be canonical"),
  requireDigest? "predecessor_revision_id" transition.predecessorRevisionId,
  requireDigest? "previous_transition_digest" transition.previousTransitionDigest,
  (1 ≤ transition.sequence ∧ 1 ≤ transition.fencingGeneration,
    "transition sequence and generation MUST be positive"),
  (transition.authenticatedAt ≤ transition.occurredAt,
    "transition cannot precede command authentication"),
  (transition.transitionDigest = transition.bodyDigest, "transition digest mismatch")]

end TransitionFields

/-- **A transition.** -/
abbrev AuthorizationTransition := Valid TransitionFields.check

/-! ## Snapshots -/

/-- The fields of an `AuthorizationSnapshot`. -/
structure SnapshotFields where
  familyId : String
  currentRevisionId : Digest
  status : AuthorizationSnapshotStatus
  fencingGeneration : ℕ
  lastSequence : ℕ
  headTransitionDigest : Digest
  snapshotDigest : Digest
  deriving DecidableEq

namespace SnapshotFields

/-- The digest of `body`. -/
def bodyDigest (snapshot : SnapshotFields) : Digest := .ofFields [
  .text snapshot.familyId, snapshot.currentRevisionId, .text snapshot.status.value,
  .num snapshot.fencingGeneration, .num snapshot.lastSequence, snapshot.headTransitionDigest]

def check (snapshot : SnapshotFields) : Except String Unit := validate [
  requireText "family_id" snapshot.familyId,
  requireDigest "current_revision_id" snapshot.currentRevisionId,
  requireDigest "head_transition_digest" snapshot.headTransitionDigest,
  requireDigest "snapshot_digest" snapshot.snapshotDigest,
  (1 ≤ snapshot.fencingGeneration ∧ 1 ≤ snapshot.lastSequence,
    "snapshot counters MUST be positive"),
  (snapshot.snapshotDigest = snapshot.bodyDigest, "authorization snapshot digest mismatch")]

end SnapshotFields

/-- **A snapshot.** -/
abbrev AuthorizationSnapshot := Valid SnapshotFields.check

/-- The status that a transition leaves. -/
def AuthorizationCommandKind.status : AuthorizationCommandKind → AuthorizationSnapshotStatus
  | .revocation => .revoked
  | _ => .active

def TransitionFields.snapshotFields (transition : TransitionFields) : SnapshotFields :=
  let status := transition.kind.status
  { familyId := transition.familyId
    currentRevisionId := transition.revisionId
    status := status
    fencingGeneration := transition.fencingGeneration
    lastSequence := transition.sequence
    headTransitionDigest := transition.transitionDigest
    snapshotDigest := .ofFields [
      .text transition.familyId, transition.revisionId, .text status.value,
      .num transition.fencingGeneration, .num transition.sequence, transition.transitionDigest] }

def fromTransition (transition : AuthorizationTransition) : Except String AuthorizationSnapshot :=
  construct SnapshotFields.check transition.val.snapshotFields

structure LifecycleFence where
  familyId : String
  revisionId : Digest
  fencingGeneration : ℕ
  transitionDigest : Digest

/-- `fence`. The checks of a fence are among those of a snapshot. -/
def SnapshotFields.fence (snapshot : SnapshotFields) : LifecycleFence :=
  ⟨snapshot.familyId, snapshot.currentRevisionId, snapshot.fencingGeneration,
    snapshot.headTransitionDigest⟩

def fenceMatches (snapshot : Option AuthorizationSnapshot) (fence : LifecycleFence) : Bool :=
  match snapshot with
  | none => false
  | some snapshot =>
    snapshot.val.status = .active && snapshot.val.familyId = fence.familyId &&
      snapshot.val.currentRevisionId = fence.revisionId &&
      snapshot.val.fencingGeneration = fence.fencingGeneration &&
      snapshot.val.headTransitionDigest = fence.transitionDigest

def LifecycleCommandFields.transitionFields (command : LifecycleCommandFields)
    (snapshot : Option AuthorizationSnapshot) : TransitionFields :=
  let revisionId := match command.revision, snapshot with
    | some revision, _ => revision.revisionId
    | none, some snapshot => snapshot.val.currentRevisionId
    | none, none => .text ""
  let fields : TransitionFields :=
    { familyId := command.familyId
      sequence := match snapshot with
        | none => 1
        | some snapshot => snapshot.val.lastSequence + 1
      kind := command.kind
      commandId := command.commandId
      commandDigest := command.commandDigest
      actorRef := command.context.val.actorRef
      actorRoles := command.actorRoles
      authenticationEvidenceDigest := command.context.val.authenticationEvidenceDigest
      authenticatedAt := command.context.val.authenticatedAt
      correlationId := command.context.val.correlationId
      revisionId := revisionId
      predecessorRevisionId := match command.revision with
        | some revision => revision.predecessorRevisionId
        | none => some revisionId
      fencingGeneration := match snapshot with
        | none => 1
        | some snapshot => snapshot.val.fencingGeneration + 1
      occurredAt := command.occurredAt
      previousTransitionDigest := snapshot.map (·.val.headTransitionDigest)
      transitionDigest := .none }
  { fields with transitionDigest := fields.bodyDigest }

/-- `AuthorizationTransition.create`. -/
def createTransition (snapshot : Option AuthorizationSnapshot)
    (command : AuthorizationLifecycleCommand) : Except String AuthorizationTransition :=
  construct TransitionFields.check (command.val.transitionFields snapshot)

/-- Where the replay stands: the next sequence number, the commands seen, and the snapshot. -/
structure Replay where
  expectedSequence : ℕ
  seenCommands : List String
  snapshot : Option AuthorizationSnapshot

/-- The revision with an identity. -/
def findRevision (revisions : List AuthorizationRevision) (revisionId : Digest) :
    Option AuthorizationRevision :=
  revisions.find? fun revision => revision.revisionId = revisionId

/-- The checks against the snapshot before a transition. -/
def checkPosition (snapshot : Option AuthorizationSnapshot) (transition : TransitionFields) :
    Except String Unit :=
  match snapshot with
  | none => validate [ (transition.kind = .admission ∧ transition.previousTransitionDigest = none ∧
          transition.fencingGeneration = 1 ∧ transition.predecessorRevisionId = none,
        "lifecycle history MUST start with admit")]
  | some snapshot => validate [ (snapshot.val.status = .active ∧
          transition.previousTransitionDigest = some snapshot.val.headTransitionDigest ∧
          transition.fencingGeneration = snapshot.val.fencingGeneration + 1,
        "lifecycle transition chain is invalid"),
      match transition.kind with
      | .renewal => (transition.predecessorRevisionId = some snapshot.val.currentRevisionId,
          "renewal predecessor is invalid")
      | .revocation => (transition.revisionId = snapshot.val.currentRevisionId,
          "revocation revision is invalid")
      | .admission => (false, "admit can occur only once")]

def checkRevision (revisions : List AuthorizationRevision) (transition : TransitionFields) :
    Except String Unit :=
  match findRevision revisions transition.revisionId with
  | none => .error "lifecycle transition references a missing revision"
  | some revision => validate [ (¬ (transition.kind = .renewal ∧
          revision.predecessorRevisionId ≠ transition.predecessorRevisionId),
        "renewal revision lineage is invalid")]

def replayStep (revisions : List AuthorizationRevision) (familyId : String) (replay : Replay)
    (transition : AuthorizationTransition) : Except String Replay := do
  validate [ (transition.val.sequence = replay.expectedSequence ∧
        transition.val.commandId ∉ replay.seenCommands,
      "lifecycle transition sequence is invalid"),
    (transition.val.familyId = familyId, "lifecycle history mixed authorization families")]
  checkPosition replay.snapshot transition.val
  checkRevision revisions transition.val
  let snapshot ← fromTransition transition
  return ⟨replay.expectedSequence + 1, transition.val.commandId :: replay.seenCommands,
    some snapshot⟩

def replayAll (revisions : List AuthorizationRevision) (familyId : String)
    (transitions : List AuthorizationTransition) : Except String Replay :=
  transitions.foldlM (replayStep revisions familyId) ⟨1, [], none⟩

/-- The family of the first transition. -/
def familyOf (transitions : List AuthorizationTransition) : String :=
  (transitions.head?.map (·.val.familyId)).getD ""

def replayLifecycle (transitions : List AuthorizationTransition)
    (revisions : List AuthorizationRevision) :
    Except String (Option AuthorizationSnapshot) := do
  let replay ← replayAll revisions (familyOf transitions) transitions
  return replay.snapshot

/-- `AuthorizationLifecycleWriteResult`. -/
structure LifecycleWriteResult where
  status : AuthorizationWriteStatus
  transition : AuthorizationTransition
  snapshot : AuthorizationSnapshot

/-- Whether a command may follow the snapshot. -/
def checkCurrent (snapshot : Option AuthorizationSnapshot)
    (transitions : List AuthorizationTransition) (command : LifecycleCommandFields) :
    Except String Unit :=
  match command.kind, snapshot with
  | .admission, snapshot =>
    validate [(snapshot = none ∧ transitions = [], "authorization family already exists")]
  | _, none => .error "authorization family is not active"
  | _, some snapshot => validate [
      (snapshot.val.status = .active, "authorization family is not active"),
      (snapshot.val.fencingGeneration = command.expectedFencingGeneration,
        "stale fencing generation"),
      (match command.expectedRevisionId with
        | none => true
        | some expected => snapshot.val.currentRevisionId = expected,
        "stale authorization revision")]

/-- Whether the revision of a command is new, and so are its proofs. -/
def checkNewRevision (revisions : List AuthorizationRevision)
    (command : LifecycleCommandFields) : Except String Unit :=
  match command.revision with
  | none => .ok ()
  | some new => validate [
      (findRevision revisions new.revisionId = none, "authorization revision already exists"),
      (∀ revision ∈ revisions,
          revision.proofBindings.approvalsDigest ≠ new.proofBindings.approvalsDigest ∧
          revision.proofBindings.evidenceVerificationBundleDigest ≠
            new.proofBindings.evidenceVerificationBundleDigest,
        "authorization approval and evidence proofs MUST NOT be reused")]

/-- The transition of a command that was not applied before. -/
def planNew (snapshot : Option AuthorizationSnapshot)
    (transitions : List AuthorizationTransition) (revisions : List AuthorizationRevision)
    (command : AuthorizationLifecycleCommand) : Except String LifecycleWriteResult := do
  checkCurrent snapshot transitions command.val
  checkNewRevision revisions command.val
  let transition ← createTransition snapshot command
  let next ← fromTransition transition
  return ⟨.applied, transition, next⟩

/-- The answer to a command that was applied before. -/
def planDuplicate (snapshot : Option AuthorizationSnapshot)
    (duplicate : AuthorizationTransition) (command : AuthorizationLifecycleCommand) :
    Except String LifecycleWriteResult :=
  if duplicate.val.commandDigest ≠ command.val.commandDigest then
    .error "idempotency key payload conflict"
  else
    match snapshot with
    | none => .error "duplicate command has no current projection"
    | some snapshot => .ok ⟨.duplicate, duplicate, snapshot⟩

def planLifecycleTransition (snapshot : Option AuthorizationSnapshot)
    (transitions : List AuthorizationTransition) (revisions : List AuthorizationRevision)
    (command : AuthorizationLifecycleCommand) : Except String LifecycleWriteResult := do
  let replayed ← replayLifecycle transitions revisions
  if replayed ≠ snapshot then
    throw "lifecycle projection does not match transition history"
  else
    match transitions.find? fun transition =>
        transition.val.commandId = command.val.commandId with
    | some duplicate => planDuplicate snapshot duplicate command
    | none => planNew snapshot transitions revisions command

/-- What is stored of a family. -/
structure FamilyRows where
  transitions : List AuthorizationTransition := []
  revisions : List AuthorizationRevision := []
  snapshot : Option AuthorizationSnapshot := none

/-- The rows after a planned write. -/
def FamilyRows.write (rows : FamilyRows) (command : AuthorizationLifecycleCommand)
    (result : LifecycleWriteResult) : FamilyRows where
  transitions := rows.transitions ++ [result.transition]
  revisions := rows.revisions ++ command.val.revision.toList
  snapshot := some result.snapshot

/-- The rows after a command: `apply` commits the whole write, or nothing. -/
def FamilyRows.apply (rows : FamilyRows) (command : AuthorizationLifecycleCommand) :
    FamilyRows :=
  match planLifecycleTransition rows.snapshot rows.transitions rows.revisions command with
  | .ok result =>
    match result.status with
    | .applied => rows.write command result
    | .duplicate => rows
  | .error _ => rows

/-- The rows of every family. -/
abbrev LifecycleStore := String → FamilyRows

/-- `apply`, which reads and writes the rows of the family of the command. -/
def LifecycleStore.apply (store : LifecycleStore) (command : AuthorizationLifecycleCommand) :
    LifecycleStore :=
  Function.update store command.val.familyId ((store command.val.familyId).apply command)

def storeAfter (commands : List AuthorizationLifecycleCommand) : LifecycleStore :=
  commands.foldl LifecycleStore.apply fun _ => {}

end Fdai.Core.StandingAuthority
