import Fdai.Concurrency.Machine
import Fdai.Providers.Contracts
import Fdai.Providers.StateStore

/-!
# The rule activation ledger

Replicas apply approved commands, each with a whole generation of rules, over one pointer. A
command reads the pointer, moves it by a compare-and-set, reads it back, and records one terminal
result for its request.

* `RuleActivationGeneration`, `RuleActivationCommand` — what is activated, and on whose request.
* `transitionMatches` — the candidate generation is the current one with the requested changes.
* `apply` — one delivery of a command.
* `LedgerWorld` — the store; `log` is not read by the code.

Commands and stored records are taken as validated. A generation id is a part of the digest of
the generation, and stands for it.
-/

namespace Fdai.Core.RuleActivation

open Fdai.Providers Fdai.Concurrency

/-! ## Contracts -/

inductive RuleActivationSource where
  | installation | pullRequest | direct | offlinePackage
  deriving DecidableEq

def RuleActivationSource.value : RuleActivationSource → String
  | .installation => "installation"
  | .pullRequest => "pull_request"
  | .direct => "direct"
  | .offlinePackage => "offline_package"

inductive RuleActivationStatus where
  | applied | alreadyApplied | conflict | rejected | failed
  deriving DecidableEq

/-- The status reports an active generation. -/
def RuleActivationStatus.isApplied : RuleActivationStatus → Bool
  | .applied | .alreadyApplied => true
  | _ => false

structure RuleActivationDelta where
  ruleId : String
  enabled : Bool

structure RuleActivationMember where
  ruleId : String
  ruleVersion : String
  ruleDigest : Digest
  deriving DecidableEq

structure RuleActivationGeneration where
  profileId : String
  profileVersion : String
  catalogDigest : Digest
  members : List RuleActivationMember
  createdAt : ℤ
  deriving DecidableEq

/-- `rule_activation_generation_digest`. -/
def RuleActivationGeneration.generationDigest (generation : RuleActivationGeneration) : Digest :=
  .ofFields [.text generation.profileId, .text generation.profileVersion,
    generation.catalogDigest, .ofFields (generation.members.map fun member =>
      .ofFields [.text member.ruleId, .text member.ruleVersion, member.ruleDigest])]

structure RuleActivationProposal where
  idempotencyKey : String
  expectedGenerationDigest : Option Digest
  source : RuleActivationSource
  sourceRef : String
  sourceDigest : Digest
  requestedBy : String
  requestedAt : ℤ
  reason : String
  changes : List RuleActivationDelta

/-- `rule_activation_proposal_digest`. -/
def RuleActivationProposal.digest (proposal : RuleActivationProposal) : Digest :=
  .ofFields [.text proposal.idempotencyKey, absentOrDigest proposal.expectedGenerationDigest,
    .text proposal.source.value, .text proposal.sourceRef, proposal.sourceDigest,
    .text proposal.requestedBy, instantDigest proposal.requestedAt, .text proposal.reason,
    .ofFields (proposal.changes.map fun change =>
      .ofFields [.text change.ruleId, .num (if change.enabled then 1 else 0)])]

structure RuleActivationApproval where
  approverIds : List String
  approvedAt : ℤ
  approvalRef : String

structure RuleActivationCommand where
  proposal : RuleActivationProposal
  approval : RuleActivationApproval
  generation : RuleActivationGeneration
  commandedAt : ℤ

namespace RuleActivationCommand

variable (command : RuleActivationCommand)

/-- `request_id`: a part of the digest of the proposal. -/
def requestId : Digest := command.proposal.digest

def commandDigest : Digest :=
  .ofFields [command.proposal.digest,
    .ofFields [.ofTexts command.approval.approverIds, instantDigest command.approval.approvedAt,
      .text command.approval.approvalRef],
    command.generation.generationDigest, instantDigest command.generation.createdAt,
    instantDigest command.commandedAt]

end RuleActivationCommand

structure RuleActivationResult where
  requestId : Digest
  commandDigest : Digest
  source : RuleActivationSource
  sourceRef : String
  requestedBy : String
  approverIds : List String
  reason : String
  changes : List RuleActivationDelta
  status : RuleActivationStatus
  previousGenerationDigest : Option Digest
  resultingGenerationDigest : Option Digest
  completedAt : ℤ
  readbackVerified : Bool
  failureReason : Option String := none

def result (command : RuleActivationCommand) (status : RuleActivationStatus)
    (previousDigest resultingDigest : Option Digest) (readbackVerified : Bool)
    (failureReason : Option String) : RuleActivationResult :=
  { requestId := command.requestId, commandDigest := command.commandDigest
    source := command.proposal.source, sourceRef := command.proposal.sourceRef
    requestedBy := command.proposal.requestedBy, approverIds := command.approval.approverIds
    reason := command.proposal.reason, changes := command.proposal.changes, status
    previousGenerationDigest := previousDigest, resultingGenerationDigest := resultingDigest
    completedAt := command.commandedAt, readbackVerified, failureReason }

structure Pointer where
  revision : ℕ
  generationId : Digest
  generationDigest : Digest
  previousGenerationDigest : Option Digest
  requestId : Digest
  commandDigest : Digest
  activatedAt : ℤ
  /-- The identity upgrade has fenced the pointer. -/
  v2Authoritative : Bool := false

def pointerRevision : Option Pointer → ℕ
  | none => 0
  | some pointer => pointer.revision

structure IdempotencyRecord where
  requestId : Digest
  commandDigest : Digest
  deriving DecidableEq

/-- What a ledger raises. -/
inductive LedgerError where
  /-- `RuleActivationLedgerConflictError`. -/
  | conflict (message : String)
  /-- `RuleActivationLedgerCorruptionError`. -/
  | corruption (message : String)
  | runtime (message : String)

/-- The rules a command leaves in a generation; an enabled rule has to be in the target. -/
def expectedIds (targetIds : List String) :
    List RuleActivationDelta → List String → Option (List String)
  | [], ids => some ids
  | change :: rest, ids =>
    if change.enabled then
      if change.ruleId ∈ targetIds then expectedIds targetIds rest (ids.insert change.ruleId)
      else none
    else expectedIds targetIds rest (ids.filter (· ≠ change.ruleId))

def transitionMatches (current : Option RuleActivationGeneration)
    (target : RuleActivationGeneration) (command : RuleActivationCommand) : Bool :=
  match current with
  | none => command.proposal.source = .installation ∨ command.proposal.source = .offlinePackage
  | some current =>
    if target.profileId ≠ current.profileId ∨ target.profileVersion ≠ current.profileVersion ∨
        target.catalogDigest ≠ current.catalogDigest then false
    else
      let targetIds := target.members.map RuleActivationMember.ruleId
      match expectedIds targetIds command.proposal.changes
          (current.members.map RuleActivationMember.ruleId) with
      | none => false
      | some ids =>
        targetIds.all (· ∈ ids) && ids.all (· ∈ targetIds) && current.members.all fun member =>
            (target.members.find? (·.ruleId = member.ruleId)).all (· = member)

/-- Which look at the pointer a delivery takes. -/
inductive Look where
  | first | readback

/-- What a ledger calls. Who reads the pointer is known. -/
inductive LedgerOp where
  | readResult (requestId : Digest)
  | writeIdempotencyIfAbsent (key : String) (value : IdempotencyRecord)
  | readIdempotency (key : String)
  /-- The read of the pointer that looks for the fence. -/
  | readPointer (command : RuleActivationCommand)
  /-- The read of the pointer in `current_generation`. -/
  | readCurrent (command : RuleActivationCommand) (look : Look)
  | readGeneration (generationId : Digest)
  | writeGenerationIfAbsent (generation : RuleActivationGeneration)
  | writePointerIfAbsent (command : RuleActivationCommand) (value : Pointer)
  | compareAndSetPointer (command : RuleActivationCommand) (value : Pointer) (expectedRevision : ℕ)
  | writeResultIfAbsent (value : RuleActivationResult)

@[reducible] def LedgerOp.Ans : LedgerOp → Type
  | .readResult _ => Option RuleActivationResult
  | .readIdempotency _ => Option IdempotencyRecord
  | .readPointer _ | .readCurrent _ _ => Option Pointer
  | .readGeneration _ => Option RuleActivationGeneration
  | .writeIdempotencyIfAbsent _ _ | .writeGenerationIfAbsent _ | .writePointerIfAbsent _ _
  | .compareAndSetPointer _ _ _ | .writeResultIfAbsent _ => Bool

/-- A program of a ledger. -/
abbrev Activating (α : Type) := Program LedgerOp LedgerOp.Ans LedgerError α

/-- Make one call. -/
def ask (op : LedgerOp) : Activating op.Ans := Program.invoke op

/-! ## Operations -/

def resultFor (command : RuleActivationCommand) : Activating (Option RuleActivationResult) := do
  let raw : Option RuleActivationResult ← ask (.readResult command.requestId)
  match raw with
  | none => pure none
  | some result =>
    if result.commandDigest ≠ command.commandDigest then
      throw (.conflict "Rule activation request identity was reused with another command")
    else pure (some result)

def reserveIdempotency (command : RuleActivationCommand) : Activating Unit := do
  let body : IdempotencyRecord := ⟨command.requestId, command.commandDigest⟩
  let created : Bool ← ask (.writeIdempotencyIfAbsent command.proposal.idempotencyKey body)
  if created then pure ()
  else do
    let existing : Option IdempotencyRecord ← ask (.readIdempotency command.proposal.idempotencyKey)
    if existing ≠ some body then
      throw (.conflict "Rule activation idempotency key was reused with another command")
    else pure ()

def currentGeneration (command : RuleActivationCommand) (look : Look) :
    Activating (Option RuleActivationGeneration) := do
  let pointer : Option Pointer ← ask (.readCurrent command look)
  match pointer with
  | none => pure none
  | some pointer => do
    let raw : Option RuleActivationGeneration ← ask (.readGeneration pointer.generationId)
    match raw with
    | none => throw (.corruption "Durable Rule activation generation failed validation")
    | some generation =>
      if generation.generationDigest ≠ pointer.generationDigest then
        throw (.corruption "Rule activation pointer and generation digest do not match")
      else pure (some generation)

def storeGeneration (generation : RuleActivationGeneration) : Activating Unit := do
  let created : Bool ← ask (.writeGenerationIfAbsent generation)
  if created then pure ()
  else do
    let existing : Option RuleActivationGeneration ←
      ask (.readGeneration generation.generationDigest)
    if existing ≠ some generation then
      throw (.conflict "Rule activation generation identity was reused with different content")
    else pure ()

/-- The pointer that a command writes. -/
def nextPointer (command : RuleActivationCommand) (pointer : Option Pointer)
    (previousDigest : Option Digest) : Pointer :=
  { revision := pointerRevision pointer + 1
    generationId := command.generation.generationDigest
    generationDigest := command.generation.generationDigest
    previousGenerationDigest := previousDigest
    requestId := command.requestId, commandDigest := command.commandDigest
    activatedAt := command.commandedAt }

def changePointer (command : RuleActivationCommand) (pointer : Option Pointer)
    (previousDigest : Option Digest) : Activating Bool :=
  let value := nextPointer command pointer previousDigest
  match pointer with
  | none => ask (.writePointerIfAbsent command value)
  | some pointer => ask (.compareAndSetPointer command value pointer.revision)

def commitResult (value : RuleActivationResult) : Activating RuleActivationResult := do
  let created : Bool ← ask (.writeResultIfAbsent value)
  if created then pure value
  else do
    let existing : Option RuleActivationResult ← ask (.readResult value.requestId)
    match existing with
    | none => throw (.runtime "Rule activation result write lost its durable state")
    | some terminal =>
      if terminal.commandDigest ≠ value.commandDigest then
        throw (.conflict "Rule activation request identity was reused with another result")
      else pure terminal

/-- The second half of `apply`: the pointer is moved and read back. -/
def applyTransition (command : RuleActivationCommand) (pointer : Option Pointer)
    (observed : Option Digest) : Activating RuleActivationResult := do
  let target := command.generation.generationDigest
  storeGeneration command.generation
  let changed ← changePointer command pointer observed
  let readback ← currentGeneration command .readback
  if readback.map (·.generationDigest) = some target then
    commitResult (result command (if changed then .applied else .alreadyApplied) observed
      (some target) true none)
  else
    commitResult (result command (if changed then .failed else .conflict) observed none false
      (some (if changed then "activation_readback_failed"
        else "active_generation_identity_mismatch")))

def apply (command : RuleActivationCommand) : Activating RuleActivationResult := do
  let target := command.generation.generationDigest
  match ← resultFor command with
  | some existing => pure existing
  | none => do
    reserveIdempotency command
    let pointer : Option Pointer ← ask (.readPointer command)
    if pointer.any (·.v2Authoritative) then
      commitResult (result command .rejected (pointer.map (·.generationDigest)) none false
        (some "version2_activation_is_authoritative"))
    else do
      let current ← currentGeneration command .first
      let observed := current.map (·.generationDigest)
      if observed = some target then
        commitResult (result command .alreadyApplied
          (pointer.bind (·.previousGenerationDigest)) (some target) true none)
      else if observed ≠ command.proposal.expectedGenerationDigest then
        commitResult (result command .conflict observed none false
          (some "active_generation_identity_mismatch"))
      else if ¬ transitionMatches current command.generation command then
        commitResult (result command .rejected observed none false
          (some "candidate_generation_does_not_match_requested_changes"))
      else applyTransition command pointer observed

/-- What happens to the pointer and the terminal records. -/
inductive LedgerEvent where
  /-- A command moves the pointer to a revision. -/
  | moved (commandDigest : Digest) (revision : ℕ)
  /-- The generation of a command was made, or found to be, current. -/
  | current (commandDigest generationDigest : Digest)
  /-- A delivery of a command has read a pointer on which it gives up. -/
  | refused (commandDigest : Digest)
  /-- The terminal record of a command is written. -/
  | closed (commandDigest requestId : Digest)
  deriving DecidableEq

structure LedgerWorld where
  pointer : Option Pointer := none
  generations : StateStore Digest fun _ => RuleActivationGeneration := StateStore.empty
  idempotency : StateStore String fun _ => IdempotencyRecord := StateStore.empty
  results : StateStore Digest fun _ => RuleActivationResult := StateStore.empty
  log : List LedgerEvent := []

/-- The generation that the pointer selects. -/
def LedgerWorld.current (w : LedgerWorld) : Option RuleActivationGeneration :=
  w.pointer.bind fun pointer => w.generations.read pointer.generationId

/-- A delivery that reads back another generation than its own gives up; at its first look it does
so unless it may replace the one it sees. -/
def givesUp (command : RuleActivationCommand) (current : Option RuleActivationGeneration) :
    Look → Bool
  | .first => current.map (·.generationDigest) ≠ command.proposal.expectedGenerationDigest ∨
      ¬ transitionMatches current command.generation command
  | .readback => true

/-- What a delivery learns when it looks at the pointer. -/
def LedgerWorld.look (w : LedgerWorld) (command : RuleActivationCommand) (look : Look) :
    List LedgerEvent :=
  if w.pointer.map (·.generationDigest) = some command.generation.generationDigest then
    [.current command.commandDigest command.generation.generationDigest]
  else if givesUp command w.current look then [.refused command.commandDigest]
  else []

def LedgerWorld.moved (w : LedgerWorld) (command : RuleActivationCommand) (value : Pointer) :
    LedgerWorld :=
  { w with
    pointer := some value
    log := w.log ++ [.moved command.commandDigest value.revision,
      .current command.commandDigest command.generation.generationDigest] }

/-- The effect of one call. -/
def LedgerWorld.perform (w : LedgerWorld) : (op : LedgerOp) → op.Ans × LedgerWorld
  | .readResult requestId => (w.results.read requestId, w)
  | .writeIdempotencyIfAbsent key value =>
    let (created, idempotency) := w.idempotency.writeIfAbsent key value
    (created, { w with idempotency })
  | .readIdempotency key => (w.idempotency.read key, w)
  | .readPointer command =>
    (w.pointer, if w.pointer.any (·.v2Authoritative) then
      { w with log := w.log ++ [.refused command.commandDigest] } else w)
  | .readCurrent command look => (w.pointer, { w with log := w.log ++ w.look command look })
  | .readGeneration generationId => (w.generations.read generationId, w)
  | .writeGenerationIfAbsent generation =>
    let (created, generations) :=
      w.generations.writeIfAbsent generation.generationDigest generation
    (created, { w with generations })
  | .writePointerIfAbsent command value =>
    match w.pointer with
    | none => (true, w.moved command value)
    | some _ => (false, w)
  | .compareAndSetPointer command value expectedRevision =>
    match w.pointer with
    | none => (false, w)
    | some stored =>
      if stored.revision = expectedRevision then (true, w.moved command value) else (false, w)
  | .writeResultIfAbsent value =>
    match w.results.read value.requestId with
    | some _ => (false, w)
    | none => (true,
        { w with
          results := w.results.write value.requestId value
          log := w.log ++ [.closed value.commandDigest value.requestId] })

/-- Replicas over one store; nothing comes from outside. -/
def ledgerMachine : Machine LedgerOp LedgerOp.Ans LedgerWorld LedgerError RuleActivationResult
    RuleActivationCommand Unit where
  perform _ := LedgerWorld.perform
  program _ command := apply command

end Fdai.Core.RuleActivation
