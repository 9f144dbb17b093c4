import Mathlib.Algebra.GroupWithZero.Nat
import Mathlib.Data.List.Sort
import Mathlib.Data.Prod.Lex
import Mathlib.Data.String.Basic
import Fdai.Providers.Checks
import Fdai.Providers.Text
import Fdai.Providers.Time
import Fdai.Sequences.ReplaceFirst

/-!
# Follow-ups to a busy session

While a turn is active, the owner of a session may send more input. Each input gets one disposition:
it is rejected, or it is pending until it is consumed or expires.

* `arbitrateBusyInput`, `finishActiveTurn`, `consumePendingInput` — what happens to the projection of
  a session.
* `Session` — what the store in memory keeps of a session: its state without the pending inputs, and
  every record in the order of arrival.
* `BusyStore`, `step` — the store, and what one call does to it.

A call holds the lock of the store from its first read to its last write, so calls follow each other.
A call that raises may have written before, so a step gives both the store and the outcome.
-/

namespace Fdai.Core.Conversation

open Fdai.Sequences (Keyed replaceFirst)

/-- What a call raises. -/
inductive BusyError where
  | conflict (message : String)
  | permission (message : String)
  /-- A `LookupError`, with what was not found. -/
  | lookup (kind : String) (named : String)
  | value (message : String)
  deriving DecidableEq

/-- Raise the first check that fails. -/
def require (checks : List (Bool × String)) : Except BusyError Unit :=
  match validate checks with
  | .ok () => .ok ()
  | .error message => .error (.value message)

@[simp] theorem require_eq_ok {checks : List (Bool × String)} :
    require checks = .ok () ↔ validate checks = .ok () := by
  unfold require
  cases validate checks with
  | ok _ | error message => simp

def maxTextBytes : ℕ := 4000

def maxPending : ℕ := 32

def maxPendingBytes : ℕ := 32000

inductive BusyInputMode where
  | queue | interrupt | steer
  deriving DecidableEq

inductive BusyInputKind where
  | prose | approval | denial | emergencyStop
  deriving DecidableEq

inductive BusyInputDisposition where
  | queued | interrupting | steered | rejected
  deriving DecidableEq

inductive BusyPendingStatus where
  | pending | consumed | expired | rejected
  deriving DecidableEq

/-- `BusyInput`, with the checks of its constructor. -/
structure BusyInput where
  inputId : String
  idempotencyKey : String
  sessionId : String
  principalId : String
  content : String
  kind : BusyInputKind
  receivedAt : ℤ
  expiresAt : ℤ
  identifiers : isIdentifier inputId && isIdentifier idempotencyKey && isIdentifier sessionId &&
    isIdentifier principalId
  bounded : !isBlank content && content.utf8ByteSize ≤ maxTextBytes
  expires : receivedAt < expiresAt

instance : DecidableEq BusyInput :=
  (show Function.Injective fun i : BusyInput => ([i.inputId, i.idempotencyKey, i.sessionId,
    i.principalId, i.content], i.kind, i.receivedAt, i.expiresAt) from
    fun a b same => by cases a; cases b; simp_all).decidableEq

/-- `PendingBusyInput`. A record becomes rejected, or keeps a disposition that is not, when it is
made; what its constructor checks is `Checked`. -/
structure PendingBusyInput where
  input : BusyInput
  sequence : ℕ
  disposition : BusyInputDisposition
  status : BusyPendingStatus := .pending
  consumedAt : Option ℤ := none
  deriving DecidableEq

namespace PendingBusyInput

def consume (record : PendingBusyInput) (instant : ℤ) : PendingBusyInput :=
  { record with status := .consumed, consumedAt := some instant }

def expire (record : PendingBusyInput) : PendingBusyInput := { record with status := .expired }

/-- A record, with a steer queued. -/
def requeue (record : PendingBusyInput) : PendingBusyInput :=
  if record.status = .pending ∧ record.disposition = .steered then
    { record with disposition := .queued }
  else record

/-- The bytes of the content. -/
def bytes (record : PendingBusyInput) : ℕ := record.input.content.utf8ByteSize

end PendingBusyInput

structure BusySessionState where
  sessionId : String
  ownerPrincipalId : String
  mode : BusyInputMode
  revision : ℕ
  nextSequence : ℕ
  activeTurnId : Option String := none
  pending : List PendingBusyInput := []
  deriving DecidableEq

/-- `BusySessionState(…)`, which raises unless its checks pass. -/
def BusySessionState.checked (state : BusySessionState) : Except BusyError BusySessionState := do
  require [ (isIdentifier state.sessionId, "session_id MUST be a bounded identifier"),
    (isIdentifier state.ownerPrincipalId, "owner_principal_id MUST be a bounded identifier"),
    (state.activeTurnId.all isIdentifier, "active_turn_id MUST be a bounded identifier"),
    (1 ≤ state.revision, "busy session revision and sequence are invalid"),
    (state.pending.length ≤ maxPending, "busy session pending input cap exceeded"),
    ((state.pending.map PendingBusyInput.sequence).Pairwise (· ≤ ·) ∧
        (state.pending.map PendingBusyInput.sequence).Nodup,
      "busy session pending sequences MUST be unique and ordered")]
  return state

structure BusyInputDecision where
  state : BusySessionState
  record : PendingBusyInput
  duplicate : Bool := false
  reason : Option String := none
  deriving DecidableEq

def rejected (state : BusySessionState) (incoming : BusyInput) (reason : String) :
    BusyInputDecision where
  state := state
  record := ⟨incoming, state.nextSequence, .rejected, .rejected, none⟩
  reason := reason

def acceptedDisposition (state : BusySessionState) (incoming : BusyInput) :
    BusyInputDisposition :=
  if incoming.kind ≠ .prose then .queued
  else if state.activeTurnId = none ∨ state.mode = .queue then .queued
  else if state.mode = .interrupt then .interrupting
  else .steered

def acceptIncoming (state : BusySessionState) (incoming : BusyInput) :
    Except BusyError BusyInputDecision := do
  let record : PendingBusyInput :=
    ⟨incoming, state.nextSequence, acceptedDisposition state incoming, .pending, none⟩
  let updated ← BusySessionState.checked { state with
    revision := state.revision + 1
    nextSequence := state.nextSequence + 1
    pending := state.pending ++ [record] }
  return ⟨updated, record, false, none⟩

def arbitrateBusyInput (state : BusySessionState) (incoming : BusyInput) (now : Datetime) :
    Except BusyError BusyInputDecision :=
  match now.instant? with
  | none => .error (.value "now MUST be timezone-aware")
  | some now =>
    if incoming.sessionId ≠ state.sessionId ∨ incoming.principalId ≠ state.ownerPrincipalId then
      .ok (rejected state incoming "authorization_mismatch")
    else
      match state.pending.find? fun item =>
          item.input.idempotencyKey = incoming.idempotencyKey with
      | some duplicate => .ok ⟨state, duplicate, true, none⟩
      | none =>
        let items := state.pending.filter fun item => item.status = .pending
        if incoming.expiresAt ≤ now then
          .ok (rejected state incoming "input_expired")
        else if incoming.kind ≠ .prose ∧ state.mode = .steer then
          .ok (rejected state incoming "control_input_cannot_steer")
        else if maxPending ≤ items.length ∨ maxPendingBytes <
            (items.map PendingBusyInput.bytes).sum + incoming.content.utf8ByteSize then
          .ok (rejected state incoming "queue_capacity_exceeded")
        else
          acceptIncoming state incoming

def finishActiveTurn (state : BusySessionState) (turnId : String) :
    Except BusyError BusySessionState :=
  if state.activeTurnId ≠ some turnId then
    .error (.value "active turn mismatch")
  else
    BusySessionState.checked { state with
      activeTurnId := none
      revision := state.revision + 1
      pending := state.pending.map PendingBusyInput.requeue }

def consumePendingInput (state : BusySessionState) (sequence : ℤ) (principalId : String)
    (now : Datetime) : Except BusyError (BusySessionState × PendingBusyInput) :=
  if principalId ≠ state.ownerPrincipalId then
    .error (.permission "busy input consumption principal mismatch")
  else
    match now.instant? with
    | none => .error (.value "at MUST be timezone-aware")
    | some instant =>
      let named := state.pending.filter fun item => (item.sequence : ℤ) = sequence
      if named.any (fun item => item.status ≠ .pending) then
        .error (.value "busy input is not pending")
      else
        match named.getLast? with
        | none => .error (.lookup "busy input sequence" (toString sequence))
        | some selected => do
          let updated ← BusySessionState.checked { state with
            revision := state.revision + 1
            pending := state.pending.map fun item =>
              if (item.sequence : ℤ) = sequence then item.consume instant else item }
          return (updated, selected.consume instant)

/-! ## The store of one session -/

/-- What the store keeps of a session. -/
structure Session where
  /-- Its entry in `_states`, where `pending` is empty. -/
  state : BusySessionState
  /-- Its entry in `_records`. -/
  records : List PendingBusyInput := []
  deriving DecidableEq

namespace Session

/-- The key of both entries. -/
def sessionId (session : Session) : String := session.state.sessionId

def pending (session : Session) : List PendingBusyInput :=
  session.records.filter fun item => item.status = .pending

def project (session : Session) : Except BusyError BusySessionState :=
  BusySessionState.checked { session.state with pending := session.pending }

/-- `_authorized`, of a session that is there. -/
def authorized (session : Session) (principalId : String) : Except BusyError Unit :=
  if session.state.ownerPrincipalId ≠ principalId then
    .error (.permission "busy session principal mismatch")
  else .ok ()

def duplicate (session : Session) (incoming : BusyInput) :
    Except BusyError (Option PendingBusyInput) :=
  match session.records.find? fun item =>
      item.input.idempotencyKey = incoming.idempotencyKey with
  | none => .ok none
  | some item =>
    if item.input ≠ incoming then
      .error (.conflict "busy input idempotency key was reused with another input")
    else .ok (some item)

/-- `_replace_pending`. What it replaces are records of the session, so it finds each of them. -/
def replacePending (session : Session) (pending : List PendingBusyInput) : List PendingBusyInput :=
  pending.foldl (fun records item => replaceFirst (·.input.inputId) item records) session.records

/-- The body of `set_active_turn`. -/
def setActiveTurn (session : Session) (principalId turnId : String) (mode : BusyInputMode)
    (expectedRevision : ℤ) : Session × Except BusyError BusySessionState :=
  let updated : Except BusyError BusySessionState := do
    session.authorized principalId
    if (session.state.revision : ℤ) ≠ expectedRevision then
      throw (.conflict ("busy session revision mismatch: expected " ++ toString expectedRevision ++
        ", current " ++ toString session.state.revision))
    else
      BusySessionState.checked { session.state with
        activeTurnId := some turnId
        mode := mode
        revision := session.state.revision + 1 }
  match updated with
  | .error error => (session, .error error)
  | .ok state => ({ session with state := state }, { session with state := state }.project)

/-- The body of `set_mode`. -/
def setMode (session : Session) (principalId : String) (mode : BusyInputMode) :
    Session × Except BusyError BusySessionState :=
  let updated : Except BusyError BusySessionState := do
    session.authorized principalId
    BusySessionState.checked { session.state with
      mode := mode
      revision := session.state.revision + 1 }
  match updated with
  | .error error => (session, .error error)
  | .ok state => ({ session with state := state }, { session with state := state }.project)

/-- The session with the record of a decision. -/
def write (session : Session) (decision : BusyInputDecision) : Session where
  state :=
    if decision.state.revision ≠ session.state.revision then
      { decision.state with pending := [] }
    else session.state
  records := session.records ++ [decision.record]

/-- The body of `submit`. -/
def submit (session : Session) (incoming : BusyInput) (now : Datetime) :
    Session × Except BusyError BusyInputDecision :=
  match session.duplicate incoming with
  | .error error => (session, .error error)
  | .ok (some record) => (session, do
      let state ← session.project
      return ⟨state, record, true, none⟩)
  | .ok none =>
    match (do arbitrateBusyInput (← session.project) incoming now) with
    | .error error => (session, .error error)
    | .ok decision => (session.write decision, do
        let state ← (session.write decision).project
        return { decision with state := state })

/-- The body of `finish_turn`. -/
def finishTurn (session : Session) (principalId turnId : String) :
    Session × Except BusyError BusySessionState :=
  let updated : Except BusyError BusySessionState := do
    session.authorized principalId
    finishActiveTurn (← session.project) turnId
  match updated with
  | .error error => (session, .error error)
  | .ok updated =>
    let written : Session := ⟨{ updated with pending := [] }, session.replacePending updated.pending⟩
    (written, written.project)

/-- The body of `consume`. -/
def consume (session : Session) (sequence : ℤ) (principalId : String) (now : Datetime) :
    Session × Except BusyError (BusySessionState × PendingBusyInput) :=
  match (do consumePendingInput (← session.project) sequence principalId now) with
  | .error error => (session, .error error)
  | .ok (updated, consumed) =>
    let written : Session := ⟨{ updated with pending := [] }, session.replacePending updated.pending⟩
    (written, do
      let state ← written.project
      return (state, consumed))

end Session

/-- `InMemoryBusyInputStore`. -/
abbrev BusyStore := Keyed Session.sessionId

/-- A call of the store. -/
inductive BusyCall where
  | create (sessionId ownerPrincipalId : String) (mode : BusyInputMode)
  | setActiveTurn (sessionId principalId turnId : String) (mode : BusyInputMode)
      (expectedRevision : ℤ)
  | setMode (sessionId principalId : String) (mode : BusyInputMode)
  | submit (incoming : BusyInput) (now : Datetime)
  | finishTurn (sessionId principalId turnId : String)
  | consume (sessionId : String) (sequence : ℤ) (principalId : String) (now : Datetime)
  | expirePending (now : Datetime) (limit : ℤ)

/-- What a call returns. -/
inductive BusyAnswer where
  | created (state : BusySessionState) (isNew : Bool)
  | state (state : BusySessionState)
  | decision (decision : BusyInputDecision)
  | consumed (state : BusySessionState) (record : PendingBusyInput)
  | expired (records : List PendingBusyInput)
  deriving DecidableEq

namespace BusyStore

/-- `_required`, and the body of a call on a session. -/
def onSession {α : Type} (store : BusyStore) (sessionId : String)
    (body : Session → Session × Except BusyError α) (answer : α → BusyAnswer) :
    BusyStore × Except BusyError BusyAnswer :=
  match store.get sessionId with
  | none => (store, .error (.lookup "busy session" sessionId))
  | some session => (store.put (body session).1, (body session).2.map answer)

def create (store : BusyStore) (sessionId ownerPrincipalId : String) (mode : BusyInputMode) :
    BusyStore × Except BusyError BusyAnswer :=
  match BusySessionState.checked ⟨sessionId, ownerPrincipalId, mode, 1, 0, none, []⟩ with
  | .error error => (store, .error error)
  | .ok candidate =>
    match store.get sessionId with
    | none => (store.put ⟨candidate, []⟩, .ok (.created candidate true))
    | some current =>
      if current.state.ownerPrincipalId ≠ ownerPrincipalId then
        (store, .error (.conflict "busy session is owned by another principal"))
      else (store, do return .created (← current.project) false)

/-- The key that candidates are sorted by. -/
def expiryKey (candidate : String × PendingBusyInput) : ℤ ×ₗ String ×ₗ ℕ :=
  toLex (candidate.2.input.expiresAt, toLex (candidate.1, candidate.2.sequence))

/-- The pending records that are due, each with its session. -/
def due (store : BusyStore) (now : ℤ) : List (String × PendingBusyInput) :=
  store.values.flatMap fun session =>
    (session.records.filter fun item =>
        item.status = .pending && item.input.expiresAt ≤ now).map (session.sessionId, ·)

/-- `_replace_record` with an expired record. -/
def expireOne (store : BusyStore) (candidate : String × PendingBusyInput) : BusyStore :=
  match store.get candidate.1 with
  | none => store
  | some session => store.put
      { session with
        records := replaceFirst (·.input.inputId) candidate.2.expire session.records }

/-- The next revision of a session. -/
def bump (store : BusyStore) (sessionId : String) : BusyStore :=
  match store.get sessionId with
  | none => store
  | some session => store.put
      { session with state := { session.state with revision := session.state.revision + 1 } }

def expirePending (store : BusyStore) (now : Datetime) (limit : ℤ) :
    BusyStore × Except BusyError BusyAnswer :=
  match now.instant? with
  | none => (store, .error (.value "now MUST be timezone-aware"))
  | some now =>
    if 1 ≤ limit ∧ limit ≤ 1000 then
      let candidates := ((store.due now).mergeSort fun candidate other =>
        expiryKey candidate ≤ expiryKey other).take limit.toNat
      let changed := (candidates.map Prod.fst).dedup
      (changed.foldl bump (candidates.foldl expireOne store),
        .ok (.expired (candidates.map fun candidate => candidate.2.expire)))
    else (store, .error (.value "limit MUST be in [1, 1000]"))

/-- **One call of the store.** -/
def step (store : BusyStore) : BusyCall → BusyStore × Except BusyError BusyAnswer
  | .create sessionId ownerPrincipalId mode => store.create sessionId ownerPrincipalId mode
  | .setActiveTurn sessionId principalId turnId mode expectedRevision =>
    store.onSession sessionId
      (fun session => session.setActiveTurn principalId turnId mode expectedRevision) .state
  | .setMode sessionId principalId mode =>
    store.onSession sessionId (fun session => session.setMode principalId mode) .state
  | .submit incoming now =>
    store.onSession incoming.sessionId (fun session => session.submit incoming now) .decision
  | .finishTurn sessionId principalId turnId =>
    store.onSession sessionId (fun session => session.finishTurn principalId turnId) .state
  | .consume sessionId sequence principalId now =>
    store.onSession sessionId (fun session => session.consume sequence principalId now)
      fun (state, record) => .consumed state record
  | .expirePending now limit => store.expirePending now limit

end BusyStore

end Fdai.Core.Conversation
