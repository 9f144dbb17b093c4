import Fdai.Conversation.BusyInputOnce

/-!
# Inputs of other principals

A principal that does not own a session can still send it input. The input is rejected, and its record
stays in the session. What the owner is told does not depend on such records, unless one of them is
met: by an input with its idempotency key, or by a replacement of a record with its input identity.

* `Session.own` — a session without the records of others; `Quiet`, where these are all rejected.
* `Heard` — what a call answers and writes is determined by the owner's records.
-/

namespace Fdai.Core.Conversation

open Fdai.Sequences

variable {session : Session} {incoming : BusyInput} {record : PendingBusyInput}

namespace Session

/-- Whether a record is the owner's. -/
def owns (session : Session) (record : PendingBusyInput) : Bool :=
  record.input.principalId = session.state.ownerPrincipalId

/-- The session, without the records of others. -/
def own (session : Session) : Session :=
  { session with records := session.records.filter session.owns }

end Session

/-- What others have sent is rejected. -/
def Quiet (session : Session) : Prop :=
  ∀ record ∈ session.records, session.owns record = false → record.status = .rejected

/-- A pending record is the owner's. -/
theorem Quiet.owns (quiet : Quiet session) (isPending : record ∈ session.pending) :
    session.owns record = true := by
  obtain ⟨isRecord, pending⟩ := mem_pending.1 isPending
  by_contra foreign
  rw [quiet record isRecord (Bool.not_eq_true _ ▸ foreign)] at pending
  cases pending

theorem Quiet.pending_own (quiet : Quiet session) : session.own.pending = session.pending := by
  show (session.records.filter session.owns).filter _ = session.records.filter _
  rw [List.filter_filter]
  refine List.filter_congr ?_
  intro record isRecord
  by_cases isPending : record.status = .pending
  · simp [isPending, quiet.owns (mem_pending.2 ⟨isRecord, isPending⟩)]
  · simp [isPending]

/-- **The projection** of a session shows the owner's records only. -/
theorem Quiet.project_own (quiet : Quiet session) : session.own.project = session.project := by
  unfold Session.project
  rw [quiet.pending_own]
  rfl

/-! ## Calls on a session -/

/-- **What a call does is heard by the owner alone**: it answers the same without the records of
others, and leaves the same records of the owner. -/
structure Heard {α : Type} (body : Session → Session × Except BusyError α) (session : Session) :
    Prop where
  same : body session.own = ((body session).1.own, (body session).2)
  quiet : Quiet (body session).1

variable {state : BusySessionState}

theorem own_of_owner {records : List PendingBusyInput}
    (owner : state.ownerPrincipalId = session.state.ownerPrincipalId) :
    Session.own ⟨state, records⟩ = ⟨state, records.filter session.owns⟩ := by
  have owns : Session.owns ⟨state, records⟩ = session.owns := by
    funext record
    unfold Session.owns
    rw [owner]
  show Session.mk state (records.filter _) = _
  rw [owns]

theorem quiet_of_owner {records : List PendingBusyInput}
    (owner : state.ownerPrincipalId = session.state.ownerPrincipalId)
    (foreign : ∀ record ∈ records, session.owns record = false → record.status = .rejected) :
    Quiet ⟨state, records⟩ := by
  intro record isRecord notOwn
  refine foreign record isRecord ?_
  unfold Session.owns at notOwn ⊢
  rw [← owner]
  exact notOwn

/-- A call that updates the session, unless it raises. -/
def updating {α β : Type} (update : Session → Except BusyError β) (write : β → Session → Session)
    (answer : β → Except BusyError BusySessionState → Except BusyError α) (session : Session) :
    Session × Except BusyError α :=
  match update session with
  | .error error => (session, .error error)
  | .ok value => (write value session, answer value (write value session).project)

/-- **An update that the owner alone hears**: it reads the owner's records, and writes these. -/
theorem heard_update {α β : Type} {body : Session → Session × Except BusyError α}
    {update : Session → Except BusyError β} {write : β → Session → Session}
    {answer : β → Except BusyError BusySessionState → Except BusyError α}
    (isBody : ∀ session, body session = updating update write answer session)
    (quiet : Quiet session) (sameUpdate : update session.own = update session)
    (written : ∀ value, update session = .ok value →
      (write value session).own = write value session.own ∧ Quiet (write value session)) :
    Heard body session := by
  rcases updated : update session with error | value
  · refine ⟨?_, ?_⟩
    · simp only [isBody, updating, sameUpdate, updated]
    · simpa only [isBody, updating, updated] using quiet
  obtain ⟨isOwn, still⟩ := written value updated
  refine ⟨?_, ?_⟩
  · simp only [isBody, updating, sameUpdate, updated]
    rw [← isOwn, still.project_own]
  · simpa only [isBody, updating, updated] using still

/-- A new state of the same owner. -/
theorem written_state (quiet : Quiet session)
    (owner : state.ownerPrincipalId = session.state.ownerPrincipalId) :
    Session.own { session with state := state } = { session.own with state := state } ∧
      Quiet { session with state := state } :=
  ⟨own_of_owner owner, quiet_of_owner owner quiet⟩

/-- `setActiveTurn` updates the session. -/
theorem setActiveTurn_eq (principalId turnId : String) (mode : BusyInputMode) (expectedRevision : ℤ)
    (session : Session) :
    session.setActiveTurn principalId turnId mode expectedRevision = updating (fun session => do
      session.authorized principalId
      if (session.state.revision : ℤ) ≠ expectedRevision then
        throw (.conflict ("busy session revision mismatch: expected " ++
          toString expectedRevision ++ ", current " ++ toString session.state.revision))
      else
        BusySessionState.checked { session.state with
          activeTurnId := some turnId
          mode := mode
          revision := session.state.revision + 1 })
      (fun state session => { session with state := state }) (fun _ found => found) session := by
  unfold Session.setActiveTurn updating
  dsimp only
  split
  · rename_i isError
    rw [isError]
  · rename_i isOk
    rw [isOk]

theorem setActiveTurn_heard (quiet : Quiet session) (principalId turnId : String)
    (mode : BusyInputMode) (expectedRevision : ℤ) :
    Heard (·.setActiveTurn principalId turnId mode expectedRevision) session := by
  refine heard_update (setActiveTurn_eq principalId turnId mode expectedRevision) quiet rfl ?_
  intro state updated
  refine written_state quiet ?_
  obtain ⟨-, updated⟩ := check_bind_eq_ok.1 updated
  split at updated
  · cases updated
  · rw [(checked_eq_ok.1 updated).1]

/-- `setMode` updates the session. -/
theorem setMode_eq (principalId : String) (mode : BusyInputMode) (session : Session) :
    session.setMode principalId mode = updating (fun session => do
      session.authorized principalId
      BusySessionState.checked { session.state with
        mode := mode
        revision := session.state.revision + 1 })
      (fun state session => { session with state := state }) (fun _ found => found) session := by
  unfold Session.setMode updating
  dsimp only
  split
  · rename_i isError
    rw [isError]
  · rename_i isOk
    rw [isOk]

theorem setMode_heard (quiet : Quiet session) (principalId : String) (mode : BusyInputMode) :
    Heard (·.setMode principalId mode) session := by
  refine heard_update (setMode_eq principalId mode) quiet rfl ?_
  intro state updated
  refine written_state quiet ?_
  obtain ⟨-, updated⟩ := check_bind_eq_ok.1 updated
  rw [(checked_eq_ok.1 updated).1]

/-! ## Records replaced -/

/-- The first record with the identity of this one is the owner's. -/
def ReplacesOwn (session : Session) (record : PendingBusyInput) : Prop :=
  FirstHas session.owns (·.input.inputId) session.records record.input.inputId

/-- **Records replaced by records of the owner**, where these replace such records. -/
theorem written_replaced {items : List PendingBusyInput}
    (quiet : Quiet session) (owner : state.ownerPrincipalId = session.state.ownerPrincipalId)
    (replaces : ∀ item ∈ items, ReplacesOwn session item)
    (owned : ∀ item ∈ items, session.owns item = true) :
    Session.own ⟨state, session.replacePending items⟩ = ⟨state, session.own.replacePending items⟩ ∧
      Quiet ⟨state, session.replacePending items⟩ := by
  refine ⟨?_, ?_⟩
  · rw [own_of_owner owner]
    unfold Session.replacePending
    rw [filter_foldl_replaceFirst replaces owned]
    rfl
  · refine quiet_of_owner owner ?_
    intro record isRecord foreign
    rcases mem_foldl_replaceFirst isRecord with isItem | isOld
    · rw [owned record isItem] at foreign
      cases foreign
    · exact quiet record isOld foreign

/-- The pending records of a session replace records of the owner. -/
def Apart (session : Session) : Prop := ∀ record ∈ session.pending, ReplacesOwn session record

theorem Apart.map (apart : Apart session) (quiet : Quiet session)
    {change : PendingBusyInput → PendingBusyInput}
    (sameInput : ∀ record, (change record).input = record.input) :
    (∀ item ∈ session.pending.map change, ReplacesOwn session item) ∧
      ∀ item ∈ session.pending.map change, session.owns item = true := by
  refine ⟨?_, ?_⟩
  · intro item isItem
    obtain ⟨record, isPending, rfl⟩ := List.mem_map.1 isItem
    unfold ReplacesOwn
    rw [sameInput]
    exact apart record isPending
  · intro item isItem
    obtain ⟨record, isPending, rfl⟩ := List.mem_map.1 isItem
    unfold Session.owns
    rw [sameInput]
    exact quiet.owns isPending

theorem project_eq_ok (projected : session.project = .ok state) :
    state = { session.state with pending := session.pending } :=
  (checked_eq_ok.1 projected).1

/-- `finishTurn` updates the session. -/
theorem finishTurn_eq (principalId turnId : String) (session : Session) :
    session.finishTurn principalId turnId = updating (fun session => do
      session.authorized principalId
      finishActiveTurn (← session.project) turnId)
      (fun updated session =>
        ⟨{ updated with pending := [] }, session.replacePending updated.pending⟩)
      (fun _ found => found) session := by
  unfold Session.finishTurn updating
  dsimp only
  split
  · rename_i isError
    rw [isError]
  · rename_i isOk
    rw [isOk]

theorem authorized_eq_ok {principalId : String} {found : Unit}
    (isAuthorized : session.authorized principalId = .ok found) :
    principalId = session.state.ownerPrincipalId := by
  unfold Session.authorized at isAuthorized
  split at isAuthorized
  · cases isAuthorized
  · rename_i same
    exact (not_not.1 same).symm

theorem finishTurn_heard (quiet : Quiet session) (principalId turnId : String)
    (apart : principalId = session.state.ownerPrincipalId → Apart session) :
    Heard (·.finishTurn principalId turnId) session := by
  refine heard_update (finishTurn_eq principalId turnId) quiet ?_ ?_
  · simp only [quiet.project_own]
    rfl
  intro updated isUpdated
  obtain ⟨isAuthorized, isUpdated⟩ := check_bind_eq_ok.1 isUpdated
  obtain ⟨state, projected, isUpdated⟩ := bind_eq_ok.1 isUpdated
  obtain rfl := project_eq_ok projected
  unfold finishActiveTurn at isUpdated
  split at isUpdated
  · cases isUpdated
  obtain ⟨rfl, -⟩ := checked_eq_ok.1 isUpdated
  have own := (apart (authorized_eq_ok isAuthorized)).map quiet
    fun record => congrArg Prod.snd record.requeue_entry
  exact written_replaced quiet rfl own.1 own.2

/-- `consume` updates the session. -/
theorem consume_eq (sequence : ℤ) (principalId : String) (now : Datetime) (session : Session) :
    session.consume sequence principalId now = updating (fun session => do
      consumePendingInput (← session.project) sequence principalId now)
      (fun found session =>
        ⟨{ found.1 with pending := [] }, session.replacePending found.1.pending⟩)
      (fun found projected => do
        let state ← projected
        return (state, found.2)) session := by
  unfold Session.consume updating
  dsimp only
  split
  · rename_i isError
    rw [isError]
  · rename_i isOk
    rw [isOk]

/-- **What is consumed** leaves every pending record its input. -/
theorem consumePendingInput_eq_ok {updated : BusySessionState} {consumed : PendingBusyInput}
    {sequence : ℤ} {principalId : String} {now : Datetime}
    (isUpdated : consumePendingInput state sequence principalId now = .ok (updated, consumed)) :
    principalId = state.ownerPrincipalId ∧ updated.ownerPrincipalId = state.ownerPrincipalId ∧
      ∃ change : PendingBusyInput → PendingBusyInput,
        (∀ record, (change record).input = record.input) ∧
          updated.pending = state.pending.map change := by
  unfold consumePendingInput at isUpdated
  split at isUpdated
  · cases isUpdated
  rename_i isOwner
  split at isUpdated
  · cases isUpdated
  rename_i instant _
  dsimp only at isUpdated
  split at isUpdated
  · cases isUpdated
  split at isUpdated
  · cases isUpdated
  obtain ⟨result, isResult, isUpdated⟩ := bind_eq_ok.1 isUpdated
  obtain ⟨rfl, -⟩ := checked_eq_ok.1 isResult
  obtain ⟨rfl, -⟩ := Prod.mk.inj (Except.ok.inj isUpdated)
  refine ⟨not_not.1 isOwner, rfl, _, ?_, rfl⟩
  intro record
  split
  · rfl
  · rfl

theorem consume_heard (quiet : Quiet session) (sequence : ℤ) (principalId : String) (now : Datetime)
    (apart : principalId = session.state.ownerPrincipalId → Apart session) :
    Heard (·.consume sequence principalId now) session := by
  refine heard_update (consume_eq sequence principalId now) quiet ?_ ?_
  · simp only [quiet.project_own]
  rintro ⟨updated, consumed⟩ isUpdated
  obtain ⟨state, projected, isUpdated⟩ := bind_eq_ok.1 isUpdated
  obtain rfl := project_eq_ok projected
  obtain ⟨isOwner, owner, change, sameInput, pending⟩ := consumePendingInput_eq_ok isUpdated
  have own := (apart isOwner).map quiet sameInput
  have written := @written_replaced session { updated with pending := [] } _ quiet owner own.1 own.2
  dsimp only at pending ⊢
  rw [pending]
  exact written

/-! ## Submissions -/

/-- The records of others do not have the idempotency key of the input. -/
def KeyApart (session : Session) (incoming : BusyInput) : Prop :=
  ∀ record ∈ session.records, session.owns record = false →
    record.input.idempotencyKey ≠ incoming.idempotencyKey

/-- A submission of the owner is a duplicate of what the owner has sent. -/
theorem KeyApart.duplicate_own (apart : KeyApart session incoming) :
    session.own.duplicate incoming = session.duplicate incoming := by
  have found : (session.records.filter session.owns).find? (fun item =>
        decide (item.input.idempotencyKey = incoming.idempotencyKey)) =
      session.records.find? fun item =>
        decide (item.input.idempotencyKey = incoming.idempotencyKey) := by
    rw [← List.head?_filter, ← List.head?_filter, List.filter_filter]
    congr 1
    refine List.filter_congr ?_
    intro record isRecord
    cases isOwn : session.owns record with
    | true => simp
    | false => simp [apart record isRecord isOwn]
  unfold Session.duplicate
  rw [← found]
  rfl

theorem arbitrate_record {decision : BusyInputDecision} {now : Datetime}
    (isDecision : arbitrateBusyInput state incoming now = .ok decision) :
    decision.state.ownerPrincipalId = state.ownerPrincipalId ∧
      (decision.record ∈ state.pending ∨ decision.record.input = incoming) := by
  unfold arbitrateBusyInput at isDecision
  split at isDecision
  · cases isDecision
  split at isDecision
  · obtain rfl := Except.ok.inj isDecision
    exact ⟨rfl, .inr rfl⟩
  split at isDecision
  · rename_i duplicate isDuplicate
    obtain rfl := Except.ok.inj isDecision
    exact ⟨rfl, .inl (List.mem_of_find?_eq_some isDuplicate)⟩
  dsimp only at isDecision
  split at isDecision
  · obtain rfl := Except.ok.inj isDecision
    exact ⟨rfl, .inr rfl⟩
  split at isDecision
  · obtain rfl := Except.ok.inj isDecision
    exact ⟨rfl, .inr rfl⟩
  split at isDecision
  · obtain rfl := Except.ok.inj isDecision
    exact ⟨rfl, .inr rfl⟩
  obtain ⟨-, rfl⟩ := acceptIncoming_eq_ok isDecision
  exact ⟨rfl, .inr rfl⟩

theorem written_decision {decision : BusyInputDecision} (quiet : Quiet session)
    (owner : decision.state.ownerPrincipalId = session.state.ownerPrincipalId)
    (isOwn : session.owns decision.record = true) :
    (session.write decision).own = session.own.write decision ∧ Quiet (session.write decision) := by
  have records : (session.records ++ [decision.record]).filter session.owns =
      session.records.filter session.owns ++ [decision.record] := by
    rw [List.filter_append, List.filter_cons_of_pos isOwn, List.filter_nil]
  have sameOwner : (session.write decision).state.ownerPrincipalId =
      session.state.ownerPrincipalId := by
    unfold Session.write
    dsimp only
    split
    · exact owner
    · rfl
  refine ⟨?_, ?_⟩
  · have isOwnPart : (session.write decision).own = ⟨(session.write decision).state,
        (session.records ++ [decision.record]).filter session.owns⟩ := own_of_owner sameOwner
    rw [isOwnPart, records]
    rfl
  · refine quiet_of_owner sameOwner ?_
    intro record isRecord foreign
    rcases List.mem_append.1 isRecord with isOld | isNew
    · exact quiet record isOld foreign
    · rw [List.mem_singleton.1 isNew, isOwn] at foreign
      cases foreign

theorem submit_heard (quiet : Quiet session) (now : Datetime)
    (isOwner : incoming.principalId = session.state.ownerPrincipalId)
    (apart : KeyApart session incoming) : Heard (·.submit incoming now) session := by
  rcases duplicate : session.duplicate incoming with error | found
  · have isSame : session.own.duplicate incoming = .error error := by
      rw [apart.duplicate_own, duplicate]
    constructor
    · simp only [Session.submit, isSame, duplicate]
    · simpa only [Session.submit, duplicate] using quiet
  have isSame : session.own.duplicate incoming = .ok found := by
    rw [apart.duplicate_own, duplicate]
  cases found with
  | some record =>
    constructor
    · simp only [Session.submit, isSame, duplicate, quiet.project_own]
    · simpa only [Session.submit, duplicate] using quiet
  | none =>
    cases arbitrated : (do arbitrateBusyInput (← session.project) incoming now) with
    | error error =>
      constructor
      · simp only [Session.submit, isSame, duplicate, quiet.project_own, arbitrated]
      · simpa only [Session.submit, duplicate, arbitrated] using quiet
    | ok decision =>
      obtain ⟨state, projected, isDecision⟩ := bind_eq_ok.1 arbitrated
      obtain rfl := project_eq_ok projected
      obtain ⟨owner, isRecord⟩ := arbitrate_record isDecision
      have isOwn : session.owns decision.record = true := by
        rcases isRecord with isPending | isIncoming
        · exact quiet.owns isPending
        unfold Session.owns
        rw [isIncoming, isOwner]
        exact decide_eq_true rfl
      obtain ⟨written, still⟩ := written_decision quiet owner isOwn
      constructor
      · simp only [Session.submit, isSame, duplicate, quiet.project_own, arbitrated]
        rw [← written, still.project_own]
      · simpa only [Session.submit, duplicate, arbitrated] using still

/-- **A submission of another principal** leaves the owner's records. -/
theorem submit_foreign (quiet : Quiet session) (now : Datetime)
    (foreign : incoming.principalId ≠ session.state.ownerPrincipalId) :
    (session.submit incoming now).1.own = session.own ∧ Quiet (session.submit incoming now).1 := by
  unfold Session.submit
  split
  · exact ⟨rfl, quiet⟩
  · exact ⟨rfl, quiet⟩
  split
  · exact ⟨rfl, quiet⟩
  rename_i decision arbitrated
  obtain ⟨state, projected, isDecision⟩ := bind_eq_ok.1 arbitrated
  obtain rfl := project_eq_ok projected
  unfold arbitrateBusyInput at isDecision
  split at isDecision
  · cases isDecision
  rw [if_pos (.inr foreign)] at isDecision
  obtain rfl := Except.ok.inj isDecision
  have notOwn : session.owns ⟨incoming, session.state.nextSequence, .rejected, .rejected, none⟩ =
      false := decide_eq_false foreign
  have written : session.write (rejected { session.state with pending := session.pending } incoming
      "authorization_mismatch") = ⟨session.state, session.records ++
        [⟨incoming, session.state.nextSequence, .rejected, .rejected, none⟩]⟩ := write_same rfl
  dsimp only
  rw [written]
  refine ⟨?_, ?_⟩
  · rw [own_of_owner rfl, List.filter_append, List.filter_cons_of_neg (by simp [notOwn]),
      List.filter_nil, List.append_nil]
    rfl
  · refine quiet_of_owner rfl ?_
    intro record isRecord isForeign
    rcases List.mem_append.1 isRecord with isOld | isNew
    · exact quiet record isOld isForeign
    · rw [List.mem_singleton.1 isNew]

end Fdai.Core.Conversation
