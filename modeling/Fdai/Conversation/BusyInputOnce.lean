import Fdai.Conversation.BusyInputKept

/-!
# Every input of a busy session ends once

Runs of the store, with the log of what its callers were told: the records that were accepted, and
the records that were consumed or expired.

* `BusyCall.Conforms` — what a call has to meet: an input identity that is new, or consumption before
  the expiry.
* `busy_input_once` — the run theorem, and `busy_input_twice`, a run that does not conform.
-/

namespace Fdai.Core.Conversation

open Fdai.Sequences (Keyed replaceFirst foldl_replaceFirst)
open PendingBusyInput (End)

variable {session next : Session} {record : PendingBusyInput} {incoming : BusyInput}
  {accepted ended accepted' ended' : List PendingBusyInput}

/-- What a caller is told of a record. -/
inductive BusyEvent where
  | accepted (record : PendingBusyInput)
  | ended (record : PendingBusyInput)

/-- What an answer tells of records. -/
def BusyAnswer.events : BusyAnswer → List BusyEvent
  | .decision made =>
    if made.duplicate = false ∧ made.record.status = .pending then [.accepted made.record] else []
  | .consumed _ record => [.ended record]
  | .expired records => records.map .ended
  | _ => []

/-- What an outcome tells of records. -/
def eventsOf : Except BusyError BusyAnswer → List BusyEvent
  | .ok answer => answer.events
  | .error _ => []

def acceptedOf (sessionId : String) (log : List BusyEvent) : List PendingBusyInput :=
  log.filterMap fun
    | .accepted record => if record.input.sessionId = sessionId then some record else none
    | .ended _ => none

/-- The records of a session that were consumed or expired. -/
def endedOf (sessionId : String) (log : List BusyEvent) : List PendingBusyInput :=
  log.filterMap fun
    | .accepted _ => none
    | .ended record => if record.input.sessionId = sessionId then some record else none

/-- The log of accepted records, then of ended ones. -/
def logOf (accepted ended : List PendingBusyInput) : List BusyEvent :=
  accepted.map .accepted ++ ended.map .ended

theorem acceptedOf_logOf (sessionId : String) : acceptedOf sessionId (logOf accepted ended) =
      accepted.filter fun record => record.input.sessionId = sessionId := by
  unfold acceptedOf logOf
  rw [List.filterMap_append, List.filterMap_map, List.filterMap_map, ← List.filterMap_eq_filter]
  simp [Option.guard]

theorem endedOf_logOf (sessionId : String) : endedOf sessionId (logOf accepted ended) =
      ended.filter fun record => record.input.sessionId = sessionId := by
  unfold endedOf logOf
  rw [List.filterMap_append, List.filterMap_map, List.filterMap_map, ← List.filterMap_eq_filter]
  simp [Option.guard]

/-! ## Calls on one session -/

/-- What a call on a session does: a change, and the answer tells of it. -/
def Tells (session next : Session) (outcome : Except BusyError BusyAnswer) : Prop :=
  ∃ accepted ended, Change session next accepted ended ∧ eventsOf outcome = logOf accepted ended

theorem SessionKept.unmoved (kept : SessionKept session accepted ended) :
    Follows session.state session.state := ⟨rfl, rfl, kept.recorded.checked⟩

/-- A call that raises before it writes. -/
theorem tells_error (kept : SessionKept session accepted ended) (error : BusyError) :
    Tells session session (.error error) :=
  ⟨[], [], .same session.state kept.unmoved rfl, rfl⟩

/-- An answer that shows a state tells of no record. -/
theorem eventsOf_state (outcome : Except BusyError BusySessionState) :
    eventsOf (outcome.map BusyAnswer.state) = logOf [] [] := by
  cases outcome <;> rfl

theorem setActiveTurn_tells (kept : SessionKept session accepted ended)
    (principalId turnId : String) (mode : BusyInputMode) (expectedRevision : ℤ) :
    Tells session (session.setActiveTurn principalId turnId mode expectedRevision).1
      ((session.setActiveTurn principalId turnId mode expectedRevision).2.map .state) := by
  refine ⟨[], [], ?_, eventsOf_state _⟩
  unfold Session.setActiveTurn
  dsimp only
  split
  · exact .same session.state kept.unmoved rfl
  rename_i state updated
  rw [check_bind_eq_ok] at updated
  obtain ⟨-, updated⟩ := updated
  split at updated
  · cases updated
  · obtain ⟨rfl, checked, -⟩ := checked_eq_ok.1 updated
    exact .same _ ⟨rfl, rfl, checked⟩ rfl

theorem setMode_tells (kept : SessionKept session accepted ended) (principalId : String)
    (mode : BusyInputMode) :
    Tells session (session.setMode principalId mode).1
      ((session.setMode principalId mode).2.map .state) := by
  refine ⟨[], [], ?_, eventsOf_state _⟩
  unfold Session.setMode
  dsimp only
  split
  · exact .same session.state kept.unmoved rfl
  rename_i state updated
  rw [check_bind_eq_ok] at updated
  obtain ⟨rfl, checked, -⟩ := checked_eq_ok.1 updated.2
  exact .same _ ⟨rfl, rfl, checked⟩ rfl

theorem finishTurn_tells (kept : SessionKept session accepted ended) (principalId turnId : String) :
    Tells session (session.finishTurn principalId turnId).1
      ((session.finishTurn principalId turnId).2.map .state) := by
  refine ⟨[], [], ?_, eventsOf_state _⟩
  unfold Session.finishTurn
  dsimp only
  split
  · exact .same session.state kept.unmoved rfl
  rename_i state updated
  rw [check_bind_eq_ok, bind_eq_ok] at updated
  obtain ⟨-, projected, project, updated⟩ := updated
  rw [kept.project] at project
  obtain rfl := Except.ok.inj project
  unfold finishActiveTurn at updated
  split at updated
  · cases updated
  obtain ⟨rfl, checked, -⟩ := checked_eq_ok.1 updated
  have records : session.replacePending (session.pending.map PendingBusyInput.requeue) =
      session.records.map PendingBusyInput.requeue := by
    unfold Session.replacePending
    rw [foldl_replaceFirst kept.recorded.ids
      (fun record => congrArg (fun entry => entry.2.inputId) record.requeue_entry)
      (fun item isPending => (mem_pending.1 isPending).1)
      ((kept.recorded.ids.of_map _).filter _)]
    refine List.map_congr_left ?_
    intro record isRecord
    by_cases isPending : record ∈ session.pending
    · rw [if_pos isPending]
    · rw [if_neg isPending, PendingBusyInput.requeue_of_not_pending]
      exact fun status => isPending (mem_pending.2 ⟨isRecord, status⟩)
  dsimp only
  rw [records]
  exact .requeue _ ⟨rfl, rfl, ⟨checked.sessionId, checked.owner, checked.activeTurn,
    checked.revision⟩⟩ rfl

theorem tells_written {α : Type} (kept : SessionKept session accepted ended)
    (isChange : Change session next accepted' ended') (answer : BusySessionState → α)
    (wrap : α → BusyAnswer)
    (events : ∀ state, (wrap (answer state)).events = logOf accepted' ended') :
    Tells session next (Except.map wrap (do let state ← next.project; return answer state)) := by
  refine ⟨accepted', ended', isChange, ?_⟩
  have projected := (kept.change isChange).project
  cases project : next.project with
  | error error =>
    rw [projected] at project
    cases project
  | ok state => exact events state

variable {state : BusySessionState} {decision : BusyInputDecision}

/-- **What an arbitration decides** on an input of the session whose key is new. -/
theorem arbitrate_cases {now : Datetime} (newKey : state.pending.find? (fun item =>
      decide (item.input.idempotencyKey = incoming.idempotencyKey)) = none)
    (isDecision : arbitrateBusyInput state incoming now = .ok decision) :
    (∃ reason, decision = rejected state incoming reason) ∨
      incoming.principalId = state.ownerPrincipalId ∧
        (state.pending.filter fun item => item.status = .pending).length < maxPending ∧
        ((state.pending.filter fun item => item.status = .pending).map
          PendingBusyInput.bytes).sum + incoming.content.utf8ByteSize ≤ maxPendingBytes ∧
        acceptIncoming state incoming = .ok decision := by
  unfold arbitrateBusyInput at isDecision
  split at isDecision
  · cases isDecision
  split at isDecision
  · exact .inl ⟨_, (Except.ok.inj isDecision).symm⟩
  rename_i authorized
  rw [newKey] at isDecision
  dsimp only at isDecision
  split at isDecision
  · exact .inl ⟨_, (Except.ok.inj isDecision).symm⟩
  split at isDecision
  · exact .inl ⟨_, (Except.ok.inj isDecision).symm⟩
  split at isDecision
  · exact .inl ⟨_, (Except.ok.inj isDecision).symm⟩
  rename_i capacity
  refine .inr ⟨?_, ?_, ?_, isDecision⟩
  · by_contra other
    exact authorized (.inr other)
  · by_contra full
    exact capacity (.inl (Nat.not_lt.1 full))
  · by_contra full
    exact capacity (.inr (Nat.not_le.1 full))

theorem acceptIncoming_eq_ok (isDecision : acceptIncoming state incoming = .ok decision) :
    let record : PendingBusyInput :=
      ⟨incoming, state.nextSequence, acceptedDisposition state incoming, .pending, none⟩
    StateChecked { state with
        revision := state.revision + 1
        nextSequence := state.nextSequence + 1
        pending := state.pending ++ [record] } ∧
      decision = ⟨{ state with
        revision := state.revision + 1
        nextSequence := state.nextSequence + 1
        pending := state.pending ++ [record] }, record, false, none⟩ := by
  unfold acceptIncoming at isDecision
  rw [bind_eq_ok] at isDecision
  obtain ⟨updated, isUpdated, isDecision⟩ := isDecision
  obtain ⟨rfl, checked, -⟩ := checked_eq_ok.1 isUpdated
  exact ⟨checked, (Except.ok.inj isDecision).symm⟩

theorem write_same (same : decision.state.revision = session.state.revision) :
    session.write decision = ⟨session.state, session.records ++ [decision.record]⟩ := by
  unfold Session.write
  rw [if_neg (not_not_intro same)]

theorem write_new (isNew : decision.state.revision ≠ session.state.revision) :
    session.write decision =
      ⟨{ decision.state with pending := [] }, session.records ++ [decision.record]⟩ := by
  unfold Session.write
  rw [if_pos isNew]

theorem submit_tells (kept : SessionKept session accepted ended)
    (isHere : incoming.sessionId = session.sessionId)
    (fresh : ∀ record ∈ session.records, record.input.inputId = incoming.inputId →
      record.input.idempotencyKey = incoming.idempotencyKey) (now : Datetime) :
    Tells session (session.submit incoming now).1
      ((session.submit incoming now).2.map .decision) := by
  unfold Session.submit
  rcases duplicate : session.duplicate incoming with error | found
  · exact tells_error kept error
  cases found with
  | some found => exact tells_written kept (.same _ kept.unmoved rfl) _ _ fun _ => rfl
  | none =>
    have newKey : ∀ record ∈ session.records,
        record.input.idempotencyKey ≠ incoming.idempotencyKey := by
      unfold Session.duplicate at duplicate
      split at duplicate
      · rename_i absent
        intro record isRecord same
        exact List.find?_eq_none.1 absent record isRecord (by simpa using same)
      · split at duplicate <;> cases duplicate
    have newId : incoming.inputId ∉ session.records.map (·.input.inputId) := by
      intro isOld
      obtain ⟨record, isRecord, same⟩ := List.mem_map.1 isOld
      exact newKey record isRecord (fresh record isRecord same)
    have noDuplicate : session.pending.find? (fun item =>
        decide (item.input.idempotencyKey = incoming.idempotencyKey)) = none := by
      rw [List.find?_eq_none]
      intro record isPending
      simpa using newKey record (mem_pending.1 isPending).1
    have pendingOnly : session.pending.filter (fun item => decide (item.status = .pending)) =
        session.pending := List.filter_eq_self.2 fun item isPending => by
      simpa using (mem_pending.1 isPending).2
    rw [kept.project]
    dsimp only
    generalize isDecision : (do arbitrateBusyInput (← Except.ok _) incoming now) = outcome
    rcases outcome with error | decision
    · exact tells_error kept error
    dsimp only
    rcases @arbitrate_cases incoming { session.state with pending := session.pending } decision now
        noDuplicate isDecision with
      ⟨reason, rfl⟩ | ⟨isOwner, count, bytes, isAccepted⟩
    · have written : session.write (rejected { session.state with pending := session.pending }
          incoming reason) = ⟨session.state, session.records ++
            [⟨incoming, session.state.nextSequence, .rejected, .rejected, none⟩]⟩ :=
        write_same rfl
      rw [written]
      exact tells_written kept (.reject incoming isHere newId) _ _ fun _ => rfl
    · obtain ⟨checked, rfl⟩ := acceptIncoming_eq_ok isAccepted
      simp only [pendingOnly] at count bytes
      let record : PendingBusyInput := ⟨incoming, session.state.nextSequence,
        acceptedDisposition { session.state with pending := session.pending } incoming,
        .pending, none⟩
      refine @tells_written _ _ _ _ [record] [] _ kept ?_ _ _ fun _ => rfl
      rw [write_new (Nat.succ_ne_self session.state.revision)]
      exact .accept incoming isHere newId isOwner _ count bytes _
        ⟨rfl, rfl, ⟨checked.sessionId, checked.owner, checked.activeTurn, checked.revision⟩⟩ rfl

/-- **A consumption in time** ends the record with its sequence. -/
theorem consume_tells (kept : SessionKept session accepted ended) (sequence : ℤ)
    (principalId : String) (now : Datetime)
    (inTime : ∀ record ∈ session.records, record.status = .pending →
      (record.sequence : ℤ) = sequence → ∀ instant, now.instant? = some instant →
        instant < record.input.expiresAt) :
    Tells session (session.consume sequence principalId now).1
      ((session.consume sequence principalId now).2.map
        fun (state, record) => .consumed state record) := by
  unfold Session.consume
  rw [kept.project]
  generalize isConsumed : (do consumePendingInput (← Except.ok _) sequence principalId now) =
    outcome
  rcases outcome with error | result
  · exact tells_error kept error
  obtain ⟨updated, consumed⟩ := result
  dsimp only
  replace isConsumed : consumePendingInput { session.state with pending := session.pending }
    sequence principalId now = .ok (updated, consumed) := isConsumed
  unfold consumePendingInput at isConsumed
  split at isConsumed
  · cases isConsumed
  split at isConsumed
  · cases isConsumed
  rename_i instant isInstant
  dsimp only at isConsumed
  split at isConsumed
  · cases isConsumed
  split at isConsumed
  · cases isConsumed
  rename_i selected isSelected
  rw [bind_eq_ok] at isConsumed
  obtain ⟨state, isUpdated, isConsumed⟩ := isConsumed
  obtain ⟨rfl, checked, -⟩ := checked_eq_ok.1 isUpdated
  obtain ⟨rfl, rfl⟩ := Prod.mk.inj (Except.ok.inj isConsumed)
  have isNamed := List.mem_filter.1 (List.mem_of_getLast? isSelected)
  simp only [decide_eq_true_eq] at isNamed
  obtain ⟨isPending, sameSequence⟩ := isNamed
  obtain ⟨isRecord, status⟩ := mem_pending.1 isPending
  -- Pending sequences differ, so the selected record is the only one with its sequence.
  have only : ∀ record ∈ session.pending, (record.sequence : ℤ) = sequence → record = selected := by
    intro record inside same
    have differ := kept.recorded.increasing.imp Nat.ne_of_lt
    refine List.inj_on_of_nodup_map differ inside isPending ?_
    exact Int.ofNat.inj (same.trans sameSequence.symm)
  have records : session.replacePending (session.pending.map fun item =>
      if (item.sequence : ℤ) = sequence then item.consume instant else item) =
        changed session.records [selected] fun item => item.consume instant := by
    unfold Session.replacePending
    rw [foldl_replaceFirst kept.recorded.ids (fun record => by split <;> rfl)
      (fun item isPending => (mem_pending.1 isPending).1)
      ((kept.recorded.ids.of_map _).filter _)]
    refine List.map_congr_left ?_
    intro record inside
    by_cases isSelected : record ∈ [selected]
    · rw [if_pos isSelected, List.mem_singleton.1 isSelected, if_pos isPending, if_pos sameSequence]
    rw [if_neg isSelected]
    by_cases isOpen : record ∈ session.pending
    · rw [if_pos isOpen, if_neg]
      exact fun same => isSelected (List.mem_singleton.2 (only record isOpen same))
    · rw [if_neg isOpen]
  rw [records]
  have isEnd : End [selected] fun item => item.consume instant := by
    refine .consume instant ?_
    intro item isItem
    rw [List.mem_singleton.1 isItem]
    exact inTime selected isRecord status sameSequence instant isInstant
  refine @tells_written _ _ _ _ [] [selected.consume instant] _ kept ?_
    (fun state => (state, selected.consume instant)) _ fun _ => rfl
  have follows : Follows session.state { session.state with
      revision := session.state.revision + 1
      pending := [] } :=
    ⟨rfl, rfl, ⟨checked.sessionId, checked.owner, checked.activeTurn, checked.revision⟩⟩
  refine .finish _ follows rfl [selected] ?_ (List.nodup_singleton _) _ isEnd
  intro item isItem
  rw [List.mem_singleton.1 isItem]
  exact isPending

/-! ## Calls on the store -/

/-- What a call does to a session, which may not be there. -/
inductive StoreChange : Option Session → Option Session → List PendingBusyInput →
    List PendingBusyInput → Prop
  | absent : StoreChange none none [] []
  | created (state : BusySessionState) (checked : StateChecked state)
      (nextSequence : state.nextSequence = 0) : StoreChange none (some ⟨state, []⟩) [] []
  | changed {before after : Session} {accepts ends : List PendingBusyInput}
      (isChange : Change before after accepts ends) :
      StoreChange (some before) (some after) accepts ends

/-- **What holds of the store**, with its log. -/
def StoreKept (store : BusyStore) (log : List BusyEvent) : Prop :=
  ∀ sessionId, match store.get sessionId with
    | none => acceptedOf sessionId log = [] ∧ endedOf sessionId log = []
    | some session => SessionKept session (acceptedOf sessionId log) (endedOf sessionId log)

/-- **What a call does to the store**, and tells its caller. -/
def StoreTells (store store' : BusyStore) (outcome : Except BusyError BusyAnswer) : Prop :=
  ∀ sessionId, StoreChange (store.get sessionId) (store'.get sessionId)
    (acceptedOf sessionId (eventsOf outcome)) (endedOf sessionId (eventsOf outcome))

theorem acceptedOf_append (sessionId : String) (log more : List BusyEvent) :
    acceptedOf sessionId (log ++ more) = acceptedOf sessionId log ++ acceptedOf sessionId more :=
  List.filterMap_append ..

theorem endedOf_append (sessionId : String) (log more : List BusyEvent) :
    endedOf sessionId (log ++ more) = endedOf sessionId log ++ endedOf sessionId more :=
  List.filterMap_append ..

variable {store store' : BusyStore} {log : List BusyEvent}

theorem sessionKept_created (checked : StateChecked state)
    (nextSequence : state.nextSequence = 0) : SessionKept ⟨state, []⟩ [] [] where
  recorded := ⟨checked, by simp, by simp, by simp [nextSequence], by simp, rfl⟩
  finished := ⟨by simp, List.nodup_nil, by simp⟩
  bounded := ⟨Nat.zero_le _, Nat.zero_le _⟩

/-- **A call keeps what holds of the store.** -/
theorem StoreKept.tells (kept : StoreKept store log) {outcome : Except BusyError BusyAnswer}
    (tells : StoreTells store store' outcome) : StoreKept store' (log ++ eventsOf outcome) := by
  intro sessionId
  have before := kept sessionId
  have change := tells sessionId
  rw [acceptedOf_append, endedOf_append]
  generalize acceptedOf sessionId (eventsOf outcome) = more at change ⊢
  generalize endedOf sessionId (eventsOf outcome) = ends at change ⊢
  generalize store'.get sessionId = after at change ⊢
  generalize store.get sessionId = first at change before
  cases change with
  | absent =>
    rw [List.append_nil, List.append_nil]
    exact before
  | created state checked nextSequence =>
    rw [before.1, before.2]
    exact sessionKept_created checked nextSequence
  | changed isChange => exact SessionKept.change before isChange

theorem Change.sessionId (isChange : Change session next accepted' ended') :
    next.sessionId = session.sessionId := by
  cases isChange with
  | same state follows => exact follows.sessionId
  | reject => rfl
  | accept _ _ _ _ _ _ _ state follows | requeue state follows | finish state follows =>
    exact follows.sessionId

theorem Change.here (isChange : Change session next accepted' ended')
    (recorded : Recorded session accepted) :
    (∀ record ∈ accepted', record.input.sessionId = session.sessionId) ∧
      ∀ record ∈ ended', record.input.sessionId = session.sessionId := by
  cases isChange with
  | same | reject => exact ⟨by simp, by simp⟩
  | accept incoming isHere => exact ⟨by simpa using isHere, by simp⟩
  | requeue => exact ⟨by simp, by simp⟩
  | finish state _ _ items inside _ change isEnd =>
    refine ⟨by simp, ?_⟩
    intro record isEnded
    obtain ⟨item, isItem, rfl⟩ := List.mem_map.1 isEnded
    have input : (change item).input = item.input := congrArg Prod.snd (isEnd.entry item)
    rw [input]
    exact recorded.here item (mem_pending.1 (inside item isItem)).1

/-- A call that raises before it reads a session. -/
theorem storeTells_error (kept : StoreKept store log) (error : BusyError) :
    StoreTells store store (.error error) := by
  intro sessionId
  have before := kept sessionId
  generalize store.get sessionId = found at before ⊢
  cases found with
  | none => exact .absent
  | some session => exact .changed (.same session.state (SessionKept.unmoved before) rfl)

/-- An answer that tells of no record, and a store that is the same. -/
theorem storeTells_quiet (kept : StoreKept store log) {outcome : Except BusyError BusyAnswer}
    (quiet : eventsOf outcome = []) : StoreTells store store outcome := by
  intro sessionId
  rw [quiet]
  exact storeTells_error kept (.value "") sessionId

/-- **A call on one session** changes this one only. -/
theorem onSession_tells {α : Type} (kept : StoreKept store log) {sessionId : String}
    {body : Session → Session × Except BusyError α} {answer : α → BusyAnswer}
    (tells : ∀ session, store.get sessionId = some session →
      SessionKept session (acceptedOf sessionId log) (endedOf sessionId log) →
        Tells session (body session).1 ((body session).2.map answer)) :
    StoreTells store (BusyStore.onSession store sessionId body answer).1
      (BusyStore.onSession store sessionId body answer).2 := by
  unfold BusyStore.onSession
  have before := kept sessionId
  rcases found : store.get sessionId with _ | session
  · exact storeTells_error kept _
  rw [found] at before
  obtain ⟨accepted, ended, isChange, events⟩ := tells session found before
  have isSession : session.sessionId = sessionId := Keyed.key_of_get found
  have isNext : Session.sessionId (body session).1 = sessionId :=
    isChange.sessionId.trans isSession
  obtain ⟨acceptedHere, endedHere⟩ := isChange.here before.recorded
  rw [isSession] at acceptedHere endedHere
  intro other
  dsimp only
  rw [events, acceptedOf_logOf, endedOf_logOf, Keyed.get_put, isNext]
  by_cases same : other = sessionId
  · rw [if_pos same, same, found]
    have allAccepted : accepted.filter (fun record =>
        decide (record.input.sessionId = sessionId)) = accepted :=
      List.filter_eq_self.2 fun record inside => by simpa using acceptedHere record inside
    have allEnded : ended.filter (fun record =>
        decide (record.input.sessionId = sessionId)) = ended :=
      List.filter_eq_self.2 fun record inside => by simpa using endedHere record inside
    rw [allAccepted, allEnded]
    exact .changed isChange
  · rw [if_neg same]
    have noneAccepted : accepted.filter (fun record =>
        decide (record.input.sessionId = other)) = [] := by
      rw [List.filter_eq_nil_iff]
      intro record inside
      rw [acceptedHere record inside]
      simpa using Ne.symm same
    have noneEnded : ended.filter (fun record =>
        decide (record.input.sessionId = other)) = [] := by
      rw [List.filter_eq_nil_iff]
      intro record inside
      rw [endedHere record inside]
      simpa using Ne.symm same
    rw [noneAccepted, noneEnded]
    exact storeTells_error kept (.value "") other

theorem create_tells (kept : StoreKept store log) (sessionId ownerPrincipalId : String)
    (mode : BusyInputMode) :
    StoreTells store (BusyStore.create store sessionId ownerPrincipalId mode).1
      (BusyStore.create store sessionId ownerPrincipalId mode).2 := by
  unfold BusyStore.create
  cases isCandidate : BusySessionState.checked ⟨sessionId, ownerPrincipalId, mode, 1, 0, none, []⟩
    with
  | error error => exact storeTells_error kept error
  | ok candidate =>
    obtain ⟨rfl, checked, -⟩ := checked_eq_ok.1 isCandidate
    dsimp only
    cases found : store.get sessionId with
    | none =>
      have isNew : Session.sessionId
          ⟨⟨sessionId, ownerPrincipalId, mode, 1, 0, none, []⟩, []⟩ = sessionId := rfl
      intro other
      dsimp only
      rw [Keyed.get_put, isNew]
      by_cases same : other = sessionId
      · rw [if_pos same, same, found]
        exact .created _ checked rfl
      · rw [if_neg same]
        exact storeTells_error kept (.value "") other
    | some current =>
      dsimp only
      split
      · exact storeTells_error kept _
      · refine storeTells_quiet kept ?_
        cases current.project <;> rfl

/-! ## Expiry -/

theorem get_expireOne (store : BusyStore) (candidate : String × PendingBusyInput)
    (sessionId : String) : (BusyStore.expireOne store candidate).get sessionId =
      (store.get sessionId).map fun session =>
        if candidate.1 = sessionId then
          { session with
            records := replaceFirst (·.input.inputId) candidate.2.expire session.records }
        else session := by
  unfold BusyStore.expireOne
  rcases found : store.get candidate.1 with _ | session
  · by_cases same : candidate.1 = sessionId
    · rw [← same, found]
      rfl
    · simp [same]
  have isSession : session.sessionId = candidate.1 := Keyed.key_of_get found
  have isNew : Session.sessionId { session with
      records := replaceFirst (·.input.inputId) candidate.2.expire session.records } =
    candidate.1 := isSession
  dsimp only
  rw [Keyed.get_put, isNew]
  by_cases same : sessionId = candidate.1
  · rw [if_pos same, same, found]
    simp
  · rw [if_neg same]
    simp [Ne.symm same]

theorem get_expireAll (candidates : List (String × PendingBusyInput)) (store : BusyStore)
    (sessionId : String) : (candidates.foldl BusyStore.expireOne store).get sessionId =
      (store.get sessionId).map fun session => { session with
        records := (((candidates.filter fun candidate => candidate.1 = sessionId).map
          Prod.snd).map PendingBusyInput.expire).foldl
            (fun records item => replaceFirst (·.input.inputId) item records)
            session.records } := by
  induction candidates generalizing store with
  | nil => simp
  | cons candidate candidates ih =>
    rw [List.foldl_cons, ih, get_expireOne, Option.map_map]
    congr 1
    funext session
    by_cases same : candidate.1 = sessionId
    · simp [same]
    · simp [same]

theorem get_bump (store : BusyStore) (changed sessionId : String) :
    ∃ bumped, (BusyStore.bump store changed).get sessionId =
      (store.get sessionId).map fun session => { session with
        state := { session.state with revision := session.state.revision + bumped } } := by
  unfold BusyStore.bump
  rcases found : store.get changed with _ | session
  · exact ⟨0, by simp⟩
  have isSession : session.sessionId = changed := Keyed.key_of_get found
  have isNew : Session.sessionId { session with
      state := { session.state with revision := session.state.revision + 1 } } = changed :=
    isSession
  dsimp only
  rw [Keyed.get_put, isNew]
  by_cases same : sessionId = changed
  · refine ⟨1, ?_⟩
    rw [if_pos same, same, found]
    rfl
  refine ⟨0, ?_⟩
  rw [if_neg same]
  simp

theorem get_bumpAll (changed : List String) (store : BusyStore) (sessionId : String) :
    ∃ bumped, (changed.foldl BusyStore.bump store).get sessionId =
      (store.get sessionId).map fun session => { session with
        state := { session.state with revision := session.state.revision + bumped } } := by
  induction changed generalizing store with
  | nil => exact ⟨0, by simp⟩
  | cons first changed ih =>
    obtain ⟨more, later⟩ := ih (BusyStore.bump store first)
    obtain ⟨bumped, now⟩ := get_bump store first sessionId
    refine ⟨bumped + more, ?_⟩
    rw [List.foldl_cons, later, now, Option.map_map]
    simp [Function.comp_def, Nat.add_assoc]

theorem mem_due {now : ℤ} {candidate : String × PendingBusyInput} :
    candidate ∈ BusyStore.due store now → ∃ session,
      store.get candidate.1 = some session ∧ candidate.2 ∈ session.pending := by
  intro isDue
  obtain ⟨session, isSession, isDue⟩ := List.mem_flatMap.1 isDue
  obtain ⟨item, isItem, rfl⟩ := List.mem_map.1 isDue
  obtain ⟨isRecord, isOpen⟩ := List.mem_filter.1 isItem
  simp only [Bool.and_eq_true, decide_eq_true_eq] at isOpen
  exact ⟨session, Keyed.get_of_mem isSession, mem_pending.2 ⟨isRecord, isOpen.1⟩⟩

/-- No record is due twice. -/
theorem nodup_due (kept : StoreKept store log) (now : ℤ) : (BusyStore.due store now).Nodup := by
  refine List.nodup_flatMap.2 ⟨?_, ?_⟩
  · intro session isSession
    have before := kept session.sessionId
    rw [Keyed.get_of_mem isSession] at before
    refine ((before.recorded.ids.of_map _).filter _).map ?_
    intro first second same
    exact congrArg Prod.snd same
  · refine (List.Nodup.of_map _ store.nodup).imp_of_mem ?_
    intro first second isFirst isSecond differ candidate isHere isThere
    obtain ⟨item, -, rfl⟩ := List.mem_map.1 isHere
    obtain ⟨other, -, same⟩ := List.mem_map.1 isThere
    exact differ (List.inj_on_of_nodup_map store.nodup isFirst isSecond
      (congrArg Prod.fst same).symm)

/-- **Expiry ends records that are due.** -/
theorem expire_tells (kept : StoreKept store log) (now : Datetime) (limit : ℤ) :
    StoreTells store (BusyStore.expirePending store now limit).1
      (BusyStore.expirePending store now limit).2 := by
  unfold BusyStore.expirePending
  rcases now.instant? with _ | instant
  · exact storeTells_error kept _
  dsimp only
  split
  swap
  · exact storeTells_error kept _
  generalize isCandidates : ((BusyStore.due store instant).mergeSort fun candidate other =>
    decide (BusyStore.expiryKey candidate ≤ BusyStore.expiryKey other)).take limit.toNat =
      candidates
  have isSome : ∀ candidate ∈ candidates, ∃ session,
      store.get candidate.1 = some session ∧ candidate.2 ∈ session.pending := by
    intro candidate inside
    rw [← isCandidates] at inside
    exact mem_due ((List.mergeSort_perm ..).subset (List.mem_of_mem_take inside))
  have once : candidates.Nodup := by
    rw [← isCandidates]
    exact ((List.mergeSort_perm ..).nodup_iff.2 (nodup_due kept instant)).sublist
      (List.take_sublist ..)
  intro sessionId
  dsimp only
  have events : eventsOf (.ok (.expired (candidates.map fun candidate =>
      candidate.2.expire))) = logOf [] (candidates.map fun candidate => candidate.2.expire) := rfl
  have here : ∀ candidate ∈ candidates, candidate.2.expire.input.sessionId = candidate.1 := by
    intro candidate inside
    obtain ⟨session, found, isPending⟩ := isSome candidate inside
    have before := kept candidate.1
    rw [found] at before
    rw [← Keyed.key_of_get found]
    exact before.recorded.here candidate.2 (mem_pending.1 isPending).1
  have ends : (candidates.map fun candidate => candidate.2.expire).filter (fun record =>
      decide (record.input.sessionId = sessionId)) =
        ((candidates.filter fun candidate => candidate.1 = sessionId).map Prod.snd).map
          PendingBusyInput.expire := by
    rw [List.filter_map, List.map_map]
    congr 1
    refine List.filter_congr ?_
    intro candidate inside
    simp only [Function.comp_apply, here candidate inside]
  rw [events, acceptedOf_logOf, endedOf_logOf, ends]
  obtain ⟨bumped, after⟩ := get_bumpAll (candidates.map Prod.fst).dedup
    (candidates.foldl BusyStore.expireOne store) sessionId
  rw [after, get_expireAll]
  have before := kept sessionId
  cases found : store.get sessionId with
  | none =>
    have noItems : candidates.filter (fun candidate => decide (candidate.1 = sessionId)) = [] := by
      rw [List.filter_eq_nil_iff]
      intro candidate inside same
      obtain ⟨session, isSession, -⟩ := isSome candidate inside
      rw [of_decide_eq_true same, found] at isSession
      cases isSession
    rw [noItems]
    exact .absent
  | some session =>
    rw [found] at before
    have inside : ∀ item ∈ (candidates.filter fun candidate =>
        decide (candidate.1 = sessionId)).map Prod.snd, item ∈ session.pending := by
      intro item isItem
      obtain ⟨candidate, isCandidate, rfl⟩ := List.mem_map.1 isItem
      obtain ⟨isIn, same⟩ := List.mem_filter.1 isCandidate
      obtain ⟨other, isOther, isPending⟩ := isSome candidate isIn
      rw [of_decide_eq_true same, found] at isOther
      rw [Option.some.inj isOther]
      exact isPending
    have onceHere : ((candidates.filter fun candidate =>
        decide (candidate.1 = sessionId)).map Prod.snd).Nodup := by
      refine (once.filter _).map_on ?_
      intro first isFirst second isSecond same
      have firstHere := of_decide_eq_true (List.mem_filter.1 isFirst).2
      have secondHere := of_decide_eq_true (List.mem_filter.1 isSecond).2
      exact Prod.ext (firstHere.trans secondHere.symm) same
    have records := @foldl_replaceFirst _ _ _ (·.input.inputId) _ session.records
      before.recorded.ids PendingBusyInput.expire (fun _ => rfl) _
      (fun item isItem => (mem_pending.1 (inside item isItem)).1) onceHere
    rw [Option.map_some, Option.map_some, records]
    have checked := before.recorded.checked
    have follows : Follows session.state { session.state with
        revision := session.state.revision + bumped } :=
      ⟨rfl, rfl, ⟨checked.sessionId, checked.owner, checked.activeTurn,
        checked.revision.trans (Nat.le_add_right ..)⟩⟩
    exact .changed (.finish _ follows rfl _ inside onceHere _ .expire)

/-! ## Runs -/

/-- What a call has to meet. An input with a new idempotency key has a new identity as well, among
all the inputs that the session has seen; and an input is consumed before it expires. -/
def BusyCall.Conforms (store : BusyStore) : BusyCall → Prop
  | .submit incoming _ => ∀ session, store.get incoming.sessionId = some session →
      ∀ record ∈ session.records, record.input.inputId = incoming.inputId →
        record.input.idempotencyKey = incoming.idempotencyKey
  | .consume sessionId sequence _ now => ∀ session, store.get sessionId = some session →
      ∀ record ∈ session.records, record.status = .pending →
        (record.sequence : ℤ) = sequence → ∀ instant, now.instant? = some instant →
          instant < record.input.expiresAt
  | _ => True

/-- **A conforming call** changes the store as its answer tells. -/
theorem step_tells (kept : StoreKept store log) (call : BusyCall) (conforms : call.Conforms store) :
    StoreTells store (BusyStore.step store call).1 (BusyStore.step store call).2 := by
  cases call with
  | create sessionId owner mode => exact create_tells kept sessionId owner mode
  | setActiveTurn sessionId principalId turnId mode expectedRevision =>
    exact onSession_tells kept fun session _ before =>
      setActiveTurn_tells before principalId turnId mode expectedRevision
  | setMode sessionId principalId mode =>
    exact onSession_tells kept fun session _ before => setMode_tells before principalId mode
  | submit incoming now =>
    exact onSession_tells kept fun session found before =>
      submit_tells before (Keyed.key_of_get found).symm (conforms session found) now
  | finishTurn sessionId principalId turnId =>
    exact onSession_tells kept fun session _ before => finishTurn_tells before principalId turnId
  | consume sessionId sequence principalId now =>
    exact onSession_tells kept fun session found before =>
      consume_tells before sequence principalId now (conforms session found)
  | expirePending now limit => exact expire_tells kept now limit

/-- The store and its log, after calls. -/
def BusyStore.run (start : BusyStore × List BusyEvent) (calls : List BusyCall) :
    BusyStore × List BusyEvent :=
  calls.foldl (fun (store, log) call =>
    ((BusyStore.step store call).1, log ++ eventsOf (BusyStore.step store call).2)) start

/-- A run whose calls conform. -/
def BusyStore.Conforming (store : BusyStore) : List BusyCall → Prop
  | [] => True
  | call :: calls => call.Conforms store ∧ BusyStore.Conforming (BusyStore.step store call).1 calls

theorem run_cons (store : BusyStore) (log : List BusyEvent) (call : BusyCall)
    (calls : List BusyCall) : BusyStore.run (store, log) (call :: calls) =
      BusyStore.run ((BusyStore.step store call).1,
        log ++ eventsOf (BusyStore.step store call).2) calls := rfl

theorem run_append (start : BusyStore × List BusyEvent) (calls later : List BusyCall) :
    BusyStore.run start (calls ++ later) = BusyStore.run (BusyStore.run start calls) later :=
  List.foldl_append ..

variable {calls : List BusyCall}

theorem conforming_append {later : List BusyCall} (log : List BusyEvent) :
    BusyStore.Conforming store (calls ++ later) ↔ BusyStore.Conforming store calls ∧
      BusyStore.Conforming (BusyStore.run (store, log) calls).1 later := by
  induction calls generalizing store log with
  | nil => simp [BusyStore.Conforming, BusyStore.run]
  | cons call calls ih =>
    rw [List.cons_append, run_cons]
    show _ ∧ _ ↔ (_ ∧ _) ∧ _
    rw [ih, and_assoc]

/-- **A conforming run keeps what holds.** -/
theorem StoreKept.run (kept : StoreKept store log) (conforming : BusyStore.Conforming store calls) :
    StoreKept (BusyStore.run (store, log) calls).1 (BusyStore.run (store, log) calls).2 := by
  induction calls generalizing store log with
  | nil => exact kept
  | cons call calls ih => exact ih (kept.tells (step_tells kept call conforming.1)) conforming.2

/-- The records of a later session: what was no longer pending is as it was. -/
def TerminalKept (before after : Session) : Prop :=
  ∀ (place : ℕ) (record : PendingBusyInput), before.records[place]? = some record →
    record.status ≠ .pending → after.records[place]? = some record

/-- **A conforming run keeps every terminal record.** -/
theorem terminal_run (kept : StoreKept store log)
    (conforming : BusyStore.Conforming store calls) {sessionId : String}
    (found : store.get sessionId = some session) : ∃ after,
      (BusyStore.run (store, log) calls).1.get sessionId = some after ∧
        TerminalKept session after := by
  induction calls generalizing store log session with
  | nil => exact ⟨session, found, fun _ _ isRecord _ => isRecord⟩
  | cons call calls ih =>
    have tells := step_tells kept call conforming.1
    have change := tells sessionId
    rw [found] at change
    generalize isNext : (BusyStore.step store call).1.get sessionId = later at change
    cases change with
    | changed isChange =>
      obtain ⟨after, isAfter, terminal⟩ := ih (kept.tells tells) conforming.2 isNext
      refine ⟨after, isAfter, ?_⟩
      intro place record isRecord ended
      exact terminal place record (isChange.terminal isRecord ended) ended

/-- **The inputs of a session have one disposition**: the records accepted so far are those that are
pending and those that have ended, once. -/
structure DispositionedOnce (session : Session) (accepted ended : List PendingBusyInput) :
    Prop where
  /-- The accepted inputs are numbered in their order. -/
  sequences : accepted.map PendingBusyInput.sequence = List.range session.state.nextSequence
  /-- They are the owner's. -/
  owned : ∀ record ∈ accepted, record.input.principalId = session.state.ownerPrincipalId
  /-- No input ends twice. -/
  once : (ended.map PendingBusyInput.sequence).Nodup
  ends : ∀ record ∈ ended, record.entry ∈ accepted.map PendingBusyInput.entry ∧
    (record.status = .consumed ∨ record.status = .expired)
  /-- What was accepted is pending until it ends. -/
  pending : session.pending.map PendingBusyInput.entry =
    (accepted.map PendingBusyInput.entry).filter fun entry =>
      entry.1 ∉ ended.map PendingBusyInput.sequence
  /-- What is consumed is consumed before it expires. -/
  inTime : ∀ record ∈ ended, record.status = .consumed →
    ∃ instant, record.consumedAt = some instant ∧ instant < record.input.expiresAt
  increasing : (session.pending.map PendingBusyInput.sequence).Pairwise (· < ·)
  count : session.pending.length ≤ 32
  bytes : (session.pending.map PendingBusyInput.bytes).sum ≤ 32000

theorem SessionKept.dispositionedOnce (kept : SessionKept session accepted ended) :
    DispositionedOnce session accepted ended := by
  obtain ⟨recorded, finished, bounded⟩ := kept
  have sequences : accepted.map PendingBusyInput.sequence =
      (session.records.filter PendingBusyInput.wasAccepted).map PendingBusyInput.sequence := by
    have first := congrArg (List.map Prod.fst) recorded.entries
    rwa [List.map_map, List.map_map] at first
  have numbered : ((session.records.filter PendingBusyInput.wasAccepted).map
      PendingBusyInput.sequence).Nodup := by
    rw [recorded.sequences]
    exact List.nodup_range
  have isAccepted : ∀ record ∈ ended,
      record ∈ session.records.filter PendingBusyInput.wasAccepted := by
    intro record isEnded
    obtain ⟨isRecord, hasEnded⟩ := (finished.iff record).1 isEnded
    exact List.mem_filter.2 ⟨isRecord, PendingBusyInput.wasAccepted_of_hasEnded hasEnded⟩
  refine ⟨sequences.trans recorded.sequences, ?_, ?_, ?_, ?_, finished.inTime,
    recorded.increasing, bounded.count, bounded.bytes⟩
  · intro record inside
    have isEntry := List.mem_map_of_mem (f := PendingBusyInput.entry) inside
    rw [recorded.entries] at isEntry
    obtain ⟨stored, isStored, same⟩ := List.mem_map.1 isEntry
    obtain ⟨isRecord, wasAccepted⟩ := List.mem_filter.1 isStored
    rw [← recorded.owned stored isRecord wasAccepted]
    exact congrArg (fun entry => entry.2.principalId) same.symm
  · refine finished.once.map_on ?_
    intro first isFirst second isSecond same
    exact List.inj_on_of_nodup_map numbered (isAccepted first isFirst) (isAccepted second isSecond)
      same
  · intro record isEnded
    refine ⟨?_, ?_⟩
    · rw [recorded.entries]
      exact List.mem_map_of_mem (isAccepted record isEnded)
    · have hasEnded := ((finished.iff record).1 isEnded).2
      simpa [PendingBusyInput.hasEnded] using hasEnded
  · rw [recorded.entries, List.filter_map]
    unfold Session.pending
    rw [List.filter_filter]
    congr 1
    refine List.filter_congr ?_
    intro record isRecord
    rw [Bool.eq_iff_iff]
    simp only [Function.comp_apply, Bool.and_eq_true, decide_eq_true_eq]
    constructor
    · intro isPending
      have wasAccepted : record.wasAccepted = true := by
        simp [PendingBusyInput.wasAccepted, isPending]
      refine ⟨?_, wasAccepted⟩
      intro isEnded
      obtain ⟨other, isOther, same⟩ := List.mem_map.1 isEnded
      have isSame := List.inj_on_of_nodup_map numbered (isAccepted other isOther)
        (List.mem_filter.2 ⟨isRecord, wasAccepted⟩) same
      have hasEnded := ((finished.iff other).1 isOther).2
      rw [isSame] at hasEnded
      exact PendingBusyInput.not_pending_of_hasEnded hasEnded isPending
    · rintro ⟨isOpen, wasAccepted⟩
      by_contra notPending
      have hasEnded := PendingBusyInput.hasEnded_of_not_pending wasAccepted notPending
      exact isOpen (List.mem_map_of_mem ((finished.iff record).2 ⟨isRecord, hasEnded⟩))

theorem storeKept_empty : StoreKept Keyed.empty [] := fun _ => ⟨rfl, rfl⟩

/-- **Every input ends once**, in every run whose calls conform: at its end, and from any moment of it
to its end. -/
theorem busy_input_once (calls later : List BusyCall)
    (conforming : BusyStore.Conforming Keyed.empty (calls ++ later)) (sessionId : String)
    (session : Session)
    (found : (BusyStore.run (Keyed.empty, []) calls).1.get sessionId = some session) :
    DispositionedOnce session (acceptedOf sessionId (BusyStore.run (Keyed.empty, []) calls).2)
        (endedOf sessionId (BusyStore.run (Keyed.empty, []) calls).2) ∧
      ∃ after, (BusyStore.run (Keyed.empty, []) (calls ++ later)).1.get sessionId = some after ∧
        TerminalKept session after := by
  obtain ⟨first, second⟩ := (conforming_append []).1 conforming
  have kept := storeKept_empty.run first
  constructor
  · have here := kept sessionId
    rw [found] at here
    exact here.dispositionedOnce
  · rw [run_append]
    exact terminal_run kept second found

/-- An input that expires at 10. -/
def firstInput : BusyInput :=
  ⟨"input", "first", "session", "owner", "restart", .prose, 0, 10, by decide +kernel,
    by decide +kernel, by decide⟩

/-- Another one, with the identity of the first. -/
def secondInput : BusyInput :=
  ⟨"input", "second", "session", "owner", "stop", .prose, 0, 10, by decide +kernel,
    by decide +kernel, by decide⟩

/-- One input, consumed in time, and the next call after it. -/
theorem busy_input_once_consumed :
    let calls : List BusyCall := [.create "session" "owner" .queue,
      .submit firstInput (.aware 1), .consume "session" 0 "owner" (.aware 5)]
    ∃ session, DispositionedOnce session
        (acceptedOf "session" (BusyStore.run (Keyed.empty, []) calls).2)
        (endedOf "session" (BusyStore.run (Keyed.empty, []) calls).2) ∧
      ∃ after, (BusyStore.run (Keyed.empty, []) (calls ++ [.finishTurn "session" "owner" "t"])).1.get
        "session" = some after ∧ TerminalKept session after := by
  intro calls
  have created : (BusyStore.step Keyed.empty (.create "session" "owner" .queue)).1.get "session" =
      some ⟨⟨"session", "owner", .queue, 1, 0, none, []⟩, []⟩ := by decide +kernel
  have submitted : (BusyStore.run (Keyed.empty, []) [.create "session" "owner" .queue,
      .submit firstInput (.aware 1)]).1.get "session" =
        some ⟨⟨"session", "owner", .queue, 2, 1, none, []⟩,
          [⟨firstInput, 0, .queued, .pending, none⟩]⟩ := by decide +kernel
  have consumed : (BusyStore.run (Keyed.empty, []) calls).1.get "session" =
      some ⟨⟨"session", "owner", .queue, 3, 1, none, []⟩,
        [⟨firstInput, 0, .queued, .consumed, some 5⟩]⟩ := by decide +kernel
  refine ⟨_, busy_input_once calls [.finishTurn "session" "owner" "t"]
    ⟨True.intro, ?_, ?_, True.intro, True.intro⟩ "session" _ consumed⟩
  · intro session found record inside
    obtain rfl := Option.some.inj (created.symm.trans found)
    cases inside
  · intro session found record inside _ _ instant reading
    obtain rfl := Option.some.inj (submitted.symm.trans found)
    obtain rfl := List.mem_singleton.1 inside
    obtain rfl := Option.some.inj reading
    decide

/-- **An input that ends twice.** The second input shares the identity of the first: when it is
consumed, its record replaces the first one and stays pending, so it is consumed again, and when it
has expired. -/
theorem busy_input_twice :
    let calls : List BusyCall := [.create "session" "owner" .queue,
      .submit firstInput (.aware 1), .submit secondInput (.aware 2),
      .consume "session" 1 "owner" (.aware 5), .consume "session" 1 "owner" (.aware 20)]
    ∃ session, (BusyStore.run (Keyed.empty, []) calls).1.get "session" = some session ∧
      ¬ DispositionedOnce session (acceptedOf "session" (BusyStore.run (Keyed.empty, []) calls).2)
        (endedOf "session" (BusyStore.run (Keyed.empty, []) calls).2) := by
  intro calls
  have consumed : (BusyStore.run (Keyed.empty, []) calls).1.get "session" =
      some ⟨⟨"session", "owner", .queue, 5, 2, none, []⟩,
        [⟨secondInput, 1, .queued, .consumed, some 20⟩,
          ⟨secondInput, 1, .queued, .pending, none⟩]⟩ := by decide +kernel
  refine ⟨_, consumed, ?_⟩
  intro once
  have twice : (endedOf "session" (BusyStore.run (Keyed.empty, []) calls).2).map
      PendingBusyInput.sequence = [1, 1] := by decide +kernel
  have nodup := once.once
  rw [twice] at nodup
  exact absurd nodup (by decide)

end Fdai.Core.Conversation
