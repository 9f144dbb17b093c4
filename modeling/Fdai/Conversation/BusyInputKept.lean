import Mathlib.Algebra.Order.BigOperators.Group.List
import Fdai.Conversation.BusyInput

/-!
# A busy session gives each input one disposition

What a call does to a session is one of a few changes of its records: nothing, a rejected record more,
a pending record more, the steers queued, or pending records ended. The store replaces a record by
its input identity, so this needs that two records of a session never share one; and the code compares
the reading of the clock with the expiry of an input when this one is submitted, not when it is
consumed. `Conforms` asks for both.

* `Change` — the changes, and `SessionKept`, what they keep.
* `StoreChange` — one call, session by session.
* `busy_input_once` — in every run whose calls conform, every accepted input is pending or has ended
  once, within the limits, and what has ended stays as it is.
-/

namespace Fdai.Core.Conversation

open Fdai.Sequences (Keyed replaceFirst foldl_replaceFirst)

variable {session next : Session} {record : PendingBusyInput} {incoming : BusyInput}

namespace PendingBusyInput

/-- Whether a record was accepted. -/
def wasAccepted (record : PendingBusyInput) : Bool := record.status ≠ .rejected

/-- Whether a record was consumed or expired. -/
def hasEnded (record : PendingBusyInput) : Bool :=
  record.status = .consumed || record.status = .expired

/-- What a record keeps: its place in the order of inputs, and the input. -/
def entry (record : PendingBusyInput) : ℕ × BusyInput := (record.sequence, record.input)

/-- An end of a pending record: it is consumed in time, or it expires. -/
inductive End (items : List PendingBusyInput) : (PendingBusyInput → PendingBusyInput) → Prop
  | consume (instant : ℤ) (inTime : ∀ item ∈ items, instant < item.input.expiresAt) :
      End items fun item => item.consume instant
  | expire : End items expire

variable {items : List PendingBusyInput} {change : PendingBusyInput → PendingBusyInput}

theorem End.entry (isEnd : End items change) (record : PendingBusyInput) :
    (change record).entry = record.entry := by
  cases isEnd <;> rfl

theorem End.hasEnded (isEnd : End items change) (record : PendingBusyInput) :
    (change record).hasEnded = true := by
  cases isEnd <;> rfl

theorem End.inTime (isEnd : End items change) (inside : record ∈ items)
    (isConsumed : (change record).status = .consumed) :
    ∃ instant, (change record).consumedAt = some instant ∧
      instant < (change record).input.expiresAt := by
  cases isEnd with
  | consume instant inTime => exact ⟨instant, rfl, inTime record inside⟩
  | expire => cases isConsumed

theorem requeue_entry (record : PendingBusyInput) : record.requeue.entry = record.entry := by
  unfold requeue
  split <;> rfl

theorem requeue_status (record : PendingBusyInput) : record.requeue.status = record.status := by
  unfold requeue
  split <;> rfl

theorem requeue_of_not_pending (ended : record.status ≠ .pending) : record.requeue = record :=
  if_neg fun steered => ended steered.1

theorem wasAccepted_of_hasEnded (ended : record.hasEnded = true) : record.wasAccepted = true := by
  unfold PendingBusyInput.hasEnded at ended
  unfold wasAccepted
  cases status : record.status <;> simp_all

theorem not_pending_of_hasEnded (ended : record.hasEnded = true) : record.status ≠ .pending := by
  intro pending
  simp [PendingBusyInput.hasEnded, pending] at ended

theorem hasEnded_of_not_pending (isAccepted : record.wasAccepted = true)
    (ended : record.status ≠ .pending) : record.hasEnded = true := by
  unfold wasAccepted at isAccepted
  unfold PendingBusyInput.hasEnded
  cases status : record.status <;> simp_all

end PendingBusyInput

open PendingBusyInput (End)

/-- The checks of a state that do not concern its inputs. -/
structure StateChecked (state : BusySessionState) : Prop where
  sessionId : isIdentifier state.sessionId = true
  owner : isIdentifier state.ownerPrincipalId = true
  activeTurn : state.activeTurnId.all isIdentifier = true
  revision : 1 ≤ state.revision

/-- **A state that its constructor accepts.** -/
theorem checked_eq_ok {state result : BusySessionState} : state.checked = .ok result ↔
    result = state ∧ StateChecked state ∧ state.pending.length ≤ maxPending ∧
      ((state.pending.map PendingBusyInput.sequence).Pairwise (· ≤ ·) ∧
        (state.pending.map PendingBusyInput.sequence).Nodup) := by
  unfold BusySessionState.checked
  rw [check_bind_eq_ok]
  simp only [require_eq_ok, validate_cons_eq_ok, validate_nil, and_true, decide_eq_true_eq]
  constructor
  · rintro ⟨⟨sessionId, owner, active, revision, cap, order⟩, same⟩
    exact ⟨(Except.ok.inj same).symm, ⟨sessionId, owner, active, revision⟩, cap, order⟩
  · rintro ⟨rfl, ⟨sessionId, owner, active, revision⟩, cap, order⟩
    exact ⟨⟨sessionId, owner, active, revision, cap, order⟩, rfl⟩

/-- A state that follows another one of the same session and owner. -/
structure Follows (state next : BusySessionState) : Prop where
  sessionId : next.sessionId = state.sessionId
  owner : next.ownerPrincipalId = state.ownerPrincipalId
  checked : StateChecked next

def changed (records items : List PendingBusyInput)
    (change : PendingBusyInput → PendingBusyInput) : List PendingBusyInput :=
  records.map fun record => if record ∈ items then change record else record

/-- **What a call does to a session**: the records accepted by it, and the records ended by it. -/
inductive Change (session : Session) :
    Session → List PendingBusyInput → List PendingBusyInput → Prop
  | same (state : BusySessionState) (follows : Follows session.state state)
      (nextSequence : state.nextSequence = session.state.nextSequence) :
      Change session ⟨state, session.records⟩ [] []
  | reject (incoming : BusyInput) (isHere : incoming.sessionId = session.sessionId)
      (fresh : incoming.inputId ∉ session.records.map (·.input.inputId)) :
      Change session ⟨session.state, session.records ++
        [⟨incoming, session.state.nextSequence, .rejected, .rejected, none⟩]⟩ [] []
  | accept (incoming : BusyInput) (isHere : incoming.sessionId = session.sessionId)
      (fresh : incoming.inputId ∉ session.records.map (·.input.inputId))
      (isOwner : incoming.principalId = session.state.ownerPrincipalId)
      (disposition : BusyInputDisposition)
      (count : session.pending.length < maxPending)
      (bytes : (session.pending.map PendingBusyInput.bytes).sum +
        incoming.content.utf8ByteSize ≤ maxPendingBytes)
      (state : BusySessionState) (follows : Follows session.state state)
      (nextSequence : state.nextSequence = session.state.nextSequence + 1) :
      Change session ⟨state, session.records ++
          [⟨incoming, session.state.nextSequence, disposition, .pending, none⟩]⟩
        [⟨incoming, session.state.nextSequence, disposition, .pending, none⟩] []
  | requeue (state : BusySessionState) (follows : Follows session.state state)
      (nextSequence : state.nextSequence = session.state.nextSequence) :
      Change session ⟨state, session.records.map PendingBusyInput.requeue⟩ [] []
  | finish (state : BusySessionState) (follows : Follows session.state state)
      (nextSequence : state.nextSequence = session.state.nextSequence)
      (items : List PendingBusyInput) (inside : ∀ item ∈ items, item ∈ session.pending)
      (once : items.Nodup) (change : PendingBusyInput → PendingBusyInput)
      (isEnd : End items change) :
      Change session ⟨state, changed session.records items change⟩ [] (items.map change)

/-- The records of a session, and those that were accepted so far. -/
structure Recorded (session : Session) (accepted : List PendingBusyInput) : Prop where
  checked : StateChecked session.state
  here : ∀ record ∈ session.records, record.input.sessionId = session.sessionId
  ids : (session.records.map (·.input.inputId)).Nodup
  sequences : (session.records.filter PendingBusyInput.wasAccepted).map
    PendingBusyInput.sequence = List.range session.state.nextSequence
  owned : ∀ record ∈ session.records, record.wasAccepted = true →
    record.input.principalId = session.state.ownerPrincipalId
  entries : accepted.map PendingBusyInput.entry =
    (session.records.filter PendingBusyInput.wasAccepted).map PendingBusyInput.entry

/-- The records of a session, and those that have ended so far. -/
structure Finished (session : Session) (ended : List PendingBusyInput) : Prop where
  iff : ∀ record, record ∈ ended ↔ record ∈ session.records ∧ record.hasEnded = true
  once : ended.Nodup
  inTime : ∀ record ∈ ended, record.status = .consumed →
    ∃ instant, record.consumedAt = some instant ∧ instant < record.input.expiresAt

/-- The limits on what is pending. -/
structure Bounded (session : Session) : Prop where
  count : session.pending.length ≤ maxPending
  bytes : (session.pending.map PendingBusyInput.bytes).sum ≤ maxPendingBytes

/-- **What holds of a session**, with the records that were accepted and ended so far. -/
structure SessionKept (session : Session) (accepted ended : List PendingBusyInput) : Prop where
  recorded : Recorded session accepted
  finished : Finished session ended
  bounded : Bounded session

variable {accepted ended accepted' ended' : List PendingBusyInput}

theorem mem_pending : record ∈ session.pending ↔
    record ∈ session.records ∧ record.status = .pending := by
  simp [Session.pending]

theorem Recorded.increasing (recorded : Recorded session accepted) :
    (session.pending.map PendingBusyInput.sequence).Pairwise (· < ·) := by
  have all : ((session.records.filter PendingBusyInput.wasAccepted).map
      PendingBusyInput.sequence).Pairwise (· < ·) := by
    rw [recorded.sequences]
    exact List.pairwise_lt_range
  refine all.sublist (List.Sublist.map _ ?_)
  refine List.monotone_filter_right _ ?_
  intro record isPending
  simp only [decide_eq_true_eq] at isPending
  simp [PendingBusyInput.wasAccepted, isPending]

/-- **A session that is kept can be projected.** -/
theorem SessionKept.project (kept : SessionKept session accepted ended) :
    session.project = .ok { session.state with pending := session.pending } := by
  have increasing := kept.recorded.increasing
  have checked := kept.recorded.checked
  unfold Session.project
  rw [checked_eq_ok]
  exact ⟨rfl, ⟨checked.sessionId, checked.owner, checked.activeTurn, checked.revision⟩,
    kept.bounded.count, increasing.imp Nat.le_of_lt, increasing.imp Nat.ne_of_lt⟩

/-! ## Changes keep what holds -/

section Map

variable {state : BusySessionState} {change : PendingBusyInput → PendingBusyInput}

theorem entries_map {records : List PendingBusyInput}
    (entry : ∀ record ∈ records, (change record).entry = record.entry)
    (wasAccepted : ∀ record ∈ records, (change record).wasAccepted = record.wasAccepted) :
    ((records.map change).filter PendingBusyInput.wasAccepted).map PendingBusyInput.entry =
      (records.filter PendingBusyInput.wasAccepted).map PendingBusyInput.entry := by
  have same : records.filter (PendingBusyInput.wasAccepted ∘ change) =
      records.filter PendingBusyInput.wasAccepted := List.filter_congr wasAccepted
  rw [List.filter_map, same, List.map_map]
  exact List.map_congr_left fun record inside => entry record (List.mem_filter.1 inside).1

/-- **Records that are changed in place stay recorded.** -/
theorem Recorded.map (recorded : Recorded session accepted) (follows : Follows session.state state)
    (nextSequence : state.nextSequence = session.state.nextSequence)
    (entry : ∀ record ∈ session.records, (change record).entry = record.entry)
    (wasAccepted : ∀ record ∈ session.records, (change record).wasAccepted = record.wasAccepted) :
    Recorded ⟨state, session.records.map change⟩ accepted := by
  have input : ∀ record ∈ session.records, (change record).input = record.input :=
    fun record inside => congrArg Prod.snd (entry record inside)
  have entries := entries_map entry wasAccepted
  refine ⟨follows.checked, ?_, ?_, ?_, ?_, ?_⟩
  · intro record inside
    obtain ⟨old, isOld, rfl⟩ := List.mem_map.1 inside
    rw [input old isOld, recorded.here old isOld]
    exact follows.sessionId.symm
  · have ids : (session.records.map change).map (·.input.inputId) =
        session.records.map (·.input.inputId) := by
      rw [List.map_map]
      exact List.map_congr_left fun record inside =>
        congrArg BusyInput.inputId (input record inside)
    rw [ids]
    exact recorded.ids
  · have sequences := congrArg (List.map Prod.fst) entries
    rw [List.map_map, List.map_map] at sequences
    exact sequences.trans (recorded.sequences.trans (by rw [nextSequence]))
  · intro record inside isAccepted
    obtain ⟨old, isOld, rfl⟩ := List.mem_map.1 inside
    rw [wasAccepted old isOld] at isAccepted
    rw [input old isOld, recorded.owned old isOld isAccepted]
    exact follows.owner.symm
  · exact recorded.entries.trans entries.symm

end Map

/-- A record more. -/
theorem Recorded.append (recorded : Recorded session accepted) (record : PendingBusyInput)
    {state : BusySessionState} (follows : Follows session.state state)
    (isHere : record.input.sessionId = session.sessionId)
    (fresh : record.input.inputId ∉ session.records.map (·.input.inputId))
    (added : if record.wasAccepted then
        state.nextSequence = session.state.nextSequence + 1 ∧
          record.sequence = session.state.nextSequence ∧
          record.input.principalId = session.state.ownerPrincipalId
      else state.nextSequence = session.state.nextSequence) :
    Recorded ⟨state, session.records ++ [record]⟩
      (accepted ++ if record.wasAccepted then [record] else []) := by
  refine ⟨follows.checked, ?_, ?_, ?_, ?_, ?_⟩
  · intro other inside
    have sameId : Session.sessionId ⟨state, session.records ++ [record]⟩ = session.sessionId :=
      follows.sessionId
    rw [sameId]
    rcases List.mem_append.1 inside with isOld | isNew
    · exact recorded.here other isOld
    · rw [List.mem_singleton.1 isNew]
      exact isHere
  · rw [List.map_append, List.nodup_append]
    refine ⟨recorded.ids, List.nodup_singleton _, ?_⟩
    intro id isOld other isNew same
    rw [same, List.mem_singleton.1 isNew] at isOld
    exact fresh isOld
  · rw [List.filter_append, List.map_append, recorded.sequences]
    cases isAccepted : record.wasAccepted with
    | true =>
      simp only [isAccepted, if_true] at added
      rw [List.filter_cons_of_pos isAccepted, List.filter_nil, added.1, List.range_succ]
      simp [added.2.1]
    | false =>
      simp only [isAccepted, if_false, Bool.false_eq_true] at added
      rw [List.filter_cons_of_neg (by simp [isAccepted]), added]
      simp
  · intro other inside isAccepted
    show _ = state.ownerPrincipalId
    rw [follows.owner]
    rcases List.mem_append.1 inside with isOld | isNew
    · exact recorded.owned other isOld isAccepted
    obtain rfl := List.mem_singleton.1 isNew
    simp only [isAccepted, if_true] at added
    exact added.2.2
  · rw [List.filter_append, List.map_append, List.map_append, recorded.entries]
    cases isAccepted : record.wasAccepted with
    | true | false => simp [isAccepted]

theorem Finished.append (finished : Finished session ended) (record : PendingBusyInput)
    {state : BusySessionState} (isOpen : record.hasEnded = false) :
    Finished ⟨state, session.records ++ [record]⟩ ended := by
  refine ⟨?_, finished.once, finished.inTime⟩
  intro other
  rw [finished.iff, List.mem_append, List.mem_singleton]
  constructor
  · rintro ⟨isOld, hasEnded⟩
    exact ⟨.inl isOld, hasEnded⟩
  · rintro ⟨isOld | rfl, hasEnded⟩
    · exact ⟨isOld, hasEnded⟩
    · rw [isOpen] at hasEnded
      cases hasEnded

theorem pending_append (state : BusySessionState) (record : PendingBusyInput) :
    Session.pending ⟨state, session.records ++ [record]⟩ =
      session.pending ++ if record.status = .pending then [record] else [] := by
  unfold Session.pending
  rw [List.filter_append]
  by_cases isPending : record.status = .pending
  · simp [isPending]
  · simp [isPending]

section Finish

variable {state : BusySessionState} {items : List PendingBusyInput}
  {change : PendingBusyInput → PendingBusyInput}

theorem pending_changed (state : BusySessionState) (isEnd : End items change) :
    (Session.pending ⟨state, changed session.records items change⟩).Sublist session.pending := by
  have same : (Session.pending ⟨state, changed session.records items change⟩) =
      session.records.filter fun record => record.status = .pending && record ∉ items := by
    unfold Session.pending changed
    rw [List.filter_map]
    have kept : session.records.filter ((fun record : PendingBusyInput =>
          decide (record.status = .pending)) ∘ fun record =>
            if record ∈ items then change record else record) =
        session.records.filter fun record => record.status = .pending && record ∉ items := by
      refine List.filter_congr ?_
      intro record _
      by_cases inside : record ∈ items
      · have ended := PendingBusyInput.not_pending_of_hasEnded (isEnd.hasEnded record)
        simp [inside, ended]
      · simp [inside]
    rw [kept]
    refine (List.map_congr_left ?_).trans (List.map_id _)
    intro record isKept
    have outside := (List.mem_filter.1 isKept).2
    simp only [Bool.and_eq_true, decide_eq_true_eq] at outside
    exact if_neg outside.2
  rw [same]
  refine List.monotone_filter_right _ ?_
  intro record isKept
  simp only [Bool.and_eq_true] at isKept
  exact isKept.1

/-- **Records that end have ended once.** -/
theorem Finished.finish (finished : Finished session ended)
    (ids : (session.records.map (·.input.inputId)).Nodup) (state : BusySessionState)
    (inside : ∀ item ∈ items, item ∈ session.pending) (once : items.Nodup)
    (isEnd : End items change) :
    Finished ⟨state, changed session.records items change⟩ (ended ++ items.map change) := by
  have differ : ∀ first ∈ session.records, ∀ second ∈ session.records,
      (change first).entry = (change second).entry → first = second := by
    intro first isFirst second isSecond same
    rw [isEnd.entry, isEnd.entry] at same
    exact List.inj_on_of_nodup_map ids isFirst isSecond
      (congrArg (fun entry => entry.2.inputId) same)
  have isRecord : ∀ item ∈ items, item ∈ session.records := fun item isItem =>
    (mem_pending.1 (inside item isItem)).1
  refine ⟨?_, ?_, ?_⟩
  · intro record
    rw [List.mem_append, List.mem_map, finished.iff]
    unfold changed
    rw [List.mem_map]
    constructor
    · rintro (⟨isOld, hasEnded⟩ | ⟨item, isItem, rfl⟩)
      · refine ⟨⟨record, isOld, if_neg ?_⟩, hasEnded⟩
        intro isItem
        exact PendingBusyInput.not_pending_of_hasEnded hasEnded
          (mem_pending.1 (inside record isItem)).2
      · exact ⟨⟨item, isRecord item isItem, if_pos isItem⟩, isEnd.hasEnded item⟩
    · rintro ⟨⟨old, isOld, rfl⟩, hasEnded⟩
      by_cases isItem : old ∈ items
      · exact .inr ⟨old, isItem, (if_pos isItem).symm⟩
      · rw [if_neg isItem] at hasEnded ⊢
        exact .inl ⟨isOld, hasEnded⟩
  · rw [List.nodup_append]
    refine ⟨finished.once, once.map_on ?_, ?_⟩
    · intro first isFirst second isSecond same
      exact differ first (isRecord first isFirst) second (isRecord second isSecond)
        (congrArg PendingBusyInput.entry same)
    · intro old isOld new isNew same
      obtain ⟨item, isItem, rfl⟩ := List.mem_map.1 isNew
      obtain ⟨isOld, hasEnded⟩ := (finished.iff old).1 isOld
      -- The ended record has the input of a pending one.
      have sameInput : old.input.inputId = item.input.inputId := by
        rw [same]
        exact congrArg (fun entry => entry.2.inputId) (isEnd.entry item)
      have isPending := List.inj_on_of_nodup_map ids isOld (isRecord item isItem) sameInput
      rw [isPending] at hasEnded
      exact PendingBusyInput.not_pending_of_hasEnded hasEnded (mem_pending.1 (inside item isItem)).2
  · intro record isIn isConsumed
    rcases List.mem_append.1 isIn with isOld | isNew
    · exact finished.inTime record isOld isConsumed
    · obtain ⟨item, isItem, rfl⟩ := List.mem_map.1 isNew
      exact isEnd.inTime isItem isConsumed

end Finish

/-- Fewer pending records stay within the limits. -/
theorem Bounded.fewer (bounded : Bounded session)
    (fewer : next.pending.Sublist session.pending) : Bounded next :=
  ⟨fewer.length_le.trans bounded.count,
    ((fewer.map _).sum_le_sum fun _ _ => Nat.zero_le _).trans bounded.bytes⟩

/-- **A change keeps what holds of a session.** -/
theorem SessionKept.change (kept : SessionKept session accepted ended)
    (isChange : Change session next accepted' ended') :
    SessionKept next (accepted ++ accepted') (ended ++ ended') := by
  obtain ⟨recorded, finished, bounded⟩ := kept
  have unmoved : Follows session.state session.state := ⟨rfl, rfl, recorded.checked⟩
  cases isChange with
  | same state follows nextSequence =>
    rw [List.append_nil, List.append_nil]
    have mapped := @Recorded.map _ _ _ id recorded follows nextSequence (fun _ _ => rfl)
      fun _ _ => rfl
    rw [List.map_id] at mapped
    exact ⟨mapped, ⟨finished.iff, finished.once, finished.inTime⟩, ⟨bounded.count, bounded.bytes⟩⟩
  | reject incoming isHere fresh =>
    refine ⟨recorded.append _ unmoved isHere fresh rfl, ?_, bounded.fewer ?_⟩
    · rw [List.append_nil]
      exact finished.append _ rfl
    · rw [pending_append]
      simp
  | accept incoming isHere fresh isOwner disposition count bytes state follows nextSequence =>
    rw [List.append_nil]
    refine ⟨recorded.append _ follows isHere fresh ⟨nextSequence, rfl, isOwner⟩,
      finished.append _ rfl, ?_, ?_⟩
    · rw [pending_append, if_pos rfl, List.length_append]
      exact count
    · rw [pending_append]
      simpa [PendingBusyInput.bytes] using bytes
  | requeue state follows nextSequence =>
    rw [List.append_nil, List.append_nil]
    have pending : Session.pending ⟨state, session.records.map PendingBusyInput.requeue⟩ =
        session.pending.map PendingBusyInput.requeue := by
      unfold Session.pending
      rw [List.filter_map]
      congr 1
      refine List.filter_congr ?_
      intro record _
      simp [PendingBusyInput.requeue_status]
    refine ⟨recorded.map follows nextSequence (fun record _ => record.requeue_entry) ?_,
      ⟨?_, finished.once, finished.inTime⟩, ?_, ?_⟩
    · intro record _
      simp [PendingBusyInput.wasAccepted, PendingBusyInput.requeue_status]
    · intro record
      rw [finished.iff, List.mem_map]
      constructor
      · rintro ⟨isOld, hasEnded⟩
        exact ⟨⟨record, isOld, PendingBusyInput.requeue_of_not_pending
          (PendingBusyInput.not_pending_of_hasEnded hasEnded)⟩, hasEnded⟩
      · rintro ⟨⟨old, isOld, rfl⟩, hasEnded⟩
        have notPending := PendingBusyInput.not_pending_of_hasEnded hasEnded
        rw [PendingBusyInput.requeue_status] at notPending
        rw [PendingBusyInput.requeue_of_not_pending notPending] at hasEnded ⊢
        exact ⟨isOld, hasEnded⟩
    · rw [pending, List.length_map]
      exact bounded.count
    · have same : (session.pending.map PendingBusyInput.requeue).map PendingBusyInput.bytes =
          session.pending.map PendingBusyInput.bytes := by
        rw [List.map_map]
        refine List.map_congr_left ?_
        intro record _
        exact congrArg (fun entry => entry.2.content.utf8ByteSize) record.requeue_entry
      rw [pending, same]
      exact bounded.bytes
  | finish state follows nextSequence items inside once change isEnd =>
    rw [List.append_nil]
    refine ⟨recorded.map follows nextSequence ?_ ?_,
      finished.finish recorded.ids state inside once isEnd,
      bounded.fewer (pending_changed state isEnd)⟩
    · intro record _
      by_cases isItem : record ∈ items
      · rw [if_pos isItem, isEnd.entry]
      · rw [if_neg isItem]
    · intro record _
      by_cases isItem : record ∈ items
      · have isPending := (mem_pending.1 (inside record isItem)).2
        rw [if_pos isItem, PendingBusyInput.wasAccepted_of_hasEnded (isEnd.hasEnded record)]
        simp [PendingBusyInput.wasAccepted, isPending]
      · rw [if_neg isItem]

/-- **What has ended, or was rejected, stays as it is.** -/
theorem Change.terminal (isChange : Change session next accepted' ended') {place : ℕ}
    (isRecord : session.records[place]? = some record) (terminal : record.status ≠ .pending) :
    next.records[place]? = some record := by
  cases isChange with
  | same => exact isRecord
  | reject | accept =>
    exact (List.getElem?_append_left (List.getElem?_eq_some_iff.1 isRecord).1).trans isRecord
  | requeue =>
    rw [List.getElem?_map, isRecord, Option.map_some,
      PendingBusyInput.requeue_of_not_pending terminal]
  | finish state _ _ items inside =>
    have outside : record ∉ items := fun isItem =>
      terminal (mem_pending.1 (inside record isItem)).2
    unfold changed
    rw [List.getElem?_map, isRecord, Option.map_some, if_neg outside]

end Fdai.Core.Conversation
