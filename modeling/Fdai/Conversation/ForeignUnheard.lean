import Fdai.Conversation.ForeignInputs

/-!
# Submissions of other principals are not heard

Session by session, what a call does is determined by the owner's records. So two runs that differ in
submissions of other principals keep the same records of the owners, and answer the owners the same.

* `BusyRequest`, `BusyRequest.Apart` — a call of the store, reading or writing, that meets no record
  of others.
* `foreign_unheard` — the owners' requests have the same results in both runs;
  `foreign_heard` — they do not where a record of others is met.
-/

namespace Fdai.Core.Conversation

open Fdai.Sequences

variable {session : Session} {incoming : BusyInput} {record : PendingBusyInput}

variable {store store' : BusyStore}

/-- The store, without the records of others. -/
def ownStore (store : BusyStore) : BusyStore := store.mapValues Session.own fun _ => rfl

/-- What others have sent is rejected, in every session. -/
def StoreQuiet (store : BusyStore) : Prop := ∀ session ∈ store.values, Quiet session

theorem get_ownStore (sessionId : String) :
    (ownStore store).get sessionId = (store.get sessionId).map Session.own := Keyed.get_mapValues

theorem ownStore_put : ownStore (store.put session) = (ownStore store).put session.own :=
  Keyed.mapValues_put

theorem StoreQuiet.put (quiet : StoreQuiet store) (here : Quiet session) :
    StoreQuiet (store.put session) := by
  intro other isOther
  rcases Keyed.mem_put isOther with rfl | isOld
  · exact here
  · exact quiet other isOld

theorem get_ownStore_of_get {sessionId : String} {found : Option Session}
    (got : store.get sessionId = found) :
    (ownStore store).get sessionId = found.map Session.own := by
  rw [get_ownStore, got]

/-- **What a call does to the store is heard by the owners alone.** -/
structure StoreHeard {α : Type} (call : BusyStore → BusyStore × α) (store : BusyStore) : Prop where
  same : call (ownStore store) = (ownStore (call store).1, (call store).2)
  quiet : StoreQuiet (call store).1

theorem onSession_heard {α : Type} {sessionId : String}
    {body : Session → Session × Except BusyError α} {answer : α → BusyAnswer}
    (quiet : StoreQuiet store)
    (heard : ∀ session, store.get sessionId = some session → Heard body session) :
    StoreHeard (fun store => store.onSession sessionId body answer) store := by
  rcases found : store.get sessionId with _ | session
  · have own := get_ownStore_of_get found
    constructor
    · simp only [BusyStore.onSession, found, own, Option.map]
    · simpa only [BusyStore.onSession, found] using quiet
  have own := get_ownStore_of_get found
  obtain ⟨same, still⟩ := heard session found
  constructor
  · simp only [BusyStore.onSession, found, own, Option.map, same]
    rw [ownStore_put]
  · simpa only [BusyStore.onSession, found] using quiet.put still

theorem create_heard (quiet : StoreQuiet store) (sessionId ownerPrincipalId : String)
    (mode : BusyInputMode) :
    StoreHeard (fun store => store.create sessionId ownerPrincipalId mode) store := by
  cases candidate : BusySessionState.checked ⟨sessionId, ownerPrincipalId, mode, 1, 0, none, []⟩ with
  | error error =>
    constructor
    · simp only [BusyStore.create, candidate]
    · simpa only [BusyStore.create, candidate] using quiet
  | ok created =>
    cases found : store.get sessionId with
    | none =>
      have own := get_ownStore_of_get found
      constructor
      · simp only [BusyStore.create, candidate, found, own, Option.map]
        rw [ownStore_put]
        rfl
      · have empty : Quiet ⟨created, []⟩ := fun _ isRecord => by cases isRecord
        simpa only [BusyStore.create, candidate, found] using quiet.put empty
    | some current =>
      have own := get_ownStore_of_get found
      have here := quiet current (Keyed.mem_of_get found)
      have owner : current.own.state.ownerPrincipalId = current.state.ownerPrincipalId := rfl
      constructor
      · simp only [BusyStore.create, candidate, found, own, Option.map, here.project_own, owner]
        split
        · rfl
        · rfl
      · simp only [BusyStore.create, candidate, found]
        split
        · exact quiet
        · exact quiet

/-! ## Expiry without the records of others -/

theorem due_own (quiet : StoreQuiet store) (now : ℤ) :
    BusyStore.due (ownStore store) now = BusyStore.due store now := by
  show (store.values.map Session.own).flatMap _ = store.values.flatMap _
  rw [List.flatMap_map]
  refine List.flatMap_congr fun session isSession => ?_
  show List.map _ ((session.records.filter session.owns).filter _) = List.map _ _
  rw [List.filter_filter]
  congr 1
  refine List.filter_congr fun record isRecord => ?_
  by_cases isPending : record.status = .pending
  · have isOwn := (quiet session isSession).owns (mem_pending.2 ⟨isRecord, isPending⟩)
    simp [isOwn]
  · simp [isPending]

/-- The expiry of a record replaces a record of the owner. -/
def ExpiresOwn (store : BusyStore) (candidate : String × PendingBusyInput) : Prop :=
  ∀ session, store.get candidate.1 = some session →
    session.owns candidate.2 = true ∧ ReplacesOwn session candidate.2

theorem expireOne_heard (quiet : StoreQuiet store) {candidate : String × PendingBusyInput}
    (expires : ExpiresOwn store candidate) :
    BusyStore.expireOne (ownStore store) candidate =
        ownStore (BusyStore.expireOne store candidate) ∧
      StoreQuiet (BusyStore.expireOne store candidate) := by
  unfold BusyStore.expireOne
  rcases found : store.get candidate.1 with _ | session
  · have own := get_ownStore_of_get found
    rw [own]
    exact ⟨rfl, quiet⟩
  have own := get_ownStore_of_get found
  obtain ⟨isOwn, replaces⟩ := expires session found
  have written := @written_replaced session session.state [candidate.2.expire]
    (quiet session (Keyed.mem_of_get found)) rfl
    (fun item isItem => by rw [List.mem_singleton.1 isItem]; exact replaces)
    (fun item isItem => by rw [List.mem_singleton.1 isItem]; exact isOwn)
  rw [own, Option.map_some]
  dsimp only
  refine ⟨?_, quiet.put written.2⟩
  rw [ownStore_put]
  congr 1
  exact written.1.symm

theorem ExpiresOwn.expireOne {candidate other : String × PendingBusyInput}
    (expires : ExpiresOwn store candidate) (expires' : ExpiresOwn store other) :
    ExpiresOwn (BusyStore.expireOne store other) candidate := by
  intro session found
  rw [get_expireOne] at found
  obtain ⟨old, isOld, rfl⟩ := Option.map_eq_some_iff.1 found
  obtain ⟨isOwn, replaces⟩ := expires old isOld
  by_cases same : other.1 = candidate.1
  · rw [if_pos same]
    exact ⟨isOwn, replaces.replaceFirst (expires' old (same ▸ isOld)).1⟩
  · rw [if_neg same]
    exact ⟨isOwn, replaces⟩

theorem expireAll_heard {candidates : List (String × PendingBusyInput)} (quiet : StoreQuiet store)
    (expires : ∀ candidate ∈ candidates, ExpiresOwn store candidate) :
    candidates.foldl BusyStore.expireOne (ownStore store) =
        ownStore (candidates.foldl BusyStore.expireOne store) ∧
      StoreQuiet (candidates.foldl BusyStore.expireOne store) := by
  induction candidates generalizing store with
  | nil => exact ⟨rfl, quiet⟩
  | cons candidate candidates ih =>
    have isFirst := expires candidate List.mem_cons_self
    obtain ⟨same, still⟩ := expireOne_heard quiet isFirst
    rw [List.foldl_cons, List.foldl_cons, same]
    refine ih still fun other isOther => ?_
    exact (expires other (List.mem_cons_of_mem _ isOther)).expireOne isFirst

theorem bump_heard (quiet : StoreQuiet store) (sessionId : String) :
    BusyStore.bump (ownStore store) sessionId = ownStore (BusyStore.bump store sessionId) ∧
      StoreQuiet (BusyStore.bump store sessionId) := by
  unfold BusyStore.bump
  rcases found : store.get sessionId with _ | session
  · have own := get_ownStore_of_get found
    rw [own]
    exact ⟨rfl, quiet⟩
  have own := get_ownStore_of_get found
  have written := @written_state session
    { session.state with revision := session.state.revision + 1 }
    (quiet session (Keyed.mem_of_get found)) rfl
  rw [own]
  refine ⟨?_, quiet.put written.2⟩
  rw [ownStore_put]
  rfl

theorem bumpAll_heard {changed : List String} (quiet : StoreQuiet store) :
    changed.foldl BusyStore.bump (ownStore store) = ownStore (changed.foldl BusyStore.bump store) ∧
      StoreQuiet (changed.foldl BusyStore.bump store) := by
  induction changed generalizing store with
  | nil => exact ⟨rfl, quiet⟩
  | cons first changed ih =>
    obtain ⟨same, still⟩ := bump_heard quiet first
    rw [List.foldl_cons, List.foldl_cons, same]
    exact ih still

theorem expirePending_heard (quiet : StoreQuiet store) (now : Datetime) (limit : ℤ)
    (expires : ∀ instant, now.instant? = some instant →
      ∀ candidate ∈ BusyStore.due store instant, ExpiresOwn store candidate) :
    StoreHeard (fun store => store.expirePending now limit) store := by
  rcases reading : now.instant? with _ | instant
  · constructor
    · simp only [BusyStore.expirePending, reading]
    · simpa only [BusyStore.expirePending, reading] using quiet
  by_cases isLimit : 1 ≤ limit ∧ limit ≤ 1000
  swap
  · constructor
    · simp only [BusyStore.expirePending, reading, if_neg isLimit]
    · simpa only [BusyStore.expirePending, reading, if_neg isLimit] using quiet
  have some := @expireAll_heard store (((BusyStore.due store instant).mergeSort
    fun candidate other =>
      decide (BusyStore.expiryKey candidate ≤ BusyStore.expiryKey other)).take limit.toNat)
    quiet fun candidate isCandidate => expires instant reading candidate
      ((List.mergeSort_perm ..).subset (List.mem_of_mem_take isCandidate))
  have bumped := @bumpAll_heard _ (((((BusyStore.due store instant).mergeSort fun candidate other =>
      decide (BusyStore.expiryKey candidate ≤ BusyStore.expiryKey other)).take
        limit.toNat).map Prod.fst).dedup) some.2
  constructor
  · simp only [BusyStore.expirePending, reading, if_pos isLimit, due_own quiet instant]
    rw [some.1, bumped.1]
  · simpa only [BusyStore.expirePending, reading, if_pos isLimit] using bumped.2

/-! ## Requests -/

/-- A call of the store, writing or reading. -/
inductive BusyRequest where
  | call (call : BusyCall)
  | get (sessionId principalId : String)
  | listPending (sessionId principalId : String) (limit : ℤ)

/-- What a request returns. -/
inductive BusyReply where
  | answer (answer : BusyAnswer)
  | found (state : Option BusySessionState)
  | listed (records : List PendingBusyInput)
  deriving DecidableEq

namespace BusyStore

/-- `get`. -/
def read (store : BusyStore) (sessionId principalId : String) :
    Except BusyError (Option BusySessionState) :=
  match store.get sessionId with
  | none => .ok none
  | some session =>
    if session.state.ownerPrincipalId ≠ principalId then .ok none
    else session.project.map some

def listPending (store : BusyStore) (sessionId principalId : String) (limit : ℤ) :
    Except BusyError (List PendingBusyInput) :=
  if 1 ≤ limit ∧ limit ≤ 32 then
    match store.get sessionId with
    | none => .error (.lookup "busy session" sessionId)
    | some session => do
      session.authorized principalId
      return session.pending.take limit.toNat
  else .error (.value "limit MUST be in [1, 32]")

/-- **One request.** -/
def serve (store : BusyStore) : BusyRequest → BusyStore × Except BusyError BusyReply
  | .call call => ((store.step call).1, (store.step call).2.map .answer)
  | .get sessionId principalId => (store, (store.read sessionId principalId).map .found)
  | .listPending sessionId principalId limit =>
    (store, (store.listPending sessionId principalId limit).map .listed)

/-- Whether a request is a submission, of another principal than the owner of the session. -/
def foreign (store : BusyStore) : BusyRequest → Bool
  | .call (.submit incoming _) => (store.get incoming.sessionId).all fun session =>
      incoming.principalId ≠ session.state.ownerPrincipalId
  | _ => false

end BusyStore

/-- **A request that meets no record of others**: an owner's input does not have the idempotency key
of one, and no pending record is replaced by its input identity where one comes first. -/
def BusyRequest.Apart (store : BusyStore) : BusyRequest → Prop
  | .call (.submit incoming _) => ∀ session, store.get incoming.sessionId = some session →
      incoming.principalId = session.state.ownerPrincipalId → KeyApart session incoming
  | .call (.finishTurn sessionId principalId _) => ∀ session, store.get sessionId = some session →
      principalId = session.state.ownerPrincipalId → Conversation.Apart session
  | .call (.consume sessionId _ principalId _) => ∀ session, store.get sessionId = some session →
      principalId = session.state.ownerPrincipalId → Conversation.Apart session
  | .call (.expirePending now _) => ∀ instant, now.instant? = some instant →
      ∀ candidate ∈ BusyStore.due store instant, ∀ session, store.get candidate.1 = some session →
        ReplacesOwn session candidate.2
  | _ => True

theorem foreign_own (request : BusyRequest) : (ownStore store).foreign request =
    store.foreign request := by
  cases request with
  | call call =>
    cases call with
    | submit incoming now =>
      show ((ownStore store).get incoming.sessionId).all _ = (store.get incoming.sessionId).all _
      rw [get_ownStore, Option.all_map]
      rfl
    | _ => rfl
  | _ => rfl

/-- **A request of the owner, or of the system**, is heard by the owners alone. -/
theorem serve_heard (quiet : StoreQuiet store) (request : BusyRequest)
    (apart : request.Apart store) (notForeign : store.foreign request = false) :
    StoreHeard (fun store => store.serve request) store := by
  have ofCall : ∀ call, StoreHeard (fun store => store.step call) store →
      StoreHeard (fun store => store.serve (.call call)) store := by
    intro call heard
    constructor
    · show (BusyStore.step (ownStore store) call |>.1, _) = _
      unfold BusyStore.serve
      dsimp only
      rw [heard.same]
    · exact heard.quiet
  cases request with
  | call call =>
    refine ofCall call ?_
    cases call with
    | create sessionId owner mode => exact create_heard quiet sessionId owner mode
    | setActiveTurn sessionId principalId turnId mode expectedRevision =>
      exact onSession_heard quiet fun session found => setActiveTurn_heard
        (quiet session (Keyed.mem_of_get found)) principalId turnId mode expectedRevision
    | setMode sessionId principalId mode =>
      exact onSession_heard quiet fun session found => setMode_heard
        (quiet session (Keyed.mem_of_get found)) principalId mode
    | submit incoming now =>
      refine onSession_heard quiet fun session found => ?_
      have isOwner : incoming.principalId = session.state.ownerPrincipalId := by
        simpa [BusyStore.foreign, found] using notForeign
      exact submit_heard (quiet session (Keyed.mem_of_get found)) now isOwner
        (apart session found isOwner)
    | finishTurn sessionId principalId turnId =>
      exact onSession_heard quiet fun session found => finishTurn_heard
        (quiet session (Keyed.mem_of_get found)) principalId turnId (apart session found)
    | consume sessionId sequence principalId now =>
      exact onSession_heard quiet fun session found => consume_heard
        (quiet session (Keyed.mem_of_get found)) sequence principalId now (apart session found)
    | expirePending now limit =>
      refine expirePending_heard quiet now limit ?_
      intro instant reading candidate isDue session found
      obtain ⟨session', found', isPending⟩ := mem_due isDue
      obtain rfl := Option.some.inj (found'.symm.trans found)
      exact ⟨(quiet session' (Keyed.mem_of_get found)).owns isPending,
        apart instant reading candidate isDue session' found⟩
  | get sessionId principalId =>
    refine ⟨?_, quiet⟩
    have same : (ownStore store).read sessionId principalId = store.read sessionId principalId := by
      unfold BusyStore.read
      rw [get_ownStore]
      rcases found : store.get sessionId with _ | session
      · rfl
      have here := quiet session (Keyed.mem_of_get found)
      show (if _ then _ else session.own.project.map some) = _
      rw [here.project_own]
      rfl
    unfold BusyStore.serve
    dsimp only
    rw [same]
  | listPending sessionId principalId limit =>
    refine ⟨?_, quiet⟩
    have same : (ownStore store).listPending sessionId principalId limit =
        store.listPending sessionId principalId limit := by
      unfold BusyStore.listPending
      rw [get_ownStore]
      rcases found : store.get sessionId with _ | session
      · rfl
      have here := quiet session (Keyed.mem_of_get found)
      dsimp only [Option.map_some]
      rw [here.pending_own]
      rfl
    unfold BusyStore.serve
    dsimp only
    rw [same]

/-- **A submission of another principal** is not heard by the owners. -/
theorem serve_foreign (quiet : StoreQuiet store) (request : BusyRequest)
    (isForeign : store.foreign request = true) :
    ownStore (store.serve request).1 = ownStore store ∧ StoreQuiet (store.serve request).1 := by
  unfold BusyStore.foreign at isForeign
  split at isForeign
  swap
  · cases isForeign
  rename_i incoming now
  show ownStore (store.onSession incoming.sessionId _ _).1 = _ ∧
    StoreQuiet (store.onSession incoming.sessionId _ _).1
  unfold BusyStore.onSession
  rcases found : store.get incoming.sessionId with _ | session
  · exact ⟨rfl, quiet⟩
  have other : incoming.principalId ≠ session.state.ownerPrincipalId := by
    simpa [found] using isForeign
  obtain ⟨same, still⟩ := submit_foreign (quiet session (Keyed.mem_of_get found)) now other
  refine ⟨?_, quiet.put still⟩
  dsimp only
  rw [ownStore_put, same]
  refine Keyed.put_of_get (k := incoming.sessionId) ?_
  rw [get_ownStore, found]
  rfl

namespace BusyStore

/-- The requests of a run that are no submissions of others, each with its result. -/
def ownerResults (store : BusyStore) :
    List BusyRequest → List (BusyRequest × Except BusyError BusyReply)
  | [] => []
  | request :: rest =>
    let served := store.serve request
    if store.foreign request then ownerResults served.1 rest
    else (request, served.2) :: ownerResults served.1 rest

/-- No request of a run meets a record of others. -/
def ApartRun (store : BusyStore) : List BusyRequest → Prop
  | [] => True
  | request :: rest => request.Apart store ∧ ApartRun (store.serve request).1 rest

end BusyStore

/-- **Requests with submissions of others inserted**, and without them. -/
inductive Inserted : BusyStore → List BusyRequest → List BusyRequest → Prop
  | none {store : BusyStore} : Inserted store [] []
  | keep {store : BusyStore} {request : BusyRequest} {requests fewer : List BusyRequest}
      (later : Inserted (store.serve request).1 requests fewer) :
      Inserted store (request :: requests) (request :: fewer)
  | insert {store : BusyStore} {request : BusyRequest} {requests fewer : List BusyRequest}
      (isForeign : store.foreign request = true)
      (later : Inserted (store.serve request).1 requests fewer) :
      Inserted store (request :: requests) fewer

theorem ownerResults_foreign {request : BusyRequest} {requests : List BusyRequest}
    (isForeign : store.foreign request = true) :
    store.ownerResults (request :: requests) = (store.serve request).1.ownerResults requests :=
  if_pos isForeign

theorem ownerResults_own {request : BusyRequest} {requests : List BusyRequest}
    (notForeign : store.foreign request = false) :
    store.ownerResults (request :: requests) =
      (request, (store.serve request).2) :: (store.serve request).1.ownerResults requests :=
  if_neg (Bool.eq_false_iff.1 notForeign)

theorem ownerResults_eq {requests fewer : List BusyRequest}
    (inserted : Inserted store requests fewer) (quiet : StoreQuiet store)
    (quiet' : StoreQuiet store') (same : ownStore store = ownStore store')
    (apart : store.ApartRun requests) (apart' : store'.ApartRun fewer) :
    store.ownerResults requests = store'.ownerResults fewer := by
  induction inserted generalizing store' with
  | none => rfl
  | @keep store request requests fewer later ih =>
    have sameForeign : store'.foreign request = store.foreign request := by
      rw [← foreign_own, ← same, foreign_own]
    cases isForeign : store.foreign request with
    | true =>
      rw [isForeign] at sameForeign
      obtain ⟨unheard, still⟩ := serve_foreign quiet request isForeign
      obtain ⟨unheard', still'⟩ := serve_foreign quiet' request sameForeign
      rw [ownerResults_foreign isForeign, ownerResults_foreign sameForeign]
      exact ih still still' (unheard.trans (same.trans unheard'.symm)) apart.2 apart'.2
    | false =>
      rw [isForeign] at sameForeign
      have heard := serve_heard quiet request apart.1 isForeign
      have heard' := serve_heard quiet' request apart'.1 sameForeign
      -- Both stores serve the request as the store without the records of others does.
      have served := heard.same
      rw [same, heard'.same] at served
      obtain ⟨stores, results⟩ := Prod.mk.inj served
      rw [ownerResults_own isForeign, ownerResults_own sameForeign, results]
      exact congrArg _ (ih heard.quiet heard'.quiet stores.symm apart.2 apart'.2)
  | @insert store request requests fewer isForeign later ih =>
    obtain ⟨unheard, still⟩ := serve_foreign quiet request isForeign
    rw [ownerResults_foreign isForeign]
    exact ih still quiet' (unheard.trans same) apart.2 apart'

/-- **Submissions of others are not heard.** Where no request meets a record of others, with them and
without them, all other requests have the same results. -/
theorem foreign_unheard {requests fewer : List BusyRequest}
    (inserted : Inserted Keyed.empty requests fewer)
    (apart : BusyStore.ApartRun Keyed.empty requests)
    (apart' : BusyStore.ApartRun Keyed.empty fewer) :
    BusyStore.ownerResults Keyed.empty requests = BusyStore.ownerResults Keyed.empty fewer := by
  have quiet : StoreQuiet Keyed.empty := fun _ isSession => by cases isSession
  exact ownerResults_eq inserted quiet quiet rfl apart apart'

instance {α β : Type} [DecidableEq β] (p : α → Bool) (key : α → β) (values : List α) (k : β) :
    Decidable (FirstHas p key values k) :=
  inferInstanceAs (Decidable (∀ first ∈ values.find? (fun value => key value = k), p first = true))

instance (session : Session) (incoming : BusyInput) : Decidable (KeyApart session incoming) :=
  inferInstanceAs (Decidable (∀ record ∈ session.records, session.owns record = false →
    record.input.idempotencyKey ≠ incoming.idempotencyKey))

instance (session : Session) (record : PendingBusyInput) : Decidable (ReplacesOwn session record) :=
  inferInstanceAs (Decidable (FirstHas _ _ _ _))

instance (session : Session) : Decidable (Apart session) :=
  inferInstanceAs (Decidable (∀ record ∈ session.pending, ReplacesOwn session record))

instance (store : BusyStore) (request : BusyRequest) : Decidable (request.Apart store) :=
  match request with
  | .call (.submit incoming _) => inferInstanceAs (Decidable
      (∀ session ∈ store.get incoming.sessionId,
        incoming.principalId = session.state.ownerPrincipalId → KeyApart session incoming))
  | .call (.finishTurn sessionId principalId _) | .call (.consume sessionId _ principalId _) =>
    inferInstanceAs (Decidable (∀ session ∈ store.get sessionId,
      principalId = session.state.ownerPrincipalId → Conversation.Apart session))
  | .call (.expirePending now _) => inferInstanceAs (Decidable (∀ instant ∈ now.instant?,
      ∀ candidate ∈ BusyStore.due store instant, ∀ session ∈ store.get candidate.1,
        ReplacesOwn session candidate.2))
  | .call (.create ..) | .call (.setActiveTurn ..) | .call (.setMode ..) | .get .. |
    .listPending .. => inferInstanceAs (Decidable True)

/-- An input of another principal. -/
def foreignInput (inputId idempotencyKey : String) (isId : isIdentifier inputId = true)
    (isKey : isIdentifier idempotencyKey = true) : BusyInput where
  inputId
  idempotencyKey
  sessionId := "session"
  principalId := "other"
  content := "restart"
  kind := .prose
  receivedAt := 0
  expiresAt := 10
  identifiers := by
    rw [isId, isKey]
    decide +kernel
  bounded := firstInput.bounded
  expires := firstInput.expires

/-- Requests of the owner: an input, its consumption, and what is still pending. -/
def ownerRequests : List BusyRequest :=
  [.call (.submit firstInput (.aware 1)), .call (.consume "session" 0 "owner" (.aware 5)),
    .listPending "session" "owner" 32]

/-- An input of another principal, sent before the owner's. -/
def withForeign (incoming : BusyInput) : List BusyRequest :=
  .call (.create "session" "owner" .queue) :: .call (.submit incoming (.aware 1)) :: ownerRequests

/-- The owner's requests are answered as without it, if it shares nothing with the owner's input. -/
theorem foreign_unheard_apart : BusyStore.ownerResults Keyed.empty
        (withForeign (foreignInput "other-input" "other-key" (by decide +kernel) (by decide +kernel))) =
      BusyStore.ownerResults Keyed.empty
        (.call (.create "session" "owner" .queue) :: ownerRequests) := by
  refine foreign_unheard (.keep (.insert (by decide +kernel) (.keep (.keep (.keep .none))))) ?_ ?_
  · refine ⟨?_, ?_, ?_, ?_, ?_, trivial⟩ <;> decide +kernel
  · refine ⟨?_, ?_, ?_, ?_, trivial⟩ <;> decide +kernel

/-- **A submission of another principal that is heard.** With the idempotency key of the owner's input,
it makes this one a conflict; with its identity, it is replaced in the place of the owner's record, and
the consumed input stays pending. -/
theorem foreign_heard :
    let conflicting := foreignInput "other-input" "first" (by decide +kernel) (by decide +kernel)
    let replaced := foreignInput "input" "other-key" (by decide +kernel) (by decide +kernel)
    ∀ incoming ∈ [conflicting, replaced], Inserted Keyed.empty (withForeign incoming)
          (.call (.create "session" "owner" .queue) :: ownerRequests) ∧
        BusyStore.ownerResults Keyed.empty (withForeign incoming) ≠
          BusyStore.ownerResults Keyed.empty
            (.call (.create "session" "owner" .queue) :: ownerRequests) := by
  intro conflicting replaced incoming isIncoming
  rcases List.mem_pair.1 isIncoming with rfl | rfl
  · refine ⟨.keep (.insert (by decide +kernel) (.keep (.keep (.keep .none)))), fun same => ?_⟩
    exact absurd (congrArg (List.map Prod.snd) same) (by decide +kernel)
  · refine ⟨.keep (.insert (by decide +kernel) (.keep (.keep (.keep .none)))), fun same => ?_⟩
    exact absurd (congrArg (List.map Prod.snd) same) (by decide +kernel)

end Fdai.Core.Conversation
