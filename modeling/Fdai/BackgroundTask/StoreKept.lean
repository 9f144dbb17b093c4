import Fdai.BackgroundTask.StoreInvariant

/-!
# The background task store over whole runs

What a change does to the attempt of one id, and from it what every run keeps.

* `AttemptChange` — what one change does at one id.
* `StoreKept` — attempts and outbox rows go together; who may change an attempt under a lease
  and a terminal one; progress is contiguous and capped; a delivered completion is not
  offered again; a creation that has to be audited is not claimed before it is.
* `store_kept` — it holds of every run.
-/

namespace Fdai.Core

open Fdai.Sequences BackgroundTask BackgroundTaskStore

variable {request : BackgroundTaskRequest} {store store' : BackgroundTaskStore}

/-! ## One id -/

/-- A request that purges attempts whose retention is over. -/
def ByPurge (request : BackgroundTaskRequest) (attempt : BackgroundTaskAttempt) : Prop :=
  ∃ instant limit, request = .purgeRetained (.aware instant) limit ∧
    attempt.task.retentionUntil ≤ instant

inductive AttemptChange (request : BackgroundTaskRequest) (store store' : BackgroundTaskStore)
    (attemptId : String) : Prop where
  | untouched (same : store'.attempts.get attemptId = store.attempts.get attemptId)
      (marks : attemptId ∈ store'.creationAudited ↔ attemptId ∈ store.creationAudited)
  | entered (absent : store.attempts.get attemptId = none)
      (asked : ∃ task quota required clock, request = .create task quota required clock)
  | marked {current updated : BackgroundTaskAttempt}
      (stored : store.attempts.get attemptId = some current)
      (byMark : ByMark request store current updated)
      (now : store'.attempts.get attemptId = some updated)
      (isMarked : attemptId ∈ store'.creationAudited)
  | stepped {current updated : BackgroundTaskAttempt}
      (stored : store.attempts.get attemptId = some current)
      (step : AttemptStep request store current updated)
      (now : store'.attempts.get attemptId = some updated)
      (marks : attemptId ∈ store'.creationAudited ↔ attemptId ∈ store.creationAudited)
  | ended {current updated : BackgroundTaskAttempt}
      (stored : store.attempts.get attemptId = some current)
      (working : current.status.terminal = false) (ends : AttemptEnd request current)
      (now : store'.attempts.get attemptId = some updated)
      (marks : attemptId ∈ store'.creationAudited ↔ attemptId ∈ store.creationAudited)
  | purged {attempt : BackgroundTaskAttempt} (stored : store.attempts.get attemptId = some attempt)
      (terminal : attempt.status.terminal = true) (byPurge : ByPurge request attempt)
      (gone : store'.attempts.get attemptId = none)
      (outbox : store'.completions.get attemptId = none)
      (marks : attemptId ∈ store'.creationAudited ↔ attemptId ∈ store.creationAudited)

/-- **One change, at one id.** -/
theorem StoreChange.atId (inv : StoreInv store) (change : StoreChange request store store')
    (attemptId : String) : AttemptChange request store store' attemptId := by
  -- the changes that put an attempt back put it under its own id
  have putBack {current updated : BackgroundTaskAttempt}
      (sameId : updated.attemptId = current.attemptId) (apart : attemptId ≠ current.attemptId) :
      (store.attempts.put updated).get attemptId = store.attempts.get attemptId := by
    rw [Keyed.get_put, if_neg (sameId ▸ apart)]
  have putHere {current updated : BackgroundTaskAttempt}
      (sameId : updated.attemptId = current.attemptId) :
      (store.attempts.put updated).get current.attemptId = some updated := by
    rw [Keyed.get_put, if_pos sameId.symm]
  cases change with
  | @entered attempt required asked freshTask freshKey named queued =>
    obtain ⟨quota, clock, asked⟩ := asked
    by_cases here : attemptId = attempt.attemptId
    · refine .entered ?_ ⟨attempt.task, quota, required, clock, asked⟩
      rw [here]
      exact inv.get_eq_none freshTask named
    refine .untouched ?_ ?_
    · change (store.attempts.put attempt).get attemptId = _
      rw [Keyed.get_put, if_neg here]
    · change (attemptId ∈ if required then _ else _) ↔ _
      cases required with
      | true => exact .rfl
      | false => exact List.mem_cons.trans (or_iff_right here)
  | @marked current updated stored byMark =>
    have sameId : updated.attemptId = current.attemptId := by
      obtain ⟨_, -, -, rewritten⟩ := byMark
      rw [rewritten]
    by_cases here : attemptId = current.attemptId
    · subst here
      exact .marked stored byMark (putHere sameId) List.mem_cons_self
    · exact .untouched (putBack sameId here) (List.mem_cons.trans (or_iff_right here))
  | @stepped current updated stored sameId sameTask step =>
    by_cases here : attemptId = current.attemptId
    · subst here
      exact .stepped stored step (putHere sameId) .rfl
    · exact .untouched (putBack sameId here) .rfl
  | @ended current updated row stored sameId sameTask working terminal ends ofAttempt =>
    by_cases here : attemptId = current.attemptId
    · subst here
      exact .ended stored working ends (putHere sameId) .rfl
    · exact .untouched (putBack sameId here) .rfl
  | progressed | rowMoved => exact .untouched rfl .rfl
  | @purged attempt row instant limit asked stored terminal passed outbox closed =>
    by_cases here : attemptId = attempt.attemptId
    · subst here
      refine .purged stored terminal ⟨instant, limit, asked, passed⟩ ?_ ?_ .rfl
      · exact (Keyed.get_erase).trans (if_pos rfl)
      · exact (Keyed.get_erase).trans (if_pos rfl)
    · exact .untouched ((Keyed.get_erase).trans (if_neg here)) .rfl

theorem changes_keep (attemptId : String) (kept : BackgroundTaskStore → Prop)
    (changes : Changes request store store') (inv : StoreInv store) (holds : kept store)
    (step : ∀ one other, StoreInv one → kept one → StoreChange request one other →
      AttemptChange request one other attemptId → kept other) : kept store' := by
  have both : StoreInv store' ∧ kept store' := by
    induction changes with
    | refl => exact ⟨inv, holds⟩
    | tail _ change ih =>
      exact ⟨ih.1.change change, step _ _ ih.1 ih.2 change (change.atId ih.1 attemptId)⟩
  exact both.2

/-- What is purged is gone: only a creation enters the id again. -/
theorem AttemptChange.gone {attemptId : String} {now : Datetime} {limit : ℤ}
    (change : AttemptChange request store store' attemptId)
    (gone : store.attempts.get attemptId = none) (purges : request = .purgeRetained now limit) :
    store'.attempts.get attemptId = none := by
  have absent {current : BackgroundTaskAttempt}
      (stored : store.attempts.get attemptId = some current) : False := by
    rw [gone] at stored
    cases stored
  cases change with
  | untouched same => rw [same, gone]
  | entered _ asked =>
    obtain ⟨_, _, _, _, creates⟩ := asked
    rw [purges] at creates
    cases creates
  | marked stored | stepped stored | ended stored | purged stored => exact (absent stored).elim

variable {attemptId : String} {attempt : BackgroundTaskAttempt}

/-- **Only the holder**, a canceller or a reconciliation after the expiry changes an attempt
under a lease. -/
theorem owned_apply (inv : StoreInv store)
    (stored : store.attempts.get attemptId = some attempt) (leased : attempt.status.leased = true)
    (changed : (request.apply store).attempts.get attemptId ≠ some attempt) :
    ByHolder request attempt ∨ ByCanceller request attempt ∨ ByExpiry request attempt := by
  by_contra nobody
  push Not at nobody
  obtain ⟨notHeld, notCancelled, notExpired⟩ := nobody
  refine changed (changes_keep attemptId (fun store => store.attempts.get attemptId = some attempt)
    (changes_apply request inv) inv stored fun one other inv stored _ change => ?_)
  cases change with
  | untouched same => rw [same, stored]
  | entered absent =>
    rw [stored] at absent
    cases absent
  | marked stored' byMark =>
    -- an attempt under a lease is audited already
    obtain rfl := Option.some.inj (stored.symm.trans stored')
    obtain ⟨_, -, unmarked, -⟩ := byMark
    have named := id_of_get stored
    refine absurd ?_ unmarked
    rw [named]
    exact inv.audited attemptId (by rw [stored]; exact leased)
  | stepped stored' step =>
    obtain rfl := Option.some.inj (stored.symm.trans stored')
    cases step with
    | claimed queued =>
      rw [queued] at leased
      cases leased
    | held byHolder => exact absurd byHolder notHeld
  | ended stored' _ ends =>
    obtain rfl := Option.some.inj (stored.symm.trans stored')
    cases ends with
    | completed byHolder => exact absurd byHolder notHeld
    | cancelled byCanceller => exact absurd byCanceller notCancelled
    | expired byExpiry => exact absurd byExpiry notExpired
  | purged stored' terminal =>
    obtain rfl := Option.some.inj (stored.symm.trans stored')
    rw [BackgroundTaskStatus.not_terminal_of_leased leased] at terminal
    cases terminal

/-- A terminal attempt after a request: as it was, marked, or purged. -/
inductive Settled (request : BackgroundTaskRequest) (store store' : BackgroundTaskStore)
    (attemptId : String) (attempt : BackgroundTaskAttempt) : Prop where
  | same (stored : store'.attempts.get attemptId = some attempt)
      (marks : attemptId ∈ store'.creationAudited ↔ attemptId ∈ store.creationAudited)
  | marked {updated : BackgroundTaskAttempt} (byMark : ByMark request store attempt updated)
      (now : store'.attempts.get attemptId = some updated)
      (isMarked : attemptId ∈ store'.creationAudited)
  | purged (byPurge : ByPurge request attempt) (gone : store'.attempts.get attemptId = none)

theorem settled_apply (inv : StoreInv store) (stored : store.attempts.get attemptId = some attempt)
    (terminal : attempt.status.terminal = true) :
    Settled request store (request.apply store) attemptId attempt := by
  refine changes_keep attemptId (fun store' => Settled request store store' attemptId attempt)
    (changes_apply request inv) inv (.same stored .rfl) fun one other inv settled _ change => ?_
  cases settled with
  | same stored marks =>
    cases change with
    | untouched same marks' => exact .same (by rw [same, stored]) (marks'.trans marks)
    | entered absent =>
      rw [stored] at absent
      cases absent
    | marked stored' byMark now isMarked =>
      obtain rfl := Option.some.inj (stored.symm.trans stored')
      obtain ⟨instant, asked, unmarked, rewritten⟩ := byMark
      have named := id_of_get stored
      rw [named, marks, ← named] at unmarked
      exact .marked ⟨instant, asked, unmarked, rewritten⟩ now isMarked
    | stepped stored' step =>
      obtain rfl := Option.some.inj (stored.symm.trans stored')
      cases step with
      | claimed queued =>
        rw [queued] at terminal
        cases terminal
      | held _ leased =>
        rw [BackgroundTaskStatus.not_terminal_of_leased leased] at terminal
        cases terminal
    | ended stored' working =>
      obtain rfl := Option.some.inj (stored.symm.trans stored')
      rw [working] at terminal
      cases terminal
    | purged stored' _ byPurge gone =>
      obtain rfl := Option.some.inj (stored.symm.trans stored')
      exact .purged byPurge gone
  | @marked updated byMark now isMarked =>
    obtain ⟨instant, asked, unmarked, rewritten⟩ := byMark
    have sameEnd : updated.status = attempt.status := by rw [rewritten]
    -- an attempt is marked once, and the request does nothing else
    cases change with
    | untouched same marks =>
      exact .marked ⟨instant, asked, unmarked, rewritten⟩ (by rw [same, now]) (marks.2 isMarked)
    | entered absent =>
      rw [now] at absent
      cases absent
    | marked stored' byMark' =>
      obtain rfl := Option.some.inj (now.symm.trans stored')
      obtain ⟨_, -, unmarked', -⟩ := byMark'
      rw [id_of_get now] at unmarked'
      exact absurd isMarked unmarked'
    | stepped stored' step =>
      obtain rfl := Option.some.inj (now.symm.trans stored')
      cases step with
      | claimed queued =>
        rw [← sameEnd, queued] at terminal
        cases terminal
      | held _ leased =>
        rw [← sameEnd, BackgroundTaskStatus.not_terminal_of_leased leased] at terminal
        cases terminal
    | ended stored' working =>
      obtain rfl := Option.some.inj (now.symm.trans stored')
      rw [← sameEnd, working] at terminal
      cases terminal
    | purged _ _ byPurge =>
      obtain ⟨_, _, purges, -⟩ := byPurge
      rw [asked] at purges
      cases purges
  | purged byPurge gone =>
    obtain ⟨_, _, purges, -⟩ := id byPurge
    exact .purged byPurge (change.gone gone purges)

/-- **A terminal outbox row** stays as it is until its attempt is purged. -/
theorem row_apply (request : BackgroundTaskRequest)
    {row : BackgroundTaskCompletion} (inv : StoreInv store)
    (stored : store.completions.get attemptId = some row) (terminal : row.state.terminal = true) :
    (request.apply store).completions.get attemptId = some row ∨
      (request.apply store).attempts.get attemptId = none := by
  refine changes_keep attemptId (fun store' => store'.completions.get attemptId = some row ∨
      store'.attempts.get attemptId = none ∧ ∃ instant limit, request = .purgeRetained instant limit)
    (changes_apply request inv) inv (.inl stored) (fun one other inv kept change atId => ?_)
    |>.imp_right And.left
  rcases kept with stored | ⟨gone, instant, limit, asked⟩
  · cases change with
    | entered | marked | stepped | progressed => exact .inl stored
    | @ended current _ newRow storedAttempt _ _ working _ _ ofAttempt =>
      refine .inl ((Keyed.get_put).trans ((if_neg fun here => ?_).trans stored))
      -- an attempt that is not terminal has no outbox row yet
      have outbox := inv.outbox attemptId
      rw [here.trans ofAttempt, storedAttempt] at outbox
      rw [← here.trans ofAttempt, stored] at outbox
      change true = current.status.terminal at outbox
      rw [working] at outbox
      cases outbox
    | @rowMoved current updated storedRow open_ sameId =>
      refine .inl ((Keyed.get_put).trans ((if_neg fun here => ?_).trans stored))
      rw [here.trans sameId, storedRow] at stored
      rw [Option.some.inj stored, terminal] at open_
      cases open_
    | @purged attempt _ instant limit asked =>
      by_cases here : attemptId = attempt.attemptId
      · exact .inr ⟨(Keyed.get_erase).trans (if_pos here), _, _, asked⟩
      · exact .inl ((Keyed.get_erase).trans ((if_neg here).trans stored))
  · exact .inr ⟨atId.gone gone asked, instant, limit, asked⟩

/-- A terminal row after a run, as long as the attempt is not purged. -/
theorem row_run {row : BackgroundTaskCompletion} (inv : StoreInv store)
    (stored : store.completions.get attemptId = some row) (terminal : row.state.terminal = true)
    (requests : List BackgroundTaskRequest) :
    (store.run requests).completions.get attemptId = some row ∨
      ∃ earlier, earlier <+: requests ∧ (store.run earlier).attempts.get attemptId = none := by
  induction requests generalizing store with
  | nil => exact .inl stored
  | cons request rest ih =>
    rcases row_apply request inv stored terminal with stored | gone
    · rcases ih ((changes_apply request inv).inv inv) stored with stored | ⟨earlier, isPrefix, gone⟩
      · exact .inl stored
      · exact .inr ⟨request :: earlier, List.cons_prefix_cons.2 ⟨rfl, isPrefix⟩, gone⟩
    · exact .inr ⟨[request], List.cons_prefix_cons.2 ⟨rfl, List.nil_prefix⟩, gone⟩

theorem claimCompletion_offers {coordinator leaseToken : String} {now : Datetime}
    {leaseSeconds : ℤ} {claimed : BackgroundTaskCompletion}
    (offered : (store.claimCompletion coordinator leaseToken now leaseSeconds).1 =
      .ok (some (claimed, attempt))) :
    ∃ row, store.completions.get claimed.attemptId = some row ∧ row.state.terminal = false := by
  unfold BackgroundTaskStore.claimCompletion at offered
  rcases given : leaseInput coordinator leaseToken now leaseSeconds with error | instant
  · rw [given] at offered
    cases offered
  rw [given] at offered
  simp only [BackgroundTaskStore.commit] at offered
  split at offered
  · cases offered
  rename_i current rest candidates
  split at offered
  · rename_i built
    obtain ⟨lease, -, built⟩ := bind_eq_ok.1 built
    have row := CompletionRow.create_eq_ok (checked_eq_ok.1 built)
    have isCandidate := mem_sortedBy_key.1 (candidates ▸ List.mem_cons_self : current ∈ _)
    obtain ⟨stored, fits⟩ := List.mem_filter.1 isCandidate
    simp only [Bool.and_eq_true, Bool.or_eq_true, decide_eq_true_eq] at fits
    have found := Keyed.get_of_mem stored
    rcases required : store.required current.attemptId with error | attempt'
    · rw [required] at offered
      cases offered
    rw [required] at offered
    obtain ⟨rfl, rfl⟩ := Prod.mk.inj (Option.some.inj (Except.ok.inj offered))
    refine ⟨current, by rw [row]; exact found, ?_⟩
    rcases fits.1.1 with is | is <;> rw [is] <;> rfl
  · cases offered

/-! ### Audited creations -/

/-- A mark of the creation of a task. -/
def Marks (taskId : String) (request : BackgroundTaskRequest) : Prop :=
  ∃ now, request = .markCreationAudited taskId now

/-- **A creation that is not marked** is not marked by a request that does not mark it, as
long as its attempt is there. -/
theorem unmarked_apply {taskId : String} (inv : StoreInv store)
    (named : attemptId = taskId ++ ":1") (stays : store.attempts.get attemptId ≠ none)
    (unmarked : attemptId ∉ store.creationAudited) (other : ¬ Marks taskId request)
    (stayed : (request.apply store).attempts.get attemptId ≠ none) :
    attemptId ∉ (request.apply store).creationAudited := by
  have kept : ((request.apply store).attempts.get attemptId ≠ none ∧
        attemptId ∉ (request.apply store).creationAudited) ∨
      (request.apply store).attempts.get attemptId = none ∧
        ∃ instant limit, request = .purgeRetained instant limit := by
    refine changes_keep attemptId (fun store' => (store'.attempts.get attemptId ≠ none ∧
        attemptId ∉ store'.creationAudited) ∨ store'.attempts.get attemptId = none ∧
          ∃ instant limit, request = .purgeRetained instant limit)
      (changes_apply request inv) inv (.inl ⟨stays, unmarked⟩) fun one next inv kept _ change => ?_
    cases change with
    | untouched same marks => rwa [same, marks]
    | entered absent asked =>
      rcases kept with ⟨there, -⟩ | ⟨-, _, _, purges⟩
      · exact absurd absent there
      obtain ⟨_, _, _, _, creates⟩ := asked
      rw [purges] at creates
      cases creates
    | @marked current updated stored byMark =>
      obtain ⟨instant, asked, -⟩ := byMark
      have ofTask : current.task.taskId = taskId := by
        have entered := inv.entries.named attemptId current.task (by
          rw [BackgroundTaskStore.taskOf, stored]
          rfl)
        exact (String.append_left_inj _).1 (entered.symm.trans named)
      exact absurd ⟨_, by rw [asked, ofTask]⟩ other
    | stepped stored _ now marks | ended stored _ _ now marks =>
      rcases kept with ⟨-, unmarked⟩ | ⟨gone, -⟩
      · exact .inl ⟨by simp [now], by rwa [marks]⟩
      · rw [gone] at stored
        cases stored
    | purged stored _ byPurge gone =>
      obtain ⟨instant, limit, asked, -⟩ := byPurge
      exact .inr ⟨gone, _, _, asked⟩
  rcases kept with ⟨-, unmarked⟩ | ⟨gone, -⟩
  · exact unmarked
  · exact absurd gone stayed

theorem unmarked_run {taskId : String} (inv : StoreInv store)
    (named : attemptId = taskId ++ ":1") (unmarked : attemptId ∉ store.creationAudited)
    {requests : List BackgroundTaskRequest} (others : ∀ request ∈ requests, ¬ Marks taskId request)
    (stays : ∀ earlier, earlier <+: requests → (store.run earlier).attempts.get attemptId ≠ none) :
    attemptId ∉ (store.run requests).creationAudited := by
  induction requests generalizing store with
  | nil => exact unmarked
  | cons request rest ih =>
    have there := stays [] List.nil_prefix
    have stayed := stays [request] (List.cons_prefix_cons.2 ⟨rfl, List.nil_prefix⟩)
    refine ih ((changes_apply request inv).inv inv)
      (unmarked_apply inv named there unmarked (others request List.mem_cons_self) stayed)
      (fun other isOther => others other (List.mem_cons_of_mem _ isOther)) fun earlier isPrefix => ?_
    exact stays (request :: earlier) (List.cons_prefix_cons.2 ⟨rfl, isPrefix⟩)

theorem claimNext_marked {coordinator leaseToken : String} {now : Datetime} {leaseSeconds : ℤ}
    {claimed : BackgroundTaskAttempt}
    (returned : (store.claimNext coordinator leaseToken now leaseSeconds).1 = .ok (some claimed)) :
    claimed.attemptId ∈ store.creationAudited := by
  unfold BackgroundTaskStore.claimNext at returned
  rcases given : leaseInput coordinator leaseToken now leaseSeconds with error | instant
  · rw [given] at returned
    cases returned
  rw [given] at returned
  simp only [BackgroundTaskStore.commit] at returned
  split at returned
  · cases returned
  rename_i current rest queued
  split at returned
  · rename_i built
    obtain ⟨lease, -, built⟩ := bind_eq_ok.1 built
    have row := AttemptRow.create_eq_ok (checked_eq_ok.1 built)
    obtain rfl := Option.some.inj (Except.ok.inj returned)
    have isQueued := mem_sortedBy_key.1 (queued ▸ List.mem_cons_self : current ∈ _)
    have fits := (List.mem_filter.1 isQueued).2
    simp only [Bool.and_eq_true, decide_eq_true_eq] at fits
    rw [row]
    exact fits.2
  · cases returned

/-- What a creation that has to be audited enters: an attempt that waits, unmarked unless its
id was marked before. -/
theorem create_unmarked {task : BackgroundTask} {quota : Option BackgroundTaskQuotaPolicy}
    {clock : Datetime}
    (created : (store.create task quota true clock).1 = .ok (attempt, true)) :
    attempt.attemptId = task.taskId ++ ":1" ∧
      (store.create task quota true clock).2.creationAudited = store.creationAudited := by
  unfold BackgroundTaskStore.create at created ⊢
  split at created
  · split at created
    · cases created
    split at created
    · cases created
    · cases (Prod.mk.inj (Except.ok.inj created)).2
  rename_i freshKey
  split at created
  · cases created
  rename_i freshTask
  rw [if_neg freshTask]
  unfold BackgroundTaskStore.commit at created ⊢
  split at created
  · rename_i built
    obtain ⟨-, built⟩ := check_bind_eq_ok.1 built
    have row := AttemptRow.create_eq_ok (checked_eq_ok.1 built)
    obtain ⟨rfl, -⟩ := Prod.mk.inj (Except.ok.inj created)
    exact ⟨by rw [row], rfl⟩
  · cases created

/-! ## Every run -/

/-- The outbox rows of an attempt. -/
def BackgroundTaskStore.rowsOf (store : BackgroundTaskStore) (attemptId : String) :
    List BackgroundTaskCompletion := store.completions.values.filter (·.attemptId = attemptId)

theorem rowsOf_length (attemptId : String) :
    (store.rowsOf attemptId).length = if store.completions.get attemptId = none then 0 else 1 := by
  rcases found : store.completions.get attemptId with _ | row
  · rw [if_pos rfl, List.length_eq_zero_iff, BackgroundTaskStore.rowsOf, List.filter_eq_nil_iff]
    intro row stored
    simpa using List.find?_eq_none.1 found row stored
  rw [if_neg (by simp)]
  have only (other : BackgroundTaskCompletion) (isOther : other ∈ store.rowsOf attemptId) :
      other = row := by
    obtain ⟨stored, same⟩ := List.mem_filter.1 isOther
    have got := Keyed.get_of_mem stored
    rw [of_decide_eq_true same, found] at got
    exact (Option.some.inj got).symm
  have isRow : row ∈ store.rowsOf attemptId := by
    refine List.mem_filter.2 ⟨Keyed.mem_of_get found, ?_⟩
    have named := Keyed.key_of_get found
    exact decide_eq_true named
  have distinct : (store.rowsOf attemptId).Nodup :=
    (List.Nodup.of_map _ store.completions.nodup).filter _
  match shape : store.rowsOf attemptId with
  | [] =>
    rw [shape] at isRow
    cases isRow
  | [_] => rfl
  | one :: other :: rest =>
    rw [shape] at distinct only
    refine absurd ?_ (List.nodup_cons.1 distinct).1
    rw [only one (by simp), ← only other (by simp)]
    exact List.mem_cons_self

/-- What holds of a store after any run. -/
structure StoreKept (store : BackgroundTaskStore) : Prop where
  /-- An attempt is terminal exactly if it has exactly one outbox row. -/
  completed : ∀ attemptId attempt, store.attempts.get attemptId = some attempt →
    (attempt.status.terminal = true ↔ (store.rowsOf attemptId).length = 1)
  /-- An attempt under a lease is changed by the holder of its lease before the expiry, by a
  cancellation of its owner or of an administrator, or by a reconciliation after the expiry. -/
  owned : ∀ request attemptId attempt, store.attempts.get attemptId = some attempt →
    attempt.status.leased = true → (request.apply store).attempts.get attemptId ≠ some attempt →
      ByHolder request attempt ∨ ByCanceller request attempt ∨ ByExpiry request attempt
  /-- A terminal attempt stays as it is, but for the revision and the time of a mark, until it
  is purged. -/
  settled : ∀ request attemptId attempt, store.attempts.get attemptId = some attempt →
    attempt.status.terminal = true → Settled request store (request.apply store) attemptId attempt
  /-- The progress events of an attempt are numbered in order, up to its cap. -/
  numbered : ∀ attemptId attempt, store.attempts.get attemptId = some attempt →
    ∃ events, store.progress attemptId = some events ∧
      events.map (·.sequence) = List.range events.length ∧
      events.length ≤ attempt.task.budget.maxProgressEvents
  /-- A delivered completion is not offered again, unless its attempt was purged. -/
  delivered : ∀ attemptId row, store.completions.get attemptId = some row → row.state = .delivered →
      ∀ requests coordinator leaseToken now leaseSeconds claimed attempt,
        ((store.run requests).claimCompletion coordinator leaseToken now leaseSeconds).1 =
          .ok (some (claimed, attempt)) → claimed.attemptId = attemptId →
            ∃ earlier, earlier <+: requests ∧ (store.run earlier).attempts.get attemptId = none
  /-- A creation that has to be audited, of an id that was not marked before, is not claimed
  before it is marked, for as long as its attempt stays. -/
  audited : ∀ task quota clock attempt,
    (store.create task quota true clock).1 = .ok (attempt, true) →
    attempt.attemptId ∉ store.creationAudited →
      ∀ requests, (∀ request ∈ requests, ¬ Marks task.taskId request) →
        (∀ earlier, earlier <+: requests →
          ((store.create task quota true clock).2.run earlier).attempts.get attempt.attemptId ≠
            none) →
        ∀ coordinator leaseToken now leaseSeconds claimed,
          (((store.create task quota true clock).2.run requests).claimNext coordinator leaseToken
            now leaseSeconds).1 = .ok (some claimed) → claimed.attemptId ≠ attempt.attemptId

theorem StoreInv.kept (inv : StoreInv store) : StoreKept store where
  completed attemptId attempt stored := by
    have outbox := inv.outbox attemptId
    rw [stored] at outbox
    change _ = attempt.status.terminal at outbox
    rw [rowsOf_length, ← outbox]
    cases store.completions.get attemptId <;> simp
  owned request attemptId attempt stored leased changed := owned_apply inv stored leased changed
  settled request attemptId attempt stored terminal := settled_apply inv stored terminal
  numbered attemptId attempt stored := inv.entries.numbered attemptId attempt.task (by
    rw [BackgroundTaskStore.taskOf, stored]
    rfl)
  delivered attemptId row stored state requests coordinator leaseToken now leaseSeconds claimed
      attempt offered same := by
    have terminal : row.state.terminal = true := by
      rw [state]
      rfl
    rcases row_run inv stored terminal requests with kept | gone
    · obtain ⟨offeredRow, found, working⟩ := claimCompletion_offers offered
      rw [same, kept] at found
      rw [← Option.some.inj found, terminal] at working
      cases working
    · exact gone
  audited task quota clock attempt created unmarked requests others stays coordinator leaseToken
      now leaseSeconds claimed returned same := by
    obtain ⟨named, marks⟩ := create_unmarked created
    have inv' : StoreInv (store.create task quota true clock).2 := changes_create.inv inv
    refine unmarked_run inv' named (by rwa [marks]) others stays ?_
    rw [← same]
    exact claimNext_marked returned

/-- **What every run keeps**, from an empty store, with any clock readings. -/
theorem store_kept (requests : List BackgroundTaskRequest) :
    StoreKept (({} : BackgroundTaskStore).run requests) :=
  (StoreInv.empty.run requests).kept

private def investigateVm : BackgroundTask where
  taskId := "task-1"
  ownerPrincipalId := "operator-1"
  origin := { conversationId := "c-1", channelKind := "teams", channelId := "ops" }
  prompt := "why is the vm slow"
  contextDigest := "digest"
  capabilityProfileId := "background.read-only"
  budget := {}
  correlationId := "corr-1"
  idempotencyKey := "key-1"
  createdAt := 0
  retentionUntil := seconds 3600

/-- The task is created, claimed and started. -/
private def started : List BackgroundTaskRequest :=
  [.create investigateVm none false (.aware 0), .claimNext "coordinator-1" "lease-1" (.aware 0) 60,
    .start "task-1:1" 2 "lease-1" (.aware 1)]

/-- The owner of the task cancels it while it runs, and presents no lease. -/
theorem cancelled_without_lease :
    ¬ ∀ (requests : List BackgroundTaskRequest) (request : BackgroundTaskRequest)
      (attempt : BackgroundTaskAttempt),
      (({} : BackgroundTaskStore).run requests).attempts.get attempt.attemptId = some attempt →
      attempt.status = .running →
      (request.apply (({} : BackgroundTaskStore).run requests)).attempts.get attempt.attemptId ≠
        some attempt →
      ByHolder request attempt := by
  intro always
  have running : ∃ attempt,
      (({} : BackgroundTaskStore).run started).attempts.get "task-1:1" = some attempt ∧
        attempt.status = .running ∧
        ((BackgroundTaskRequest.cancel "task-1" "operator-1" false (.aware 2)).apply
          (({} : BackgroundTaskStore).run started)).attempts.get "task-1:1" ≠ some attempt := by
    decide +kernel
  obtain ⟨attempt, stored, status, changed⟩ := running
  have named := id_of_get stored
  obtain ⟨lease, instant, -, -, asked⟩ := always started _ attempt (by rw [named, stored]) status
    (by rw [named]; exact changed)
  rcases asked with asked | ⟨_, _, asked⟩ | ⟨_, _, asked⟩ <;> cases asked

end Fdai.Core
