import Fdai.BackgroundTask.Store

/-!
# What the background task store keeps

Every operation of the store is a number of small changes, each made under a condition that
the operation has checked.

* `StoreChange` — the changes, with their conditions.
* `StoreInv` — the invariant over the dictionaries; `StoreInv.change` — every change keeps it.
* `changes_apply` — an operation on a store that keeps the invariant makes such changes only.
* `store_kept` — what holds of every run.
-/

namespace Fdai.Core

open Fdai.Sequences BackgroundTask BackgroundTaskStore

/-- A request by the holder of the lease: it names the revision and the token, before the
lease expires. -/
def ByHolder (request : BackgroundTaskRequest) (current : BackgroundTaskAttempt) : Prop :=
  ∃ lease instant, current.lease = some lease ∧ instant < lease.expiresAt ∧
    ((request = .start current.attemptId current.revision lease.token (.aware instant)) ∨
      (∃ leaseSeconds usage, request = .renew current.attemptId current.revision lease.token
        (.aware instant) leaseSeconds usage) ∨
      ∃ status result, request = .complete current.attemptId current.revision lease.token status
        result (.aware instant))

/-- A cancellation of the task, by its owner or an administrator. -/
def ByCanceller (request : BackgroundTaskRequest) (current : BackgroundTaskAttempt) : Prop :=
  ∃ actor isAdmin now, request = .cancel current.task.taskId actor isAdmin now ∧
    (actor = current.task.ownerPrincipalId ∨ isAdmin = true)

/-- A reconciliation, once the lease is expired. -/
def ByExpiry (request : BackgroundTaskRequest) (current : BackgroundTaskAttempt) : Prop :=
  ∃ lease instant limit, current.lease = some lease ∧ lease.expiresAt ≤ instant ∧
    request = .reconcileExpired (.aware instant) limit

/-- The mark of an audited creation: the attempt is written again, with its status. -/
def ByMark (request : BackgroundTaskRequest) (store : BackgroundTaskStore)
    (current updated : BackgroundTaskAttempt) : Prop :=
  ∃ instant, request = .markCreationAudited current.task.taskId (.aware instant) ∧
    current.attemptId ∉ store.creationAudited ∧
    updated.toAttemptRow = { current.toAttemptRow with
      revision := current.revision + 1, updatedAt := max instant current.updatedAt }

/-- The change of an attempt that does not become terminal. -/
inductive AttemptStep (request : BackgroundTaskRequest) (store : BackgroundTaskStore)
    (current updated : BackgroundTaskAttempt) : Prop where
  | claimed (queued : current.status = .queued)
      (audited : current.attemptId ∈ store.creationAudited) (leased : updated.status.leased = true)
  | held (byHolder : ByHolder request current) (was : current.status.leased = true)
      (leased : updated.status.leased = true)

inductive AttemptEnd (request : BackgroundTaskRequest) (current : BackgroundTaskAttempt) : Prop where
  | completed (byHolder : ByHolder request current)
  | cancelled (byCanceller : ByCanceller request current)
  | expired (byExpiry : ByExpiry request current)

def BackgroundTaskStore.without (store : BackgroundTaskStore) (attempt : BackgroundTaskAttempt) :
    BackgroundTaskStore :=
  { store with
    attempts := store.attempts.erase attempt.attemptId
    attemptByTask := Function.update store.attemptByTask attempt.task.taskId none
    idempotency := Function.update store.idempotency (dedupKey attempt.task) none
    progress := Function.update store.progress attempt.attemptId none
    completions := store.completions.erase attempt.attemptId }

/-- **One change** that a request makes. -/
inductive StoreChange (request : BackgroundTaskRequest) (store : BackgroundTaskStore) :
    BackgroundTaskStore → Prop where
  | entered {attempt : BackgroundTaskAttempt} {requiresCreationAudit : Bool}
      (asked : ∃ quota clock, request = .create attempt.task quota requiresCreationAudit clock)
      (freshTask : store.attemptByTask attempt.task.taskId = none)
      (freshKey : store.idempotency (dedupKey attempt.task) = none)
      (named : attempt.attemptId = attempt.task.taskId ++ ":1")
      (queued : attempt.status = .queued) :
      StoreChange request store (store.enter attempt requiresCreationAudit)
  | marked {current updated : BackgroundTaskAttempt}
      (stored : store.attempts.get current.attemptId = some current)
      (byMark : ByMark request store current updated) :
      StoreChange request store
        { store.putAttempt updated with
          creationAudited := current.attemptId :: store.creationAudited }
  | stepped {current updated : BackgroundTaskAttempt}
      (stored : store.attempts.get current.attemptId = some current)
      (sameId : updated.attemptId = current.attemptId) (sameTask : updated.task = current.task)
      (step : AttemptStep request store current updated) :
      StoreChange request store (store.putAttempt updated)
  | ended {current updated : BackgroundTaskAttempt} {row : BackgroundTaskCompletion}
      (stored : store.attempts.get current.attemptId = some current)
      (sameId : updated.attemptId = current.attemptId) (sameTask : updated.task = current.task)
      (working : current.status.terminal = false) (terminal : updated.status.terminal = true)
      (ends : AttemptEnd request current) (ofAttempt : row.attemptId = current.attemptId) :
      StoreChange request store ((store.putAttempt updated).putRow row)
  | progressed {current : BackgroundTaskAttempt} {progress : BackgroundTaskProgress}
      {events : List BackgroundTaskProgress}
      (stored : store.attempts.get progress.attemptId = some current)
      (events_eq : store.progress progress.attemptId = some events)
      (below : events.length < current.task.budget.maxProgressEvents)
      (next : progress.sequence = events.length) :
      StoreChange request store
        { store with
          progress := Function.update store.progress progress.attemptId
            (some (events ++ [progress])) }
  | rowMoved {current updated : BackgroundTaskCompletion}
      (stored : store.completions.get current.attemptId = some current)
      (open_ : current.state.terminal = false)
      (sameId : updated.attemptId = current.attemptId) :
      StoreChange request store (store.putRow updated)
  | purged {attempt : BackgroundTaskAttempt} {row : BackgroundTaskCompletion} {instant limit : ℤ}
      (asked : request = .purgeRetained (.aware instant) limit)
      (stored : store.attempts.get attempt.attemptId = some attempt)
      (terminal : attempt.status.terminal = true) (passed : attempt.task.retentionUntil ≤ instant)
      (outbox : store.completions.get attempt.attemptId = some row)
      (closed : row.state.terminal = true) :
      StoreChange request store (store.without attempt)

/-! ## The invariant -/

def BackgroundTaskStore.taskOf (store : BackgroundTaskStore) (attemptId : String) :
    Option BackgroundTask := (store.attempts.get attemptId).map (·.task)

/-- A dictionary that has the id of every task under a key of the task. -/
structure Indexes {κ : Type} (tasks : String → Option BackgroundTask) (keyOf : BackgroundTask → κ)
    (index : κ → Option String) : Prop where
  entered : ∀ attemptId task, tasks attemptId = some task → index (keyOf task) = some attemptId
  found : ∀ key attemptId, index key = some attemptId →
    ∃ task, tasks attemptId = some task ∧ keyOf task = key

section

variable {κ : Type} [DecidableEq κ] {tasks : String → Option BackgroundTask}
  {keyOf : BackgroundTask → κ} {index : κ → Option String} {attemptId : String}
  {task : BackgroundTask}

theorem Indexes.enter (indexes : Indexes tasks keyOf index) (fresh : tasks attemptId = none)
    (freshKey : index (keyOf task) = none) :
    Indexes (Function.update tasks attemptId (some task)) keyOf
      (Function.update index (keyOf task) (some attemptId)) := by
  constructor
  · intro id other ofAttempt
    rw [Function.update_apply] at ofAttempt
    split at ofAttempt
    · rename_i same
      rw [← Option.some.inj ofAttempt, Function.update_self, same]
    have apart : keyOf other ≠ keyOf task := by
      intro same
      rw [← same, indexes.entered _ _ ofAttempt] at freshKey
      cases freshKey
    rw [Function.update_of_ne apart]
    exact indexes.entered _ _ ofAttempt
  · intro key id entered
    rw [Function.update_apply] at entered
    split at entered
    · rename_i same
      obtain rfl := Option.some.inj entered
      exact ⟨task, Function.update_self _ _ _, same.symm⟩
    obtain ⟨other, ofAttempt, ofKey⟩ := indexes.found _ _ entered
    have apart : id ≠ attemptId := by
      rintro rfl
      rw [fresh] at ofAttempt
      cases ofAttempt
    exact ⟨other, by rw [Function.update_of_ne apart, ofAttempt], ofKey⟩

theorem Indexes.forget (indexes : Indexes tasks keyOf index)
    (stored : tasks attemptId = some task) :
    Indexes (Function.update tasks attemptId none) keyOf
      (Function.update index (keyOf task) none) := by
  constructor
  · intro id other ofAttempt
    rw [Function.update_apply] at ofAttempt
    split at ofAttempt
    · cases ofAttempt
    rename_i apart
    have entered := indexes.entered id other ofAttempt
    rw [Function.update_of_ne, entered]
    intro same
    rw [same, indexes.entered _ _ stored] at entered
    exact apart (Option.some.inj entered).symm
  · intro key id entered
    rw [Function.update_apply] at entered
    split at entered
    · cases entered
    rename_i apart
    obtain ⟨other, found, ofKey⟩ := indexes.found key id entered
    refine ⟨other, ?_, ofKey⟩
    rw [Function.update_of_ne, found]
    rintro rfl
    rw [stored] at found
    obtain rfl := Option.some.inj found
    exact apart ofKey.symm

end

/-- The dictionaries agree. They depend on the attempts by their tasks only. -/
structure EntriesInv (store : BackgroundTaskStore) : Prop where
  named : ∀ attemptId task, store.taskOf attemptId = some task → attemptId = task.taskId ++ ":1"
  byTask : Indexes store.taskOf (·.taskId) store.attemptByTask
  byKey : Indexes store.taskOf dedupKey store.idempotency
  numbered : ∀ attemptId task, store.taskOf attemptId = some task →
    ∃ events, store.progress attemptId = some events ∧
      events.map (·.sequence) = List.range events.length ∧
      events.length ≤ task.budget.maxProgressEvents

/-- **The invariant.** The dictionaries agree; an id has an outbox row exactly if it has a
terminal attempt; and an attempt under a lease has its creation audited. -/
structure StoreInv (store : BackgroundTaskStore) : Prop where
  entries : EntriesInv store
  outbox : ∀ attemptId, (store.completions.get attemptId).isSome =
    (store.attempts.get attemptId).any (·.status.terminal)
  audited : ∀ attemptId, (store.attempts.get attemptId).any (·.status.leased) = true →
    attemptId ∈ store.creationAudited

theorem StoreInv.empty : StoreInv {} := by
  refine ⟨⟨?_, ⟨?_, ?_⟩, ⟨?_, ?_⟩, ?_⟩, fun _ => rfl, ?_⟩ <;> simp [BackgroundTaskStore.taskOf]

section

variable {request : BackgroundTaskRequest} {store store' : BackgroundTaskStore}

/-- The dictionaries of a store whose attempts have the tasks they had. -/
theorem EntriesInv.congr (inv : EntriesInv store) (tasks : store'.taskOf = store.taskOf)
    (byTask : store'.attemptByTask = store.attemptByTask)
    (byKey : store'.idempotency = store.idempotency) (progress : store'.progress = store.progress) :
    EntriesInv store' := by
  refine ⟨?_, ?_, ?_, ?_⟩
  · rw [tasks]
    exact inv.named
  · rw [tasks, byTask]
    exact inv.byTask
  · rw [tasks, byKey]
    exact inv.byKey
  · rw [tasks, progress]
    exact inv.numbered

variable {current updated : BackgroundTaskAttempt}

theorem taskOf_putAttempt (stored : store.attempts.get current.attemptId = some current)
    (sameId : updated.attemptId = current.attemptId) (sameTask : updated.task = current.task) :
    (store.putAttempt updated).taskOf = store.taskOf := by
  funext attemptId
  change ((store.attempts.put updated).get attemptId).map _ = _
  rw [Keyed.get_put]
  split
  · rename_i same
    rw [BackgroundTaskStore.taskOf, same, sameId, stored]
    exact congrArg some sameTask
  · rfl

variable {attempt : BackgroundTaskAttempt}

/-- The id of a task that is not entered has no attempt: another attempt of this id would have
this task. -/
theorem StoreInv.get_eq_none (inv : StoreInv store)
    (freshTask : store.attemptByTask attempt.task.taskId = none)
    (named : attempt.attemptId = attempt.task.taskId ++ ":1") :
    store.attempts.get attempt.attemptId = none := by
  rcases found : store.attempts.get attempt.attemptId with _ | other
  · rfl
  have ofOther : store.taskOf attempt.attemptId = some other.task := by
    rw [BackgroundTaskStore.taskOf, found]
    rfl
  have same := (inv.entries.named _ _ ofOther).symm.trans named
  have sameTask : other.task.taskId = attempt.task.taskId := (String.append_left_inj _).1 same
  rw [← sameTask, inv.entries.byTask.entered _ _ ofOther] at freshTask
  cases freshTask

theorem StoreInv.enter {requiresCreationAudit : Bool}
    (inv : StoreInv store) (freshTask : store.attemptByTask attempt.task.taskId = none)
    (freshKey : store.idempotency (dedupKey attempt.task) = none)
    (named : attempt.attemptId = attempt.task.taskId ++ ":1")
    (queued : attempt.status = .queued) :
    StoreInv (store.enter attempt requiresCreationAudit) := by
  have fresh := inv.get_eq_none freshTask named
  have tasks : (store.enter attempt requiresCreationAudit).taskOf =
      Function.update store.taskOf attempt.attemptId (some attempt.task) := by
    funext attemptId
    change ((store.attempts.put attempt).get attemptId).map _ = _
    rw [Keyed.get_put, Function.update_apply]
    split <;> rfl
  have noTask : store.taskOf attempt.attemptId = none := by
    rw [BackgroundTaskStore.taskOf, fresh]
    rfl
  refine ⟨⟨?_, ?_, ?_, ?_⟩, ?_, ?_⟩
  · intro attemptId task ofAttempt
    rw [tasks, Function.update_apply] at ofAttempt
    split at ofAttempt
    · rename_i same
      rw [same, named, Option.some.inj ofAttempt]
    · exact inv.entries.named attemptId task ofAttempt
  · rw [tasks]
    exact inv.entries.byTask.enter noTask freshTask
  · rw [tasks]
    exact inv.entries.byKey.enter noTask freshKey
  · intro attemptId task ofAttempt
    change ∃ events, Function.update _ _ _ _ = _ ∧ _
    rw [tasks, Function.update_apply] at ofAttempt
    rw [Function.update_apply]
    split at ofAttempt
    · rename_i same
      rw [if_pos same]
      exact ⟨[], rfl, rfl, Nat.zero_le _⟩
    rename_i apart
    rw [if_neg apart]
    exact inv.entries.numbered attemptId task ofAttempt
  · intro attemptId
    change _ = ((store.attempts.put attempt).get attemptId).any _
    rw [Keyed.get_put]
    split
    · rename_i same
      have none : (store.completions.get attemptId).isSome = false := by
        rw [inv.outbox, same, fresh]
        rfl
      simp [none, BackgroundTaskStore.enter, queued, BackgroundTaskStatus.terminal]
    · exact inv.outbox attemptId
  · intro attemptId leased
    have same : ∀ id ∈ store.creationAudited,
        id ∈ (store.enter attempt requiresCreationAudit).creationAudited := by
      intro id isAudited
      change _ ∈ if _ then _ else _
      split
      · exact isAudited
      · exact List.mem_cons_of_mem _ isAudited
    change ((store.attempts.put attempt).get attemptId).any _ = true at leased
    rw [Keyed.get_put] at leased
    split at leased
    · simp [queued, BackgroundTaskStatus.leased] at leased
    · exact same _ (inv.audited attemptId leased)

/-- A store that differs in an attempt, of the same id and task as the one before. -/
theorem StoreInv.putAttempt {audited : List String}
    (inv : StoreInv store) (stored : store.attempts.get current.attemptId = some current)
    (sameId : updated.attemptId = current.attemptId) (sameTask : updated.task = current.task)
    (sameEnd : updated.status.terminal = current.status.terminal)
    (more : ∀ attemptId ∈ store.creationAudited, attemptId ∈ audited)
    (isAudited : updated.status.leased = true → current.attemptId ∈ audited) :
    StoreInv { store.putAttempt updated with creationAudited := audited } := by
  refine ⟨inv.entries.congr (taskOf_putAttempt stored sameId sameTask) rfl rfl rfl, ?_, ?_⟩
  · intro attemptId
    change _ = ((store.attempts.put updated).get attemptId).any _
    rw [Keyed.get_put]
    split
    · rename_i same
      change (store.completions.get attemptId).isSome = _
      rw [inv.outbox, same, sameId, stored]
      exact sameEnd.symm
    · exact inv.outbox attemptId
  · intro attemptId leased
    change ((store.attempts.put updated).get attemptId).any _ = true at leased
    rw [Keyed.get_put] at leased
    split at leased
    · rename_i same
      rw [same, sameId]
      exact isAudited leased
    · exact more attemptId (inv.audited attemptId leased)

variable {row : BackgroundTaskCompletion}

theorem StoreInv.putRow (inv : StoreInv store)
    (outbox : (store.completions.get row.attemptId).isSome = true) :
    StoreInv (store.putRow row) := by
  refine ⟨inv.entries.congr rfl rfl rfl rfl, fun attemptId => ?_, inv.audited⟩
  change ((store.completions.put row).get attemptId).isSome = _
  rw [Keyed.get_put]
  split
  · rename_i same
    change true = _
    rw [← outbox, ← same]
    exact inv.outbox attemptId
  · exact inv.outbox attemptId

theorem StoreInv.end
    (inv : StoreInv store) (stored : store.attempts.get current.attemptId = some current)
    (sameId : updated.attemptId = current.attemptId) (sameTask : updated.task = current.task)
    (terminal : updated.status.terminal = true) (ofAttempt : row.attemptId = current.attemptId) :
    StoreInv ((store.putAttempt updated).putRow row) := by
  refine ⟨inv.entries.congr (taskOf_putAttempt stored sameId sameTask) rfl rfl rfl, ?_, ?_⟩
  · intro attemptId
    change ((store.completions.put row).get attemptId).isSome =
      ((store.attempts.put updated).get attemptId).any _
    rw [Keyed.get_put, Keyed.get_put, ofAttempt, sameId]
    split
    · exact terminal.symm
    · exact inv.outbox attemptId
  · intro attemptId leased
    change ((store.attempts.put updated).get attemptId).any _ = true at leased
    rw [Keyed.get_put] at leased
    split at leased
    · have working := BackgroundTaskStatus.not_terminal_of_leased leased
      rw [terminal] at working
      cases working
    · exact inv.audited attemptId leased

theorem StoreInv.progress {progress : BackgroundTaskProgress}
    {events : List BackgroundTaskProgress} (inv : StoreInv store)
    (stored : store.attempts.get progress.attemptId = some current)
    (events_eq : store.progress progress.attemptId = some events)
    (below : events.length < current.task.budget.maxProgressEvents)
    (next : progress.sequence = events.length) :
    StoreInv { store with
      progress := Function.update store.progress progress.attemptId
        (some (events ++ [progress])) } := by
  refine ⟨⟨inv.entries.named, inv.entries.byTask, inv.entries.byKey, ?_⟩, inv.outbox, inv.audited⟩
  intro attemptId task ofAttempt
  change ∃ events, Function.update _ _ _ _ = _ ∧ _
  rw [Function.update_apply]
  obtain ⟨before, before_eq, contiguous, capped⟩ := inv.entries.numbered attemptId task ofAttempt
  split
  · rename_i same
    rw [same, events_eq] at before_eq
    obtain rfl := Option.some.inj before_eq
    have sameTask : current.task = task := by
      change (store.attempts.get attemptId).map _ = _ at ofAttempt
      rw [same, stored] at ofAttempt
      exact Option.some.inj ofAttempt
    refine ⟨events ++ [progress], rfl, ?_, ?_⟩
    · rw [List.map_append, contiguous, List.length_append, List.length_singleton, List.range_succ,
        List.map_singleton, next]
    · rw [List.length_append, List.length_singleton, ← sameTask]
      exact below
  · exact ⟨before, before_eq, contiguous, capped⟩

theorem StoreInv.without (inv : StoreInv store)
    (stored : store.attempts.get attempt.attemptId = some attempt) :
    StoreInv (store.without attempt) := by
  have tasks : (store.without attempt).taskOf =
      Function.update store.taskOf attempt.attemptId none := by
    funext attemptId
    change ((store.attempts.erase attempt.attemptId).get attemptId).map _ = _
    rw [Keyed.get_erase, Function.update_apply]
    split <;> rfl
  have ofAttempt : store.taskOf attempt.attemptId = some attempt.task := by
    rw [BackgroundTaskStore.taskOf, stored]
    rfl
  -- what is left is another attempt
  have left {attemptId : String} {task : BackgroundTask}
      (found : (store.without attempt).taskOf attemptId = some task) :
      attemptId ≠ attempt.attemptId ∧ store.taskOf attemptId = some task := by
    rw [tasks, Function.update_apply] at found
    split at found
    · cases found
    · rename_i apart
      exact ⟨apart, found⟩
  refine ⟨⟨?_, ?_, ?_, ?_⟩, ?_, ?_⟩
  · intro attemptId task found
    exact inv.entries.named attemptId task (left found).2
  · rw [tasks]
    exact inv.entries.byTask.forget ofAttempt
  · rw [tasks]
    exact inv.entries.byKey.forget ofAttempt
  · intro attemptId task found
    obtain ⟨apart, found⟩ := left found
    change ∃ events, Function.update _ _ _ _ = _ ∧ _
    rw [Function.update_of_ne apart]
    exact inv.entries.numbered attemptId task found
  · intro attemptId
    change ((store.completions.erase _).get attemptId).isSome =
      ((store.attempts.erase _).get attemptId).any _
    rw [Keyed.get_erase, Keyed.get_erase]
    split
    · rfl
    · exact inv.outbox attemptId
  · intro attemptId leased
    change ((store.attempts.erase _).get attemptId).any _ = true at leased
    rw [Keyed.get_erase] at leased
    split at leased
    · cases leased
    · exact inv.audited attemptId leased

/-- **Every change** keeps the invariant. -/
theorem StoreInv.change (inv : StoreInv store) (change : StoreChange request store store') :
    StoreInv store' := by
  cases change with
  | entered asked freshTask freshKey named queued =>
    exact inv.enter freshTask freshKey named queued
  | marked stored byMark =>
    obtain ⟨instant, -, -, rewritten⟩ := byMark
    refine inv.putAttempt stored (by rw [rewritten]) (by rw [rewritten]) (by rw [rewritten])
      (fun _ isAudited => List.mem_cons_of_mem _ isAudited) fun _ => List.mem_cons_self
  | stepped stored sameId sameTask step =>
    cases step with
    | claimed queued audited leased =>
      refine inv.putAttempt stored sameId sameTask ?_ (fun _ isAudited => isAudited)
        fun _ => audited
      rw [BackgroundTaskStatus.not_terminal_of_leased leased, queued]
      rfl
    | held byHolder was leased =>
      refine inv.putAttempt stored sameId sameTask ?_ (fun _ isAudited => isAudited) fun _ =>
        inv.audited _ ?_
      · rw [BackgroundTaskStatus.not_terminal_of_leased leased,
          BackgroundTaskStatus.not_terminal_of_leased was]
      · rw [stored]
        exact was
  | ended stored sameId sameTask working terminal ends ofAttempt =>
    exact inv.end stored sameId sameTask terminal ofAttempt
  | progressed stored events_eq below next => exact inv.progress stored events_eq below next
  | rowMoved stored open_ sameId => exact inv.putRow (by rw [sameId, stored]; rfl)
  | purged asked stored terminal passed outbox closed => exact inv.without stored

/-- The changes of a request, one after the other. -/
abbrev Changes (request : BackgroundTaskRequest) :
    BackgroundTaskStore → BackgroundTaskStore → Prop :=
  Relation.ReflTransGen (StoreChange request)

theorem Changes.inv (changes : Changes request store store') (inv : StoreInv store) :
    StoreInv store' := by
  induction changes with
  | refl => exact inv
  | tail _ change ih => exact ih.change change

variable {α : Type}

theorem checked_eq_ok {result : Except String α} {value : α} :
    checked result = .ok value ↔ result = .ok value := by
  cases result <;> simp [checked]

/-- What is decided is written; otherwise nothing is. -/
theorem Changes.commit {β : Type} {decided : Except BackgroundTaskError β} {write : β → Stored α}
    (written : ∀ value, decided = .ok value → Changes request store (write value).2) :
    Changes request store (store.commit decided write).2 := by
  cases decided with
  | ok value => exact written value rfl
  | error error => exact .refl

theorem mem_sortedBy_key {key : α → ℤ × String} {values : List α} {value : α} :
    value ∈ sortedBy key values ↔ value ∈ values := by
  simp [sortedBy]

variable {attemptId : String}

/-- An attempt is found under its id. -/
theorem id_of_get
    (stored : store.attempts.get attemptId = some attempt) : attempt.attemptId = attemptId := by
  have named := Keyed.key_of_get stored
  exact named

theorem required_eq_ok (found : store.required attemptId = .ok current) :
    current.attemptId = attemptId ∧ store.attempts.get current.attemptId = some current := by
  unfold BackgroundTaskStore.required at found
  split at found
  · rename_i got
    obtain rfl := Except.ok.inj found
    have named := id_of_get got
    exact ⟨named, by rw [named, got]⟩
  · cases found

variable {taskId : String}

theorem attemptOfTask_eq_ok {missing : BackgroundTaskError} (inv : StoreInv store)
    (found : store.attemptOfTask taskId missing = .ok current) :
    current.task.taskId = taskId ∧ store.attempts.get current.attemptId = some current := by
  unfold BackgroundTaskStore.attemptOfTask at found
  split at found
  · cases found
  rename_i attemptId entered
  split at found
  · cases found
  rename_i got
  obtain rfl := Except.ok.inj found
  obtain ⟨task, ofAttempt, ofTask⟩ := inv.entries.byTask.found taskId attemptId entered
  rw [BackgroundTaskStore.taskOf, got] at ofAttempt
  have named := id_of_get got
  exact ⟨by rw [← ofTask, ← Option.some.inj ofAttempt], by rw [named, got]⟩

variable {leaseToken : String} {expectedRevision instant : ℤ} {now : Datetime}

/-- An attempt under a lease that a request holds. -/
theorem leased_eq_ok {statuses : List BackgroundTaskStatus} {lease : BackgroundTaskLease}
    (found : store.leased attemptId expectedRevision leaseToken now statuses =
      .ok (current, lease, instant)) :
    current.attemptId = attemptId ∧ store.attempts.get current.attemptId = some current ∧
      current.revision = expectedRevision ∧ current.status ∈ statuses ∧
      current.lease = some lease ∧ lease.token = leaseToken ∧ now = .aware instant ∧
      instant < lease.expiresAt := by
  obtain ⟨attempt, required, found⟩ := bind_eq_ok.1 found
  obtain ⟨⟨lease', instant'⟩, held, found⟩ := bind_eq_ok.1 found
  obtain ⟨rfl, same⟩ := Prod.mk.inj (Except.ok.inj found)
  obtain ⟨rfl, rfl⟩ := Prod.mk.inj same
  obtain ⟨named, stored⟩ := required_eq_ok required
  unfold BackgroundTaskStore.held at held
  dsimp only at held
  split at held
  · cases held
  rename_i fits
  push Not at fits
  split at held
  · cases held
  rename_i has
  split at held
  · cases held
  rename_i token
  split at held
  · cases held
  split at held
  · cases held
  rename_i alive
  obtain ⟨rfl, rfl⟩ := Prod.mk.inj (Except.ok.inj held)
  exact ⟨named, stored, fits.1, fits.2, has, not_not.1 token, rfl, not_le.1 alive⟩

/-! ### Single changes -/

theorem changes_create {task : BackgroundTask} {quota : Option BackgroundTaskQuotaPolicy}
    {requiresCreationAudit : Bool} {clock : Datetime} :
    Changes (.create task quota requiresCreationAudit clock) store
      (store.create task quota requiresCreationAudit clock).2 := by
  unfold BackgroundTaskStore.create
  split
  · split
    · exact .refl
    · split <;> exact .refl
  rename_i freshKey
  split
  · exact .refl
  rename_i freshTask
  refine .commit fun attempt admitted => ?_
  obtain ⟨-, built⟩ := check_bind_eq_ok.1 admitted
  have row := AttemptRow.create_eq_ok (checked_eq_ok.1 built)
  have ofTask : attempt.task = task := by rw [row]
  refine .single ?_
  refine .entered ⟨quota, clock, by rw [ofTask]⟩ ?_ ?_ (by rw [row]) (by rw [row])
  · rw [ofTask]
    exact not_not.1 freshTask
  · rw [ofTask]
    exact freshKey

theorem changes_markCreationAudited (inv : StoreInv store) :
    Changes (.markCreationAudited taskId now) store (store.markCreationAudited taskId now).2 := by
  refine .commit fun ⟨instant, current⟩ found => ?_
  obtain ⟨instant', aware, found⟩ := bind_eq_ok.1 found
  obtain ⟨current', looked, same⟩ := bind_eq_ok.1 found
  obtain ⟨sameInstant, sameAttempt⟩ := Prod.mk.inj (Except.ok.inj same)
  subst sameInstant sameAttempt
  obtain ⟨ofTask, stored⟩ := attemptOfTask_eq_ok inv looked
  dsimp only
  split
  · exact .refl
  rename_i unmarked
  have instant_eq : now = .aware instant' := by
    unfold awareInput at aware
    split at aware
    · rw [Except.ok.inj aware]
    · cases aware
  have rewritten := AttemptRow.create_of_valid
    (current'.valid_rewritten (max instant' current'.updatedAt))
  rw [rewritten]
  refine .single (.marked stored ⟨instant', ?_, unmarked, rfl⟩)
  rw [instant_eq, ofTask]

variable {leaseSeconds : ℤ}

theorem changes_claimNext {coordinator : String} :
    Changes (.claimNext coordinator leaseToken now leaseSeconds) store
      (store.claimNext coordinator leaseToken now leaseSeconds).2 := by
  refine .commit fun instant _ => ?_
  dsimp only
  split
  · exact .refl
  rename_i current rest queued
  refine .commit fun claimed built => ?_
  obtain ⟨lease, -, built⟩ := bind_eq_ok.1 built
  have row := AttemptRow.create_eq_ok (checked_eq_ok.1 built)
  have isQueued := mem_sortedBy_key.1 (queued ▸ List.mem_cons_self : current ∈ _)
  obtain ⟨stored, fits⟩ := List.mem_filter.1 isQueued
  simp only [Bool.and_eq_true, decide_eq_true_eq] at fits
  refine .single (.stepped (Keyed.get_of_mem stored) (by rw [row]) (by rw [row]) ?_)
  exact .claimed fits.1 fits.2 (by rw [row]; rfl)

theorem changes_start : Changes (.start attemptId expectedRevision leaseToken now) store
      (store.start attemptId expectedRevision leaseToken now).2 := by
  refine .commit fun updated built => ?_
  obtain ⟨⟨current, lease, instant⟩, leased, create⟩ := bind_eq_ok.1 built
  obtain ⟨rfl, stored, rfl, status, has, rfl, rfl, alive⟩ := leased_eq_ok leased
  have row := AttemptRow.create_eq_ok (checked_eq_ok.1 create)
  refine .single (.stepped stored (by rw [row]) (by rw [row]) ?_)
  refine .held ⟨lease, instant, has, alive, .inl rfl⟩ ?_ (by rw [row]; rfl)
  rw [List.mem_singleton.1 status]
  rfl

theorem changes_renew {usage : BackgroundTaskUsage} :
    Changes (.renew attemptId expectedRevision leaseToken now leaseSeconds usage) store
      (store.renew attemptId expectedRevision leaseToken now leaseSeconds usage).2 := by
  refine .commit fun updated built => ?_
  obtain ⟨_, -, built⟩ := bind_eq_ok.1 built
  obtain ⟨⟨current, lease, instant⟩, leased, create⟩ := bind_eq_ok.1 built
  obtain ⟨rfl, stored, rfl, status, has, rfl, rfl, alive⟩ := leased_eq_ok leased
  have row := AttemptRow.create_eq_ok (checked_eq_ok.1 create)
  have was : current.status.leased = true := by
    rcases List.mem_pair.1 status with is | is <;> rw [is] <;> rfl
  refine .single (.stepped stored (by rw [row]) (by rw [row]) ?_)
  exact .held ⟨lease, instant, has, alive, .inr (.inl ⟨leaseSeconds, usage, rfl⟩)⟩ was
    (by rw [row]; exact was)

theorem changes_appendProgress {progress : BackgroundTaskProgress} :
    Changes (.appendProgress progress) store (store.appendProgress progress).2 := by
  refine .commit fun events admitted => ?_
  obtain ⟨current, required, admitted⟩ := bind_eq_ok.1 admitted
  obtain ⟨named, stored⟩ := required_eq_ok required
  split at admitted
  · cases admitted
  split at admitted
  · cases admitted
  rename_i before events_eq
  split at admitted
  · cases admitted
  rename_i below
  split at admitted
  · cases admitted
  rename_i next
  obtain rfl := Except.ok.inj admitted
  exact .single (.progressed (named ▸ stored) events_eq (not_le.1 below) (not_not.1 next))

/-- The outbox row of an attempt that has just ended. -/
theorem putCompletion_of_terminal (now : ℤ) (terminal : attempt.status.terminal = true)
    (empty : store.completions.get attempt.attemptId = none) :
    ∃ row : BackgroundTaskCompletion, row.attemptId = attempt.attemptId ∧
      store.putCompletion attempt now = (.ok (), store.putRow row) := by
  have valid : validate (CompletionRow.checks
      { attemptId := attempt.attemptId, state := .pending, createdAt := now, dueAt := now
        retentionUntil := max attempt.task.retentionUntil now }) = .ok () := by
    simp [CompletionRow.checks, attempt.id_bounded, maxCompletionAttempts,
      BackgroundTaskCompletionState.terminal]
  refine ⟨⟨_, valid⟩, rfl, ?_⟩
  unfold BackgroundTaskStore.putCompletion
  rw [if_neg (by simp [terminal]), if_neg (by simp [empty]), CompletionRow.create_of_valid valid]
  rfl

/-- **Ending an attempt** writes it and its outbox row. -/
theorem settle_eq (inv : StoreInv store)
    (stored : store.attempts.get current.attemptId = some current)
    (sameId : updated.attemptId = current.attemptId)
    (working : current.status.terminal = false) (terminal : updated.status.terminal = true) :
    ∃ row : BackgroundTaskCompletion, row.attemptId = current.attemptId ∧
      store.settle updated = (.ok updated, (store.putAttempt updated).putRow row) := by
  have empty : (store.putAttempt updated).completions.get updated.attemptId = none := by
    have outbox := inv.outbox current.attemptId
    rw [stored] at outbox
    rw [sameId]
    exact Option.isNone_iff_eq_none.1 (by
      rw [← Option.not_isSome]
      exact (congrArg not outbox).trans (by simp [working]))
  obtain ⟨row, ofAttempt, put⟩ := putCompletion_of_terminal updated.updatedAt terminal empty
  refine ⟨row, ofAttempt.trans sameId, ?_⟩
  unfold BackgroundTaskStore.settle
  rw [put]
  rfl

theorem changes_complete {status : BackgroundTaskStatus} {result : BackgroundTaskResult}
    (inv : StoreInv store) :
    Changes (.complete attemptId expectedRevision leaseToken status result now) store
      (store.complete attemptId expectedRevision leaseToken status result now).2 := by
  unfold BackgroundTaskStore.complete
  split
  · exact .refl
  rename_i terminal
  refine .commit fun updated built => ?_
  obtain ⟨⟨current, lease, instant⟩, leased, create⟩ := bind_eq_ok.1 built
  obtain ⟨rfl, stored, rfl, was, has, rfl, rfl, alive⟩ := leased_eq_ok leased
  have row := AttemptRow.create_eq_ok (checked_eq_ok.1 create)
  have working : current.status.terminal = false := by
    rcases List.mem_pair.1 was with is | is <;> rw [is] <;> rfl
  have ends : updated.status.terminal = true := by
    rw [row]
    simpa using terminal
  obtain ⟨outbox, ofAttempt, settled⟩ := settle_eq inv stored (by rw [row]) working ends
  rw [settled]
  exact .single (.ended stored (by rw [row]) (by rw [row]) working ends
    (.completed ⟨lease, instant, has, alive, .inr (.inr ⟨status, result, rfl⟩)⟩) ofAttempt)

/-- An attempt that the store ends by itself. -/
theorem ended_eq_ok {status : BackgroundTaskStatus} {terminalReason : String}
    (built : ended current status terminalReason now = .ok updated) :
    updated.attemptId = current.attemptId ∧ updated.task = current.task ∧
      updated.status = status := by
  unfold BackgroundTaskStore.ended at built
  dsimp only at built
  split at built
  · cases built
  · have row := AttemptRow.create_eq_ok (checked_eq_ok.1 built)
    exact ⟨by rw [row], by rw [row], by rw [row]⟩

theorem changes_cancel {actor : String} {isAdmin : Bool} (inv : StoreInv store) :
    Changes (.cancel taskId actor isAdmin now) store (store.cancel taskId actor isAdmin now).2 := by
  refine .commit fun current found => ?_
  obtain ⟨rfl, stored⟩ := attemptOfTask_eq_ok inv found
  split
  · exact .refl
  rename_i allowed
  split
  · exact .refl
  rename_i working
  refine .commit fun updated built => ?_
  obtain ⟨sameId, sameTask, status⟩ := ended_eq_ok built
  have terminal : updated.status.terminal = true := by
    rw [status]
    rfl
  have working : current.status.terminal = false := by simpa using working
  obtain ⟨outbox, ofAttempt, settled⟩ := settle_eq inv stored sameId working terminal
  rw [settled]
  refine .single (.ended stored sameId sameTask working terminal
    (.cancelled ⟨actor, isAdmin, now, rfl, ?_⟩) ofAttempt)
  by_contra neither
  push Not at neither
  exact allowed ⟨neither.1, by simpa using neither.2⟩

/-! ### Loops -/

/-- What is past its deadline, by the clock that was read. -/
theorem due_eq_ok {deadlines : α → List ℤ} {values overdue : List α}
    (found : due deadlines now values = .ok overdue) :
    overdue = [] ∨ ∃ instant, now = .aware instant ∧
      overdue = values.filter fun value => (deadlines value).any (· ≤ instant) := by
  unfold due at found
  split at found
  · exact .inr ⟨_, rfl, (Except.ok.inj found).symm⟩
  split at found
  · exact .inl (Except.ok.inj found).symm
  · cases found

/-- What a sorted and bounded selection of the values of a dictionary is: values of it, with
ids of their own. -/
theorem selected_of_due {key : α → String} {d : Keyed key} {p : α → Bool}
    {sortKey : α → ℤ × String} {limit : ℕ} :
    ((sortedBy sortKey (d.values.filter p)).take limit).Pairwise (fun one other =>
        key one ≠ key other) ∧
      ∀ value ∈ (sortedBy sortKey (d.values.filter p)).take limit,
        d.get (key value) = some value ∧ p value = true := by
  constructor
  · have apart : (d.values.filter p).Pairwise fun one other => key one ≠ key other :=
      (List.pairwise_map.1 (List.nodup_iff_pairwise_ne.1 d.nodup)).filter p
    have sorted := (List.perm_insertionSort (fun one other =>
      comesFirst (sortKey one) (sortKey other) = true) (d.values.filter p)).pairwise_iff
      (fun apart => Ne.symm apart) |>.2 apart
    exact sorted.sublist (List.take_sublist _ _)
  · intro value isTaken
    obtain ⟨stored, fits⟩ := List.mem_filter.1 (mem_sortedBy_key.1 (List.mem_of_mem_take isTaken))
    exact ⟨Keyed.get_of_mem stored, fits⟩

variable {limit : ℤ}

/-- **Reconciling attempts**, each of them under a lease that is expired. -/
theorem changes_reconcileEach (candidates : List BackgroundTaskAttempt) (inv : StoreInv store)
    (apart : candidates.Pairwise fun one other => one.attemptId ≠ other.attemptId)
    (fits : ∀ current ∈ candidates, store.attempts.get current.attemptId = some current ∧
      current.status.leased = true ∧ ∃ lease, current.lease = some lease ∧ lease.expiresAt ≤ instant) :
    Changes (.reconcileExpired (.aware instant) limit) store
      (reconcileEach (.aware instant) candidates store).2 := by
  induction candidates generalizing store with
  | nil => exact .refl
  | cons current rest ih =>
    obtain ⟨stored, leased, lease, has, passed⟩ := fits current List.mem_cons_self
    obtain ⟨apartHere, apartRest⟩ := List.pairwise_cons.1 apart
    unfold BackgroundTaskStore.reconcileEach
    rcases built : ended current .unknown "process_lost" (.aware instant) with error | updated
    · exact .refl
    obtain ⟨sameId, sameTask, status⟩ := ended_eq_ok built
    have working := BackgroundTaskStatus.not_terminal_of_leased leased
    have terminal : updated.status.terminal = true := by
      rw [status]
      rfl
    obtain ⟨row, ofAttempt, settled⟩ := settle_eq inv stored sameId working terminal
    have change : StoreChange (.reconcileExpired (.aware instant) limit) store
        ((store.putAttempt updated).putRow row) :=
      .ended stored sameId sameTask working terminal
        (.expired ⟨lease, instant, limit, has, passed, rfl⟩) ofAttempt
    simp only [BackgroundTaskStore.commit, settled]
    refine .head change (ih (inv.change change) apartRest fun other isOther => ?_)
    obtain ⟨storedOther, rest⟩ := fits other (List.mem_cons_of_mem _ isOther)
    refine ⟨?_, rest⟩
    change (store.attempts.put updated).get _ = _
    rw [Keyed.get_put, if_neg, storedOther]
    rw [sameId]
    exact (apartHere other isOther).symm

theorem changes_reconcileExpired (inv : StoreInv store) :
    Changes (.reconcileExpired now limit) store (store.reconcileExpired now limit).2 := by
  refine .commit fun candidates found => ?_
  obtain ⟨-, found⟩ := check_bind_eq_ok.1 found
  obtain ⟨expired, isDue, same⟩ := bind_eq_ok.1 found
  obtain rfl := Except.ok.inj same
  rcases due_eq_ok isDue with rfl | ⟨instant, rfl, rfl⟩
  · simpa [sortedBy, BackgroundTaskStore.reconcileEach] using Relation.ReflTransGen.refl
  obtain ⟨apart, fits⟩ := selected_of_due (d := store.attempts)
    (p := fun attempt => (leaseDeadline attempt).any (· ≤ instant))
  refine changes_reconcileEach _ inv apart fun current isCandidate => ?_
  obtain ⟨stored, passed⟩ := fits current isCandidate
  refine ⟨stored, ?_⟩
  unfold BackgroundTaskStore.leaseDeadline at passed
  split at passed
  · rename_i leased
    refine ⟨leased, ?_⟩
    cases has : current.lease with
    | none => simp [has] at passed
    | some lease => exact ⟨lease, rfl, by simpa [has] using passed⟩
  · simp at passed

theorem changes_claimCompletion {coordinator : String} :
    Changes (.claimCompletion coordinator leaseToken now leaseSeconds) store
      (store.claimCompletion coordinator leaseToken now leaseSeconds).2 := by
  refine .commit fun instant _ => ?_
  dsimp only
  split
  · exact .refl
  rename_i current rest candidates
  refine .commit fun claimed built => ?_
  obtain ⟨lease, -, built⟩ := bind_eq_ok.1 built
  have row := CompletionRow.create_eq_ok (checked_eq_ok.1 built)
  have isCandidate := mem_sortedBy_key.1 (candidates ▸ List.mem_cons_self : current ∈ _)
  obtain ⟨stored, fits⟩ := List.mem_filter.1 isCandidate
  simp only [Bool.and_eq_true, Bool.or_eq_true, decide_eq_true_eq] at fits
  refine .single (.rowMoved (Keyed.get_of_mem stored) ?_ (by rw [row]))
  rcases fits.1.1 with is | is <;> rw [is] <;> rfl

theorem changes_finishCompletion {delivered : Bool}
    {retryAt : Option Datetime} {errorCode : Option String} :
    Changes (.finishCompletion attemptId leaseToken delivered now retryAt errorCode) store
      (store.finishCompletion attemptId leaseToken delivered now retryAt errorCode).2 := by
  refine .commit fun updated decided => ?_
  obtain ⟨⟨current, instant⟩, leased, finish⟩ := bind_eq_ok.1 decided
  -- the row of the id is being sent
  have sending : store.completions.get current.attemptId = some current ∧
      current.state = .sending := by
    unfold BackgroundTaskStore.completionLeased at leased
    dsimp only at leased
    split at leased
    · cases leased
    rename_i got
    split at leased
    · cases leased
    rename_i state
    split at leased
    · cases leased
    split at leased
    · cases leased
    split at leased
    · cases leased
    split at leased
    · cases leased
    obtain ⟨rfl, rfl⟩ := Prod.mk.inj (Except.ok.inj leased)
    have named : _ = attemptId := Keyed.key_of_get got
    exact ⟨by rw [named, got], not_not.1 state⟩
  have sameId : updated.attemptId = current.attemptId := by
    change finishedRow _ _ _ _ _ = _ at finish
    unfold BackgroundTaskStore.finishedRow at finish
    split at finish
    · split at finish
      · cases finish
      · rw [CompletionRow.create_eq_ok (checked_eq_ok.1 finish)]
    split at finish
    · obtain ⟨_, -, finish⟩ := bind_eq_ok.1 finish
      rw [CompletionRow.create_eq_ok (checked_eq_ok.1 finish)]
    · cases finish
  exact .single (.rowMoved sending.1 (by rw [sending.2]; rfl) sameId)

/-- **Reconciling outbox rows**, none of them terminal. -/
theorem changes_reconcileRows (candidates : List BackgroundTaskCompletion)
    (apart : candidates.Pairwise fun one other => one.attemptId ≠ other.attemptId)
    (fits : ∀ current ∈ candidates, store.completions.get current.attemptId = some current ∧
      current.state.terminal = false) :
    Changes request store (reconcileRows now candidates store).2 := by
  induction candidates generalizing store with
  | nil => exact .refl
  | cons current rest ih =>
    obtain ⟨stored, open_⟩ := fits current List.mem_cons_self
    obtain ⟨apartHere, apartRest⟩ := List.pairwise_cons.1 apart
    unfold BackgroundTaskStore.reconcileRows
    rcases built : lostRow current now with error | updated
    · exact .refl
    have sameId : updated.attemptId = current.attemptId := by
      unfold BackgroundTaskStore.lostRow at built
      split at built
      · cases built
      · rw [CompletionRow.create_eq_ok (checked_eq_ok.1 built)]
    have change : StoreChange request store (store.putRow updated) :=
      .rowMoved stored open_ sameId
    refine .head change (ih apartRest fun other isOther => ?_)
    obtain ⟨storedOther, open_⟩ := fits other (List.mem_cons_of_mem _ isOther)
    refine ⟨?_, open_⟩
    change (store.completions.put updated).get _ = _
    rw [Keyed.get_put, if_neg, storedOther]
    rw [sameId]
    exact (apartHere other isOther).symm

theorem changes_reconcileCompletionExpired : Changes (.reconcileCompletionExpired now limit) store
      (store.reconcileCompletionExpired now limit).2 := by
  refine .commit fun candidates found => ?_
  obtain ⟨-, found⟩ := check_bind_eq_ok.1 found
  obtain ⟨expired, isDue, same⟩ := bind_eq_ok.1 found
  obtain rfl := Except.ok.inj same
  rcases due_eq_ok isDue with rfl | ⟨instant, rfl, rfl⟩
  · simpa [sortedBy, BackgroundTaskStore.reconcileRows] using Relation.ReflTransGen.refl
  obtain ⟨apart, fits⟩ := selected_of_due (d := store.completions)
    (p := fun completion => (rowDeadlines completion).any (· ≤ instant))
  refine changes_reconcileRows _ apart fun current isCandidate => ?_
  obtain ⟨stored, passed⟩ := fits current isCandidate
  refine ⟨stored, ?_⟩
  -- a terminal row has no deadline
  cases state : current.state <;>
    simp_all [BackgroundTaskStore.rowDeadlines, BackgroundTaskCompletionState.terminal]

/-- The five `pop`s find their keys. -/
theorem purgeOne_eq
    (inv : StoreInv store) (stored : store.attempts.get attempt.attemptId = some attempt)
    (outbox : store.completions.get attempt.attemptId = some row) :
    store.purgeOne attempt = (.ok (), store.without attempt) := by
  have ofAttempt : store.taskOf attempt.attemptId = some attempt.task := by
    rw [BackgroundTaskStore.taskOf, stored]
    rfl
  have byTask := inv.entries.byTask.entered _ _ ofAttempt
  have byKey := inv.entries.byKey.entered _ _ ofAttempt
  obtain ⟨events, events_eq, -⟩ := inv.entries.numbered _ _ ofAttempt
  unfold BackgroundTaskStore.purgeOne
  simp only [stored, byTask, byKey, events_eq, outbox, reduceCtorEq, if_false]
  rfl

/-- **Purging**, each of them terminal, with an outbox row that is. -/
theorem changes_purgeEach (candidates : List BackgroundTaskAttempt) (inv : StoreInv store)
    (apart : candidates.Pairwise fun one other => one.attemptId ≠ other.attemptId)
    (fits : ∀ attempt ∈ candidates, store.attempts.get attempt.attemptId = some attempt ∧
      attempt.status.terminal = true ∧ attempt.task.retentionUntil ≤ instant ∧
      ∃ row, store.completions.get attempt.attemptId = some row ∧ row.state.terminal = true) :
    Changes (.purgeRetained (.aware instant) limit) store (purgeEach candidates store).2 := by
  induction candidates generalizing store with
  | nil => exact .refl
  | cons attempt rest ih =>
    obtain ⟨stored, terminal, passed, row, outbox, closed⟩ := fits attempt List.mem_cons_self
    obtain ⟨apartHere, apartRest⟩ := List.pairwise_cons.1 apart
    have change : StoreChange (.purgeRetained (.aware instant) limit) store
        (store.without attempt) := .purged rfl stored terminal passed outbox closed
    unfold BackgroundTaskStore.purgeEach
    simp only [purgeOne_eq inv stored outbox]
    refine .head change (ih (inv.change change) apartRest fun other isOther => ?_)
    obtain ⟨storedOther, terminal, passed, row, outboxOther, closed⟩ :=
      fits other (List.mem_cons_of_mem _ isOther)
    have isApart := (apartHere other isOther).symm
    refine ⟨?_, terminal, passed, row, ?_, closed⟩
    · change (store.attempts.erase _).get _ = _
      rw [Keyed.get_erase, if_neg isApart, storedOther]
    · change (store.completions.erase _).get _ = _
      rw [Keyed.get_erase, if_neg isApart, outboxOther]

theorem changes_purgeRetained (inv : StoreInv store) :
    Changes (.purgeRetained now limit) store (store.purgeRetained now limit).2 := by
  refine .commit fun candidates found => ?_
  obtain ⟨-, found⟩ := check_bind_eq_ok.1 found
  obtain ⟨retained, isDue, same⟩ := bind_eq_ok.1 found
  obtain rfl := Except.ok.inj same
  rcases due_eq_ok isDue with rfl | ⟨instant, rfl, rfl⟩
  · simpa [sortedBy, BackgroundTaskStore.purgeEach] using Relation.ReflTransGen.refl
  rw [List.filter_filter]
  obtain ⟨apart, fits⟩ := selected_of_due (d := store.attempts) (p := fun attempt =>
    (store.completions.get attempt.attemptId).any (·.state.terminal) &&
      (retentionDeadline attempt).any (· ≤ instant))
  refine changes_purgeEach _ inv apart fun attempt isCandidate => ?_
  obtain ⟨stored, closed⟩ := fits attempt isCandidate
  obtain ⟨closed, passed⟩ := Bool.and_eq_true_iff.1 closed
  obtain ⟨row, outbox, closed⟩ := (Option.any_eq_true _ _).1 closed
  unfold BackgroundTaskStore.retentionDeadline at passed
  split at passed
  · rename_i terminal
    exact ⟨stored, terminal, by simpa using passed, row, outbox, closed⟩
  · simp at passed

/-- **An operation** makes changes of its own only. -/
theorem changes_apply (request : BackgroundTaskRequest) (inv : StoreInv store) :
    Changes request store (request.apply store) := by
  cases request with
  | create => exact changes_create
  | markCreationAudited => exact changes_markCreationAudited inv
  | claimNext => exact changes_claimNext
  | start => exact changes_start
  | renew => exact changes_renew
  | complete => exact changes_complete inv
  | cancel => exact changes_cancel inv
  | appendProgress => exact changes_appendProgress
  | reconcileExpired => exact changes_reconcileExpired inv
  | claimCompletion => exact changes_claimCompletion
  | finishCompletion => exact changes_finishCompletion
  | reconcileCompletionExpired => exact changes_reconcileCompletionExpired
  | purgeRetained => exact changes_purgeRetained inv

/-- **The invariant** holds after every run. -/
theorem StoreInv.run (inv : StoreInv store) (requests : List BackgroundTaskRequest) :
    StoreInv (store.run requests) := by
  induction requests generalizing store with
  | nil => exact inv
  | cons request rest ih => exact ih ((changes_apply request inv).inv inv)

end

end Fdai.Core
