import Fdai.Documents.PythonEquality
import Fdai.HilResume.LoadPolicy
import Fdai.Providers.Checks
import Fdai.Providers.StateStore

/-!
# Plans of approval load

Whether an approval that is parked is dispatched now, waits until the quiet hours are over, or joins
the dispatch of its group; and when its dispatches are due.

* `LoadStore`, `readAllStatePages`, `writeStateWithAuditIfAbsent` — the store, and what a plan reads and
  writes of it.
* `LoadRequest`, `readRequest` — what a plan reads of the approval, and what stops it.
* `modeOf`, `dueAt`, `plan` — the mode, the times that are due, and the plan.
* `plan_dispatched_iff` — exactly when it is; otherwise nothing is ever due.
-/

namespace Fdai.Core.HilResume

open Fdai.Documents Fdai.Providers

/-- What the language and its libraries decide. -/
structure LoadPython where
  /-- `str` of a value that is no text. -/
  str : Json → String
  casefold : String → String
  /-- `hashlib.sha256(…).hexdigest()`. -/
  sha256 : String → String
  /-- `datetime.fromisoformat`; `none` where it raises. -/
  fromisoformat : String → Option Datetime

variable (python : LoadPython)

/-- The rows of a store, and its audit. -/
structure LoadStore where
  state : StateStore String fun _ => Json := .empty
  audit : List Json := []

/-- The rows of a prefix whose status is `pending`, newest first. -/
def LoadStore.pendingRows (store : LoadStore) (keyPrefix : String) : List Json :=
  (store.state.rows.reverse.filter fun row =>
    keyPrefix.toList.isPrefixOf row.1.toList && row.2.get "status" == some (.text "pending")).map
      (·.2)

def pagesFrom (rows : List Json) (pageSize offset total : ℕ) : List Json :=
  if offset < total then
    let page := (rows.drop offset).take pageSize
    if page.length = 0 then []
    else page ++ pagesFrom rows pageSize (offset + page.length) rows.length
  else []
termination_by rows.length - offset
decreasing_by
  rename_i nonempty
  have := (List.length_take_le' pageSize (rows.drop offset))
  rw [List.length_drop] at this
  have : 0 < ((rows.drop offset).take pageSize).length := Nat.pos_of_ne_zero nonempty
  omega

/-- `_read_all_state_pages` of the pending rows. -/
def readAllStatePages (store : LoadStore) (keyPrefix : String) (pageSize : ℕ) : List Json :=
  pagesFrom (store.pendingRows keyPrefix) pageSize 0 1

/-- `write_state_with_audit_if_absent`: whether it was written, and the store. -/
def writeStateWithAuditIfAbsent (store : LoadStore) (key : String) (value auditEntry : Json) :
    Bool × LoadStore :=
  match store.state.read key with
  | some _ => (false, store)
  | none => (true, { state := store.state.write key value, audit := store.audit ++ [auditEntry] })

/-- `str(item.get(key) or default)`. -/
def textOr (item : Json) (key default : String) : String :=
  Json.orText python.str (item.get key) default

def requiredStr (value : Json) (key : String) : Except LoadError String :=
  match value.get key with
  | some (.text item) => if isBlank item then .error (.notText key) else .ok (strip item)
  | _ => .error (.notText key)

def timestamp (value : Option Json) (field : String) : Except LoadError ℤ :=
  match value with
  | some (.text raw) =>
    if raw = "" then .error (.notTimestamp field)
    else
      match python.fromisoformat (replaceChars "Z" "+00:00" raw) with
      | none => .error (.notTimestamp field)
      | some (.naive _) => .error (.noTimezone field)
      | some (.aware instant) => inCalendar instant
  | _ => .error (.notTimestamp field)

def expiresAt (parked : Json) : Except LoadError ℤ :=
  match parked.get "approval_context" with
  | some (.object context) => timestamp python (context.lookup "expires_at") "approval expires_at"
  | _ => .error .noContext

/-- The assignee of an approval, or of none. -/
def assigneeOf (item : Json) : String :=
  python.casefold (strip (textOr python item "assignee_oid" "role-scoped"))

def sameGroup (assignee actionType : String) (overloaded : Bool) (item : Json) : Bool :=
  assigneeOf python item = assignee && (overloaded || textOr python item "action_type" "" = actionType)

/-- What a plan reads of its clock and of the approval. -/
structure LoadRequest where
  now : ℤ
  approvalId : String
  assignee : String
  actionType : String
  expiresAt : ℤ
  severity : String
  deriving DecidableEq

/-- The reading of the clock, and the fields of the approval, or what stops the plan. -/
def readRequest (clock : Datetime) (parked : Json) (severity : String) : Except LoadError LoadRequest :=
  match clock with
  | .naive _ => .error .naiveClock
  | .aware now => do
    let approvalId ← requiredStr parked "approval_id"
    let actionType ← requiredStr parked "action_type"
    let expires ← expiresAt python parked
    return { now, approvalId, assignee := assigneeOf python parked, actionType, expiresAt := expires,
             severity := python.casefold (strip severity) }

/-! ## The plan -/

inductive ApprovalDispatchMode where
  | sendNow
  | deferred
  | grouped
  deriving DecidableEq

def ApprovalDispatchMode.value : ApprovalDispatchMode → String
  | .sendNow => "send_now"
  | .deferred => "deferred"
  | .grouped => "grouped"

structure ApprovalLoadPlan where
  approvalId : String
  policyVersion : String
  mode : ApprovalDispatchMode
  groupId : String
  groupSize : ℕ
  pendingForAssignee : ℕ
  overloaded : Bool
  severity : String
  dueAt : List ℤ

/-- `_audit`. -/
def auditEntry (kind key approvalId : String) (now : ℤ) : Json :=
  .object [("actor", .text "fdai.core.hil_resume.load_control"), ("action_kind", .text kind),
    ("mode", .text "shadow"), ("idempotency_key", .text key), ("approval_id", .text approvalId),
    ("correlation_id", .text approvalId), ("recorded_at", .text (isoformat now))]

section

variable (policy : ApprovalLoadPolicy) (request : LoadRequest)

/-- The severity is one that never waits. -/
def LoadRequest.urgent : Bool := request.severity ∈ policy.urgentSeverities

/-- The pending approvals. -/
def parks (store : LoadStore) : List Json := readAllStatePages store "hil_park:" policy.scanLimit

def pendingForAssignee (store : LoadStore) : ℕ :=
  (parks policy store).countP fun item => assigneeOf python item = request.assignee

/-- More approvals are pending than the assignee is given. -/
def overloaded (store : LoadStore) : Bool :=
  policy.maxPendingPerAssignee < pendingForAssignee python policy request store

/-- The identifier of the group. -/
def groupId (store : LoadStore) : String :=
  if request.urgent policy then python.sha256 ("urgent\x00" ++ request.approvalId)
  else
    python.sha256 (request.assignee ++ "\x00" ++
      (if overloaded python policy request store then "overload" else request.actionType) ++ "\x00" ++
      toString (policy.bucketOf request.now))

/-- What is stored of a group. -/
def groupRecord (groupId : String) : Json :=
  .object [("approval_id", .text request.approvalId), ("group_id", .text groupId),
    ("assignee_oid", .text request.assignee), ("action_type", .text request.actionType),
    ("bucket", .int (policy.bucketOf request.now)), ("created_at", .text (isoformat request.now))]

/-- The first approval of a group is its anchor: whether this one is, and the store. -/
def anchor (store : LoadStore) : Bool × LoadStore :=
  let group := groupId python policy request store
  writeStateWithAuditIfAbsent store ("hil_load_group:" ++ group) (groupRecord policy request group)
    (auditEntry "hil.load.group_anchor" ("hil-load-group:" ++ group) request.approvalId request.now)

/-- The mode of a plan. -/
def modeOf (anchorCreated : Bool) : ApprovalDispatchMode :=
  if request.urgent policy then .sendNow
  else if !anchorCreated then .grouped
  else if policy.inQuietHours request.now then .deferred
  else .sendNow

/-- The times a plan is due. -/
def dueAt (mode : ApprovalDispatchMode) : Except LoadError (List ℤ) :=
  match mode with
  | .grouped => do
    let groupDue ←
      if policy.inQuietHours request.now then policy.nextQuietEnd request.now
      else inCalendar (policy.windowEnd (policy.bucketOf request.now))
    return if groupDue < request.expiresAt then [groupDue] else []
  | mode => do
    let base ← if mode = .deferred then policy.nextQuietEnd request.now else pure request.now
    let reminders ← policy.reminderOffsetsSeconds.mapM fun (offset : ℕ) =>
      inCalendar (base + offset * 1000000)
    return ((if mode = .deferred then [base] else []) ++ reminders).filter (· < request.expiresAt)

/-- What is stored of a plan. -/
def planRecord (plan : ApprovalLoadPlan) (now : ℤ) : Json :=
  .object [("approval_id", .text plan.approvalId), ("policy_version", .text plan.policyVersion),
    ("mode", .text plan.mode.value), ("group_id", .text plan.groupId),
    ("group_size", .int plan.groupSize), ("pending_for_assignee", .int plan.pendingForAssignee),
    ("overloaded", .bool plan.overloaded), ("severity", .text plan.severity),
    ("due_at", .texts (plan.dueAt.map isoformat)), ("created_at", .text (isoformat now))]

def planRequest (store : LoadStore) : LoadStore × Except LoadError ApprovalLoadPlan :=
  let overloaded := overloaded python policy request store
  let (anchorCreated, anchored) := anchor python policy request store
  let mode := modeOf policy request anchorCreated
  match dueAt policy request mode with
  | .error stopped => (anchored, .error stopped)
  | .ok dueAt =>
    let plan : ApprovalLoadPlan :=
      { approvalId := request.approvalId
        policyVersion := policy.schemaVersion
        mode
        groupId := groupId python policy request store
        groupSize := max 1 ((parks policy store).countP
          (sameGroup python request.assignee request.actionType overloaded))
        pendingForAssignee := pendingForAssignee python policy request store
        overloaded
        severity := request.severity
        dueAt }
    ({ anchored with
        state := anchored.state.write ("hil_load_plan:" ++ request.approvalId)
          (planRecord plan request.now) }, .ok plan)

end

def plan (policy : ApprovalLoadPolicy) (store : LoadStore) (clock : Datetime) (parked : Json)
    (severity : String) : LoadStore × Except LoadError ApprovalLoadPlan :=
  match readRequest python clock parked severity with
  | .error stopped => (store, .error stopped)
  | .ok request => planRequest python policy request store

/-! ## What is due -/

section

variable {python} {policy : ApprovalLoadPolicy} {request : LoadRequest} {store : LoadStore}
  {times : List ℤ}

/-- When an approval that waits is dispatched. -/
def boundary (policy : ApprovalLoadPolicy) (now : ℤ) : ℤ :=
  if policy.inQuietHours now then policy.quietEnd now else policy.windowEnd (policy.bucketOf now)

/-- The calendar has every reminder after a time. -/
def RemindersHeld (policy : ApprovalLoadPolicy) (base : ℤ) : Prop :=
  ∀ offset ∈ policy.reminderOffsetsSeconds, InCalendar (base + offset * 1000000)

/-- **A boundary is later.** -/
theorem lt_boundary {now : ℤ} (inside : InCalendar now) : now < boundary policy now := by
  unfold boundary
  split
  · exact policy.lt_quietEnd now
  · exact policy.lt_windowEnd inside

variable {base : ℤ}

theorem reminders_eq_ok :
    (policy.reminderOffsetsSeconds.mapM fun (offset : ℕ) => inCalendar (base + offset * 1000000)) =
      .ok times ↔ RemindersHeld policy base ∧
        times = policy.reminderOffsetsSeconds.map fun (offset : ℕ) => base + offset * 1000000 := by
  rw [mapM_eq_ok_iff]
  unfold RemindersHeld
  induction policy.reminderOffsetsSeconds generalizing times with
  | nil => simp [List.forall₂_nil_left_iff]
  | cons offset rest ih =>
    rw [List.forall₂_cons_left_iff, List.forall_mem_cons, List.map_cons]
    constructor
    · rintro ⟨time, others, isTime, areOthers, rfl⟩
      obtain ⟨inside, rfl⟩ := inCalendar_eq_ok.1 isTime
      obtain ⟨held, rfl⟩ := ih.1 areOthers
      exact ⟨⟨inside, held⟩, rfl⟩
    · rintro ⟨⟨inside, held⟩, rfl⟩
      exact ⟨_, _, inCalendar_eq_ok.2 ⟨inside, rfl⟩, ih.2 ⟨held, rfl⟩, rfl⟩

/-- What is due of an approval that joins a group. -/
theorem dueAt_grouped : dueAt policy request .grouped = .ok times ↔
    InCalendar (boundary policy request.now) ∧
      times = [boundary policy request.now].filter (· < request.expiresAt) := by
  have single (due : ℤ) : (if due < request.expiresAt then [due] else []) =
      [due].filter (· < request.expiresAt) := by
    rw [List.filter_singleton]
    simp
  simp only [← single]
  unfold dueAt boundary ApprovalLoadPolicy.nextQuietEnd
  dsimp only
  split <;>
  · rw [bind_eq_ok]
    constructor
    · rintro ⟨due, isDue, same⟩
      obtain ⟨inside, rfl⟩ := inCalendar_eq_ok.1 isDue
      exact ⟨inside, (Except.ok.inj same).symm⟩
    · rintro ⟨inside, rfl⟩
      exact ⟨_, inCalendar_eq_ok.2 ⟨inside, rfl⟩, rfl⟩

/-- What is due of an approval that waits for the quiet hours to be over. -/
theorem dueAt_deferred : dueAt policy request .deferred = .ok times ↔
    InCalendar (policy.quietEnd request.now) ∧ RemindersHeld policy (policy.quietEnd request.now) ∧
      times = (policy.quietEnd request.now :: policy.reminderOffsetsSeconds.map fun (offset : ℕ) =>
        policy.quietEnd request.now + offset * 1000000).filter (· < request.expiresAt) := by
  unfold dueAt ApprovalLoadPolicy.nextQuietEnd
  simp only [↓reduceIte]
  rw [bind_eq_ok]
  constructor
  · rintro ⟨base, isBase, next⟩
    obtain ⟨inside, rfl⟩ := inCalendar_eq_ok.1 isBase
    obtain ⟨reminders, areReminders, same⟩ := bind_eq_ok.1 next
    obtain ⟨held, rfl⟩ := reminders_eq_ok.1 areReminders
    exact ⟨inside, held, (Except.ok.inj same).symm⟩
  · rintro ⟨inside, held, rfl⟩
    exact ⟨_, inCalendar_eq_ok.2 ⟨inside, rfl⟩, bind_eq_ok.2 ⟨_, reminders_eq_ok.2 ⟨held, rfl⟩, rfl⟩⟩

/-- An approval that is dispatched now is planned if the calendar has its reminders. -/
theorem dueAt_sendNow :
    (∃ times, dueAt policy request .sendNow = .ok times) ↔ RemindersHeld policy request.now := by
  unfold dueAt
  simp only [reduceCtorEq, ↓reduceIte]
  constructor
  · rintro ⟨times, isTimes⟩
    obtain ⟨base, isBase, next⟩ := bind_eq_ok.1 isTimes
    obtain rfl := Except.ok.inj isBase
    obtain ⟨reminders, areReminders, -⟩ := bind_eq_ok.1 next
    exact (reminders_eq_ok.1 areReminders).1
  · intro held
    exact ⟨_, bind_eq_ok.2 ⟨_, rfl, bind_eq_ok.2 ⟨_, reminders_eq_ok.2 ⟨held, rfl⟩, rfl⟩⟩⟩

variable {planned : ApprovalLoadPlan}

/-- **What a request is planned as**: its mode, and the times that are due. -/
theorem planRequest_eq_ok (isPlan : (planRequest python policy request store).2 = .ok planned) :
    planned.mode = modeOf policy request (anchor python policy request store).1 ∧
      dueAt policy request (modeOf policy request (anchor python policy request store).1) =
        .ok planned.dueAt := by
  unfold planRequest at isPlan
  dsimp only at isPlan
  split at isPlan
  · cases isPlan
  rename_i times isTimes
  obtain rfl := Except.ok.inj isPlan
  exact ⟨rfl, isTimes⟩

theorem exists_planRequest_iff :
    (∃ planned, (planRequest python policy request store).2 = .ok planned) ↔
      ∃ times, dueAt policy request (modeOf policy request (anchor python policy request store).1) =
        .ok times := by
  constructor
  · rintro ⟨planned, isPlan⟩
    exact ⟨_, (planRequest_eq_ok isPlan).2⟩
  · rintro ⟨times, isTimes⟩
    unfold planRequest
    dsimp only
    rw [isTimes]
    exact ⟨_, rfl⟩

/-- The group of an approval has no anchor yet. -/
def Opens (python : LoadPython) (policy : ApprovalLoadPolicy) (request : LoadRequest)
    (store : LoadStore) : Prop :=
  store.state.read ("hil_load_group:" ++ groupId python policy request store) = none

/-- An approval is the anchor of its group exactly if the group has none. -/
theorem anchor_created : (anchor python policy request store).1 = true ↔
    Opens python policy request store := by
  unfold anchor writeStateWithAuditIfAbsent Opens
  dsimp only
  split
  · rename_i found
    rw [found]
    exact ⟨fun never => Bool.noConfusion never, fun never => by cases never⟩
  · rename_i absent
    exact ⟨fun _ => absent, fun _ => rfl⟩

/-- The instants of an approval that is admitted. -/
theorem readRequest_eq_ok {clock : Datetime} {parked : Json} {severity : String}
    (admitted : readRequest python clock parked severity = .ok request) :
    clock = .aware request.now ∧ InCalendar request.expiresAt := by
  unfold readRequest at admitted
  split at admitted
  · cases admitted
  obtain ⟨approvalId, -, admitted⟩ := bind_eq_ok.1 admitted
  obtain ⟨actionType, -, admitted⟩ := bind_eq_ok.1 admitted
  obtain ⟨expires, isExpiry, same⟩ := bind_eq_ok.1 admitted
  obtain rfl := Except.ok.inj same
  refine ⟨rfl, ?_⟩
  unfold expiresAt timestamp at isExpiry
  split at isExpiry
  · split at isExpiry
    · split at isExpiry
      · cases isExpiry
      split at isExpiry
      · cases isExpiry
      · cases isExpiry
      · obtain ⟨inside, rfl⟩ := inCalendar_eq_ok.1 isExpiry
        exact inside
    · cases isExpiry
  · cases isExpiry

/-- **The approval is dispatched**: now, or first at a time that is not past and before it expires. -/
def Dispatched (request : LoadRequest) (planned : ApprovalLoadPlan) : Prop :=
  planned.mode = .sendNow ∨
    ∃ due, planned.dueAt.head? = some due ∧ request.now ≤ due ∧ due < request.expiresAt

/-- **What an approval waits for** is due first, or nothing is. -/
theorem filter_from (limit : ℤ) {rest : List ℤ} (later : ∀ time ∈ rest, base ≤ time) :
    (base < limit ∧ ((base :: rest).filter (· < limit)).head? = some base) ∨
      (limit ≤ base ∧ (base :: rest).filter (· < limit) = []) := by
  rcases lt_or_ge base limit with before | past
  · refine .inl ⟨before, ?_⟩
    rw [List.filter_cons_of_pos (by simpa using before)]
    rfl
  refine .inr ⟨past, List.filter_eq_nil_iff.2 fun time isTime => ?_⟩
  rw [decide_eq_true_eq, not_lt]
  rcases List.mem_cons.1 isTime with rfl | isTime
  · exact past
  · exact past.trans (later time isTime)

def WaitsFor (base : ℤ) (request : LoadRequest) (planned : ApprovalLoadPlan) : Prop :=
  planned.mode ≠ .sendNow ∧ ∃ rest, (∀ time ∈ rest, base ≤ time) ∧
    planned.dueAt = (base :: rest).filter (· < request.expiresAt)

/-- **A plan that waits** is dispatched exactly if what it waits for comes in time. -/
theorem WaitsFor.dispatched_iff
    (waits : WaitsFor base request planned) (ahead : request.now ≤ base) :
    Dispatched request planned ↔ base < request.expiresAt := by
  obtain ⟨notNow, rest, later, isDue⟩ := waits
  unfold Dispatched
  rw [or_iff_right notNow, isDue]
  rcases filter_from request.expiresAt later with ⟨before, isHead⟩ | ⟨past, isNil⟩
  · rw [isHead]
    exact ⟨fun _ => before, fun _ => ⟨base, rfl, ahead, before⟩⟩
  rw [isNil]
  refine ⟨?_, fun before => (past.not_gt before).elim⟩
  rintro ⟨_, never, -⟩
  cases never

theorem WaitsFor.dueAt_eq_nil
    (waits : WaitsFor base request planned) (past : ¬ base < request.expiresAt) :
    planned.dueAt = [] := by
  obtain ⟨-, rest, later, isDue⟩ := waits
  rw [isDue]
  exact (filter_from request.expiresAt later).resolve_left (fun before => past before.1) |>.2

/-- **An approval that joins a group** waits for the boundary. -/
theorem planRequest_grouped (calm : request.urgent policy = false)
    (joins : ¬ Opens python policy request store) :
    ((∃ planned, (planRequest python policy request store).2 = .ok planned) ↔
        InCalendar (boundary policy request.now)) ∧
      ∀ planned, (planRequest python policy request store).2 = .ok planned →
        WaitsFor (boundary policy request.now) request planned := by
  have isMode : modeOf policy request (anchor python policy request store).1 = .grouped := by
    have notCreated := anchor_created.not.2 joins
    rw [Bool.not_eq_true] at notCreated
    unfold modeOf
    rw [calm, notCreated]
    rfl
  rw [exists_planRequest_iff, isMode]
  refine ⟨⟨fun ⟨times, isDue⟩ => (dueAt_grouped.1 isDue).1,
    fun inside => ⟨_, dueAt_grouped.2 ⟨inside, rfl⟩⟩⟩, fun planned isPlan => ?_⟩
  obtain ⟨mode, isDue⟩ := planRequest_eq_ok isPlan
  rw [isMode] at mode isDue
  refine ⟨by rw [mode]; decide, [], ?_, (dueAt_grouped.1 isDue).2⟩
  exact fun _ never => (List.not_mem_nil never).elim

/-- **An approval that opens its group in quiet hours** waits until they are over. -/
theorem planRequest_deferred (calm : request.urgent policy = false)
    (opens : Opens python policy request store) (quiet : policy.inQuietHours request.now = true) :
    ((∃ planned, (planRequest python policy request store).2 = .ok planned) ↔
        InCalendar (policy.quietEnd request.now) ∧
          RemindersHeld policy (policy.quietEnd request.now)) ∧
      ∀ planned, (planRequest python policy request store).2 = .ok planned →
        WaitsFor (policy.quietEnd request.now) request planned := by
  have isMode : modeOf policy request (anchor python policy request store).1 = .deferred := by
    unfold modeOf
    rw [calm, anchor_created.2 opens, quiet]
    rfl
  rw [exists_planRequest_iff, isMode]
  refine ⟨⟨fun ⟨times, isDue⟩ => ?_, fun ⟨inside, held⟩ => ⟨_, dueAt_deferred.2 ⟨inside, held, rfl⟩⟩⟩,
    fun planned isPlan => ?_⟩
  · obtain ⟨inside, held, -⟩ := dueAt_deferred.1 isDue
    exact ⟨inside, held⟩
  obtain ⟨mode, isDue⟩ := planRequest_eq_ok isPlan
  rw [isMode] at mode isDue
  refine ⟨by rw [mode]; decide, _, ?_, (dueAt_deferred.1 isDue).2.2⟩
  intro time isTime
  obtain ⟨offset, -, rfl⟩ := List.mem_map.1 isTime
  omega

/-- **An approval that opens its group in the day** is dispatched now. -/
theorem planRequest_sendNow (calm : request.urgent policy = false)
    (opens : Opens python policy request store) (awake : policy.inQuietHours request.now = false) :
    ((∃ planned, (planRequest python policy request store).2 = .ok planned) ↔
        RemindersHeld policy request.now) ∧
      ∀ planned, (planRequest python policy request store).2 = .ok planned → planned.mode = .sendNow := by
  have isMode : modeOf policy request (anchor python policy request store).1 = .sendNow := by
    unfold modeOf
    rw [calm, anchor_created.2 opens, awake]
    rfl
  rw [exists_planRequest_iff, isMode, dueAt_sendNow]
  exact ⟨Iff.rfl, fun planned isPlan => (planRequest_eq_ok isPlan).1.trans isMode⟩

end

/-- **An approval is dispatched in time**, whatever is pending and whatever was planned before, if and
only if it need not wait or what it waits for comes before it expires, and the calendar has its reminders;
an approval that is planned otherwise is never due. -/
theorem plan_dispatched_iff (python : LoadPython) (policy : ApprovalLoadPolicy) (store : LoadStore)
    (clock : Datetime) (parked : Json) (severity : String) (request : LoadRequest)
    (admitted : readRequest python clock parked severity = .ok request) (inside : InCalendar request.now)
    (calm : request.urgent policy = false) :
    ((∃ planned, (plan python policy store clock parked severity).2 = .ok planned ∧
        Dispatched request planned) ↔
      (¬ Opens python policy request store ∨ policy.inQuietHours request.now = true →
        boundary policy request.now < request.expiresAt) ∧
      (Opens python policy request store → RemindersHeld policy
        (if policy.inQuietHours request.now then policy.quietEnd request.now else request.now))) ∧
    ∀ planned, (plan python policy store clock parked severity).2 = .ok planned →
      ¬ Dispatched request planned → planned.mode ≠ .sendNow ∧ planned.dueAt = [] := by
  have isPlan : plan python policy store clock parked severity =
      planRequest python policy request store := by
    unfold plan
    rw [admitted]
  have later : request.now < boundary policy request.now := lt_boundary inside
  have expiry := (readRequest_eq_ok admitted).2
  have within (before : boundary policy request.now < request.expiresAt) :
      InCalendar (boundary policy request.now) :=
    ⟨inside.1.trans later.le, before.trans expiry.2⟩
  rw [isPlan]
  by_cases opens : Opens python policy request store
  · cases quiet : policy.inQuietHours request.now with
    | false =>
      obtain ⟨returns, isNow⟩ := planRequest_sendNow calm opens quiet
      refine ⟨⟨fun ⟨planned, isPlan, _⟩ => ⟨?_, fun _ => returns.1 ⟨planned, isPlan⟩⟩,
        fun ⟨_, held⟩ => ?_⟩, fun planned isPlan missed => (missed (.inl (isNow planned isPlan))).elim⟩
      · rintro (joins | never)
        · exact (joins opens).elim
        · cases never
      · obtain ⟨planned, isPlan⟩ := returns.2 (held opens)
        exact ⟨planned, isPlan, .inl (isNow planned isPlan)⟩
    | true =>
      obtain ⟨returns, waits⟩ := planRequest_deferred calm opens quiet
      have isBoundary : boundary policy request.now = policy.quietEnd request.now := if_pos quiet
      rw [isBoundary] at later within ⊢
      refine ⟨⟨fun ⟨planned, isPlan, due⟩ => ⟨fun _ => ?_, fun _ => (returns.1 ⟨planned, isPlan⟩).2⟩,
        fun ⟨before, held⟩ => ?_⟩, fun planned isPlan missed => ⟨(waits planned isPlan).1, ?_⟩⟩
      · exact ((waits planned isPlan).dispatched_iff later.le).1 due
      · have before := before (.inr rfl)
        obtain ⟨planned, isPlan⟩ := returns.2 ⟨within before, held opens⟩
        exact ⟨planned, isPlan, ((waits planned isPlan).dispatched_iff later.le).2 before⟩
      · exact (waits planned isPlan).dueAt_eq_nil fun before =>
          missed (((waits planned isPlan).dispatched_iff later.le).2 before)
  · obtain ⟨returns, waits⟩ := planRequest_grouped calm opens
    refine ⟨⟨fun ⟨planned, isPlan, due⟩ => ⟨fun _ => ?_, fun isOpen => (opens isOpen).elim⟩,
      fun ⟨before, _⟩ => ?_⟩, fun planned isPlan missed => ⟨(waits planned isPlan).1, ?_⟩⟩
    · exact ((waits planned isPlan).dispatched_iff later.le).1 due
    · have before := before (.inl opens)
      obtain ⟨planned, isPlan⟩ := returns.2 (within before)
      exact ⟨planned, isPlan, ((waits planned isPlan).dispatched_iff later.le).2 before⟩
    · exact (waits planned isPlan).dueAt_eq_nil fun before =>
        missed (((waits planned isPlan).dispatched_iff later.le).2 before)

/-! ## An approval at night -/

def catalogPolicy : ApprovalLoadPolicy where
  schemaVersion := "1.0.0"
  groupWindowSeconds := 300
  maxPendingPerAssignee := 20
  reminderOffsetsSeconds := [600, 1200]
  quietStartMinuteUtc := 1320
  quietEndMinuteUtc := 360
  urgentSeverities := {"critical"}
  scanLimit := 1000
  schema_eq := rfl
  window_pos := by decide
  maxPending_pos := by decide
  offsets_pos := by decide
  offsets_increase := by decide
  offsets_few := by decide
  quietStart_lt := by decide
  quietEnd_lt := by decide
  critical_urgent := by decide
  scanLimit_pos := by decide

/-- The texts of one approval and the digest of its group, as the language has them. -/
def plainPython (digest : String) : LoadPython where
  str := fun _ => ""
  casefold := id
  sha256 := fun _ => digest
  fromisoformat := fun text => some (.aware (fromIsoformat text))

/-- An approval that expires two hours after it is parked. -/
def parkedAt (at_ : ℤ) : Json :=
  .object [("status", .text "pending"), ("approval_id", .text "approval-one"),
    ("action_type", .text "ops.restart-service"), ("assignee_oid", .text "approver-one"),
    ("approval_context", .object [("expires_at", .text (isoformat (at_ + 7200000000)))])]

/-- What is read of it. -/
def requestAt (at_ : ℤ) : LoadRequest where
  now := at_
  approvalId := "approval-one"
  assignee := "approver-one"
  actionType := "ops.restart-service"
  expiresAt := at_ + 7200000000
  severity := "medium"

/-- 2026-07-25T12:00:00+00:00. -/
def noon : ℤ := 1784980800000000

/-- The digest of the group at noon. -/
def noonPython : LoadPython :=
  plainPython "e2408fb1317720dc09d3e6957f46e96f19f2c81370eb90286485ff5646138807"

theorem readRequest_noon : readRequest noonPython (.aware noon) (parkedAt noon) "medium" =
    .ok (requestAt noon) := by
  decide +kernel

theorem plan_dispatched_noon :
    ∃ planned, (plan noonPython catalogPolicy {} (.aware noon) (parkedAt noon) "medium").2 =
      .ok planned ∧ Dispatched (requestAt noon) planned := by
  refine (plan_dispatched_iff noonPython catalogPolicy {} (.aware noon) (parkedAt noon) "medium"
    (requestAt noon) readRequest_noon (by decide +kernel) (by decide +kernel)).1.2 ⟨?_, fun _ => ?_⟩
  · rintro (joins | quiet)
    · exact (joins rfl).elim
    · revert quiet
      decide +kernel
  · show ∀ offset ∈ [600, 1200], _
    decide +kernel

/-- 2026-07-25T23:00:00+00:00. -/
def night : ℤ := 1785020400000000

/-- The digest of the group at night. -/
def nightPython : LoadPython :=
  plainPython "de48ebe0d0f832e64915d9a82d0dad45609e3d711e32e7e6fca2d792da98ec34"

/-- **An approval that expires in the quiet hours** is deferred, and never due. -/
theorem deferred_never_due : ¬ ∀ (python : LoadPython) (policy : ApprovalLoadPolicy)
    (store : LoadStore) (clock : Datetime) (parked : Json) (severity : String) (request : LoadRequest),
    readRequest python clock parked severity = .ok request → InCalendar request.now →
      request.now < request.expiresAt → request.urgent policy = false →
        ∃ planned, (plan python policy store clock parked severity).2 = .ok planned ∧
          Dispatched request planned := by
  intro always
  have admitted : readRequest nightPython (.aware night) (parkedAt night) "medium" =
      .ok (requestAt night) := by decide +kernel
  obtain ⟨planned, isPlan, due⟩ := always nightPython catalogPolicy {} (.aware night) (parkedAt night)
    "medium" (requestAt night) admitted (by decide +kernel) (by decide +kernel) (by decide +kernel)
  unfold plan at isPlan
  rw [admitted] at isPlan
  obtain ⟨mode, isDue⟩ := planRequest_eq_ok isPlan
  have opens : Opens nightPython catalogPolicy (requestAt night) {} := rfl
  have isDeferred : modeOf catalogPolicy (requestAt night)
      (anchor nightPython catalogPolicy (requestAt night) {}).1 = .deferred := by
    rw [anchor_created.2 opens]
    decide +kernel
  rw [isDeferred] at mode isDue
  have nothing : dueAt catalogPolicy (requestAt night) .deferred = .ok [] := by decide +kernel
  rw [nothing] at isDue
  unfold Dispatched at due
  rw [mode, ← Except.ok.inj isDue] at due
  rcases due with never | ⟨_, never, -⟩
  · cases never
  · cases never

end Fdai.Core.HilResume
