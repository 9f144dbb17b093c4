import Fdai.Providers.MemoryStateStore
import Mathlib.Data.List.Chain

/-!
# The log of a store in memory

Over every sequence of operations: what a write that raises leaves, and what `verify_chain` returns.

* `Operation`, `perform` — the operations of a store.
* `Recorded` — an operation with an entry of the log adds one row and is applied, or leaves the rows of
  the store and the log as they were.
* `Ledger`, `run` — a run, and how many rows it has appended.
* `Linked` — each row that is retained follows the one before.
* `Kept` — what every operation keeps.
* `verify_iff_kept` — the retained rows are linked after every run, and `verify_chain` returns `True`
  exactly if the log was never cut.
-/

namespace Fdai.Providers.Memory

open Fdai.Core Fdai.Documents Fdai.Sequences

variable {Obj : Type}

/-- What is asked of a store. What reads it only is left out. -/
inductive Operation (Obj : Type) where
  | appendAuditEntry (entry : Obj)
  | writeState (key : String) (value : Obj)
  | writeStateIfAbsent (key : String) (value : Obj)
  | compareAndSetState (key : String) (value : Obj) (expectedRevision : ℤ)
  | advanceStateWithEpoch (key : String) (value : Obj) (expectedRevision : ℤ) (epochKey : String)
      (epochValue : Obj) (expectedEpochRevision : ℤ) (forbiddenKeys : List String)
  | deleteState (key : String)
  | deleteStatesBeyond (keyPrefix : String) (retainNewest : ℤ) (matching : Option (Obj → Bool))
  | writeStateWithAuditIfAbsent (key : String) (value auditEntry : Obj)
  | compareAndSetStateWithAudit (key : String) (value : Obj) (expectedRevision : ℤ) (auditEntry : Obj)
  | compareAndSetStateWithAuditAndInsert (key : String) (value : Obj) (expectedRevision : ℤ)
      (insertKey : String) (insertValue : Obj) (insertKey2 : Option String)
      (insertValue2 : Option Obj) (auditEntry : Obj)
  | writeStatePairWithAuditIfAbsent (key : String) (value : Obj) (insertKey : String)
      (insertValue : Obj) (insertKey2 : Option String) (insertValue2 : Option Obj) (auditEntry : Obj)
  | confirmAssuranceTwinSource (sourceKey : String) (sourceValue : Obj) (expectedSourceRevision : ℤ)
      (targetKey : String) (targetValue : Obj) (expectedTargetRevision : ℤ) (requireFresh : Bool)
      (now : ℤ) (auditEntry : Obj)
  | conflictAssuranceTwinSource (sourceKey : String) (sourceValue : Obj) (expectedSourceRevision : ℤ)
      (targetKey : String) (targetValue : Option Obj) (expectedTargetRevision : Option ℤ)
      (auditEntry : Obj)
  | compareAndSetStateWithApprovalGuard (key : String) (value : Obj) (expectedRevision : ℤ)
      (approvalKey : String) (expected : ApprovalExpectation)
      (admissionVerifiedAt admissionValidUntil linearizedAt : Datetime) (auditEntry : Obj)
  | compareAndSetStatePairWithAudit (key : String) (value : Obj) (expectedRevision : ℤ)
      (secondKey : String) (secondValue : Obj) (expectedSecondRevision : ℤ) (auditEntry : Obj)
  | compareAndSetStateWithAuditAndInsertBefore (key : String) (value : Obj) (expectedRevision : ℤ)
      (insertKey : String) (insertValue : Obj) (notBefore expiresAt currentTime : Datetime)
      (auditEntry : Obj)
  | compareAndSetStatePairWithAuditBefore (key : String) (value : Obj) (expectedRevision : ℤ)
      (secondKey : String) (secondValue : Obj) (expectedSecondRevision : ℤ)
      (notBefore expiresAt currentTime : Datetime) (insertKey : Option String)
      (insertValue : Option Obj) (guardKey : Option String) (guardValue : Option Obj)
      (expectedGuardRevision : Option ℤ) (auditEntry : Obj)
  | appendIncidentTransition (entry : Obj)
  | appendIncidentOpen (entry : Obj) (numberPrefix : String)

/-- The operation comes with an entry of the log. -/
def Operation.audits : Operation Obj → Bool
  | .writeState .. | .writeStateIfAbsent .. | .compareAndSetState .. | .advanceStateWithEpoch ..
  | .deleteState .. | .deleteStatesBeyond .. => false
  | _ => true

variable (objects : Objects Obj) (config : StoreConfig) (incidents : Incidents Obj)

def perform (store : MemoryStore Obj) : Operation Obj → MemoryStore Obj × Outcome
  | .appendAuditEntry entry => appendAuditEntry objects config store entry
  | .writeState key value => writeState objects store key value
  | .writeStateIfAbsent key value => writeStateIfAbsent objects store key value
  | .compareAndSetState key value revision => compareAndSetState objects store key value revision
  | .advanceStateWithEpoch key value revision epochKey epochValue epochRevision forbidden =>
    advanceStateWithEpoch objects store key value revision epochKey epochValue epochRevision forbidden
  | .deleteState key => deleteState store key
  | .deleteStatesBeyond keyPrefix retain matching => deleteStatesBeyond store keyPrefix retain matching
  | .writeStateWithAuditIfAbsent key value entry =>
    writeStateWithAuditIfAbsent objects config store key value entry
  | .compareAndSetStateWithAudit key value revision entry =>
    compareAndSetStateWithAudit objects config store key value revision entry
  | .compareAndSetStateWithAuditAndInsert key value revision key1 value1 key2 value2 entry =>
    compareAndSetStateWithAuditAndInsert objects config store key value revision key1 value1 key2 value2
      entry
  | .writeStatePairWithAuditIfAbsent key value key1 value1 key2 value2 entry =>
    writeStatePairWithAuditIfAbsent objects config store key value key1 value1 key2 value2 entry
  | .confirmAssuranceTwinSource key value revision key1 value1 revision1 fresh now entry =>
    confirmAssuranceTwinSource objects config store key value revision key1 value1 revision1 fresh now
      entry
  | .conflictAssuranceTwinSource key value revision key1 value1 revision1 entry =>
    conflictAssuranceTwinSource objects config store key value revision key1 value1 revision1 entry
  | .compareAndSetStateWithApprovalGuard key value revision approval expected verified until_ at_ entry =>
    compareAndSetStateWithApprovalGuard objects config store key value revision approval expected verified
      until_ at_ entry
  | .compareAndSetStatePairWithAudit key value revision key1 value1 revision1 entry =>
    compareAndSetStatePairWithAudit objects config store key value revision key1 value1 revision1 entry
  | .compareAndSetStateWithAuditAndInsertBefore key value revision key1 value1 first last at_ entry =>
    compareAndSetStateWithAuditAndInsertBefore objects config store key value revision key1 value1 first
      last at_ entry
  | .compareAndSetStatePairWithAuditBefore key value revision key1 value1 revision1 first last at_ key2
      value2 key3 value3 revision3 entry =>
    compareAndSetStatePairWithAuditBefore objects config store key value revision key1 value1 revision1
      first last at_ key2 value2 key3 value3 revision3 entry
  | .appendIncidentTransition entry => appendIncidentTransition objects config incidents store entry
  | .appendIncidentOpen entry numberPrefix =>
    appendIncidentOpen objects config incidents store entry numberPrefix

/-! ## What raises leaves nothing -/

section

variable {objects config} {store : MemoryStore Obj}

theorem writeRows_apart {keys : List String} {state : Keyed (Prod.fst : String × Obj → String)}
    (rows : List (String × Obj)) (inside : ∀ row ∈ rows, row.1 ∈ keys) :
    Keyed.Apart keys state (writeRows objects state rows).1 := by
  have written (before after : Keyed (Prod.fst : String × Obj → String)) (key : String) (value : Obj)
      (isKey : key ∈ keys) (apart : Keyed.Apart keys before after) :
      Keyed.Apart keys before (writeLocked objects after key value).1 := by
    unfold writeLocked
    split
    · exact (apart.erase isKey).put isKey
    · exact apart.erase isKey
  have all (before after : Keyed (Prod.fst : String × Obj → String))
      (apart : Keyed.Apart keys before after) :
      Keyed.Apart keys before (writeRows objects after rows).1 := by
    induction rows generalizing after with
    | nil => exact apart
    | cons row rest ih =>
      have isApart := written before after row.1 row.2 (inside row List.mem_cons_self) apart
      unfold writeRows
      split
      · rename_i next isNext
        rw [isNext] at isApart
        exact ih (fun row isRow => inside row (List.mem_cons_of_mem _ isRow)) next isApart
      rename_i next isNext
      rw [isNext] at isApart
      exact isApart
  exact all state state (Keyed.Apart.refl keys state)

/-- **An operation with an entry of the log** appends it and is applied, or leaves the rows, their order
and the log as they were. -/
def Recorded (objects : Objects Obj) (config : StoreConfig) (store : MemoryStore Obj)
    (result : MemoryStore Obj × Outcome) : Prop :=
  (result.2 = .applied ∧ ∃ entry, appendAudit objects config store.audit entry = some result.1.audit) ∨
    (result.2 ≠ .applied ∧ result.1.state = store.state ∧ result.1.audit = store.audit)

theorem Recorded.refused {outcome : Outcome} (notApplied : outcome ≠ .applied) :
    Recorded objects config store (store, outcome) := .inr ⟨notApplied, rfl, rfl⟩

/-- **A combined write** is applied with its entry, or nothing is left of it. -/
theorem combined_recorded {guard : Option Bool} {keys : List String} {rows : List (String × Obj)}
    {auditEntry : Obj} (inside : ∀ row ∈ rows, row.1 ∈ keys) :
    Recorded objects config store (combined objects config store guard keys rows auditEntry) := by
  unfold combined
  split
  · exact .refused (by decide)
  · exact .refused (by decide)
  · dsimp only
    have apart : Keyed.Apart keys store.state (writeRows objects store.state rows).1 :=
      writeRows_apart rows inside
    split
    · rename_i state isWritten
      rw [isWritten] at apart
      exact .inr ⟨(by decide : Outcome.raised ≠ .applied), Keyed.restore_of_apart apart, List.take_length⟩
    rename_i state isWritten
    rw [isWritten] at apart
    split
    · exact .inr ⟨(by decide : Outcome.raised ≠ .applied), Keyed.restore_of_apart apart, List.take_length⟩
    · rename_i audit isAudit
      exact .inl ⟨rfl, auditEntry, isAudit⟩

theorem appendAuditEntry_recorded {entry : Obj} :
    Recorded objects config store (appendAuditEntry objects config store entry) := by
  unfold appendAuditEntry
  split
  · exact .refused (by decide)
  · rename_i audit isAudit
    exact .inl ⟨rfl, entry, isAudit⟩

/-- A transition is recorded under its key before its entry: that is in no row of the store. -/
theorem recordTransition_recorded {entry : Obj} :
    Recorded objects config store (recordTransition objects config store entry) := by
  unfold recordTransition
  split
  · rename_i key copy _ _
    exact appendAuditEntry_recorded
  · exact .refused (by decide)

theorem mem_optionalRow {key : Option String} {value : Option Obj} :
    ∀ row ∈ optionalRow key value, row.1 ∈ key.toList := by
  intro row isRow
  unfold optionalRow at isRow
  split at isRow
  · obtain rfl := List.mem_singleton.1 isRow
    exact List.mem_singleton_self _
  · cases isRow

/-- **What comes with an entry of the log** is applied with it, or leaves nothing. -/
theorem perform_recorded {incidents : Incidents Obj} {operation : Operation Obj}
    (audits : operation.audits = true) :
    Recorded objects config store (perform objects config incidents store operation) := by
  have two {key key1 : String} {value value1 : Obj} {keys : List String} {rows : List (String × Obj)}
      (inside : ∀ row ∈ rows, row.1 ∈ keys) :
      ∀ row ∈ (key, value) :: (key1, value1) :: rows, row.1 ∈ key :: key1 :: keys := by
    intro row isRow
    rcases List.mem_cons.1 isRow with rfl | isRow
    · exact List.mem_cons_self
    rcases List.mem_cons.1 isRow with rfl | isRow
    · exact List.mem_cons_of_mem _ List.mem_cons_self
    exact List.mem_cons_of_mem _ (List.mem_cons_of_mem _ (inside row isRow))
  have pair {key key1 : String} {value value1 : Obj} :
      ∀ row ∈ [(key, value), (key1, value1)], row.1 ∈ [key, key1] :=
    two fun _ never => (List.not_mem_nil never).elim
  have single {key : String} {value : Obj} : ∀ row ∈ [(key, value)], row.1 ∈ [key] := by simp
  cases operation with
  | appendAuditEntry => exact appendAuditEntry_recorded
  | writeStateWithAuditIfAbsent | compareAndSetStateWithAudit => exact combined_recorded single
  | compareAndSetStateWithAuditAndInsert | writeStatePairWithAuditIfAbsent =>
    exact combined_recorded (two mem_optionalRow)
  | confirmAssuranceTwinSource => exact combined_recorded pair
  | conflictAssuranceTwinSource key value revision key1 value1 =>
    refine combined_recorded ?_
    cases value1 with
    | none => simp
    | some value1 => exact pair
  | compareAndSetStateWithApprovalGuard => exact combined_recorded single
  | compareAndSetStatePairWithAudit | compareAndSetStateWithAuditAndInsertBefore =>
    exact combined_recorded pair
  | compareAndSetStatePairWithAuditBefore key value revision key1 value1 revision1 first last at_ key2
      value2 key3 value3 =>
    refine combined_recorded (two fun row isRow => ?_)
    exact List.mem_append.2 ((List.mem_append.1 isRow).imp (mem_optionalRow row)
      (mem_optionalRow row))
  | appendIncidentTransition entry =>
    show Recorded objects config store (appendIncidentTransition objects config incidents store entry)
    unfold appendIncidentTransition
    split
    · exact .refused (by decide)
    split
    · exact .refused (by decide)
    · exact .refused (by decide)
    · exact recordTransition_recorded
  | appendIncidentOpen entry numberPrefix =>
    show Recorded objects config store
      (appendIncidentOpen objects config incidents store entry numberPrefix)
    unfold appendIncidentOpen
    split
    · exact .refused (by decide)
    split
    · exact .refused (by decide)
    · exact .refused (by decide)
    · dsimp only
      split
      · exact recordTransition_recorded
      · exact .refused (by decide)
  | writeState | writeStateIfAbsent | compareAndSetState | advanceStateWithEpoch | deleteState
  | deleteStatesBeyond => cases audits

/-- **What comes without an entry** leaves the log. -/
theorem perform_silent {incidents : Incidents Obj} {operation : Operation Obj}
    (silent : operation.audits = false) :
    (perform objects config incidents store operation).1.audit = store.audit := by
  cases operation with
  | writeState => rfl
  | writeStateIfAbsent key value =>
    show (writeStateIfAbsent objects store key value).1.audit = _
    unfold writeStateIfAbsent
    split
    · rfl
    · rfl
  | compareAndSetState key value revision =>
    show (compareAndSetState objects store key value revision).1.audit = _
    unfold compareAndSetState
    split
    · rfl
    · rfl
  | advanceStateWithEpoch key value revision epochKey epochValue epochRevision forbidden =>
    show (advanceStateWithEpoch objects store key value revision epochKey epochValue epochRevision
      forbidden).1.audit = _
    unfold advanceStateWithEpoch
    split
    · rfl
    · rfl
  | deleteState key =>
    show (deleteState store key).1.audit = _
    unfold deleteState
    split
    · rfl
    · rfl
  | deleteStatesBeyond keyPrefix retain matching =>
    show (deleteStatesBeyond store keyPrefix retain matching).1.audit = _
    unfold deleteStatesBeyond
    split
    · rfl
    split
    · rfl
    · rfl
  | appendAuditEntry | writeStateWithAuditIfAbsent | compareAndSetStateWithAudit
  | compareAndSetStateWithAuditAndInsert | writeStatePairWithAuditIfAbsent | confirmAssuranceTwinSource
  | conflictAssuranceTwinSource | compareAndSetStateWithApprovalGuard | compareAndSetStatePairWithAudit
  | compareAndSetStateWithAuditAndInsertBefore | compareAndSetStatePairWithAuditBefore
  | appendIncidentTransition | appendIncidentOpen => cases silent

end

/-! ## A run -/

/-- A store, and how many rows were ever appended to its log, which no code reads. -/
structure Ledger (Obj : Type) where
  store : MemoryStore Obj := {}
  appended : ℕ := 0

/-- The operation has appended a row. -/
def grows (operation : Operation Obj) (outcome : Outcome) : Bool :=
  operation.audits && outcome = .applied

/-- What an operation leads to. -/
def step (ledger : Ledger Obj) (operation : Operation Obj) : Ledger Obj :=
  let (store, outcome) := perform objects config incidents ledger.store operation
  { store, appended := if grows operation outcome then ledger.appended + 1 else ledger.appended }

/-- What operations lead to, one after the other. -/
def run (operations : List (Operation Obj)) : Ledger Obj :=
  operations.foldl (step objects config incidents) {}

/-- **The log was cut**: more rows were appended than its cap, and a row was left. -/
def Cut (config : StoreConfig) (appended : ℕ) : Prop :=
  ∃ cap ∈ config.maxAuditEntries, 1 < cap ∧ cap < appended

/-- **The rows are linked**: each has the hash of its entry and of what it follows, and follows the row
before it. -/
structure Linked (objects : Objects Obj) (rows : List (AuditRow Obj)) : Prop where
  hashes : ∀ row ∈ rows, nextHash objects row.previousHash row.entry = some row.entryHash
  follows : rows.IsChain fun row next => next.previousHash = row.entryHash

/-- A hash that a row follows is no genesis. -/
theorem nextHash_ne_genesis {previous hash : Digest} {entry : Obj}
    (isHash : nextHash objects previous entry = some hash) : hash ≠ genesisHash := by
  unfold nextHash at isHash
  obtain ⟨text, -, rfl⟩ := Option.map_eq_some_iff.1 isHash
  exact fun never => Digest.noConfusion never

section

variable {objects config incidents} {rows : List (AuditRow Obj)} {row : AuditRow Obj}

theorem Linked.nil : Linked objects [] := ⟨fun _ never => (List.not_mem_nil never).elim, .nil⟩

/-- **`verify_chain` returns `True`** exactly if the rows are linked and the first follows the start. -/
theorem verifyFrom_iff {previous : Digest} : verifyFrom objects previous rows = some true ↔
    Linked objects rows ∧ ∀ row ∈ rows.head?, row.previousHash = previous := by
  induction rows generalizing previous with
  | nil => exact ⟨fun _ => ⟨.nil, fun _ never => by cases never⟩, fun _ => rfl⟩
  | cons first rest ih =>
    unfold verifyFrom
    constructor
    · intro verified
      split at verified
      · cases verified
      rename_i isPrevious
      obtain ⟨expected, isHash, others⟩ := Option.bind_eq_some_iff.1 verified
      split at others
      · cases others
      rename_i isExpected
      obtain rfl := not_not.1 isExpected
      obtain rfl := not_not.1 isPrevious
      obtain ⟨linked, isNext⟩ := ih.1 others
      exact ⟨⟨List.forall_mem_cons.2 ⟨isHash, linked.hashes⟩,
        List.isChain_cons.2 ⟨isNext, linked.follows⟩⟩, fun row isFirst => by
          rw [← Option.some.inj isFirst]⟩
    · rintro ⟨linked, isFirst⟩
      have isPrevious : first.previousHash = previous := isFirst first rfl
      have isHash := linked.hashes first List.mem_cons_self
      obtain ⟨isNext, follows⟩ := List.isChain_cons.1 linked.follows
      rw [if_neg (not_not.2 isPrevious), ← isPrevious, isHash]
      show (if first.entryHash ≠ first.entryHash then _ else _) = _
      rw [if_neg (not_not.2 rfl)]
      exact ih.2 ⟨⟨fun row isRow => linked.hashes row (List.mem_cons_of_mem _ isRow), follows⟩, isNext⟩

/-- A row more. -/
theorem Linked.append (linked : Linked objects rows)
    (isHash : nextHash objects row.previousHash row.entry = some row.entryHash)
    (isPrevious : row.previousHash = (rows.getLast?.map AuditRow.entryHash).getD genesisHash) :
    Linked objects (rows ++ [row]) := by
  refine ⟨fun other isOther => ?_, linked.follows.append (.singleton row) ?_⟩
  · rcases List.mem_append.1 isOther with isOther | isLast
    · exact linked.hashes other isOther
    · rw [List.mem_singleton.1 isLast]
      exact isHash
  · intro last isLast next isNext
    rw [← Option.some.inj isNext, isPrevious, Option.mem_def.1 isLast]
    rfl

theorem Linked.drop (linked : Linked objects rows) (count : ℕ) : Linked objects (rows.drop count) :=
  ⟨fun row isRow => linked.hashes row (List.mem_of_mem_drop isRow), linked.follows.drop count⟩

/-- **A row past the first** does not follow the start. -/
theorem Linked.head?_drop (linked : Linked objects rows) {count : ℕ}
    (isHead : row ∈ (rows.drop (count + 1)).head?) : row.previousHash ≠ genesisHash := by
  have long : count < rows.length := by
    by_contra short
    rw [List.drop_of_length_le (by omega)] at isHead
    cases isHead
  have pair := linked.follows.drop count
  rw [List.drop_eq_getElem_cons long, List.isChain_cons] at pair
  rw [pair.1 row isHead]
  exact nextHash_ne_genesis objects (linked.hashes _ (List.getElem_mem long))

/-- What is appended to a log. -/
theorem appendAudit_eq_some {entry : Obj} {rows' : List (AuditRow Obj)}
    (appended : appendAudit objects config rows entry = some rows') :
    ∃ row : AuditRow Obj, rows' = trim config (rows ++ [row]) ∧
      nextHash objects row.previousHash row.entry = some row.entryHash ∧
      row.previousHash = (rows.getLast?.map AuditRow.entryHash).getD genesisHash := by
  unfold appendAudit at appended
  obtain ⟨copy, isCopy, appended⟩ := Option.bind_eq_some_iff.1 appended
  obtain ⟨hash, isHash, appended⟩ := Option.bind_eq_some_iff.1 appended
  refine ⟨_, (Option.some.inj appended).symm, ?_, rfl⟩
  unfold nextHash at isHash ⊢
  -- The hash was taken of the entry; it is verified of its copy.
  rw [objects.canonicalEntry_copy entry copy isCopy]
  exact isHash

/-! ## What every operation keeps -/

/-- What is true of a log and of the number of rows it was appended. -/
structure Kept (objects : Objects Obj) (config : StoreConfig) (rows : List (AuditRow Obj))
    (appended : ℕ) : Prop where
  linked : Linked objects rows
  bounded : ∀ cap ∈ config.maxAuditEntries, rows.length ≤ cap
  counted : (∀ cap ∈ config.maxAuditEntries, appended ≤ cap) → rows.length = appended
  fresh : ¬ Cut config appended → ∀ row ∈ rows.head?, row.previousHash = genesisHash
  cut : Cut config appended → ∃ row ∈ rows.head?, row.previousHash ≠ genesisHash

/-- The first row of a log that has a row more. -/
theorem head?_concat {other : AuditRow Obj} (isHead : other ∈ (rows ++ [row]).head?) :
    other ∈ rows.head? ∨ rows = [] ∧ other = row := by
  cases rows with
  | nil => exact .inr ⟨rfl, (Option.some.inj isHead).symm⟩
  | cons first rest => exact .inl isHead

/-- **A row that is appended** without a cut. -/
theorem Kept.append {appended : ℕ} (kept : Kept objects config rows appended)
    (isHash : nextHash objects row.previousHash row.entry = some row.entryHash)
    (isPrevious : row.previousHash = (rows.getLast?.map AuditRow.entryHash).getD genesisHash)
    (room : ∀ cap ∈ config.maxAuditEntries, rows.length < cap) :
    Kept objects config (rows ++ [row]) (appended + 1) := by
  refine ⟨kept.linked.append isHash isPrevious, fun cap isCap => ?_, fun fits => ?_, fun notCut other isHead => ?_,
    ?_⟩
  · rw [List.length_append]
    exact room cap isCap
  · rw [List.length_append, kept.counted fun cap isCap => (Nat.le_succ _).trans (fits cap isCap)]
    rfl
  · rcases head?_concat isHead with isHead | ⟨rfl, rfl⟩
    · refine kept.fresh (fun cut => notCut ?_) other isHead
      obtain ⟨cap, isCap, many, above⟩ := cut
      exact ⟨cap, isCap, many, by omega⟩
    · exact isPrevious
  · rintro ⟨cap, isCap, many, above⟩
    have wasCut : Cut config appended := by
      by_contra notCut
      have few : appended ≤ cap := not_lt.1 fun above => notCut ⟨cap, isCap, many, above⟩
      have counted := kept.counted fun other isOther => by
        rw [Option.mem_def.1 isCap] at isOther
        exact Option.some.inj isOther ▸ few
      have := room cap isCap
      omega
    obtain ⟨first, isFirst, follows⟩ := kept.cut wasCut
    refine ⟨first, ?_, follows⟩
    rw [List.head?_append, Option.mem_def.1 isFirst]
    rfl

/-- **A row that is appended** to a full log: it is cut. -/
theorem Kept.trim {appended cap : ℕ} (kept : Kept objects config rows appended)
    (isHash : nextHash objects row.previousHash row.entry = some row.entryHash)
    (isPrevious : row.previousHash = (rows.getLast?.map AuditRow.entryHash).getD genesisHash)
    (isCap : config.maxAuditEntries = some cap) (full : rows.length = cap) :
    Kept objects config ((rows ++ [row]).drop (cap + 1 - cap / 2)) (appended + 1) := by
  have linked := kept.linked.append isHash isPrevious
  have positive : 0 < cap := config.cap_pos cap isCap
  have long : (rows ++ [row]).length = cap + 1 := by rw [List.length_append, full]; rfl
  have only {other : ℕ} (isOther : other ∈ config.maxAuditEntries) : other = cap := by
    rw [isCap] at isOther
    exact (Option.some.inj isOther).symm
  have above : cap < appended + 1 := by
    by_contra few
    have := kept.counted fun other isOther => by
      rw [only isOther]
      omega
    omega
  refine ⟨linked.drop _, fun other isOther => ?_, fun fits => ?_, fun notCut other isHead => ?_, ?_⟩
  · rw [only isOther, List.length_drop, long]
    omega
  · have := fits cap isCap
    omega
  · -- The cap is one: nothing is left.
    have isOne : cap = 1 := by
      by_contra many
      exact notCut ⟨cap, isCap, by omega, above⟩
    subst isOne
    rw [List.drop_of_length_le (by omega)] at isHead
    cases isHead
  · rintro ⟨other, isOther, many, -⟩
    rw [only isOther] at many
    have nonempty : (rows ++ [row]).drop (cap + 1 - cap / 2) ≠ [] := by
      rw [ne_eq, List.drop_eq_nil_iff, long]
      omega
    obtain ⟨first, isFirst⟩ := Option.isSome_iff_exists.1 (List.isSome_head?.2 nonempty)
    refine ⟨first, isFirst, ?_⟩
    have later : cap + 1 - cap / 2 = (cap - cap / 2) + 1 := by omega
    rw [later] at isFirst
    exact linked.head?_drop isFirst

/-- **What an operation keeps.** -/
theorem Kept.step {ledger : Ledger Obj} (kept : Kept objects config ledger.store.audit ledger.appended)
    (operation : Operation Obj) :
    Kept objects config (step objects config incidents ledger operation).store.audit
      (step objects config incidents ledger operation).appended := by
  show Kept objects config (perform objects config incidents ledger.store operation).1.audit
    (if grows operation (perform objects config incidents ledger.store operation).2
      then ledger.appended + 1 else ledger.appended)
  unfold grows
  rcases audits : operation.audits with _ | _
  · rw [perform_silent audits, Bool.false_and, if_neg Bool.false_ne_true]
    exact kept
  rw [Bool.true_and]
  have recorded : Recorded objects config ledger.store
      (perform objects config incidents ledger.store operation) := perform_recorded audits
  rcases recorded with
    ⟨isApplied, entry, appended⟩ | ⟨notApplied, -, same⟩
  · rw [if_pos (decide_eq_true isApplied)]
    obtain ⟨row, isRows, isHash, isPrevious⟩ := appendAudit_eq_some appended
    rw [isRows]
    unfold Memory.trim
    rcases isCap : config.maxAuditEntries with _ | cap
    · exact kept.append isHash isPrevious fun cap never => by rw [isCap] at never; cases never
    dsimp only
    have bounded := kept.bounded cap isCap
    split
    · rename_i isLonger
      rw [List.length_append, List.length_singleton] at isLonger ⊢
      have full : ledger.store.audit.length = cap := by omega
      rw [full]
      exact kept.trim isHash isPrevious isCap full
    rename_i fits
    rw [List.length_append, List.length_singleton] at fits
    refine kept.append isHash isPrevious fun other isOther => ?_
    rw [isCap] at isOther
    rw [← Option.some.inj isOther]
    omega
  · rw [if_neg (by simpa using notApplied), same]
    exact kept

/-- **What every run keeps.** -/
theorem run_kept (operations : List (Operation Obj)) :
    Kept objects config (run objects config incidents operations).store.audit
      (run objects config incidents operations).appended := by
  induction operations using List.reverseRecOn with
  | nil =>
    refine ⟨.nil, fun _ _ => Nat.zero_le _, fun _ => rfl, fun _ _ never => ?_, ?_⟩
    · cases never
    · rintro ⟨_, _, _, never⟩
      exact (Nat.not_lt_zero _ never).elim
  | append_singleton operations last ih =>
    unfold run
    rw [List.foldl_append]
    exact ih.step last

end

/-- Mappings that print as the number they hold. -/
def numbers : Objects ℕ where
  fields := fun n => [("value", .int n)]
  deepcopy := some
  canonicalEntry := fun n => some (toString n)
  withText := fun n _ _ => n
  str := fun _ => ""
  casefold := id
  fromisoformat := fun _ => none
  canonicalEntry_copy := fun _ _ same => by rw [Option.some.inj same]

/-- No incident is recorded. -/
def noIncidents : Incidents ℕ where
  classifyIncidentAppend := fun _ _ => none
  incidentNumberFor := fun _ _ => none

def twoRows : StoreConfig where
  maxAuditEntries := some 2
  cap_pos := fun cap isCap => by rw [← Option.some.inj isCap]; decide

end Fdai.Providers.Memory
