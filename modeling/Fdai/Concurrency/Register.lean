import Mathlib.Data.List.Induction
import Mathlib.Data.List.Nodup
import Fdai.Concurrency.Triple

/-!
# Records under compare-and-set

Replicas that share stored records update them in the same way: read a record, decide from what was
read what to write in its place, and write on condition that the stored revision is still the one
that was read. If another replica was faster, they start again, so many times.

`update` is that loop. Since a written record has a later revision than the one it replaces, a
conditional write succeeds only on the very record that was read. So whatever the replicas do and
wherever they crash, each record goes through a sequence of writes, each decided from the one
before it.

* `Path` — such a sequence, oldest write first; `Path.induction` — what every write keeps.
* `Follows` — a program that writes only what was decided from a record it has read.
* `Registers.run_path` — **a run of any number of such programs leaves a path.**

Each write may carry an entry (an audit record) that is stored with it. A component may make
other calls besides, to a part of the world that is not such a record.
-/

namespace Fdai.Concurrency

open Program

/-- A place in a list with one more at its end: the end, or a place before it. -/
theorem concat_eq_append_cons {α : Type} {log before after : List α} {last entry : α}
    (same : log ++ [last] = before ++ entry :: after) :
    (log = before ∧ last = entry ∧ after = []) ∨
      ∃ earlier, after = earlier ++ [last] ∧ log = before ++ entry :: earlier := by
  rcases List.eq_nil_or_concat' after with rfl | ⟨earlier, final, rfl⟩
  · obtain ⟨sameBefore, sameLast⟩ := List.append_inj' same rfl
    exact .inl ⟨sameBefore, (List.cons.inj sameLast).1, rfl⟩
  have longer : log ++ [last] = (before ++ entry :: earlier) ++ [final] := by
    rw [same, List.append_assoc, List.cons_append]
  obtain ⟨sameBefore, sameLast⟩ := List.append_inj' longer rfl
  obtain rfl := (List.cons.inj sameLast).1
  exact .inr ⟨earlier, rfl, sameBefore⟩

/-- The record after some writes. -/
def lastWritten {R E : Type} (start : Option R) (log : List (R × E)) : Option R :=
  (log.getLast?.map Prod.fst).or start

section Path

variable {R E : Type} {start : Option R} {log : List (R × E)}

@[simp] theorem lastWritten_nil : lastWritten start ([] : List (R × E)) = start := rfl

@[simp] theorem lastWritten_concat (v : R) (e : E) :
    lastWritten start (log ++ [(v, e)]) = some v := by
  simp [lastWritten]

@[simp] theorem lastWritten_singleton (v : R) (e : E) : lastWritten start [(v, e)] = some v := rfl

/-- Each write is a step from the writes before it. -/
def Path (step : List (R × E) → R → E → Prop) (log : List (R × E)) : Prop :=
  ∀ before v e after, log = before ++ (v, e) :: after → step before v e

variable {step : List (R × E) → R → E → Prop}

theorem path_nil : Path step ([] : List (R × E)) := by
  intro before v e after same
  simp at same

theorem path_concat {v : R} {e : E} :
    Path step (log ++ [(v, e)]) ↔ Path step log ∧ step log v e := by
  constructor
  · intro path
    refine ⟨fun before v' e' after same => ?_, path log v e [] rfl⟩
    exact path before v' e' (after ++ [(v, e)]) (by simp [same])
  · rintro ⟨path, last⟩ before v' e' after same
    rcases concat_eq_append_cons same with ⟨rfl, isLast, -⟩ | ⟨rest, -, earlier⟩
    · obtain ⟨rfl, rfl⟩ := Prod.mk.inj isLast
      exact last
    · exact path before v' e' rest earlier

/-- **Induction along a path**: what each step keeps. -/
theorem Path.induction (holds : List (R × E) → Prop) (path : Path step log) (first : holds [])
    (next : ∀ before v e, Path step before → holds before → step before v e →
      holds (before ++ [(v, e)])) : holds log := by
  induction log using List.reverseRecOn with
  | nil => exact first
  | append_singleton before entry ih =>
    obtain ⟨v, e⟩ := entry
    obtain ⟨earlier, last⟩ := path_concat.1 path
    exact next before v e earlier (ih earlier) last

theorem Path.mono {step' : List (R × E) → R → E → Prop} (path : Path step log)
    (weaker : ∀ before v e, step before v e → step' before v e) : Path step' log :=
  fun before v e after same => weaker before v e (path before v e after same)

/-- A path ends with its last write. -/
theorem lastWritten_eq_some {v : R} (last : lastWritten start log = some v) :
    (log = [] ∧ start = some v) ∨ ∃ before e, log = before ++ [(v, e)] := by
  rcases List.eq_nil_or_concat' log with rfl | ⟨before, ⟨v', e⟩, rfl⟩
  · exact .inl ⟨rfl, last⟩
  · obtain rfl : v' = v := by simpa using last
    exact .inr ⟨before, e, rfl⟩

end Path

/-! ## The calls -/

/-- What a replica calls: the three operations on a record, and whatever else. -/
inductive RegisterOp (K R E Other : Type) where
  | read (key : K)
  | writeIfAbsent (key : K) (value : R) (entry : E)
  | compareAndSet (key : K) (value : R) (expectedRevision : ℕ) (entry : E)
  | other (request : Other)

@[reducible] def RegisterOp.Ans {K R E Other : Type} (Answer : Other → Type) :
    RegisterOp K R E Other → Type
  | .read _ => Option R
  | .writeIfAbsent _ _ _ | .compareAndSet _ _ _ _ => Bool
  | .other request => Answer request

/-- The writes of one record. -/
def logOf {K R E : Type} [DecidableEq K] (key : K) (log : List (K × R × E)) : List (R × E) :=
  log.filterMap fun (written, write) => if written = key then some write else none

/-- The records, as what they were at the start and what was written since; and the rest of the
world. -/
structure RegisterWorld (K R E τ : Type) where
  start : K → Option R := fun _ => none
  log : List (K × R × E) := []
  rest : τ

section World

variable {K R E τ : Type} [DecidableEq K]

@[simp] theorem logOf_nil (key : K) : logOf key ([] : List (K × R × E)) = [] := rfl

@[simp] theorem logOf_concat_self (key : K) (log : List (K × R × E)) (write : R × E) :
    logOf key (log ++ [(key, write)]) = logOf key log ++ [write] := by
  simp [logOf]

@[simp] theorem logOf_concat_ne {key written : K} (apart : written ≠ key)
    (log : List (K × R × E)) (write : R × E) :
    logOf key (log ++ [(written, write)]) = logOf key log := by
  simp [logOf, apart]

theorem mem_logOf {key : K} {log : List (K × R × E)} {write : R × E} :
    write ∈ logOf key log ↔ (key, write) ∈ log := by
  simp [logOf]

theorem logOf_prefix (key : K) {log more : List (K × R × E)} (grows : log <+: more) :
    logOf key log <+: logOf key more := by
  obtain ⟨rest, rfl⟩ := grows
  exact ⟨logOf key rest, by simp [logOf]⟩

/-- The stored record. -/
def RegisterWorld.current (w : RegisterWorld K R E τ) (key : K) : Option R :=
  lastWritten (w.start key) (logOf key w.log)

/-- Every record that was ever stored under the key. -/
def RegisterWorld.stored (w : RegisterWorld K R E τ) (key : K) : List R :=
  (w.start key).toList ++ (logOf key w.log).map Prod.fst

/-- A record is written. -/
def RegisterWorld.write (w : RegisterWorld K R E τ) (key : K) (value : R) (entry : E) :
    RegisterWorld K R E τ :=
  { w with log := w.log ++ [(key, value, entry)] }

end World

/-- The parts of a component of this kind. -/
structure Registers (K R E τ Other Oracle : Type) (Answer : Other → Type) where
  /-- The revision of a record. -/
  revision : R → ℕ
  /-- A write that depends on more than the record may be refused for it. -/
  lets : Oracle → E → Bool
  /-- The other calls. -/
  other : Oracle → τ → (request : Other) → Answer request × τ

namespace Registers

variable {K R E τ Other Oracle ε α Call : Type} {Answer : Other → Type} [DecidableEq K]
variable (parts : Registers K R E τ Other Oracle Answer)

/-- The effect of one call. -/
def perform (oracle : Oracle) (w : RegisterWorld K R E τ) :
    (op : RegisterOp K R E Other) → op.Ans Answer × RegisterWorld K R E τ
  | .read key => (w.current key, w)
  | .writeIfAbsent key value entry =>
    if (w.current key).isNone && parts.lets oracle entry then (true, w.write key value entry)
    else (false, w)
  | .compareAndSet key value expectedRevision entry =>
    if (w.current key).map parts.revision = some expectedRevision && parts.lets oracle entry then
      (true, w.write key value entry)
    else (false, w)
  | .other request => ((parts.other oracle w.rest request).1,
      { w with rest := (parts.other oracle w.rest request).2 })

/-- The component, with the program each of its requests runs. -/
def machine (program : ℕ → Call → Program (RegisterOp K R E Other) (RegisterOp.Ans Answer) ε α) :
    Machine (RegisterOp K R E Other) (RegisterOp.Ans Answer) (RegisterWorld K R E τ) ε α Call
      Oracle :=
  ⟨parts.perform, program⟩

end Registers

/-- What a replica decides from the record it has read: to finish, or to write a record with an
entry and, if that succeeds, to finish. -/
inductive Decision (R E ε α : Type) where
  | done (result : Except ε α)
  | write (value : R) (entry : E) (result : Except ε α)

def Decision.ofExcept {R E ε α : Type} : Except ε (Decision R E ε α) → Decision R E ε α
  | .ok decision => decision
  | .error error => .done (.error error)

theorem Decision.ofExcept_eq_write {R E ε α : Type} {decided : Except ε (Decision R E ε α)}
    {value : R} {entry : E} {result : Except ε α} :
    Decision.ofExcept decided = .write value entry result ↔
      decided = .ok (.write value entry result) := by
  cases decided with
  | error error | ok decision => simp [Decision.ofExcept]

section Loop

variable {K R E τ Other Oracle ε α Call : Type} {Answer : Other → Type}

def readRecord (key : K) : Program (RegisterOp K R E Other) (RegisterOp.Ans Answer) ε (Option R) :=
  invoke (RegisterOp.read key)

/-- Write in place of the record that was read. -/
def replace (revision : R → ℕ) (key : K) (current : Option R) (value : R) (entry : E) :
    Program (RegisterOp K R E Other) (RegisterOp.Ans Answer) ε Bool :=
  match current with
  | none => invoke (RegisterOp.writeIfAbsent key value entry)
  | some current => invoke (RegisterOp.compareAndSet key value (revision current) entry)

/-- One attempt: what was decided from a record is done, or tried again. -/
def attempt (revision : R → ℕ) (key : K) (current : Option R)
    (retry : Program (RegisterOp K R E Other) (RegisterOp.Ans Answer) ε α) :
    Decision R E ε α → Program (RegisterOp K R E Other) (RegisterOp.Ans Answer) ε α
  | .done result => Program.done result
  | .write value entry result => do
    let written ← replace revision key current value entry
    if written then Program.done result else retry

/-- **The loop of an update**, of so many attempts. -/
def update (revision : R → ℕ) (key : K) (decide : Option R → Decision R E ε α) (exhausted : ε) :
    ℕ → Program (RegisterOp K R E Other) (RegisterOp.Ans Answer) ε α
  | 0 => raise exhausted
  | attempts + 1 => do
    let current ← readRecord key
    attempt revision key current (update revision key decide exhausted attempts) (decide current)

end Loop

/-! ## Programs that follow the record -/

namespace Registers

variable {K R E τ Other Oracle ε α β Call : Type} {Answer : Other → Type} [DecidableEq K]
variable (parts : Registers K R E τ Other Oracle Answer)
variable (Allowed : K → Option R → R → E → Prop) (Ok : K → List (R × E) → R → E → Prop)

/-- What a replica may call: any read, and a write that some record it has read allows. -/
inductive Permit (w : RegisterWorld K R E τ) : RegisterOp K R E Other → Prop where
  | read (key : K) : Permit w (.read key)
  | first {key : K} {value : R} {entry : E} (allowed : Allowed key none value entry) :
      Permit w (.writeIfAbsent key value entry)
  | next {key : K} {current value : R} {entry : E} (seen : current ∈ w.stored key)
      (allowed : Allowed key (some current) value entry) :
      Permit w (.compareAndSet key value (parts.revision current) entry)
  | other (request : Other) : Permit w (.other request)

/-- A condition on the writes of a run that take effect, by the writes before them. -/
def Observed (w : RegisterWorld K R E τ) : RegisterOp K R E Other → Prop
  | .writeIfAbsent key value entry => w.current key = none → Ok key (logOf key w.log) value entry
  | .compareAndSet key value expectedRevision entry =>
    (w.current key).map parts.revision = some expectedRevision →
      Ok key (logOf key w.log) value entry
  | _ => True

instance [∀ key log value entry, Decidable (Ok key log value entry)] (w : RegisterWorld K R E τ) :
    (op : RegisterOp K R E Other) → Decidable (parts.Observed Ok w op)
  | .writeIfAbsent key value entry =>
    match absent : w.current key with
    | none => decidable_of_iff (Ok key (logOf key w.log) value entry)
        ⟨fun ok _ => ok, fun ok => ok absent⟩
    | some _ => isTrue fun none => by rw [absent] at none; cases none
  | .compareAndSet key value expectedRevision entry =>
    inferInstanceAs (Decidable ((w.current key).map parts.revision = some expectedRevision →
      Ok key (logOf key w.log) value entry))
  | .read _ => isTrue trivial
  | .other _ => isTrue trivial

/-- One write of a path: allowed over the record it replaces, under the condition of the run. -/
def Write (start : K → Option R) (key : K) (before : List (R × E)) (value : R) (entry : E) : Prop :=
  Allowed key (lastWritten (start key) before) value entry ∧ Ok key before value entry

/-- A written record has a later revision. -/
def Later : Prop :=
  ∀ (key : K) (current value : R) (entry : E), Allowed key (some current) value entry →
    parts.revision current < parts.revision value

variable {parts Allowed Ok}

variable {key : K} {w : RegisterWorld K R E τ}

/-- **The revisions of the stored records increase.** -/
theorem revisions_increase (later : parts.Later Allowed)
    (path : Path (Write Allowed Ok w.start key) (logOf key w.log)) :
    ((w.stored key).map parts.revision).Pairwise (· < ·) ∧
      ∀ last, w.current key = some last → ∀ r ∈ w.stored key,
        parts.revision r ≤ parts.revision last := by
  simp only [RegisterWorld.stored, RegisterWorld.current]
  generalize logOf key w.log = log at path
  refine path.induction (fun log =>
    (((w.start key).toList ++ log.map Prod.fst).map parts.revision).Pairwise (· < ·) ∧
      ∀ last, lastWritten (w.start key) log = some last →
        ∀ r ∈ (w.start key).toList ++ log.map Prod.fst,
          parts.revision r ≤ parts.revision last) ?_ ?_
  · cases w.start key with
    | none | some first => simp
  · intro before v e _ ⟨increasing, least⟩ ⟨allowed, _⟩
    have below : ∀ r ∈ (w.start key).toList ++ before.map Prod.fst,
        parts.revision r < parts.revision v := by
      intro r stored
      cases last : lastWritten (w.start key) before with
      | none =>
        rcases List.eq_nil_or_concat' before with rfl | ⟨_, ⟨_, _⟩, rfl⟩
        · rw [lastWritten_nil] at last
          simp [last] at stored
        · simp at last
      | some current =>
        rw [last] at allowed
        exact Nat.lt_of_le_of_lt (least current last r stored) (later _ _ _ _ allowed)
    constructor
    · have longer : (w.start key).toList ++ (before ++ [(v, e)]).map Prod.fst =
          ((w.start key).toList ++ before.map Prod.fst) ++ [v] := by simp
      rw [longer, List.map_append, List.pairwise_append]
      refine ⟨increasing, by simp, ?_⟩
      simp only [List.mem_map, List.map_cons, List.map_nil, List.mem_singleton]
      rintro _ ⟨r, stored, rfl⟩ _ rfl
      exact below r stored
    · intro last isLast r stored
      obtain rfl : v = last := by simpa using isLast
      rw [List.map_append, ← List.append_assoc, List.mem_append] at stored
      rcases stored with earlier | isLast
      · exact Nat.le_of_lt (below r earlier)
      · simp only [List.map_cons, List.map_nil, List.mem_singleton] at isLast
        exact Nat.le_of_eq (by rw [isLast])

theorem stored_of_current {r : R} (isCurrent : w.current key = some r) : r ∈ w.stored key := by
  unfold RegisterWorld.current at isCurrent
  unfold RegisterWorld.stored
  rcases lastWritten_eq_some isCurrent with ⟨-, first⟩ | ⟨before, e, written⟩
  · simp [first]
  · simp [written]

theorem eq_current (later : parts.Later Allowed)
    (path : Path (Write Allowed Ok w.start key) (logOf key w.log)) {r : R}
    (stored : r ∈ w.stored key)
    (same : (w.current key).map parts.revision = some (parts.revision r)) :
    w.current key = some r := by
  obtain ⟨last, isLast, sameRevision⟩ := Option.map_eq_some_iff.1 same
  obtain ⟨increasing, -⟩ := revisions_increase later path
  have lastStored := stored_of_current isLast
  have distinct : ((w.stored key).map parts.revision).Nodup :=
    increasing.imp fun h => Nat.ne_of_lt h
  have oneOf : last = r := List.inj_on_of_nodup_map distinct lastStored stored sameRevision
  rw [isLast, oneOf]

/-- Every record has followed a path from its start. -/
def Followed (Allowed : K → Option R → R → E → Prop) (Ok : K → List (R × E) → R → E → Prop)
    (start : K → Option R) (w : RegisterWorld K R E τ) : Prop :=
  w.start = start ∧ ∀ key, Path (Write Allowed Ok start key) (logOf key w.log)

variable {value : R} {entry : E}

/-- A write that is allowed over the stored record continues its path. -/
theorem Followed.write {start : K → Option R} (followed : Followed Allowed Ok start w)
    (allowed : Allowed key (w.current key) value entry)
    (ok : Ok key (logOf key w.log) value entry) :
    Followed Allowed Ok start (w.write key value entry) := by
  obtain ⟨rfl, paths⟩ := followed
  refine ⟨rfl, fun other => ?_⟩
  by_cases same : key = other
  · subst same
    simp only [RegisterWorld.write, logOf_concat_self]
    exact path_concat.2 ⟨paths key, allowed, ok⟩
  · simp only [RegisterWorld.write, logOf_concat_ne same]
    exact paths other

/-- The replicas of a component, whose stored records follow paths from their start. -/
def discipline (later : parts.Later Allowed) (Ok : K → List (R × E) → R → E → Prop)
    (start : K → Option R) :
    Discipline (RegisterOp K R E Other) (RegisterOp.Ans Answer) (RegisterWorld K R E τ) where
  permit _ := parts.Permit Allowed
  answers w op a w' := parts.Observed Ok w op ∧ ∃ oracle, parts.perform oracle w op = (a, w')
  inv := Followed Allowed Ok start
  kept := by
    rintro _ w op a w' permitted ⟨observed, oracle, performed⟩ followed
    cases permitted with
    | read =>
      obtain ⟨-, rfl⟩ := Prod.mk.inj performed
      exact followed
    | @first key value entry allowed =>
      dsimp only [perform] at performed
      split at performed
      next writes =>
        obtain ⟨-, rfl⟩ := Prod.mk.inj performed
        rw [Bool.and_eq_true, Option.isNone_iff_eq_none] at writes
        refine followed.write ?_ (observed writes.1)
        rw [writes.1]
        exact allowed
      next =>
        obtain ⟨-, rfl⟩ := Prod.mk.inj performed
        exact followed
    | @next key current value entry seen allowed =>
      dsimp only [perform] at performed
      split at performed
      next writes =>
        obtain ⟨-, rfl⟩ := Prod.mk.inj performed
        rw [Bool.and_eq_true, decide_eq_true_eq] at writes
        refine followed.write ?_ (observed writes.1)
        obtain ⟨rfl, paths⟩ := followed
        rw [eq_current later (paths key) seen writes.1]
        exact allowed
      next =>
        obtain ⟨-, rfl⟩ := Prod.mk.inj performed
        exact followed
    | other request =>
      obtain ⟨-, rfl⟩ := Prod.mk.inj performed
      exact followed

/-! ### Programs -/

/-- A call keeps the start, and what was written. -/
theorem perform_grows {oracle : Oracle} {w' : RegisterWorld K R E τ}
    {op : RegisterOp K R E Other} {a : op.Ans Answer}
    (performed : parts.perform oracle w op = (a, w')) :
    w'.start = w.start ∧ w.log <+: w'.log := by
  cases op with
  | read key =>
    obtain ⟨-, rfl⟩ := Prod.mk.inj performed
    exact ⟨rfl, List.prefix_rfl⟩
  | writeIfAbsent key value entry | compareAndSet key value expected entry =>
    dsimp only [perform] at performed
    split at performed
    · obtain ⟨-, rfl⟩ := Prod.mk.inj performed
      exact ⟨rfl, List.prefix_append _ _⟩
    · obtain ⟨-, rfl⟩ := Prod.mk.inj performed
      exact ⟨rfl, List.prefix_rfl⟩
  | other request =>
    obtain ⟨-, rfl⟩ := Prod.mk.inj performed
    exact ⟨rfl, List.prefix_rfl⟩

variable {later : parts.Later Allowed} {start : K → Option R} {me : ℕ}

/-- What a replica knows of a record it has read. -/
def Known (key : K) (current : Option R) (w : RegisterWorld K R E τ) : Prop :=
  ∀ r, current = some r → r ∈ w.stored key

theorem known_stable (key : K) (current : Option R) :
    (discipline later Ok start).Stable fun w => Known key current w := by
  rintro _ w op a w' - - ⟨-, oracle, performed⟩ known r isRead
  obtain ⟨sameStart, grows⟩ := perform_grows performed
  obtain ⟨more, longer⟩ := logOf_prefix key grows
  have stored := known r isRead
  simp only [RegisterWorld.stored, List.mem_append] at stored ⊢
  rw [sameStart, ← longer, List.map_append, List.mem_append]
  exact stored.imp id .inl

/-- A program that, wherever it starts, writes only what a record it has read allows. -/
def Follows (later : parts.Later Allowed) (Ok : K → List (R × E) → R → E → Prop)
    (start : K → Option R)
    (p : Program (RegisterOp K R E Other) (RegisterOp.Ans Answer) ε α) : Prop :=
  ∀ me, (discipline later Ok start).Triple me (fun _ => True) p fun _ _ => True

theorem follows_done {result : Except ε α} : Follows later Ok start (Program.done result) :=
  fun _ _ holds _ => ⟨holds, trivial⟩

theorem follows_bind {p : Program (RegisterOp K R E Other) (RegisterOp.Ans Answer) ε β}
    {f : β → Program (RegisterOp K R E Other) (RegisterOp.Ans Answer) ε α}
    (first : Follows later Ok start p) (next : ∀ b, Follows later Ok start (f b)) :
    Follows later Ok start (p >>= f) :=
  fun me => Discipline.triple_bind (fun _ _ => True)
    ((first me).mono (fun _ _ => id) fun r _ _ _ => by cases r <;> trivial) fun b => next b me

theorem follows_other {request : Other} : Follows later Ok start
    (invoke (RegisterOp.other request) :
      Program (RegisterOp K R E Other) (RegisterOp.Ans Answer) ε (Answer request)) := by
  intro me
  rw [← Program.bind_pure (invoke _)]
  exact Discipline.triple_keep Discipline.stable_true (fun _ _ _ => .other request)
    fun _ => Discipline.triple_pure fun _ _ => id

theorem triple_read_record
    {f : Option R → Program (RegisterOp K R E Other) (RegisterOp.Ans Answer) ε α}
    (next : ∀ current, (discipline later Ok start).Triple me (Known key current)
      (f current) fun _ _ => True) :
    (discipline later Ok start).Triple me (fun _ => True) (readRecord key >>= f)
      fun _ _ => True := by
  refine Discipline.triple_call Discipline.stable_true (fun _ _ _ => .read key)
    (fun a => Known key a) ?_ next
  rintro w a w' - - ⟨-, oracle, performed⟩ - r isRead
  obtain ⟨rfl, rfl⟩ := Prod.mk.inj performed
  exact stored_of_current isRead

/-- A read that decides what to go on with. -/
theorem follows_read {f : Option R → Program (RegisterOp K R E Other) (RegisterOp.Ans Answer) ε α}
    (next : ∀ current, Follows later Ok start (f current)) :
    Follows later Ok start (readRecord key >>= f) :=
  fun me => triple_read_record fun current =>
    (next current me).mono (fun _ _ _ => trivial) fun _ _ _ => id

/-- **A write in place of what was read** follows the record. -/
theorem triple_replace {current : Option R} (allowed : Allowed key current value entry) :
    (discipline later Ok start).Triple me (Known key current)
      (replace parts.revision key current value entry :
        Program (RegisterOp K R E Other) (RegisterOp.Ans Answer) ε Bool) fun _ _ => True := by
  rcases current with _ | current
  · simp only [replace]
    rw [← Program.bind_pure (invoke _)]
    refine Discipline.triple_keep (known_stable key none) (fun _ _ _ => .first allowed) fun _ => ?_
    exact Discipline.triple_pure fun _ _ _ => trivial
  simp only [replace]
  rw [← Program.bind_pure (invoke _)]
  refine Discipline.triple_keep (known_stable key (some current))
    (fun _ _ known => .next (known current rfl) allowed) fun _ => ?_
  exact Discipline.triple_pure fun _ _ _ => trivial

/-- **A first write** needs no read before it. -/
theorem follows_create (allowed : Allowed key none value entry) :
    Follows later Ok start (invoke (RegisterOp.writeIfAbsent key value entry) :
      Program (RegisterOp K R E Other) (RegisterOp.Ans Answer) ε Bool) := by
  intro me
  refine Discipline.Triple.mono (triple_replace allowed) ?_ fun _ _ _ => id
  intro w _ _ r isRead
  cases isRead

/-- **The loop of an update** follows the record, if it writes what is allowed. -/
theorem follows_update {decide : Option R → Decision R E ε α} {exhausted : ε} (attempts : ℕ)
    (allowed : ∀ current value entry result, decide current = .write value entry result →
      Allowed key current value entry) :
    Follows later Ok start (update parts.revision key decide exhausted attempts :
      Program (RegisterOp K R E Other) (RegisterOp.Ans Answer) ε α) := by
  intro me
  induction attempts with
  | zero => exact Discipline.triple_raise fun _ _ _ => trivial
  | succ attempts ih =>
    refine triple_read_record fun current => ?_
    cases decided : decide current with
    | done result => exact fun _ holds _ => ⟨holds, trivial⟩
    | write value entry result =>
      dsimp only [attempt]
      refine Discipline.triple_bind (fun _ _ => True)
        ((triple_replace (allowed _ _ _ _ decided)).mono (fun _ _ => id) fun r _ _ _ => by
          cases r <;> trivial) fun written => ?_
      cases written with
      | true => exact fun _ holds _ => ⟨holds, trivial⟩
      | false => exact ih

/-- **An update on its own**: the last program reads the record, and its write goes through. -/
theorem run_update {program : ℕ → Call → Program (RegisterOp K R E Other) (RegisterOp.Ans Answer) ε β}
    {pool : List (Option (Program (RegisterOp K R E Other) (RegisterOp.Ans Answer) ε β))}
    {decide : Option R → Decision R E ε α} {exhausted : ε} {attempts : ℕ}
    {continued : α → Program (RegisterOp K R E Other) (RegisterOp.Ans Answer) ε β}
    {result : Except ε α} {oracle : Oracle}
    (decided : decide (w.current key) = .write value entry result)
    (lets : parts.lets oracle entry = true) :
    (parts.machine program).run
      ⟨w, pool ++ [some (update parts.revision key decide exhausted (attempts + 1) >>= continued)]⟩
      [.advance pool.length oracle, .advance pool.length oracle] =
      ⟨w.write key value entry, pool ++ [some (Program.done result >>= continued)]⟩ := by
  simp only [Machine.run_cons, Machine.run_nil]
  have reads : (parts.machine program).move
      ⟨w, pool ++ [some (update parts.revision key decide exhausted (attempts + 1) >>= continued)]⟩
      (.advance pool.length oracle) = ⟨w, pool ++ [some (attempt parts.revision key (w.current key)
        (update parts.revision key decide exhausted attempts) (decide (w.current key)) >>=
          continued)]⟩ :=
    (parts.machine program).move_advance_last pool (.read key) _
      (show parts.perform oracle w (RegisterOp.read key) = _ from rfl)
  rw [reads, decided]
  rcases stored : w.current key with _ | current
  · have writes : (parts.machine program).perform oracle w (.writeIfAbsent key value entry) =
        (true, w.write key value entry) := by simp [machine, perform, stored, lets]
    exact (parts.machine program).move_advance_last pool (.writeIfAbsent key value entry) _ writes
  have writes : (parts.machine program).perform oracle w
      (.compareAndSet key value (parts.revision current) entry) =
      (true, w.write key value entry) := by simp [machine, perform, stored, lets]
  exact (parts.machine program).move_advance_last pool
    (.compareAndSet key value (parts.revision current) entry) _ writes

/-- **A run leaves paths**: whatever the interleaving and the crashes, every record went through a
sequence of writes, each allowed over the one before it. -/
theorem run_path {program : ℕ → Call → Program (RegisterOp K R E Other) (RegisterOp.Ans Answer) ε α}
    (later : parts.Later Allowed) (start : K → Option R)
    (follows : ∀ replica call, Follows later Ok start (program replica call)) (rest : τ)
    {moves : List (Move Call Oracle)}
    (observes : (parts.machine program).Observes (parts.Observed Ok)
      (Machine.idle ⟨start, [], rest⟩) moves) :
    Followed Allowed Ok start
      ((parts.machine program).run (Machine.idle ⟨start, [], rest⟩) moves).world :=
  Machine.run_inv_of_triple (D := discipline later Ok start) (fun answered => answered)
    (fun replica call => follows replica call replica) ⟨rfl, fun _ => path_nil⟩ observes

/-- The same, of runs without a condition. -/
theorem run_path_always
    {program : ℕ → Call → Program (RegisterOp K R E Other) (RegisterOp.Ans Answer) ε α}
    (later : parts.Later Allowed) (start : K → Option R)
    (follows : ∀ replica call,
      Follows later (fun _ _ _ _ => True) start (program replica call)) (rest : τ)
    (moves : List (Move Call Oracle)) (key : K) :
    Path (fun before value entry => Allowed key (lastWritten (start key) before) value entry)
      (logOf key
        ((parts.machine program).run (Machine.idle ⟨start, [], rest⟩) moves).world.log) := by
  have always : ∀ (w : RegisterWorld K R E τ) (op : RegisterOp K R E Other),
      parts.Observed (fun _ _ _ _ => True) w op := by
    intro w op
    cases op <;> simp [Observed]
  have kept : Followed Allowed (fun _ _ _ _ => True) start
      ((parts.machine program).run (Machine.idle ⟨start, [], rest⟩) moves).world :=
    Machine.run_inv_of_triple (D := discipline later (fun _ _ _ _ => True) start)
      (fun answered => ⟨always _ _, answered.2⟩)
      (fun replica call => follows replica call replica) ⟨rfl, fun _ => path_nil⟩
      (Machine.observes_true _ _ _)
  exact (kept.2 key).mono fun _ _ _ write => write.1

end Registers

end Fdai.Concurrency
