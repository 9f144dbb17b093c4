import Mathlib.Data.List.Range
import Fdai.Concurrency.Triple
import Fdai.RuleActivation.Ledger

/-!
# Terminal records are truthful

A command is recorded as applied if the pointer has selected its generation for it. But the
record is written after the pointer was moved and read back, and another command may move the
pointer on in between: then the readback fails, or a redelivery after a crash finds a conflict.

* `LedgerOrderly` — the condition: the pointer is not moved on before the command it selects is
  closed, and deliveries of one command do not see it both ways.
* `LedgerStep` — what one call can do to the pointer and the records.
* `LedgerInv` — the invariant: the pointer selects the generation of every command that was
  current and is not closed.
-/

namespace Fdai.Core.RuleActivation

open Fdai.Providers Fdai.Concurrency Program Discipline

/-- The generation of the command was made, or found to be, current. -/
def WasCurrent (log : List LedgerEvent) (commandDigest : Digest) : Prop :=
  ∃ generationDigest, .current commandDigest generationDigest ∈ log

/-- The command has its terminal record. -/
def isClosed (log : List LedgerEvent) (commandDigest : Digest) : Bool :=
  log.any fun
    | .closed other _ => other = commandDigest
    | _ => false

def movedRevisions (log : List LedgerEvent) : List ℕ :=
  log.filterMap fun
    | .moved _ revision => some revision
    | _ => none

def closedRequests (log : List LedgerEvent) : List Digest :=
  log.filterMap fun
    | .closed _ requestId => some requestId
    | _ => none

/-- An event does not stand against another command's moving the pointer: it is of no command that
is current and still open. -/
def LedgerEvent.allowsMove (log : List LedgerEvent) (commandDigest : Digest) : LedgerEvent → Bool
  | .current other _ => other = commandDigest || isClosed log other
  | _ => true

/-- The pointer may be moved for a command: no other command is current and still open, and no
delivery of the command itself has given up. -/
def Undisturbed (log : List LedgerEvent) (commandDigest : Digest) : Prop :=
  .refused commandDigest ∉ log ∧ log.all (LedgerEvent.allowsMove log commandDigest) = true

/-- The pointer is moved where it is undisturbed, and no delivery sees its own generation selected
after another one of the same command has given up. -/
def LedgerOrderly (w : LedgerWorld) : LedgerOp → Prop
  | .writePointerIfAbsent command _ =>
    w.pointer = none → Undisturbed w.log command.commandDigest
  | .compareAndSetPointer command _ expectedRevision =>
    w.pointer.any (·.revision = expectedRevision) = true → Undisturbed w.log command.commandDigest
  | .readCurrent command _ =>
    w.pointer.map (·.generationDigest) = some command.generation.generationDigest →
      .refused command.commandDigest ∉ w.log
  | _ => True

instance (log : List LedgerEvent) (commandDigest : Digest) :
    Decidable (Undisturbed log commandDigest) := by
  unfold Undisturbed
  infer_instance

instance (w : LedgerWorld) (op : LedgerOp) : Decidable (LedgerOrderly w op) := by
  cases op <;> dsimp only [LedgerOrderly] <;> infer_instance

variable {command : RuleActivationCommand}

section

variable {log : List LedgerEvent} {k : Digest}

theorem isClosed_eq_true : isClosed log k = true ↔ ∃ requestId, .closed k requestId ∈ log := by
  unfold isClosed
  rw [List.any_eq_true]
  constructor
  · rintro ⟨event, isEvent, isClosing⟩
    cases event with
    | closed other requestId =>
      obtain rfl := of_decide_eq_true isClosing
      exact ⟨requestId, isEvent⟩
    | moved | current | refused => cases isClosing
  · rintro ⟨requestId, isEvent⟩
    exact ⟨_, isEvent, decide_eq_true rfl⟩

/-- A command that is open later was open before. -/
theorem isClosed_of_append {events : List LedgerEvent} (isOpen : isClosed (log ++ events) k = false) :
    isClosed log k = false := by
  unfold isClosed at isOpen ⊢
  rw [List.any_append, Bool.or_eq_false_iff] at isOpen
  exact isOpen.1

/-- **Undisturbed**: another command that is current is closed. -/
theorem Undisturbed.closed (undisturbed : Undisturbed log k) {other g : Digest}
    (isCurrent : .current other g ∈ log) : other = k ∨ isClosed log other = true := by
  have allows := List.all_eq_true.1 undisturbed.2 _ isCurrent
  simpa [LedgerEvent.allowsMove] using allows

theorem generation_of_digest {other : RuleActivationCommand}
    (same : command.commandDigest = other.commandDigest) :
    command.generation.generationDigest = other.generation.generationDigest := by
  have fields := Digest.ofFields_inj.1 same
  injection fields with _ fields
  injection fields with _ fields
  injection fields

theorem request_of_digest {other : RuleActivationCommand}
    (same : command.commandDigest = other.commandDigest) :
    command.requestId = other.requestId := by
  have fields := Digest.ofFields_inj.1 same
  injection fields

end

/-! ## Steps -/

/-- The value is the next pointer for a command, to a generation that is stored. -/
structure NextValue (w : LedgerWorld) (command : RuleActivationCommand) (value : Pointer) :
    Prop where
  revision : value.revision = pointerRevision w.pointer + 1
  generation : value.generationDigest = command.generation.generationDigest
  unfenced : value.v2Authoritative = false
  stored : ∃ g, w.generations.read value.generationId = some g ∧
    g.generationDigest = value.generationDigest

/-- The terminal record is of a command, and is backed by what its deliveries have seen. -/
structure Backed (log : List LedgerEvent) (value : RuleActivationResult) : Prop where
  ofCommand : ∃ command : RuleActivationCommand,
    value.requestId = command.requestId ∧ value.commandDigest = command.commandDigest
  applied : value.status.isApplied = true → WasCurrent log value.commandDigest
  refused : value.status.isApplied = false → .refused value.commandDigest ∈ log

/-- The calls a replica may make. -/
def LedgerPermit (w : LedgerWorld) : LedgerOp → Prop
  | .readCurrent _ _ => w.pointer.any (·.v2Authoritative) = false
  | .writePointerIfAbsent command value => w.pointer = none → NextValue w command value
  | .compareAndSetPointer command value expectedRevision =>
    w.pointer.any (·.revision = expectedRevision) = true → NextValue w command value
  | .writeResultIfAbsent value => Backed w.log value
  | _ => True

/-- What a permitted call does to the world. -/
inductive LedgerStep (w : LedgerWorld) : LedgerWorld → Prop
  | quiet {w' : LedgerWorld} (pointer : w'.pointer = w.pointer) (results : w'.results = w.results)
      (log : w'.log = w.log)
      (generations : ∀ id g, w.generations.read id = some g → w'.generations.read id = some g) :
      LedgerStep w w'
  | looked (command : RuleActivationCommand) (look : Look)
      (unfenced : w.pointer.any (·.v2Authoritative) = false)
      (unrefused : w.pointer.map (·.generationDigest) = some command.generation.generationDigest →
        .refused command.commandDigest ∉ w.log) :
      LedgerStep w { w with log := w.log ++ w.look command look }
  | fenced (command : RuleActivationCommand) (isFenced : w.pointer.any (·.v2Authoritative) = true) :
      LedgerStep w { w with log := w.log ++ [.refused command.commandDigest] }
  | moved (command : RuleActivationCommand) (value : Pointer) (next : NextValue w command value)
      (undisturbed : Undisturbed w.log command.commandDigest) : LedgerStep w (w.moved command value)
  | closed (value : RuleActivationResult) (absent : w.results.read value.requestId = none)
      (backed : Backed w.log value) :
      LedgerStep w { w with
        results := w.results.write value.requestId value
        log := w.log ++ [.closed value.commandDigest value.requestId] }

/-- A write of what is not there yet leaves what is. -/
theorem read_of_writeIfAbsent {Key : Type} {Record : Key → Type} [DecidableEq Key]
    {s s' : StateStore Key Record} {key : Key} {value : Record key} {created : Bool}
    (written : s.writeIfAbsent key value = (created, s')) {other : Key} {stored : Record other}
    (found : s.read other = some stored) : s'.read other = some stored := by
  rcases StateStore.writeIfAbsent_cases written with ⟨-, rfl, -⟩ | ⟨-, absent, rfl⟩
  · exact found
  by_cases same : other = key
  · subst same
    rw [absent] at found
    cases found
  · rw [StateStore.read_write_ne _ same]
    exact found

section

variable {w w' : LedgerWorld}

/-- **What one call can do.** -/
theorem ledgerStep {op : LedgerOp} {a : op.Ans} (allowed : LedgerPermit w op)
    (answered : ledgerMachine.Answers LedgerOrderly w op a w') : LedgerStep w w' := by
  obtain ⟨orderly, _, performed⟩ := answered
  have world : w' = (w.perform op).2 := (Prod.mk.inj performed).2.symm
  rw [world]
  cases op with
  | readResult | readIdempotency | readGeneration | writeIdempotencyIfAbsent =>
    exact .quiet rfl rfl rfl fun _ _ found => found
  | readPointer command =>
    unfold LedgerWorld.perform
    dsimp only
    split
    · rename_i isFenced
      exact .fenced command isFenced
    · exact .quiet rfl rfl rfl fun _ _ found => found
  | readCurrent command look => exact .looked command look allowed orderly
  | writeGenerationIfAbsent generation =>
    exact .quiet rfl rfl rfl fun _ _ found => read_of_writeIfAbsent rfl found
  | writePointerIfAbsent command value =>
    unfold LedgerWorld.perform
    dsimp only
    split
    · rename_i absent
      exact .moved command value (allowed absent) (orderly absent)
    · exact .quiet rfl rfl rfl fun _ _ found => found
  | compareAndSetPointer command value expected =>
    unfold LedgerWorld.perform
    dsimp only
    split
    · exact .quiet rfl rfl rfl fun _ _ found => found
    rename_i stored found
    split
    · rename_i current
      have matched : w.pointer.any (·.revision = expected) = true := by
        rw [found]
        exact decide_eq_true current
      exact .moved command value (allowed matched) (orderly matched)
    · exact .quiet rfl rfl rfl fun _ _ found => found
  | writeResultIfAbsent value =>
    unfold LedgerWorld.perform
    dsimp only
    split
    · exact .quiet rfl rfl rfl fun _ _ found => found
    · rename_i absent
      exact .closed value absent allowed

/-- The log only grows. -/
theorem LedgerStep.log (step : LedgerStep w w') : w.log <+: w'.log := by
  cases step with
  | quiet _ _ log => exact ⟨[], by rw [List.append_nil, log]⟩
  | looked | fenced | moved | closed => exact List.prefix_append _ _

/-- A generation that is stored stays as it is. -/
theorem LedgerStep.generations (step : LedgerStep w w') {id : Digest}
    {g : RuleActivationGeneration} (found : w.generations.read id = some g) :
    w'.generations.read id = some g := by
  cases step with
  | quiet _ _ _ generations => exact generations id g found
  | looked | fenced | moved | closed => exact found

/-- A terminal record stays as it is. -/
theorem LedgerStep.results (step : LedgerStep w w') {requestId : Digest}
    {terminal : RuleActivationResult} (found : w.results.read requestId = some terminal) :
    w'.results.read requestId = some terminal := by
  cases step with
  | quiet _ results =>
    rw [results]
    exact found
  | looked | fenced | moved => exact found
  | closed value absent =>
    have apart : requestId ≠ value.requestId := by
      rintro rfl
      rw [absent] at found
      cases found
    exact (StateStore.read_write_ne _ apart).trans found

/-- The pointer stays unless it is moved to a later revision. -/
theorem LedgerStep.pointer (step : LedgerStep w w') : w'.pointer = w.pointer ∨
    pointerRevision w.pointer < pointerRevision w'.pointer ∧
      w'.pointer.any (·.v2Authoritative) = false := by
  cases step with
  | quiet pointer => exact .inl pointer
  | looked | fenced | closed => exact .inl rfl
  | moved command value next =>
    have revision := next.revision
    refine .inr ⟨?_, next.unfenced⟩
    change pointerRevision w.pointer < value.revision
    omega

end

/-! ## The invariant -/

/-- **What holds at all times**, where the pointer had a revision to begin with. -/
structure LedgerInv (initial : ℕ) (w : LedgerWorld) : Prop where
  /-- The generation that the pointer selects is stored. -/
  selected : ∀ pointer, w.pointer = some pointer →
    ∃ g, w.generations.read pointer.generationId = some g ∧
      g.generationDigest = pointer.generationDigest
  revisions : movedRevisions w.log = List.range' (initial + 1) (movedRevisions w.log).length
  revision : pointerRevision w.pointer = initial + (movedRevisions w.log).length
  ofCommand : ∀ k g, .current k g ∈ w.log → ∃ command : RuleActivationCommand,
    command.commandDigest = k ∧ command.generation.generationDigest = g
  unfenced : ∀ k g, .current k g ∈ w.log → w.pointer.any (·.v2Authoritative) = false
  /-- The pointer selects the generation of a command that was current and is not closed. -/
  standing : ∀ k g, .current k g ∈ w.log → isClosed w.log k = false →
    w.pointer.map (·.generationDigest) = some g
  /-- The deliveries of a command that is not closed have not seen the pointer both ways. -/
  agreed : ∀ k, isClosed w.log k = false → WasCurrent w.log k → .refused k ∉ w.log
  terminal : ∀ requestId value, w.results.read requestId = some value →
    value.requestId = requestId ∧ .closed value.commandDigest requestId ∈ w.log ∧ Backed w.log value
  truthful : ∀ requestId value, w.results.read requestId = some value →
    value.status.isApplied = false → ¬ WasCurrent w.log value.commandDigest
  closed : ∀ k requestId, .closed k requestId ∈ w.log → ∃ value,
    w.results.read requestId = some value ∧ value.commandDigest = k
  once : (closedRequests w.log).Nodup

section

variable {initial : ℕ} {w w' : LedgerWorld} {log : List LedgerEvent}

variable {value : RuleActivationResult}

theorem Backed.mono {later : List LedgerEvent}
    (backed : Backed log value) (grows : log <+: later) : Backed later value where
  ofCommand := backed.ofCommand
  applied isApplied := by
    obtain ⟨g, isCurrent⟩ := backed.applied isApplied
    exact ⟨g, grows.subset isCurrent⟩
  refused isRefused := grows.subset (backed.refused isRefused)

/-- The invariant is kept where the pointer and the records are, and the log has no more than a
look at the pointer. -/
private theorem LedgerInv.observe (inv : LedgerInv initial w) {event : LedgerEvent}
    (observed : (∃ command : RuleActivationCommand,
        event = .current command.commandDigest command.generation.generationDigest ∧
          w.pointer.any (·.v2Authoritative) = false ∧
          w.pointer.map (·.generationDigest) = some command.generation.generationDigest ∧
          .refused command.commandDigest ∉ w.log) ∨
      ∃ command : RuleActivationCommand, event = .refused command.commandDigest ∧
        (w.pointer.map (·.generationDigest) ≠ some command.generation.generationDigest ∨
          w.pointer.any (·.v2Authoritative) = true)) :
    LedgerInv initial { w with log := w.log ++ [event] } := by
  have neither : (∀ revision k, event ≠ .moved k revision) ∧
      ∀ k requestId, event ≠ .closed k requestId := by
    rcases observed with ⟨command, rfl, -⟩ | ⟨command, rfl, -⟩
    · exact ⟨fun _ _ same => (by cases same), fun _ _ same => (by cases same)⟩
    · exact ⟨fun _ _ same => (by cases same), fun _ _ same => (by cases same)⟩
  have moves : movedRevisions (w.log ++ [event]) = movedRevisions w.log := by
    unfold movedRevisions
    rw [List.filterMap_append]
    cases event with
    | moved k revision => exact absurd rfl (neither.1 revision k)
    | current | refused | closed => simp
  have closes : closedRequests (w.log ++ [event]) = closedRequests w.log := by
    unfold closedRequests
    rw [List.filterMap_append]
    cases event with
    | closed k requestId => exact absurd rfl (neither.2 k requestId)
    | moved | current | refused => simp
  -- an event of the longer log is an old one or the new one
  have current_cases {k g : Digest} (isCurrent : .current k g ∈ w.log ++ [event]) :
      .current k g ∈ w.log ∨ ∃ command : RuleActivationCommand, command.commandDigest = k ∧
        command.generation.generationDigest = g ∧ w.pointer.any (·.v2Authoritative) = false ∧
        w.pointer.map (·.generationDigest) = some g ∧ .refused k ∉ w.log ∧
        event = .current k g := by
    rcases List.mem_append.1 isCurrent with old | new
    · exact .inl old
    have new := List.mem_singleton.1 new
    rcases observed with ⟨command, rfl, unfenced, selects, unrefused⟩ | ⟨command, rfl, -⟩
    · injection new with same same'
      subst same same'
      exact .inr ⟨command, rfl, rfl, unfenced, selects, unrefused, rfl⟩
    · cases new
  refine
    { selected := inv.selected
      revisions := by
        rw [moves]
        exact inv.revisions
      revision := by
        rw [moves]
        exact inv.revision
      ofCommand := fun k g isCurrent => ?_
      unfenced := fun k g isCurrent => ?_
      standing := fun k g isCurrent isOpen => ?_
      agreed := fun k isOpen ⟨g, isCurrent⟩ isRefused => ?_
      terminal := fun requestId value found => ?_
      truthful := fun requestId value found negative ⟨g, isCurrent⟩ => ?_
      closed := fun k requestId isClosing => ?_
      once := by
        rw [closes]
        exact inv.once }
  · rcases current_cases isCurrent with old | ⟨command, rfl, rfl, -⟩
    · exact inv.ofCommand k g old
    · exact ⟨command, rfl, rfl⟩
  · rcases current_cases isCurrent with old | ⟨command, rfl, rfl, unfenced, -⟩
    · exact inv.unfenced k g old
    · exact unfenced
  · rcases current_cases isCurrent with old | ⟨command, rfl, rfl, -, selects, -⟩
    · exact inv.standing k g old (isClosed_of_append isOpen)
    · exact selects
  · have wasOpen := isClosed_of_append isOpen
    rcases current_cases isCurrent with old | ⟨command, rfl, rfl, -, -, unrefused, rfl⟩
    · rcases List.mem_append.1 isRefused with oldRefusal | new
      · exact inv.agreed k wasOpen ⟨g, old⟩ oldRefusal
      rcases observed with ⟨command, rfl, -⟩ | ⟨command, rfl, other⟩
      · cases List.mem_singleton.1 new
      -- a command that is current and open is the one the pointer selects
      obtain rfl := LedgerEvent.refused.inj (List.mem_singleton.1 new)
      obtain ⟨same, bound, rfl⟩ := inv.ofCommand _ g old
      rcases other with unselected | isFenced
      · rw [generation_of_digest bound.symm] at unselected
        exact unselected (inv.standing _ _ old wasOpen)
      · rw [inv.unfenced _ _ old] at isFenced
        cases isFenced
    · rcases List.mem_append.1 isRefused with oldRefusal | new
      · exact unrefused oldRefusal
      · cases List.mem_singleton.1 new
  · obtain ⟨same, isClosing, backed⟩ := inv.terminal requestId value found
    exact ⟨same, List.mem_append_left _ isClosing, backed.mono (List.prefix_append _ _)⟩
  · rcases current_cases isCurrent with old | ⟨command, same, rfl, -, -, unrefused, -⟩
    · exact inv.truthful requestId value found negative ⟨g, old⟩
    · exact unrefused ((inv.terminal requestId value found).2.2.refused negative)
  · rcases List.mem_append.1 isClosing with old | new
    · exact inv.closed k requestId old
    · exact absurd (List.mem_singleton.1 new).symm (neither.2 k requestId)

/-- **The pointer is moved** for a command, where it is undisturbed. -/
private theorem LedgerInv.moved (inv : LedgerInv initial w)
    {value : Pointer} (next : NextValue w command value)
    (undisturbed : Undisturbed w.log command.commandDigest) :
    LedgerInv initial (w.moved command value) := by
  have moves : movedRevisions (w.moved command value).log =
      movedRevisions w.log ++ [value.revision] := by
    change movedRevisions (w.log ++ [_, _]) = _
    unfold movedRevisions
    rw [List.filterMap_append]
    rfl
  have closes : closedRequests (w.moved command value).log = closedRequests w.log := by
    change closedRequests (w.log ++ [_, _]) = _
    unfold closedRequests
    rw [List.filterMap_append]
    exact List.append_nil _
  have number : value.revision = initial + 1 + (movedRevisions w.log).length := by
    rw [next.revision, inv.revision]
    omega
  have current_cases {k g : Digest} (isCurrent : .current k g ∈ (w.moved command value).log) :
      .current k g ∈ w.log ∨
        k = command.commandDigest ∧ g = command.generation.generationDigest := by
    rcases List.mem_append.1 isCurrent with old | new
    · exact .inl old
    rcases List.mem_cons.1 new with same | new
    · cases same
    · injection List.mem_singleton.1 new with same same'
      exact .inr ⟨same, same'⟩
  have refused_cases {k : Digest} (isRefused : .refused k ∈ (w.moved command value).log) :
      .refused k ∈ w.log := by
    rcases List.mem_append.1 isRefused with old | new
    · exact old
    · simp at new
  have selects : (w.moved command value).pointer.map (·.generationDigest) =
      some command.generation.generationDigest := congrArg some next.generation
  refine
    { selected := fun pointer isPointer => ?_
      revisions := by
        rw [moves, List.length_append, List.length_singleton, List.range'_concat, number,
          ← inv.revisions, Nat.one_mul]
      revision := by
        rw [moves, List.length_append, List.length_singleton]
        change value.revision = _
        omega
      ofCommand := fun k g isCurrent => ?_
      unfenced := fun _ _ _ => next.unfenced
      standing := fun k g isCurrent isOpen => ?_
      agreed := fun k isOpen ⟨g, isCurrent⟩ isRefused => ?_
      terminal := fun requestId value found => ?_
      truthful := fun requestId value found negative ⟨g, isCurrent⟩ => ?_
      closed := fun k requestId isClosing => ?_
      once := by
        rw [closes]
        exact inv.once }
  · obtain rfl := Option.some.inj isPointer
    exact next.stored
  · rcases current_cases isCurrent with old | ⟨rfl, rfl⟩
    · exact inv.ofCommand k g old
    · exact ⟨command, rfl, rfl⟩
  · rcases current_cases isCurrent with old | ⟨rfl, rfl⟩
    · -- another command that is current is closed by now
      rcases undisturbed.closed old with rfl | isClosed
      · obtain ⟨other, same, rfl⟩ := inv.ofCommand _ g old
        rw [generation_of_digest same]
        exact selects
      · rw [isClosed_of_append isOpen] at isClosed
        cases isClosed
    · exact selects
  · rcases current_cases isCurrent with old | ⟨rfl, rfl⟩
    · exact inv.agreed k (isClosed_of_append isOpen) ⟨g, old⟩ (refused_cases isRefused)
    · exact undisturbed.1 (refused_cases isRefused)
  · obtain ⟨same, isClosing, backed⟩ := inv.terminal requestId value found
    exact ⟨same, List.mem_append_left _ isClosing, backed.mono (List.prefix_append _ _)⟩
  · rcases current_cases isCurrent with old | ⟨same, -⟩
    · exact inv.truthful requestId value found negative ⟨g, old⟩
    have isRefused := (inv.terminal requestId value found).2.2.refused negative
    rw [same] at isRefused
    exact undisturbed.1 isRefused
  · rcases List.mem_append.1 isClosing with old | new
    · exact inv.closed k requestId old
    · simp at new

theorem LedgerInv.open_of_absent (inv : LedgerInv initial w)
    (absent : w.results.read value.requestId = none) (backed : Backed w.log value) :
    isClosed w.log value.commandDigest = false := by
  rw [← Bool.not_eq_true, isClosed_eq_true]
  rintro ⟨requestId, isClosing⟩
  obtain ⟨stored, found, same⟩ := inv.closed _ requestId isClosing
  obtain ⟨command, request, digest⟩ := backed.ofCommand
  obtain ⟨isRequest, -, storedBacked⟩ := inv.terminal requestId stored found
  obtain ⟨other, otherRequest, otherDigest⟩ := storedBacked.ofCommand
  have requests := request_of_digest (otherDigest.symm.trans (same.trans digest))
  rw [request, ← requests, ← otherRequest, isRequest, found] at absent
  cases absent

/-- **A terminal record is written**: it is of what its command's deliveries have seen, and they
have not seen the pointer both ways. -/
private theorem LedgerInv.close (inv : LedgerInv initial w)
    (absent : w.results.read value.requestId = none) (backed : Backed w.log value) :
    LedgerInv initial { w with
      results := w.results.write value.requestId value
      log := w.log ++ [.closed value.commandDigest value.requestId] } := by
  have isOpen := inv.open_of_absent absent backed
  have moves : movedRevisions (w.log ++ [.closed value.commandDigest value.requestId]) =
      movedRevisions w.log := by
    unfold movedRevisions
    rw [List.filterMap_append]
    exact List.append_nil _
  have closes : closedRequests (w.log ++ [.closed value.commandDigest value.requestId]) =
      closedRequests w.log ++ [value.requestId] := by
    unfold closedRequests
    rw [List.filterMap_append]
    rfl
  have old {event : LedgerEvent}
      (isEvent : event ∈ w.log ++ [.closed value.commandDigest value.requestId])
      (other : ∀ k requestId, event ≠ .closed k requestId) : event ∈ w.log := by
    rcases List.mem_append.1 isEvent with old | new
    · exact old
    · exact absurd (List.mem_singleton.1 new) (other _ _)
  have result_cases {requestId : Digest} {stored : RuleActivationResult}
      (found : (w.results.write value.requestId value).read requestId = some stored) :
      requestId = value.requestId ∧ stored = value ∨ w.results.read requestId = some stored := by
    by_cases same : requestId = value.requestId
    · subst same
      rw [StateStore.read_write_self] at found
      exact .inl ⟨rfl, (Option.some.inj found).symm⟩
    · rw [StateStore.read_write_ne _ same] at found
      exact .inr found
  refine
    { selected := inv.selected
      revisions := by
        rw [moves]
        exact inv.revisions
      revision := by
        rw [moves]
        exact inv.revision
      ofCommand := fun k g isCurrent =>
        inv.ofCommand k g (old isCurrent fun _ _ same => by cases same)
      unfenced := fun k g isCurrent =>
        inv.unfenced k g (old isCurrent fun _ _ same => by cases same)
      standing := fun k g isCurrent isOpen =>
        inv.standing k g (old isCurrent fun _ _ same => by cases same) (isClosed_of_append isOpen)
      agreed := fun k isOpen ⟨g, isCurrent⟩ isRefused =>
        inv.agreed k (isClosed_of_append isOpen) ⟨g, old isCurrent fun _ _ same => by cases same⟩
          (old isRefused fun _ _ same => by cases same)
      terminal := fun requestId stored found => ?_
      truthful := fun requestId stored found negative ⟨g, isCurrent⟩ => ?_
      closed := fun k requestId isClosing => ?_
      once := ?_ }
  · rcases result_cases found with ⟨rfl, rfl⟩ | found
    · exact ⟨rfl, by simp, backed.mono (List.prefix_append _ _)⟩
    · obtain ⟨same, isClosing, backed⟩ := inv.terminal requestId stored found
      exact ⟨same, List.mem_append_left _ isClosing, backed.mono (List.prefix_append _ _)⟩
  · have before := old isCurrent fun _ _ same => by cases same
    rcases result_cases found with ⟨rfl, rfl⟩ | found
    · exact inv.agreed _ isOpen ⟨g, before⟩ (backed.refused negative)
    · exact inv.truthful requestId stored found negative ⟨g, before⟩
  · rcases List.mem_append.1 isClosing with old | new
    · obtain ⟨stored, found, same⟩ := inv.closed k requestId old
      refine ⟨stored, ?_, same⟩
      have apart : requestId ≠ value.requestId := by
        rintro rfl
        rw [absent] at found
        cases found
      exact (StateStore.read_write_ne _ apart).trans found
    · injection List.mem_singleton.1 new with same same'
      subst same same'
      exact ⟨value, StateStore.read_write_self _ _, rfl⟩
  · change (closedRequests (w.log ++ [_])).Nodup
    rw [closes, List.nodup_append]
    refine ⟨inv.once, List.nodup_singleton _, fun requestId isOld other isNew => ?_⟩
    rw [List.mem_singleton.1 isNew]
    rintro rfl
    obtain ⟨event, isEvent, isRequest⟩ := List.mem_filterMap.1 isOld
    cases event with
    | closed k requestId =>
      obtain rfl := Option.some.inj isRequest
      obtain ⟨stored, found, -⟩ := inv.closed k _ isEvent
      rw [absent] at found
      cases found
    | moved | current | refused => cases isRequest

/-- **The invariant is kept.** -/
theorem LedgerInv.step (inv : LedgerInv initial w) (step : LedgerStep w w') :
    LedgerInv initial w' := by
  cases step with
  | quiet pointer results log generations =>
    obtain ⟨_, _, _, _, _⟩ := w'
    dsimp only at pointer results log generations
    subst pointer results log
    refine { inv with selected := fun stored isStored => ?_ }
    obtain ⟨g, found, same⟩ := inv.selected stored isStored
    exact ⟨g, generations _ g found, same⟩
  | looked command look unfenced unrefused =>
    unfold LedgerWorld.look
    split
    · rename_i selects
      exact inv.observe (.inl ⟨command, rfl, unfenced, selects, unrefused selects⟩)
    rename_i unselected
    split
    · exact inv.observe (.inr ⟨command, rfl, .inl unselected⟩)
    · rw [List.append_nil]
      exact inv
  | fenced command isFenced => exact inv.observe (.inr ⟨command, rfl, .inr isFenced⟩)
  | moved command value next undisturbed => exact inv.moved next undisturbed
  | closed value absent backed => exact inv.close absent backed

end

/-- Replicas over one store that keep to `LedgerPermit`. -/
def ledgerDiscipline (initial : ℕ) : Discipline LedgerOp LedgerOp.Ans LedgerWorld where
  permit _ := LedgerPermit
  answers := ledgerMachine.Answers LedgerOrderly
  inv := LedgerInv initial
  kept allowed answered inv := inv.step (ledgerStep allowed answered)

/-- The pointer is not fenced. -/
def Unfenced (w : LedgerWorld) : Prop := w.pointer.any (·.v2Authoritative) = false

def GenerationStored (generationId : Digest) (w : LedgerWorld) : Prop :=
  ∃ g, w.generations.read generationId = some g ∧ g.generationDigest = generationId

/-- What a delivery has learnt at a look. -/
def Looked (command : RuleActivationCommand) (look : Look)
    (current : Option RuleActivationGeneration) (w : LedgerWorld) : Prop :=
  if current.map (·.generationDigest) = some command.generation.generationDigest then
    WasCurrent w.log command.commandDigest
  else givesUp command current look = true → .refused command.commandDigest ∈ w.log

section

variable {initial me : ℕ} {w : LedgerWorld}

theorem stable_unfenced : (ledgerDiscipline initial).Stable Unfenced := by
  intro _ _ _ _ _ _ allowed answered unfenced
  unfold Unfenced at unfenced ⊢
  rcases (ledgerStep allowed answered).pointer with same | ⟨-, unfenced⟩
  · rw [same]
    exact unfenced
  · exact unfenced

theorem stable_generation (id : Digest) (g : RuleActivationGeneration) :
    (ledgerDiscipline initial).Stable fun w => w.generations.read id = some g :=
  fun _ _ _ _ _ _ allowed answered found => (ledgerStep allowed answered).generations found

theorem stable_generationStored (id : Digest) :
    (ledgerDiscipline initial).Stable (GenerationStored id) := by
  rintro _ _ _ _ _ _ allowed answered ⟨g, found, same⟩
  exact ⟨g, (ledgerStep allowed answered).generations found, same⟩

theorem stable_terminal (requestId : Digest) (value : RuleActivationResult) :
    (ledgerDiscipline initial).Stable fun w => w.results.read requestId = some value :=
  fun _ _ _ _ _ _ allowed answered found => (ledgerStep allowed answered).results found

/-- What has happened stays so. -/
theorem stable_happened (event : LedgerEvent) :
    (ledgerDiscipline initial).Stable fun w => event ∈ w.log :=
  fun _ _ _ _ _ _ allowed answered isEvent =>
    (ledgerStep allowed answered).log.subset isEvent

theorem stable_wasCurrent (k : Digest) :
    (ledgerDiscipline initial).Stable fun w => WasCurrent w.log k := by
  rintro _ _ _ _ _ _ allowed answered ⟨g, isCurrent⟩
  exact ⟨g, (ledgerStep allowed answered).log.subset isCurrent⟩

theorem stable_looked (command : RuleActivationCommand) (look : Look)
    (current : Option RuleActivationGeneration) :
    (ledgerDiscipline initial).Stable (Looked command look current) := by
  intro _ _ _ _ _ inv allowed answered looked
  unfold Looked at looked ⊢
  split
  · rename_i selects
    rw [if_pos selects] at looked
    exact stable_wasCurrent _ inv allowed answered looked
  rename_i unselected
  rw [if_neg unselected] at looked
  intro gives
  exact stable_happened _ inv allowed answered (looked gives)

/-! ### Programs -/

/-- The world shows the generation that the pointer selects. -/
theorem LedgerInv.current_eq (inv : LedgerInv initial w) {pointer : Pointer}
    (isPointer : w.pointer = some pointer) : ∃ g, w.current = some g ∧
      w.generations.read pointer.generationId = some g ∧
      g.generationDigest = pointer.generationDigest := by
  obtain ⟨g, found, same⟩ := inv.selected pointer isPointer
  refine ⟨g, ?_, found, same⟩
  unfold LedgerWorld.current
  rw [isPointer]
  exact found

/-- A look leaves what it shows. -/
theorem LedgerInv.looked (inv : LedgerInv initial w) (command : RuleActivationCommand)
    (look : Look) :
    Looked command look w.current { w with log := w.log ++ w.look command look } := by
  have digests : w.current.map (·.generationDigest) = w.pointer.map (·.generationDigest) := by
    cases isPointer : w.pointer with
    | none =>
      unfold LedgerWorld.current
      rw [isPointer]
      rfl
    | some pointer =>
      obtain ⟨g, current, -, same⟩ := inv.current_eq isPointer
      rw [current]
      exact congrArg some same
  unfold Looked
  rw [digests]
  change if _ then WasCurrent (w.log ++ w.look command look) _
    else _ → _ ∈ w.log ++ w.look command look
  split
  · rename_i selects
    refine ⟨command.generation.generationDigest, List.mem_append_right _ ?_⟩
    unfold LedgerWorld.look
    rw [if_pos selects]
    exact List.mem_singleton_self _
  rename_i unselected
  intro gives
  refine List.mem_append_right _ ?_
  unfold LedgerWorld.look
  rw [if_neg unselected, if_pos gives]
  exact List.mem_singleton_self _

variable {F : LedgerWorld → Prop}

/-- **`current_generation`** returns what the look has shown. -/
theorem triple_currentGeneration (command : RuleActivationCommand) (look : Look)
    (stable : (ledgerDiscipline initial).Stable F)
    (unfenced : ∀ w, F w → Unfenced w) :
    (ledgerDiscipline initial).Triple me F (currentGeneration command look)
      (Returns fun current w => Looked command look current w ∧ F w) := by
  refine triple_call stable (fun w _ known => unfenced w known)
    (fun (pointer : Option Pointer) w => ∃ current, (match pointer with
      | none => current = none
      | some pointer => ∃ g, current = some g ∧ g.generationDigest = pointer.generationDigest ∧
          w.generations.read pointer.generationId = some g) ∧
        Looked command look current w ∧ F w) ?_ fun (pointer : Option Pointer) => ?_
  · rintro w pointer w' inv known answered -
    have allowed : (ledgerDiscipline initial).permit me w (.readCurrent command look) :=
      unfenced w known
    have known' := stable inv allowed answered known
    obtain ⟨-, _, performed⟩ := answered
    obtain ⟨rfl, rfl⟩ := Prod.mk.inj performed
    refine ⟨w.current, ?_, inv.looked command look, known'⟩
    cases isPointer : w.pointer with
    | none =>
      unfold LedgerWorld.current
      rw [isPointer]
      rfl
    | some pointer =>
      obtain ⟨g, current, found, same⟩ := inv.current_eq isPointer
      exact ⟨g, current, same, found⟩
  · refine triple_exists fun current => ?_
    rcases pointer with _ | pointer
    · exact triple_of_fact fun same => triple_pure fun w _ known => same ▸ known
    refine Triple.pre (F := fun w => ∃ g, (current = some g ∧
      g.generationDigest = pointer.generationDigest) ∧
        w.generations.read pointer.generationId = some g ∧
        Looked command look current w ∧ F w) ?_
      fun w _ ⟨⟨g, isCurrent, same, found⟩, known⟩ => ⟨g, ⟨isCurrent, same⟩, found, known⟩
    refine triple_exists fun g => triple_of_fact fun ⟨isCurrent, same⟩ => ?_
    have known : (ledgerDiscipline initial).Stable fun w =>
        w.generations.read pointer.generationId = some g ∧ Looked command look current w ∧ F w :=
      (stable_generation _ _).and ((stable_looked command look current).and stable)
    refine triple_read known (fun w => w.generations.read pointer.generationId)
      (fun _ _ _ => trivial) ?_ fun (raw : Option RuleActivationGeneration) => ?_
    · rintro w a w' ⟨-, _, performed⟩
      obtain ⟨rfl, rfl⟩ := Prod.mk.inj performed
      exact ⟨rfl, rfl⟩
    · rcases raw with _ | other
      · exact triple_throw
      dsimp only
      split
      · exact triple_throw
      refine triple_pure fun w _ known => ?_
      have isOther : other = g :=
        Option.some.inj (known.2.symm.trans known.1.1)
      rw [isOther, ← isCurrent]
      exact known.1.2

/-- A terminal record is committed where it is backed. -/
theorem triple_commitResult {value : RuleActivationResult}
    (stable : (ledgerDiscipline initial).Stable F) (backed : ∀ w, F w → Backed w.log value) :
    (ledgerDiscipline initial).Triple me F (commitResult value) (Returns fun _ _ => True) := by
  refine triple_keep stable (fun w _ known => backed w known) fun (created : Bool) => ?_
  split
  · exact triple_pure fun _ _ _ => trivial
  refine triple_keep stable (fun _ _ _ => trivial)
    fun (existing : Option RuleActivationResult) => ?_
  rcases existing with _ | terminal
  · exact triple_throw
  dsimp only
  split
  · exact triple_throw
  · exact triple_pure fun _ _ _ => trivial

theorem triple_storeGeneration (generation : RuleActivationGeneration)
    (stable : (ledgerDiscipline initial).Stable F) :
    (ledgerDiscipline initial).Triple me F (storeGeneration generation)
      (Returns fun _ w => GenerationStored generation.generationDigest w ∧ F w) := by
  refine triple_call stable (fun _ _ _ => trivial) (fun (created : Bool) w =>
      (created = true → GenerationStored generation.generationDigest w) ∧ F w) ?_
    fun (created : Bool) => ?_
  · rintro w created w' inv known answered -
    have allowed : (ledgerDiscipline initial).permit me w (.writeGenerationIfAbsent generation) :=
      trivial
    refine ⟨fun isCreated => ?_, stable inv allowed answered known⟩
    obtain ⟨-, _, performed⟩ := answered
    rcases written : w.generations.writeIfAbsent generation.generationDigest generation with
      ⟨isNew, generations⟩
    have world : (isNew, { w with generations }) = (created, w') := by
      rw [← performed]
      change _ = w.perform (.writeGenerationIfAbsent generation)
      simp only [LedgerWorld.perform, written]
    obtain ⟨rfl, rfl⟩ := Prod.mk.inj world
    rcases StateStore.writeIfAbsent_cases written with ⟨rfl, -⟩ | ⟨-, -, rfl⟩
    · cases isCreated
    · exact ⟨generation, StateStore.read_write_self _ _, rfl⟩
  · cases created with
    | true => exact triple_pure fun _ _ known => ⟨known.1 rfl, known.2⟩
    | false =>
      refine Triple.pre (F := F) ?_ fun _ _ known => known.2
      refine triple_read stable (fun w => w.generations.read generation.generationDigest)
        (fun _ _ _ => trivial) ?_ fun (existing : Option RuleActivationGeneration) => ?_
      · rintro w a w' ⟨-, _, performed⟩
        obtain ⟨rfl, rfl⟩ := Prod.mk.inj performed
        exact ⟨rfl, rfl⟩
      · split
        · exact triple_throw
        rename_i same
        refine triple_pure fun w _ known => ⟨⟨generation, ?_, rfl⟩, known.1⟩
        exact known.2.trans (not_not.1 same)

/-- **The pointer is moved** from the one that was read; a write that takes effect makes the
command's generation current. -/
theorem triple_changePointer (command : RuleActivationCommand) (pointer : Option Pointer)
    (observed : Option Digest) :
    (ledgerDiscipline initial).Triple me
      (fun w => GenerationStored command.generation.generationDigest w ∧ Unfenced w)
      (changePointer command pointer observed)
      (Returns fun changed w =>
        (changed = true → WasCurrent w.log command.commandDigest) ∧ Unfenced w) := by
  have stable : (ledgerDiscipline initial).Stable fun w =>
      GenerationStored command.generation.generationDigest w ∧ Unfenced w :=
    (stable_generationStored _).and stable_unfenced
  have written {w : LedgerWorld} {value : Pointer} :
      WasCurrent (w.moved command value).log command.commandDigest :=
    ⟨command.generation.generationDigest, List.mem_append_right _ (by simp)⟩
  unfold changePointer
  cases pointer with
  | none =>
    have permitted (w : LedgerWorld) (stored : GenerationStored
        command.generation.generationDigest w) : (ledgerDiscipline initial).permit me w
        (.writePointerIfAbsent command (nextPointer command none observed)) := by
      intro absent
      exact ⟨by rw [absent]; rfl, rfl, rfl, stored⟩
    dsimp only
    rw [← Program.bind_pure (ask _)]
    refine triple_call stable (fun w _ known => permitted w known.1) (fun (changed : Bool) w =>
        (changed = true → WasCurrent w.log command.commandDigest) ∧ Unfenced w) ?_
      fun changed => triple_pure fun _ _ known => known
    rintro w changed w' inv known answered -
    refine ⟨fun isChanged => ?_, stable_unfenced inv (permitted w known.1) answered known.2⟩
    obtain ⟨-, _, performed⟩ := answered
    have world : w.perform (.writePointerIfAbsent command (nextPointer command none observed)) =
        (changed, w') := performed
    unfold LedgerWorld.perform at world
    dsimp only at world
    split at world
    · obtain ⟨-, rfl⟩ := Prod.mk.inj world
      exact written
    · obtain ⟨rfl, -⟩ := Prod.mk.inj world
      cases isChanged
  | some pointer =>
    have permitted (w : LedgerWorld) (known : GenerationStored
        command.generation.generationDigest w) :
        (ledgerDiscipline initial).permit me w (.compareAndSetPointer command
          (nextPointer command (some pointer) observed) pointer.revision) := by
      intro matched
      rcases isStored : w.pointer with _ | stored
      · rw [isStored] at matched
        cases matched
      rw [isStored] at matched
      have same : stored.revision = pointer.revision := of_decide_eq_true matched
      refine ⟨?_, rfl, rfl, known⟩
      rw [isStored]
      change pointer.revision + 1 = stored.revision + 1
      rw [same]
    dsimp only
    rw [← Program.bind_pure (ask _)]
    refine triple_call stable (fun w _ known => permitted w known.1) (fun (changed : Bool) w =>
        (changed = true → WasCurrent w.log command.commandDigest) ∧ Unfenced w) ?_
      fun changed => triple_pure fun _ _ known => known
    rintro w changed w' inv known answered -
    refine ⟨fun isChanged => ?_, stable_unfenced inv (permitted w known.1) answered known.2⟩
    obtain ⟨-, _, performed⟩ := answered
    have world : w.perform (.compareAndSetPointer command
        (nextPointer command (some pointer) observed) pointer.revision) = (changed, w') :=
      performed
    unfold LedgerWorld.perform at world
    dsimp only at world
    split at world
    · obtain ⟨rfl, -⟩ := Prod.mk.inj world
      cases isChanged
    split at world
    · obtain ⟨-, rfl⟩ := Prod.mk.inj world
      exact written
    · obtain ⟨rfl, -⟩ := Prod.mk.inj world
      cases isChanged

theorem backed_result {status : RuleActivationStatus}
    {previous resulting : Option Digest} {verified : Bool} {reason : Option String}
    {log : List LedgerEvent}
    (applied : status.isApplied = true → WasCurrent log command.commandDigest)
    (refused : status.isApplied = false → .refused command.commandDigest ∈ log) :
    Backed log (result command status previous resulting verified reason) :=
  ⟨⟨command, rfl, rfl⟩, applied, refused⟩

theorem triple_applyTransition (command : RuleActivationCommand) (pointer : Option Pointer)
    (observed : Option Digest) :
    (ledgerDiscipline initial).Triple me Unfenced (applyTransition command pointer observed)
      (Returns fun _ _ => True) := by
  refine triple_seq _ (triple_storeGeneration command.generation stable_unfenced) fun _ => ?_
  refine triple_seq _ (triple_changePointer command pointer observed) fun changed => ?_
  have stable : (ledgerDiscipline initial).Stable fun w =>
      (changed = true → WasCurrent w.log command.commandDigest) ∧ Unfenced w := by
    refine Stable.and ?_ stable_unfenced
    intro _ _ _ _ _ inv allowed answered known isChanged
    exact stable_wasCurrent _ inv allowed answered (known isChanged)
  refine triple_seq _ (triple_currentGeneration command .readback stable fun _ known => known.2)
    fun readback => ?_
  have stable : (ledgerDiscipline initial).Stable (Looked command .readback readback) :=
    stable_looked command .readback readback
  refine Triple.pre (F := Looked command .readback readback) ?_ fun _ _ known => known.1
  split
  · rename_i selects
    refine triple_commitResult stable fun w known => backed_result (fun _ => ?_) fun negative => ?_
    · unfold Looked at known
      rwa [if_pos selects] at known
    · cases changed <;> cases negative
  rename_i unselected
  refine triple_commitResult stable fun w known => backed_result (fun positive => ?_) fun _ => ?_
  · cases changed <;> cases positive
  · unfold Looked at known
    rw [if_neg unselected] at known
    exact known rfl

/-- **Every delivery** keeps to the discipline. -/
theorem triple_apply (command : RuleActivationCommand) :
    (ledgerDiscipline initial).Triple me (fun _ => True) (apply command)
      (Returns fun _ _ => True) := by
  unfold apply
  have found : (ledgerDiscipline initial).Triple me (fun _ => True) (resultFor command)
      (Returns fun _ _ => True) := by
    refine triple_keep stable_true (fun _ _ _ => trivial)
      fun (raw : Option RuleActivationResult) => ?_
    rcases raw with _ | result
    · exact triple_pure fun _ _ _ => trivial
    dsimp only
    split
    · exact triple_throw
    · exact triple_pure fun _ _ _ => trivial
  have reserved : (ledgerDiscipline initial).Triple me (fun _ => True) (reserveIdempotency command)
      (Returns fun _ _ => True) := by
    refine triple_keep stable_true (fun _ _ _ => trivial) fun (created : Bool) => ?_
    split
    · exact triple_pure fun _ _ _ => trivial
    refine triple_keep stable_true (fun _ _ _ => trivial)
      fun (existing : Option IdempotencyRecord) => ?_
    split
    · exact triple_throw
    · exact triple_pure fun _ _ _ => trivial
  refine triple_seq _ found fun existing => ?_
  cases existing with
  | some existing => exact triple_pure fun _ _ _ => trivial
  | none =>
    refine triple_seq _ reserved fun _ => ?_
    -- a fenced pointer refuses the command, another one stays unfenced
    refine triple_call stable_true (fun _ _ _ => trivial)
      (fun (pointer : Option Pointer) w => if pointer.any (·.v2Authoritative) = true then
        .refused command.commandDigest ∈ w.log else Unfenced w) ?_
      fun (pointer : Option Pointer) => ?_
    · rintro w pointer w' inv - ⟨-, _, performed⟩ -
      obtain ⟨rfl, rfl⟩ := Prod.mk.inj performed
      split
      · exact List.mem_append_right _ (List.mem_singleton_self _)
      · rename_i unfenced
        exact Bool.eq_false_iff.2 unfenced
    · dsimp only
      split
      · exact triple_commitResult (stable_happened _) fun w isRefused =>
          backed_result (fun positive => by cases positive) fun _ => isRefused
      refine triple_seq _ (triple_currentGeneration command .first stable_unfenced
        fun _ known => known) fun current => ?_
      have stable : (ledgerDiscipline initial).Stable (Looked command .first current) :=
        stable_looked command .first current
      -- a delivery that gives up has been refused
      have refused (gives : givesUp command current .first = true)
          (unselected : current.map (·.generationDigest) ≠
            some command.generation.generationDigest) {w : LedgerWorld}
          (known : Looked command .first current w) :
          .refused command.commandDigest ∈ w.log := by
        unfold Looked at known
        rw [if_neg unselected] at known
        exact known gives
      split
      · rename_i selects
        refine (triple_commitResult stable fun w known => backed_result (fun _ => ?_)
          fun negative => by cases negative).pre fun _ _ known => known.1
        unfold Looked at known
        rwa [if_pos selects] at known
      rename_i unselected
      split
      · rename_i unexpected
        exact (triple_commitResult stable fun w known =>
          backed_result (fun positive => by cases positive) fun _ =>
            refused (by simp [givesUp, unexpected]) unselected known).pre fun _ _ known => known.1
      split
      · rename_i mismatched
        exact (triple_commitResult stable fun w known =>
          backed_result (fun positive => by cases positive) fun _ =>
            refused (by simpa [givesUp] using Or.inr (by simpa using mismatched))
              unselected known).pre fun _ _ known => known.1
      · exact (triple_applyTransition command pointer _).pre fun _ _ known => known.2

end

/-! ## Runs -/

/-- A store to begin with: a pointer, and the generation that it selects. -/
structure LedgerStores where
  pointer : Option Pointer := none
  generations : StateStore Digest fun _ => RuleActivationGeneration := StateStore.empty
  idempotency : StateStore String fun _ => IdempotencyRecord := StateStore.empty
  selected : ∀ current, pointer = some current →
    ∃ g, generations.read current.generationId = some g ∧
      g.generationDigest = current.generationDigest := by simp

def LedgerStores.start (s : LedgerStores) : LedgerWorld :=
  { pointer := s.pointer, generations := s.generations, idempotency := s.idempotency }

theorem ledgerInv_start (s : LedgerStores) : LedgerInv (pointerRevision s.pointer) s.start where
  selected := s.selected
  revisions := rfl
  revision := rfl
  ofCommand _ _ isCurrent := by cases isCurrent
  unfenced _ _ isCurrent := by cases isCurrent
  standing _ _ isCurrent := by cases isCurrent
  agreed _ _ isCurrent := by
    obtain ⟨_, isCurrent⟩ := isCurrent
    cases isCurrent
  terminal _ _ found := by cases found
  truthful _ _ found := by cases found
  closed _ _ isClosing := by cases isClosing
  once := List.nodup_nil

/-- **What the ledger promises**, of the world a run ends in. -/
structure TerminalTruthful (w₀ : LedgerWorld) (moves : List (Move RuleActivationCommand Unit)) :
    Prop where
  /-- A command is recorded as applied exactly if its generation was made, or found to be,
  current. -/
  truthful : ∀ (command : RuleActivationCommand) terminal,
    (ledgerMachine.run (Machine.idle w₀) moves).world.results.read command.requestId =
      some terminal → terminal.commandDigest = command.commandDigest →
    (terminal.status.isApplied = true ↔
      WasCurrent (ledgerMachine.run (Machine.idle w₀) moves).world.log command.commandDigest)
  /-- The revisions follow the one to begin with, without a gap. -/
  contiguous : movedRevisions (ledgerMachine.run (Machine.idle w₀) moves).world.log =
    List.range' (pointerRevision w₀.pointer + 1)
      (movedRevisions (ledgerMachine.run (Machine.idle w₀) moves).world.log).length
  last : pointerRevision (ledgerMachine.run (Machine.idle w₀) moves).world.pointer =
    pointerRevision w₀.pointer +
      (movedRevisions (ledgerMachine.run (Machine.idle w₀) moves).world.log).length
  /-- A request is closed once, and its record stays as it is. -/
  once : (closedRequests (ledgerMachine.run (Machine.idle w₀) moves).world.log).Nodup
  kept : ∀ first rest requestId terminal, moves = first ++ rest →
    (ledgerMachine.run (Machine.idle w₀) first).world.results.read requestId = some terminal →
    (ledgerMachine.run (Machine.idle w₀) moves).world.results.read requestId = some terminal

/-- **Terminal records are truthful** in every orderly run. -/
theorem terminal_truthful (s : LedgerStores) (moves : List (Move RuleActivationCommand Unit))
    (orderly : ledgerMachine.Observes LedgerOrderly (Machine.idle s.start) moves) :
    TerminalTruthful s.start moves := by
  have calls (replica : ℕ) (call : RuleActivationCommand) (w : LedgerWorld)
      (inv : LedgerInv (pointerRevision s.pointer) w) :
      (ledgerMachine.program replica call).Sat
        ((ledgerDiscipline (pointerRevision s.pointer)).regime replica) (fun _ _ => True) w :=
    (triple_apply call w inv trivial).mono fun _ _ _ => trivial
  have start : Machine.Healthy (ledgerDiscipline (pointerRevision s.pointer))
      (fun (_ : Except LedgerError RuleActivationResult) _ => True) (Machine.idle s.start) :=
    Machine.Healthy.idle (ledgerInv_start s)
  have inv := (Machine.run_healthy id calls start orderly).inv
  refine ⟨fun command terminal found same => ?_, inv.revisions, inv.revision, inv.once,
    fun first rest requestId terminal split found => ?_⟩
  · obtain ⟨-, -, backed⟩ := inv.terminal _ terminal found
    rw [← same]
    refine ⟨backed.applied, fun wasCurrent => ?_⟩
    by_contra negative
    exact inv.truthful _ terminal found (Bool.eq_false_iff.2 negative) wasCurrent
  · subst split
    obtain ⟨before, after⟩ := Machine.observes_append.1 orderly
    rw [Machine.run_append]
    exact Machine.run_stable id calls (Machine.run_healthy id calls start before) after
      (stable_terminal requestId terminal) found

/-- Advance one replica. -/
private def deliveries (replica count : ℕ) : List (Move RuleActivationCommand Unit) :=
  List.replicate count (.advance replica ())

private def generationOf (rules : List String) : RuleActivationGeneration :=
  ⟨"p", "1", .text "catalog", rules.map fun rule => ⟨rule, "1", .text rule⟩, 0⟩

/-- A command that activates a generation in place of another one. -/
private def activates (expected : Option RuleActivationGeneration) (rule : String)
    (target : RuleActivationGeneration) : RuleActivationCommand :=
  { proposal :=
      { idempotencyKey := rule
        expectedGenerationDigest := expected.map (·.generationDigest)
        source := .installation, sourceRef := "s", sourceDigest := .text "source"
        requestedBy := "alice", requestedAt := 0, reason := "a reason of some length"
        changes := [⟨rule, true⟩] }
    approval := ⟨["bob"], 1, "ref"⟩, generation := target, commandedAt := 2 }

/-- The first command installs a generation. -/
private def installs : RuleActivationCommand := activates none "r1" (generationOf ["r1"])

private def adds : RuleActivationCommand :=
  activates (some (generationOf ["r1"])) "r2" (generationOf ["r1", "r2"])

/-- One command on its own. -/
private def installedAlone : List (Move RuleActivationCommand Unit) :=
  .start installs :: deliveries 0 9

theorem terminal_truthful_alone : TerminalTruthful (LedgerStores.start {}) installedAlone :=
  terminal_truthful {} installedAlone (by decide +kernel)

/-- The first command moves the pointer and crashes; the second one moves it on, and then the
first one is redelivered. -/
private def movedOn : List (Move RuleActivationCommand Unit) :=
  .start installs :: deliveries 0 6 ++ .crash 0 :: .start adds :: deliveries 1 12 ++
    .start installs :: deliveries 2 8

/-- **A generation that was current** is recorded as a conflict. -/
theorem redelivery_conflicts : ¬ TerminalTruthful (LedgerStores.start {}) movedOn := by
  intro kept
  have found : ((ledgerMachine.run (Machine.idle (LedgerStores.start {})) movedOn).world.results.read
      installs.requestId).any (fun terminal => terminal.commandDigest = installs.commandDigest ∧
        terminal.status = .conflict) = true := by decide +kernel
  have isCurrent : .current installs.commandDigest (generationOf ["r1"]).generationDigest ∈
      (ledgerMachine.run (Machine.idle (LedgerStores.start {})) movedOn).world.log := by
    decide +kernel
  cases isTerminal : (ledgerMachine.run (Machine.idle (LedgerStores.start {}))
      movedOn).world.results.read installs.requestId with
  | none =>
    rw [isTerminal] at found
    cases found
  | some terminal =>
    rw [isTerminal] at found
    obtain ⟨same, conflicts⟩ := of_decide_eq_true found
    have positive := (kept.truthful installs terminal isTerminal same).2 ⟨_, isCurrent⟩
    rw [conflicts] at positive
    cases positive

end Fdai.Core.RuleActivation
