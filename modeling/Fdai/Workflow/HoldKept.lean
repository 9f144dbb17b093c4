import Fdai.Concurrency.Triple
import Fdai.Workflow.HoldLedger

/-!
# A hold is kept

An active hold is only ever replaced by an admitted release of the process that owns it. But
a process that issues a hold where another one's is active has none of its own.

* `HoldOrderly` — the condition: the active hold that an issue finds is its own.
* `HoldStep` — what one call can do to the holds and the authorizations.
* `Numbered` — the invariant: the revisions of a target only grow.
* `hold_kept` — every orderly run keeps every hold that was issued.
-/

namespace Fdai.Core.HoldLedger

open Fdai.Providers Fdai.Concurrency Program Discipline

/-! ## Steps -/

/-- The active hold that is found by a process that issues one is its own. -/
def HoldOrderly (w : HoldWorld) : HoldOp → Prop
  | .readHold targetRef (some issuer) => ∀ record ∈ w.hold targetRef,
      record.state ≠ .released → record.processId = issuer
  | _ => True

instance (w : HoldWorld) (op : HoldOp) : Decidable (HoldOrderly w op) := by
  cases op with
  | readHold _ issuer => cases issuer <;> dsimp only [HoldOrderly] <;> infer_instance
  | _ => exact isTrue trivial

/-- The calls a ledger may make. -/
def HoldPermit (w : HoldWorld) : HoldOp → Prop
  | .writeHoldIfAbsent targetRef value => w.hold targetRef = none → value.state = .active
  | .compareAndSetHold targetRef value expectedRevision =>
    ∀ stored, w.hold targetRef = some stored → stored.revision = expectedRevision →
      stored.state = .released ∧ value.state = .active ∧ value.revision = expectedRevision + 1
  | .compareAndSetGuarded targetRef processId value expectedRevision _ =>
    ∀ stored, w.hold targetRef = some stored → stored.revision = expectedRevision →
      stored.state = .active ∧ stored.processId = processId ∧ value.revision = expectedRevision + 1
  | .compareAndSetAuthorization key value expectedRevision =>
    ∀ stored, w.authorization key = some stored → stored.revision = expectedRevision →
      stored.kind.isReleased = false ∧ value.revision = expectedRevision + 1
  | _ => True

/-- What a permitted call does to the world. -/
inductive HoldStep (w : HoldWorld) : HoldWorld → Prop
  | quiet {w' : HoldWorld} (holds : w'.holds = w.holds)
      (authorizations : w'.authorizations = w.authorizations) (log : w'.log = w.log) :
      HoldStep w w'
  | issued (targetRef : String) (value : HoldRecord)
      (free : ∀ old ∈ w.hold targetRef, old.state = .released ∧ old.revision < value.revision)
      (active : value.state = .active) :
      HoldStep w (w.held targetRef value (.issued targetRef value))
  | released (targetRef : String) (value old : HoldRecord) (found : w.hold targetRef = some old)
      (active : old.state = .active) (raises : value.revision = old.revision + 1) :
      HoldStep w (w.held targetRef value (.released targetRef old.processId old.revision old value))
  | authorized (key : AuthorizationKey) (value : DispatchAuthorization)
      (unreleased : ∀ old ∈ w.authorization key,
        old.kind.isReleased = false ∧ old.revision < value.revision) :
      HoldStep w { w with authorizations := w.authorizations.write key value }

variable {value : HoldRecord}

section

variable {w w' : HoldWorld} {targetRef processId : String}

/-- **What one call can do.** -/
theorem holdStep {op : HoldOp} {a : op.Ans} {normalize : String → String}
    (allowed : HoldPermit w op)
    (answered : (holdMachine normalize).Answers HoldOrderly w op a w') : HoldStep w w' := by
  obtain ⟨-, o, performed⟩ := answered
  obtain ⟨-, rfl⟩ := Prod.mk.inj performed
  cases op with
  | now | readHold | readIntent | readAuthorization | writeIntentIfAbsent =>
    exact .quiet rfl rfl rfl
  | writeHoldIfAbsent target value =>
    change HoldStep w (HoldWorld.perform o w (.writeHoldIfAbsent target value)).2
    unfold HoldWorld.perform
    dsimp only
    split
    · exact .quiet rfl rfl rfl
    rename_i absent
    refine .issued target value (fun old isOld => ?_) (allowed absent)
    rw [absent] at isOld
    cases isOld
  | compareAndSetHold target value expected =>
    change HoldStep w (HoldWorld.perform o w (.compareAndSetHold target value expected)).2
    unfold HoldWorld.perform
    dsimp only
    split
    · exact .quiet rfl rfl rfl
    rename_i stored found
    split
    · rename_i current
      obtain ⟨free, active, raises⟩ := allowed stored found current
      refine .issued target value (fun old isOld => ?_) active
      obtain rfl := Option.some.inj (found.symm.trans isOld)
      exact ⟨free, by omega⟩
    · exact .quiet rfl rfl rfl
  | compareAndSetGuarded target process value expected approval =>
    change HoldStep w
      (HoldWorld.perform o w (.compareAndSetGuarded target process value expected approval)).2
    unfold HoldWorld.perform
    dsimp only
    split
    · exact .quiet rfl rfl rfl
    rename_i stored found
    split
    · rename_i current
      obtain ⟨rfl, -⟩ := current
      obtain ⟨active, rfl, raises⟩ := allowed stored found rfl
      exact .released target value stored found active raises
    · exact .quiet rfl rfl rfl
  | writeAuthorizationIfAbsent key value =>
    rcases written : w.authorizations.writeIfAbsent key value with ⟨created, authorizations⟩
    have performed : (HoldWorld.perform o w (.writeAuthorizationIfAbsent key value)).2 =
        { w with authorizations } := by
      simp only [HoldWorld.perform, written]
    change HoldStep w (HoldWorld.perform o w (.writeAuthorizationIfAbsent key value)).2
    rw [performed]
    rcases StateStore.writeIfAbsent_cases written with ⟨-, rfl, -⟩ | ⟨-, absent, rfl⟩
    · exact .quiet rfl rfl rfl
    refine .authorized key value fun old isOld => ?_
    have absent : w.authorization key = none := absent
    rw [absent] at isOld
    cases isOld
  | compareAndSetAuthorization key value expected =>
    rcases written : w.authorizations.compareAndSet
      (fun _ authorization => authorization.revision) key value expected with
      ⟨committed, authorizations⟩
    have performed : (HoldWorld.perform o w
        (.compareAndSetAuthorization key value expected)).2 = { w with authorizations } := by
      simp only [HoldWorld.perform, written]
    change HoldStep w (HoldWorld.perform o w (.compareAndSetAuthorization key value expected)).2
    rw [performed]
    rcases StateStore.compareAndSet_cases written with
      ⟨-, rfl⟩ | ⟨-, rfl, stored, found, current⟩
    · exact .quiet rfl rfl rfl
    refine .authorized key value fun old isOld => ?_
    have found : w.authorization key = some stored := found
    obtain rfl := Option.some.inj (found.symm.trans isOld)
    obtain ⟨unreleased, raises⟩ := allowed _ found current
    exact ⟨unreleased, by omega⟩

/-! ### The log -/

def HoldEvent.revisionOf (target : String) : HoldEvent → Option ℕ
  | .issued other hold => if other = target then some hold.revision else none
  | .released other _ _ _ hold => if other = target then some hold.revision else none

/-- The revisions of a target, in their order. -/
def revisions (target : String) (log : List HoldEvent) : List ℕ :=
  log.filterMap (HoldEvent.revisionOf target)

def HoldEvent.releaseOf (target : String) : HoldEvent → Option ℕ
  | .issued _ _ => none
  | .released other _ holdRevision _ _ => if other = target then some holdRevision else none

def releases (target : String) (log : List HoldEvent) : List ℕ :=
  log.filterMap (HoldEvent.releaseOf target)

/-- **Revisions grow**, and the stored one is the last of them. -/
structure Numbered (w : HoldWorld) : Prop where
  increases : ∀ target, (revisions target w.log).Pairwise (· < ·)
  last : ∀ target, ∀ revision ∈ revisions target w.log,
    ∃ record, w.hold target = some record ∧ revision ≤ record.revision
  /-- A release gives the revision after the one it releases. -/
  next : ∀ target processId holdRevision replaced hold,
    .released target processId holdRevision replaced hold ∈ w.log → hold.revision = holdRevision + 1

theorem hold_held {event : HoldEvent} (target : String) :
    (w.held targetRef value event).hold target =
      if target = targetRef then some value else w.hold target := by
  change (w.holds.write targetRef value).read target = _
  by_cases same : target = targetRef
  · subst same
    rw [StateStore.read_write_self, if_pos rfl]
  · rw [StateStore.read_write_ne _ same, if_neg same]

/-- One more revision of a target, which is stored. -/
private theorem Numbered.held (numbered : Numbered w) (targetRef : String) (value : HoldRecord)
    (event : HoldEvent) (isRevision : ∀ target, event.revisionOf target =
      if target = targetRef then some value.revision else none)
    (raises : ∀ old ∈ w.hold targetRef, old.revision < value.revision) (target : String) :
    (revisions target (w.held targetRef value event).log).Pairwise (· < ·) ∧
      ∀ revision ∈ revisions target (w.held targetRef value event).log,
        ∃ record, (w.held targetRef value event).hold target = some record ∧
          revision ≤ record.revision := by
  have log : revisions target (w.held targetRef value event).log =
      revisions target w.log ++ (event.revisionOf target).toList := by
    change revisions target (w.log ++ [event]) = _
    unfold revisions
    rw [List.filterMap_append]
    cases isNew : event.revisionOf target with
    | none | some _ => simp [isNew]
  rw [log, isRevision, hold_held]
  by_cases same : target = targetRef
  · subst same
    have below : ∀ revision ∈ revisions target w.log, revision < value.revision := by
      intro revision isRevision
      obtain ⟨record, stored, le⟩ := numbered.last target revision isRevision
      exact lt_of_le_of_lt le (raises record stored)
    rw [if_pos rfl, if_pos rfl]
    refine ⟨?_, fun revision isRevision => ⟨value, rfl, ?_⟩⟩
    · rw [Option.toList_some, List.pairwise_append]
      refine ⟨numbered.increases target, List.pairwise_singleton _ _, fun r isOld r' isNew => ?_⟩
      rw [List.mem_singleton.1 isNew]
      exact below r isOld
    · rcases List.mem_append.1 isRevision with old | new
      · exact (below revision old).le
      · simp at new
        exact new.le
  · rw [if_neg same, if_neg same, Option.toList_none, List.append_nil]
    exact ⟨numbered.increases target, numbered.last target⟩

/-- **Numbers stay in order.** -/
theorem Numbered.step (numbered : Numbered w) (step : HoldStep w w') : Numbered w' := by
  cases step with
  | quiet holds _ log =>
    constructor
    · rw [log]
      exact numbered.increases
    · unfold HoldWorld.hold
      rw [log, holds]
      exact numbered.last
    · rw [log]
      exact numbered.next
  | authorized => exact ⟨numbered.increases, numbered.last, numbered.next⟩
  | issued target value free _ =>
    have held := numbered.held target value (.issued target value) (fun other =>
      if_congr eq_comm rfl rfl) fun old isOld => (free old isOld).2
    refine ⟨fun other => (held other).1, fun other => (held other).2, ?_⟩
    intro other process revision replaced hold isEvent
    rcases List.mem_append.1 isEvent with old | new
    · exact numbered.next other process revision replaced hold old
    · cases List.mem_singleton.1 new
  | released target value old found active raises =>
    have held := numbered.held target value (.released target old.processId old.revision old value)
      (fun other => if_congr eq_comm rfl rfl) fun stored isStored => by
        obtain rfl := Option.some.inj (found.symm.trans isStored)
        omega
    refine ⟨fun other => (held other).1, fun other => (held other).2, ?_⟩
    intro other process revision replaced hold isEvent
    rcases List.mem_append.1 isEvent with old | new
    · exact numbered.next other process revision replaced hold old
    · cases List.mem_singleton.1 new
      exact raises

theorem releases_sublist {log : List HoldEvent} (target : String)
    (next : ∀ target processId holdRevision replaced hold,
      .released target processId holdRevision replaced hold ∈ log →
        hold.revision = holdRevision + 1) :
    ((releases target log).map (· + 1)).Sublist (revisions target log) := by
  induction log with
  | nil => exact List.Sublist.refl _
  | cons event rest ih =>
    have later := ih fun target process revision replaced hold isEvent =>
      next target process revision replaced hold (List.mem_cons_of_mem _ isEvent)
    unfold releases revisions at later ⊢
    cases event with
    | issued other hold =>
      rw [List.filterMap_cons_none rfl, List.filterMap_cons]
      split
      · exact later
      · exact later.cons _
    | released other process revision replaced hold =>
      have raises : hold.revision = revision + 1 :=
        next other process revision replaced hold List.mem_cons_self
      by_cases same : other = target
      · have isRelease : HoldEvent.releaseOf target
            (.released other process revision replaced hold) = some revision := if_pos same
        have isRevision : HoldEvent.revisionOf target
            (.released other process revision replaced hold) = some (revision + 1) := by
          rw [← raises]
          exact if_pos same
        rw [List.filterMap_cons_some isRelease, List.filterMap_cons_some isRevision, List.map_cons]
        exact later.cons_cons _
      · have isRelease : HoldEvent.releaseOf target
            (.released other process revision replaced hold) = none := if_neg same
        have isRevision : HoldEvent.revisionOf target
            (.released other process revision replaced hold) = none := if_neg same
        rw [List.filterMap_cons_none isRelease, List.filterMap_cons_none isRevision]
        exact later

/-- **A revision is released once.** -/
theorem Numbered.releases_nodup (numbered : Numbered w) (target : String) :
    (releases target w.log).Nodup := by
  have increases := (numbered.increases target).sublist (releases_sublist target numbered.next)
  rw [List.pairwise_map] at increases
  exact increases.imp fun before => by omega

end

/-! ## The discipline -/

/-- Processes over one store, as replicas that keep to `HoldPermit`. -/
def holdDiscipline (normalize : String → String) : Discipline HoldOp HoldOp.Ans HoldWorld where
  permit _ := HoldPermit
  answers := (holdMachine normalize).Answers HoldOrderly
  inv := Numbered
  kept allowed answered numbered := numbered.step (holdStep allowed answered)

/-- The hold that was read is stored, or one of a later revision is. -/
def HoldAt (targetRef : String) (read : HoldRecord) (w : HoldWorld) : Prop :=
  ∃ stored, w.hold targetRef = some stored ∧ (stored = read ∨ read.revision < stored.revision)

/-- The authorization that was read is stored, or one of a later revision is. -/
def AuthorizationAt (key : AuthorizationKey) (read : DispatchAuthorization) (w : HoldWorld) :
    Prop :=
  ∃ stored, w.authorization key = some stored ∧ (stored = read ∨ read.revision < stored.revision)

def Owned (targetRef processId : String) (w : HoldWorld) : Prop :=
  ∃ record, w.hold targetRef = some record ∧ record.state = .active ∧ record.processId = processId

/-- The process's own active hold was released, at its revision. -/
def ReleasedBy (targetRef processId : String) (events : List HoldEvent) : Prop :=
  ∃ replaced hold, .released targetRef processId replaced.revision replaced hold ∈ events ∧
    replaced.state = .active ∧ replaced.processId = processId

/-- Since the log was as it was, the process has had its hold, or it was released. -/
def Protected (targetRef processId : String) (before : List HoldEvent) (w : HoldWorld) : Prop :=
  ∃ since, w.log = before ++ since ∧
    (Owned targetRef processId w ∨ ReleasedBy targetRef processId since)

section

variable {normalize : String → String} {targetRef processId : String}

variable {w w' : HoldWorld}

/-- A hold that is written has a later revision. -/
theorem HoldStep.hold_cases (step : HoldStep w w') (target : String) :
    w'.hold target = w.hold target ∨ ∃ value, w'.hold target = some value ∧
      ∀ old ∈ w.hold target, old.revision < value.revision := by
  cases step with
  | quiet holds =>
    unfold HoldWorld.hold
    rw [holds]
    exact .inl rfl
  | authorized => exact .inl rfl
  | issued other value free _ =>
    rw [hold_held]
    split
    · rename_i same
      rw [same]
      exact .inr ⟨value, rfl, fun old isOld => (free old isOld).2⟩
    · exact .inl rfl
  | released other value old found _ raises =>
    rw [hold_held]
    split
    · rename_i same
      rw [same]
      refine .inr ⟨value, rfl, fun stored isStored => ?_⟩
      obtain rfl := Option.some.inj (found.symm.trans isStored)
      omega
    · exact .inl rfl

theorem stable_holdAt (read : HoldRecord) :
    (holdDiscipline normalize).Stable (HoldAt targetRef read) := by
  rintro _ w _ _ w' _ allowed answered ⟨stored, found, state⟩
  rcases (holdStep allowed answered).hold_cases targetRef with same | ⟨value, new, raises⟩
  · exact ⟨stored, same.trans found, state⟩
  have raised := raises stored found
  refine ⟨value, new, .inr ?_⟩
  rcases state with rfl | later
  · exact raised
  · exact later.trans raised

theorem stable_authorizationAt (key : AuthorizationKey) (read : DispatchAuthorization) :
    (holdDiscipline normalize).Stable (AuthorizationAt key read) := by
  rintro _ w _ _ w' _ allowed answered ⟨stored, found, state⟩
  cases holdStep allowed answered with
  | quiet _ authorizations =>
    unfold AuthorizationAt HoldWorld.authorization
    rw [authorizations]
    exact ⟨stored, found, state⟩
  | issued | released => exact ⟨stored, found, state⟩
  | authorized other value unreleased =>
    by_cases same : key = other
    · subst same
      have raised := (unreleased stored found).2
      refine ⟨value, StateStore.read_write_self _ _, .inr ?_⟩
      rcases state with rfl | later
      · exact raised
      · exact later.trans raised
    · exact ⟨stored, (StateStore.read_write_ne _ same).trans found, state⟩

/-- **A released authorization** is never written again. -/
theorem stable_releasedAuthorization (key : AuthorizationKey) {read : DispatchAuthorization}
    (released : read.kind.isReleased = true) :
    (holdDiscipline normalize).Stable fun w => w.authorization key = some read := by
  intro _ w _ _ w' _ allowed answered found
  cases holdStep allowed answered with
  | quiet _ authorizations =>
    unfold HoldWorld.authorization
    rw [authorizations]
    exact found
  | issued | released => exact found
  | authorized other value unreleased =>
    by_cases same : key = other
    · subst same
      rw [(unreleased read found).1] at released
      cases released
    · exact (StateStore.read_write_ne _ same).trans found

/-- **A hold is protected** until its process releases it. -/
theorem stable_protected (before : List HoldEvent) :
    (holdDiscipline normalize).Stable (Protected targetRef processId before) := by
  rintro _ w _ _ w' _ allowed answered ⟨since, log, state⟩
  have later (event : HoldEvent) (released : ReleasedBy targetRef processId since) :
      ReleasedBy targetRef processId (since ++ [event]) := by
    obtain ⟨replaced, hold, isEvent, active, own⟩ := released
    exact ⟨replaced, hold, List.mem_append_left _ isEvent, active, own⟩
  have grown (target : String) (value : HoldRecord) (event : HoldEvent) :
      (w.held target value event).log = before ++ (since ++ [event]) := by
    change w.log ++ [event] = _
    rw [log, List.append_assoc]
  cases holdStep allowed answered with
  | quiet holds _ sameLog =>
    refine ⟨since, sameLog.trans log, state.imp_left fun owned => ?_⟩
    unfold Owned HoldWorld.hold
    rw [holds]
    exact owned
  | authorized => exact ⟨since, log, state⟩
  | issued target value free _ =>
    refine ⟨since ++ [.issued target value], grown _ _ _, ?_⟩
    rcases state with ⟨record, found, active, own⟩ | released
    · -- a hold that is active is not issued over
      refine .inl ⟨record, ?_, active, own⟩
      rw [hold_held, if_neg]
      · exact found
      · rintro rfl
        rw [(free record found).1] at active
        cases active
    · exact .inr (later _ released)
  | released target value old found _ _ =>
    refine ⟨since ++ [.released target old.processId old.revision old value], grown _ _ _, ?_⟩
    rcases state with ⟨record, isRecord, active, own⟩ | released
    · by_cases same : targetRef = target
      · subst same
        obtain rfl := Option.some.inj (found.symm.trans isRecord)
        refine .inr ⟨old, value, ?_, active, own⟩
        rw [own]
        exact List.mem_append_right _ List.mem_cons_self
      refine .inl ⟨record, ?_, active, own⟩
      rw [hold_held, if_neg same]
      exact isRecord
    · exact .inr (later _ released)

/-! ## Operations -/

variable {me : ℕ} {α : Type} {goal : α → HoldWorld → Prop}

/-- A first write of a hold that is stored. -/
theorem hold_of_writeHoldIfAbsent (answered : (holdMachine normalize).Answers HoldOrderly w
      (.writeHoldIfAbsent targetRef value) true w') : w'.hold targetRef = some value := by
  obtain ⟨-, o, performed⟩ := answered
  change HoldWorld.perform o w (.writeHoldIfAbsent targetRef value) = _ at performed
  unfold HoldWorld.perform at performed
  dsimp only at performed
  split at performed
  · cases performed
  · obtain ⟨-, rfl⟩ := Prod.mk.inj performed
    rw [hold_held, if_pos rfl]

/-- A compare-and-set of a hold that takes effect. -/
theorem hold_of_compareAndSetHold {expected : ℕ}
    (answered : (holdMachine normalize).Answers HoldOrderly w
      (.compareAndSetHold targetRef value expected) true w') :
    w'.hold targetRef = some value := by
  obtain ⟨-, o, performed⟩ := answered
  change HoldWorld.perform o w (.compareAndSetHold targetRef value expected) = _ at performed
  unfold HoldWorld.perform at performed
  dsimp only at performed
  split at performed
  · cases performed
  split at performed
  · obtain ⟨-, rfl⟩ := Prod.mk.inj performed
    rw [hold_held, if_pos rfl]
  · cases performed

/-- **Issuing** leaves the process with an active hold of its own. -/
theorem triple_issueUnlocked (reason : String) (rounds : ℕ) :
    (holdDiscipline normalize).Triple me (fun _ => True)
      (issueUnlocked targetRef processId reason rounds)
      (Returns fun _ => Owned targetRef processId) := by
  induction rounds with
  | zero => exact triple_throw
  | succ rounds ih =>
    have owned (now : Datetime) (revision : ℕ) {w : HoldWorld} (stored : w.hold targetRef =
          some (issuedHold targetRef processId reason now revision)) :
        Owned targetRef processId w := ⟨_, stored, rfl, rfl⟩
    refine triple_call stable_true (fun _ _ _ => trivial)
      (fun (read : Option HoldRecord) w => w.hold targetRef = read ∧
        ∀ record ∈ read, record.state ≠ .released → record.processId = processId) ?_
      fun (read : Option HoldRecord) => ?_
    · rintro w read w' _ _ ⟨orderly, o, performed⟩ _
      obtain ⟨rfl, rfl⟩ := Prod.mk.inj performed
      exact ⟨rfl, orderly⟩
    · cases read with
      | none =>
        refine Triple.pre (F := fun _ => True) ?_ fun _ _ _ => trivial
        refine triple_keep stable_true (fun _ _ _ => trivial) fun now => ?_
        refine triple_call stable_true (fun _ _ _ _ => rfl)
          (fun (created : Bool) w => created = true → Owned targetRef processId w) ?_
          fun (created : Bool) => ?_
        · rintro w created w' _ _ answered _ rfl
          exact owned now 1 (hold_of_writeHoldIfAbsent answered)
        · split
          · rename_i isCreated
            exact triple_pure fun w _ known => known isCreated
          · exact ih.pre fun _ _ _ => trivial
      | some existing =>
        dsimp only
        split
        · rename_i active
          refine triple_pure fun w _ ⟨found, own⟩ =>
            ⟨existing, found, ?_, own existing rfl active⟩
          cases state : existing.state with
          | active => rfl
          | released => exact absurd state active
        · rename_i notActive
          have released : existing.state = .released := not_not.1 notActive
          have stable : (holdDiscipline normalize).Stable (HoldAt targetRef existing) :=
            stable_holdAt existing
          refine Triple.pre (F := HoldAt targetRef existing) ?_
            fun _ _ ⟨found, _⟩ => ⟨existing, found, .inl rfl⟩
          refine triple_keep stable (fun _ _ _ => trivial) fun now => ?_
          refine triple_call stable ?_
            (fun (committed : Bool) w => committed = true → Owned targetRef processId w) ?_
            fun (committed : Bool) => ?_
          · rintro w - ⟨stored, found, state⟩ other isOther current
            obtain rfl := Option.some.inj (found.symm.trans isOther)
            rcases state with rfl | later
            · exact ⟨released, rfl, rfl⟩
            · omega
          · rintro w committed w' _ _ answered _ rfl
            exact owned now _ (hold_of_compareAndSetHold answered)
          · split
            · rename_i isCommitted
              exact triple_pure fun w _ known => known isCommitted
            · exact ih.pre fun _ _ _ => trivial

/-- A program that keeps to the discipline wherever it starts. -/
abbrev Keeps (normalize : String → String) (me : ℕ) (p : Holding α) : Prop :=
  (holdDiscipline normalize).Triple me (fun _ => True) p (Returns fun _ _ => True)

theorem keeps_pure {a : α} : Keeps normalize me (pure a) := triple_pure fun _ _ _ => trivial

/-- A call that is always permitted. -/
theorem keeps_ask {op : HoldOp} {f : op.Ans → Holding α} (permitted : ∀ w, HoldPermit w op)
    (next : ∀ a, Keeps normalize me (f a)) : Keeps normalize me (ask op >>= f) :=
  triple_keep stable_true (fun w _ _ => permitted w) next

theorem keeps_seq {β : Type} {p : Holding β} {f : β → Holding α} (first : Keeps normalize me p)
    (next : ∀ b, Keeps normalize me (f b)) : Keeps normalize me (p >>= f) :=
  triple_seq _ first next

theorem keeps_replaceHoldScopedAuthorization (key : AuthorizationKey)
    (record : DispatchAuthorization) (rounds : ℕ) :
    Keeps normalize me (replaceHoldScopedAuthorization key record rounds) := by
  induction rounds with
  | zero => exact keeps_pure
  | succ rounds ih =>
    refine triple_read stable_true (fun w => w.authorization key) (fun _ _ _ => trivial) ?_
      fun (stored : Option DispatchAuthorization) => ?_
    · rintro w a w' ⟨-, o, performed⟩
      obtain ⟨rfl, rfl⟩ := Prod.mk.inj performed
      exact ⟨rfl, rfl⟩
    · rcases stored with _ | stored
      · exact triple_pure fun _ _ _ => trivial
      dsimp only
      split
      · exact triple_pure fun _ _ _ => trivial
      rename_i unreleased
      refine Triple.pre (F := AuthorizationAt key stored) ?_
        fun _ _ known => ⟨stored, known.2, .inl rfl⟩
      refine triple_keep (stable_authorizationAt key stored) ?_ fun (committed : Bool) => ?_
      · rintro w - ⟨current, found, state⟩ other isOther same
        obtain rfl := Option.some.inj (found.symm.trans isOther)
        rcases state with rfl | later
        · exact ⟨by simpa using unreleased, rfl⟩
        · omega
      · split
        · exact triple_pure fun _ _ _ => trivial
        · exact ih.pre fun _ _ _ => trivial

theorem keeps_recordReleaseAuthorization (target : String) (receipt : ReleaseReceipt)
    (digest : Digest) (lineage : Option (String × String)) :
    Keeps normalize me (recordReleaseAuthorization target receipt digest lineage) := by
  rcases lineage with _ | lineage
  · exact keeps_pure
  unfold recordReleaseAuthorization
  dsimp only
  split
  · exact keeps_pure
  refine keeps_ask (fun _ => trivial) fun (created : Bool) => ?_
  split
  · exact keeps_pure
  · exact keeps_replaceHoldScopedAuthorization _ _ 3

theorem keeps_bindReceipt (request : ReleaseRequest) (digest : Digest)
    (receipt : Option ReleaseReceipt) : Keeps normalize me (bindReceipt request digest receipt) := by
  rcases receipt with _ | receipt
  · exact keeps_pure
  exact keeps_seq (keeps_recordReleaseAuthorization _ _ _ _) fun _ => keeps_pure

/-- **The guarded write** replaces the process's own active hold. -/
theorem keeps_commitRelease {request : ReleaseRequest} {record : HoldRecord}
    (active : record.matchesActive request.targetRef request.processId request.holdRevision = true)
    (admission : EvidenceAdmission) (evidenceDigest : Digest) (releasedAt : ℤ) :
    (holdDiscipline normalize).Triple me (HoldAt request.targetRef record)
      (commitRelease request admission evidenceDigest record releasedAt)
      (Returns fun _ _ => True) := by
  have anywhere {β : Type} {p : Holding β} (keeps : Keeps normalize me p) :
      (holdDiscipline normalize).Triple me (HoldAt request.targetRef record) p
        (Returns fun _ _ => True) := keeps.pre fun _ _ _ => trivial
  unfold commitRelease
  dsimp only
  refine triple_keep (stable_holdAt record) (fun _ _ _ => trivial) fun (reading : Datetime) => ?_
  cases reading with
  | naive _ => exact anywhere keeps_pure
  | aware evaluatedAt =>
    dsimp only
    split
    · exact anywhere keeps_pure
    split
    · exact anywhere keeps_pure
    refine triple_keep (stable_holdAt record) ?_ fun (committed : Bool) => ?_
    · rintro w - ⟨stored, found, state⟩ other isOther current
      obtain rfl := Option.some.inj (found.symm.trans isOther)
      simp only [HoldRecord.matchesActive, Bool.and_eq_true, decide_eq_true_eq] at active
      obtain ⟨⟨⟨-, isActive⟩, own⟩, revision⟩ := active
      rcases state with rfl | later
      · exact ⟨isActive, own, rfl⟩
      · omega
    · split
      · exact anywhere (keeps_bindReceipt _ _ _)
      · exact anywhere (keeps_ask (fun _ => trivial) fun _ => keeps_bindReceipt _ _ _)

theorem keeps_releaseAdmitted (request : ReleaseRequest) :
    Keeps normalize me (releaseAdmitted normalize request) := by
  unfold releaseAdmitted
  split
  · exact keeps_pure
  rename_i admission evidenceDigest _
  refine triple_read stable_true (fun w => w.hold request.targetRef) (fun _ _ _ => trivial) ?_
    fun (record : Option HoldRecord) => ?_
  · rintro w a w' ⟨-, o, performed⟩
    obtain ⟨rfl, rfl⟩ := Prod.mk.inj performed
    exact ⟨rfl, rfl⟩
  · dsimp only
    split
    · exact (keeps_bindReceipt _ _ _).pre fun _ _ _ => trivial
    rcases record with _ | record
    · refine Triple.pre (F := fun _ => True) ?_ fun _ _ _ => trivial
      refine keeps_ask (fun _ => trivial) fun (reading : Datetime) => ?_
      cases reading <;> exact keeps_pure
    refine Triple.pre (F := HoldAt request.targetRef record) ?_
      fun _ _ known => ⟨record, known.2, .inl rfl⟩
    refine triple_keep (stable_holdAt record) (fun _ _ _ => trivial) fun (reading : Datetime) => ?_
    cases reading with
    | naive _ => exact triple_pure fun _ _ _ => trivial
    | aware evaluatedAt =>
      dsimp only
      split
      · exact triple_pure fun _ _ _ => trivial
      split
      · exact triple_pure fun _ _ _ => trivial
      split
      · exact triple_pure fun _ _ _ => trivial
      rename_i isActive
      have active : record.matchesActive request.targetRef request.processId
          request.holdRevision = true := not_not.1 isActive
      -- the intent of a release is of no hold
      have intent (digest : Digest) (intent : ReleaseIntent) :
          Keeps normalize me (releaseIntent digest intent) := by
        refine keeps_ask (fun _ => trivial) fun (created : Bool) => ?_
        split
        · exact keeps_pure
        · exact keeps_ask (fun _ => trivial) fun _ => keeps_pure
      refine triple_seq _ ((intent _ _).frame_returns (stable_holdAt record)) fun found => ?_
      rcases found with _ | found
      · exact triple_pure fun _ _ _ => trivial
      exact (keeps_commitRelease active admission evidenceDigest _).pre fun _ _ known => known.2

theorem keeps_authorizeHoldScopedDispatch (target process step : String) (revision : ℕ) :
    Keeps normalize me (authorizeHoldScopedDispatch target process step revision) := by
  unfold authorizeHoldScopedDispatch
  split
  · exact keeps_pure
  refine keeps_ask (fun _ => trivial) fun (record : Option HoldRecord) => ?_
  split
  · exact keeps_pure
  refine keeps_ask (fun _ => trivial) fun (created : Bool) => ?_
  split
  · exact keeps_pure
  · exact keeps_ask (fun _ => trivial) fun _ => keeps_pure

/-- What a call returns with. -/
def HoldPost : HoldResult → HoldWorld → Prop
  | .issued targetRef processId => Owned targetRef processId
  | .released _ | .authorized _ => fun _ => True

theorem triple_program (request : HoldRequest) :
    (holdDiscipline normalize).Triple me (fun _ => True) (request.program normalize)
      (Returns HoldPost) := by
  cases request with
  | issue targetRef processId reason => exact triple_map (triple_issueUnlocked reason 3)
  | release request => exact triple_map (keeps_releaseAdmitted request)
  | authorize target process step revision =>
    exact triple_map (keeps_authorizeHoldScopedDispatch target process step revision)

end

/-! ## Runs -/

/-- **What the ledger promises**, of the world a run ends in. -/
structure HoldKept (normalize : String → String) (w₀ : HoldWorld)
    (moves : List (Move HoldRequest HoldOracle)) : Prop where
  /-- Once an issue has returned, the target is held until the process's own active hold is
  released, at its revision. -/
  held : ∀ first m rest targetRef processId, moves = first ++ m :: rest →
    (holdMachine normalize).Finishes ((holdMachine normalize).run (Machine.idle w₀) first) m
      (.ok (.issued targetRef processId)) →
    isHeld targetRef (((holdMachine normalize).run (Machine.idle w₀) moves).world.hold targetRef) =
        true ∨
      ∃ since, ((holdMachine normalize).run (Machine.idle w₀) moves).world.log =
          ((holdMachine normalize).run (Machine.idle w₀) (first ++ [m])).world.log ++ since ∧
        ReleasedBy targetRef processId since
  increases : ∀ targetRef, (revisions targetRef
    ((holdMachine normalize).run (Machine.idle w₀) moves).world.log).Pairwise (· < ·)
  once : ∀ targetRef, (releases targetRef
    ((holdMachine normalize).run (Machine.idle w₀) moves).world.log).Nodup
  /-- An authorization of a release stays as it was recorded. -/
  authorizations : ∀ first rest key authorization, moves = first ++ rest →
    ((holdMachine normalize).run (Machine.idle w₀) first).world.authorization key =
      some authorization → authorization.kind.isReleased = true →
    ((holdMachine normalize).run (Machine.idle w₀) moves).world.authorization key =
      some authorization

/-- A store to begin with. -/
structure HoldStores where
  holds : StateStore String fun _ => HoldRecord := StateStore.empty
  intents : StateStore Digest fun _ => ReleaseIntent := StateStore.empty
  authorizations : StateStore AuthorizationKey fun _ => DispatchAuthorization := StateStore.empty

def HoldStores.start (s : HoldStores) : HoldWorld :=
  ⟨s.holds, s.intents, s.authorizations, []⟩

theorem numbered_start (s : HoldStores) : Numbered s.start where
  increases _ := List.Pairwise.nil
  last _ _ isRevision := by cases isRevision
  next _ _ _ _ _ isEvent := by cases isEvent

/-- **Holds are kept** in every orderly run. -/
theorem hold_kept (normalize : String → String) (s : HoldStores)
    (moves : List (Move HoldRequest HoldOracle))
    (orderly : (holdMachine normalize).Observes HoldOrderly (Machine.idle s.start) moves) :
    HoldKept normalize s.start moves := by
  let post : Except HoldError HoldResult → HoldWorld → Prop := fun r w =>
    Numbered w ∧ Returns HoldPost r w
  have calls (replica : ℕ) (call : HoldRequest) (w : HoldWorld) (inv : Numbered w) :
      ((holdMachine normalize).program replica call).Sat
        ((holdDiscipline normalize).regime replica) post w :=
    triple_program call w inv trivial
  have start : Machine.Healthy (holdDiscipline normalize) post (Machine.idle s.start) :=
    Machine.Healthy.idle (numbered_start s)
  have numbered := (Machine.run_healthy id calls start orderly).inv
  refine ⟨fun first m rest target process split finishes => ?_, numbered.increases,
    numbered.releases_nodup, fun first rest key authorization split found released => ?_⟩
  · subst split
    obtain ⟨before, admits, after⟩ := Machine.observes_append.1 orderly
    have healthy := Machine.run_healthy id calls start before
    obtain ⟨-, record, isRecord, active, own⟩ := healthy.finishes id admits finishes
    let reached := (holdMachine normalize).move
      ((holdMachine normalize).run (Machine.idle s.start) first) m
    have stable : (holdDiscipline normalize).Stable
        (Protected target process reached.world.log) := stable_protected _
    have isProtected := Machine.run_stable id calls (healthy.move id calls admits) after stable
      ⟨[], by simp [reached], .inl ⟨record, isRecord, active, own⟩⟩
    rw [← Machine.run_cons, ← Machine.run_append] at isProtected
    obtain ⟨since, log, ⟨held, isHold, isActive, -⟩ | released⟩ := isProtected
    · refine .inl ?_
      rw [isHold]
      simp [isHeld, isActive]
    · refine .inr ⟨since, ?_, released⟩
      rw [log, Machine.run_append]
      rfl
  · subst split
    obtain ⟨before, after⟩ := Machine.observes_append.1 orderly
    have healthy := Machine.run_healthy id calls start before
    rw [Machine.run_append]
    exact Machine.run_stable id calls healthy after (stable_releasedAuthorization key released)
      found

private def advances (replica count : ℕ) : List (Move HoldRequest HoldOracle) :=
  List.replicate count (.advance replica {})

/-- One process issues a hold of a target. -/
private def issuedAlone : List (Move HoldRequest HoldOracle) :=
  .start (.issue "vm" "a" "failed") :: advances 0 3

/-- A process that finds no hold issues its own. -/
theorem hold_kept_alone : HoldKept id (HoldStores.start {}) issuedAlone :=
  hold_kept id {} issuedAlone (by decide +kernel)

/-- An approval that is current at time zero. -/
private def anApproval : ApprovalSnapshot :=
  { processId := "a", stepId := "s", requesterPrincipal := "p", revision := 1
    requestedAt := .aware 0, expiresAt := some (.aware 1) }

private def aRelease : ReleaseRequest :=
  { targetRef := "vm", processId := "a", actionId := "restart", holdRevision := 1
    approvalSnapshot := anApproval, quorum := 1, noSelfApproval := true
    compensationReceiptDigests :=
      ["sha256:0123456789abcdef0123456789abcdef0123456789abcdef0123456789abcdef"]
    executorIdentity := "e", sourceRevision := "r"
    assessment := ⟨.none, .none, "r", none⟩ }

/-- The release of the first process's hold, with an admission of its evidence. -/
private def admittedRelease : ReleaseRequest :=
  let evidenceDigest := (aRelease.evidenceDigest id).getD .none
  let scopeDigest := aRelease.scopeDigest
  { aRelease with
    assessment := ⟨evidenceDigest, scopeDigest, "r",
      some ⟨evidenceDigest, scopeDigest, recoveryEvidencePurpose, "r", 0, 0, .text "admission"⟩⟩ }

/-- A second process issues a hold, and finds the first one's. -/
private def issuedTwice : List (Move HoldRequest HoldOracle) :=
  issuedAlone ++ [.start (.issue "vm" "b" "failed")]

/-- The first process releases its hold. -/
private def releasedOnce : List (Move HoldRequest HoldOracle) :=
  .start (.release admittedRelease) :: advances 2 5

/-- **The second process's hold is gone** with the first one's. -/
theorem second_process_unheld : ¬ HoldKept id (HoldStores.start {})
    (issuedTwice ++ .advance 1 {} :: releasedOnce) := by
  intro kept
  have finishes : (holdMachine id).Finishes
      ((holdMachine id).run (Machine.idle (HoldStores.start {})) issuedTwice) (.advance 1 {})
      (.ok (.issued "vm" "b")) :=
    Machine.finishes_of_finished (by decide +kernel) (by decide +kernel)
  rcases kept.held issuedTwice (.advance 1 {}) releasedOnce "vm" "b" rfl finishes with
    held | ⟨since, log, replaced, hold, isEvent, -⟩
  · exact absurd held (by decide +kernel)
  -- the one release of this run is the first process's
  have others : ((holdMachine id).run (Machine.idle (HoldStores.start {}))
      (issuedTwice ++ .advance 1 {} :: releasedOnce)).world.log.all (fun
        | .released _ processId _ _ _ => processId ≠ "b"
        | .issued _ _ => true) = true := by decide +kernel
  have other := List.all_eq_true.1 others (.released "vm" "b" replaced.revision replaced hold)
    (log ▸ List.mem_append_right _ isEvent)
  simp at other

end Fdai.Core.HoldLedger
