import Fdai.StandingAuthority.Lifecycle

/-!
# A planned history replays

The planner and the replay are two readings of one state machine. The planner looks at the current
snapshot only, and the replay at the whole history; so what the planner needs of the snapshot has to
follow from the history that the replay accepts.

* `Chained` — what a history that the replay accepts looks like.
* `Replayed` — the rows of a family whose history replays to its snapshot; `FamilyRows.apply` keeps
  this (`replayed_apply`).
* `fenceMatches_later` — when a fence still matches.
-/

namespace Fdai.Core.StandingAuthority

open Fdai.Providers (Digest)

variable {revisions : List AuthorizationRevision} {familyId : String}
  {transitions : List AuthorizationTransition} {replay : Replay}

theorem snapshotFields_check (transition : AuthorizationTransition) :
    transition.val.snapshotFields.check = .ok () := by
  have passed := transition.2
  simp only [TransitionFields.check, validate_cons_eq_ok, validate_nil, and_true, requireText,
    requireDigest, decide_eq_true_eq] at passed
  obtain ⟨family, -, -, -, -, -, revision, head, -, -, -, counters, -, -⟩ := passed
  simp only [SnapshotFields.check, validate_cons_eq_ok, validate_nil, and_true, requireText,
    requireDigest, decide_eq_true_eq]
  exact ⟨family, revision, head, rfl, counters.symm, rfl⟩

/-- The snapshot that a transition leaves. -/
def snapshotOf (transition : AuthorizationTransition) : AuthorizationSnapshot :=
  ⟨transition.val.snapshotFields, snapshotFields_check transition⟩

@[simp] theorem fromTransition_eq (transition : AuthorizationTransition) :
    fromTransition transition = .ok (snapshotOf transition) :=
  construct_eq_ok.2 rfl

variable {transition : TransitionFields}

/-- The first transition of a history. -/
theorem checkPosition_none : checkPosition none transition = .ok () ↔
      transition.kind = .admission ∧ transition.previousTransitionDigest = none ∧
        transition.fencingGeneration = 1 ∧ transition.predecessorRevisionId = none := by
  simp [checkPosition]

variable {snapshot : AuthorizationSnapshot}

theorem checkPosition_some : checkPosition (some snapshot) transition = .ok () ↔
      (snapshot.val.status = .active ∧
        transition.previousTransitionDigest = some snapshot.val.headTransitionDigest ∧
        transition.fencingGeneration = snapshot.val.fencingGeneration + 1) ∧
      transition.kind ≠ .admission ∧
      (transition.kind = .renewal →
        transition.predecessorRevisionId = some snapshot.val.currentRevisionId) ∧
      (transition.kind = .revocation → transition.revisionId = snapshot.val.currentRevisionId) := by
  cases kind : transition.kind <;> simp [checkPosition, kind]

/-- **A step of the replay**, as what it asks of the transition. -/
theorem replayStep_eq_ok {transition : AuthorizationTransition} {next : Replay} :
    replayStep revisions familyId replay transition = .ok next ↔
      transition.val.sequence = replay.expectedSequence ∧
      transition.val.commandId ∉ replay.seenCommands ∧
      transition.val.familyId = familyId ∧
      checkPosition replay.snapshot transition.val = .ok () ∧
      checkRevision revisions transition.val = .ok () ∧
      next = ⟨replay.expectedSequence + 1, transition.val.commandId :: replay.seenCommands,
        some (snapshotOf transition)⟩ := by
  unfold replayStep
  rw [check_bind_eq_ok, check_bind_eq_ok, check_bind_eq_ok, fromTransition_eq]
  simp only [validate_cons_eq_ok, validate_nil, and_true, decide_eq_true_eq, bind, Except.bind,
    pure, Except.pure, Except.ok.injEq]
  constructor
  · rintro ⟨⟨⟨sequence, unseen⟩, family⟩, position, known, rfl⟩
    exact ⟨sequence, unseen, family, position, known, rfl⟩
  · rintro ⟨sequence, unseen, family, position, known, rfl⟩
    exact ⟨⟨⟨sequence, unseen⟩, family⟩, position, known, rfl⟩

theorem replayAll_concat (transition : AuthorizationTransition) :
    replayAll revisions familyId (transitions ++ [transition]) =
      replayAll revisions familyId transitions >>= fun replay =>
        replayStep revisions familyId replay transition := by
  simp [replayAll, List.foldlM_append]

/-- A revision that is known stays known when more are stored. -/
theorem findRevision_append {revisionId : Digest} {revision : AuthorizationRevision}
    (found : findRevision revisions revisionId = some revision)
    (more : List AuthorizationRevision) :
    findRevision (revisions ++ more) revisionId = some revision := by
  unfold findRevision at found ⊢
  rw [List.find?_append, found]
  rfl

theorem checkRevision_append
    (checked : checkRevision revisions transition = .ok ()) (more : List AuthorizationRevision) :
    checkRevision (revisions ++ more) transition = .ok () := by
  unfold checkRevision at checked ⊢
  cases found : findRevision revisions transition.revisionId with
  | none =>
    rw [found] at checked
    cases checked
  | some revision =>
    rw [found] at checked
    rw [findRevision_append found]
    exact checked

/-- A replay does not depend on revisions that are stored later. -/
theorem replayAll_append (replayed : replayAll revisions familyId transitions = .ok replay)
    (more : List AuthorizationRevision) :
    replayAll (revisions ++ more) familyId transitions = .ok replay := by
  induction transitions using List.reverseRecOn generalizing replay with
  | nil => exact replayed
  | append_singleton transitions transition ih =>
    rw [replayAll_concat, bind_eq_ok] at replayed ⊢
    obtain ⟨middle, before, step⟩ := replayed
    refine ⟨middle, ih before, ?_⟩
    rw [replayStep_eq_ok] at step ⊢
    obtain ⟨sequence, unseen, family, position, known, next⟩ := step
    exact ⟨sequence, unseen, family, position, checkRevision_append known more, next⟩

/-! ## What a history looks like -/

/-- The last transition that admits or renews. -/
def lastGrant (transitions : List AuthorizationTransition) : Option AuthorizationTransition :=
  (transitions.filter fun transition => transition.val.kind ≠ .revocation).getLast?

/-- **A history that the replay accepts.** -/
structure Chained (revisions : List AuthorizationRevision) (familyId : String)
    (transitions : List AuthorizationTransition) (replay : Replay) : Prop where
  expected : replay.expectedSequence = transitions.length + 1
  seen : ∀ commandId, commandId ∈ replay.seenCommands ↔
    ∃ transition ∈ transitions, transition.val.commandId = commandId
  snapshot : replay.snapshot = transitions.getLast?.map snapshotOf
  counters : ∀ transition, transitions.getLast? = some transition →
    transition.val.sequence = transitions.length ∧
      transition.val.fencingGeneration = transitions.length
  ids : (transitions.map (·.val.commandId)).Nodup
  family : ∀ transition ∈ transitions, transition.val.familyId = familyId
  known : ∀ transition ∈ transitions,
    (findRevision revisions transition.val.revisionId).isSome = true
  revoked_last : ∀ before transition later, transitions = before ++ transition :: later →
    transition.val.kind = .revocation → later = []
  current : transitions.getLast?.map (·.val.revisionId) =
    (lastGrant transitions).map (·.val.revisionId)

theorem chained_nil : Chained revisions familyId [] ⟨1, [], none⟩ where
  expected := rfl
  seen := by simp
  snapshot := rfl
  counters := by simp
  ids := List.nodup_nil
  family := by simp
  known := by simp
  revoked_last := by simp
  current := rfl

theorem known_of_checkRevision (checked : checkRevision revisions transition = .ok ()) :
    (findRevision revisions transition.revisionId).isSome = true := by
  unfold checkRevision at checked
  cases found : findRevision revisions transition.revisionId with
  | none =>
    rw [found] at checked
    cases checked
  | some revision => rfl

/-- **One transition more.** -/
theorem Chained.concat (chained : Chained revisions familyId transitions replay)
    {transition : AuthorizationTransition} {next : Replay}
    (step : replayStep revisions familyId replay transition = .ok next) :
    Chained revisions familyId (transitions ++ [transition]) next := by
  obtain ⟨sequence, unseen, family, position, known, rfl⟩ := replayStep_eq_ok.1 step
  have behind : transition.val.fencingGeneration = transitions.length + 1 ∧
      (∀ last, transitions.getLast? = some last → last.val.kind ≠ .revocation) ∧
      (transition.val.kind = .revocation → transitions.getLast?.map (·.val.revisionId) =
        some transition.val.revisionId) := by
    rw [chained.snapshot] at position
    cases isLast : transitions.getLast? with
    | none =>
      rw [isLast, Option.map_none, checkPosition_none] at position
      obtain ⟨isAdmit, -, generation, -⟩ := position
      have empty : transitions = [] := List.getLast?_eq_none_iff.1 isLast
      refine ⟨by simp [generation, empty], by simp, ?_⟩
      intro isRevoke
      rw [isAdmit] at isRevoke
      cases isRevoke
    | some last =>
      rw [isLast, Option.map_some, checkPosition_some] at position
      obtain ⟨⟨active, -, generation⟩, -, -, revoked⟩ := position
      refine ⟨?_, ?_, ?_⟩
      · rw [generation]
        exact congrArg (· + 1) (chained.counters last isLast).2
      · intro other same isRevoke
        obtain rfl := Option.some.inj same
        have status : last.val.kind.status = .active := active
        rw [isRevoke] at status
        cases status
      · intro isRevoke
        rw [Option.map_some, revoked isRevoke]
        rfl
  obtain ⟨generation, notRevoked, sameRevision⟩ := behind
  refine ⟨?_, ?_, ?_, ?_, ?_, ?_, ?_, ?_, ?_⟩
  · simp [chained.expected]
  · intro commandId
    rw [List.mem_cons, chained.seen]
    constructor
    · rintro (rfl | ⟨other, inside, same⟩)
      · exact ⟨transition, by simp, rfl⟩
      · exact ⟨other, List.mem_append_left _ inside, same⟩
    · rintro ⟨other, inside, same⟩
      rcases List.mem_append.1 inside with inside | isNew
      · exact .inr ⟨other, inside, same⟩
      · rw [List.mem_singleton.1 isNew] at same
        exact .inl same.symm
  · simp
  · intro last isLast
    obtain rfl : transition = last := by simpa using isLast
    rw [sequence, chained.expected]
    simpa using generation
  · rw [List.map_append, List.nodup_append]
    refine ⟨chained.ids, by simp, ?_⟩
    intro commandId inside other isNew same
    obtain rfl : other = transition.val.commandId := by simpa using isNew
    rw [← same] at unseen
    exact unseen ((chained.seen commandId).2 (List.mem_map.1 inside))
  · intro other inside
    rcases List.mem_append.1 inside with inside | isNew
    · exact chained.family other inside
    · rw [List.mem_singleton.1 isNew]
      exact family
  · intro other inside
    rcases List.mem_append.1 inside with inside | isNew
    · exact chained.known other inside
    · rw [List.mem_singleton.1 isNew]
      exact known_of_checkRevision known
  · intro before other later split isRevoke
    cases later using List.reverseRecOn with
    | nil => rfl
    | append_singleton later last =>
      -- The other transition is followed by the new one, so it was revoked before it.
      exfalso
      have shorter : transitions = before ++ other :: later := by
        rw [← List.cons_append, ← List.append_assoc] at split
        exact (List.append_inj' split rfl).1
      have none_later := chained.revoked_last before other later shorter isRevoke
      rw [none_later] at shorter
      exact notRevoked other (by simp [shorter]) isRevoke
  · unfold lastGrant
    rw [List.filter_append]
    by_cases isRevoke : transition.val.kind = .revocation
    · have same := sameRevision isRevoke
      rw [chained.current, lastGrant] at same
      have dropped : [transition].filter
          (fun transition => decide (transition.val.kind ≠ .revocation)) = [] := by
        simp [isRevoke]
      rw [dropped, List.append_nil, List.getLast?_concat, same]
      rfl
    · have kept : [transition].filter
          (fun transition => decide (transition.val.kind ≠ .revocation)) = [transition] := by
        simp [isRevoke]
      rw [kept, List.getLast?_concat, List.getLast?_concat]

/-- **A history that the replay accepts is chained.** -/
theorem chained_of_replayAll (replayed : replayAll revisions familyId transitions = .ok replay) :
    Chained revisions familyId transitions replay := by
  induction transitions using List.reverseRecOn generalizing replay with
  | nil =>
    obtain rfl : (⟨1, [], none⟩ : Replay) = replay := Except.ok.inj replayed
    exact chained_nil
  | append_singleton transitions transition ih =>
    rw [replayAll_concat, bind_eq_ok] at replayed
    obtain ⟨middle, before, step⟩ := replayed
    exact (ih before).concat step

/-- **The history of a family replays to its snapshot.** -/
def Replayed (familyId : String) (rows : FamilyRows) : Prop :=
  ∃ replay, replayAll rows.revisions familyId rows.transitions = .ok replay ∧
    replay.snapshot = rows.snapshot

theorem Replayed.replayLifecycle {rows : FamilyRows} (replayed : Replayed familyId rows) :
    replayLifecycle rows.transitions rows.revisions = .ok rows.snapshot := by
  obtain ⟨replay, all, snapshot⟩ := replayed
  have chained := chained_of_replayAll all
  unfold StandingAuthority.replayLifecycle
  rcases isEmpty : rows.transitions with _ | ⟨first, later⟩
  · rw [isEmpty] at all
    obtain rfl : (⟨1, [], none⟩ : Replay) = replay := Except.ok.inj all
    rw [← snapshot]
    rfl
  have family : familyOf (first :: later) = familyId := by
    rw [isEmpty] at chained
    exact chained.family first List.mem_cons_self
  rw [family, ← isEmpty, all, ← snapshot]
  rfl

/-! ## What a command does -/

variable {rows : FamilyRows} {command : AuthorizationLifecycleCommand}

/-- A command that is new and passes the checks of the planner. -/
structure Planned (rows : FamilyRows) (command : AuthorizationLifecycleCommand)
    (result : LifecycleWriteResult) : Prop where
  fresh : ∀ transition ∈ rows.transitions, transition.val.commandId ≠ command.val.commandId
  current : checkCurrent rows.snapshot rows.transitions command.val = .ok ()
  newRevision : checkNewRevision rows.revisions command.val = .ok ()
  transition : result.transition.val = command.val.transitionFields rows.snapshot
  snapshot : result.snapshot = snapshotOf result.transition

/-- **A command changes nothing, or is planned and written.** -/
theorem apply_cases (rows : FamilyRows) (command : AuthorizationLifecycleCommand) :
    rows.apply command = rows ∨
      ∃ result, Planned rows command result ∧ rows.apply command = rows.write command result := by
  unfold FamilyRows.apply
  cases plan : planLifecycleTransition rows.snapshot rows.transitions rows.revisions command with
  | error error => exact .inl rfl
  | ok result =>
    unfold planLifecycleTransition at plan
    rw [bind_eq_ok] at plan
    obtain ⟨replayed, -, plan⟩ := plan
    by_cases projected : replayed = rows.snapshot
    · rw [if_neg (not_not_intro projected)] at plan
      cases found : rows.transitions.find? fun transition =>
          transition.val.commandId = command.val.commandId with
      | some duplicate =>
        left
        rw [found] at plan
        dsimp only at plan
        have status : result.status = .duplicate := by
          unfold planDuplicate at plan
          split at plan
          · cases plan
          split at plan
          · cases plan
          · obtain rfl := Except.ok.inj plan
            rfl
        simp only [status]
      | none =>
        rw [found] at plan
        dsimp only at plan
        unfold planNew at plan
        rw [check_bind_eq_ok, check_bind_eq_ok, bind_eq_ok] at plan
        obtain ⟨current, newRevision, transition, created, plan⟩ := plan
        have fields := construct_eq_ok.1 created
        rw [fromTransition_eq] at plan
        obtain rfl := Except.ok.inj plan
        right
        refine ⟨⟨.applied, transition, snapshotOf transition⟩,
          ⟨?_, current, newRevision, fields, rfl⟩, rfl⟩
        intro transition inside same
        have different := List.find?_eq_none.1 found transition inside
        exact different (by simpa using same)
    · rw [if_pos projected] at plan
      cases plan

/-- A command whose identity is in the history changes nothing. -/
theorem apply_known {transition : AuthorizationTransition} (inside : transition ∈ rows.transitions)
    (same : transition.val.commandId = command.val.commandId) : rows.apply command = rows := by
  rcases apply_cases rows command with unchanged | ⟨result, planned, -⟩
  · exact unchanged
  · exact absurd same (planned.fresh transition inside)

variable {result : LifecycleWriteResult}

/-- What is planned stands behind the snapshot. -/
theorem Planned.checkPosition (planned : Planned rows command result) :
    checkPosition rows.snapshot result.transition.val = .ok () := by
  have shape := command.2
  simp only [LifecycleCommandFields.check, validate_cons_eq_ok, validate_nil, and_true] at shape
  obtain ⟨-, -, -, shape⟩ := shape
  have current := planned.current
  have fields := planned.transition
  unfold LifecycleCommandFields.shape at shape
  unfold checkCurrent at current
  cases kind : command.val.kind with
  | admission =>
    rw [kind] at shape current
    simp only [validate_cons_eq_ok, validate_nil, and_true, decide_eq_true_eq] at current
    rcases revision : command.val.revision with _ | new
    · simp [revision] at shape
    simp only [revision, decide_eq_true_eq] at shape
    rw [current.1, checkPosition_none, fields, current.1]
    refine ⟨kind, rfl, rfl, ?_⟩
    simp only [LifecycleCommandFields.transitionFields, revision]
    exact shape.2.1
  | renewal =>
    rw [kind] at shape current
    rcases before : rows.snapshot with _ | snapshot
    · simp [before] at current
    simp only [before, validate_cons_eq_ok, validate_nil, and_true, decide_eq_true_eq] at current
    obtain ⟨active, -, expected⟩ := current
    rcases revision : command.val.revision with _ | new
    · simp [revision] at shape
    simp only [revision, decide_eq_true_eq] at shape
    obtain ⟨-, predecessor, present, -⟩ := shape
    rw [checkPosition_some, fields, before]
    refine ⟨⟨active, rfl, rfl⟩, by simp [LifecycleCommandFields.transitionFields, kind], ?_, ?_⟩
    · intro
      simp only [LifecycleCommandFields.transitionFields, revision]
      rw [predecessor]
      cases named : command.val.expectedRevisionId with
      | none => exact absurd named present
      | some expectedId => simp_all
    · simp [LifecycleCommandFields.transitionFields, kind]
  | revocation =>
    rw [kind] at shape current
    rcases before : rows.snapshot with _ | snapshot
    · simp [before] at current
    simp only [before, validate_cons_eq_ok, validate_nil, and_true, decide_eq_true_eq] at current
    have noRevision : command.val.revision = none := by simp_all
    rw [checkPosition_some, fields, before]
    refine ⟨⟨current.1, rfl, rfl⟩, ?_, ?_, ?_⟩
    · simp [LifecycleCommandFields.transitionFields, kind]
    · simp [LifecycleCommandFields.transitionFields, kind]
    · simp [LifecycleCommandFields.transitionFields, noRevision]

/-- What is planned has its revision stored with it, or before it. -/
theorem Planned.checkRevision (planned : Planned rows command result)
    (known : ∀ snapshot ∈ rows.snapshot,
      (findRevision rows.revisions snapshot.val.currentRevisionId).isSome = true) :
    checkRevision (rows.revisions ++ command.val.revision.toList) result.transition.val =
      .ok () := by
  have fields := planned.transition
  have newRevision := planned.newRevision
  unfold checkNewRevision at newRevision
  unfold StandingAuthority.checkRevision
  cases revision : command.val.revision with
  | some new =>
    simp only [revision, validate_cons_eq_ok, validate_nil, and_true, decide_eq_true_eq]
      at newRevision
    have added : findRevision (rows.revisions ++ [new]) new.revisionId = some new := by
      unfold findRevision at newRevision ⊢
      rw [List.find?_append, newRevision.1]
      simp
    have identity : result.transition.val.revisionId = new.revisionId := by
      rw [fields]
      simp only [LifecycleCommandFields.transitionFields, revision]
    have predecessor : result.transition.val.predecessorRevisionId =
        new.predecessorRevisionId := by
      rw [fields]
      simp only [LifecycleCommandFields.transitionFields, revision]
    rw [Option.toList_some, identity, added]
    simp [predecessor]
  | none =>
    have shape := command.2
    simp only [LifecycleCommandFields.check, validate_cons_eq_ok, validate_nil, and_true] at shape
    obtain ⟨-, -, -, shape⟩ := shape
    have kind : command.val.kind = .revocation := by
      unfold LifecycleCommandFields.shape at shape
      cases kind : command.val.kind <;> simp_all
    have notRenew : result.transition.val.kind ≠ .renewal := by
      rw [fields]
      simp [LifecycleCommandFields.transitionFields, kind]
    have current := planned.current
    unfold checkCurrent at current
    rw [kind] at current
    rcases before : rows.snapshot with _ | snapshot
    · simp [before] at current
    have identity : result.transition.val.revisionId = snapshot.val.currentRevisionId := by
      rw [fields, before]
      simp only [LifecycleCommandFields.transitionFields, revision]
    obtain ⟨stored, found⟩ := Option.isSome_iff_exists.1 (known snapshot (by simp [before]))
    rw [Option.toList_none, List.append_nil, identity, found]
    simp [notRenew]

/-- **A planned transition passes the replay.** -/
theorem Planned.replayStep (planned : Planned rows command result) (chained : Chained rows.revisions
      command.val.familyId rows.transitions replay) (snapshot : replay.snapshot = rows.snapshot) :
    replayStep (rows.revisions ++ command.val.revision.toList) command.val.familyId replay
        result.transition =
      .ok ⟨replay.expectedSequence + 1, command.val.commandId :: replay.seenCommands,
        some result.snapshot⟩ := by
  have fields := planned.transition
  have commandId : result.transition.val.commandId = command.val.commandId := by rw [fields]; rfl
  have behind := chained.snapshot
  rw [snapshot] at behind
  rw [replayStep_eq_ok]
  refine ⟨?_, ?_, ?_, ?_, ?_, ?_⟩
  · rw [fields, behind, chained.expected]
    rcases isLast : rows.transitions.getLast? with _ | last
    · simp [LifecycleCommandFields.transitionFields, List.getLast?_eq_none_iff.1 isLast]
    show last.val.sequence + 1 = _
    rw [(chained.counters last isLast).1]
  · rw [commandId, chained.seen]
    rintro ⟨transition, inside, same⟩
    exact planned.fresh transition inside same
  · rw [fields]
    rfl
  · rw [snapshot]
    exact planned.checkPosition
  · refine planned.checkRevision ?_
    intro stored isSnapshot
    rw [behind] at isSnapshot
    rcases isLast : rows.transitions.getLast? with _ | last
    · simp [isLast] at isSnapshot
    rw [isLast] at isSnapshot
    obtain rfl : snapshotOf last = stored := Option.some.inj isSnapshot
    exact chained.known last (List.mem_of_getLast? isLast)
  · rw [commandId, planned.snapshot]

/-- **A command keeps the history of its family replayable.** -/
theorem replayed_apply (replayed : Replayed command.val.familyId rows) :
    Replayed command.val.familyId (rows.apply command) := by
  rcases apply_cases rows command with unchanged | ⟨result, planned, written⟩
  · rw [unchanged]
    exact replayed
  obtain ⟨replay, all, snapshot⟩ := replayed
  rw [written]
  refine ⟨⟨replay.expectedSequence + 1, command.val.commandId :: replay.seenCommands,
    some result.snapshot⟩, ?_, rfl⟩
  show replayAll (rows.revisions ++ command.val.revision.toList) _
    (rows.transitions ++ [result.transition]) = _
  rw [replayAll_concat, replayAll_append all]
  exact planned.replayStep (chained_of_replayAll all) snapshot

/-! ## Whole runs -/

theorem storeAfter_concat (commands : List AuthorizationLifecycleCommand)
    (command : AuthorizationLifecycleCommand) :
    storeAfter (commands ++ [command]) = (storeAfter commands).apply command := by
  simp [storeAfter, List.foldl_append]

theorem apply_self (store : LifecycleStore) (command : AuthorizationLifecycleCommand) :
    store.apply command command.val.familyId = (store command.val.familyId).apply command :=
  Function.update_self ..

theorem apply_other {store : LifecycleStore}
    (other : familyId ≠ command.val.familyId) : store.apply command familyId = store familyId :=
  Function.update_of_ne other ..

/-- **The history of every family replays to its snapshot, after any commands.** -/
theorem replayed_storeAfter (commands : List AuthorizationLifecycleCommand) (familyId : String) :
    Replayed familyId (storeAfter commands familyId) := by
  induction commands using List.reverseRecOn with
  | nil => exact ⟨⟨1, [], none⟩, rfl, rfl⟩
  | append_singleton commands command ih =>
    rw [storeAfter_concat]
    by_cases same : familyId = command.val.familyId
    · rw [same] at ih ⊢
      rw [apply_self]
      exact replayed_apply ih
    · rw [apply_other same]
      exact ih

theorem apply_grows (store : LifecycleStore) (command : AuthorizationLifecycleCommand)
    (familyId : String) : ∃ added,
      (store.apply command familyId).transitions = (store familyId).transitions ++ added ∧
        added.length ≤ 1 := by
  by_cases same : familyId = command.val.familyId
  · rw [same, apply_self]
    rcases apply_cases (store command.val.familyId) command with unchanged | ⟨result, -, written⟩
    · exact ⟨[], by rw [unchanged, List.append_nil], Nat.zero_le 1⟩
    · exact ⟨[result.transition], by rw [written]; rfl, le_rfl⟩
  · exact ⟨[], by rw [apply_other same, List.append_nil], Nat.zero_le 1⟩

/-- **Histories are append-only.** -/
theorem storeAfter_grows (commands later : List AuthorizationLifecycleCommand) (familyId : String) :
    (storeAfter commands familyId).transitions <+:
      (storeAfter (commands ++ later) familyId).transitions := by
  induction later using List.reverseRecOn with
  | nil => rw [List.append_nil]
  | append_singleton later command ih =>
    obtain ⟨added, grown, -⟩ := apply_grows (storeAfter (commands ++ later)) command familyId
    rw [← List.append_assoc, storeAfter_concat, grown]
    exact ih.trans (List.prefix_append ..)

/-- What the replay says of the snapshot of a family. -/
theorem snapshot_storeAfter (commands : List AuthorizationLifecycleCommand) (familyId : String) :
    (storeAfter commands familyId).snapshot =
      (storeAfter commands familyId).transitions.getLast?.map snapshotOf := by
  obtain ⟨replay, all, snapshot⟩ := replayed_storeAfter commands familyId
  rw [← snapshot]
  exact (chained_of_replayAll all).snapshot

theorem generation_storeAfter {commands : List AuthorizationLifecycleCommand}
    (stored : (storeAfter commands familyId).snapshot = some snapshot) :
    snapshot.val.fencingGeneration = (storeAfter commands familyId).transitions.length := by
  obtain ⟨replay, all, -⟩ := replayed_storeAfter commands familyId
  rw [snapshot_storeAfter, Option.map_eq_some_iff] at stored
  obtain ⟨last, isLast, rfl⟩ := stored
  exact ((chained_of_replayAll all).counters last isLast).2

theorem of_fenceMatches {fence : LifecycleFence}
    (isMatch : fenceMatches (some snapshot) fence = true) :
    snapshot.val.status = .active ∧ snapshot.val.fencingGeneration = fence.fencingGeneration := by
  simp only [fenceMatches, Bool.and_eq_true, decide_eq_true_eq] at isMatch
  obtain ⟨⟨⟨⟨active, -⟩, -⟩, generation⟩, -⟩ := isMatch
  exact ⟨active, generation⟩

/-- **A fence matches a later snapshot** iff nothing was applied in between and the family is
active. -/
theorem fenceMatches_later {commands : List AuthorizationLifecycleCommand}
    (taken : (storeAfter commands familyId).snapshot = some snapshot)
    (later : List AuthorizationLifecycleCommand) :
    fenceMatches (storeAfter (commands ++ later) familyId).snapshot snapshot.val.fence = true ↔
      (storeAfter (commands ++ later) familyId).transitions =
          (storeAfter commands familyId).transitions ∧
        ∃ now, (storeAfter (commands ++ later) familyId).snapshot = some now ∧
          now.val.status = .active := by
  constructor
  · intro isMatch
    rcases current : (storeAfter (commands ++ later) familyId).snapshot with _ | now
    · rw [current] at isMatch
      cases isMatch
    rw [current] at isMatch
    obtain ⟨active, generation⟩ := of_fenceMatches isMatch
    refine ⟨?_, now, rfl, active⟩
    rw [generation_storeAfter current] at generation
    have sameLength := generation.trans (generation_storeAfter taken)
    exact ((storeAfter_grows commands later familyId).eq_of_length sameLength.symm).symm
  · rintro ⟨same, now, current, active⟩
    have unchanged : some now = some snapshot := by
      rw [← current, ← taken, snapshot_storeAfter, snapshot_storeAfter, same]
    obtain rfl := Option.some.inj unchanged
    rw [current]
    simp [fenceMatches, SnapshotFields.fence, active]

/-- What holds of a family after commands, whatever commands follow. -/
structure LifecycleKept (commands : List AuthorizationLifecycleCommand) (familyId : String) :
    Prop where
  /-- The replay of the stored history does not raise, and gives the stored snapshot. -/
  replays : replayLifecycle (storeAfter commands familyId).transitions
    (storeAfter commands familyId).revisions = .ok (storeAfter commands familyId).snapshot
  /-- The fencing generation counts the transitions. -/
  generation : ((storeAfter commands familyId).snapshot.map (·.val.fencingGeneration)).getD 0 =
    (storeAfter commands familyId).transitions.length
  /-- No command is applied twice. -/
  once : ((storeAfter commands familyId).transitions.map (·.val.commandId)).Nodup
  /-- A command that was applied to the family changes nothing when it is delivered again. -/
  redelivered : ∀ command : AuthorizationLifecycleCommand, command.val.familyId = familyId →
    (∃ transition ∈ (storeAfter commands familyId).transitions,
      transition.val.commandId = command.val.commandId) →
    storeAfter (commands ++ [command]) = storeAfter commands
  /-- A revocation is the last transition. -/
  revoked : ∀ before transition after,
    (storeAfter commands familyId).transitions = before ++ transition :: after →
      transition.val.kind = .revocation → after = []
  /-- An active snapshot stands at the last revision that was admitted or renewed. -/
  current : ∀ snapshot, (storeAfter commands familyId).snapshot = some snapshot →
    snapshot.val.status = .active →
      (lastGrant (storeAfter commands familyId).transitions).map (·.val.revisionId) =
        some snapshot.val.currentRevisionId
  /-- A fence matches a later snapshot iff nothing was applied in between and the family is
  active. -/
  fenced : ∀ snapshot, (storeAfter commands familyId).snapshot = some snapshot → ∀ later,
    (fenceMatches (storeAfter (commands ++ later) familyId).snapshot snapshot.val.fence = true ↔
      (storeAfter (commands ++ later) familyId).transitions =
          (storeAfter commands familyId).transitions ∧
        ∃ now, (storeAfter (commands ++ later) familyId).snapshot = some now ∧
          now.val.status = .active)

/-- **The lifecycle of every family, after any commands.** -/
theorem lifecycle_kept (commands : List AuthorizationLifecycleCommand) (familyId : String) :
    LifecycleKept commands familyId := by
  have replayed := replayed_storeAfter commands familyId
  obtain ⟨replay, all, snapshot⟩ := replayed
  have chained := chained_of_replayAll all
  refine ⟨Replayed.replayLifecycle ⟨replay, all, snapshot⟩, ?_, chained.ids, ?_,
    chained.revoked_last, ?_, fun snapshot taken later => fenceMatches_later taken later⟩
  · cases stored : (storeAfter commands familyId).snapshot with
    | none =>
      rw [snapshot_storeAfter, Option.map_eq_none_iff, List.getLast?_eq_none_iff] at stored
      rw [stored]
      rfl
    | some snapshot => exact generation_storeAfter stored
  · intro command family applied
    obtain ⟨transition, inside, same⟩ := applied
    rw [← family] at inside
    rw [storeAfter_concat, LifecycleStore.apply, apply_known inside same]
    exact Function.update_eq_self ..
  · intro snapshot stored _
    rw [← chained.current]
    rw [snapshot_storeAfter, Option.map_eq_some_iff] at stored
    obtain ⟨last, isLast, rfl⟩ := stored
    rw [isLast]
    rfl

end Fdai.Core.StandingAuthority
