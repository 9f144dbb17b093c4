import Fdai.Incident.RegistryReplay

/-!
# One active incident of each family

Two incidents are of one family when their correlation keys are the same once the keys of
detector episodes are taken off. An opening that names an episode joins the active incident
of its family, and it raises when it finds two.

The registry does not keep families to one active incident by itself. An opening that names
no episode does not look at the family, and the reopening of a resolved incident does not
either.

* `OneActive` — no family has two active incidents.
* `KeepsFamily` — the condition on a call: what it opens or reopens has a family at rest.
* `one_active` — a session of such calls keeps every family to one active incident, and no
  opening raises for two.
-/

namespace Fdai.Core

open Fdai.Sequences Fdai.Concurrency Program

/-- Neither resolved nor closed. -/
def IncidentState.Active (state : IncidentState) : Prop := state ≠ .resolved ∧ state ≠ .closed

instance (state : IncidentState) : Decidable state.Active := by
  unfold IncidentState.Active
  infer_instance

/-- The same keys, once those of episodes are taken off. -/
def SameFamily (keys keys' : List String) : Prop := sameSet (baseKeys keys) (baseKeys keys') = true

instance (keys keys' : List String) : Decidable (SameFamily keys keys') := by
  unfold SameFamily
  infer_instance

variable {keys keys' : List String}

theorem sameFamily_iff :
    SameFamily keys keys' ↔ ∀ key, key ∈ baseKeys keys ↔ key ∈ baseKeys keys' := by
  simp only [SameFamily, sameSet, Bool.and_eq_true, List.all_eq_true, decide_eq_true_eq]
  constructor
  · rintro ⟨into, back⟩ key
    exact ⟨into key, back key⟩
  · intro same
    exact ⟨fun key => (same key).1, fun key => (same key).2⟩

theorem SameFamily.symm (same : SameFamily keys keys') : SameFamily keys' keys := by
  rw [sameFamily_iff] at same ⊢
  exact fun key => (same key).symm

theorem SameFamily.trans {keys'' : List String} (first : SameFamily keys keys')
    (second : SameFamily keys' keys'') : SameFamily keys keys'' := by
  rw [sameFamily_iff] at first second ⊢
  exact fun key => (first key).trans (second key)

/-- At most one active incident of each family. -/
def OneActive (incidents : Incidents) : Prop :=
  ∀ one ∈ incidents.values, ∀ other ∈ incidents.values, one.state.Active →
    other.state.Active → SameFamily one.correlationKeys other.correlationKeys →
    one.incidentId = other.incidentId

/-- No incident of the family is active. -/
def FamilyAtRest (incidents : Incidents) (keys : List String) : Prop :=
  ∀ other ∈ incidents.values, SameFamily other.correlationKeys keys → ¬ other.state.Active

instance (incidents : Incidents) (keys : List String) : Decidable (FamilyAtRest incidents keys) := by
  unfold FamilyAtRest
  infer_instance

/-- The keys of the incident that an opening would create, if it would create one. -/
def createdKeys (incidents : Incidents) (request : OpenRequest) : Option (List String) := do
  guard (strip request.actorOid ≠ "")
  let _ ← (awareOpenedAt request.openedAt).toOption
  let keys ← (canonicalIncidentCorrelationKeys request.correlationKeys).toOption
  let incidentId ← (incidentIdFor keys).toOption
  match incidents.get incidentId, activeIncidentForEpisode incidents keys with
  | none, .ok none => some keys
  | _, _ => none

/-- The keys of the incident that a transition would reopen, if it would reopen one. -/
def reopenedKeys (incidents : Incidents) (request : TransitionRequest) : Option (List String) := do
  guard (strip request.actorOid ≠ "")
  let incident ← incidents.get request.incidentId
  guard (incident.state = .resolved ∧ request.toState = .triaging)
  some incident.correlationKeys

/-- A call to the registry that opens or reopens an incident only where its family is at
rest. -/
def KeepsFamily (registry : ℕ) (w : RegistryWorld) (call : RegistryCall) : Prop :=
  call.registry = registry ∧
    match call.request with
    | .opening request =>
      ∀ keys ∈ createdKeys (w.index registry) request, FamilyAtRest (w.index registry) keys
    | .transition request =>
      ∀ keys ∈ reopenedKeys (w.index registry) request, FamilyAtRest (w.index registry) keys
    | _ => True

instance (registry : ℕ) (w : RegistryWorld) (call : RegistryCall) :
    Decidable (KeepsFamily registry w call) := by
  unfold KeepsFamily
  refine @instDecidableAnd _ _ _ ?_
  rcases call.request <;> infer_instance

/-! ## The standing of an incident -/

/-- What the families depend on: the state and the keys of each incident. -/
def standing (incidents : Incidents) (incidentId : Uuid) : Option (IncidentState × List String) :=
  (incidents.get incidentId).map fun incident => (incident.state, incident.correlationKeys)

section

variable {incidents restored restored' : Incidents}

variable {incidentId : Uuid} {incident : Incident}

theorem standing_of_get (got : incidents.get incidentId = some incident) :
    standing incidents incidentId = some (incident.state, incident.correlationKeys) := by
  rw [standing, got]
  rfl

theorem standing_of_mem (stored : incident ∈ incidents.values) :
    standing incidents incident.incidentId = some (incident.state, incident.correlationKeys) :=
  standing_of_get (Keyed.get_of_mem stored)

theorem mem_of_standing {state : IncidentState}
    (stands : standing incidents incidentId = some (state, keys)) :
    ∃ incident ∈ incidents.values, incident.incidentId = incidentId ∧ incident.state = state ∧
      incident.correlationKeys = keys := by
  obtain ⟨incident, got, same⟩ := Option.map_eq_some_iff.1 stands
  obtain ⟨rfl, rfl⟩ := Prod.mk.inj same
  exact ⟨incident, Keyed.mem_of_get got, Keyed.key_of_get got, rfl, rfl⟩

theorem standing_put (updated : Incident) : standing (incidents.put updated) =
      Function.update (standing incidents) updated.incidentId
        (some (updated.state, updated.correlationKeys)) := by
  funext incidentId
  rw [standing, Keyed.get_put]
  by_cases same : incidentId = updated.incidentId
  · rw [if_pos same, same, Function.update_self]
    rfl
  · rw [if_neg same, Function.update_of_ne same]
    rfl

variable {updated : Incident}

theorem standing_put_still (got : incidents.get updated.incidentId = some incident)
    (state : updated.state = incident.state)
    (keys : updated.correlationKeys = incident.correlationKeys) :
    standing (incidents.put updated) = standing incidents := by
  rw [standing_put, state, keys, ← standing_of_get got, Function.update_eq_self]

theorem oneActive_iff : OneActive incidents ↔ ∀ one other state state' keys keys',
      standing incidents one = some (state, keys) →
      standing incidents other = some (state', keys') →
      state.Active → state'.Active → SameFamily keys keys' → one = other := by
  constructor
  · intro oneActive one other state state' keys keys' stands stands'
    obtain ⟨incident, stored, rfl, rfl, rfl⟩ := mem_of_standing stands
    obtain ⟨incident', stored', rfl, rfl, rfl⟩ := mem_of_standing stands'
    exact oneActive incident stored incident' stored'
  · intro holds one stored other stored'
    exact holds _ _ _ _ _ _ (standing_of_mem stored) (standing_of_mem stored')

theorem OneActive.congr (oneActive : OneActive incidents)
    (same : standing restored = standing incidents) : OneActive restored := by
  rw [oneActive_iff, same]
  exact oneActive_iff.1 oneActive

/-- **One more active incident**, of a family that was at rest. -/
theorem OneActive.put_active (oneActive : OneActive incidents)
    (atRest : FamilyAtRest incidents updated.correlationKeys) :
    OneActive (incidents.put updated) := by
  intro one stored other stored' active active' same
  rcases Keyed.mem_put stored with rfl | wasStored
  · rcases Keyed.mem_put stored' with rfl | wasStored'
    · rfl
    · exact absurd active' (atRest other wasStored' same.symm)
  rcases Keyed.mem_put stored' with rfl | wasStored'
  · exact absurd active (atRest one wasStored same)
  · exact oneActive one wasStored other wasStored' active active' same

/-- **An incident that changes its state** without becoming active. -/
theorem OneActive.put_resting (oneActive : OneActive incidents)
    (got : incidents.get updated.incidentId = some incident)
    (keys : updated.correlationKeys = incident.correlationKeys)
    (resting : updated.state.Active → incident.state.Active) :
    OneActive (incidents.put updated) := by
  -- whatever is active after the change was active before it, under the same keys
  have before (one : Incident) (stored : one ∈ (incidents.put updated).values)
      (active : one.state.Active) :
      ∃ was ∈ incidents.values, was.incidentId = one.incidentId ∧ was.state.Active ∧
        was.correlationKeys = one.correlationKeys := by
    rcases Keyed.mem_put stored with rfl | stored
    · exact ⟨incident, Keyed.mem_of_get got, Keyed.key_of_get got, resting active, keys.symm⟩
    · exact ⟨one, stored, rfl, active, rfl⟩
  intro one stored other stored' active active' same
  obtain ⟨was, wasStored, sameId, wasActive, sameKeys⟩ := before one stored active
  obtain ⟨was', wasStored', sameId', wasActive', sameKeys'⟩ := before other stored' active'
  rw [← sameId, ← sameId']
  refine oneActive was wasStored was' wasStored' wasActive wasActive' ?_
  rw [sameKeys, sameKeys']
  exact same

/-- **The lookup does not raise** where no family has two active incidents. -/
theorem activeIncidentForEpisode_ne_error (oneActive : OneActive incidents) (keys : List String)
    (error : IncidentError) : activeIncidentForEpisode incidents keys ≠ .error error := by
  unfold activeIncidentForEpisode
  split
  · simp
  extract_lets found
  split
  · rename_i many
    intro _
    -- two incidents that were found are of one family and active, so they have one id
    have pair : found.Pairwise fun one other => one.incidentId ≠ other.incidentId := by
      have distinct := List.pairwise_map.1 (List.nodup_iff_pairwise_ne.1 incidents.nodup)
      exact distinct.filter _
    obtain ⟨one, other, rest, shape⟩ : ∃ one other rest, found = one :: other :: rest := by
      match shape : found with
      | [] => simp at many
      | [one] => simp at many
      | one :: other :: rest => exact ⟨one, other, rest, rfl⟩
    have ofFamily (incident : Incident) (isFound : incident ∈ found) :
        incident ∈ incidents.values ∧ incident.state.Active ∧
          SameFamily incident.correlationKeys keys := by
      obtain ⟨stored, fits⟩ := List.mem_filter.1 isFound
      simp only [Bool.and_eq_true, decide_eq_true_eq] at fits
      exact ⟨stored, ⟨fits.1.1, fits.1.2⟩, fits.2⟩
    obtain ⟨stored, active, family⟩ := ofFamily one (by simp [shape])
    obtain ⟨stored', active', family'⟩ := ofFamily other (by simp [shape])
    rw [shape] at pair
    exact (List.pairwise_cons.1 pair).1 other (by simp)
      (oneActive one stored other stored' active active' (family.trans family'.symm))
  · simp

/-! ### What the replay of a row does -/

def Row.Moves : Row → Prop
  | .opened _ => True
  | .transition _ => True
  | _ => False

theorem get_of_requireExistingIncident {kind : String} {current : Incident}
    (required : requireExistingIncident restored incidentId kind = .ok current) :
    restored.get incidentId = some current := by
  unfold requireExistingIncident at required
  split at required
  · rename_i got
    rw [got, Except.ok.inj required]
  · cases required

/-- **The other rows** leave every incident where it stands. -/
theorem standing_replayRow {row : Row} (still : ¬ row.Moves)
    (replayed : replayRow restored row = .ok restored') :
    standing restored' = standing restored := by
  have putBack {incidentId : Uuid} {current updated : Incident}
      (got : restored.get incidentId = some current)
      (same : updated.incidentId = current.incidentId) (state : updated.state = current.state)
      (keys : updated.correlationKeys = current.correlationKeys) :
      standing (restored.put updated) = standing restored := by
    refine standing_put_still ?_ state keys
    rw [same, Keyed.key_of_get got, got]
  cases row with
  | opened entry | transition entry => exact absurd trivial still
  | members entry =>
    obtain ⟨current, required, rest⟩ := bind_eq_ok.1 replayed
    obtain ⟨added, -, rest⟩ := bind_eq_ok.1 rest
    obtain rfl := Except.ok.inj rest
    exact putBack (get_of_requireExistingIncident required) rfl rfl rfl
  | severity entry =>
    obtain ⟨current, required, rest⟩ := bind_eq_ok.1 replayed
    split at rest
    · cases rest
    split at rest
    · cases rest
    obtain rfl := Except.ok.inj rest
    exact putBack (get_of_requireExistingIncident required) rfl rfl rfl
  | assigned entry =>
    obtain ⟨current, required, rest⟩ := bind_eq_ok.1 replayed
    dsimp only at rest
    split at rest
    · rw [Except.ok.inj rest]
    split at rest
    · cases rest
    obtain rfl := Except.ok.inj rest
    exact putBack (get_of_requireExistingIncident required) rfl rfl rfl
  | ticket entry =>
    obtain ⟨current, -, rest⟩ := bind_eq_ok.1 replayed
    rw [Except.ok.inj rest]

/-- **A transition** that replays moves one incident, and leaves its keys. -/
theorem standing_replayTransition {entry : TransitionEntry}
    (replayed : replayRow restored (.transition entry) = .ok restored') :
    ∃ state keys, standing restored entry.incidentId = some (state, keys) ∧
      standing restored' = Function.update (standing restored) entry.incidentId
        (some (entry.toState, keys)) := by
  obtain ⟨current, required, rest⟩ := bind_eq_ok.1 replayed
  have got := get_of_requireExistingIncident required
  split at rest
  · cases rest
  obtain ⟨actorOid, -, rest⟩ := bind_eq_ok.1 rest
  obtain ⟨transition, created, rest⟩ := bind_eq_ok.1 rest
  obtain ⟨-, -, rest⟩ := bind_eq_ok.1 rest
  split at rest
  · cases rest
  split at rest
  · cases rest
  obtain rfl := Except.ok.inj rest
  refine ⟨current.state, current.correlationKeys, standing_of_get got, ?_⟩
  obtain ⟨-, -, toState⟩ := IncidentTransition.of_create (orInvalid_eq_ok.1 created)
  rw [standing_put, ← toState, ← Keyed.key_of_get got]
  rfl

/-- **An opening** that replays adds one incident, where there was none of its id. -/
theorem standing_replayOpen {entry : OpenEntry} (absent : standing restored entry.incidentId = none)
    (replayed : replayRow restored (.opened entry) = .ok restored') :
    standing restored' = Function.update (standing restored) entry.incidentId
      (some (entry.state, entry.correlationKeys.map strip)) := by
  obtain ⟨opened, read, rest⟩ := bind_eq_ok.1 replayed
  have parsed : opened.incidentId = entry.incidentId ∧ opened.state = entry.state ∧
      opened.correlationKeys = entry.correlationKeys.map strip := by
    obtain ⟨keys, required, read⟩ := bind_eq_ok.1 read
    obtain ⟨expectedId, -, read⟩ := bind_eq_ok.1 read
    split at read
    · cases read
    obtain ⟨members, -, read⟩ := bind_eq_ok.1 read
    have sameKeys : keys = entry.correlationKeys := by
      unfold requiredStringList at required
      split at required
      · cases required
      · exact (Except.ok.inj required).symm
    subst sameKeys
    replace read := orInvalid_eq_ok.1 read
    unfold Incident.create at read
    dsimp only at read
    split at read
    · split at read
      · split at read
        · obtain rfl := Except.ok.inj read
          exact ⟨rfl, rfl, rfl⟩
        · cases read
      · cases read
    · cases read
  obtain ⟨sameId, state, keys⟩ := parsed
  have fresh : restored.get opened.incidentId = none := by
    rw [sameId]
    exact Option.map_eq_none_iff.1 absent
  rw [fresh] at rest
  obtain rfl := Except.ok.inj rest
  rw [standing_put, sameId, state, keys]

end

/-- The rows, when they replay, give the index up to what the families depend on; and no
family has two active incidents. -/
structure FamilyInv (registry : ℕ) (w : RegistryWorld) : Prop where
  tracks : ∀ restored, rehydrateIncidents w.store.rows = .ok restored →
    standing restored = standing (w.index registry)
  oneActive : OneActive (w.index registry)

theorem FamilyInv.empty (registry : ℕ) : FamilyInv registry {} := by
  refine ⟨fun restored replayed => ?_, fun one stored => (List.not_mem_nil stored).elim⟩
  rw [← Except.ok.inj replayed]

section

variable {registry : ℕ} {w w' : RegistryWorld} {row : Row}

/-- **Row, then index.** A row that was appended, and the incident that is put back. -/
theorem FamilyInv.put {updated : Incident} (inv : FamilyInv registry w)
    (after : After w row w') (oneActive : OneActive ((w.index registry).put updated))
    (replays : ∀ restored restored', standing restored = standing (w.index registry) →
      replayRow restored row = .ok restored' →
      standing restored' = standing ((w.index registry).put updated)) :
    FamilyInv registry (w'.put registry updated) := by
  refine ⟨fun restored' replayed => ?_, by rw [after.index_put]; exact oneActive⟩
  change rehydrateIncidents w'.store.rows = _ at replayed
  rw [after.rows, rehydrateIncidents_append] at replayed
  obtain ⟨restored, replayed, one⟩ := bind_eq_ok.1 replayed
  rw [after.index_put]
  exact replays restored restored' (inv.tracks restored replayed) one

/-- A row of the other kinds, once it was appended. -/
theorem FamilyInv.append (inv : FamilyInv registry w) (after : After w row w')
    (still : ¬ row.Moves) : FamilyInv registry w' := by
  refine ⟨fun restored' replayed => ?_, by rw [after.index]; exact inv.oneActive⟩
  rw [after.rows, rehydrateIncidents_append] at replayed
  obtain ⟨restored, replayed, one⟩ := bind_eq_ok.1 replayed
  rw [standing_replayRow still one, inv.tracks restored replayed, after.index]

/-- An incident put back with its state and its keys, behind a row of the other kinds. -/
theorem FamilyInv.put_still {incident : Incident} (updated : Incident)
    (inv : FamilyInv registry w) (after : After w row w') (still : ¬ row.Moves)
    (indexed : Indexed registry w incident) (sameId : updated.incidentId = incident.incidentId)
    (state : updated.state = incident.state)
    (keys : updated.correlationKeys = incident.correlationKeys) :
    FamilyInv registry (w'.put registry updated) := by
  have same := standing_put_still (by rw [sameId]; exact indexed) state keys
  refine inv.put after (inv.oneActive.congr same) fun restored restored' tracked replayed => ?_
  rw [standing_replayRow still replayed, tracked, same]

/-- The index, once it is what the rows give. -/
theorem FamilyInv.reload {restored : Incidents} (inv : FamilyInv registry w)
    (replayed : rehydrateIncidents w.store.rows = .ok restored) :
    FamilyInv registry (w.indexed registry restored) := by
  constructor
  · intro restored' replayed'
    rw [RegistryWorld.index_indexed, Except.ok.inj (replayed.symm.trans replayed')]
  · rw [RegistryWorld.index_indexed]
    exact inv.oneActive.congr (inv.tracks restored replayed)

theorem not_moves_of_built {actorOid : String} {at_ : Stamp} {build : String × Moment → Row}
    (still : ∀ known, ¬ (build known).Moves)
    (built : (do pure (build (← requireActorAndTime actorOid at_))) = .ok row) : ¬ row.Moves := by
  obtain ⟨actor, moment, rfl⟩ := of_requireActorAndTime built
  exact still (actor, moment)

/-! ## Steps -/

/-- **An incident that is created**, of a family at rest. -/
theorem FamilyInv.created {r : OpenRequest} {incidentId : Uuid} {keys : List String}
    {incident : Incident} {entry : OpenEntry} {number : String} (inv : FamilyInv registry w)
    (keeps : ∀ keys ∈ createdKeys (w.index registry) r, FamilyAtRest (w.index registry) keys)
    (creates : Creates registry r w w' incidentId keys incident entry number) :
    FamilyInv registry (w'.put registry { incident with incidentNumber := some number }) := by
  obtain ⟨actor, ⟨opened, aware⟩, canonical, id, absent, inactive, ⟨_, created⟩, built, -, after⟩ :=
    creates
  have creating : createdKeys (w.index registry) r = some keys := by
    simp [createdKeys, actor, aware, canonical, id, absent, inactive, Except.toOption, guard]
  replace canonical := canonicalKeys_of_canonical canonical
  have atRest : FamilyAtRest (w.index registry) (keys.map strip) := by
    rw [canonical.map_strip]
    exact keeps keys creating
  obtain ⟨keys_nonempty, members_nonempty, rfl⟩ := create_eq_ok created
  obtain ⟨entry, same, -, ofId, state, -, -, keys_eq, -⟩ :=
    written_openAuditEntry canonical canonical.map_strip id (map_strip_map_strip _) built
  obtain rfl := Row.opened.inj same
  refine inv.put after (inv.oneActive.put_active atRest) fun restored restored' tracked replayed => ?_
  have absent' : standing restored entry.incidentId = none := by
    rw [tracked, standing, ofId, absent]
    rfl
  have opens := @standing_replayOpen restored restored'
    { entry with incidentNumber := some number } absent' replayed
  rw [opens, standing_put, tracked]
  simp only [ofId, state, keys_eq]

/-- **A transition** that reopens only where the family is at rest. The state it leaves
behind is active only if the state before was, or if it reopens. -/
theorem FamilyInv.transited {r : TransitionRequest} {incident : Incident}
    {transition : IncidentTransition} (inv : FamilyInv registry w)
    (keeps : ∀ keys ∈ reopenedKeys (w.index registry) r, FamilyAtRest (w.index registry) keys)
    (transits : Transits registry r w w' incident transition) :
    FamilyInv registry (w'.put registry
      (applyIncidentTransition incident transition (r.severity.getD incident.severity))) := by
  obtain ⟨got, legal, -, ⟨moment, created⟩, after⟩ := transits
  have ofId : incident.incidentId = r.incidentId := Keyed.key_of_get got
  have indexed : Indexed registry w incident := by rw [Indexed, ofId, got]
  obtain ⟨transitionId, -, toState⟩ := IncidentTransition.of_create created
  refine inv.put after ?_ fun restored restored' tracked replayed => ?_
  · by_cases reopens : incident.state = .resolved ∧ r.toState = .triaging
    · refine inv.oneActive.put_active (keeps _ ?_)
      have actor := IncidentTransition.actor_of_create created
      simp [reopenedKeys, got, guard, reopens, actor]
      rfl
    refine inv.oneActive.put_resting indexed rfl fun active => ?_
    -- only a resolved incident becomes active again, and only as triaging
    change transition.toState.Active at active
    rw [toState] at active
    revert legal active reopens
    cases incident.state <;> cases r.toState <;> simp [legalTransitions, IncidentState.Active]
  · obtain ⟨state, keys, stands, moved⟩ := standing_replayTransition replayed
    change standing restored transition.incidentId = _ at stands
    rw [transitionId, tracked, standing_of_get got] at stands
    obtain ⟨rfl, rfl⟩ := Prod.mk.inj (Option.some.inj stands)
    rw [moved, standing_put, tracked]
    change Function.update _ transition.incidentId _ = Function.update _ incident.incidentId _
    rw [transitionId, ofId]
    rfl

/-- **The steps** of a call that keeps the families. -/
theorem FamilyInv.step {start : RegistryWorld} {request : RegistryRequest}
    (inv : FamilyInv registry w) (keeps : KeepsFamily registry start ⟨registry, request⟩)
    (step : RegistryStep registry request (start.index registry) w w') : FamilyInv registry w' := by
  cases step with
  | reloaded replayed => exact inv.reload replayed
  | escalated isCall indexed escalates built after
  | grown isCall found same indexed nonempty built after =>
    exact inv.put_still _ after (not_moves_of_built (fun _ => id) built) indexed rfl rfl rfl
  | joined absent replayed got built after =>
    exact (inv.reload replayed).append after (not_moves_of_built (fun _ => id) built)
  | created isCall begins creates =>
    subst isCall
    exact inv.created (by rw [begins]; exact keeps.2) creates
  | transited isCall begins transits =>
    subst isCall
    exact inv.transited (by rw [begins]; exact keeps.2) transits
  | assigned isCall indexed changes built after =>
    exact inv.put_still _ after (not_moves_of_built (fun _ => id) built) indexed rfl rfl rfl
  | linked got after => exact inv.append after id

end

/-- No family has two active incidents, and an opening does not raise for two. -/
structure OneActivePerFamily (registry : ℕ) (w : RegistryWorld) : Prop where
  oneActive : OneActive (w.index registry)
  opens : ∀ request oracle, KeepsFamily registry w ⟨registry, .opening request⟩ →
    (registryMachine.exec (openWithStatus registry request) oracle w).1 ≠
      .error (.conflict .manyActive)

/-- **One active incident of each family.** A session of one registry in which incidents are
opened and reopened only while their families are at rest leaves no family with two active
incidents. -/
theorem one_active (registry : ℕ) (calls : RegistrySession)
    (keeps : registryMachine.SessionMeets (KeepsFamily registry) {} calls) :
    OneActivePerFamily registry (registryMachine.session {} calls) := by
  have inv : FamilyInv registry (registryMachine.session {} calls) := by
    refine Machine.session_inv (fun w call inv keeps => ?_) (FamilyInv.empty registry) keeps
    obtain ⟨target, request⟩ := call
    obtain rfl : target = registry := keeps.1
    refine (kept_program (fun _ _ inv step => inv.step keeps step) inv rfl).mono
      fun result w' kept => ?_
    cases result with
    | ok value => exact kept
    | error error => exact kept.1
  refine ⟨inv.oneActive, fun request oracle keeps raises => ?_⟩
  have kept : Kept (FamilyInv registry) _ (registryMachine.exec (openWithStatus registry request)
      oracle (registryMachine.session {} calls)).1 _ :=
    Machine.exec_of_sat (kept_openWithStatus (fun _ _ inv step => inv.step keeps step) rfl inv rfl)
  rw [raises] at kept
  obtain ⟨keys, found⟩ := kept.2 rfl
  exact activeIncidentForEpisode_ne_error inv.oneActive keys _ found

/-- The detector reports an episode of a resource. -/
private def reportEpisode (episode : String) (members : List Uuid) :
    RegistryCall × (ℕ → RegistryOracle) :=
  (⟨0, .opening
      { correlationKeys := ["episode:" ++ episode, "resource:vm-1"], severity := .sev3
        memberEventIds := members, actorOid := "heimdall" }⟩, fun _ => {})

private def moveEpisode (episode : String) (toState : IncidentState) :
    RegistryCall × (ℕ → RegistryOracle) :=
  (⟨0, .transition
      { incidentId := .named ("fdai.incident://episode:" ++ episode ++ "|resource:vm-1"), toState
        actorOid := "heimdall" }⟩, fun _ => {})

/-- The first episode is resolved before the second is reported, and the second before the
first is reopened. -/
private def alternating : RegistrySession :=
  [reportEpisode "a" [.given 1], moveEpisode "a" .triaging, moveEpisode "a" .resolved,
    reportEpisode "b" [.given 2], moveEpisode "b" .triaging, moveEpisode "b" .resolved,
    moveEpisode "a" .triaging]

/-- The condition is met over an opening, a successor and a reopening. -/
theorem one_active_alternating :
    ((registryMachine.session {} alternating).index 0).values.map Incident.state =
        [.triaging, .resolved] ∧
      OneActivePerFamily 0 (registryMachine.session {} alternating) :=
  ⟨by decide +kernel,
    one_active 0 alternating ⟨by decide +kernel, by decide +kernel, by decide +kernel,
      by decide +kernel, by decide +kernel, by decide +kernel, by decide +kernel, trivial⟩⟩

/-- The first episode is reopened while its successor is active. -/
private def overlapping : RegistrySession :=
  [reportEpisode "a" [.given 1], moveEpisode "a" .triaging, moveEpisode "a" .resolved,
    reportEpisode "b" [.given 2], moveEpisode "a" .triaging]

/-- Every call of that session returns. Two incidents of the family are active after it, and
the report of a third episode raises. -/
theorem reopened_beside_successor : ¬ ∀ (registry : ℕ) (calls : RegistrySession),
      (∀ call ∈ calls, call.1.registry = registry) →
      registryMachine.SessionReturns {} calls →
      OneActive ((registryMachine.session {} calls).index registry) ∧
        ∀ (call : RegistryCall) oracle, call.registry = registry →
          (registryMachine.exec call.program oracle (registryMachine.session {} calls)).1 ≠
            .error (.conflict .manyActive) := by
  intro always
  have both := always 0 overlapping (by simp [overlapping, reportEpisode, moveEpisode])
    ⟨by decide +kernel, by decide +kernel, by decide +kernel, by decide +kernel,
      by decide +kernel, trivial⟩
  exact both.2 (reportEpisode "c" [.given 3]).1 (fun _ => {}) rfl (by decide +kernel)

end Fdai.Core
