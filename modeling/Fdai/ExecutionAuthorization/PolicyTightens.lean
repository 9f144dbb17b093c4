import Fdai.ExecutionAuthorization.Resolver

/-!
# Policy only tightens

More matching assignments never allow more, but for the roles that may approve; and no order of the
assignments or of the observations decides anything.

* `Selects` — what the scan over the observations has found; `matchingObservations_of_perm`.
* `Tighter` — resolved constraints that are at least as restrictive, with approver roles united.
* `Granting` — the state of the policy under which access is granted or requested.
* `policy_tightens` — **more assignments** allow no more, and the order of nothing matters.
-/

namespace Fdai.Core.ExecutionAuthorization

open Fdai.Providers (Digest)
open Fdai.Sequences

/-! ## Observations in any order -/

/-- The latest observation of its scope. -/
def Newest (items : List AuthorizationObservation) (item : AuthorizationObservation) : Prop :=
  item ∈ items ∧ ∀ other ∈ items, other.scopeRef = item.scopeRef → other.age ≤ item.age

/-- Two observations of one scope disagree. -/
def Disagree (items : List AuthorizationObservation) : Prop :=
  ∃ a ∈ items, ∃ b ∈ items, a.scopeRef = b.scopeRef ∧ a.status ≠ b.status

/-- **What the scan has found**, once it has seen these observations. -/
structure Selects (items : List AuthorizationObservation) (state : Selected × Bool) : Prop where
  newest : ∀ item ∈ state.1.values, Newest items item
  covered : ∀ other ∈ items, ∃ item ∈ state.1.values, item.scopeRef = other.scopeRef
  conflict : state.2 = true ↔ Disagree items

section

variable {items : List AuthorizationObservation} {item : AuthorizationObservation}
variable {state : Selected × Bool}

/-- The observation that is kept of a scope. -/
theorem Selects.get_eq (selects : Selects items state) (isItem : item ∈ items) :
    ∃ previous, state.1.get item.scopeRef = some previous ∧ Newest items previous ∧
      previous.scopeRef = item.scopeRef := by
  obtain ⟨previous, stored, sameScope⟩ := selects.covered item isItem
  refine ⟨previous, ?_, selects.newest previous stored, sameScope⟩
  rw [← sameScope]
  exact Keyed.get_of_mem stored

theorem selects_first (selects : Selects items state) (fresh : state.1.get item.scopeRef = none) :
    Selects (items ++ [item]) (state.1.put item, state.2) := by
  have apart : ∀ other ∈ items, other.scopeRef ≠ item.scopeRef := by
    intro other isOther same
    obtain ⟨previous, found, -⟩ := selects.get_eq isOther
    rw [same, fresh] at found
    cases found
  have others : ∀ other ∈ items ++ [item], other ∈ items ∨ other = item := by
    intro other isOther
    exact (List.mem_append.1 isOther).imp_right List.mem_singleton.1
  refine ⟨?_, ?_, ?_⟩
  · intro kept isKept
    rcases Keyed.mem_put isKept with rfl | stored
    · refine ⟨List.mem_append_right _ (List.mem_singleton_self _), ?_⟩
      intro other isOther same
      rcases others other isOther with isOld | rfl
      · exact absurd same (apart other isOld)
      · exact le_rfl
    obtain ⟨isOld, latest⟩ := selects.newest kept stored
    refine ⟨List.mem_append_left _ isOld, ?_⟩
    intro other isOther same
    rcases others other isOther with isOther | rfl
    · exact latest other isOther same
    · exact absurd same.symm (apart kept isOld)
  · intro other isOther
    rcases others other isOther with isOld | rfl
    · obtain ⟨kept, stored, same⟩ := selects.covered other isOld
      refine ⟨kept, ?_, same⟩
      have elsewhere : kept.scopeRef ≠ item.scopeRef := same ▸ apart other isOld
      exact Keyed.mem_of_get ((Keyed.get_put_ne elsewhere).trans (Keyed.get_of_mem stored))
    · exact ⟨other, Keyed.mem_of_get Keyed.get_put_self, rfl⟩
  · rw [selects.conflict]
    constructor
    · rintro ⟨a, isA, b, isB, same, disagree⟩
      exact ⟨a, List.mem_append_left _ isA, b, List.mem_append_left _ isB, same, disagree⟩
    · rintro ⟨a, isA, b, isB, same, disagree⟩
      rcases others a isA with oldA | rfl
      · rcases others b isB with oldB | rfl
        · exact ⟨a, oldA, b, oldB, same, disagree⟩
        · exact absurd same (apart a oldA)
      rcases others b isB with oldB | rfl
      · exact absurd same.symm (apart b oldB)
      · exact absurd rfl disagree

theorem selects_next {previous : AuthorizationObservation} (selects : Selects items state)
    (found : state.1.get item.scopeRef = some previous) :
    Selects (items ++ [item]) (if previous.age < item.age then state.1.put item else state.1,
      state.2 || previous.status ≠ item.status) := by
  have sameScope : previous.scopeRef = item.scopeRef := Keyed.key_of_get found
  obtain ⟨isPrevious, latest⟩ := selects.newest previous (Keyed.mem_of_get found)
  have others : ∀ other ∈ items ++ [item], other ∈ items ∨ other = item := by
    intro other isOther
    exact (List.mem_append.1 isOther).imp_right List.mem_singleton.1
  -- what is kept of other scopes is what was kept
  have kept_apart : ∀ kept, kept ∈ state.1.values → kept.scopeRef ≠ item.scopeRef →
      Newest (items ++ [item]) kept := by
    intro kept stored elsewhere
    obtain ⟨isOld, newest⟩ := selects.newest kept stored
    refine ⟨List.mem_append_left _ isOld, ?_⟩
    intro other isOther same
    rcases others other isOther with isOther | rfl
    · exact newest other isOther same
    · exact absurd same.symm elsewhere
  refine ⟨?_, ?_, ?_⟩
  · intro kept isKept
    by_cases here : kept.scopeRef = item.scopeRef
    · by_cases later : previous.age < item.age
      · rw [if_pos later] at isKept
        have stored := Keyed.get_of_mem isKept
        rw [here, Keyed.get_put_self] at stored
        obtain rfl := Option.some.inj stored
        refine ⟨List.mem_append_right _ (List.mem_singleton_self _), ?_⟩
        intro other isOther same
        rcases others other isOther with isOther | rfl
        · exact (latest other isOther (same.trans sameScope.symm)).trans later.le
        · exact le_rfl
      · rw [if_neg later] at isKept
        have stored := Keyed.get_of_mem isKept
        rw [here, found] at stored
        obtain rfl := Option.some.inj stored
        refine ⟨List.mem_append_left _ isPrevious, ?_⟩
        intro other isOther same
        rcases others other isOther with isOther | rfl
        · exact latest other isOther same
        · exact not_lt.1 later
    · refine kept_apart kept ?_ here
      split at isKept
      · exact (Keyed.mem_put isKept).resolve_left fun same => here (same ▸ rfl)
      · exact isKept
  · have kept_still : ∀ kept ∈ state.1.values, kept.scopeRef ≠ item.scopeRef →
        kept ∈ (if previous.age < item.age then state.1.put item else state.1).values := by
      intro kept stored elsewhere
      split
      · exact Keyed.mem_of_get ((Keyed.get_put_ne elsewhere).trans (Keyed.get_of_mem stored))
      · exact stored
    have kept_here : ∃ kept ∈ (if previous.age < item.age then state.1.put item else state.1).values,
        kept.scopeRef = item.scopeRef := by
      split
      · exact ⟨item, Keyed.mem_of_get Keyed.get_put_self, rfl⟩
      · exact ⟨previous, Keyed.mem_of_get found, sameScope⟩
    intro other isOther
    by_cases here : other.scopeRef = item.scopeRef
    · rw [here]
      exact kept_here
    rcases others other isOther with isOld | rfl
    · obtain ⟨kept, stored, same⟩ := selects.covered other isOld
      exact ⟨kept, kept_still kept stored (same ▸ here), same⟩
    · exact absurd rfl here
  · rw [Bool.or_eq_true, selects.conflict, decide_eq_true_iff]
    constructor
    · rintro (⟨a, isA, b, isB, same, disagree⟩ | differs)
      · exact ⟨a, List.mem_append_left _ isA, b, List.mem_append_left _ isB, same, disagree⟩
      · exact ⟨previous, List.mem_append_left _ isPrevious, item,
          List.mem_append_right _ (List.mem_singleton_self _), sameScope, differs⟩
    · rintro ⟨a, isA, b, isB, same, disagree⟩
      by_contra agree
      push Not at agree
      obtain ⟨agreed, unchanged⟩ := agree
      -- the new observation says what the kept one says, and all of its scope agree with that
      have unanimous : ∀ other ∈ items, other.scopeRef = item.scopeRef → other.status = item.status := by
        intro other isOther same
        by_contra differs
        exact agreed ⟨other, isOther, previous, isPrevious, same.trans sameScope.symm,
          unchanged ▸ differs⟩
      rcases others a isA with oldA | rfl
      · rcases others b isB with oldB | rfl
        · exact agreed ⟨a, oldA, b, oldB, same, disagree⟩
        · exact disagree (unanimous a oldA same)
      rcases others b isB with oldB | rfl
      · exact disagree (unanimous b oldB same.symm).symm
      · exact disagree rfl

/-- **The scan** over observations with ids of their own. -/
theorem selects_foldl (items : List AuthorizationObservation)
    (unique : (items.map (·.observationId)).Nodup) :
    Selects items (items.foldl selectObservation (Keyed.empty, false)) := by
  induction items using List.reverseRecOn with
  | nil =>
    refine ⟨fun _ stored => absurd stored List.not_mem_nil,
      fun _ isItem => absurd isItem List.not_mem_nil, ?_⟩
    constructor
    · exact fun conflict => absurd conflict Bool.false_ne_true
    · rintro ⟨_, isItem, -⟩
      cases isItem
  | append_singleton items item ih =>
    rw [List.map_append, List.map_singleton, List.nodup_append] at unique
    obtain ⟨uniqueItems, -, apart⟩ := unique
    have selects := ih uniqueItems
    rw [List.foldl_append]
    show Selects (items ++ [item]) (selectObservation _ item)
    unfold selectObservation
    split
    · rename_i fresh
      exact selects_first selects fresh
    rename_i previous found
    have isOld : previous ∈ items :=
      (selects.newest previous (Keyed.mem_of_get found)).1
    have differs : previous ≠ item := by
      rintro rfl
      exact apart _ (List.mem_map_of_mem isOld) _ (List.mem_singleton_self _) rfl
    rw [if_neg differs]
    exact selects_next selects found

/-- What is kept is exactly the latest of each scope. -/
theorem Selects.mem_iff (selects : Selects items state)
    (unique : (items.map (·.observationId)).Nodup) :
    item ∈ state.1.values ↔ Newest items item := by
  constructor
  · exact selects.newest item
  · rintro ⟨isItem, latest⟩
    obtain ⟨kept, stored, same⟩ := selects.covered item isItem
    obtain ⟨isKept, keptLatest⟩ := selects.newest kept stored
    have age : kept.age = item.age :=
      le_antisymm (latest kept isKept same) (keptLatest item isItem same.symm)
    have sameId : kept.observationId = item.observationId :=
      congrArg (fun age : ℤ ×ₗ String => (ofLex age).2) age
    rw [← List.inj_on_of_nodup_map unique isKept isItem sameId]
    exact stored

/-- **Observations in any order** are matched alike. -/
theorem matchingObservations_of_perm {observations observations' : List AuthorizationObservation}
    (question : AuthorizationQuestion) (evaluatedAt : ℤ)
    (unique : (observations.map (·.observationId)).Nodup)
    (perm : observations.Perm observations') :
    matchingObservations question evaluatedAt observations =
      matchingObservations question evaluatedAt observations' := by
  have concerned := perm.filter (concerns question evaluatedAt)
  have uniqueHere : ((observations.filter (concerns question evaluatedAt)).map
      (·.observationId)).Nodup := unique.sublist (List.filter_sublist.map _)
  unfold matchingObservations
  generalize observations.filter (concerns question evaluatedAt) = items at *
  generalize observations'.filter (concerns question evaluatedAt) = items' at *
  have uniqueThere : (items'.map (·.observationId)).Nodup :=
    (concerned.map _).nodup_iff.1 uniqueHere
  have here := selects_foldl items uniqueHere
  have there := selects_foldl items' uniqueThere
  have newest : ∀ item, Newest items item ↔ Newest items' item := by
    intro item
    unfold Newest
    simp only [concerned.mem_iff]
  have disagree : Disagree items ↔ Disagree items' := by
    unfold Disagree
    simp only [concerned.mem_iff]
  generalize items.foldl selectObservation (Keyed.empty, false) = found at *
  generalize items'.foldl selectObservation (Keyed.empty, false) = found' at *
  have sameValues : found.1.values.Perm found'.1.values := by
    refine (List.perm_ext_iff_of_nodup found.1.nodup.of_map found'.1.nodup.of_map).2 ?_
    intro item
    rw [here.mem_iff uniqueHere, there.mem_iff uniqueThere, newest]
  have uniqueValues : (found.1.values.map (·.observationId)).Nodup := by
    refine List.Nodup.map_on ?_ found.1.nodup.of_map
    intro a isA b isB sameId
    exact List.inj_on_of_nodup_map uniqueHere (here.newest a isA).1 (here.newest b isB).1 sameId
  have sameConflict : found.2 = found'.2 := by
    rw [Bool.eq_iff_iff, here.conflict, there.conflict, disagree]
  show (sortedBy _ found.1.values, found.2) = (sortedBy _ found'.1.values, found'.2)
  rw [sortedBy_eq_of_perm uniqueValues sameValues, sameConflict]

end

section

variable {casefold : String → String} {assignments assignments' : List AuthorizationPolicyAssignment}

/-- **Assignments in any order** are matched alike. -/
theorem matchingAssignments_of_perm (requirement : AuthorizationRequirement)
    (resource : ResourceContext) (unique : (assignments.map (·.assignmentId)).Nodup)
    (perm : assignments.Perm assignments') :
    matchingAssignments casefold assignments requirement resource =
      matchingAssignments casefold assignments' requirement resource :=
  sortedBy_eq_of_perm (unique.sublist (List.filter_sublist.map _)) (perm.filter _)

theorem unconfiguredReason_of_perm (requirement : AuthorizationRequirement)
    (resource : ResourceContext) (perm : assignments.Perm assignments') :
    unconfiguredReason casefold assignments requirement resource =
      unconfiguredReason casefold assignments' requirement resource := by
  have empty {items items' : List AuthorizationPolicyAssignment} (perm : items.Perm items') :
      items = [] ↔ items' = [] := by
    rw [← List.length_eq_zero_iff, perm.length_eq, List.length_eq_zero_iff]
  unfold unconfiguredReason
  simp only [empty perm, empty (perm.filter _), empty ((perm.filter _).filter _)]

/-- **The order of nothing matters.** -/
theorem resolve_of_perm (question : AuthorizationQuestion) (policyBundleDigest : Digest)
    {observations observations' : List AuthorizationObservation}
    (unique : (assignments.map (·.assignmentId)).Nodup)
    (uniqueObservations : (observations.map (·.observationId)).Nodup)
    (perm : assignments.Perm assignments') (permObservations : observations.Perm observations') :
    resolveExecutionAuthorization casefold question assignments observations policyBundleDigest =
      resolveExecutionAuthorization casefold question assignments' observations'
        policyBundleDigest := by
  unfold resolveExecutionAuthorization resolveMatching
  simp only [matchingAssignments_of_perm _ _ unique perm, unconfiguredReason_of_perm _ _ perm,
    matchingObservations_of_perm _ _ uniqueObservations permObservations]

end

/-- **At least as restrictive**, but for the roles that may approve: these are united. -/
structure Tighter (larger smaller : ResolvedAuthorizationConstraints) : Prop where
  grantModes : larger.allowedGrantModes ⊆ smaller.allowedGrantModes
  maxScope : smaller.maxScope ≤ larger.maxScope
  maxDuration : larger.maxDurationSeconds ≤ smaller.maxDurationSeconds
  quorum : smaller.quorum ≤ larger.quorum
  approverRoles : smaller.approverRoles ⊆ larger.approverRoles
  requiredEvidence : smaller.requiredEvidence ⊆ larger.requiredEvidence
  probe : smaller.requireEffectiveProbe = true → larger.requireEffectiveProbe = true
  exemptible : larger.exemptible = true → smaller.exemptible = true

section

variable {first first' : AuthorizationPolicyAssignment}
variable {rest rest' : List AuthorizationPolicyAssignment}

/-- **More assignments** leave tighter constraints. -/
theorem intersectConstraints_tighter {larger : ResolvedAuthorizationConstraints}
    (more : ∀ item ∈ first :: rest, item ∈ first' :: rest')
    (resolved : intersectConstraints first' rest' = some larger) :
    ∃ smaller, intersectConstraints first rest = some smaller ∧ Tighter larger smaller := by
  have modes : meetOf (·.constraints.allowedGrantModes) first' rest' ≤
      meetOf (·.constraints.allowedGrantModes) first rest := meetOf_anti more
  unfold intersectConstraints at resolved
  dsimp only at resolved
  split at resolved
  · cases resolved
  rename_i someMode
  obtain rfl := Option.some.inj resolved
  have stillMode : meetOf (·.constraints.allowedGrantModes) first rest ≠ ∅ := by
    intro none
    rw [none] at modes
    exact someMode (Finset.subset_empty.1 modes)
  have probe : joinOf (·.constraints.requireEffectiveProbe) first rest ≤
      joinOf (·.constraints.requireEffectiveProbe) first' rest' := joinOf_mono more
  have exemptible : meetOf (·.constraints.exemptible) first' rest' ≤
      meetOf (·.constraints.exemptible) first rest := meetOf_anti more
  refine ⟨_, if_neg stillMode, ?_⟩
  exact {
    grantModes := modes
    maxScope := joinOf_mono more
    maxDuration := meetOf_anti more
    quorum := joinOf_mono more
    approverRoles := joinOf_mono more
    requiredEvidence := joinOf_mono more
    probe := probe
    exemptible := exemptible }

theorem exceedsMaximum_mono {broader narrower : ScopeLevel} (le : broader ≤ narrower)
    {scopes : List String} (within : exceedsMaximum narrower scopes = .ok false) :
    exceedsMaximum broader scopes = .ok false := by
  induction scopes with
  | nil => rfl
  | cons scope rest ih =>
    unfold exceedsMaximum at within ⊢
    obtain ⟨ref, parsed, within⟩ := bind_eq_ok.1 within
    rw [parsed]
    by_cases below : ref.level < narrower
    · rw [if_pos below] at within
      cases within
    rw [if_neg below] at within
    have above : ¬ ref.level < broader := fun lower => below (lower.trans_le le)
    show (if ref.level < broader then _ else _) = _
    rw [if_neg above]
    exact ih within

/-! ## When access is granted or requested -/

/-- **The policy permits the action**, under these constraints. -/
structure Granting (question : AuthorizationQuestion) (first : AuthorizationPolicyAssignment)
    (rest : List AuthorizationPolicyAssignment) (constraints : ResolvedAuthorizationConstraints) :
    Prop where
  unique : ((first :: rest).map (·.assignmentId)).Nodup
  intersect : intersectConstraints first rest = some constraints
  within : exceedsMaximum constraints.maxScope question.requirement.scopeRefs = .ok false
  unprohibited : ∀ item ∈ first :: rest, item.posture ≠ .prohibit
  undelegated : ∀ item ∈ first :: rest, item.posture ≠ .delegateManual

variable {question : AuthorizationQuestion} {evaluatedAt : ℤ}
variable {observations : List AuthorizationObservation}
variable {constraints : ResolvedAuthorizationConstraints} {found : AuthorizationDecision}

/-- The status of what is observed, where access is permitted. -/
def grantingStatus (question : AuthorizationQuestion) (evaluatedAt : ℤ)
    (matching : List AuthorizationPolicyAssignment) (observations : List AuthorizationObservation) :
    AuthorizationStatus :=
  let observed := matchingObservations question evaluatedAt observations
  (observedOutcome question.requirement.scopeRefs (matching.all (·.posture.requestable)) observed.2
    observed.1).1

/-- Where the policy permits the action, the observations decide. -/
theorem resolveMatching_of_granting (evaluatedAt : ℤ) (observations : List AuthorizationObservation)
    (granting : Granting question first rest constraints) :
    ∃ found, resolveMatching question evaluatedAt first rest observations
        (authorizationPolicyBundleDigest (first :: rest)) = .ok found ∧
      found.status = grantingStatus question evaluatedAt (first :: rest) observations ∧
      found.constraints = some constraints := by
  have prohibit : (first :: rest).any (·.posture = .prohibit) = false := by
    rw [List.any_eq_false]
    exact fun item isItem => by simpa using granting.unprohibited item isItem
  have delegated : (first :: rest).any (·.posture = .delegateManual) = false := by
    rw [List.any_eq_false]
    exact fun item isItem => by simpa using granting.undelegated item isItem
  unfold resolveMatching
  simp only [granting.unique, not_true_eq_false, if_false, ne_eq, granting.intersect,
    granting.within, prohibit, delegated, Bool.false_eq_true]
  exact ⟨_, rfl, rfl, rfl⟩

/-- The constraints of a decision are those of the assignments. -/
theorem constraints_of_resolved
    (resolved : resolveMatching question evaluatedAt first rest observations
      (authorizationPolicyBundleDigest (first :: rest)) = .ok found)
    (unique : ((first :: rest).map (·.assignmentId)).Nodup) :
    found.constraints = intersectConstraints first rest := by
  unfold resolveMatching at resolved
  simp only [unique, not_true_eq_false, if_false, ne_eq] at resolved
  split at resolved
  · rename_i none
    obtain rfl := Except.ok.inj resolved
    exact none.symm
  rename_i constraints isSome
  obtain ⟨exceeds, -, resolved⟩ := bind_eq_ok.1 resolved
  obtain rfl := Except.ok.inj resolved
  rw [isSome]
  split_ifs <;> rfl

/-- Access is granted or requested only where the policy permits it. -/
theorem granting_of_resolved
    (resolved : resolveMatching question evaluatedAt first rest observations
      (authorizationPolicyBundleDigest (first :: rest)) = .ok found)
    (unique : ((first :: rest).map (·.assignmentId)).Nodup)
    (granted : found.status = .authorized ∨ found.status = .grantRequired) :
    ∃ constraints, Granting question first rest constraints := by
  unfold resolveMatching at resolved
  simp only [unique, not_true_eq_false, if_false, ne_eq] at resolved
  split at resolved
  · obtain rfl := Except.ok.inj resolved
    rcases granted with granted | granted <;> cases granted
  rename_i constraints isSome
  obtain ⟨exceeds, isExceeds, resolved⟩ := bind_eq_ok.1 resolved
  have resolved := Except.ok.inj resolved
  split at resolved
  · obtain rfl := resolved
    rcases granted with granted | granted <;> cases granted
  rename_i within
  split at resolved
  · obtain rfl := resolved
    rcases granted with granted | granted <;> cases granted
  rename_i unprohibited
  split at resolved
  · obtain rfl := resolved
    rcases granted with granted | granted <;> cases granted
  rename_i undelegated
  rw [Bool.not_eq_true] at within
  rw [within] at isExceeds
  refine ⟨constraints, unique, isSome, isExceeds, ?_, ?_⟩
  · intro item isItem prohibited
    exact unprohibited (List.any_eq_true.2 ⟨item, isItem, decide_eq_true prohibited⟩)
  · intro item isItem delegated
    exact undelegated (List.any_eq_true.2 ⟨item, isItem, decide_eq_true delegated⟩)

/-- **Fewer assignments** permit what more permit. -/
theorem Granting.mono {larger : ResolvedAuthorizationConstraints}
    (granting : Granting question first' rest' larger)
    (unique : ((first :: rest).map (·.assignmentId)).Nodup)
    (more : ∀ item ∈ first :: rest, item ∈ first' :: rest') :
    ∃ smaller, Granting question first rest smaller := by
  obtain ⟨smaller, intersect, tighter⟩ := intersectConstraints_tighter more granting.intersect
  exact ⟨smaller, {
    unique
    intersect
    within := exceedsMaximum_mono tighter.maxScope granting.within
    unprohibited := fun item isItem => granting.unprohibited item (more item isItem)
    undelegated := fun item isItem => granting.undelegated item (more item isItem) }⟩

/-- What the observations decide does not change where fewer assignments match. -/
theorem grantingStatus_mono {matching matching' : List AuthorizationPolicyAssignment}
    (more : ∀ item ∈ matching, item ∈ matching')
    (granted : grantingStatus question evaluatedAt matching' observations = .authorized ∨
      grantingStatus question evaluatedAt matching' observations = .grantRequired) :
    grantingStatus question evaluatedAt matching observations =
      grantingStatus question evaluatedAt matching' observations := by
  unfold grantingStatus at granted ⊢
  cases all' : matching'.all (·.posture.requestable) with
  | true =>
    have all : matching.all (·.posture.requestable) = true := by
      rw [List.all_eq_true] at all' ⊢
      exact fun item isItem => all' item (more item isItem)
    rw [all]
  | false =>
    -- no grant is requested, so the access that is needed was observed
    rw [all'] at granted
    unfold observedOutcome at granted ⊢
    dsimp only at granted ⊢
    split at granted
    · rcases granted with granted | granted <;> cases granted
    rename_i agreed
    split at granted
    · rcases granted with granted | granted <;> cases granted
    rename_i known
    split at granted
    · rename_i verified
      rw [if_neg agreed, if_neg known, if_pos verified, if_neg agreed, if_neg known,
        if_pos verified]
    · rcases granted with granted | granted <;> cases granted

end

/-! ## More assignments -/

section

variable (casefold : String → String) (question : AuthorizationQuestion)

/-- The digest of the assignments that match. -/
def ownDigest (assignments : List AuthorizationPolicyAssignment) : Digest :=
  authorizationPolicyBundleDigest
    (matchingAssignments casefold assignments question.requirement question.resource)

/-- The decision on some assignments, with the digest that they have. -/
def resolveOwn (assignments : List AuthorizationPolicyAssignment)
    (observations : List AuthorizationObservation) : Except String AuthorizationDecision :=
  resolveExecutionAuthorization casefold question assignments observations
    (ownDigest casefold question assignments)

variable {casefold question} {assignments : List AuthorizationPolicyAssignment}
variable {observations : List AuthorizationObservation} {found : AuthorizationDecision}

/-- A decision that no assignment takes part in. -/
structure Unconcerned (found : AuthorizationDecision) : Prop where
  status : found.status = .unknown ∨ found.status = .unconfigured
  constraints : found.constraints = none

/-- What is asked can be decided on, at a time. -/
structure Ready (question : AuthorizationQuestion) (evaluatedAt : ℤ) : Prop where
  aware : question.evaluatedAt = .aware evaluatedAt
  identified : isBlank question.identityRef = false
  generated : isBlank question.inventoryGeneration = false
  applies : question.requirement.appliesTo question.actionTypeId question.resource.resourceType =
    true

/-- What can be decided on is decided by the assignments that match. -/
theorem resolveOwn_of_ready {evaluatedAt : ℤ} {first : AuthorizationPolicyAssignment}
    {rest : List AuthorizationPolicyAssignment} (ready : Ready question evaluatedAt)
    (matching : matchingAssignments casefold assignments question.requirement question.resource =
      first :: rest) :
    resolveOwn casefold question assignments observations =
      resolveMatching question evaluatedAt first rest observations
        (authorizationPolicyBundleDigest (first :: rest)) := by
  have digest : ownDigest casefold question assignments =
      authorizationPolicyBundleDigest (first :: rest) := by
    rw [ownDigest, matching]
  have given : isMissing (authorizationPolicyBundleDigest (first :: rest)) = false := rfl
  unfold resolveOwn resolveExecutionAuthorization
  simp only [ready.aware, digest, matching, ready.identified, ready.generated, given, ready.applies,
    Bool.or_false, Bool.false_eq_true, if_false, Bool.not_true]

/-- A decision is made of the assignments that match, if what is asked can be decided on. -/
theorem resolveOwn_cases (resolved : resolveOwn casefold question assignments observations = .ok found) :
    Unconcerned found ∨ ∃ evaluatedAt first rest, Ready question evaluatedAt ∧
      matchingAssignments casefold assignments question.requirement question.resource =
        first :: rest ∧
      resolveMatching question evaluatedAt first rest observations
        (authorizationPolicyBundleDigest (first :: rest)) = .ok found := by
  unfold resolveOwn resolveExecutionAuthorization at resolved
  split at resolved
  · cases resolved
  rename_i evaluatedAt aware
  split at resolved
  · cases resolved
  rename_i given
  split at resolved
  · obtain rfl := Except.ok.inj resolved
    exact .inl ⟨.inl rfl, rfl⟩
  rename_i applies
  split at resolved
  · obtain rfl := Except.ok.inj resolved
    exact .inl ⟨.inr rfl, rfl⟩
  rename_i first rest matching
  rw [ownDigest, matching] at resolved
  simp only [Bool.or_eq_true, not_or, Bool.not_eq_true] at given
  rw [Bool.not_eq_true', Bool.not_eq_false] at applies
  exact .inr ⟨evaluatedAt, first, rest, ⟨aware, given.1.1, given.2, applies⟩, matching, resolved⟩

theorem unique_matching (casefold : String → String) (question : AuthorizationQuestion)
    (unique : (assignments.map (·.assignmentId)).Nodup) :
    ((matchingAssignments casefold assignments question.requirement question.resource).map
      (·.assignmentId)).Nodup :=
  ((perm_sortedBy _ _).map _).nodup_iff.2 (unique.sublist (List.filter_sublist.map _))

theorem matching_subset (casefold : String → String) (question : AuthorizationQuestion)
    {smaller larger : List AuthorizationPolicyAssignment} (more : smaller ⊆ larger) :
    ∀ item ∈ matchingAssignments casefold smaller question.requirement question.resource,
      item ∈ matchingAssignments casefold larger question.requirement question.resource := by
  intro item isItem
  simp only [matchingAssignments, mem_sortedBy, List.mem_filter] at isItem ⊢
  exact ⟨more isItem.1, isItem.2⟩

end

/-- **Policy only tightens**, but for the roles that may approve: these are united. And the decision
does not depend on the order of the assignments, or of the observations. -/
theorem policy_tightens (casefold : String → String) (question : AuthorizationQuestion)
    {smaller larger : List AuthorizationPolicyAssignment}
    (observations : List AuthorizationObservation)
    (uniqueSmaller : (smaller.map (·.assignmentId)).Nodup)
    (uniqueLarger : (larger.map (·.assignmentId)).Nodup)
    (nonempty : matchingAssignments casefold smaller question.requirement question.resource ≠ [])
    (more : ∀ item ∈ matchingAssignments casefold smaller question.requirement question.resource,
      item ∈ matchingAssignments casefold larger question.requirement question.resource) :
    (∀ found, resolveOwn casefold question larger observations = .ok found →
      found.status = .authorized ∨ found.status = .grantRequired →
        ∃ found', resolveOwn casefold question smaller observations = .ok found' ∧
          found'.status = found.status) ∧
    (∀ found found', resolveOwn casefold question larger observations = .ok found →
      resolveOwn casefold question smaller observations = .ok found' →
        ∀ constraints, found.constraints = some constraints →
          ∃ constraints', found'.constraints = some constraints' ∧
            Tighter constraints constraints') ∧
    ∀ larger' observations' policyBundleDigest, larger.Perm larger' →
      (observations.map (·.observationId)).Nodup → observations.Perm observations' →
        resolveExecutionAuthorization casefold question larger observations policyBundleDigest =
          resolveExecutionAuthorization casefold question larger' observations'
            policyBundleDigest := by
  obtain ⟨first, rest, matching⟩ := List.exists_cons_of_ne_nil nonempty
  rw [matching] at more
  have unique := unique_matching casefold question uniqueSmaller
  have unique' := unique_matching casefold question uniqueLarger
  rw [matching] at unique
  refine ⟨?_, ?_, ?_⟩
  · intro found resolved granted
    rcases resolveOwn_cases resolved with unconcerned | ⟨evaluatedAt, first', rest', ready,
      matching', resolved'⟩
    · rcases unconcerned.status with is | is <;> rw [is] at granted <;>
        rcases granted with granted | granted <;> cases granted
    rw [matching'] at more unique'
    obtain ⟨constraints, granting⟩ := granting_of_resolved resolved' unique' granted
    obtain ⟨found₁, resolved₁, status₁, -⟩ :=
      resolveMatching_of_granting evaluatedAt observations granting
    obtain rfl := Except.ok.inj (resolved'.symm.trans resolved₁)
    obtain ⟨constraints', granting'⟩ := granting.mono unique more
    obtain ⟨found', resolved₂, status₂, -⟩ :=
      resolveMatching_of_granting evaluatedAt observations granting'
    refine ⟨found', (resolveOwn_of_ready ready matching).trans resolved₂, ?_⟩
    rw [status₁] at granted
    rw [status₁, status₂]
    exact grantingStatus_mono more granted
  · intro found found' resolved resolved' constraints isConstraints
    rcases resolveOwn_cases resolved with unconcerned | ⟨evaluatedAt, first', rest', ready,
      matching', resolved₁⟩
    · rw [unconcerned.constraints] at isConstraints
      cases isConstraints
    rw [matching'] at more unique'
    rw [resolveOwn_of_ready ready matching] at resolved'
    rw [constraints_of_resolved resolved₁ unique'] at isConstraints
    rw [constraints_of_resolved resolved' unique]
    exact intersectConstraints_tighter more isConstraints
  · intro larger' observations' policyBundleDigest perm uniqueObservations permObservations
    exact resolve_of_perm question policyBundleDigest uniqueLarger uniqueObservations perm
      permObservations

/-- Constraints under which one role approves. -/
def approvedBy (role : String) (present : isBlank role = false) : AuthorizationConstraints where
  allowedGrantModes := {.timeBound}
  maxScope := .account
  maxDurationSeconds := 3600
  approverRoles := {role}
  modes_nonempty := by decide
  duration_pos := by decide
  quorum_pos := Nat.one_pos
  labels_present := by
    intro label isLabel
    rw [Finset.union_empty, Finset.mem_singleton] at isLabel
    rw [isLabel]
    exact present

/-- An enforced assignment of an organization, under which one role approves. -/
def assignmentOf (assignmentId role : String) (named : isBlank assignmentId = false)
    (present : isBlank role = false) : AuthorizationPolicyAssignment where
  assignmentId
  capabilities := {"compute.restart"}
  executionProfiles := {"change-executor"}
  scope := .scope .organization "contoso" none ∅
  posture := .requestJit
  constraints := approvedBy role present
  enforcement := .enforce
  named := ⟨named, by decide +kernel⟩
  bound := by decide +kernel

def approverAssignment : AuthorizationPolicyAssignment :=
  assignmentOf "a-1" "approver" (by decide +kernel) (by decide +kernel)

def ownerAssignment : AuthorizationPolicyAssignment :=
  assignmentOf "a-2" "owner" (by decide +kernel) (by decide +kernel)

/-- May the executor restart a machine in a resource group? -/
def restartQuestion : AuthorizationQuestion where
  actionTypeId := "ops.restart"
  resource := {
    organization := "contoso"
    account := "prod"
    resourceGroup := "web"
    resourceId := "vm-1"
    resourceType := "compute.vm" }
  requirement := {
    requirementId := "r-1"
    capabilityId := "compute.restart"
    actionTypeIds := {"ops.restart"}
    resourceTypes := {"compute.vm"}
    scopeRefs := ["scope://contoso/prod/web"]
    executionProfile := "change-executor"
    mappingDigest := "mapping-1"
    named := by decide +kernel
    selective := by decide +kernel
    addressed := by decide +kernel }
  identityRef := "executor-1"
  inventoryGeneration := "generation-1"
  evaluatedAt := .aware 100

/-- Access that was observed. -/
def allowedObservation : AuthorizationObservation where
  observationId := "o-1"
  identityRef := "executor-1"
  capabilityId := "compute.restart"
  scopeRef := "scope://contoso/prod/web"
  mappingDigest := "mapping-1"
  status := .allowed
  observedAt := 50
  expiresAt := 200
  evidenceDigest := "evidence-1"
  named := by decide +kernel
  addressed := by decide +kernel
  expires := by decide

/-- The owner may approve with the second assignment, and could not without it. -/
theorem owner_may_approve :
    ((resolveOwn id restartQuestion [approverAssignment] [allowedObservation]).toOption.map
        fun found => (found.status, found.constraints.map (·.approverRoles))) =
      some (.authorized, some {"approver"}) ∧
    ((resolveOwn id restartQuestion [approverAssignment, ownerAssignment]
        [allowedObservation]).toOption.map
        fun found => (found.status, found.constraints.map (·.approverRoles))) =
      some (.authorized, some {"approver", "owner"}) ∧
    ¬ ({"approver", "owner"} : Finset String) ⊆ {"approver"} := by
  refine ⟨?_, ?_, ?_⟩ <;> decide +kernel

/-- The second assignment allows no more otherwise. -/
theorem policy_tightens_owner : (resolveOwn id restartQuestion [approverAssignment, ownerAssignment]
        [allowedObservation]).isOk = true ∧
    ∀ found, resolveOwn id restartQuestion [approverAssignment, ownerAssignment]
        [allowedObservation] = .ok found →
      found.status = .authorized ∨ found.status = .grantRequired →
        ∃ found', resolveOwn id restartQuestion [approverAssignment] [allowedObservation] =
          .ok found' ∧ found'.status = found.status := by
  have more : [approverAssignment] ⊆ [approverAssignment, ownerAssignment] :=
    List.cons_subset_cons _ (List.nil_subset _)
  exact ⟨by decide +kernel, (policy_tightens id restartQuestion [allowedObservation]
    (by decide +kernel) (by decide +kernel) (by decide +kernel)
    (matching_subset id restartQuestion more)).1⟩

end Fdai.Core.ExecutionAuthorization
