import Fdai.Detection.ConfigurationDrift

/-!
# The drift verdict is exact

A comparison passes exactly if the observation says of everything in the baseline that it is as it
should be, and says of nothing else that it is there. So an observation that has lost evidence passes
only if what it lost was no part of the baseline.

* `Json`, `JsonValue.meaning` — a value, apart from how its numbers are written.
* `Matches` — when a comparison passes.
* `drift_verdict_exact` — both.
-/

namespace Fdai.Core.Detection

/-! ## Values -/

inductive Json where
  | null
  | bool (value : Bool)
  | number (value : ℚ)
  | str (value : String)
  | list (items : List Json)
  | mapping (entries : List (String × Json))

mutual

/-- What a value means: an integer is a number. -/
def JsonValue.meaning : JsonValue → Json
  | .null => .null
  | .bool value => .bool value
  | .int value => .number value
  | .float value => .number value
  | .str value => .str value
  | .list items => .list (itemsMeaning items)
  | .mapping entries => .mapping (entriesMeaning entries)

def itemsMeaning : List JsonValue → List Json
  | [] => []
  | item :: items => item.meaning :: itemsMeaning items

def entriesMeaning : List (String × JsonValue) → List (String × Json)
  | [] => []
  | (key, value) :: entries => (key, value.meaning) :: entriesMeaning entries

end

variable {entries : List (String × JsonValue)} {key : String} {value : JsonValue}

theorem frozen_of_lookup
    (areFrozen : entriesFrozen entries) (found : entries.lookup key = some value) :
    value.Frozen := by
  induction entries with
  | nil => cases found
  | cons entry entries ih =>
    rw [List.lookup_cons] at found
    split at found
    · obtain rfl := Option.some.inj found
      exact areFrozen.1
    · exact ih areFrozen.2 found

variable {left right : List (String × JsonValue)}

theorem entriesMeaning_eq_iff (inOrder : InOrder left)
    (sameKeys : left.map Prod.fst = right.map Prod.fst) :
    (∀ entry ∈ left, ∃ value, right.lookup entry.1 = some value ∧
      entry.2.meaning = value.meaning) ↔ entriesMeaning left = entriesMeaning right := by
  induction left generalizing right with
  | nil =>
    cases right with
    | nil => simp
    | cons entry right => cases sameKeys
  | cons entry left ih =>
    rcases right with _ | ⟨other, right⟩
    · cases sameKeys
    obtain ⟨key, value⟩ := entry
    obtain ⟨otherKey, otherValue⟩ := other
    obtain ⟨rfl, sameRest⟩ := List.cons.inj sameKeys
    unfold InOrder at inOrder ih
    rw [List.map_cons, List.pairwise_cons] at inOrder
    -- The keys after the first one are looked up past it.
    have past : ∀ entry ∈ left, List.lookup entry.1 ((key, otherValue) :: right) =
        right.lookup entry.1 := by
      intro entry inside
      have apart := (inOrder.1 entry.1 (List.mem_map_of_mem inside)).ne'
      rw [List.lookup_cons, beq_eq_false_iff_ne.2 apart]
    rw [List.forall_mem_cons]
    show _ ∧ _ ↔ (key, value.meaning) :: entriesMeaning left =
      (key, otherValue.meaning) :: entriesMeaning right
    rw [List.cons.injEq, Prod.mk.injEq, ← ih inOrder.2 sameRest]
    refine and_congr ?_ (forall₂_congr fun entry inside => by rw [past entry inside])
    rw [List.lookup_cons_self]
    simp

theorem keys_eq_of_inOrder (inOrder : InOrder left) (inOrder' : InOrder right) :
    ((left.map Prod.fst).all (· ∈ right.map Prod.fst) &&
      (right.map Prod.fst).all (· ∈ left.map Prod.fst)) = true ↔
        left.map Prod.fst = right.map Prod.fst := by
  simp only [Bool.and_eq_true, List.all_eq_true, decide_eq_true_eq]
  constructor
  · rintro ⟨subset, superset⟩
    have nodup : (left.map Prod.fst).Nodup := inOrder.imp ne_of_lt
    have nodup' : (right.map Prod.fst).Nodup := inOrder'.imp ne_of_lt
    have perm : (left.map Prod.fst).Perm (right.map Prod.fst) :=
      (List.perm_ext_iff_of_nodup nodup nodup').2 fun key => ⟨subset key, superset key⟩
    exact perm.eq_of_pairwise (fun a b _ _ before after => (before.not_gt after).elim) inOrder inOrder'
  · intro same
    rw [same]
    exact ⟨fun _ => id, fun _ => id⟩

theorem keys_of_entriesMeaning (same : entriesMeaning left = entriesMeaning right) :
    left.map Prod.fst = right.map Prod.fst := by
  have keys : ∀ entries, (entriesMeaning entries).map Prod.fst = entries.map Prod.fst := by
    intro entries
    induction entries with
    | nil => rfl
    | cons entry entries ih =>
      show entry.1 :: (entriesMeaning entries).map Prod.fst = entry.1 :: entries.map Prod.fst
      rw [ih]
  rw [← keys, same, keys]

mutual

/-- **Two values are equal** if they mean the same. -/
theorem strictJsonEqual_iff {left right : JsonValue} (isFrozen : left.Frozen)
    (isFrozen' : right.Frozen) :
    strictJsonEqual left right = true ↔ left.meaning = right.meaning := by
  cases left with
  | null => cases right <;> simp [strictJsonEqual, scalarEqual, JsonValue.meaning]
  | bool value => cases right <;> simp [strictJsonEqual, JsonValue.meaning]
  | int value | float value | str value =>
    cases right <;> simp [strictJsonEqual, scalarEqual, JsonValue.meaning]
  | list items =>
    cases right with
    | list others =>
      have equal := itemsEqual_iff isFrozen isFrozen'
      rw [strictJsonEqual, JsonValue.meaning, JsonValue.meaning, Json.list.injEq, ← equal]
      simp
    | _ => simp [strictJsonEqual, JsonValue.meaning]
  | mapping entries =>
    cases right with
    | mapping others =>
      have equal := entriesEqual_iff isFrozen.2 isFrozen'.2
      rw [strictJsonEqual, JsonValue.meaning, JsonValue.meaning, Json.mapping.injEq,
        Bool.and_eq_true, keys_eq_of_inOrder isFrozen.1 isFrozen'.1, equal]
      constructor
      · rintro ⟨sameKeys, same⟩
        exact (entriesMeaning_eq_iff isFrozen.1 sameKeys).1 same
      · intro same
        have sameKeys := keys_of_entriesMeaning same
        exact ⟨sameKeys, (entriesMeaning_eq_iff isFrozen.1 sameKeys).2 same⟩
    | _ => simp [strictJsonEqual, JsonValue.meaning]

theorem itemsEqual_iff {left right : List JsonValue} (areFrozen : itemsFrozen left)
    (areFrozen' : itemsFrozen right) :
    (left.length = right.length ∧ itemsEqual left right = true) ↔
      itemsMeaning left = itemsMeaning right := by
  rcases left with _ | ⟨item, items⟩
  · cases right <;> simp [itemsEqual, itemsMeaning]
  rcases right with _ | ⟨other, others⟩
  · simp [itemsMeaning]
  have first := strictJsonEqual_iff areFrozen.1 areFrozen'.1
  have rest := itemsEqual_iff areFrozen.2 areFrozen'.2
  rw [itemsEqual, itemsMeaning, itemsMeaning, List.cons.injEq, ← first, ← rest, List.length_cons,
    List.length_cons, Nat.add_right_cancel_iff, Bool.and_eq_true]
  exact and_left_comm

theorem entriesEqual_iff {left right : List (String × JsonValue)} (areFrozen : entriesFrozen left)
    (areFrozen' : entriesFrozen right) :
    entriesEqual left right = true ↔ ∀ entry ∈ left, ∃ value, right.lookup entry.1 = some value ∧
      entry.2.meaning = value.meaning := by
  rcases left with _ | ⟨entry, entries⟩
  · simp [entriesEqual]
  obtain ⟨key, value⟩ := entry
  have rest := entriesEqual_iff areFrozen.2 areFrozen'
  rw [entriesEqual, Bool.and_eq_true, rest, List.forall_mem_cons]
  refine and_congr_left ?_
  intro _
  rcases found : right.lookup key with _ | other
  · simp
  have first := strictJsonEqual_iff areFrozen.1 (frozen_of_lookup areFrozen' found)
  simp [first]

end

/-! ## Findings -/

/-- A finding that keeps no comparison from passing. -/
def DriftFinding.Passes (finding : DriftFinding) : Prop :=
  finding.verdict ≠ .failed ∧ finding.verdict ≠ .blocked

/-- **A comparison passes** exactly if every finding does. -/
theorem reportVerdict_eq_passed {findings : List DriftFinding} :
    reportVerdict findings = .passed ↔ ∀ finding ∈ findings, finding.Passes := by
  have none : ∀ verdict : DriftVerdict, findings.any (·.verdict = verdict) = false ↔
      ∀ finding ∈ findings, finding.verdict ≠ verdict := by
    intro verdict
    rw [List.any_eq_false]
    simp only [decide_eq_true_eq, ne_eq]
  have both : (∀ finding ∈ findings, finding.Passes) ↔
      findings.any (·.verdict = .failed) = false ∧ findings.any (·.verdict = .blocked) = false := by
    rw [none, none]
    exact forall₂_and
  rw [both]
  unfold reportVerdict
  cases findings.any (·.verdict = .failed) <;> cases findings.any (·.verdict = .blocked) <;> simp

variable {target field source : String}

theorem passes_valueFinding {wanted actual : JsonValue}
    (isFrozen : wanted.Frozen) (isFrozen' : actual.Frozen) :
    (valueFinding target field wanted actual source).Passes ↔ wanted.meaning = actual.meaning := by
  rw [← strictJsonEqual_iff isFrozen isFrozen']
  unfold DriftFinding.Passes valueFinding
  cases strictJsonEqual wanted actual <;> simp

theorem not_passes_addedFinding {actual : JsonValue} :
    ¬ (addedFinding target field actual source).Passes := fun passes => passes.1 rfl

theorem not_passes_missingFinding {completeness : EvidenceCompleteness} :
    ¬ (missingFinding completeness target field source).Passes := by
  intro passes
  cases completeness with
  | complete => exact passes.1 rfl
  | partly => exact passes.2 rfl

theorem not_passes_unobservedFinding {actual : String} {wanted : JsonValue}
    {driftType : DriftType} :
    ¬ (unobservedFinding target field wanted actual driftType source).Passes :=
  fun passes => passes.2 rfl

theorem mem_of_lookup (found : entries.lookup key = some value) : (key, value) ∈ entries := by
  induction entries with
  | nil => cases found
  | cons entry entries ih =>
    rw [List.lookup_cons] at found
    split at found
    · rename_i same
      obtain rfl := Option.some.inj found
      rw [eq_of_beq same]
      exact List.mem_cons_self
    · exact List.mem_cons_of_mem entry (ih found)

theorem frozen_of_mem {entry : String × JsonValue}
    (areFrozen : entriesFrozen entries) (inside : entry ∈ entries) : entry.2.Frozen := by
  induction entries with
  | nil => cases inside
  | cons first rest ih =>
    rcases List.mem_cons.1 inside with rfl | later
    · exact areFrozen.1
    · exact ih areFrozen.2 later

/-- **The finding of an attribute** passes exactly if it was observed with the same meaning. -/
theorem passes_attributeFinding {actual : ConfigurationResource}
    {wanted : String × JsonValue} (isFrozen : wanted.2.Frozen) :
    (attributeFinding target actual source wanted).Passes ↔ ∃ value,
      actual.attributes.lookup wanted.1 = some value ∧ wanted.2.meaning = value.meaning := by
  have observed : ∀ {value}, actual.attributes.lookup wanted.1 = some value →
      wanted.1 ∉ actual.unknownAttributes ∧ wanted.1 ∉ actual.unauthorizedAttributes := by
    intro value found
    have inside := List.mem_map_of_mem (f := Prod.fst) (mem_of_lookup found)
    exact actual.observed wanted.1 inside
  unfold attributeFinding
  cases found : actual.attributes.lookup wanted.1 with
  | none =>
    refine ⟨?_, by simp⟩
    split
    · exact fun passes => absurd passes not_passes_unobservedFinding
    split
    · exact fun passes => absurd passes not_passes_unobservedFinding
    · exact fun passes => absurd passes not_passes_unobservedFinding
  | some value =>
    rw [if_neg (observed found).2, if_neg (observed found).1]
    rw [passes_valueFinding isFrozen (frozen_of_lookup actual.frozen.2 found)]
    simp

/-- **The findings of a resource** pass exactly if its region and its attributes are the same. -/
theorem passes_compareResource {wanted actual : ConfigurationResource} :
    (∀ finding ∈ compareResource wanted actual source, finding.Passes) ↔
      wanted.region = actual.region ∧
        entriesMeaning wanted.attributes = entriesMeaning actual.attributes := by
  have region : (valueFinding (resourceTarget wanted.key) "region" (.str wanted.region)
      (.str actual.region) source).Passes ↔ wanted.region = actual.region := by
    rw [passes_valueFinding (by simp [JsonValue.Frozen]) (by simp [JsonValue.Frozen])]
    simp [JsonValue.meaning]
  have extras : (∀ extra ∈ actual.attributes.filter (·.1 ∉ wanted.attributes.map Prod.fst),
      (addedFinding (resourceTarget wanted.key) extra.1 extra.2 source).Passes) ↔
        ∀ name ∈ actual.attributes.map Prod.fst, name ∈ wanted.attributes.map Prod.fst := by
    rw [List.forall_mem_map (f := Prod.fst)]
    constructor
    · intro passes extra inside
      by_contra outside
      exact not_passes_addedFinding (passes extra
        (List.mem_filter.2 ⟨inside, decide_eq_true outside⟩))
    · intro known extra inside
      have outside := of_decide_eq_true (List.mem_filter.1 inside).2
      exact absurd (known extra (List.mem_filter.1 inside).1) outside
  have attributes : (∀ entry ∈ wanted.attributes,
      (attributeFinding (resourceTarget wanted.key) actual source entry).Passes) ↔
        ∀ entry ∈ wanted.attributes, ∃ value, actual.attributes.lookup entry.1 = some value ∧
          entry.2.meaning = value.meaning :=
    forall₂_congr fun entry inside =>
      passes_attributeFinding (frozen_of_mem wanted.frozen.2 inside)
  unfold compareResource
  rw [List.forall_mem_cons, List.forall_mem_append, List.forall_mem_map, List.forall_mem_map, region,
    extras, attributes]
  refine and_congr_right ?_
  intro _
  constructor
  · rintro ⟨same, known⟩
    have sameKeys : wanted.attributes.map Prod.fst = actual.attributes.map Prod.fst := by
      refine (keys_eq_of_inOrder wanted.frozen.1 actual.frozen.1).1 ?_
      simp only [Bool.and_eq_true, List.all_eq_true, decide_eq_true_eq]
      refine ⟨?_, known⟩
      rw [List.forall_mem_map]
      intro entry inside
      obtain ⟨value, found, -⟩ := same entry inside
      have isEntry := List.mem_map_of_mem (f := Prod.fst) (mem_of_lookup found)
      exact isEntry
    exact (entriesMeaning_eq_iff wanted.frozen.1 sameKeys).1 same
  · intro same
    have sameKeys := keys_of_entriesMeaning same
    refine ⟨(entriesMeaning_eq_iff wanted.frozen.1 sameKeys).2 same, ?_⟩
    rw [sameKeys]
    exact fun _ => id

/-! ## When a comparison passes -/

/-- **An observation matches a baseline.** -/
structure Matches (baseline : FrozenConfigurationBaseline)
    (observation : ConfigurationObservation) : Prop where
  scope : observation.scope = baseline.scope
  known : baseline.unknownItems = []
  resources : ∀ key, key ∈ baseline.resources.map ConfigurationResource.key ↔
    key ∈ observation.resources.map ConfigurationResource.key
  links : ∀ key, key ∈ baseline.links.map ConfigurationLink.key ↔
    key ∈ observation.links.map ConfigurationLink.key
  equal : ∀ wanted ∈ baseline.resources, ∀ actual ∈ observation.resources,
    actual.key = wanted.key → wanted.region = actual.region ∧
      entriesMeaning wanted.attributes = entriesMeaning actual.attributes

theorem find?_key {resources : List ConfigurationResource}
    (unique : (resources.map ConfigurationResource.key).Nodup) {resource : ConfigurationResource}
    {key : String × String} :
    resources.find? (·.key = key) = some resource ↔ resource ∈ resources ∧ resource.key = key := by
  constructor
  · intro found
    have isKey := List.find?_some found
    exact ⟨List.mem_of_find?_eq_some found, of_decide_eq_true isKey⟩
  · rintro ⟨inside, rfl⟩
    cases found : resources.find? (·.key = resource.key) with
    | none =>
      have apart := List.find?_eq_none.1 found resource inside
      exact absurd (decide_eq_true rfl) apart
    | some other =>
      have same := List.find?_some found
      exact congrArg some (List.inj_on_of_nodup_map unique (List.mem_of_find?_eq_some found) inside
        (of_decide_eq_true same))

theorem find?_key_eq_none {resources : List ConfigurationResource} {key : String × String} :
    resources.find? (·.key = key) = none ↔ key ∉ resources.map ConfigurationResource.key := by
  rw [List.find?_eq_none, List.mem_map]
  simp only [decide_eq_true_eq, not_exists, not_and]

variable {baseline : FrozenConfigurationBaseline} {observation : ConfigurationObservation}

/-- **The findings of a key** pass exactly if both sides have it and agree, or neither has it. -/
theorem passes_resourceFindings {key : String × String} :
    (∀ finding ∈ resourceFindings baseline observation key, finding.Passes) ↔
      (key ∈ baseline.resources.map ConfigurationResource.key ↔
        key ∈ observation.resources.map ConfigurationResource.key) ∧
      ∀ wanted ∈ baseline.resources, ∀ actual ∈ observation.resources, wanted.key = key →
        actual.key = key → wanted.region = actual.region ∧
          entriesMeaning wanted.attributes = entriesMeaning actual.attributes := by
  unfold resourceFindings
  cases ofBaseline : baseline.resources.find? (·.key = key) with
  | none =>
    have absent := find?_key_eq_none.1 ofBaseline
    have nothing : ∀ wanted ∈ baseline.resources, wanted.key ≠ key := by
      rintro wanted inside rfl
      exact absent (List.mem_map_of_mem inside)
    cases ofObservation : observation.resources.find? (·.key = key) with
    | none =>
      have absent' := find?_key_eq_none.1 ofObservation
      refine ⟨fun _ => ⟨iff_of_false absent absent', ?_⟩, fun _ _ => nofun⟩
      exact fun wanted inside _ _ isKey => absurd isKey (nothing wanted inside)
    | some actual =>
      obtain ⟨inside, isKey⟩ := (find?_key observation.uniqueResources).1 ofObservation
      constructor
      · intro passes
        exact absurd (passes _ List.mem_cons_self) not_passes_addedFinding
      · rintro ⟨same, -⟩
        exact absurd (same.2 (isKey ▸ List.mem_map_of_mem inside)) absent
  | some wanted =>
    obtain ⟨insideBaseline, isKey⟩ := (find?_key baseline.uniqueResources).1 ofBaseline
    have present : key ∈ baseline.resources.map ConfigurationResource.key :=
      isKey ▸ List.mem_map_of_mem insideBaseline
    cases ofObservation : observation.resources.find? (·.key = key) with
    | none =>
      have absent' := find?_key_eq_none.1 ofObservation
      constructor
      · intro passes
        exact absurd (passes _ List.mem_cons_self) not_passes_missingFinding
      · rintro ⟨same, -⟩
        exact absurd (same.1 present) absent'
    | some actual =>
      obtain ⟨insideObservation, isKey'⟩ :=
        (find?_key observation.uniqueResources).1 ofObservation
      have present' : key ∈ observation.resources.map ConfigurationResource.key :=
        isKey' ▸ List.mem_map_of_mem insideObservation
      show (∀ finding ∈ compareResource wanted actual observation.source, finding.Passes) ↔ _
      rw [passes_compareResource]
      constructor
      · intro same
        refine ⟨iff_of_true present present', ?_⟩
        intro wanted' inside actual' inside' isWanted isActual
        obtain rfl := Option.some.inj (ofBaseline.symm.trans
          ((find?_key baseline.uniqueResources).2 ⟨inside, isWanted⟩))
        obtain rfl := Option.some.inj (ofObservation.symm.trans
          ((find?_key observation.uniqueResources).2 ⟨inside', isActual⟩))
        exact same
      · rintro ⟨-, same⟩
        exact same wanted insideBaseline actual insideObservation isKey isKey'

theorem passes_linkFinding {key : String × String × String} :
    (linkFinding baseline observation key).Passes ↔ key ∈ baseline.links.map ConfigurationLink.key ∧
        key ∈ observation.links.map ConfigurationLink.key := by
  unfold linkFinding
  split
  · rename_i absent
    exact iff_of_false not_passes_addedFinding fun both => absent both.1
  rename_i present
  split
  · rename_i absent
    exact iff_of_false not_passes_missingFinding fun both => absent both.2
  · rename_i present'
    exact iff_of_true ⟨nofun, nofun⟩ ⟨not_not.1 present, not_not.1 present'⟩

theorem passes_baselineContextFindings :
    (∀ finding ∈ baselineContextFindings baseline, finding.Passes) ↔ baseline.unknownItems = [] := by
  unfold baselineContextFindings
  rw [List.forall_mem_append, List.forall_mem_map, List.forall_mem_map]
  constructor
  · rintro ⟨-, passes⟩
    refine List.eq_nil_iff_forall_not_mem.2 ?_
    exact fun item inside => (passes item inside).2 rfl
  · intro isEmpty
    rw [isEmpty]
    exact ⟨fun _ _ => ⟨nofun, nofun⟩, fun _ => nofun⟩

theorem findings_eq (sameScope : observation.scope = baseline.scope) :
    (compareConfiguration baseline observation).findings =
      ((baseline.resources.map ConfigurationResource.key ++
        observation.resources.map ConfigurationResource.key).dedup.insertionSort keyLe).flatMap
          (resourceFindings baseline observation) ++
      ((baseline.links.map ConfigurationLink.key ++
        observation.links.map ConfigurationLink.key).dedup.insertionSort linkLe).map
          (linkFinding baseline observation) ++ baselineContextFindings baseline := by
  unfold compareConfiguration
  rw [if_neg (not_not.2 sameScope)]
  rfl

theorem verdict_eq (baseline : FrozenConfigurationBaseline)
    (observation : ConfigurationObservation) :
    (compareConfiguration baseline observation).verdict =
      reportVerdict (compareConfiguration baseline observation).findings := by
  unfold compareConfiguration
  split <;> rfl

/-- **A comparison passes** exactly if the observation matches the baseline. -/
theorem verdict_passed_iff :
    (compareConfiguration baseline observation).verdict = .passed ↔ Matches baseline observation := by
  rw [verdict_eq]
  by_cases sameScope : observation.scope = baseline.scope
  · rw [reportVerdict_eq_passed, findings_eq sameScope, List.forall_mem_append,
      List.forall_mem_append, List.forall_mem_flatMap, List.forall_mem_map,
      passes_baselineContextFindings]
    simp only [passes_resourceFindings, passes_linkFinding, List.mem_insertionSort, List.mem_dedup,
      List.mem_append]
    constructor
    · rintro ⟨⟨resources, links⟩, known⟩
      refine ⟨sameScope, known, ?_, ?_, ?_⟩
      · intro key
        by_cases there : key ∈ baseline.resources.map ConfigurationResource.key ∨
            key ∈ observation.resources.map ConfigurationResource.key
        · exact (resources key there).1
        · rw [not_or] at there
          exact iff_of_false there.1 there.2
      · intro key
        exact ⟨fun present => (links key (.inl present)).2,
          fun present => (links key (.inr present)).1⟩
      · intro wanted inside actual inside' isKey
        exact (resources wanted.key (.inl (List.mem_map_of_mem inside))).2 wanted inside actual
          inside' rfl isKey
    · intro same
      refine ⟨⟨?_, ?_⟩, same.known⟩
      · intro key _
        refine ⟨same.resources key, ?_⟩
        rintro wanted inside actual inside' rfl isKey
        exact same.equal wanted inside actual inside' isKey
      · intro key there
        have present : key ∈ baseline.links.map ConfigurationLink.key :=
          there.elim id (same.links key).2
        exact ⟨present, (same.links key).1 present⟩
  · refine iff_of_false ?_ fun same => sameScope same.scope
    unfold compareConfiguration
    rw [if_pos sameScope]
    exact nofun

/-! ## Less evidence -/

/-- A resource of which less is observed: an attribute that is left out is unknown or unauthorized. -/
structure LosesAttributes (original lost : ConfigurationResource) : Prop where
  key : lost.key = original.key
  region : lost.region = original.region
  attributes : ∀ entry ∈ lost.attributes, entry ∈ original.attributes
  moved : ∀ entry ∈ original.attributes, entry ∈ lost.attributes ∨
    strip entry.1 ∈ lost.unknownAttributes ∨ strip entry.1 ∈ lost.unauthorizedAttributes

/-- **An observation with less evidence**: if a resource or a link is left out, it is marked partial. -/
structure LosesEvidence (observation lost : ConfigurationObservation) : Prop where
  scope : lost.scope = observation.scope
  resources : ∀ resource ∈ lost.resources, ∃ original ∈ observation.resources,
    LosesAttributes original resource
  links : ∀ link ∈ lost.links, link ∈ observation.links
  marked : lost.completeness = .partly ∨ (lost.completeness = observation.completeness ∧
    lost.resources.map ConfigurationResource.key =
      observation.resources.map ConfigurationResource.key ∧ lost.links = observation.links)

theorem lookup_of_mem (inOrder : InOrder entries) (inside : (key, value) ∈ entries) :
    entries.lookup key = some value := by
  induction entries with
  | nil => cases inside
  | cons entry entries ih =>
    unfold InOrder at inOrder ih
    rw [List.map_cons, List.pairwise_cons] at inOrder
    rcases List.mem_cons.1 inside with rfl | later
    · exact List.lookup_cons_self
    have apart : key ≠ entry.1 := (inOrder.1 key (List.mem_map_of_mem (f := Prod.fst) later)).ne'
    rw [List.lookup_cons, beq_eq_false_iff_ne.2 apart]
    exact ih inOrder.2 later

/-- A resource that agrees with what is left of it. -/
theorem added_of_compareResource {wanted original lost : ConfigurationResource}
    (loses : LosesAttributes original lost) (region : wanted.region = lost.region)
    (attributes : entriesMeaning wanted.attributes = entriesMeaning lost.attributes)
    {finding : DriftFinding} (inside : finding ∈ compareResource wanted original source)
    (keeps : ¬ finding.Passes) : finding.driftType = .added := by
  unfold compareResource at inside
  rcases List.mem_cons.1 inside with rfl | inside
  · refine absurd ?_ keeps
    rw [passes_valueFinding (by simp [JsonValue.Frozen]) (by simp [JsonValue.Frozen]), region,
      loses.region]
  rcases List.mem_append.1 inside with inside | inside
  · obtain ⟨entry, isEntry, rfl⟩ := List.mem_map.1 inside
    refine absurd ?_ keeps
    rw [passes_attributeFinding (frozen_of_mem wanted.frozen.2 isEntry)]
    obtain ⟨value, found, same⟩ := (entriesMeaning_eq_iff wanted.frozen.1
      (keys_of_entriesMeaning attributes)).2 attributes entry isEntry
    -- What is left was observed before, too.
    exact ⟨value, lookup_of_mem original.frozen.1 (loses.attributes _ (mem_of_lookup found)), same⟩
  · obtain ⟨extra, -, rfl⟩ := List.mem_map.1 inside
    rfl

/-- **With less evidence** an observation matches only if all it disagreed in were additions. -/
theorem added_of_loses {lost : ConfigurationObservation} (loses : LosesEvidence observation lost)
    (same : Matches baseline lost) {finding : DriftFinding}
    (inside : finding ∈ (compareConfiguration baseline observation).findings)
    (keeps : ¬ finding.Passes) : finding.driftType = .added := by
  rw [findings_eq (loses.scope.symm.trans same.scope), List.mem_append, List.mem_append] at inside
  rcases inside with (ofResource | ofLink) | ofContext
  · obtain ⟨key, -, inside⟩ := List.mem_flatMap.1 ofResource
    unfold resourceFindings at inside
    cases ofBaseline : baseline.resources.find? (·.key = key) with
    | none =>
      cases ofObservation : observation.resources.find? (·.key = key) with
      | none =>
        rw [ofBaseline, ofObservation] at inside
        cases inside
      | some actual =>
        rw [ofBaseline, ofObservation] at inside
        obtain rfl := List.mem_singleton.1 inside
        rfl
    | some wanted =>
      obtain ⟨isWanted, isKey⟩ := (find?_key baseline.uniqueResources).1 ofBaseline
      obtain ⟨left, isLeft, leftKey⟩ := List.mem_map.1
        ((same.resources key).1 (isKey ▸ List.mem_map_of_mem isWanted))
      obtain ⟨original, isOriginal, losesAttributes⟩ := loses.resources left isLeft
      have ofObservation : observation.resources.find? (·.key = key) = some original :=
        (find?_key observation.uniqueResources).2
          ⟨isOriginal, losesAttributes.key.symm.trans leftKey⟩
      rw [ofBaseline, ofObservation] at inside
      have equal := same.equal wanted isWanted left isLeft (leftKey.trans isKey.symm)
      exact added_of_compareResource losesAttributes equal.1 equal.2 inside keeps
  · obtain ⟨key, -, rfl⟩ := List.mem_map.1 ofLink
    unfold linkFinding at keeps ⊢
    split
    · rfl
    rename_i present
    obtain ⟨link, isLink, isKey⟩ := List.mem_map.1 ((same.links key).1 (not_not.1 present))
    have seen : key ∈ observation.links.map ConfigurationLink.key :=
      isKey ▸ List.mem_map_of_mem (loses.links link isLink)
    rw [if_neg present, if_neg (not_not.2 seen)] at keeps
    exact absurd ⟨nofun, nofun⟩ keeps
  · exact absurd (passes_baselineContextFindings.2 same.known finding ofContext) keeps

/-- **The drift verdict is exact**: it is passed exactly if the observation matches the baseline; and an
observation with less evidence passes only if what kept the whole one from passing were additions, of
resources, links or attributes that the baseline does not have. -/
theorem drift_verdict_exact (baseline : FrozenConfigurationBaseline)
    (observation : ConfigurationObservation) :
    ((compareConfiguration baseline observation).verdict = .passed ↔ Matches baseline observation) ∧
    ∀ lost, LosesEvidence observation lost →
      (compareConfiguration baseline lost).verdict = .passed →
        ∀ finding ∈ (compareConfiguration baseline observation).findings,
          finding.verdict = .failed ∨ finding.verdict = .blocked → finding.driftType = .added := by
  refine ⟨verdict_passed_iff, ?_⟩
  intro lost loses passed finding inside keeps
  refine added_of_loses loses (verdict_passed_iff.1 passed) inside ?_
  rintro ⟨notFailed, notBlocked⟩
  exact keeps.elim notFailed notBlocked

/-- A resource with one attribute. -/
def service (name : String) : ConfigurationResource where
  localName := name
  resourceType := "example/service"
  region := "korea central"
  attributes := [("sku", .str "standard")]
  unknownAttributes := []
  unauthorizedAttributes := []
  frozen := by
    rw [JsonValue.Frozen]
    exact ⟨List.pairwise_singleton _ _, by simp [entriesFrozen, JsonValue.Frozen]⟩
  observed := fun _ _ => ⟨nofun, nofun⟩

/-- One service is intended. -/
def oneService : FrozenConfigurationBaseline where
  version := "v1"
  createdAt := 0
  scope := "example-scope"
  source := "reviewed inventory"
  documentSha256 := "00"
  resources := [service "service-a"]
  links := []
  allowedExceptions := []
  unknownItems := []
  uniqueResources := by decide
  uniqueLinks := by decide

def observationOf (completeness : EvidenceCompleteness) (names : List String)
    (unique : (names.map service |>.map ConfigurationResource.key).Nodup) :
    ConfigurationObservation where
  scope := "example-scope"
  observedAt := 1
  source := "inventory"
  completeness := completeness
  resources := names.map service
  links := []
  uniqueResources := unique
  uniqueLinks := by decide

def twoServices : ConfigurationObservation :=
  observationOf .complete ["service-a", "service-b"] (by decide)

/-- One of them is observed no more. -/
def partlyObserved : ConfigurationObservation := observationOf .partly ["service-a"] (by decide)

theorem losesEvidence_partlyObserved : LosesEvidence twoServices partlyObserved where
  scope := rfl
  resources := by
    intro resource inside
    obtain rfl := List.mem_singleton.1 inside
    exact ⟨service "service-a", List.mem_cons_self, rfl, rfl, fun _ => id, fun _ => .inl⟩
  links := fun _ => nofun
  marked := .inl rfl

/-- **Losing an addition**: an observation that has lost a resource the baseline does not have passes,
and the whole one failed. -/
theorem addition_lost :
    ¬ ∀ (baseline : FrozenConfigurationBaseline) (observation lost : ConfigurationObservation),
      LosesEvidence observation lost →
        (compareConfiguration baseline observation).verdict ≠ .passed →
          (compareConfiguration baseline lost).verdict ≠ .passed := by
  intro never
  have failed : (compareConfiguration oneService twoServices).verdict = .failed := by
    decide +kernel
  have passed : (compareConfiguration oneService partlyObserved).verdict = .passed := by
    decide +kernel
  refine never oneService twoServices partlyObserved losesEvidence_partlyObserved ?_ passed
  rw [failed]
  exact nofun

theorem drift_verdict_exact_services :
    (compareConfiguration oneService partlyObserved).verdict = .passed ∧
      ∀ finding ∈ (compareConfiguration oneService twoServices).findings,
        finding.verdict = .failed ∨ finding.verdict = .blocked → finding.driftType = .added :=
  have passed : (compareConfiguration oneService partlyObserved).verdict = .passed := by
    decide +kernel
  ⟨passed, (drift_verdict_exact oneService twoServices).2 partlyObserved
    losesEvidence_partlyObserved passed⟩

end Fdai.Core.Detection
