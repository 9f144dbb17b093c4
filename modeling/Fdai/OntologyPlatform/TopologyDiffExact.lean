import Fdai.OntologyPlatform.TopologyHistory

/-!
# Exactness of a topology diff

When the difference of two materialized graphs tells the operator exactly what changed.

* `Materialized` — what a materialized graph is: its objects and links are in order, each once, and
  their properties are canonical.
* `TopologyExact` — what an exact diff says.
* `topologyDiff_exact_iff` — **exactly when a diff is exact**: different links whose keys are the same
  text are in both graphs and did not change, and no properties that differ are equal to Python.

A key does not tell where the start of a link ends: `a|x` to `b` under `y` has the key of `a` to `b`
under `x|y`, and of the two the comparison sees one.
-/

namespace Fdai.Core.OntologyPlatform

open Fdai.Documents Fdai.Sequences

/-- Properties as a canonical text has them. -/
structure CanonicalProperties (properties : List (String × Json)) : Prop where
  canonical : (Json.object properties).canonical = .object properties
  finite : (Json.object properties).isFinite = true

/-- **A materialized graph.** -/
structure Materialized (graph : OntologyGraphSnapshot) : Prop where
  objects : graph.objects.Pairwise (·.id < ·.id)
  links : graph.links.Pairwise (·.triple < ·.triple)
  objectProperties : ∀ object ∈ graph.objects, CanonicalProperties object.properties
  linkProperties : ∀ link ∈ graph.links, CanonicalProperties link.properties

theorem Materialized.uniqueObjects {graph : OntologyGraphSnapshot}
    (materialized : Materialized graph) : (graph.objects.map OntologyObjectRecord.id).Nodup :=
  unique_of_ordered materialized.objects

theorem Materialized.uniqueLinks {graph : OntologyGraphSnapshot}
    (materialized : Materialized graph) : (graph.links.map OntologyLinkRecord.triple).Nodup :=
  unique_of_ordered materialized.links

section

variable {α β κ : Type}

theorem pairwise_of_mapM [LinearOrder κ] {ε : Type} {f : α → Except ε β} {items : List α}
    {results : List β} {key : α → κ} {name : β → κ} (mapped : items.mapM f = .ok results)
    (ordered : items.Pairwise (key · < key ·))
    (keeps : ∀ item result, f item = .ok result → name result = key item) :
    results.Pairwise (name · < name ·) := by
  have names : results.map name = items.map key := map_of_mapM mapped keeps
  refine List.pairwise_map.1 ?_
  rw [names]
  exact List.pairwise_map.2 ordered

end

theorem canonical_of_check {kind : String} {propertiesJson : Json} {deleted : Bool}
    (passed : validate (propertyChecks kind propertiesJson deleted) = .ok ()) :
    CanonicalProperties (parseObject propertiesJson) := by
  simp only [propertyChecks, validate_cons_eq_ok, decide_eq_true_eq] at passed
  obtain ⟨isObject, finite, canonical_, -⟩ := passed
  exact ⟨isObject ▸ canonical_, isObject ▸ finite⟩

theorem objectRecord_properties {revision : TopologyObjectRevision} {record : OntologyObjectRecord}
    (built : objectRecord revision = .ok record) :
    record.id = revision.val.objectId ∧ CanonicalProperties record.properties := by
  obtain ⟨-, same⟩ := check_bind_eq_ok.1 built
  obtain rfl := Except.ok.inj same
  have passed := revision.2
  unfold checkObjectRevision at passed
  exact ⟨rfl, canonical_of_check (validate_cons_eq_ok.1 (validate_append_eq_ok.1 passed).2).2⟩

theorem linkRecord_properties {revision : TopologyLinkRevision} {record : OntologyLinkRecord}
    (built : linkRecord revision = .ok record) :
    record.triple = revision.val.key ∧ CanonicalProperties record.properties := by
  obtain ⟨-, same⟩ := check_bind_eq_ok.1 built
  obtain rfl := Except.ok.inj same
  have passed := revision.2
  unfold checkLinkRevision at passed
  exact ⟨rfl, canonical_of_check (validate_cons_eq_ok.1 (validate_append_eq_ok.1 passed).2).2⟩

/-- **What is materialized** is in order, each object and link once. -/
theorem materialized_of_graphAt {batches : List TopologyRevisionBatch} {asOf knownAt : Datetime}
    {view : TopologyGraphAt} (materialized : graphAt batches asOf knownAt = .ok view) :
    Materialized view.graph := by
  unfold graphAt at materialized
  obtain ⟨-, materialized⟩ := check_bind_eq_ok.1 materialized
  obtain ⟨-, materialized⟩ := check_bind_eq_ok.1 materialized
  obtain ⟨objects, objectsBuilt, materialized⟩ := bind_eq_ok.1 materialized
  obtain ⟨links, linksBuilt, materialized⟩ := bind_eq_ok.1 materialized
  obtain rfl := Except.ok.inj materialized
  refine ⟨?_, ?_, ?_, ?_⟩
  · exact pairwise_of_mapM objectsBuilt ((pairwise_sortedBy_of_nodup (Keyed.nodup _)).filter _)
      fun _ _ built => (objectRecord_properties built).1
  · exact pairwise_of_mapM linksBuilt ((pairwise_sortedBy_of_nodup (Keyed.nodup _)).filter _)
      fun _ _ built => (linkRecord_properties built).1
  · exact forall_of_mapM objectsBuilt fun _ _ _ built => (objectRecord_properties built).2
  · exact forall_of_mapM linksBuilt fun _ _ _ built => (linkRecord_properties built).2

/-- **An exact diff.** -/
structure TopologyExact (before after : OntologyGraphSnapshot) (diff : TopologyDiff) : Prop where
  /-- No change is reported exactly if the graphs have the same objects and the same links. -/
  unchanged : diff.objects.listed = [] ∧ diff.links.listed = [] ↔
    (∀ object, object ∈ before.objects ↔ object ∈ after.objects) ∧
      ∀ link, link ∈ before.links ↔ link ∈ after.links
  /-- Each object is listed under its id, where it belongs. -/
  objects : Exact OntologyObjectRecord.id id before.objects after.objects diff.objects
  /-- Each link is listed under its key, where it belongs, and has the entry for itself. -/
  links : Exact OntologyLinkRecord.triple tripleKey before.links after.links diff.links

/-- Objects with one id, or links between the same ends, that are equal to Python are the same. -/
structure EqualityFaithful (before after : OntologyGraphSnapshot) : Prop where
  objects : ∀ a ∈ before.objects, ∀ b ∈ after.objects, a.id = b.id → a.pyEq b = true → a = b
  links : ∀ a ∈ before.links, ∀ b ∈ after.links, a.triple = b.triple → a.pyEq b = true → a = b

theorem objectEq_self {a : OntologyObjectRecord} (canonical_ : CanonicalProperties a.properties) :
    a.pyEq a = true := by
  unfold OntologyObjectRecord.pyEq
  simp [Json.pyEq_self canonical_.canonical canonical_.finite]

theorem linkEq_self {a : OntologyLinkRecord} (canonical_ : CanonicalProperties a.properties) :
    a.pyEq a = true := by
  unfold OntologyLinkRecord.pyEq
  simp [Json.pyEq_self canonical_.canonical canonical_.finite]

/-- An object is compared under its id, which no other object has. -/
theorem objects_exact_iff {before after : OntologyGraphSnapshot} (isBefore : Materialized before)
    (isAfter : Materialized after) :
    Exact OntologyObjectRecord.id id before.objects after.objects
        (keyDifference OntologyObjectRecord.id id (fun a b => !OntologyObjectRecord.pyEq a b)
          before.objects after.objects) ↔
      ∀ a ∈ before.objects, ∀ b ∈ after.objects, a.id = b.id → a.pyEq b = true → a = b := by
  rw [exact_iff isBefore.objects isAfter.objects
    fun a aBefore _ => by simp [objectEq_self (isBefore.objectProperties a aBefore)]]
  simp only [Bool.not_eq_eq_eq_not, Bool.not_false, and_iff_right_iff_imp]
  intro _ i j _ _ apart same
  exact absurd same apart

theorem links_exact_iff {before after : OntologyGraphSnapshot} (isBefore : Materialized before)
    (isAfter : Materialized after) :
    Exact OntologyLinkRecord.triple tripleKey before.links after.links
        (keyDifference OntologyLinkRecord.triple tripleKey (fun a b => !OntologyLinkRecord.pyEq a b)
          before.links after.links) ↔
      CollidedStayed OntologyLinkRecord.triple tripleKey before.links after.links ∧
      ∀ a ∈ before.links, ∀ b ∈ after.links, a.triple = b.triple → a.pyEq b = true → a = b := by
  rw [exact_iff isBefore.links isAfter.links
    fun a aBefore _ => by simp [linkEq_self (isBefore.linkProperties a aBefore)]]
  simp only [Bool.not_eq_eq_eq_not, Bool.not_false]

/-- **Exactly when a diff is exact.** Two different links of the graphs whose keys are the same text
are in both and did not change, and Python's equality tells apart what differs. -/
theorem topologyDiff_exact_iff {batches batches' : List TopologyRevisionBatch}
    {asOf knownAt asOf' knownAt' : Datetime} {before after : TopologyGraphAt}
    (isBefore : graphAt batches asOf knownAt = .ok before)
    (isAfter : graphAt batches' asOf' knownAt' = .ok after) :
    TopologyExact before.graph after.graph (topologyDiff before after) ↔
      CollidedStayed OntologyLinkRecord.triple tripleKey before.graph.links after.graph.links ∧
        EqualityFaithful before.graph after.graph := by
  have first := materialized_of_graphAt isBefore
  have second := materialized_of_graphAt isAfter
  constructor
  · intro exact_
    obtain ⟨collided, linksFaithful⟩ := (links_exact_iff first second).1 exact_.links
    exact ⟨collided, (objects_exact_iff first second).1 exact_.objects, linksFaithful⟩
  · rintro ⟨collided, objectsFaithful, linksFaithful⟩
    have objects := (objects_exact_iff first second).2 objectsFaithful
    have links := (links_exact_iff first second).2 ⟨collided, linksFaithful⟩
    have sameObjects := Exact.nothing_listed first.uniqueObjects second.uniqueObjects objects
    have sameLinks := Exact.nothing_listed first.uniqueLinks second.uniqueLinks links
    exact ⟨and_congr sameObjects sameLinks, objects, links⟩

/-! ## Concrete graphs -/

/-- A service, as a snapshot retains it. -/
def serviceRevision (objectId : String) : ObjectRevisionFields where
  objectId
  objectType := "service"
  propertiesJson := .object []
  effectiveAt := .aware 0
  recordedAt := .aware 0
  deleted := false
  evidenceRef := "inventory:1"

/-- A link between two services, as a snapshot retains it. -/
def serviceLink (fromId linkType toId : String) : LinkRevisionFields where
  fromId
  fromType := "service"
  linkType
  toId
  toType := "service"
  propertiesJson := .object []
  effectiveAt := .aware 0
  recordedAt := .aware 0
  deleted := false
  evidenceRef := "inventory:1"

/-- A link from `a` to `b`, of type `x|y`. -/
def plainLink : TopologyLinkRevision := ⟨serviceLink "a" "x|y" "b", by decide +kernel⟩

/-- A link from `a|x` to `b`, of type `y`. -/
def barredLink : TopologyLinkRevision := ⟨serviceLink "a|x" "y" "b", by decide +kernel⟩

/-- A snapshot of three services, with these links. -/
def serviceSnapshot (links : List TopologyLinkRevision) : RevisionBatchFields where
  revisionId := "revision-1"
  providerGenerationRef := "generation-1"
  effectiveAt := .aware 0
  recordedAt := .aware 0
  completeSnapshot := true
  objectRevisions := [ ⟨serviceRevision "a", by decide +kernel⟩,
    ⟨serviceRevision "a|x", by decide +kernel⟩,
    ⟨serviceRevision "b", by decide +kernel⟩]
  linkRevisions := links

def bothLinks : TopologyRevisionBatch := ⟨serviceSnapshot [plainLink, barredLink], by decide +kernel⟩

/-- The link of type `x|y` is gone. -/
def oneLink : TopologyRevisionBatch := ⟨serviceSnapshot [barredLink], by decide +kernel⟩

/-- Both links are gone. -/
def noLinks : TopologyRevisionBatch := ⟨serviceSnapshot [], by decide +kernel⟩

/-- The three services, with these links. -/
def serviceGraph (links : List OntologyLinkRecord) : OntologyGraphSnapshot where
  objects := [⟨"a", "service", [], 0⟩, ⟨"a|x", "service", [], 0⟩, ⟨"b", "service", [], 0⟩]
  links := links

/-- The materialized link of type `x|y`. -/
def plainRecord : OntologyLinkRecord := ⟨"x|y", "a", "b", []⟩

/-- The materialized link from `a|x`. -/
def barredRecord : OntologyLinkRecord := ⟨"y", "a|x", "b", []⟩

theorem materialized_of_computed {batches : List TopologyRevisionBatch} {asOf knownAt : Datetime}
    {graph : OntologyGraphSnapshot}
    (computed : (graphAt batches asOf knownAt).toOption.map (·.graph) = some graph) :
    ∃ view, graphAt batches asOf knownAt = .ok view ∧ view.graph = graph := by
  cases run : graphAt batches asOf knownAt with
  | error message =>
    rw [run] at computed
    cases computed
  | ok view =>
    rw [run] at computed
    exact ⟨view, rfl, Option.some.inj computed⟩

/-- What is computed of the snapshots. -/
theorem bothLinks_graph : (graphAt [bothLinks] (.aware 0) (.aware 0)).toOption.map (·.graph) =
    some (serviceGraph [plainRecord, barredRecord]) := by decide +kernel

theorem oneLink_graph : (graphAt [oneLink] (.aware 0) (.aware 0)).toOption.map (·.graph) =
    some (serviceGraph [barredRecord]) := by decide +kernel

theorem noLinks_graph : (graphAt [noLinks] (.aware 0) (.aware 0)).toOption.map (·.graph) =
    some (serviceGraph []) := by decide +kernel

/-- A diff that is exact: both services stay, and the link between them is gone. -/
theorem topologyDiff_exact_removal : ∃ before after,
    graphAt [oneLink] (.aware 0) (.aware 0) = .ok before ∧
      graphAt [noLinks] (.aware 0) (.aware 0) = .ok after ∧
      TopologyExact before.graph after.graph (topologyDiff before after) := by
  obtain ⟨before, isBefore, beforeGraph⟩ := materialized_of_computed oneLink_graph
  obtain ⟨after, isAfter, afterGraph⟩ := materialized_of_computed noLinks_graph
  refine ⟨before, after, isBefore, isAfter, (topologyDiff_exact_iff isBefore isAfter).2 ?_⟩
  rw [beforeGraph, afterGraph]
  refine ⟨?_, by decide +kernel, by decide +kernel⟩
  -- the one link shares its key with no other
  intro i j iNamed jNamed apart _
  have only : ∀ k, Named OntologyLinkRecord.triple (serviceGraph [barredRecord]).links
      (serviceGraph []).links k → k = barredRecord.triple := by
    rintro k (isBefore | isAfter)
    · exact List.mem_singleton.1 isBefore
    · cases isAfter
  exact absurd ((only i iNamed).trans (only j jNamed).symm) apart

/-- **A removal that is not reported.** Of two links with one key, the one that the comparison does
not see is removed: the diff lists nothing. -/
theorem topologyDiff_hides_removal : ∃ before after,
    graphAt [bothLinks] (.aware 0) (.aware 0) = .ok before ∧
      graphAt [oneLink] (.aware 0) (.aware 0) = .ok after ∧
      (topologyDiff before after).objects.listed = [] ∧
      (topologyDiff before after).links.listed = [] ∧
      ¬ TopologyExact before.graph after.graph (topologyDiff before after) := by
  obtain ⟨before, isBefore, beforeGraph⟩ := materialized_of_computed bothLinks_graph
  obtain ⟨after, isAfter, afterGraph⟩ := materialized_of_computed oneLink_graph
  have noObject : (topologyDiff before after).objects.listed = [] := by
    simp only [topologyDiff, beforeGraph, afterGraph]
    decide +kernel
  have noLink : (topologyDiff before after).links.listed = [] := by
    simp only [topologyDiff, beforeGraph, afterGraph]
    decide +kernel
  refine ⟨before, after, isBefore, isAfter, noObject, noLink, ?_⟩
  intro exact_
  have same := (exact_.unchanged.1 ⟨noObject, noLink⟩).2 plainRecord
  rw [beforeGraph, afterGraph] at same
  have kept : plainRecord ∈ (serviceGraph [barredRecord]).links :=
    same.1 (List.mem_cons_self)
  exact absurd kept (by decide +kernel)

end Fdai.Core.OntologyPlatform
