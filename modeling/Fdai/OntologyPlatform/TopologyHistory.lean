import Mathlib.Data.Prod.Lex
import Fdai.Providers.Contracts
import Fdai.Documents.PythonEquality
import Fdai.Sequences.Differences
import Fdai.Sequences.SortedBy

/-!
# Topology history

Append-only revisions of objects and links, the graph that they say was there at one time as known
at another, and what differs between two such graphs.

* `TopologyObjectRevision`, `TopologyLinkRevision`, `TopologyRevisionBatch` — the revisions, as their
  constructors accept them.
* `graphAt` — a graph, materialized from the retained batches; `graphAt_reproducible`.
* `topologyDiff` — what differs between two graphs. Links are compared under `linkKey`.

A canonical JSON text is kept as the value that it encodes, and so is the digest of one: two digests
are equal exactly when the contents are.
-/

namespace Fdai.Core.OntologyPlatform

open Fdai.Documents Fdai.Sequences

def identity (value name : String) (maximum : ℕ) : Bool × String :=
  (value ≠ "" && value.length ≤ maximum, name ++ " MUST be bounded and non-empty")

def aware (value : Datetime) (name : String) : Bool × String :=
  (value.instant?.isSome, "topology " ++ name ++ " MUST be timezone-aware")

def times (effectiveAt recordedAt : Datetime) : List (Bool × String) :=
  [aware effectiveAt "effective_at", aware recordedAt "recorded_at"]

/-- What an aware datetime is compared by. -/
def moment (value : Datetime) : ℤ := value.instant?.getD 0

/-- `_parse_object`: the fields of an object; any other value is refused by `propertyChecks`. -/
def parseObject : Json → List (String × Json)
  | .object fields => fields
  | _ => []

/-- `_digest`. -/
def contentDigest (value : Json) : Json := value.canonical

/-- The checks of the properties of a revision. -/
def propertyChecks (kind : String) (propertiesJson : Json) (deleted : Bool) :
    List (Bool × String) := [
  (propertiesJson = .object (parseObject propertiesJson), kind ++ " properties MUST contain an object"),
  (propertiesJson.isFinite, "Out of range float values are not JSON compliant"),
  (propertiesJson.canonical = propertiesJson,
    "topology " ++ kind ++ " properties_json MUST be canonical"),
  (!deleted || parseObject propertiesJson = [],
    "topology " ++ kind ++ " tombstone MUST NOT carry properties")]

/-- The fields of a `TopologyObjectRevision`. -/
structure ObjectRevisionFields where
  objectId : String
  objectType : String
  propertiesJson : Json
  effectiveAt : Datetime
  recordedAt : Datetime
  deleted : Bool
  evidenceRef : String

def checkObjectRevision (fields : ObjectRevisionFields) : Except String Unit :=
  validate ([ identity fields.objectId "object_id" 256,
    identity fields.objectType "object_type" 256] ++
    times fields.effectiveAt fields.recordedAt ++
    identity fields.evidenceRef "evidence_ref" 512 ::
    propertyChecks "object" fields.propertiesJson fields.deleted)

abbrev TopologyObjectRevision := Valid checkObjectRevision

/-- The fields of a `TopologyLinkRevision`. -/
structure LinkRevisionFields where
  fromId : String
  fromType : String
  linkType : String
  toId : String
  toType : String
  propertiesJson : Json
  effectiveAt : Datetime
  recordedAt : Datetime
  deleted : Bool
  evidenceRef : String

def checkLinkRevision (fields : LinkRevisionFields) : Except String Unit :=
  validate ([ identity fields.fromId "from_id" 256, identity fields.fromType "from_type" 256,
    identity fields.linkType "link_type" 256,
    identity fields.toId "to_id" 256,
    identity fields.toType "to_type" 256] ++
    times fields.effectiveAt fields.recordedAt ++
    identity fields.evidenceRef "evidence_ref" 512 ::
    propertyChecks "link" fields.propertiesJson fields.deleted)

abbrev TopologyLinkRevision := Valid checkLinkRevision

/-- The endpoints and the type of a link: its start, its type and its end, compared in this order. -/
abbrev LinkTriple := String ×ₗ String ×ₗ String

/-- The triple of these parts. -/
def linkTriple (fromId linkType toId : String) : LinkTriple := toLex (fromId, toLex (linkType, toId))

def LinkRevisionFields.key (fields : LinkRevisionFields) : LinkTriple :=
  linkTriple fields.fromId fields.linkType fields.toId

/-- The fields of a `TopologyRevisionBatch`. -/
structure RevisionBatchFields where
  revisionId : String
  providerGenerationRef : String
  effectiveAt : Datetime
  recordedAt : Datetime
  completeSnapshot : Bool
  objectRevisions : List TopologyObjectRevision := []
  linkRevisions : List TopologyLinkRevision := []
  ontologyReleaseDigest : Option String := none
  sourceReceiptDigest : Option String := none

/-- The check of a digest that may be missing. -/
def digestCheck (name : String) (value : Option String) : Bool × String :=
  (value.all isSha256, "topology " ++ name ++ " MUST be a canonical SHA-256 digest")

def checkRevisionBatch (fields : RevisionBatchFields) : Except String Unit :=
  validate ([ identity fields.revisionId "revision_id" 256,
    identity fields.providerGenerationRef "provider_generation_ref" 512] ++
    times fields.effectiveAt fields.recordedAt ++ [
    (decide (fields.objectRevisions.length + fields.linkRevisions.length ≤ 20000),
      "topology revision batch exceeds 20000 records"),
    (fields.objectRevisions.all (moment ·.val.recordedAt = moment fields.recordedAt),
      "topology object recorded_at MUST match its batch"),
    (fields.linkRevisions.all (moment ·.val.recordedAt = moment fields.recordedAt),
      "topology link recorded_at MUST match its batch"),
    digestCheck "ontology_release_digest" fields.ontologyReleaseDigest,
    digestCheck "source_receipt_digest" fields.sourceReceiptDigest])

abbrev TopologyRevisionBatch := Valid checkRevisionBatch

/-! ## Graphs -/

/-- `OntologyObjectRecord`, of the fields that a materialized one has. -/
structure OntologyObjectRecord where
  id : String
  objectType : String
  properties : List (String × Json)
  revision : ℕ := 0
  deriving DecidableEq

/-- `OntologyLinkRecord`, of the fields that a materialized one has. -/
structure OntologyLinkRecord where
  linkType : String
  fromId : String
  toId : String
  properties : List (String × Json)
  deriving DecidableEq

/-- The endpoints and the type of a link. -/
def OntologyLinkRecord.triple (record : OntologyLinkRecord) : LinkTriple :=
  linkTriple record.fromId record.linkType record.toId

/-- `==` of two objects. -/
def OntologyObjectRecord.pyEq (a b : OntologyObjectRecord) : Bool :=
  a.id = b.id && a.objectType = b.objectType && (Json.object a.properties).pyEq (.object b.properties)
    && a.revision = b.revision

/-- `==` of two links. -/
def OntologyLinkRecord.pyEq (a b : OntologyLinkRecord) : Bool :=
  a.linkType = b.linkType && a.fromId = b.fromId && a.toId = b.toId &&
    (Json.object a.properties).pyEq (.object b.properties)

/-- `OntologyGraphSnapshot`, of the fields that a materialized one has. -/
structure OntologyGraphSnapshot where
  objects : List OntologyObjectRecord
  links : List OntologyLinkRecord
  deriving DecidableEq

structure TopologyGraphAt where
  asOf : Datetime
  knownAt : Datetime
  graph : OntologyGraphSnapshot
  complete : Bool
  revisionIds : List String
  providerGenerationRefs : List String
  evidenceRefs : List String
  digest : Json
  ontologyReleaseDigests : List String := []
  sourceReceiptDigests : List String := []

/-- `tuple(dict.fromkeys(…))`: each member once, where it came first. -/
def fromKeys {α : Type} [DecidableEq α] : List α → List α
  | [] => []
  | member :: rest => member :: (fromKeys rest).filter (· ≠ member)

@[simp] theorem mem_fromKeys {α : Type} [DecidableEq α] {member : α} {members : List α} :
    member ∈ fromKeys members ↔ member ∈ members := by
  induction members with
  | nil => exact Iff.rfl
  | cons first rest ih =>
    rw [fromKeys, List.mem_cons, List.mem_cons, List.mem_filter, ih]
    by_cases isFirst : member = first
    · simp [isFirst]
    · simp [isFirst]

theorem nodup_fromKeys {α : Type} [DecidableEq α] (members : List α) : (fromKeys members).Nodup := by
  induction members with
  | nil => exact List.nodup_nil
  | cons first rest ih =>
    rw [fromKeys, List.nodup_cons]
    exact ⟨fun inside => by simp at inside, ih.filter _⟩

theorem length_fromKeys_le {α : Type} [DecidableEq α] (members : List α) :
    (fromKeys members).length ≤ members.length := by
  induction members with
  | nil => exact le_refl 0
  | cons first rest ih =>
    rw [fromKeys, List.length_cons, List.length_cons]
    exact Nat.succ_le_succ ((List.length_filter_le _ _).trans ih)

/-- The time and the name that batches are sorted by. -/
def batchOrder (batch : TopologyRevisionBatch) : ℤ ×ₗ String :=
  toLex (moment batch.val.recordedAt, batch.val.revisionId)

/-- The order in which a newer snapshot is the baseline. -/
def snapshotOrder (batch : TopologyRevisionBatch) : ℤ ×ₗ ℤ ×ₗ String :=
  toLex (moment batch.val.effectiveAt, batchOrder batch)

/-- `max(…, default=None)`: the first of the newest. -/
def newest (batches : List TopologyRevisionBatch) : Option TopologyRevisionBatch :=
  batches.foldl (fun best batch =>
    match best with
    | some best => if snapshotOrder best < snapshotOrder batch then some batch else some best
    | none => some batch) none

/-- The batches that a graph is materialized from: the baseline, and the deltas since. -/
def selectedBatches (baseline : Option TopologyRevisionBatch)
    (eligible : List TopologyRevisionBatch) : List TopologyRevisionBatch :=
  match baseline with
  | none => eligible
  | some baseline => baseline :: eligible.filter fun batch =>
      !batch.val.completeSnapshot &&
        moment baseline.val.effectiveAt ≤ moment batch.val.effectiveAt &&
        (moment baseline.val.effectiveAt < moment batch.val.effectiveAt ||
          moment baseline.val.recordedAt ≤ moment batch.val.recordedAt)

/-- Store a revision that is in effect and not older than the one that is stored. -/
def retain {α κ : Type} [DecidableEq κ] {key : α → κ} (effectiveAt recordedAt : α → Datetime)
    (asOf : Datetime) (stored : Keyed key) (revision : α) : Keyed key :=
  let age (item : α) : ℤ ×ₗ ℤ := toLex (moment (effectiveAt item), moment (recordedAt item))
  let newer := match stored.get (key revision) with
    | some prior => decide (age prior ≤ age revision)
    | none => true
  if moment (effectiveAt revision) ≤ moment asOf && newer then stored.put revision else stored

/-- The revisions of objects by their ids. -/
abbrev ObjectRevisions := Keyed fun revision : TopologyObjectRevision => revision.val.objectId

/-- The revisions of links by their triples. -/
abbrev LinkRevisions := Keyed fun revision : TopologyLinkRevision => revision.val.key

/-- What one batch adds; a snapshot starts anew. -/
def applyBatch (asOf : Datetime) (stored : ObjectRevisions × LinkRevisions)
    (batch : TopologyRevisionBatch) : ObjectRevisions × LinkRevisions :=
  let (objects, links) := if batch.val.completeSnapshot then (Keyed.empty, Keyed.empty) else stored
  let objectOrder (item : TopologyObjectRevision) : ℤ ×ₗ String ×ₗ ℤ :=
    toLex (moment item.val.effectiveAt, toLex (item.val.objectId, moment item.val.recordedAt))
  let linkOrder (item : TopologyLinkRevision) : ℤ ×ₗ LinkTriple ×ₗ ℤ :=
    toLex (moment item.val.effectiveAt, toLex (item.val.key, moment item.val.recordedAt))
  ((sortedBy objectOrder batch.val.objectRevisions).foldl
      (retain (·.val.effectiveAt) (·.val.recordedAt) asOf) objects,
    (sortedBy linkOrder batch.val.linkRevisions).foldl
      (retain (·.val.effectiveAt) (·.val.recordedAt) asOf) links)

/-- `OntologyObjectRecord(…)`, of a revision that is not a tombstone. -/
def objectRecord (revision : TopologyObjectRevision) : Except String OntologyObjectRecord := do
  validate [ (!isBlank revision.val.objectId, "OntologyObjectRecord.id MUST be non-empty"),
    (!isBlank revision.val.objectType, "OntologyObjectRecord.object_type MUST be non-empty")]
  return {
    id := revision.val.objectId
    objectType := revision.val.objectType
    properties := parseObject revision.val.propertiesJson }

/-- `OntologyLinkRecord(…)`, of a revision that is not a tombstone. -/
def linkRecord (revision : TopologyLinkRevision) : Except String OntologyLinkRecord := do
  validate [ (!isBlank revision.val.linkType, "OntologyLinkRecord.link_type MUST be non-empty"),
    (!isBlank revision.val.fromId, "OntologyLinkRecord.from_id MUST be non-empty"),
    (!isBlank revision.val.toId, "OntologyLinkRecord.to_id MUST be non-empty")]
  return {
    linkType := revision.val.linkType
    fromId := revision.val.fromId
    toId := revision.val.toId
    properties := parseObject revision.val.propertiesJson }

/-- Both ends of a link are materialized. -/
def anchored (objects : List OntologyObjectRecord) (revision : TopologyLinkRevision) : Bool :=
  revision.val.fromId ∈ objects.map OntologyObjectRecord.id &&
    revision.val.toId ∈ objects.map OntologyObjectRecord.id

def objectClaims (item : OntologyObjectRecord) : Json := .object [ ("id", .text item.id),
  ("object_type", .text item.objectType),
  ("properties", .object item.properties),
  ("revision", .int item.revision)]

def linkClaims (item : OntologyLinkRecord) : Json := .object [ ("from_id", .text item.fromId),
  ("link_type", .text item.linkType),
  ("to_id", .text item.toId),
  ("properties", .object item.properties)]

/-- What the digest of a graph is taken of. -/
def graphBody (asOf knownAt : Datetime) (graph : OntologyGraphSnapshot) (complete : Bool)
    (selected : List TopologyRevisionBatch) (refs releaseDigests sourceReceiptDigests : List String) :
    Json := .object [
  ("as_of", .text (isoformat (moment asOf))),
  ("known_at", .text (isoformat (moment knownAt))),
  ("objects", .list (graph.objects.map objectClaims)),
  ("links", .list (graph.links.map linkClaims)),
  ("complete", .bool complete),
  ("revision_ids", .texts (selected.map (·.val.revisionId))),
  ("provider_generation_refs", .texts (selected.map (·.val.providerGenerationRef))),
  ("evidence_refs", .texts refs),
  ("ontology_release_digests", .texts releaseDigests),
  ("source_receipt_digests", .texts sourceReceiptDigests)]

/-- **`graph_at`.** -/
def graphAt (batches : List TopologyRevisionBatch) (asOf knownAt : Datetime) :
    Except String TopologyGraphAt := do
  validate [ aware asOf "as_of", aware knownAt "known_at",
    (moment asOf ≤ moment knownAt, "topology as_of MUST NOT exceed known_at"),
    (batches.length ≤ 1000, "topology history exceeds 1000 batches")]
  let eligible := sortedBy batchOrder (batches.filter fun batch =>
    moment batch.val.effectiveAt ≤ moment asOf && moment batch.val.recordedAt ≤ moment knownAt)
  validate [ ((eligible.map (·.val.revisionId)).Nodup, "topology revision ids MUST be unique")]
  let baseline := newest (eligible.filter (·.val.completeSnapshot))
  let selected := selectedBatches baseline eligible
  let (objects, links) := selected.foldl (applyBatch asOf) (Keyed.empty, Keyed.empty)
  let sortedObjects := sortedBy (·.val.objectId) objects.values
  let sortedLinks := sortedBy (·.val.key) links.values
  let materializedObjects ← (sortedObjects.filter (!·.val.deleted)).mapM objectRecord
  let materializedLinks ← (sortedLinks.filter fun item =>
    !item.val.deleted && anchored materializedObjects item).mapM linkRecord
  let danglingLinks := links.values.any fun item =>
    !item.val.deleted && !anchored materializedObjects item
  let graph : OntologyGraphSnapshot := ⟨materializedObjects, materializedLinks⟩
  let refs := fromKeys (sortedObjects.map (·.val.evidenceRef) ++ sortedLinks.map (·.val.evidenceRef))
  let releaseDigests := fromKeys (selected.filterMap (·.val.ontologyReleaseDigest))
  let releaseComplete := !selected.isEmpty && releaseDigests.length = 1 &&
    selected.all (·.val.ontologyReleaseDigest.isSome)
  let sourceReceiptDigests := fromKeys (selected.filterMap (·.val.sourceReceiptDigest))
  let sourceReceiptComplete := !selected.isEmpty && selected.all (·.val.sourceReceiptDigest.isSome)
  let complete := baseline.isSome && !danglingLinks && releaseComplete && sourceReceiptComplete
  return {
    asOf, knownAt, graph, complete
    revisionIds := selected.map (·.val.revisionId)
    providerGenerationRefs := selected.map (·.val.providerGenerationRef)
    evidenceRefs := refs
    digest := contentDigest (graphBody asOf knownAt graph complete selected refs releaseDigests
      sourceReceiptDigests)
    ontologyReleaseDigests := releaseDigests
    sourceReceiptDigests }

/-- The batches that were in effect at one time, and recorded by another. -/
def eligibleAt (asOf knownAt : Datetime) (batches : List TopologyRevisionBatch) :
    List TopologyRevisionBatch :=
  batches.filter fun batch =>
    moment batch.val.effectiveAt ≤ moment asOf && moment batch.val.recordedAt ≤ moment knownAt

/-- Whatever else the history retains, and in whatever order, the graph is the same. -/
def Reproducible (batches : List TopologyRevisionBatch) (asOf knownAt : Datetime) : Prop :=
  ∀ retained, (retained.length ≤ 1000 ↔ batches.length ≤ 1000) →
    (eligibleAt asOf knownAt retained).Perm (eligibleAt asOf knownAt batches) →
      graphAt retained asOf knownAt = graphAt batches asOf knownAt

/-- **A graph is reproducible.** Batches that are recorded later, or take effect later, and the order
of the batches change nothing of it: not its digest, and not an error. -/
theorem graphAt_reproducible (batches : List TopologyRevisionBatch) (asOf knownAt : Datetime) :
    Reproducible batches asOf knownAt := by
  intro retained few perm
  have ids (bs : List TopologyRevisionBatch) :
      ((sortedBy batchOrder bs).map (·.val.revisionId)).Nodup ↔ (bs.map (·.val.revisionId)).Nodup :=
    ((perm_sortedBy batchOrder bs).map _).nodup_iff
  by_cases unique : ((eligibleAt asOf knownAt retained).map (·.val.revisionId)).Nodup
  · -- ids are unique, so the order of the batches is as well
    have orders : ((eligibleAt asOf knownAt retained).map batchOrder).Nodup := by
      refine List.Nodup.of_map (fun order => (ofLex order).2) ?_
      rw [List.map_map]
      exact unique
    have sorted := sortedBy_eq_of_perm orders perm
    unfold eligibleAt at sorted
    unfold graphAt
    rw [sorted, decide_eq_decide.2 few]
  · have duplicated := unique
    rw [(perm.map _).nodup_iff] at duplicated
    rw [← ids] at unique duplicated
    unfold eligibleAt at unique duplicated
    unfold graphAt
    rw [decide_eq_decide.2 few]
    dsimp only
    rw [decide_eq_false unique, decide_eq_false duplicated]
    rcases validate _ with - | - <;> rfl

/-- The text of a triple. -/
def tripleKey (triple : LinkTriple) : String :=
  (ofLex triple).1 ++ "|" ++ (ofLex (ofLex triple).2).1 ++ "|" ++ (ofLex (ofLex triple).2).2

def linkKey (record : OntologyLinkRecord) : String := tripleKey record.triple

/-- `TopologyDiff`; its lists of objects and of links are the parts of two comparisons. -/
structure TopologyDiff where
  beforeDigest : Json
  afterDigest : Json
  objects : Difference String
  links : Difference String
  complete : Bool
  evidenceRefs : List String
  digest : Json
  before : Option TopologyGraphAt := none
  after : Option TopologyGraphAt := none

/-- What the digest of a diff is taken of. -/
def diffBody (beforeDigest afterDigest : Json) (objects links : Difference String) (complete : Bool)
    (evidenceRefs : List String) : Json := .object [
  ("before_digest", beforeDigest),
  ("after_digest", afterDigest),
  ("added_object_ids", .texts objects.added),
  ("removed_object_ids", .texts objects.removed),
  ("changed_object_ids", .texts objects.changed),
  ("added_link_keys", .texts links.added),
  ("removed_link_keys", .texts links.removed),
  ("changed_link_keys", .texts links.changed),
  ("complete", .bool complete),
  ("evidence_refs", .texts evidenceRefs)]

/-- **`topology_diff`.** -/
def topologyDiff (before after : TopologyGraphAt) : TopologyDiff :=
  let objects := difference (fun a b => !OntologyObjectRecord.pyEq a b)
    (Keyed.ofList OntologyObjectRecord.id before.graph.objects)
    (Keyed.ofList OntologyObjectRecord.id after.graph.objects)
  let links := difference (fun a b => !OntologyLinkRecord.pyEq a b)
    (Keyed.ofList linkKey before.graph.links)
    (Keyed.ofList linkKey after.graph.links)
  let complete := before.complete && after.complete
  let evidenceRefs := fromKeys (before.evidenceRefs ++ after.evidenceRefs)
  { beforeDigest := before.digest
    afterDigest := after.digest
    objects, links, complete, evidenceRefs
    digest := contentDigest
      (diffBody before.digest after.digest objects links complete evidenceRefs)
    before := some before
    after := some after }

end Fdai.Core.OntologyPlatform
