import Fdai.OntologyPlatform.ObjectPredicates
import Fdai.Sequences.Batches

/-!
# Object sets

The materialization of an object set: which reads of the store answer it, and what is kept of them.

* `ObjectSetDefinition` — which objects are asked for, and how many of them.
* `OntologyInstanceStore` — the reads of a store.
* `queryExactIds` — a read of selected ids, batch by batch.
* `filterGraph` — the objects of a read that belong to the set, up to the limit.
* `readSource` — the read that answers a definition; `populationOf` — every member, of one scan.
* `materializeWithPopulation` — the page, and the population if the page was cut.

The dates and the purpose of a definition are left out: nothing here reads them.
-/

namespace Fdai.Core.OntologyPlatform.ObjectSets

open Fdai.Documents Fdai.Sequences

/-- What a read raises: a `ValueError`, an `OntologyInstanceValidationError` or a `KeyError`. -/
inductive ReadError where
  | value (message : String)
  | validation (message : String)
  | key (message : String)

/-- `[a-z][a-z0-9_]{0,63}`. -/
def isReasonToken (token : String) : Bool :=
  match token.toList with
  | [] => false
  | first :: rest =>
    first.isLower && rest.length ≤ 63 &&
      rest.all fun char => char.isLower || char.isDigit || char = '_'

/-- What a snapshot says about its source. The reason is kept as the tokens between its `+`. -/
structure GraphSource where
  sourceComplete : Bool := true
  sourceGeneration : Option String := none
  sourceIncompleteReason : Option (List String) := none

/-- `OntologyGraphSnapshot.__post_init__`. -/
def checkSource (source : GraphSource) : Except ReadError Unit :=
  validate [ (source.sourceGeneration.all fun generation => !isBlank generation,
      .value "OntologyGraphSnapshot.source_generation MUST be non-empty"),
    (source.sourceIncompleteReason.all fun reasons =>
        !source.sourceComplete && (reasons ≠ [] && reasons.length ≤ 8 && reasons.all isReasonToken),
      .value ("OntologyGraphSnapshot.source_incomplete_reason MUST be a bounded token " ++
        "on an incomplete snapshot"))]

/-- `OntologyGraphSnapshot`. -/
structure GraphSnapshot where
  objects : List OntologyObjectRecord
  links : List OntologyLinkRecord
  truncated : Bool
  source : Valid checkSource

inductive ObjectSelectorKind where
  | objectType | interface

structure ObjectSelector where
  kind : ObjectSelectorKind
  name : String

inductive OntologyDirection where
  | outgoing | incoming | both

structure ObjectTraversal where
  linkTypes : List String
  direction : OntologyDirection := .outgoing
  maxDepth : ℕ := 1

structure ObjectSetDefinition where
  selector : ObjectSelector
  predicates : List ObjectPredicate := []
  objectIds : Option (List String) := none
  traversal : Option ObjectTraversal := none
  rootIds : List String := []
  limit : ℕ := 100
  includeRelationships : Bool := true
  limit_bounds : 1 ≤ limit ∧ limit ≤ 1000 := by decide
  /-- At most `_MAX_IN_VALUES` values. -/
  values_bound : ∀ predicate ∈ predicates, predicate.values.length ≤ 1000 := by decide
  /-- At most `_MAX_ROOT_IDS` ids, each once, and no traversal with them. -/
  objectIds_explicit : ∀ ids, objectIds = some ids →
    ids.length ≤ 1000 ∧ ids.Nodup ∧ traversal = none ∧ rootIds = [] := by simp
  traversal_rooted : traversal.isSome = true ↔ rootIds ≠ [] := by decide
  traversal_related : traversal.isSome = true → includeRelationships = true := by decide

inductive ObjectSetTruncationReason where
  | resultLimit | candidateLimit | traversalLimit
  deriving DecidableEq

/-- The fields of an `ObjectSetMaterialization`. -/
structure MaterializationFields where
  definition : ObjectSetDefinition
  graph : GraphSnapshot
  concreteTypes : List String
  truncated : Bool
  truncationReason : Option ObjectSetTruncationReason

/-- `_truncation_reason_matches_state`. -/
def checkMaterialization (fields : MaterializationFields) : Except ReadError Unit :=
  validate [ (fields.truncated = fields.truncationReason.isSome,
      .value "object-set truncation reason MUST match truncated state")]

abbrev ObjectSetMaterialization := Valid checkMaterialization

/-- The arguments of `query_objects`: no types, or no ids, stand for all of them. -/
structure ObjectQuery where
  objectTypes : List String := []
  objectIds : List String := []
  propertyEquals : List (String × Json) := []
  propertyTextIn : List (String × List String) := []
  limit : ℕ
  includeRelationships : Bool

/-- The arguments of `scan_objects`. -/
structure ObjectScan where
  objectTypes : List String := []
  propertyEquals : List (String × Json) := []
  propertyTextIn : List (String × List String) := []
  candidateLimit : ℕ

/-- The arguments of `traverse`. -/
structure GraphTraversal where
  rootIds : List String
  linkTypes : List String
  direction : OntologyDirection
  maxDepth : ℕ
  limit : ℕ

/-- The reads of an `OntologyInstanceStore`. -/
structure OntologyInstanceStore where
  queryObjects : ObjectQuery → Except ReadError GraphSnapshot
  scanObjects : ObjectScan → Except ReadError GraphSnapshot
  traverse : GraphTraversal → Except ReadError GraphSnapshot

def storeQueryLimit : ℕ := 1000

def exactIdBatchSize : ℕ := 128

def maxOntologyObjectScan : ℕ := 50000

variable (python : Python)

def isMember (concreteTypes : List String) (predicates : List ObjectPredicate)
    (item : OntologyObjectRecord) : Bool :=
  item.objectType ∈ concreteTypes && objectMatchesPredicates python item.properties predicates

def resultLimitProven (objects : List OntologyObjectRecord) (predicates : List ObjectPredicate)
    (limit : ℕ) : Bool :=
  limit < objects.countP fun item => objectMatchesPredicates python item.properties predicates

/-- `_filter_graph`: the source is that of the graph, so that its checks pass again. -/
def filterGraph (graph : GraphSnapshot) (concreteTypes : List String)
    (predicates : List ObjectPredicate) (limit : ℕ) : GraphSnapshot × Bool :=
  let found := graph.objects.filter (isMember python concreteTypes predicates)
  let resultLimited : Bool := limit < found.length
  let selected := found.take limit
  let selectedIds := selected.map (·.id)
  ({ objects := selected
     links := graph.links.filter fun link =>
      link.fromId ∈ selectedIds && link.toId ∈ selectedIds
     truncated := graph.truncated || resultLimited
     source := graph.source }, resultLimited)

def idValuesOf (predicate : ObjectPredicate) : Option (List String) :=
  if predicate.property ≠ "id" then none else
    match predicate.operator, predicate.equals with
    | .equals, .text id => some [id]
    | .in, _ => (textsOf predicate.values).map fromKeys
    | _, _ => none

def exactIdValues (predicates : List ObjectPredicate) : Option (List String) :=
  predicates.findSome? idValuesOf

section

variable {python} {predicate : ObjectPredicate} {ids : List String}

theorem bounds_of_idValuesOf (selected : idValuesOf predicate = some ids) :
    ids.length ≤ max 1 predicate.values.length ∧ ids.Nodup := by
  unfold idValuesOf at selected
  split at selected
  · cases selected
  split at selected
  · obtain rfl := Option.some.inj selected
    exact ⟨le_max_left _ _, List.nodup_singleton _⟩
  · obtain ⟨texts, areTexts, rfl⟩ := Option.map_eq_some_iff.1 selected
    refine ⟨(length_fromKeys_le texts).trans ?_, nodup_fromKeys texts⟩
    rw [length_textsOf areTexts]
    exact le_max_right _ _
  · cases selected

/-- An object that carries its own id is one of those that a predicate selects, if it satisfies the
predicate. -/
theorem mem_of_idValuesOf (selected : idValuesOf predicate = some ids)
    {properties : List (String × Json)} {id : String}
    (keyed : properties.lookup "id" = some (.text id))
    (holds : matchesPredicate python properties predicate = true) : id ∈ ids := by
  unfold idValuesOf at selected
  split at selected
  · cases selected
  rename_i isId
  rw [not_not] at isId
  unfold matchesPredicate at holds
  rw [isId, keyed] at holds
  split at selected
  · rename_i isEquals isText
    obtain rfl := Option.some.inj selected
    rw [isEquals, isText] at holds
    unfold jsonValuesEqual scalarsEqual at holds
    exact List.mem_singleton.2 (of_decide_eq_true holds)
  · rename_i isIn
    obtain ⟨texts, areTexts, rfl⟩ := Option.map_eq_some_iff.1 selected
    rw [isIn] at holds
    dsimp only at holds
    rw [any_texts _ areTexts] at holds
    exact mem_fromKeys.2 (of_decide_eq_true holds)
  · cases selected

end

/-- The loop of `_query_exact_ids`: the graphs that are read, how many objects of them belong to the
set, and whether batches are left. -/
def readBatches (store : OntologyInstanceStore) (concreteTypes : List String)
    (predicates : List ObjectPredicate) (limit : ℕ) :
    List (List String) → ℕ → Except ReadError (List GraphSnapshot × ℕ × Bool)
  | [], matchingCount => .ok ([], matchingCount, false)
  | batch :: rest, matchingCount => do
    let graph ← store.queryObjects {
      objectTypes := concreteTypes
      objectIds := batch
      limit := batch.length
      includeRelationships := false }
    let matchingCount := matchingCount + graph.objects.countP (isMember python concreteTypes predicates)
    if limit < matchingCount then
      return ([graph], matchingCount, rest ≠ [])
    let (graphs, matchingCount, stoppedEarly) ← readBatches store concreteTypes predicates limit rest
      matchingCount
    return (graph :: graphs, matchingCount, stoppedEarly)

/-- What several snapshots say about their source. -/
def joinedSource (graphs : List GraphSnapshot) : Except ReadError (Valid checkSource) := do
  let generations := fromKeys (graphs.filterMap (·.source.val.sourceGeneration))
  if 1 < generations.length then
    throw (.value "exact id reads returned mixed source generations")
  let sourceComplete := graphs.all (·.source.val.sourceComplete)
  let reasons := fromKeys (graphs.flatMap fun graph =>
    graph.source.val.sourceIncompleteReason.getD [])
  construct checkSource {
    sourceComplete
    sourceGeneration := generations.head?
    sourceIncompleteReason :=
      if reasons ≠ [] && !sourceComplete then some (reasons.take 8) else none }

def queryExactIds (store : OntologyInstanceStore) (concreteTypes resourceIds : List String)
    (predicates : List ObjectPredicate) (limit : ℕ) : Except ReadError GraphSnapshot := do
  let (graphs, matchingCount, stoppedEarly) ←
    readBatches python store concreteTypes predicates limit (batches exactIdBatchSize resourceIds) 0
  return {
    objects := graphs.flatMap (·.objects)
    links := []
    truncated := stoppedEarly || limit < matchingCount
    source := ← joinedSource graphs }

/-! ## The service -/

structure ObjectSetService where
  store : OntologyInstanceStore
  /-- `CompiledInterfaceCatalog.concrete_types`. -/
  interfaces : List (String × List String)
  objectTypeNames : List String

def resolveTypes (service : ObjectSetService) (definition : ObjectSetDefinition) :
    Except ReadError (List String) :=
  match definition.selector.kind with
  | .interface =>
    match service.interfaces.lookup definition.selector.name with
    | some concreteTypes => .ok concreteTypes
    | none => .error (.key ("unknown ontology interface " ++ python.repr definition.selector.name))
  | .objectType =>
    if definition.selector.name ∈ service.objectTypeNames then .ok [definition.selector.name]
    else .error (.value ("unknown ontology ObjectType " ++ python.repr definition.selector.name))

def exactIds (definition : ObjectSetDefinition) : Option (List String) :=
  match definition.objectIds with
  | some ids => some ids
  | none => exactIdValues definition.predicates

def populationReadable (definition : ObjectSetDefinition) : Bool :=
  definition.traversal.isNone && definition.objectIds.isNone && !definition.includeRelationships &&
    (exactIdValues definition.predicates).isNone

/-- Not every predicate is pushed to the store. -/
def hasMemoryPredicates (definition : ObjectSetDefinition) : Bool :=
  let (filters, textInFilters) := pushedFilters definition.predicates
  filters.length + textInFilters.length ≠ definition.predicates.length

/-- The scan of everything that satisfies the pushed filters. -/
def scanOf (definition : ObjectSetDefinition) (concreteTypes : List String) : ObjectScan where
  objectTypes := concreteTypes
  propertyEquals := (pushedFilters definition.predicates).1
  propertyTextIn := (pushedFilters definition.predicates).2
  candidateLimit := maxOntologyObjectScan

/-- A query for everything that satisfies the pushed filters. -/
def queryOf (definition : ObjectSetDefinition) (concreteTypes : List String) (limit : ℕ) :
    ObjectQuery where
  objectTypes := concreteTypes
  propertyEquals := (pushedFilters definition.predicates).1
  propertyTextIn := (pushedFilters definition.predicates).2
  limit := limit
  includeRelationships := definition.includeRelationships

/-- What was read: the graph, why its source was cut, and the graph again if it is a scan. -/
structure SourceRead where
  graph : GraphSnapshot
  reason : Option ObjectSetTruncationReason
  scanned : Option GraphSnapshot := none

/-- The reason, if the graph was cut. -/
def reasonIf (graph : GraphSnapshot) (reason : ObjectSetTruncationReason) :
    Option ObjectSetTruncationReason :=
  if graph.truncated then some reason else none

/-- The read of selected ids. -/
def readExact (store : OntologyInstanceStore) (definition : ObjectSetDefinition)
    (concreteTypes ids : List String) : Except ReadError SourceRead := do
  let graph ←
    if definition.includeRelationships && ids ≠ [] then
      store.queryObjects {
        objectTypes := concreteTypes
        objectIds := fromKeys ids
        limit := (fromKeys ids).length
        includeRelationships := true }
    else
      queryExactIds python store concreteTypes ids definition.predicates definition.limit
  return { graph, reason := reasonIf graph .resultLimit }

/-- The read of a set whose predicates the store does not all evaluate, without relationships: one
query, and a scan unless the query already shows that the limit is passed. -/
def readCandidates (store : OntologyInstanceStore) (definition : ObjectSetDefinition)
    (concreteTypes : List String) : Except ReadError SourceRead := do
  let graph ← store.queryObjects (queryOf definition concreteTypes storeQueryLimit)
  if graph.truncated &&
      !resultLimitProven python graph.objects definition.predicates definition.limit then
    let graph ← store.scanObjects (scanOf definition concreteTypes)
    return { graph, reason := reasonIf graph .candidateLimit, scanned := some graph }
  return { graph, reason := reasonIf graph .candidateLimit }

/-- The other reads: one query, of as many objects as are asked for unless the store does not
evaluate all predicates. -/
def readQuery (store : OntologyInstanceStore) (definition : ObjectSetDefinition)
    (concreteTypes : List String) : Except ReadError SourceRead := do
  let limit := if hasMemoryPredicates definition then storeQueryLimit else definition.limit
  let graph ← store.queryObjects (queryOf definition concreteTypes limit)
  return {
    graph
    reason := reasonIf graph
      (if hasMemoryPredicates definition then .candidateLimit else .resultLimit) }

/-- The read that answers a definition. -/
def readSource (store : OntologyInstanceStore) (definition : ObjectSetDefinition)
    (concreteTypes : List String) : Except ReadError SourceRead :=
  match definition.traversal with
  | some traversal => do
    let graph ← store.traverse {
      rootIds := definition.rootIds
      linkTypes := traversal.linkTypes
      direction := traversal.direction
      maxDepth := traversal.maxDepth
      limit := definition.limit }
    return { graph, reason := reasonIf graph .traversalLimit }
  | none =>
    match exactIds definition with
    | some ids => readExact python store definition concreteTypes ids
    | none =>
      if hasMemoryPredicates definition && !definition.includeRelationships then
        readCandidates python store definition concreteTypes
      else
        readQuery store definition concreteTypes

/-- The scan of a population: one that the page already read is not read again. -/
def populationScan (store : OntologyInstanceStore) (definition : ObjectSetDefinition)
    (concreteTypes : List String) : Option GraphSnapshot → Except ReadError GraphSnapshot
  | some scanned => .ok scanned
  | none => store.scanObjects (scanOf definition concreteTypes)

/-- `_population`: `none` also where the snapshot moved under the scan. -/
def populationOf (store : OntologyInstanceStore) (definition : ObjectSetDefinition)
    (concreteTypes : List String) (scanned : Option GraphSnapshot) :
    Except ReadError (Option GraphSnapshot) :=
  match populationScan store definition concreteTypes scanned with
  | .error (.validation _) => .ok none
  | .error error => .error error
  | .ok scan =>
    if scan.truncated || !scan.source.val.sourceComplete then .ok none
    else
      .ok (some (filterGraph python scan concreteTypes definition.predicates
        maxOntologyObjectScan).1)

/-- A page, why it was cut, and the population that it was cut from. -/
structure Page where
  graph : GraphSnapshot
  reason : Option ObjectSetTruncationReason
  population : Option GraphSnapshot := none

/-- The page of a population: of a whole page there is no population. -/
def pageOf (population : GraphSnapshot) (definition : ObjectSetDefinition)
    (concreteTypes : List String) : Page :=
  let (graph, resultLimited) := filterGraph python population concreteTypes [] definition.limit
  if resultLimited then { graph, reason := some .resultLimit, population := some population }
  else { graph, reason := none }

def firstPage (definition : ObjectSetDefinition) (concreteTypes : List String) (read : SourceRead) :
    Page :=
  let (graph, resultLimited) :=
    filterGraph python read.graph concreteTypes definition.predicates definition.limit
  { graph, reason := if resultLimited then some .resultLimit else read.reason }

/-- The page of a read: one that is cut at its limit is that of the population, if it can be read. -/
def paged (store : OntologyInstanceStore) (definition : ObjectSetDefinition)
    (concreteTypes : List String) (read : SourceRead) : Except ReadError Page := do
  let page := firstPage python definition concreteTypes read
  if page.reason = some .resultLimit && populationReadable definition then
    match ← populationOf python store definition concreteTypes read.scanned with
    | some population => return pageOf python population definition concreteTypes
    | none => return page
  else
    return page

def materializeWithPopulation (service : ObjectSetService) (definition : ObjectSetDefinition) :
    Except ReadError (ObjectSetMaterialization × Option GraphSnapshot) := do
  let concreteTypes ← resolveTypes python service definition
  let read ← readSource python service.store definition concreteTypes
  let page ← paged python service.store definition concreteTypes read
  let materialization ← construct checkMaterialization {
    definition
    graph := page.graph
    concreteTypes
    truncated := page.graph.truncated
    truncationReason := page.reason }
  return (materialization, page.population)

def materialize (service : ObjectSetService) (definition : ObjectSetDefinition) :
    Except ReadError ObjectSetMaterialization := do
  let (materialization, _) ← materializeWithPopulation python service definition
  return materialization

end Fdai.Core.OntologyPlatform.ObjectSets
