import Fdai.OntologyPlatform.ObjectSetRoutes

/-!
# The page of an object set

* `readSource_answers` — every route answers about the members.
* `materialize_page` — the page has the first members in the order they are read in, all that the
  limit allows unless the candidates were cut; a page that is not cut has all of them, and so does a
  population.
* `first_of_store_missed` — the order they are read in is not that of the store.
-/

namespace Fdai.Core.OntologyPlatform.ObjectSets

open Fdai.Documents Fdai.Sequences

variable {python : Python} {contents : StoreContents} {definition : ObjectSetDefinition}
variable {concreteTypes : List String} {store : OntologyInstanceStore}

/-! ## Materialization -/

/-- **Every route answers.** -/
theorem readSource_answers (serves : Serves python store contents) (keyed : contents.Keyed)
    (untraversed : definition.traversal = none) :
    ∃ read, readSource python store definition concreteTypes = .ok read ∧
      Answers python contents definition concreteTypes
        (readOrder definition (members python contents definition concreteTypes)) read := by
  unfold readSource
  rw [untraversed]
  dsimp only
  cases selected : exactIds definition with
  | some ids => exact readExact_answers serves keyed selected
  | none =>
    have noIds : definition.objectIds = none := by
      unfold exactIds at selected
      split at selected
      · cases selected
      · assumption
    have inOrder : readOrder definition (members python contents definition concreteTypes) =
        members python contents definition concreteTypes := by
      unfold readOrder
      rw [selected]
    rw [inOrder]
    dsimp only
    split
    · rename_i candidates
      rw [Bool.and_eq_true, Bool.not_eq_true'] at candidates
      exact readCandidates_answers serves noIds candidates.2
    rename_i query
    refine readQuery_answers serves noIds fun inMemory => ?_
    rw [inMemory, Bool.true_and, Bool.not_eq_true', Bool.not_eq_false] at query
    exact query

/-- **Up to one batch** of ids is read in the order of the store. -/
theorem readOrder_of_few (keyed : contents.Keyed)
    (few : ∀ ids, exactIds definition = some ids → ids.length ≤ exactIdBatchSize) :
    readOrder definition (members python contents definition concreteTypes) =
      members python contents definition concreteTypes := by
  unfold readOrder
  rcases selected : exactIds definition with _ | ids
  · rfl
  dsimp only
  split
  · rfl
  have inside : ∀ item ∈ members python contents definition concreteTypes, item.id ∈ ids :=
    fun item isItem => id_mem_exactIds keyed selected isItem
  unfold batchOrder
  by_cases isNil : ids = []
  · have noMembers : members python contents definition concreteTypes = [] :=
      List.eq_nil_iff_forall_not_mem.2 fun item isItem => by
        have := inside item isItem
        rw [isNil] at this
        cases this
    rw [noMembers, isNil]
    rfl
  · rw [batches_of_length_le (by decide) isNil (few ids selected), List.flatMap_singleton,
      List.filter_eq_self.2 fun item isItem => decide_eq_true (inside item isItem)]

theorem readOrder_perm (keyed : contents.Keyed) :
    (readOrder definition (members python contents definition concreteTypes)).Perm
      (members python contents definition concreteTypes) := by
  unfold readOrder
  rcases selected : exactIds definition with _ | ids
  · exact .refl _
  dsimp only
  split
  · exact .refl _
  have positive : 0 < exactIdBatchSize := by decide
  refine flatMap_filter_perm ?_ fun item isItem => ?_
  · rw [flatten_batches positive]
    exact (exactIds_spec selected).2.1
  · rw [flatten_batches positive]
    exact id_mem_exactIds keyed selected isItem

/-- **The materialization** is a page of the members. -/
theorem materialize_pages {service : ObjectSetService}
    (serves : Serves python service.store contents) (keyed : contents.Keyed)
    (untraversed : definition.traversal = none)
    (resolved : resolveTypes python service definition = .ok concreteTypes) :
    ∃ result population,
      materializeWithPopulation python service definition = .ok (result, population) ∧
      materialize python service definition = .ok result ∧
      Pages python contents definition concreteTypes
        (readOrder definition (members python contents definition concreteTypes))
        { graph := result.val.graph, reason := result.val.truncationReason, population } := by
  obtain ⟨read, isRead, answers⟩ := @readSource_answers _ _ _ concreteTypes _ serves keyed untraversed
  obtain ⟨page, isPage, pages⟩ := paged_pages serves answers rfl
  have passed : checkMaterialization {
      definition
      graph := page.graph
      concreteTypes
      truncated := page.graph.truncated
      truncationReason := page.reason } = .ok () := by
    unfold checkMaterialization
    simp only [validate_cons_eq_ok, validate_nil, and_true, decide_eq_true_eq]
    exact pages.cut
  have done : materializeWithPopulation python service definition =
      .ok (⟨_, passed⟩, page.population) := by
    unfold materializeWithPopulation
    rw [resolved]
    dsimp only [bind, Except.bind]
    rw [isRead]
    dsimp only
    rw [isPage]
    dsimp only
    rw [(@construct_eq_ok _ _ _ _ ⟨_, passed⟩).2 rfl]
    rfl
  refine ⟨⟨_, passed⟩, page.population, done, ?_, pages⟩
  unfold materialize
  rw [done]
  rfl

/-- **The page of an object set**: from a store that serves its contents, the first members in the
order they are read in, as many as the limit allows unless the candidates were cut. Up to one batch
of selected ids, or with the relationships, this order is that of the store. A page that is not cut
has all members, and so does a population. -/
theorem materialize_page {service : ObjectSetService}
    (serves : Serves python service.store contents) (keyed : contents.Keyed)
    (untraversed : definition.traversal = none)
    (resolved : resolveTypes python service definition = .ok concreteTypes) :
    ∃ result population,
      materializeWithPopulation python service definition = .ok (result, population) ∧
      materialize python service definition = .ok result ∧
      (let all := members python contents definition concreteTypes
       let order := readOrder definition all
       result.val.graph.objects <+: order.take definition.limit ∧
       (result.val.truncationReason ≠ some .candidateLimit →
        result.val.graph.objects = order.take definition.limit) ∧
       (result.val.truncationReason = some .candidateLimit → concreteTypes ≠ [] →
        candidateBound definition <
          (pushedCandidates python contents definition concreteTypes).length) ∧
       (result.val.truncated = false → result.val.graph.objects = order) ∧
       (∀ graph, population = some graph → graph.objects = all) ∧
       order.Perm all ∧
       ((∀ ids, exactIds definition = some ids →
          ids.length ≤ exactIdBatchSize ∨ definition.includeRelationships = true) →
        order = all)) := by
  obtain ⟨result, population, withPopulation, done, pages⟩ :=
    materialize_pages serves keyed untraversed resolved
  refine ⟨result, population, withPopulation, done, pages.isPrefix, pages.reached, pages.candidate,
    fun isWhole => pages.whole ?_, pages.population, readOrder_perm keyed, fun few => ?_⟩
  · -- The constructor compares the reason with the cut.
    have same := result.2
    unfold checkMaterialization at same
    rw [validate_cons_eq_ok, decide_eq_true_eq, isWhole] at same
    rcases isReason : result.val.truncationReason with _ | reason
    · rfl
    rw [isReason] at same
    cases same.1
  · by_cases related : definition.includeRelationships = true
    · unfold readOrder
      split
      · rw [if_pos related]
      · rfl
    · exact readOrder_of_few keyed fun ids selected => (few ids selected).resolve_right related

/-! ## A store of a list -/

def shownUpTo (contents : StoreContents) (found : List OntologyObjectRecord) (limit : ℕ) :
    GraphSnapshot where
  objects := found.take limit
  links := []
  truncated := limit < found.length
  source := contents.source

/-- A store of objects without links. -/
def listStore (python : Python) (contents : StoreContents) : OntologyInstanceStore where
  queryObjects query := .ok (shownUpTo contents (candidates python contents query.objectTypes
    query.objectIds query.propertyEquals query.propertyTextIn) query.limit)
  scanObjects scan := .ok (shownUpTo contents (candidates python contents scan.objectTypes []
    scan.propertyEquals scan.propertyTextIn) scan.candidateLimit)
  traverse _ := .ok (shownUpTo contents [] 1)

theorem listStore_serves (python : Python) (contents : StoreContents) :
    Serves python (listStore python contents) contents where
  query _ _ _ _ _ := ⟨_, rfl, rfl, rfl, rfl⟩
  scan _ _ _ := ⟨_, rfl, rfl, rfl, rfl⟩

/-- A language without floats, that compares no two values in order. -/
def asciiPython : Python where
  decimal _ := 0
  fold text := text
  atLeast _ _ := none
  atMost _ _ := none
  repr text := "'" ++ text ++ "'"

/-- An id of a length of its own. -/
def idOf (n : ℕ) : String := String.ofList (List.replicate (n + 1) 'x')

theorem idOf_injective : Function.Injective idOf := by
  intro m n same
  have lengths := congrArg (fun text => text.toList.length) same
  unfold idOf at lengths
  simpa using lengths

/-- An object under one of these ids. -/
def storedAt (n : ℕ) : OntologyObjectRecord where
  id := idOf n
  objectType := "host"
  properties := [("id", .text (idOf n))]

/-- Two objects: the last of 129 ids comes first. -/
def lateFirst : StoreContents where
  objects := [storedAt 128, storedAt 0]
  nodup := by
    refine List.nodup_cons.2 ⟨fun inside => ?_, List.nodup_singleton _⟩
    have same := idOf_injective (List.mem_singleton.1 inside)
    cases same
  source := ⟨{}, rfl⟩

/-- One object of 129 ids. -/
def oneOfMany : ObjectSetDefinition where
  selector := { kind := .objectType, name := "host" }
  objectIds := some ((List.range 129).map idOf)
  limit := 1
  includeRelationships := false
  values_bound := fun _ never => absurd never List.not_mem_nil
  objectIds_explicit := by
    intro ids same
    obtain rfl := Option.some.inj same
    refine ⟨?_, List.nodup_range.map idOf_injective, rfl, rfl⟩
    rw [List.length_map, List.length_range]
    decide

/-- The service over the two objects. -/
def lateFirstService : ObjectSetService where
  store := listStore asciiPython lateFirst
  interfaces := []
  objectTypeNames := ["host"]

theorem lateFirst_keyed : lateFirst.Keyed := by
  intro item isItem
  rcases List.mem_pair.1 isItem with rfl | rfl
  · rfl
  · rfl

theorem mem_range_idOf {m n : ℕ} : idOf m ∈ (List.range n).map idOf ↔ m < n := by
  rw [List.mem_map_of_injective idOf_injective, List.mem_range]

/-- Both objects are members, in the order of the store. -/
theorem lateFirst_members :
    members asciiPython lateFirst oneOfMany ["host"] = [storedAt 128, storedAt 0] := by
  refine List.filter_eq_self.2 fun item isItem => ?_
  rw [Bool.and_eq_true]
  have named : ∀ n, n < 129 → (oneOfMany.objectIds.all fun ids => decide (idOf n ∈ ids)) = true :=
    fun n small => decide_eq_true (mem_range_idOf.2 small)
  rcases List.mem_pair.1 isItem with rfl | rfl
  · exact ⟨rfl, named 128 (by decide)⟩
  · exact ⟨rfl, named 0 (by decide)⟩

/-- The last id is read in the second batch. -/
theorem lateFirst_order :
    readOrder oneOfMany [storedAt 128, storedAt 0] = [storedAt 0, storedAt 128] := by
  have isBatches : batches exactIdBatchSize ((List.range 129).map idOf) =
      [(List.range 128).map idOf, [idOf 128]] := by
    have nonempty : (List.range 129).map idOf ≠ [] := by
      rw [Ne, List.map_eq_nil_iff]
      decide
    rw [batches_cons (by decide) nonempty, ← List.map_take, ← List.map_drop]
    rw [show (List.range 129).take exactIdBatchSize = List.range 128 by decide,
      show (List.range 129).drop exactIdBatchSize = [128] by decide]
    rw [List.map_singleton, batches_of_length_le (by decide) (List.cons_ne_nil _ _) (by decide)]
  have selected : exactIds oneOfMany = some ((List.range 129).map idOf) := rfl
  unfold readOrder
  rw [selected]
  dsimp only
  rw [if_neg (show ¬ oneOfMany.includeRelationships = true from Bool.false_ne_true)]
  unfold batchOrder
  rw [isBatches]
  have late : idOf 128 ∉ (List.range 128).map idOf := fun inside =>
    absurd (mem_range_idOf.1 inside) (by decide)
  have early : idOf 0 ∈ (List.range 128).map idOf := mem_range_idOf.2 (by decide)
  have apart : idOf 0 ≠ idOf 128 := fun same => by cases idOf_injective same
  rw [List.flatMap_cons, List.flatMap_singleton,
    List.filter_cons_of_neg (by simpa [storedAt] using late),
    List.filter_cons_of_pos (by simpa [storedAt] using early), List.filter_nil,
    List.filter_cons_of_pos (by simp [storedAt]),
    List.filter_cons_of_neg (by simpa [storedAt] using apart), List.filter_nil]
  rfl

theorem materialize_page_batches : ∃ result,
    materialize asciiPython lateFirstService oneOfMany = .ok result ∧
      result.val.graph.objects = [storedAt 0] := by
  have resolved : resolveTypes asciiPython lateFirstService oneOfMany = .ok ["host"] := rfl
  obtain ⟨result, population, -, done, -, reached, candidate, -⟩ :=
    materialize_page (listStore_serves asciiPython lateFirst) lateFirst_keyed rfl resolved
  refine ⟨result, done, ?_⟩
  have notCut : result.val.truncationReason ≠ some .candidateLimit := fun isCut => by
    have far := candidate isCut (List.cons_ne_nil _ _)
    have few : (pushedCandidates asciiPython lateFirst oneOfMany ["host"]).length ≤ 2 :=
      List.length_filter_le _ _
    have bound : candidateBound oneOfMany = 50000 := rfl
    omega
  rw [reached notCut, lateFirst_members, lateFirst_order]
  rfl

def markedAt (n : ℕ) : OntologyObjectRecord where
  id := idOf n
  objectType := "host"
  properties := [("id", .text (idOf n)), ("marked", .null)]

/-- A thousand objects, and a marked one behind them. -/
def lateMark : StoreContents where
  objects := (List.range 1000).map storedAt ++ [markedAt 1000]
  nodup := by
    rw [List.map_append, List.map_map, List.map_singleton, List.nodup_append]
    refine ⟨List.nodup_range.map idOf_injective, List.nodup_singleton _, ?_⟩
    rintro _ inside _ isLate rfl
    rw [List.mem_singleton.1 isLate] at inside
    exact absurd (mem_range_idOf.1 inside) (Nat.lt_irrefl 1000)
  source := ⟨{}, rfl⟩

/-- The marked objects, with their relationships. -/
def markedOnes : ObjectSetDefinition where
  selector := { kind := .objectType, name := "host" }
  predicates := [{ property := "marked", operator := .exists }]
  limit := 1
  objectIds_explicit := fun _ never => by cases never
  values_bound predicate isPredicate := by
    rw [List.mem_singleton.1 isPredicate]
    exact Nat.zero_le _

def lateMarkService : ObjectSetService where
  store := listStore asciiPython lateMark
  interfaces := []
  objectTypeNames := ["host"]

theorem lateMark_keyed : lateMark.Keyed := by
  intro item isItem
  rcases List.mem_append.1 isItem with isStored | isLate
  · obtain ⟨n, -, rfl⟩ := List.mem_map.1 isStored
    rfl
  · rw [List.mem_singleton.1 isLate]
    rfl

theorem isMember_storedAt (n : ℕ) :
    isMember asciiPython ["host"] markedOnes.predicates (storedAt n) = false := rfl

theorem lateMark_members : members asciiPython lateMark markedOnes ["host"] = [markedAt 1000] := by
  unfold members
  show ((List.range 1000).map storedAt ++ [markedAt 1000]).filter _ = _
  rw [List.filter_append]
  have noMember : ((List.range 1000).map storedAt).filter (fun item =>
      isMember asciiPython ["host"] markedOnes.predicates item &&
        markedOnes.objectIds.all fun ids => item.id ∈ ids) = [] := by
    refine List.filter_eq_nil_iff.2 fun item isItem => ?_
    obtain ⟨n, -, rfl⟩ := List.mem_map.1 isItem
    rw [isMember_storedAt, Bool.false_and]
    exact Bool.false_ne_true
  rw [noMember]
  rfl

theorem objects_of_readQuery {read : SourceRead}
    (isRead : readQuery (listStore python contents) definition concreteTypes = .ok read) :
    read.graph.objects = (pushedCandidates python contents definition concreteTypes).take
      (if hasMemoryPredicates definition then storeQueryLimit else definition.limit) := by
  unfold readQuery at isRead
  obtain ⟨graph, isGraph, isRead⟩ := bind_eq_ok.1 isRead
  obtain rfl := Except.ok.inj isRead
  obtain rfl := Except.ok.inj isGraph
  rfl

/-- The query finds a thousand objects, and none of them is marked. -/
theorem lateMark_found {read : SourceRead}
    (isRead : readSource asciiPython lateMarkService.store markedOnes ["host"] = .ok read) :
    (firstPage asciiPython markedOnes ["host"] read).graph.objects = [] ∧
      paged asciiPython lateMarkService.store markedOnes ["host"] read =
        .ok (firstPage asciiPython markedOnes ["host"] read) := by
  have noIds : exactIds markedOnes = none := rfl
  have inMemory : hasMemoryPredicates markedOnes = true := rfl
  unfold readSource at isRead
  rw [show markedOnes.traversal = none from rfl] at isRead
  dsimp only at isRead
  rw [noIds] at isRead
  dsimp only at isRead
  rw [inMemory, show markedOnes.includeRelationships = true from rfl] at isRead
  have found := objects_of_readQuery isRead
  rw [inMemory, if_pos rfl] at found
  have everything : pushedCandidates asciiPython lateMark markedOnes ["host"] = lateMark.objects := by
    refine List.filter_eq_self.2 fun item isItem => ?_
    rcases List.mem_append.1 isItem with isStored | isLate
    · obtain ⟨n, -, rfl⟩ := List.mem_map.1 isStored
      rfl
    · rw [List.mem_singleton.1 isLate]
      rfl
  have unmarked : read.graph.objects = (List.range 1000).map storedAt := by
    rw [found, everything]
    exact List.take_left' (by rw [List.length_map, List.length_range]; rfl)
  have noMember : read.graph.objects.filter
      (isMember asciiPython ["host"] markedOnes.predicates) = [] := by
    rw [unmarked]
    refine List.filter_eq_nil_iff.2 fun item isItem => ?_
    obtain ⟨n, -, rfl⟩ := List.mem_map.1 isItem
    rw [isMember_storedAt]
    exact Bool.false_ne_true
  constructor
  · unfold firstPage filterGraph
    dsimp only
    rw [noMember]
    rfl
  · unfold paged
    have unreadable : populationReadable markedOnes = false := rfl
    dsimp only
    rw [unreadable, Bool.and_false]
    rfl

theorem lateMark_missed {result : ObjectSetMaterialization}
    (done : materialize asciiPython lateMarkService markedOnes = .ok result) :
    result.val.graph.objects = [] := by
  unfold materialize at done
  obtain ⟨⟨result', population⟩, isPaged, same⟩ := bind_eq_ok.1 done
  obtain rfl := Except.ok.inj same
  unfold materializeWithPopulation at isPaged
  have resolved : resolveTypes asciiPython lateMarkService markedOnes = .ok ["host"] := rfl
  rw [resolved] at isPaged
  obtain ⟨types, same, afterTypes⟩ := bind_eq_ok.1 isPaged
  obtain rfl := Except.ok.inj same
  obtain ⟨read, isRead, afterRead⟩ := bind_eq_ok.1 afterTypes
  obtain ⟨page, isPage, afterPage⟩ := bind_eq_ok.1 afterRead
  obtain ⟨materialization, constructed, same⟩ := bind_eq_ok.1 afterPage
  obtain ⟨empty, paged⟩ := lateMark_found isRead
  rw [paged] at isPage
  obtain rfl := Except.ok.inj isPage
  obtain ⟨rfl, -⟩ := Prod.mk.inj (Except.ok.inj same)
  rw [construct_eq_ok.1 constructed]
  exact empty

/-- **The first members in the order of the store** are not what is returned: of 129 ids, the last is
not read although its object comes first; and of a thousand candidates and one, the last is not read
although it is the only member. -/
theorem first_of_store_missed : ¬ (∀ (python : Python) (service : ObjectSetService)
    (contents : StoreContents) (definition : ObjectSetDefinition) (concreteTypes : List String),
    Serves python service.store contents → contents.Keyed → definition.traversal = none →
    resolveTypes python service definition = .ok concreteTypes →
    ∃ result, materialize python service definition = .ok result ∧ result.val.graph.objects =
        (members python contents definition concreteTypes).take definition.limit) ∧
    ¬ ∀ (python : Python) (service : ObjectSetService) (contents : StoreContents)
      (definition : ObjectSetDefinition) (concreteTypes : List String),
      Serves python service.store contents → contents.Keyed → definition.traversal = none →
      exactIds definition = none →
      resolveTypes python service definition = .ok concreteTypes →
      ∃ result, materialize python service definition = .ok result ∧ result.val.graph.objects =
          (members python contents definition concreteTypes).take definition.limit := by
  constructor
  swap
  · intro always
    obtain ⟨result, done, first⟩ := always asciiPython lateMarkService lateMark markedOnes ["host"]
      (listStore_serves asciiPython lateMark) lateMark_keyed rfl rfl rfl
    rw [lateMark_missed done, lateMark_members] at first
    cases first
  intro always
  obtain ⟨result, done, first⟩ := always asciiPython lateFirstService lateFirst oneOfMany ["host"]
    (listStore_serves asciiPython lateFirst) lateFirst_keyed rfl rfl
  have resolved : resolveTypes asciiPython lateFirstService oneOfMany = .ok ["host"] := rfl
  obtain ⟨result', _, -, done', pages⟩ :=
    materialize_pages (listStore_serves asciiPython lateFirst) lateFirst_keyed rfl resolved
  obtain rfl : result = result' := Except.ok.inj (done.symm.trans done')
  have isPrefix := pages.isPrefix
  rw [lateFirst_members, lateFirst_order] at isPrefix
  rw [lateFirst_members] at first
  dsimp only at isPrefix
  rw [first] at isPrefix
  -- The object that comes first in the store would be the one that is read first.
  have same : storedAt 128 = storedAt 0 := (List.cons_prefix_cons.1 isPrefix).1
  cases idOf_injective (congrArg OntologyObjectRecord.id same)

end Fdai.Core.OntologyPlatform.ObjectSets
