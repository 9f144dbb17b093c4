import Fdai.OntologyPlatform.ObjectSets

/-!
# Answers about an object set

A store of fixed content whose reads are honest, and the pages that are made of what it answers.

* `StoreContents`, `Serves` — what is stored, in the order of the store, and a store that says so.
* `members` — the objects that a definition asks for; `readOrder` — the order they are read in: selected
  ids are read batch by batch.
* `Answers` — what a read says about the members; `Pages` — what a page says about them.
-/

namespace Fdai.Core.OntologyPlatform.ObjectSets

open Fdai.Documents Fdai.Sequences

variable (python : Python)

/-- What a store contains, in its order. -/
structure StoreContents where
  objects : List OntologyObjectRecord
  nodup : (objects.map (·.id)).Nodup
  source : Valid checkSource

/-- The objects of some types and ids that satisfy some filters; no types, or no ids, stand for
all. -/
def candidates (contents : StoreContents) (objectTypes objectIds : List String)
    (propertyEquals : List (String × Json)) (propertyTextIn : List (String × List String)) :
    List OntologyObjectRecord :=
  contents.objects.filter fun item =>
    (objectTypes = [] || item.objectType ∈ objectTypes) && (objectIds = [] || item.id ∈ objectIds) &&
      propertyEquals.all (satisfiesEquality python item.properties) &&
      propertyTextIn.all (satisfiesTextIn item.properties)

/-- A graph shows some objects up to a limit, and is cut exactly if it left some of them out. -/
structure Shows (graph : GraphSnapshot) (contents : StoreContents)
    (found : List OntologyObjectRecord) (limit : ℕ) : Prop where
  objects : graph.objects = found.take limit
  truncated : graph.truncated = decide (limit < found.length)
  source : graph.source = contents.source

/-- The store answers every bounded read from the same contents. -/
structure Serves (store : OntologyInstanceStore) (contents : StoreContents) : Prop where
  query : ∀ query : ObjectQuery, 1 ≤ query.limit → query.limit ≤ 1000 →
    query.objectIds.length ≤ 1000 → query.objectIds.Nodup →
    ∃ graph, store.queryObjects query = .ok graph ∧
      Shows graph contents (candidates python contents query.objectTypes query.objectIds
        query.propertyEquals query.propertyTextIn) query.limit
  scan : ∀ scan : ObjectScan, 1 ≤ scan.candidateLimit → scan.candidateLimit ≤ maxOntologyObjectScan →
    ∃ graph, store.scanObjects scan = .ok graph ∧
      Shows graph contents (candidates python contents scan.objectTypes [] scan.propertyEquals
        scan.propertyTextIn) scan.candidateLimit

/-- Every object carries its own id: `validate_object_record` compares it with the key of its type,
and the key of every declared type is `id`. -/
def StoreContents.Keyed (contents : StoreContents) : Prop :=
  ∀ item ∈ contents.objects, item.properties.lookup "id" = some (.text item.id)

/-- **The members** of a definition, in the order of the store. -/
def members (contents : StoreContents) (definition : ObjectSetDefinition)
    (concreteTypes : List String) : List OntologyObjectRecord :=
  contents.objects.filter fun item =>
    isMember python concreteTypes definition.predicates item &&
      definition.objectIds.all fun ids => item.id ∈ ids

def batchOrder (ids : List String) (members : List OntologyObjectRecord) :
    List OntologyObjectRecord :=
  (batches exactIdBatchSize ids).flatMap fun batch => members.filter fun item => item.id ∈ batch

/-- **The order** in which the members are read: selected ids come batch by batch. -/
def readOrder (definition : ObjectSetDefinition) (members : List OntologyObjectRecord) :
    List OntologyObjectRecord :=
  match exactIds definition with
  | some ids => if definition.includeRelationships then members else batchOrder ids members
  | none => members

/-- The objects that satisfy the pushed filters. -/
def pushedCandidates (contents : StoreContents) (definition : ObjectSetDefinition)
    (concreteTypes : List String) : List OntologyObjectRecord :=
  candidates python contents concreteTypes [] (pushedFilters definition.predicates).1
    (pushedFilters definition.predicates).2

/-- How many candidates are read at most: a read with relationships is not repeated by a scan. -/
def candidateBound (definition : ObjectSetDefinition) : ℕ :=
  if definition.includeRelationships then storeQueryLimit else maxOntologyObjectScan

section

variable {python} {contents : StoreContents} {definition : ObjectSetDefinition}
variable {concreteTypes : List String} {store : OntologyInstanceStore}

theorem members_eq_filter (noIds : definition.objectIds = none) :
    members python contents definition concreteTypes =
      (pushedCandidates python contents definition concreteTypes).filter
        (isMember python concreteTypes definition.predicates) := by
  unfold members pushedCandidates candidates
  rw [List.filter_filter, noIds]
  refine List.filter_congr fun item _ => ?_
  rw [Option.all_none, Bool.and_true]
  rcases isMem : isMember python concreteTypes definition.predicates item with _ | _
  · rfl
  unfold isMember at isMem
  rw [Bool.and_eq_true, decide_eq_true_eq] at isMem
  obtain ⟨equal, among⟩ := pushed_of_matches isMem.2
  symm
  simp only [Bool.true_and, Bool.and_eq_true, Bool.or_eq_true, decide_eq_true_eq, List.all_eq_true]
  exact ⟨⟨⟨.inr isMem.1, .inl trivial⟩, equal⟩, among⟩

/-- If all predicates are pushed, every candidate of one of the types is a member. -/
theorem isMember_of_pushed (pushed : hasMemoryPredicates definition = false)
    (typed : concreteTypes ≠ []) : ∀ item ∈ pushedCandidates python contents definition concreteTypes,
      isMember python concreteTypes definition.predicates item = true := by
  intro item isCandidate
  unfold hasMemoryPredicates at pushed
  dsimp only at pushed
  rw [decide_eq_false_iff_not, not_not] at pushed
  obtain ⟨-, satisfies⟩ := List.mem_filter.1 isCandidate
  simp only [Bool.and_eq_true, Bool.or_eq_true, decide_eq_true_eq, List.all_eq_true] at satisfies
  obtain ⟨⟨⟨ofType, -⟩, equal⟩, among⟩ := satisfies
  unfold isMember
  rw [Bool.and_eq_true, decide_eq_true_eq]
  exact ⟨ofType.resolve_left typed, matches_of_pushed pushed equal among⟩

theorem isMember_of_untyped (untyped : concreteTypes = []) (predicates : List ObjectPredicate)
    (item : OntologyObjectRecord) : isMember python concreteTypes predicates item = false := by
  unfold isMember
  rw [untyped]
  rfl

/-- What a read says about the members, in the order they are read in. -/
structure Answers (python : Python) (contents : StoreContents) (definition : ObjectSetDefinition)
    (concreteTypes : List String) (order : List OntologyObjectRecord) (read : SourceRead) :
    Prop where
  cut : read.graph.truncated = read.reason.isSome
  isPrefix : read.graph.objects.filter (isMember python concreteTypes definition.predicates) <+: order
  whole : read.reason = none →
    read.graph.objects.filter (isMember python concreteTypes definition.predicates) = order
  result : read.reason = some .resultLimit →
    (read.graph.objects.filter (isMember python concreteTypes definition.predicates)).take
      definition.limit = order.take definition.limit
  candidate : read.reason = some .candidateLimit → concreteTypes ≠ [] →
    definition.limit < (read.graph.objects.filter
      (isMember python concreteTypes definition.predicates)).length ∨
    candidateBound definition < (pushedCandidates python contents definition concreteTypes).length
  untraversed : read.reason ≠ some .traversalLimit
  scanned : ∀ graph, read.scanned = some graph → Shows graph contents
    (pushedCandidates python contents definition concreteTypes) maxOntologyObjectScan

theorem isSome_reasonIf {graph : GraphSnapshot} {reason : ObjectSetTruncationReason} :
    (reasonIf graph reason).isSome = graph.truncated := by
  unfold reasonIf
  cases graph.truncated with
  | true | false => rfl

theorem reasonIf_eq_some {graph : GraphSnapshot} {reason reason' : ObjectSetTruncationReason} :
    reasonIf graph reason = some reason' ↔ graph.truncated = true ∧ reason = reason' := by
  unfold reasonIf
  cases graph.truncated with
  | true | false => simp

theorem reasonIf_eq_none {graph : GraphSnapshot} {reason : ObjectSetTruncationReason} :
    reasonIf graph reason = none ↔ graph.truncated = false := by
  unfold reasonIf
  cases graph.truncated with
  | true | false => simp

section

variable {graph : GraphSnapshot} {found : List OntologyObjectRecord} {limit : ℕ}

/-- What is kept of a read is where what is kept of everything begins. -/
theorem Shows.filter_prefix (shows : Shows graph contents found limit)
    (p : OntologyObjectRecord → Bool) : graph.objects.filter p <+: found.filter p := by
  rw [shows.objects]
  exact (List.take_prefix limit found).filter p

/-- A read that is not cut shows everything. -/
theorem Shows.objects_of_whole (shows : Shows graph contents found limit)
    (whole : graph.truncated = false) : graph.objects = found := by
  rw [shows.truncated, decide_eq_false_iff_not, Nat.not_lt] at whole
  rw [shows.objects, List.take_of_length_le whole]

/-- A read that is cut left something out. -/
theorem Shows.lt_length (shows : Shows graph contents found limit)
    (cut : graph.truncated = true) : limit < found.length := by
  rw [shows.truncated, decide_eq_true_eq] at cut
  exact cut

end

/-- What is long enough begins as what it is the beginning of. -/
theorem take_eq_of_prefix {α : Type} {kept order : List α} {limit : ℕ} (isPrefix : kept <+: order)
    (long : limit ≤ kept.length) : kept.take limit = order.take limit := by
  obtain ⟨rest, rfl⟩ := isPrefix
  rw [List.take_append_of_le_length long]

/-! ## Pages -/

/-- What a page says about the members. -/
structure Pages (python : Python) (contents : StoreContents) (definition : ObjectSetDefinition)
    (concreteTypes : List String) (order : List OntologyObjectRecord) (page : Page) : Prop where
  cut : page.graph.truncated = page.reason.isSome
  isPrefix : page.graph.objects <+: order.take definition.limit
  reached : page.reason ≠ some .candidateLimit → page.graph.objects = order.take definition.limit
  whole : page.reason = none → page.graph.objects = order
  candidate : page.reason = some .candidateLimit → concreteTypes ≠ [] →
    candidateBound definition < (pushedCandidates python contents definition concreteTypes).length
  population : ∀ population, page.population = some population →
    population.objects = members python contents definition concreteTypes

variable {order : List OntologyObjectRecord} {read : SourceRead}

/-- **The first page** of a read. -/
theorem pages_of_answers (answers : Answers python contents definition concreteTypes order read) :
    Pages python contents definition concreteTypes order
      (firstPage python definition concreteTypes read) := by
  show Pages python contents definition concreteTypes order {
    graph := (filterGraph python read.graph concreteTypes definition.predicates definition.limit).1
    reason :=
      if decide (definition.limit < (read.graph.objects.filter
        (isMember python concreteTypes definition.predicates)).length) then
        some .resultLimit else read.reason }
  have truncated : (filterGraph python read.graph concreteTypes definition.predicates
      definition.limit).1.truncated = (read.graph.truncated || decide (definition.limit <
        (read.graph.objects.filter
          (isMember python concreteTypes definition.predicates)).length)) := rfl
  have objects : (filterGraph python read.graph concreteTypes definition.predicates
      definition.limit).1.objects = (read.graph.objects.filter
        (isMember python concreteTypes definition.predicates)).take definition.limit := rfl
  by_cases passed : definition.limit < (read.graph.objects.filter
      (isMember python concreteTypes definition.predicates)).length
  · -- More members were read than the page has place for.
    rw [decide_eq_true passed] at truncated ⊢
    rw [Bool.or_true] at truncated
    have same := take_eq_of_prefix answers.isPrefix passed.le
    rw [same] at objects
    exact {
      cut := truncated
      isPrefix := by
        dsimp only
        rw [objects]
      reached := fun _ => objects
      whole := fun never => by cases never
      candidate := fun never => by cases never
      population := fun _ never => by cases never }
  · rw [decide_eq_false passed] at truncated ⊢
    rw [Bool.or_false] at truncated
    rw [List.take_of_length_le (Nat.not_lt.1 passed)] at objects
    exact {
      cut := truncated.trans answers.cut
      isPrefix := by
        dsimp only
        rw [objects, List.prefix_take_iff]
        exact ⟨answers.isPrefix, Nat.not_lt.1 passed⟩
      reached := fun notCandidate => by
        dsimp only
        rw [objects, ← List.take_of_length_le (Nat.not_lt.1 passed)]
        rcases isReason : read.reason with _ | reason
        · rw [answers.whole isReason]
        cases reason with
        | resultLimit => exact answers.result isReason
        | candidateLimit => exact absurd isReason notCandidate
        | traversalLimit => exact absurd isReason answers.untraversed
      whole := fun isWhole => objects.trans (answers.whole isWhole)
      candidate := fun isReason typed =>
        (answers.candidate isReason typed).resolve_left passed
      population := fun _ never => by cases never }

/-- **The population** is every member. -/
theorem populationOf_members (serves : Serves python store contents)
    (readable : populationReadable definition = true) {scanned : Option GraphSnapshot}
    (isScan : ∀ graph, scanned = some graph → Shows graph contents
      (pushedCandidates python contents definition concreteTypes) maxOntologyObjectScan) :
    ∃ result, populationOf python store definition concreteTypes scanned = .ok result ∧
      ∀ population, result = some population → population.truncated = false ∧
        population.objects = members python contents definition concreteTypes := by
  have noIds : definition.objectIds = none := by
    unfold populationReadable at readable
    simp only [Bool.and_eq_true, Option.isNone_iff_eq_none] at readable
    exact readable.1.1.2
  obtain ⟨graph, isRead, shows⟩ : ∃ graph,
      populationScan store definition concreteTypes scanned = .ok graph ∧ Shows graph contents
        (pushedCandidates python contents definition concreteTypes) maxOntologyObjectScan := by
    cases scanned with
    | some graph => exact ⟨graph, rfl, isScan graph rfl⟩
    | none =>
      have positive : 1 ≤ maxOntologyObjectScan := by decide
      exact serves.scan (scanOf definition concreteTypes) positive le_rfl
  unfold populationOf
  rw [isRead]
  dsimp only
  split
  · exact ⟨none, rfl, fun _ never => by cases never⟩
  rename_i complete
  rw [Bool.or_eq_true, not_or, Bool.not_eq_true] at complete
  have isWhole := shows.objects_of_whole complete.1
  have short : (members python contents definition concreteTypes).length ≤
      maxOntologyObjectScan := by
    have whole := complete.1
    rw [shows.truncated, decide_eq_false_iff_not, Nat.not_lt] at whole
    rw [members_eq_filter noIds]
    exact (List.length_filter_le _ _).trans whole
  refine ⟨_, rfl, fun population same => ?_⟩
  obtain rfl := Option.some.inj same
  unfold filterGraph
  dsimp only
  rw [isWhole, ← members_eq_filter noIds, complete.1, List.take_of_length_le short,
    decide_eq_false (Nat.not_lt.2 short)]
  exact ⟨rfl, rfl⟩

theorem filter_members : (members python contents definition concreteTypes).filter
    (isMember python concreteTypes []) = members python contents definition concreteTypes := by
  refine List.filter_eq_self.2 fun item isItem => ?_
  obtain ⟨-, satisfies⟩ := List.mem_filter.1 isItem
  rw [Bool.and_eq_true] at satisfies
  have ofType := satisfies.1
  unfold isMember at ofType ⊢
  rw [Bool.and_eq_true] at ofType ⊢
  exact ⟨ofType.1, rfl⟩

/-- **The page of a population.** -/
theorem pages_of_population {population : GraphSnapshot} (whole : population.truncated = false)
    (isAll : population.objects = members python contents definition concreteTypes) :
    Pages python contents definition concreteTypes
      (members python contents definition concreteTypes)
      (pageOf python population definition concreteTypes) := by
  unfold pageOf filterGraph
  dsimp only
  rw [isAll, filter_members, whole, Bool.false_or]
  split
  · rename_i passed
    exact {
      cut := passed
      isPrefix := List.prefix_refl _
      reached := fun _ => rfl
      whole := fun never => by cases never
      candidate := fun never => by cases never
      population := fun other same => by
        obtain rfl := Option.some.inj same
        exact isAll }
  · rename_i fits
    have short := fits
    rw [decide_eq_true_eq, Nat.not_lt] at short
    exact {
      cut := by
        dsimp only
        rw [Bool.eq_false_iff.2 fits]
        rfl
      isPrefix := List.prefix_refl _
      reached := fun _ => rfl
      whole := fun _ => List.take_of_length_le short
      candidate := fun never => by cases never
      population := fun _ never => by cases never }

/-- **The page of an answer**, with its population if that can be read. -/
theorem paged_pages (serves : Serves python store contents)
    (answers : Answers python contents definition concreteTypes order read)
    (ordered : order = readOrder definition (members python contents definition concreteTypes)) :
    ∃ page, paged python store definition concreteTypes read = .ok page ∧
      Pages python contents definition concreteTypes order page := by
  have first := pages_of_answers answers
  unfold paged
  dsimp only
  split
  swap
  · exact ⟨_, rfl, first⟩
  rename_i isCut
  rw [Bool.and_eq_true] at isCut
  obtain ⟨result, isResult, all⟩ :=
    populationOf_members serves isCut.2 answers.scanned
  rw [isResult]
  rcases result with _ | population
  · exact ⟨_, rfl, first⟩
  obtain ⟨whole, isAll⟩ := all population rfl
  have inOrder : order = members python contents definition concreteTypes := by
    have noIds : exactIds definition = none := by
      have readable := isCut.2
      unfold populationReadable at readable
      simp only [Bool.and_eq_true, Option.isNone_iff_eq_none] at readable
      unfold exactIds
      rw [readable.1.1.2]
      exact readable.2
    rw [ordered]
    unfold readOrder
    rw [noIds]
  refine ⟨_, rfl, ?_⟩
  rw [inOrder]
  exact pages_of_population whole isAll

end

end Fdai.Core.OntologyPlatform.ObjectSets
