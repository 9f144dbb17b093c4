import Fdai.OntologyPlatform.ObjectSetAnswers

/-!
# The reads of an object set

Every route by which an object set is read answers about its members.

* `readQuery_answers`, `readCandidates_answers` — a query, and a query with a scan behind it.
* `query_ids` — a query of some ids; `readBatches_spec` — the loop over the batches of ids.
-/

namespace Fdai.Core.OntologyPlatform.ObjectSets

open Fdai.Documents Fdai.Sequences

variable {python : Python} {contents : StoreContents} {definition : ObjectSetDefinition}
variable {concreteTypes : List String} {store : OntologyInstanceStore}

/-! ## The routes -/

/-- What a query without ids shows. -/
theorem query_shows (serves : Serves python store contents) {limit : ℕ} (positive : 1 ≤ limit)
    (bounded : limit ≤ 1000) :
    ∃ graph, store.queryObjects (queryOf definition concreteTypes limit) = .ok graph ∧
      Shows graph contents (pushedCandidates python contents definition concreteTypes) limit :=
  serves.query (queryOf definition concreteTypes limit) positive bounded (Nat.zero_le _)
    List.nodup_nil

variable {graph : GraphSnapshot}

/-- A page of as many candidates as are asked for has the members that are asked for. -/
theorem result_of_pushed (noIds : definition.objectIds = none)
    (pushed : hasMemoryPredicates definition = false)
    (shows : Shows graph contents (pushedCandidates python contents definition concreteTypes)
      definition.limit) :
    (graph.objects.filter (isMember python concreteTypes definition.predicates)).take
      definition.limit =
        (members python contents definition concreteTypes).take definition.limit := by
  rw [members_eq_filter noIds, shows.objects]
  by_cases untyped : concreteTypes = []
  · have noMember : ∀ items : List OntologyObjectRecord,
        items.filter (isMember python concreteTypes definition.predicates) = [] := fun items =>
      List.filter_eq_nil_iff.2 fun item _ => by
        rw [isMember_of_untyped untyped]
        exact Bool.false_ne_true
    rw [noMember, noMember]
  · have all : ∀ item ∈ pushedCandidates python contents definition concreteTypes,
        isMember python concreteTypes definition.predicates item = true :=
      isMember_of_pushed pushed untyped
    rw [List.filter_eq_self.2 all,
      List.filter_eq_self.2 fun item isItem => all item (List.mem_of_mem_take isItem),
      List.take_take, Nat.min_self]

/-- **One query** whose predicates the store does not all evaluate, or that reads as many objects as
are asked for. -/
theorem readQuery_answers (serves : Serves python store contents)
    (noIds : definition.objectIds = none)
    (related : hasMemoryPredicates definition = true → definition.includeRelationships = true) :
    ∃ read, readQuery store definition concreteTypes = .ok read ∧
      Answers python contents definition concreteTypes
        (members python contents definition concreteTypes) read := by
  have positive : 1 ≤ if hasMemoryPredicates definition then storeQueryLimit else definition.limit := by
    split
    · decide
    · exact definition.limit_bounds.1
  have bounded : (if hasMemoryPredicates definition then storeQueryLimit else definition.limit) ≤
      1000 := by
    split
    · decide
    · exact definition.limit_bounds.2
  obtain ⟨graph, isRead, shows⟩ := query_shows serves positive bounded
  unfold readQuery
  dsimp only
  rw [isRead]
  refine ⟨_, rfl, ?_⟩
  exact {
    cut := isSome_reasonIf.symm
    isPrefix := by
      rw [members_eq_filter noIds]
      exact shows.filter_prefix _
    whole := fun isWhole => by
      dsimp only
      rw [shows.objects_of_whole (reasonIf_eq_none.1 isWhole), members_eq_filter noIds]
    result := fun isCut => by
      obtain ⟨-, isReason⟩ := reasonIf_eq_some.1 isCut
      cases pushed : hasMemoryPredicates definition with
      | true =>
        rw [pushed] at isReason
        cases isReason
      | false =>
        rw [pushed] at shows
        exact result_of_pushed noIds pushed shows
    candidate := fun isCut _ => .inr (by
      obtain ⟨isCut, isReason⟩ := reasonIf_eq_some.1 isCut
      cases inMemory : hasMemoryPredicates definition with
      | true =>
        rw [inMemory] at shows
        unfold candidateBound
        rw [related inMemory]
        exact shows.lt_length isCut
      | false =>
        rw [inMemory] at isReason
        cases isReason)
    untraversed := fun isCut => by
      obtain ⟨-, isReason⟩ := reasonIf_eq_some.1 isCut
      split at isReason
      · cases isReason
      · cases isReason
    scanned := fun _ never => by cases never }

/-- A read that may be cut at its candidates. -/
theorem answers_of_candidates {limit : ℕ} {scanned : Option GraphSnapshot}
    (noIds : definition.objectIds = none)
    (shows : Shows graph contents (pushedCandidates python contents definition concreteTypes) limit)
    (far : graph.truncated = true → concreteTypes ≠ [] → definition.limit < (graph.objects.filter
        (isMember python concreteTypes definition.predicates)).length ∨
      candidateBound definition <
        (pushedCandidates python contents definition concreteTypes).length)
    (isScan : ∀ graph, scanned = some graph → Shows graph contents
      (pushedCandidates python contents definition concreteTypes) maxOntologyObjectScan) :
    Answers python contents definition concreteTypes
      (members python contents definition concreteTypes)
      { graph, reason := reasonIf graph .candidateLimit, scanned } where
  cut := isSome_reasonIf.symm
  isPrefix := by
    rw [members_eq_filter noIds]
    exact shows.filter_prefix _
  whole isWhole := by
    dsimp only
    rw [shows.objects_of_whole (reasonIf_eq_none.1 isWhole), members_eq_filter noIds]
  result isCut := by cases (reasonIf_eq_some.1 isCut).2
  candidate isCut := far (reasonIf_eq_some.1 isCut).1
  untraversed isCut := by cases (reasonIf_eq_some.1 isCut).2
  scanned := isScan

/-- **One query, and a scan** unless the query shows that the limit is passed. -/
theorem readCandidates_answers (serves : Serves python store contents)
    (noIds : definition.objectIds = none)
    (unrelated : definition.includeRelationships = false) :
    ∃ read, readCandidates python store definition concreteTypes = .ok read ∧
      Answers python contents definition concreteTypes
        (members python contents definition concreteTypes) read := by
  have positive : 1 ≤ storeQueryLimit := by decide
  obtain ⟨graph, isRead, shows⟩ := query_shows serves positive (le_refl 1000)
  unfold readCandidates
  rw [isRead]
  dsimp only [bind, Except.bind]
  split
  · -- The query is cut before it shows as much: everything is scanned.
    have positive : 1 ≤ maxOntologyObjectScan := by decide
    obtain ⟨scan, isScan, showsScan⟩ :=
      serves.scan (scanOf definition concreteTypes) positive le_rfl
    rw [isScan]
    refine ⟨_, rfl, answers_of_candidates noIds showsScan (fun isCut _ => .inr ?_) ?_⟩
    · unfold candidateBound
      rw [unrelated]
      exact showsScan.lt_length isCut
    · intro graph same
      obtain rfl := Option.some.inj same
      exact showsScan
  · rename_i proven
    refine ⟨_, rfl, answers_of_candidates noIds shows (fun isCut typed => .inl ?_)
      fun _ never => by cases never⟩
    rw [isCut, Bool.true_and, Bool.not_eq_true', Bool.not_eq_false] at proven
    unfold resultLimitProven at proven
    rw [decide_eq_true_eq, List.countP_eq_length_filter] at proven
    refine proven.trans_eq (congrArg List.length (List.filter_congr fun item isItem => ?_))
    rw [shows.objects] at isItem
    obtain ⟨-, satisfies⟩ := List.mem_filter.1 (List.mem_of_mem_take isItem)
    simp only [Bool.and_eq_true, Bool.or_eq_true, decide_eq_true_eq] at satisfies
    unfold isMember
    rw [decide_eq_true (satisfies.1.1.1.resolve_left typed), Bool.true_and]

/-! ## Exact ids -/

variable {ids : List String}

/-- The ids of a definition: a bounded list without repetition, which has those of all members. -/
theorem exactIds_spec (selected : exactIds definition = some ids) : ids.length ≤ 1000 ∧ ids.Nodup ∧
      ∀ item : OntologyObjectRecord, item.id ∈ ids →
        definition.objectIds.all (fun ids => decide (item.id ∈ ids)) = true := by
  unfold exactIds at selected
  split at selected
  · rename_i explicit isExplicit
    obtain rfl := Option.some.inj selected
    obtain ⟨bounded, nodup, -⟩ := definition.objectIds_explicit _ isExplicit
    refine ⟨bounded, nodup, fun item inside => ?_⟩
    rw [isExplicit]
    exact decide_eq_true inside
  · rename_i notExplicit
    obtain ⟨predicate, isPredicate, selects⟩ := List.exists_of_findSome?_eq_some selected
    obtain ⟨bounded, nodup⟩ := bounds_of_idValuesOf selects
    refine ⟨bounded.trans ?_, nodup, fun item _ => ?_⟩
    · exact max_le (by decide) (definition.values_bound predicate isPredicate)
    · rw [notExplicit]
      rfl

theorem id_mem_exactIds (keyed : contents.Keyed) (selected : exactIds definition = some ids)
    {item : OntologyObjectRecord}
    (isItem : item ∈ members python contents definition concreteTypes) : item.id ∈ ids := by
  obtain ⟨stored, satisfies⟩ := List.mem_filter.1 isItem
  rw [Bool.and_eq_true] at satisfies
  unfold exactIds at selected
  split at selected
  · rename_i explicit isExplicit
    obtain rfl := Option.some.inj selected
    rw [isExplicit] at satisfies
    exact of_decide_eq_true satisfies.2
  obtain ⟨predicate, isPredicate, selects⟩ := List.exists_of_findSome?_eq_some selected
  have holds := satisfies.1
  unfold isMember at holds
  rw [Bool.and_eq_true] at holds
  exact mem_of_idValuesOf selects (keyed item stored)
    (List.all_eq_true.1 holds.2 predicate isPredicate)

variable {wanted : List String}

/-- What a query of some of the ids finds of the set are the members with these ids. -/
theorem filter_candidates (selected : exactIds definition = some ids)
    (nonempty : wanted ≠ []) (inside : ∀ id ∈ wanted, id ∈ ids) :
    (candidates python contents concreteTypes wanted [] []).filter
      (isMember python concreteTypes definition.predicates) =
        (members python contents definition concreteTypes).filter fun item =>
          item.id ∈ wanted := by
  unfold candidates members
  rw [List.filter_filter, List.filter_filter]
  refine List.filter_congr fun item _ => ?_
  rw [List.all_nil, List.all_nil, Bool.and_true, Bool.and_true, decide_eq_false nonempty,
    Bool.false_or]
  by_cases here : item.id ∈ wanted
  · rw [decide_eq_true here, Bool.and_true, Bool.true_and,
      (exactIds_spec selected).2.2 item (inside _ here), Bool.and_true]
    rcases isMem : isMember python concreteTypes definition.predicates item with _ | _
    · rfl
    unfold isMember at isMem
    rw [Bool.and_eq_true] at isMem
    rw [isMem.1, Bool.or_true]
    rfl
  · rw [decide_eq_false here, Bool.and_false, Bool.and_false, Bool.false_and]

/-- There are no more objects with some ids than ids. -/
theorem length_candidates_le (nonempty : wanted ≠ []) :
    (candidates python contents concreteTypes wanted [] []).length ≤ wanted.length := by
  have nodup : ((candidates python contents concreteTypes wanted [] []).map (·.id)).Nodup :=
    contents.nodup.sublist (List.filter_sublist.map _)
  have inside : (candidates python contents concreteTypes wanted [] []).map (·.id) ⊆ wanted := by
    intro id isId
    obtain ⟨item, isItem, rfl⟩ := List.mem_map.1 isId
    obtain ⟨-, satisfies⟩ := List.mem_filter.1 isItem
    simp only [Bool.and_eq_true, Bool.or_eq_true, decide_eq_true_eq] at satisfies
    exact satisfies.1.1.2.resolve_left nonempty
  have shorter := (List.subperm_of_subset nodup inside).length_le
  rw [List.length_map] at shorter
  exact shorter

/-- **A query of some of the ids** shows all members with these ids. -/
theorem query_ids (serves : Serves python store contents)
    (selected : exactIds definition = some ids)
    (nonempty : wanted ≠ []) (nodup : wanted.Nodup) (bounded : wanted.length ≤ 1000)
    (inside : ∀ id ∈ wanted, id ∈ ids) (related : Bool) :
    ∃ graph, store.queryObjects {
        objectTypes := concreteTypes
        objectIds := wanted
        limit := wanted.length
        includeRelationships := related } = .ok graph ∧
      graph.truncated = false ∧ graph.source = contents.source ∧
      graph.objects.filter (isMember python concreteTypes definition.predicates) =
        (members python contents definition concreteTypes).filter fun item =>
          item.id ∈ wanted := by
  obtain ⟨graph, isRead, shows⟩ := serves.query {
    objectTypes := concreteTypes
    objectIds := wanted
    limit := wanted.length
    includeRelationships := related } (List.length_pos_of_ne_nil nonempty) bounded bounded nodup
  have few : (candidates python contents concreteTypes wanted [] []).length ≤ wanted.length :=
    length_candidates_le nonempty
  refine ⟨graph, isRead, ?_, shows.source, ?_⟩
  · rw [shows.truncated]
    exact decide_eq_false (Nat.not_lt.2 few)
  · rw [shows.objects]
    dsimp only
    rw [List.take_of_length_le few, filter_candidates selected nonempty inside]

/-- **The loop over the batches** reads the members in their order, and all of them unless more
than the limit were read. -/
theorem readBatches_spec (serves : Serves python store contents)
    (selected : exactIds definition = some ids) (limit : ℕ) {rest : List (List String)}
    (each : ∀ batch ∈ rest, batch ≠ [] ∧ batch.Nodup ∧ batch.length ≤ 1000 ∧ ∀ id ∈ batch, id ∈ ids)
    (matchingCount : ℕ) :
    ∃ graphs total stoppedEarly,
      readBatches python store concreteTypes definition.predicates limit rest matchingCount =
        .ok (graphs, total, stoppedEarly) ∧
      (∀ graph ∈ graphs, graph.source = contents.source) ∧
      (graphs.flatMap (·.objects)).filter (isMember python concreteTypes definition.predicates) <+:
        rest.flatMap (fun batch => (members python contents definition concreteTypes).filter
          fun item => item.id ∈ batch) ∧
      total = matchingCount + ((graphs.flatMap (·.objects)).filter
        (isMember python concreteTypes definition.predicates)).length ∧
      (stoppedEarly = true → limit < total) ∧
      (limit < total ∨
        (graphs.flatMap (·.objects)).filter (isMember python concreteTypes definition.predicates) =
          rest.flatMap fun batch => (members python contents definition concreteTypes).filter
            fun item => item.id ∈ batch) := by
  induction rest generalizing matchingCount with
  | nil =>
    exact ⟨[], matchingCount, false, rfl, fun _ never => absurd never List.not_mem_nil,
      List.prefix_refl _, rfl, fun never => (Bool.false_ne_true never).elim, .inr rfl⟩
  | cons batch rest ih =>
    obtain ⟨nonempty, nodup, bounded, inside⟩ := each batch List.mem_cons_self
    obtain ⟨graph, isRead, -, isSource, isKept⟩ :=
      query_ids serves selected nonempty nodup bounded inside false
    unfold readBatches
    rw [isRead]
    dsimp only [bind, Except.bind]
    rw [List.countP_eq_length_filter, isKept]
    split
    · -- Enough members are read: the batches that are left are not read.
      rename_i passed
      refine ⟨[graph], _, _, rfl, fun other isOther => ?_, ?_, ?_, fun _ => passed, .inl passed⟩
      · rw [List.mem_singleton.1 isOther, isSource]
      · rw [List.flatMap_singleton, isKept, List.flatMap_cons]
        exact List.prefix_append _ _
      · rw [List.flatMap_singleton, isKept]
    · obtain ⟨graphs, total, stoppedEarly, isRest, sources, isPrefix, isTotal, early, all⟩ :=
        ih (fun other isOther => each other (List.mem_cons_of_mem _ isOther)) (matchingCount +
          ((members python contents definition concreteTypes).filter
            fun item => item.id ∈ batch).length)
      rw [isRest]
      refine ⟨graph :: graphs, total, stoppedEarly, rfl, fun other isOther => ?_, ?_, ?_, early, ?_⟩
      · rcases List.mem_cons.1 isOther with rfl | isOther
        · exact isSource
        · exact sources other isOther
      · rw [List.flatMap_cons, List.filter_append, isKept, List.flatMap_cons,
          List.prefix_append_right_inj]
        exact isPrefix
      · rw [List.flatMap_cons, List.filter_append, isKept, List.length_append, isTotal,
          Nat.add_assoc]
      · rw [List.flatMap_cons, List.filter_append, isKept, List.flatMap_cons]
        exact all.imp id fun same => by rw [same]

/-- Equal members are one member at most. -/
theorem length_fromKeys_of_eq {α : Type} [DecidableEq α] {items : List α} {a : α}
    (same : ∀ item ∈ items, item = a) : (fromKeys items).length ≤ 1 := by
  have inside : fromKeys items ⊆ [a] := fun item isItem =>
    List.mem_singleton.2 (same item (mem_fromKeys.1 isItem))
  exact (List.subperm_of_subset (nodup_fromKeys items) inside).length_le

/-- **Snapshots of one source** are joined. -/
theorem joinedSource_ok {graphs : List GraphSnapshot}
    (sources : ∀ graph ∈ graphs, graph.source = contents.source) :
    ∃ source, joinedSource graphs = .ok source := by
  have passed := contents.source.2
  unfold checkSource at passed
  simp only [validate_cons_eq_ok, validate_nil, and_true] at passed
  obtain ⟨generation, reason⟩ := passed
  have oneGeneration : ¬ 1 < (fromKeys (graphs.filterMap
      (·.source.val.sourceGeneration))).length := by
    rw [Nat.not_lt]
    refine length_fromKeys_of_eq (a := contents.source.val.sourceGeneration.getD "")
      fun item isItem => ?_
    obtain ⟨graph, isGraph, isGeneration⟩ := List.mem_filterMap.1 isItem
    rw [sources graph isGraph] at isGeneration
    rw [isGeneration]
    rfl
  unfold joinedSource
  rw [if_neg oneGeneration]
  dsimp only [bind, Except.bind, pure, Except.pure]
  refine ⟨⟨_, ?_⟩, construct_eq_ok.2 rfl⟩
  unfold checkSource
  simp only [validate_cons_eq_ok, validate_nil, and_true]
  constructor
  · cases isFirst : (fromKeys (graphs.filterMap (·.source.val.sourceGeneration))).head? with
    | none => rfl
    | some first =>
      have stored := mem_fromKeys.1 (List.mem_of_mem_head? isFirst)
      obtain ⟨graph, isGraph, isGeneration⟩ := List.mem_filterMap.1 stored
      rw [sources graph isGraph] at isGeneration
      rw [isGeneration] at generation
      exact generation
  · split
    swap
    · rfl
    rename_i some_reason
    rw [Bool.and_eq_true, decide_eq_true_eq] at some_reason
    rw [Option.all_some, Bool.and_eq_true, Bool.and_eq_true, Bool.and_eq_true, decide_eq_true_eq,
      decide_eq_true_eq]
    refine ⟨some_reason.2, ⟨?_, List.length_take_le _ _⟩, List.all_eq_true.2 fun token isToken => ?_⟩
    · intro isNil
      rw [List.take_eq_nil_iff] at isNil
      exact some_reason.1 (isNil.resolve_left (by decide))
    · obtain ⟨graph, isGraph, isToken⟩ :=
        List.mem_flatMap.1 (mem_fromKeys.1 (List.mem_of_mem_take isToken))
      rw [sources graph isGraph] at isToken
      cases isReason : contents.source.val.sourceIncompleteReason with
      | none =>
        rw [isReason] at isToken
        cases isToken
      | some reasons =>
        rw [isReason] at isToken reason
        rw [Option.all_some, Bool.and_eq_true, Bool.and_eq_true] at reason
        exact List.all_eq_true.1 reason.2.2 token isToken

/-- **Selected ids, batch by batch.** -/
theorem queryExactIds_spec (serves : Serves python store contents)
    (selected : exactIds definition = some ids) :
    ∃ graph, queryExactIds python store concreteTypes ids definition.predicates definition.limit =
        .ok graph ∧
      graph.objects.filter (isMember python concreteTypes definition.predicates) <+:
        batchOrder ids (members python contents definition concreteTypes) ∧
      (graph.truncated = true → definition.limit < (graph.objects.filter
        (isMember python concreteTypes definition.predicates)).length) ∧
      (graph.truncated = false →
        graph.objects.filter (isMember python concreteTypes definition.predicates) =
          batchOrder ids (members python contents definition concreteTypes)) := by
  have positive : 0 < exactIdBatchSize := by decide
  obtain ⟨-, nodup, -⟩ := exactIds_spec selected
  obtain ⟨graphs, total, stoppedEarly, isRead, sources, isPrefix, isTotal, early, all⟩ :=
    readBatches_spec serves selected definition.limit
      (fun batch (isBatch : batch ∈ batches exactIdBatchSize ids) => by
        obtain ⟨short, sublist⟩ := length_sublist_of_mem_batches isBatch
        exact ⟨ne_nil_of_mem_batches positive isBatch, nodup.sublist sublist,
          short.trans (by decide), fun _ inside => sublist.subset inside⟩) 0
  obtain ⟨source, isSource⟩ := joinedSource_ok sources
  unfold queryExactIds
  rw [isRead]
  dsimp only [bind, Except.bind]
  rw [isSource]
  rw [Nat.zero_add] at isTotal
  refine ⟨_, rfl, isPrefix, fun isCut => ?_, fun isWhole => ?_⟩
  · rw [Bool.or_eq_true, decide_eq_true_eq] at isCut
    rw [← isTotal]
    exact isCut.elim early id
  · rw [Bool.or_eq_false_iff, decide_eq_false_iff_not] at isWhole
    exact all.resolve_left isWhole.2

/-- A read that answers: whole, or cut where more members were read than the limit allows. -/
theorem answers_of_exact
    (isPrefix : graph.objects.filter (isMember python concreteTypes definition.predicates) <+: order)
    (cut : graph.truncated = true → definition.limit < (graph.objects.filter
      (isMember python concreteTypes definition.predicates)).length)
    (whole : graph.truncated = false →
      graph.objects.filter (isMember python concreteTypes definition.predicates) = order) :
    Answers python contents definition concreteTypes order
      { graph, reason := reasonIf graph .resultLimit } where
  cut := isSome_reasonIf.symm
  isPrefix := isPrefix
  whole isWhole := whole (reasonIf_eq_none.1 isWhole)
  result isCut := take_eq_of_prefix isPrefix (cut (reasonIf_eq_some.1 isCut).1).le
  candidate isCut := by cases (reasonIf_eq_some.1 isCut).2
  untraversed isCut := by cases (reasonIf_eq_some.1 isCut).2
  scanned _ never := by cases never

/-- **Selected ids** are read in one query with the relationships, and batch by batch without. -/
theorem readExact_answers (serves : Serves python store contents) (keyed : contents.Keyed)
    (selected : exactIds definition = some ids) :
    ∃ read, readExact python store definition concreteTypes ids = .ok read ∧
      Answers python contents definition concreteTypes
        (readOrder definition (members python contents definition concreteTypes)) read := by
  obtain ⟨bounded, nodup, -⟩ := exactIds_spec selected
  unfold readExact readOrder
  rw [selected]
  dsimp only
  split
  · rename_i related
    rw [Bool.and_eq_true, decide_eq_true_eq] at related
    have nonempty : fromKeys ids ≠ [] := fun isNil => by
      obtain ⟨id, inside⟩ := List.exists_mem_of_ne_nil ids related.2
      rw [← mem_fromKeys, isNil] at inside
      cases inside
    obtain ⟨graph, isRead, isWhole, -, isKept⟩ := query_ids serves selected nonempty (nodup_fromKeys ids) ((length_fromKeys_le ids).trans bounded)
      (fun _ => mem_fromKeys.1) true
    have all : (members python contents definition concreteTypes).filter
        (fun item => item.id ∈ fromKeys ids) = members python contents definition concreteTypes :=
      List.filter_eq_self.2 fun item isItem =>
        decide_eq_true (mem_fromKeys.2 (id_mem_exactIds keyed selected isItem))
    rw [all] at isKept
    rw [isRead, if_pos related.1]
    refine ⟨_, rfl, answers_of_exact ?_ (fun isCut => ?_) fun _ => isKept⟩
    · rw [isKept]
    · rw [isWhole] at isCut
      cases isCut
  · rename_i unrelated
    obtain ⟨graph, isRead, isPrefix, cut, whole⟩ :=
      queryExactIds_spec serves selected
    rw [isRead]
    have inOrder : (if definition.includeRelationships = true then
        members python contents definition concreteTypes else
          batchOrder ids (members python contents definition concreteTypes)) =
        batchOrder ids (members python contents definition concreteTypes) := by
      split
      swap
      · rfl
      rename_i related
      -- Without ids, there are no members.
      rw [related, Bool.true_and, decide_eq_true_eq, not_not] at unrelated
      have noMembers : members python contents definition concreteTypes = [] :=
        List.eq_nil_iff_forall_not_mem.2 fun item isItem => by
          have inside := id_mem_exactIds keyed selected isItem
          rw [unrelated] at inside
          cases inside
      rw [noMembers, unrelated]
      rfl
    rw [inOrder]
    exact ⟨_, rfl, answers_of_exact isPrefix cut whole⟩

end Fdai.Core.OntologyPlatform.ObjectSets
