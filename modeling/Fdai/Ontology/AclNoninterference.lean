import Fdai.Ontology.Acl
import Fdai.Providers.Checks

/-!
# The projection of a graph does not interfere

Two graphs that a request cannot tell apart have the same shape: the same objects in the same places,
linked in the same way, with the same visible values, and the same ids where the key is visible.
Their projections are equal, as long as the same alias names are taken in both: an alias is allocated
outside all the ids of the source, the hidden ones among them.

* `Indistinguishable` — two graphs that a request cannot tell apart.
* `projectObjects_eq` — the loop over the objects, in two runs.
* `projection_noninterferent` — the theorem, with what no projection shows; `alias_interferes` is why
  the aliases need a condition.
-/

namespace Fdai.Core.Ontology

variable {objectTypes : String → Option ObjectType} {request : ProjectionRequest}
  {linkEvidence : Properties → Except String Properties}

section

variable (objectTypes request)

/-- Whether a property of an object of the named type is redacted. -/
def PropertyHidden (objectType property : String) : Prop :=
  ∀ declaration, objectTypes objectType = some declaration →
    (redaction declaration request property).isSome = true

/-- Whether the id of an object is hidden: its key property is there, and redacted. -/
def IdHidden (record : ObjectRecord) : Prop :=
  ∀ declaration, objectTypes record.objectType = some declaration →
    declaration.key ∈ record.properties.map Prod.fst ∧
      (redaction declaration request declaration.key).isSome = true

/-- Two objects that differ only in what is hidden. -/
structure SameObject (record other : ObjectRecord) : Prop where
  objectType : record.objectType = other.objectType
  revision : record.revision = other.revision
  typeRef : record.typeRef = other.typeRef
  properties : List.Forall₂ (fun entry entry' : String × Value => entry.1 = entry'.1 ∧
    (PropertyHidden objectTypes request record.objectType entry.1 ∨ entry.2 = entry'.2))
      record.properties other.properties
  id : IdHidden objectTypes request record ∨ record.id = other.id

/-- Two links of the same kind between objects in the same places. -/
structure SameLink (snapshot other : GraphSnapshot) (link link' : LinkRecord) : Prop where
  linkType : link.linkType = link'.linkType
  properties : link.properties = link'.properties
  typeRef : link.typeRef = link'.typeRef
  fromPlace : snapshot.ids.idxOf? link.fromId = other.ids.idxOf? link'.fromId
  toPlace : snapshot.ids.idxOf? link.toId = other.ids.idxOf? link'.toId

/-- **Two graphs of the same shape that differ only in what the request may not see.** -/
structure Indistinguishable (snapshot other : GraphSnapshot) : Prop where
  objects : List.Forall₂ (SameObject objectTypes request) snapshot.objects other.objects
  /-- The same places hold the same object. -/
  places : ∀ place place' : ℕ,
    snapshot.ids[place]? = snapshot.ids[place']? ↔ other.ids[place]? = other.ids[place']?
  links : List.Forall₂ (SameLink snapshot other) snapshot.links other.links
  truncated : snapshot.truncated = other.truncated
  sourceComplete : snapshot.sourceComplete = other.sourceComplete
  sourceGeneration : snapshot.sourceGeneration = other.sourceGeneration
  sourceIncompleteReason : snapshot.sourceIncompleteReason = other.sourceIncompleteReason

end

variable {declaration : ObjectType} {properties : Properties}

/-- **What is redacted does not reach the projected properties.** -/
theorem redactProperties_eq {properties' : Properties}
    (same : List.Forall₂ (fun entry entry' : String × Value => entry.1 = entry'.1 ∧
      ((redaction declaration request entry.1).isSome = true ∨ entry.2 = entry'.2))
        properties properties') :
    redactProperties declaration properties request =
      redactProperties declaration properties' request := by
  unfold redactProperties
  induction same with
  | nil => rfl
  | @cons entry entry' rest rest' first _ ih =>
    rw [List.map_cons, List.map_cons, ih]
    congr 1
    obtain ⟨property, value⟩ := entry
    obtain ⟨property', value'⟩ := entry'
    obtain ⟨sameKey, visible⟩ := first
    dsimp only at sameKey visible ⊢
    subst sameKey
    cases isRedacted : redaction declaration request property with
    | some field => rfl
    | none =>
      rw [isRedacted] at visible
      obtain hidden | rfl := visible
      · cases hidden
      · rfl

variable {property : String}

theorem getProperty_append {more : Properties} (outside : ∀ entry ∈ more, entry.1 ≠ property) :
    getProperty (properties ++ more) property = getProperty properties property := by
  unfold getProperty
  have absent : more.find? (fun entry => decide (entry.1 = property)) = none := by
    rw [List.find?_eq_none]
    intro entry inside
    simpa using outside entry inside
  rw [List.find?_append, absent, Option.or_none]

/-- Another property is not affected. -/
theorem getProperty_set {other : String} (apart : other ≠ property) (value : Value) :
    getProperty (setProperty properties property value) other = getProperty properties other := by
  unfold setProperty
  split
  · unfold getProperty
    have passes : (fun entry : String × Value => decide (entry.1 = other)) ∘
        (fun entry => if entry.1 = property then (property, value) else entry) =
          fun entry => decide (entry.1 = other) := by
      funext entry
      by_cases isSet : entry.1 = property
      · simp [isSet]
      · simp [isSet]
    rw [List.find?_map, passes, Option.map_map]
    cases found : properties.find? fun entry => decide (entry.1 = other) with
    | none => rfl
    | some entry =>
      have isOther : entry.1 = other := by simpa using List.find?_some found
      have notSet : entry.1 ≠ property := isOther ▸ apart
      simp [notSet]
  · refine getProperty_append ?_
    intro entry inside
    rw [List.mem_singleton.1 inside]
    exact apart.symm

theorem getProperty_redacted (inside : property ∈ properties.map Prod.fst)
    (isRedacted : (redaction declaration request property).isSome = true) :
    getProperty (serializeProjection (redactProperties declaration properties request)).1 property =
      some (.str redactedPlaceholder) := by
  obtain ⟨field, isField⟩ := Option.isSome_iff_exists.1 isRedacted
  unfold getProperty serializeProjection redactProperties
  induction properties with
  | nil => cases inside
  | cons entry rest ih =>
    obtain ⟨name, value⟩ := entry
    rw [List.map_cons, List.map_cons]
    by_cases same : name = property
    · subst same
      simp [isField]
    have later : property ∈ rest.map Prod.fst := by
      simpa [Ne.symm same] using inside
    show Option.map Prod.snd (List.find? _ ((_, _) :: _)) = _
    rw [List.find?_cons]
    cases redaction declaration request name with
    | some other | none => simpa [same] using ih later

/-- **An object whose id is hidden is projected under an alias.** -/
theorem keyRedacted_of_hidden {record : ObjectRecord}
    (isDeclared : objectTypes record.objectType = some declaration)
    (hidden : IdHidden objectTypes request record) (apart : declaration.key ≠ redactionsKey) :
    keyRedacted declaration (projectedValues declaration record.properties request) = true := by
  obtain ⟨inside, isRedacted⟩ := hidden declaration isDeclared
  have shown := getProperty_redacted inside isRedacted
  have kept : getProperty (projectedValues declaration record.properties request) declaration.key =
      some (.str redactedPlaceholder) := by
    unfold projectedValues
    dsimp only
    split
    · exact shown
    · rw [getProperty_set apart]
      exact shown
  unfold keyRedacted
  rw [kept]
  simp

theorem aliasName_succ (index suffix : ℕ) :
    aliasName index (suffix + 1) = aliasName index 0 ++ "-alias-" ++ Nat.repr (suffix + 1) := rfl

/-- The later names are longer than the first. -/
theorem length_aliasName_zero_lt (index suffix : ℕ) :
    (aliasName index 0).length < (aliasName index (suffix + 1)).length := by
  have marked : "-alias-".length = 7 := rfl
  rw [aliasName_succ, String.length_append, String.length_append, marked]
  omega

theorem aliasName_injective (index : ℕ) : Function.Injective (aliasName index) := by
  intro first second same
  rcases first with _ | first <;> rcases second with _ | second
  · rfl
  · have longer := length_aliasName_zero_lt index second
    rw [same] at longer
    exact absurd longer (lt_irrefl _)
  · have longer := length_aliasName_zero_lt index first
    rw [same] at longer
    exact absurd longer (lt_irrefl _)
  · rw [aliasName_succ, aliasName_succ] at same
    have numbers : Nat.repr (first + 1) = Nat.repr (second + 1) :=
      (String.append_right_inj _).1 same
    exact Nat.repr_inj.1 numbers

variable {index : ℕ}

/-- The loop ends at a name that is not taken, if there is one to come. -/
theorem firstFree_notMem {taken : List String} (fuel suffix : ℕ)
    (free : ∃ later ≤ fuel, aliasName index (suffix + later) ∉ taken) :
    firstFree taken index fuel suffix ∉ taken := by
  induction fuel generalizing suffix with
  | zero =>
    obtain ⟨later, atMost, isFree⟩ := free
    obtain rfl : later = 0 := by omega
    exact isFree
  | succ fuel ih =>
    unfold firstFree
    split
    · rename_i isTaken
      refine ih (suffix + 1) ?_
      obtain ⟨later, atMost, isFree⟩ := free
      cases later with
      | zero => exact absurd isTaken isFree
      | succ later => exact ⟨later, by omega, by rwa [Nat.add_assoc, Nat.add_comm 1]⟩
    · assumption

/-- **An alias is new**: among one name more than there are taken ones, one is free. -/
theorem allocate_notMem (index : ℕ) (reservedIds allocatedAliases : List String) :
    allocateRedactedAlias index reservedIds allocatedAliases ∉ reservedIds ++ allocatedAliases := by
  refine firstFree_notMem _ 0 ?_
  by_contra full
  have allTaken : ∀ later ≤ reservedIds.length + allocatedAliases.length,
      aliasName index later ∈ reservedIds ++ allocatedAliases := by
    intro later atMost
    by_contra isFree
    exact full ⟨later, atMost, by rwa [Nat.zero_add]⟩
  have names : ((List.range (reservedIds.length + allocatedAliases.length + 1)).map
      (aliasName index)).Nodup := List.nodup_range.map (aliasName_injective index)
  have inside : ((List.range (reservedIds.length + allocatedAliases.length + 1)).map
      (aliasName index)) ⊆ reservedIds ++ allocatedAliases := by
    intro name isName
    obtain ⟨later, inRange, rfl⟩ := List.mem_map.1 isName
    exact allTaken later (Nat.lt_succ_iff.1 (List.mem_range.1 inRange))
  have fewer := (List.subperm_of_subset names inside).length_le
  rw [List.length_map, List.length_range, List.length_append] at fewer
  omega

/-- The loop asks only which alias names are taken. -/
theorem firstFree_congr {taken taken' : List String}
    (same : ∀ suffix, aliasName index suffix ∈ taken ↔ aliasName index suffix ∈ taken')
    (fuel suffix : ℕ) :
    firstFree taken index fuel suffix = firstFree taken' index fuel suffix := by
  induction fuel generalizing suffix with
  | zero => rfl
  | succ fuel ih =>
    unfold firstFree
    rw [ih, if_congr (same suffix) rfl rfl]

variable {reservedIds : List String}

/-- An alias depends on which alias names are ids, and on how many ids there are. -/
theorem allocate_congr {reservedIds' : List String}
    (aliases : ∀ suffix, aliasName index suffix ∈ reservedIds ↔
      aliasName index suffix ∈ reservedIds')
    (length : reservedIds.length = reservedIds'.length) (allocatedAliases : List String) :
    allocateRedactedAlias index reservedIds allocatedAliases =
      allocateRedactedAlias index reservedIds' allocatedAliases := by
  unfold allocateRedactedAlias
  rw [length]
  refine firstFree_congr ?_ _ _
  intro suffix
  rw [List.mem_append, List.mem_append, aliases]

/-! ## Objects and links in two runs -/

variable {records : List ObjectRecord}

/-- **The objects of two runs.** -/
theorem projectObjects_eq {reservedIds' : List String}
    (keys : ∀ name declaration, objectTypes name = some declaration →
      declaration.key ≠ redactionsKey)
    (aliases : ∀ index suffix, aliasName index suffix ∈ reservedIds ↔
      aliasName index suffix ∈ reservedIds')
    (length : reservedIds.length = reservedIds'.length) {records' : List ObjectRecord}
    (same : List.Forall₂ (SameObject objectTypes request) records records') (index : ℕ)
    (allocatedAliases : List String) :
    projectObjects objectTypes request reservedIds index allocatedAliases records =
      projectObjects objectTypes request reservedIds' index allocatedAliases records' := by
  induction same generalizing index allocatedAliases with
  | nil => rfl
  | @cons record record' rest rest' first _ ih =>
    obtain ⟨id, objectType, properties, revision, typeRef⟩ := record
    obtain ⟨id', objectType', properties', revision', typeRef'⟩ := record'
    obtain ⟨sameType, sameRevision, sameRef, sameProperties, sameId⟩ := first
    dsimp only at sameType sameRevision sameRef sameProperties sameId
    subst sameType sameRevision sameRef
    unfold projectObjects
    rcases isDeclared : objectTypes objectType with _ | declaration
    · rfl
    have values : projectedValues declaration properties request =
        projectedValues declaration properties' request := by
      unfold projectedValues
      rw [redactProperties_eq]
      exact sameProperties.imp fun _ _ entry =>
        ⟨entry.1, entry.2.imp_left fun hidden => hidden declaration isDeclared⟩
    dsimp only
    rw [← values, allocate_congr (aliases index) length, ih, ih]
    split
    · rfl
    rename_i isShown
    obtain hidden | rfl := sameId
    · exact absurd (keyRedacted_of_hidden isDeclared hidden (keys _ _ isDeclared)) isShown
    · rfl

theorem lookup_zip (ids projected : List String) (id : String)
    (length : projected.length = ids.length) :
    (ids.zip projected).lookup id = (ids.idxOf? id).bind fun place => projected[place]? := by
  induction ids generalizing projected with
  | nil => simp
  | cons first ids ih =>
    rcases projected with _ | ⟨name, projected⟩
    · simp at length
    rw [List.zip_cons_cons, List.lookup_cons, List.idxOf?_cons]
    by_cases same : id = first
    · simp [same]
    have differs : (id == first) = false := beq_false_of_ne same
    have differs' : (first == id) = false := beq_false_of_ne (Ne.symm same)
    rw [differs, differs', ih projected (Nat.succ.inj length)]
    cases ids.idxOf? id <;> rfl

theorem SameLink.projected {snapshot other : GraphSnapshot} {link link' : LinkRecord}
    (same : SameLink snapshot other link link') {names : List String}
    (length : names.length = snapshot.ids.length) (length' : names.length = other.ids.length) :
    projectLink linkEvidence (snapshot.ids.zip names) link =
      projectLink linkEvidence (other.ids.zip names) link' := by
  obtain ⟨linkType, fromId, toId, properties, typeRef⟩ := link
  obtain ⟨linkType', fromId', toId', properties', typeRef'⟩ := link'
  obtain ⟨sameType, sameProperties, sameRef, fromPlace, toPlace⟩ := same
  dsimp only at sameType sameProperties sameRef fromPlace toPlace
  subst sameType sameProperties sameRef
  unfold projectLink
  dsimp only
  rw [lookup_zip _ _ _ length, lookup_zip _ _ _ length, lookup_zip _ _ _ length',
    lookup_zip _ _ _ length', fromPlace, toPlace]

/-- **The links of two runs.** -/
theorem projectLinks_eq {snapshot other : GraphSnapshot} {links links' : List LinkRecord}
    (same : List.Forall₂ (SameLink snapshot other) links links') {names : List String}
    (length : names.length = snapshot.ids.length) (length' : names.length = other.ids.length) :
    links.mapM (projectLink linkEvidence (snapshot.ids.zip names)) =
      links'.mapM (projectLink linkEvidence (other.ids.zip names)) := by
  induction same with
  | nil => rfl
  | cons first _ ih => rw [List.mapM_cons, List.mapM_cons, first.projected length length', ih]

variable {objects : List ObjectRecord}

theorem projectObjects_length {allocatedAliases : List String}
    (run : projectObjects objectTypes request reservedIds index allocatedAliases records =
      .ok objects) : objects.length = records.length := by
  induction records generalizing index allocatedAliases objects with
  | nil =>
    cases run
    rfl
  | cons record rest ih =>
    unfold projectObjects at run
    split at run
    · cases run
    dsimp only at run
    split at run
    all_goals
      obtain ⟨others, isOthers, isOk⟩ := bind_eq_ok.1 run
      cases isOk
      rw [List.length_cons, List.length_cons, ih isOthers]

namespace Indistinguishable

variable {snapshot other : GraphSnapshot}

theorem length_ids (same : Indistinguishable objectTypes request snapshot other) :
    snapshot.ids.length = other.ids.length := by
  unfold GraphSnapshot.ids
  rw [List.length_map, List.length_map]
  exact same.objects.length_eq

/-- The ids are unique in both graphs, or in neither. -/
theorem nodup_ids (same : Indistinguishable objectTypes request snapshot other) :
    snapshot.ids.Nodup ↔ other.ids.Nodup := by
  rw [List.nodup_iff_getElem?_ne_getElem?, List.nodup_iff_getElem?_ne_getElem?, same.length_ids]
  refine forall₂_congr fun place place' => ?_
  exact forall₂_congr fun _ _ => not_congr (same.places place place')

/-- **The projections of two graphs that the request cannot tell apart.** -/
theorem projected_eq (same : Indistinguishable objectTypes request snapshot other)
    (keys : ∀ name declaration, objectTypes name = some declaration →
      declaration.key ≠ redactionsKey)
    (aliases : ∀ index suffix, aliasName index suffix ∈ snapshot.ids ↔
      aliasName index suffix ∈ other.ids) :
    projectGraphSnapshot objectTypes request linkEvidence snapshot =
      projectGraphSnapshot objectTypes request linkEvidence other := by
  have objectsEq := projectObjects_eq keys aliases same.length_ids same.objects 1 []
  unfold projectGraphSnapshot
  rw [if_congr (not_congr same.nodup_ids) rfl rfl, ← objectsEq]
  cases run : projectObjects objectTypes request snapshot.ids 1 [] snapshot.objects with
  | error _ => rfl
  | ok objects =>
    have length : (objects.map ObjectRecord.id).length = snapshot.ids.length := by
      rw [List.length_map, projectObjects_length run, GraphSnapshot.ids, List.length_map]
    have linksEq : snapshot.links.mapM (projectLink linkEvidence (snapshot.ids.zip _)) = _ :=
      projectLinks_eq same.links length (length.trans same.length_ids)
    show ite _ _ (Except.bind _ _) = ite _ _ (Except.bind _ _)
    simp only [Except.bind]
    rw [← linksEq]
    rw [same.truncated, same.sourceComplete, same.sourceGeneration, same.sourceIncompleteReason]

end Indistinguishable

/-! ## What no projection shows -/

/-- A property the request may not see is absent, or shows the placeholder. -/
theorem getProperty_hidden (isRedacted : (redaction declaration request property).isSome = true)
    (apart : property ≠ redactionsKey) :
    getProperty (projectedValues declaration properties request) property ∈
      [none, some (.str redactedPlaceholder)] := by
  have shown : getProperty
      (serializeProjection (redactProperties declaration properties request)).1 property ∈
        [none, some (.str redactedPlaceholder)] := by
    by_cases inside : property ∈ properties.map Prod.fst
    · rw [getProperty_redacted inside isRedacted]
      simp
    have absent : getProperty
        (serializeProjection (redactProperties declaration properties request)).1 property =
          none := by
      unfold getProperty
      rw [Option.map_eq_none_iff, List.find?_eq_none]
      intro entry isEntry isProperty
      refine inside ?_
      unfold serializeProjection redactProperties at isEntry
      simp only [List.map_map, List.mem_map, Function.comp_apply] at isEntry
      obtain ⟨⟨name, value⟩, isSource, rfl⟩ := isEntry
      refine List.mem_map.2 ⟨(name, value), isSource, ?_⟩
      revert isProperty
      cases redaction declaration request name <;> simp
    rw [absent]
    simp
  unfold projectedValues
  dsimp only
  split
  · exact shown
  · rw [getProperty_set apart]
    exact shown

/-- A projected object: its values are those the request may see, and its id is the one of the source
or no id of the source. -/
structure ProjectedFrom (objectTypes : String → Option ObjectType) (request : ProjectionRequest)
    (reservedIds : List String) (record object : ObjectRecord) : Prop where
  objectType : object.objectType = record.objectType
  values : ∃ declaration, objectTypes record.objectType = some declaration ∧
    object.properties = projectedValues declaration record.properties request ∧
      (object.id ∉ reservedIds ∨ object.id = record.id ∧
        ¬ keyRedacted declaration (projectedValues declaration record.properties request) = true)

/-- **Every projected object comes from an object of the source.** -/
theorem projectObjects_from {allocatedAliases : List String}
    (run : projectObjects objectTypes request reservedIds index allocatedAliases records =
      .ok objects) :
    List.Forall₂ (ProjectedFrom objectTypes request reservedIds) records objects := by
  induction records generalizing index allocatedAliases objects with
  | nil =>
    cases run
    exact .nil
  | cons record rest ih =>
    unfold projectObjects at run
    split at run
    · cases run
    rename_i declaration isDeclared
    dsimp only at run
    split at run
    · obtain ⟨others, isOthers, isOk⟩ := bind_eq_ok.1 run
      cases isOk
      refine .cons ⟨rfl, declaration, isDeclared, rfl, .inl ?_⟩ (ih isOthers)
      intro isReserved
      exact allocate_notMem index reservedIds allocatedAliases (List.mem_append_left _ isReserved)
    rename_i isShown
    obtain ⟨others, isOthers, isOk⟩ := bind_eq_ok.1 run
    cases isOk
    exact .cons ⟨rfl, declaration, isDeclared, rfl, .inr ⟨rfl, isShown⟩⟩ (ih isOthers)

theorem exists_source
    (projected : List.Forall₂ (ProjectedFrom objectTypes request reservedIds) records objects)
    {object : ObjectRecord} (isProjected : object ∈ objects) :
    ∃ record ∈ records, ProjectedFrom objectTypes request reservedIds record object := by
  induction projected with
  | nil => exact absurd isProjected List.not_mem_nil
  | @cons first _ rest _ comes _ ih =>
    rcases List.mem_cons.1 isProjected with rfl | later
    · exact ⟨first, List.mem_cons_self, comes⟩
    · obtain ⟨record, isRecord, comes⟩ := ih later
      exact ⟨record, List.mem_cons_of_mem _ isRecord, comes⟩

/-- What a projection that succeeds consists of. -/
theorem projectGraphSnapshot_eq_ok {snapshot projected : GraphSnapshot}
    (run : projectGraphSnapshot objectTypes request linkEvidence snapshot = .ok projected) :
    snapshot.ids.Nodup ∧
      List.Forall₂ (ProjectedFrom objectTypes request snapshot.ids) snapshot.objects
        projected.objects ∧
      ∀ link ∈ projected.links, link.fromId ∈ projected.ids ∧ link.toId ∈ projected.ids := by
  unfold projectGraphSnapshot at run
  split at run
  · cases run
  rename_i unique
  obtain ⟨objects, isObjects, run⟩ := bind_eq_ok.1 run
  obtain ⟨links, _, run⟩ := bind_eq_ok.1 run
  unfold validateProjectedSnapshot at run
  split at run
  · cases run
  split at run
  · cases run
  rename_i closed
  cases run
  refine ⟨not_not.1 unique, projectObjects_from isObjects, ?_⟩
  intro link isLink
  by_contra outside
  exact closed ⟨link, isLink, not_and_or.1 outside⟩

/-- **No id of an object with a hidden key is an id of the projection.** -/
theorem hiddenId_notMem {snapshot projected : GraphSnapshot}
    (keys : ∀ name declaration, objectTypes name = some declaration →
      declaration.key ≠ redactionsKey)
    (run : projectGraphSnapshot objectTypes request linkEvidence snapshot = .ok projected)
    {record : ObjectRecord} (isObject : record ∈ snapshot.objects)
    (hidden : IdHidden objectTypes request record) : record.id ∉ projected.ids := by
  obtain ⟨unique, projectedFrom, _⟩ := projectGraphSnapshot_eq_ok run
  intro isShown
  obtain ⟨object, isProjected, sameId⟩ := List.mem_map.1 isShown
  obtain ⟨source, isSource, comes⟩ := exists_source projectedFrom isProjected
  obtain ⟨declaration, isDeclared, _, outside | ⟨isId, isVisible⟩⟩ := comes.values
  · exact outside (sameId ▸ List.mem_map_of_mem isObject)
  · obtain rfl : record = source :=
      List.inj_on_of_nodup_map unique isObject isSource (sameId.symm.trans isId)
    exact isVisible (keyRedacted_of_hidden isDeclared hidden (keys _ _ isDeclared))

/-! ## The theorem -/

/-- **The projection does not interfere.** Two graphs that the request cannot tell apart, and in which
the same alias names are ids, have equal projections. No projection has the id of an object with a
hidden key, as an object or as an end of a link, and a value the request may not see is never there. -/
theorem projection_noninterferent (objectTypes : String → Option ObjectType)
    (request : ProjectionRequest) (linkEvidence : Properties → Except String Properties)
    (keys : ∀ name declaration, objectTypes name = some declaration →
      declaration.key ≠ redactionsKey) :
    (∀ snapshot other : GraphSnapshot, Indistinguishable objectTypes request snapshot other →
      (∀ index suffix, aliasName index suffix ∈ snapshot.ids ↔ aliasName index suffix ∈ other.ids) →
        projectGraphSnapshot objectTypes request linkEvidence snapshot =
          projectGraphSnapshot objectTypes request linkEvidence other) ∧
    ∀ snapshot projected : GraphSnapshot,
      projectGraphSnapshot objectTypes request linkEvidence snapshot = .ok projected →
        (∀ record ∈ snapshot.objects, IdHidden objectTypes request record →
          record.id ∉ projected.ids ∧
            ∀ link ∈ projected.links, link.fromId ≠ record.id ∧ link.toId ≠ record.id) ∧
        ∀ object ∈ projected.objects, ∀ property, property ≠ redactionsKey →
          PropertyHidden objectTypes request object.objectType property →
            getProperty object.properties property ∈ [none, some (.str redactedPlaceholder)] := by
  refine ⟨fun _ _ same aliases => same.projected_eq keys aliases, ?_⟩
  intro snapshot projected run
  obtain ⟨_, projectedFrom, closed⟩ := projectGraphSnapshot_eq_ok run
  constructor
  · intro record isObject hidden
    have notShown := hiddenId_notMem keys run isObject hidden
    refine ⟨notShown, ?_⟩
    intro link isLink
    obtain ⟨fromShown, toShown⟩ := closed link isLink
    exact ⟨fun isFrom => notShown (isFrom ▸ fromShown), fun isTo => notShown (isTo ▸ toShown)⟩
  · intro object isProjected property apart hidden
    obtain ⟨record, _, comes⟩ := exists_source projectedFrom isProjected
    obtain ⟨declaration, isDeclared, isValues, _⟩ := comes.values
    rw [isValues]
    exact getProperty_hidden (hidden declaration (comes.objectType ▸ isDeclared)) apart

/-- A virtual machine, whose name only an owner may see. -/
def machineType : ObjectType where
  key := "name"
  properties := fun property =>
    if property = "name" then some { accessScope := .owner } else none

def machineGraph (id : String) : GraphSnapshot where
  objects := [{ id := id, objectType := "Machine", properties := [("name", .str id)] }]

/-- The registry of the two graphs below. -/
def machineTypes (name : String) : Option ObjectType :=
  if name = "Machine" then some machineType else none

theorem machineTypes_keys (name : String) (declaration : ObjectType)
    (isDeclared : machineTypes name = some declaration) : declaration.key ≠ redactionsKey := by
  unfold machineTypes at isDeclared
  split at isDeclared
  · cases isDeclared
    decide
  · cases isDeclared

/-- **One machine with a hidden name has the same shape under every name.** -/
theorem machineGraph_indistinguishable (id id' : String) :
    Indistinguishable machineTypes { callerRole := .reader } (machineGraph id)
      (machineGraph id') := by
  have hidden : ∀ declaration, machineTypes "Machine" = some declaration →
      (redaction declaration { callerRole := .reader } "name").isSome = true := by
    intro declaration isDeclared
    cases isDeclared
    decide
  refine ⟨.cons ⟨rfl, rfl, rfl, .cons ⟨rfl, .inl hidden⟩ .nil, .inl ?_⟩ .nil, ?_, .nil, rfl, rfl, rfl,
    rfl⟩
  · intro declaration isDeclared
    refine ⟨?_, ?_⟩
    · cases isDeclared
      exact List.mem_singleton.2 rfl
    · cases isDeclared
      exact hidden machineType rfl
  · intro place place'
    cases place <;> cases place' <;> simp [GraphSnapshot.ids, machineGraph]

theorem le_length_aliasName (index suffix : ℕ) : 16 ≤ (aliasName index suffix).length := by
  have base : "redacted-object-".length = 16 := rfl
  have first : 16 ≤ (aliasName index 0).length := by
    show 16 ≤ ("redacted-object-" ++ Nat.repr index).length
    rw [String.length_append, base]
    omega
  cases suffix with
  | zero => exact first
  | succ suffix => exact first.trans (length_aliasName_zero_lt index suffix).le

theorem projection_noninterferent_machine :
    projectGraphSnapshot machineTypes { callerRole := .reader } .ok (machineGraph "vm-1") =
      projectGraphSnapshot machineTypes { callerRole := .reader } .ok (machineGraph "vm-2") := by
  refine (projection_noninterferent machineTypes _ .ok machineTypes_keys).1 _ _
    (machineGraph_indistinguishable _ _) ?_
  intro index suffix
  have long := le_length_aliasName index suffix
  have notFirst : aliasName index suffix ≠ "vm-1" := by
    intro same
    have short : "vm-1".length = 4 := rfl
    rw [same, short] at long
    omega
  have notSecond : aliasName index suffix ≠ "vm-2" := by
    intro same
    have short : "vm-2".length = 4 := rfl
    rw [same, short] at long
    omega
  exact iff_of_false (mt List.mem_singleton.1 notFirst) (mt List.mem_singleton.1 notSecond)

/-- **A hidden id that is an alias name is seen**: the alias of its object is another one. -/
theorem alias_interferes :
    Indistinguishable machineTypes { callerRole := .reader } (machineGraph "vm-1")
      (machineGraph "redacted-object-1") ∧
    (projectGraphSnapshot machineTypes { callerRole := .reader } .ok (machineGraph "vm-1")).map
        GraphSnapshot.ids = .ok ["redacted-object-1"] ∧
    (projectGraphSnapshot machineTypes { callerRole := .reader } .ok
      (machineGraph "redacted-object-1")).map GraphSnapshot.ids =
        .ok ["redacted-object-1-alias-1"] :=
  ⟨machineGraph_indistinguishable _ _, by decide +kernel, by decide +kernel⟩

end Fdai.Core.Ontology
