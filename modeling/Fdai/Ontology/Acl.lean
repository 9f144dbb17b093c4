import Mathlib.Data.Finset.Sort
import Mathlib.Data.String.Basic
import Std.Data.String.ToNat
import Fdai.Providers.Value

/-!
# The property ACL of an ontology graph

A graph is projected for a caller: values the caller may not see are replaced by a placeholder, and an
object whose key property is redacted gets an alias, in its record and in every link.

* `redactProperties`, `serializeProjection` — one property bag.
* `allocateRedactedAlias` — the first name of a redacted object that no object has.
* `projectGraphSnapshot` — a whole graph.

A registry and a property declaration are mappings that are only looked up, so they are functions.
The strict decoding of the observation envelope of a link is a parameter: it is a function of the
properties of this link.
-/

namespace Fdai.Core.Ontology

inductive CeilingRole where
  | reader | contributor | approver | owner

def CeilingRole.value : CeilingRole → String
  | .reader => "reader"
  | .contributor => "contributor"
  | .approver => "approver"
  | .owner => "owner"

/-- `CEILING_ROLE_RANK`. -/
def CeilingRole.rank : CeilingRole → ℕ
  | .reader => 0
  | .contributor => 1
  | .approver => 2
  | .owner => 3

/-- What the ACL reads of a `PropertyDecl`. -/
structure PropertyDecl where
  accessScope : CeilingRole := .reader
  purposeBinding : List String := []

/-- What the ACL reads of an `OntologyObjectType`. -/
structure ObjectType where
  key : String
  properties : String → Option PropertyDecl

structure ProjectionRequest where
  callerRole : CeilingRole
  declaredPurposes : Finset String := ∅

inductive RedactionReason where
  | accessScope | purposeBinding | undeclaredProperty

def RedactionReason.value : RedactionReason → String
  | .accessScope => "access_scope"
  | .purposeBinding => "purpose_binding"
  | .undeclaredProperty => "undeclared_property"

structure RedactedField where
  reason : RedactionReason
  requiredRole : Option CeilingRole := none
  requiredPurposes : List String := []

local instance textsTrans : IsTrans String (· ≤ ·) := inferInstance

local instance textsAntisymm : @Std.Antisymm String (· ≤ ·) := inferInstance

def redaction (objectType : ObjectType) (request : ProjectionRequest) (property : String) :
    Option RedactedField :=
  match objectType.properties property with
  | none => some ⟨.undeclaredProperty, none, []⟩
  | some declaration =>
    if request.callerRole.rank < declaration.accessScope.rank then
      some ⟨.accessScope, some declaration.accessScope, []⟩
    else
      let allowed := declaration.purposeBinding.toFinset
      if declaration.purposeBinding ≠ [] ∧ allowed ∩ request.declaredPurposes = ∅ then
        some ⟨.purposeBinding, none, allowed.sort (· ≤ ·)⟩
      else none

/-- A property bag, in the order of its keys. -/
abbrev Properties := List (String × Value)

def redactProperties (objectType : ObjectType) (properties : Properties)
    (request : ProjectionRequest) : List (String × (RedactedField ⊕ Value)) :=
  properties.map fun (property, value) =>
    match redaction objectType request property with
    | some field => (property, .inl field)
    | none => (property, .inr value)

def redactedPlaceholder : String := "[redacted]"

def RedactedField.toValue (field : RedactedField) : Value := .mapping [
  (.str "reason", .str field.reason.value),
  (.str "required_role", (field.requiredRole.map fun role => .str role.value).getD .null),
  (.str "required_purposes", .list (field.requiredPurposes.map .str))]

/-- `serialize_projection`: the values, and the redactions. -/
def serializeProjection (projected : List (String × (RedactedField ⊕ Value))) :
    Properties × List (Value × Value) :=
  (projected.map fun (property, value) =>
      (property, match value with
        | .inl _ => .str redactedPlaceholder
        | .inr value => value),
    projected.filterMap fun (property, value) =>
      match value with
      | .inl field => some (.str property, field.toValue)
      | .inr _ => none)

/-- `values[property] = value`. -/
def setProperty (properties : Properties) (property : String) (value : Value) : Properties :=
  if property ∈ properties.map Prod.fst then
    properties.map fun entry => if entry.1 = property then (property, value) else entry
  else properties ++ [(property, value)]

/-- `values.get(property)`. -/
def getProperty (properties : Properties) (property : String) : Option Value :=
  (properties.find? fun entry => entry.1 = property).map Prod.snd

def redactionsKey : String := "__redactions__"

def projectedValues (objectType : ObjectType) (properties : Properties)
    (request : ProjectionRequest) : Properties :=
  let (values, redactions) :=
    serializeProjection (redactProperties objectType properties request)
  if redactions.isEmpty then values
  else setProperty values redactionsKey (.mapping redactions)

/-! ## Graphs -/

/-- What a type reference pins. -/
structure TypeRef where
  kind : String
  name : String
  version : String
  digest : String

/-- `OntologyObjectRecord`. -/
structure ObjectRecord where
  id : String
  objectType : String
  properties : Properties
  revision : ℕ := 0
  typeRef : Option TypeRef := none

/-- `OntologyLinkRecord`. -/
structure LinkRecord where
  linkType : String
  fromId : String
  toId : String
  properties : Properties := []
  typeRef : Option TypeRef := none

/-- `OntologyGraphSnapshot`. -/
structure GraphSnapshot where
  objects : List ObjectRecord := []
  links : List LinkRecord := []
  truncated : Bool := false
  sourceComplete : Bool := true
  sourceGeneration : Option String := none
  sourceIncompleteReason : Option String := none

/-- The ids of the objects. -/
def GraphSnapshot.ids (snapshot : GraphSnapshot) : List String :=
  snapshot.objects.map ObjectRecord.id

/-- The names that are tried for the redacted object at a place. -/
def aliasName (index : ℕ) : ℕ → String
  | 0 => "redacted-object-" ++ Nat.repr index
  | suffix + 1 => "redacted-object-" ++ Nat.repr index ++ "-alias-" ++ Nat.repr (suffix + 1)

/-- The loop of `_allocate_redacted_alias`, with so many names still to try. -/
def firstFree (taken : List String) (index : ℕ) : ℕ → ℕ → String
  | 0, suffix => aliasName index suffix
  | fuel + 1, suffix =>
    if aliasName index suffix ∈ taken then firstFree taken index fuel (suffix + 1)
    else aliasName index suffix

/-- `_allocate_redacted_alias`. One name more than there are taken ones is enough. -/
def allocateRedactedAlias (index : ℕ) (reservedIds allocatedAliases : List String) : String :=
  firstFree (reservedIds ++ allocatedAliases) index (reservedIds.length + allocatedAliases.length) 0

/-- Whether the key property shows as redacted. -/
def keyRedacted (objectType : ObjectType) (values : Properties) : Bool :=
  match getProperty values objectType.key with
  | some (.str text) => text = redactedPlaceholder
  | _ => false

section Projection

variable (objectTypes : String → Option ObjectType) (request : ProjectionRequest)
  (linkEvidence : Properties → Except String Properties)

/-- The loop over the objects, from the given place on. -/
def projectObjects (reservedIds : List String) :
    ℕ → List String → List ObjectRecord → Except String (List ObjectRecord)
  | _, _, [] => .ok []
  | index, allocatedAliases, record :: rest =>
    match objectTypes record.objectType with
    | none => .error ("missing ObjectType declaration for projection: " ++ record.objectType)
    | some declaration => do
      let values := projectedValues declaration record.properties request
      if keyRedacted declaration values then
        let projectedId := allocateRedactedAlias index reservedIds allocatedAliases
        let others ← projectObjects reservedIds (index + 1) (allocatedAliases ++ [projectedId]) rest
        return { record with id := projectedId, properties := values } :: others
      else
        let others ← projectObjects reservedIds (index + 1) allocatedAliases rest
        return { record with properties := values } :: others

/-- A link between projected objects, if both of its ends are there. -/
def projectLink (projectedIds : List (String × String)) (link : LinkRecord) :
    Except String (Option LinkRecord) :=
  match projectedIds.lookup link.fromId, projectedIds.lookup link.toId with
  | some fromId, some toId => do
    let properties ← linkEvidence link.properties
    return some { link with fromId := fromId, toId := toId, properties := properties }
  | _, _ => .ok none

def validateProjectedSnapshot (snapshot : GraphSnapshot) : Except String GraphSnapshot :=
  if ¬ snapshot.ids.Nodup then
    .error "ontology projection object aliases MUST be unique"
  else if ∃ link ∈ snapshot.links, link.fromId ∉ snapshot.ids ∨ link.toId ∉ snapshot.ids then
    .error "ontology projection links MUST close over visible objects"
  else .ok snapshot

def projectGraphSnapshot (snapshot : GraphSnapshot) : Except String GraphSnapshot :=
  if ¬ snapshot.ids.Nodup then
    .error "ontology projection source object ids MUST be unique"
  else do
    let objects ← projectObjects objectTypes request snapshot.ids 1 [] snapshot.objects
    let projectedIds := snapshot.ids.zip (objects.map ObjectRecord.id)
    let links ← snapshot.links.mapM (projectLink linkEvidence projectedIds)
    validateProjectedSnapshot { snapshot with objects := objects, links := links.filterMap id }

end Projection

end Fdai.Core.Ontology
