import Mathlib.Data.List.Sort
import Mathlib.Data.String.Basic
import Fdai.Providers.Checks
import Fdai.Providers.Value

/-!
# Configurations

The frozen intent of some resources, and what was observed of them.

* `JsonValue` — a frozen value: `_freeze` puts the keys of a mapping in order.
* `ConfigurationResource` — a resource, with the attributes that were not observed.
* `FrozenConfigurationBaseline`, `ConfigurationObservation` — what is intended and what was seen.

A mapping is kept with its keys in order, as it is frozen. Texts are lowered by a parameter, since that
is a matter of the Unicode tables.
-/

namespace Fdai.Core.Detection

/-- A `JsonValue`. -/
inductive JsonValue where
  | null
  | bool (value : Bool)
  | int (value : ℤ)
  | float (value : ℚ)
  | str (value : String)
  | list (items : List JsonValue)
  | mapping (entries : List (String × JsonValue))

/-- The keys of a mapping are in order. -/
def InOrder (entries : List (String × JsonValue)) : Prop :=
  (entries.map Prod.fst).Pairwise (· < ·)

mutual

/-- A value is frozen: the keys of every mapping in it are in order. -/
def JsonValue.Frozen : JsonValue → Prop
  | .list items => itemsFrozen items
  | .mapping entries => InOrder entries ∧ entriesFrozen entries
  | _ => True

def itemsFrozen : List JsonValue → Prop
  | [] => True
  | item :: items => item.Frozen ∧ itemsFrozen items

def entriesFrozen : List (String × JsonValue) → Prop
  | [] => True
  | (_, value) :: entries => value.Frozen ∧ entriesFrozen entries

end

inductive EvidenceCompleteness where
  | complete | partly
  deriving DecidableEq

/-- A `ConfigurationResource`, as its constructor leaves it: the attributes are frozen, and none of
them is also unknown or unauthorized. -/
structure ConfigurationResource where
  localName : String
  resourceType : String
  region : String
  attributes : List (String × JsonValue)
  unknownAttributes : List String
  unauthorizedAttributes : List String
  frozen : (JsonValue.mapping attributes).Frozen
  observed : ∀ name ∈ attributes.map Prod.fst,
    name ∉ unknownAttributes ∧ name ∉ unauthorizedAttributes

def ConfigurationResource.key (resource : ConfigurationResource) : String × String :=
  (resource.resourceType, resource.localName)

structure ConfigurationLink where
  source : String
  relation : String
  target : String

def ConfigurationLink.key (link : ConfigurationLink) : String × String × String :=
  (link.source, link.relation, link.target)

/-- A `FrozenConfigurationBaseline`: its resources have different keys, and so have its links. -/
structure FrozenConfigurationBaseline where
  version : String
  createdAt : ℤ
  scope : String
  source : String
  documentSha256 : String
  resources : List ConfigurationResource
  links : List ConfigurationLink
  allowedExceptions : List String
  unknownItems : List String
  uniqueResources : (resources.map ConfigurationResource.key).Nodup
  uniqueLinks : (links.map ConfigurationLink.key).Nodup

/-- A `ConfigurationObservation`: its resources have different keys, and so have its links. -/
structure ConfigurationObservation where
  scope : String
  observedAt : ℤ
  source : String
  completeness : EvidenceCompleteness
  resources : List ConfigurationResource
  links : List ConfigurationLink
  uniqueResources : (resources.map ConfigurationResource.key).Nodup
  uniqueLinks : (links.map ConfigurationLink.key).Nodup

end Fdai.Core.Detection
