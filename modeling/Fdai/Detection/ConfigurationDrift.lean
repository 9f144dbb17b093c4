import Mathlib.Data.List.Dedup
import Fdai.Detection.ConfigurationModels

/-!
# Configuration drift

A frozen baseline is compared with an observation, without inference: what is not known is not a
difference, and it is not a match either.

* `strictJsonEqual` — the comparison of two values.
* `compareConfiguration` — the findings, and the verdict over them.
-/

namespace Fdai.Core.Detection

inductive DriftType where
  | added | removed | changed | unchanged | unknown | unauthorized

inductive DriftVerdict where
  | passed | partly | blocked | failed | notApplicable
  deriving DecidableEq

structure DriftFinding where
  target : String
  field : String
  baselineValue : JsonValue
  actualValue : JsonValue
  verdict : DriftVerdict
  driftType : DriftType
  source : String

/-- `ConfigurationDriftReport`: the digest of the baseline is kept as the baseline. -/
structure ConfigurationDriftReport where
  baselineVersion : String
  baselineSha256 : FrozenConfigurationBaseline
  scope : String
  observedAt : ℤ
  verdict : DriftVerdict
  findings : List DriftFinding

/-- `==`, where neither side is a boolean and not both are mappings or lists. -/
def scalarEqual : JsonValue → JsonValue → Bool
  | .null, .null => true
  | .str left, .str right => left = right
  | .int left, .int right => left = right
  | .int left, .float right => left = right
  | .float left, .int right => left = right
  | .float left, .float right => left = right
  | _, _ => false

mutual

def strictJsonEqual : JsonValue → JsonValue → Bool
  | .bool left, right =>
    match right with
    | .bool right => left = right
    | _ => false
  | .mapping left, right =>
    match right with
    | .mapping right => (left.map Prod.fst).all (· ∈ right.map Prod.fst) &&
        (right.map Prod.fst).all (· ∈ left.map Prod.fst) && entriesEqual left right
    | _ => false
  | .list left, right =>
    match right with
    | .list right => left.length = right.length && itemsEqual left right
    | _ => false
  | left, right => scalarEqual left right

/-- The items at the same places are equal. -/
def itemsEqual : List JsonValue → List JsonValue → Bool
  | left :: lefts, rights =>
    match rights with
    | right :: rights => strictJsonEqual left right && itemsEqual lefts rights
    | [] => true
  | [], _ => true

/-- The entries are equal to those of the same keys. -/
def entriesEqual : List (String × JsonValue) → List (String × JsonValue) → Bool
  | (key, left) :: lefts, rights =>
    (match rights.lookup key with
      | some right => strictJsonEqual left right
      | none => false) && entriesEqual lefts rights
  | [], _ => true

end

/-! ## Findings -/

def valueFinding (target field : String) (baselineValue actualValue : JsonValue) (source : String) :
    DriftFinding where
  target := target
  field := field
  baselineValue := baselineValue
  actualValue := actualValue
  verdict := if strictJsonEqual baselineValue actualValue then .passed else .failed
  driftType := if strictJsonEqual baselineValue actualValue then .unchanged else .changed
  source := source

/-- A finding of what only the observation has. -/
def addedFinding (target field : String) (actualValue : JsonValue) (source : String) :
    DriftFinding where
  target := target
  field := field
  baselineValue := .str "absent"
  actualValue := actualValue
  verdict := .failed
  driftType := .added
  source := source

/-- A finding of what only the baseline has: an observation that is not complete cannot tell. -/
def missingFinding (completeness : EvidenceCompleteness) (target field source : String) :
    DriftFinding where
  target := target
  field := field
  baselineValue := .str "present"
  actualValue := .str (if completeness = .complete then "absent" else "unknown")
  verdict := if completeness = .complete then .failed else .blocked
  driftType := if completeness = .complete then .removed else .unknown
  source := source

/-- A finding of an attribute that was not observed. -/
def unobservedFinding (target field : String) (baselineValue : JsonValue) (actualValue : String)
    (driftType : DriftType) (source : String) : DriftFinding where
  target := target
  field := field
  baselineValue := baselineValue
  actualValue := .str actualValue
  verdict := .blocked
  driftType := driftType
  source := source

/-- The finding of an attribute of the baseline. -/
def attributeFinding (target : String) (actual : ConfigurationResource) (source : String)
    (wanted : String × JsonValue) : DriftFinding :=
  if wanted.1 ∈ actual.unauthorizedAttributes then
    unobservedFinding target wanted.1 wanted.2 "unauthorized" .unauthorized source
  else if wanted.1 ∈ actual.unknownAttributes then
    unobservedFinding target wanted.1 wanted.2 "unknown" .unknown source
  else
    match actual.attributes.lookup wanted.1 with
    | none => unobservedFinding target wanted.1 wanted.2 "unknown" .unknown source
    | some value => valueFinding target wanted.1 wanted.2 value source

/-- `f"{resource_key[0]}:{resource_key[1]}"`. -/
def resourceTarget (key : String × String) : String := key.1 ++ ":" ++ key.2

def compareResource (baseline actual : ConfigurationResource) (source : String) :
    List DriftFinding :=
  let target := resourceTarget baseline.key
  valueFinding target "region" (.str baseline.region) (.str actual.region) source ::
    (baseline.attributes.map (attributeFinding target actual source) ++
      (actual.attributes.filter (·.1 ∉ baseline.attributes.map Prod.fst)).map fun extra =>
        addedFinding target extra.1 extra.2 source)

/-- Pairs in order. -/
def keyLe (a b : String × String) : Prop := a.1 < b.1 ∨ (a.1 = b.1 ∧ a.2 ≤ b.2)

instance : DecidableRel keyLe := fun _ _ => inferInstanceAs (Decidable (_ ∨ _))

/-- Triples in order. -/
def linkLe (a b : String × String × String) : Prop := a.1 < b.1 ∨ (a.1 = b.1 ∧ keyLe a.2 b.2)

instance : DecidableRel linkLe := fun _ _ => inferInstanceAs (Decidable (_ ∨ _))

def resourceFindings (baseline : FrozenConfigurationBaseline)
    (observation : ConfigurationObservation) (key : String × String) : List DriftFinding :=
  match baseline.resources.find? (·.key = key), observation.resources.find? (·.key = key) with
  | none, some _ =>
    [addedFinding (resourceTarget key) "presence" (.str "present") observation.source]
  | some _, none =>
    [missingFinding observation.completeness (resourceTarget key) "presence" observation.source]
  | some wanted, some observed => compareResource wanted observed observation.source
  | none, none => []

/-- `f"{link_key[0]} {link_key[1]} {link_key[2]}"`. -/
def linkTarget (key : String × String × String) : String := key.1 ++ " " ++ key.2.1 ++ " " ++ key.2.2

def linkFinding (baseline : FrozenConfigurationBaseline) (observation : ConfigurationObservation)
    (key : String × String × String) : DriftFinding :=
  if key ∉ baseline.links.map ConfigurationLink.key then
    addedFinding (linkTarget key) "topology" (.str "present") observation.source
  else if key ∉ observation.links.map ConfigurationLink.key then
    missingFinding observation.completeness (linkTarget key) "topology" observation.source
  else {
    target := linkTarget key
    field := "topology"
    baselineValue := .str "present"
    actualValue := .str "present"
    verdict := .passed
    driftType := .unchanged
    source := observation.source }

def baselineContextFindings (baseline : FrozenConfigurationBaseline) : List DriftFinding :=
  (baseline.allowedExceptions.map fun item => {
    target := "baseline-exception"
    field := "allowed_exception"
    baselineValue := .str item
    actualValue := .str "not-applicable"
    verdict := .notApplicable
    driftType := .unchanged
    source := baseline.source }) ++
  baseline.unknownItems.map fun item => {
    target := "baseline-unknown"
    field := "unknown_item"
    baselineValue := .str item
    actualValue := .str "unknown"
    verdict := .blocked
    driftType := .unknown
    source := baseline.source }

/-- The verdict over some findings. -/
def reportVerdict (findings : List DriftFinding) : DriftVerdict :=
  let hasFailed := findings.any (·.verdict = .failed)
  let hasBlocked := findings.any (·.verdict = .blocked)
  if hasFailed && hasBlocked then .partly
  else if hasFailed then .failed
  else if hasBlocked then .blocked
  else .passed

def report (baseline : FrozenConfigurationBaseline) (observation : ConfigurationObservation)
    (findings : List DriftFinding) : ConfigurationDriftReport where
  baselineVersion := baseline.version
  baselineSha256 := baseline
  scope := baseline.scope
  observedAt := observation.observedAt
  verdict := reportVerdict findings
  findings := findings

def scopeFinding (baseline : FrozenConfigurationBaseline) (observation : ConfigurationObservation) :
    DriftFinding where
  target := observation.scope
  field := "scope"
  baselineValue := .str baseline.scope
  actualValue := .str observation.scope
  verdict := .blocked
  driftType := .unauthorized
  source := observation.source

/-- **`compare_configuration`.** -/
def compareConfiguration (baseline : FrozenConfigurationBaseline)
    (observation : ConfigurationObservation) : ConfigurationDriftReport :=
  if observation.scope ≠ baseline.scope then
    report baseline observation [scopeFinding baseline observation]
  else
    let keys := (baseline.resources.map ConfigurationResource.key ++
      observation.resources.map ConfigurationResource.key).dedup.insertionSort keyLe
    let links := (baseline.links.map ConfigurationLink.key ++
      observation.links.map ConfigurationLink.key).dedup.insertionSort linkLe
    report baseline observation (keys.flatMap (resourceFindings baseline observation) ++
      links.map (linkFinding baseline observation) ++ baselineContextFindings baseline)

end Fdai.Core.Detection
