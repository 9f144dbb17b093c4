import Mathlib.Data.List.Sort
import Mathlib.Data.String.Basic
import Fdai.Concurrency.Register
import Fdai.MscpProfile.EffectVerification

/-!
# Pending effects

An expected effect waits in a durable row until an observer compares it with what happened. Observers
claim it for a while, under a generation that fences off the earlier ones, and one of them completes it.

* `PendingEffectRecord` — the record; `toMapping`, `fromMapping` — the row it is kept as.
* `register`, `claim`, `complete` — the methods, over rows under compare-and-set.
* `listReady` — the rows that wait for an observer.

In a row, a timestamp is kept as the instant that is printed and a digest as the content it is of. An
effect is known in the store by the hash of its prediction id, so by the id.
-/

namespace Fdai.Core.MscpProfile

open Fdai.Concurrency Program

inductive PendingEffectStatus where
  | pending | claimed | completed
  deriving DecidableEq

namespace PendingEffectStatus

def value : PendingEffectStatus → String
  | .pending => "pending"
  | .claimed => "claimed"
  | .completed => "completed"

def all : List PendingEffectStatus := [.pending, .claimed, .completed]

end PendingEffectStatus

/-- What `_effect_digest` is of. -/
structure EffectContent where
  predictionId : String
  targetRef : String
  metric : String
  acceptableMin : Number
  acceptableMax : Number
  predictedAt : ℤ
  observationDeadline : ℤ
  actionType : String
  environment : String
  observerVersion : String
  deriving DecidableEq

def effectDigest (expected : ExpectedEffectFields) (actionType environment observerVersion : String) :
    EffectContent :=
  ⟨expected.predictionId, expected.targetRef, expected.metric, expected.acceptableMin,
    expected.acceptableMax, expected.predictedAt, expected.observationDeadline, actionType,
    environment, observerVersion⟩

/-- The fields of a `PendingEffectRecord`. -/
structure PendingEffectFields where
  expected : ExpectedEffect
  actionType : String
  environment : String
  observerVersion : String
  effectDigest : EffectContent
  status : PendingEffectStatus := .pending
  revision : ℤ := 1
  ownerId : Option String := none
  ownerGeneration : ℤ := 0
  leaseUntil : Option ℤ := none
  completedAt : Option ℤ := none
  verificationStatus : Option EffectVerificationStatus := none
  verificationReason : Option EffectVerificationReason := none

/-- `_require_owner`, as a check. -/
def ownerBounded (owner : String) : Bool := !isBlank owner && owner.length ≤ 256

/-- The part of `PendingEffectRecord.__post_init__` that depends on the status. -/
def PendingEffectFields.statusChecks (fields : PendingEffectFields) : List (Bool × String) :=
  match fields.status with
  | .pending => [ (fields.ownerId.isNone && fields.leaseUntil.isNone && fields.completedAt.isNone,
        "pending effect MUST NOT carry ownership or completion"),
      (fields.verificationStatus.isNone && fields.verificationReason.isNone,
        "pending effect MUST NOT carry verification")]
  | .claimed => [ (fields.ownerId.isSome && fields.leaseUntil.isSome && fields.completedAt.isNone,
        "claimed effect requires one active owner lease"),
      (fields.verificationStatus.isNone && fields.verificationReason.isNone,
        "claimed effect MUST NOT carry verification"),
      (fields.ownerId.all ownerBounded, "owner_id MUST be bounded non-empty text")]
  | .completed => [ (fields.ownerId.isSome && fields.leaseUntil.isSome && fields.completedAt.isSome,
        "completed effect requires retained ownership and completion"),
      (fields.ownerId.all ownerBounded, "owner_id MUST be bounded non-empty text"),
      (fields.completedAt.all fun completed => fields.leaseUntil.all fun lease =>
          completed ≤ lease,
        "completed effect MUST remain inside its owner lease"),
      (fields.verificationStatus.isSome && fields.verificationReason.isSome,
        "completed effect requires one verification result")]

/-- The part of `PendingEffectRecord.__post_init__` that is the same for every status. -/
def PendingEffectFields.contentChecks (fields : PendingEffectFields) : List (Bool × String) := [
  (!isBlank fields.actionType && fields.actionType.length ≤ 256,
    "PendingEffectRecord.action_type MUST be bounded non-empty text"),
  (!isBlank fields.environment && fields.environment.length ≤ 256,
    "PendingEffectRecord.environment MUST be bounded non-empty text"),
  (!isBlank fields.observerVersion && fields.observerVersion.length ≤ 256,
    "PendingEffectRecord.observer_version MUST be bounded non-empty text"),
  (1 ≤ fields.revision && 0 ≤ fields.ownerGeneration,
    "pending effect revisions MUST be non-negative and current"),
  (fields.effectDigest = MscpProfile.effectDigest fields.expected.val fields.actionType
      fields.environment fields.observerVersion,
    "pending effect digest does not match immutable content")]

/-- `PendingEffectRecord.__post_init__`. -/
def PendingEffectFields.check (fields : PendingEffectFields) : Except String Unit :=
  validate (fields.contentChecks ++ fields.statusChecks)

abbrev PendingEffectRecord := Valid PendingEffectFields.check

/-! ## Rows -/

inductive RowValue where
  | null
  | str (value : String)
  | int (value : ℤ)
  | float (value : PyFloat)
  | time (instant : ℤ)
  | digest (content : EffectContent)
  deriving DecidableEq

/-- A row: a mapping with text keys. -/
abbrev Row := List (String × RowValue)

def schemaVersion : String := "1.1.0"

def Number.toRow : Number → RowValue
  | .int value => .int value
  | .float value => .float value

/-- A field that may be absent. -/
def optionalRow {α : Type} (toRow : α → RowValue) (field : Option α) : RowValue :=
  (field.map toRow).getD .null

def PendingEffectFields.toMapping (fields : PendingEffectFields) : Row := [
  ("schema_version", .str schemaVersion),
  ("prediction_id", .str fields.expected.val.predictionId),
  ("target_ref", .str fields.expected.val.targetRef),
  ("metric", .str fields.expected.val.metric),
  ("acceptable_min", fields.expected.val.acceptableMin.toRow),
  ("acceptable_max", fields.expected.val.acceptableMax.toRow),
  ("predicted_at", .time fields.expected.val.predictedAt),
  ("observation_deadline", .time fields.expected.val.observationDeadline),
  ("action_type", .str fields.actionType),
  ("environment", .str fields.environment),
  ("observer_version", .str fields.observerVersion),
  ("effect_digest", .digest fields.effectDigest),
  ("status", .str fields.status.value),
  ("revision", .int fields.revision),
  ("owner_id", optionalRow .str fields.ownerId),
  ("owner_generation", .int fields.ownerGeneration),
  ("lease_until", optionalRow .time fields.leaseUntil),
  ("completed_at", optionalRow .time fields.completedAt),
  ("verification_status", optionalRow (.str ·.value) fields.verificationStatus),
  ("verification_reason", optionalRow (.str ·.value) fields.verificationReason)]

def baseKeys : List String := ["schema_version", "prediction_id", "target_ref", "metric",
  "acceptable_min", "acceptable_max", "predicted_at", "observation_deadline", "action_type",
  "environment", "observer_version", "effect_digest", "status", "revision", "owner_id",
  "owner_generation", "lease_until", "completed_at"]

def verificationKeys : List String := ["verification_status", "verification_reason"]

/-- The keys that a schema has. -/
def expectedKeys (row : Row) : List String :=
  if row.lookup "schema_version" = some (.str schemaVersion) then baseKeys ++ verificationKeys
  else if row.lookup "schema_version" = some (.str "1.0.0") then baseKeys
  else []

namespace Row

variable (row : Row) (key : String)

/-- `value.get(key)`. -/
def get : RowValue := (List.lookup key row).getD .null

def string : Except String String :=
  match row.get key with
  | .str value =>
    if value = "" then .error ("pending effect " ++ key ++ " MUST be non-empty text") else .ok value
  | _ => .error ("pending effect " ++ key ++ " MUST be non-empty text")

def optionalString : Except String (Option String) :=
  match row.get key with
  | .null => .ok none
  | .str value =>
    if value = "" then .error ("pending effect " ++ key ++ " MUST be text or null")
    else .ok (some value)
  | _ => .error ("pending effect " ++ key ++ " MUST be text or null")

def number : Except String PyFloat :=
  match row.get key with
  | .int value => .ok (Number.int value).toFloat
  | .float value => .ok value
  | _ => .error ("pending effect " ++ key ++ " MUST be numeric")

def integer : Except String ℤ :=
  match row.get key with
  | .int value => .ok value
  | _ => .error ("pending effect " ++ key ++ " MUST be an integer")

def instant : Except String ℤ :=
  match row.get key with
  | .time value => .ok value
  | _ => .error ("pending effect " ++ key ++ " MUST be non-empty text")

def optionalInstant : Except String (Option ℤ) :=
  match row.get key with
  | .null => .ok none
  | .time value => .ok (some value)
  | _ => .error ("pending effect " ++ key ++ " MUST be non-empty text")

/-- `_string`, of a digest. -/
def digestText : Except String EffectContent :=
  match row.get key with
  | .digest content => .ok content
  | _ => .error ("pending effect " ++ key ++ " MUST be a SHA-256 digest")

/-- An enumeration, by the texts of its members. -/
def enumOf {α : Type} (all : List α) (value : α → String) (text : String) : Except String α :=
  match all.find? fun member => value member = text with
  | some member => .ok member
  | none => .error (text ++ " is not a valid member")

def optionalEnum {α : Type} (all : List α) (value : α → String) : Except String (Option α) :=
  match row.get key with
  | .null => .ok none
  | .str text => (enumOf all value text).map some
  | _ => .error ("pending effect " ++ key ++ " MUST be text or null")

end Row

def fromMapping (row : Row) : Except String PendingEffectRecord := do
  if ¬ ((row.map Prod.fst).all (· ∈ expectedKeys row) ∧
      (expectedKeys row).all (· ∈ row.map Prod.fst)) then
    throw "pending effect state has an unsupported schema"
  else
    let predictionId ← row.string "prediction_id"
    let targetRef ← row.string "target_ref"
    let metric ← row.string "metric"
    let acceptableMin ← row.number "acceptable_min"
    let acceptableMax ← row.number "acceptable_max"
    let predictedAt ← row.instant "predicted_at"
    let observationDeadline ← row.instant "observation_deadline"
    let expected ← construct ExpectedEffectFields.check ⟨predictionId, targetRef, metric,
      .float acceptableMin, .float acceptableMax, predictedAt, observationDeadline, none⟩
    let actionType ← row.string "action_type"
    let environment ← row.string "environment"
    let observerVersion ← row.string "observer_version"
    let digest ← row.digestText "effect_digest"
    let statusText ← row.string "status"
    let status ← Row.enumOf PendingEffectStatus.all PendingEffectStatus.value statusText
    let revision ← row.integer "revision"
    let ownerId ← row.optionalString "owner_id"
    let ownerGeneration ← row.integer "owner_generation"
    let leaseUntil ← row.optionalInstant "lease_until"
    let completedAt ← row.optionalInstant "completed_at"
    let verificationStatus ← row.optionalEnum "verification_status" EffectVerificationStatus.all
      EffectVerificationStatus.value
    let verificationReason ← row.optionalEnum "verification_reason" EffectVerificationReason.all
      EffectVerificationReason.value
    construct PendingEffectFields.check ⟨expected, actionType, environment, observerVersion, digest,
      status, revision, ownerId, ownerGeneration, leaseUntil, completedAt, verificationStatus,
      verificationReason⟩

/-! ## Methods -/

/-- What the methods raise. -/
inductive PendingEffectError where
  | value (message : String)
  | key (predictionId : String)
  | conflict (message : String)
  | staleRevision (message : String)
  | ownership (message : String)

/-- Raise a `ValueError`. -/
def valueError {α : Type} (result : Except String α) : Except PendingEffectError α :=
  result.mapError .value

/-- `_audit`, and the effect that a registration was asked for: the store does not see that one. -/
structure PendingEffectAudit where
  kind : String
  predictionDigest : String
  effectDigest : EffectContent
  status : PendingEffectStatus
  revision : ℤ
  ownerGeneration : ℤ
  registered : Option ExpectedEffect := none

def audit (event : String) (record : PendingEffectFields) (registered : Option ExpectedEffect) :
    PendingEffectAudit :=
  ⟨"mscp.pending_effect." ++ event, record.expected.val.predictionId, record.effectDigest,
    record.status, record.revision, record.ownerGeneration, registered⟩

/-- The calls of an observer. -/
abbrev PendingEffectOp := RegisterOp String Row PendingEffectAudit Empty

/-- A program of an observer. -/
abbrev PendingEffects (α : Type) :=
  Program PendingEffectOp (RegisterOp.Ans Empty.elim) PendingEffectError α

def Row.revision (row : Row) : ℕ :=
  match row.get "revision" with
  | .int revision => revision.toNat
  | _ => 0

/-- What `get` makes of a row. -/
def decodeFound (predictionId : String) : Option Row → Except PendingEffectError PendingEffectRecord
  | none => .error (.key predictionId)
  | some row => valueError (fromMapping row)

def get (predictionId : String) : PendingEffects PendingEffectRecord := do
  let row ← readRecord predictionId
  .done (decodeFound predictionId row)

/-- The record of a registration. -/
def registration (expected : ExpectedEffect) (actionType environment observerVersion : String) :
    PendingEffectFields where
  expected := expected
  actionType := actionType
  environment := environment
  observerVersion := observerVersion
  effectDigest := effectDigest expected.val actionType environment observerVersion

def register (expected : ExpectedEffect) (actionType environment observerVersion : String) :
    PendingEffects PendingEffectRecord := do
  let record ← (.done (valueError (construct PendingEffectFields.check
    (registration expected actionType environment observerVersion))) : PendingEffects _)
  let created ← invoke (.writeIfAbsent expected.val.predictionId record.val.toMapping
    (audit "registered" record.val (some expected)))
  if created then return record
  else
    let existing ← get expected.val.predictionId
    if existing.val.effectDigest ≠ record.val.effectDigest then
      throw (.conflict "prediction identity was reused with different expected effect content")
    else return existing

/-- What a method writes: the record, if its constructor accepts it. -/
def writeUpdated (event : String) (updated : PendingEffectFields) : Except PendingEffectError
      (Decision Row PendingEffectAudit PendingEffectError PendingEffectRecord) := do
  let record ← valueError (construct PendingEffectFields.check updated)
  return .write record.val.toMapping (audit event record.val none) (.ok record)

/-- The record that a claim leaves. -/
def PendingEffectFields.claimedBy (current : PendingEffectFields) (ownerId : String)
    (leaseUntil : ℤ) : PendingEffectFields :=
  { current with
    status := .claimed
    revision := current.revision + 1
    ownerId := some ownerId
    ownerGeneration := current.ownerGeneration + 1
    leaseUntil := some leaseUntil
    completedAt := none }

/-- The record that a completion leaves. -/
def PendingEffectFields.completedBy (current : PendingEffectFields) (completedAt : ℤ)
    (result : EffectVerificationResult) : PendingEffectFields :=
  { current with
    status := .completed
    revision := current.revision + 1
    completedAt := some completedAt
    verificationStatus := some result.status
    verificationReason := some result.reason }

/-- What `claim` decides from a row. -/
def claimDecision (predictionId ownerId : String) (expectedRevision now leaseUntil : ℤ)
    (row : Option Row) :
    Decision Row PendingEffectAudit PendingEffectError PendingEffectRecord :=
  .ofExcept do
    let current ← decodeFound predictionId row
    if current.val.revision ≠ expectedRevision then
      throw (.staleRevision "pending effect revision is stale")
    else if current.val.expected.val.predictedAt > now then
      throw (.ownership "pending effect is not ready to observe")
    else if current.val.status = .completed then
      throw (.ownership "completed effect cannot be claimed")
    else if current.val.status = .claimed && current.val.leaseUntil.any (now < ·) then
      throw (.ownership "pending effect already has an active owner")
    else writeUpdated "claimed" (current.val.claimedBy ownerId leaseUntil)

def claim (predictionId ownerId : String) (expectedRevision now leaseUntil : ℤ) :
    PendingEffects PendingEffectRecord := do
  if !ownerBounded ownerId then throw (.value "owner_id MUST be bounded non-empty text")
  else if leaseUntil ≤ now then throw (.value "lease_until MUST be later than now")
  else if isBlank predictionId then throw (.value "prediction_id MUST be non-empty")
  else
    update Row.revision predictionId
      (claimDecision predictionId ownerId expectedRevision now leaseUntil)
      (.staleRevision "pending effect changed concurrently") 1

/-- What `complete` decides from a row. -/
def completeDecision (predictionId ownerId : String) (ownerGeneration expectedRevision completedAt : ℤ)
    (result : EffectVerificationResult) (row : Option Row) :
    Decision Row PendingEffectAudit PendingEffectError PendingEffectRecord :=
  .ofExcept do
    let current ← decodeFound predictionId row
    if current.val.revision ≠ expectedRevision then
      throw (.staleRevision "pending effect revision is stale")
    else if current.val.status ≠ .claimed ∨ current.val.ownerId ≠ some ownerId ∨
        current.val.ownerGeneration ≠ ownerGeneration ∨
          current.val.leaseUntil.all (· < completedAt) then
      throw (.ownership "pending effect ownership fence is stale")
    else writeUpdated "completed" (current.val.completedBy completedAt result)

def complete (predictionId ownerId : String) (ownerGeneration expectedRevision completedAt : ℤ)
    (result : EffectVerificationResult) : PendingEffects PendingEffectRecord := do
  if !ownerBounded ownerId then throw (.value "owner_id MUST be bounded non-empty text")
  else if isBlank predictionId then throw (.value "prediction_id MUST be non-empty")
  else
    update Row.revision predictionId
      (completeDecision predictionId ownerId ownerGeneration expectedRevision completedAt result)
      (.staleRevision "pending effect changed concurrently") 1

def maxDueRead : ℕ := 10000

/-- Whether a record waits for an observer. -/
def PendingEffectFields.isReady (now : ℤ) (fields : PendingEffectFields) : Bool :=
  fields.expected.val.predictedAt ≤ now && (fields.status = .pending ||
    (fields.status = .claimed && fields.leaseUntil.any (· ≤ now)))

/-- The order of the ready effects: by deadline, then by prediction id. -/
def dueBefore (a b : PendingEffectRecord) : Prop :=
  a.val.expected.val.observationDeadline < b.val.expected.val.observationDeadline ∨
    (a.val.expected.val.observationDeadline = b.val.expected.val.observationDeadline ∧
      a.val.expected.val.predictionId ≤ b.val.expected.val.predictionId)

instance : DecidableRel dueBefore := fun _ _ => by
  unfold dueBefore
  infer_instance

/-- `list_ready`, on the rows of the store. -/
def listReady (rows : List Row) (now : ℤ) (limit : ℕ) :
    Except PendingEffectError (List PendingEffectRecord) :=
  if ¬ (1 ≤ limit ∧ limit ≤ maxDueRead) then
    .error (.value "limit MUST be between 1 and 10000")
  else if maxDueRead < rows.length then
    .error (.value "pending effect ready scan exceeds its bounded state window")
  else do
    let records ← valueError (rows.mapM fromMapping)
    return ((records.filter (·.val.isReady now)).insertionSort dueBefore).take limit

/-- A call of a method. -/
inductive PendingEffectCall where
  | register (expected : ExpectedEffect) (actionType environment observerVersion : String)
  | claim (predictionId ownerId : String) (expectedRevision now leaseUntil : ℤ)
  | complete (predictionId ownerId : String) (ownerGeneration expectedRevision completedAt : ℤ)
      (result : EffectVerificationResult)

/-- What a call runs. -/
def PendingEffectCall.program : PendingEffectCall → PendingEffects PendingEffectRecord
  | .register expected actionType environment observerVersion =>
    MscpProfile.register expected actionType environment observerVersion
  | .claim predictionId ownerId expectedRevision now leaseUntil =>
    MscpProfile.claim predictionId ownerId expectedRevision now leaseUntil
  | .complete predictionId ownerId ownerGeneration expectedRevision completedAt result =>
    MscpProfile.complete predictionId ownerId ownerGeneration expectedRevision completedAt result

/-- The rows of the store. -/
abbrev PendingEffectWorld := RegisterWorld String Row PendingEffectAudit Unit

/-- The parts of the component. -/
def pendingEffectParts : Registers String Row PendingEffectAudit Unit Empty Unit Empty.elim where
  revision := Row.revision
  lets _ _ := true
  other _ _ request := nomatch request

/-- **The observers over one store.** -/
def pendingEffectStore : Machine PendingEffectOp (RegisterOp.Ans Empty.elim) PendingEffectWorld
    PendingEffectError PendingEffectRecord PendingEffectCall Unit :=
  pendingEffectParts.machine fun _ call => call.program

/-- The page that `list_ready` reads. -/
def pendingRows (world : PendingEffectWorld) : List Row :=
  (world.log.map Prod.fst).dedup.filterMap world.current

end Fdai.Core.MscpProfile
