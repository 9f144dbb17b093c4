import Mathlib.Data.List.Dedup
import Fdai.MscpProfile.PendingEffectStore

/-!
# Pending effects are kept

A registered effect is written once and read back many times. The row has no place for the frozen
prediction of an effect, and it reads a bound back as a float, while the digest that is checked then is
of the bound as it was given. So an effect survives exactly if its bounds are floats and it has no
frozen prediction, and then it goes from pending to claimed and on to completed, once.

* `Portable` — the effects that survive; `restored` — what a row gives back.
* `Step` — what a method writes over a row.
-/

namespace Fdai.Core.MscpProfile

open Fdai.Concurrency Program

/-! ## Reading a row back -/

/-- A bound that is a float. -/
def Number.isFloat : Number → Bool
  | .float _ => true
  | .int _ => false

/-- **An effect that survives**: its bounds are floats, and it has no frozen prediction. -/
structure Portable (expected : ExpectedEffectFields) : Prop where
  acceptableMin : expected.acceptableMin.isFloat = true
  acceptableMax : expected.acceptableMax.isFloat = true
  predictionSnapshot : expected.predictionSnapshot = none

instance (expected : ExpectedEffectFields) : Decidable (Portable expected) :=
  decidable_of_iff (expected.acceptableMin.isFloat = true ∧ expected.acceptableMax.isFloat = true ∧
      expected.predictionSnapshot = none)
    ⟨fun ⟨least, most, snapshot⟩ => ⟨least, most, snapshot⟩,
      fun ⟨least, most, snapshot⟩ => ⟨least, most, snapshot⟩⟩

/-- The effect that is read back. -/
def restored (expected : ExpectedEffectFields) : ExpectedEffectFields :=
  { expected with
    acceptableMin := .float expected.acceptableMin.toFloat
    acceptableMax := .float expected.acceptableMax.toFloat
    predictionSnapshot := none }

theorem ne_empty_of_not_blank {text : String} (notBlank : (!isBlank text) = true) : text ≠ "" := by
  rintro rfl
  cases notBlank

variable {row : Row} {key : String}

theorem string_of_get {text : String} (found : row.get key = .str text)
    (nonempty : text ≠ "") : row.string key = .ok text := by
  unfold Row.string
  rw [found]
  exact if_neg nonempty

theorem number_of_get {number : Number}
    (found : row.get key = number.toRow) : row.number key = .ok number.toFloat := by
  unfold Row.number
  rw [found]
  cases number <;> rfl

theorem optionalString_of_get {field : Option String}
    (found : row.get key = optionalRow .str field) (nonempty : ∀ text ∈ field, text ≠ "") :
    row.optionalString key = .ok field := by
  unfold Row.optionalString
  rw [found]
  cases field with
  | none => rfl
  | some text => exact if_neg (nonempty text rfl)

theorem optionalInstant_of_get {field : Option ℤ}
    (found : row.get key = optionalRow .time field) : row.optionalInstant key = .ok field := by
  unfold Row.optionalInstant
  rw [found]
  cases field <;> rfl

theorem optionalEnum_of_get {α : Type} {all : List α} {value : α → String} {field : Option α}
    (found : row.get key = optionalRow (.str <| value ·) field)
    (reads : ∀ member, Row.enumOf all value (value member) = .ok member) :
    row.optionalEnum key all value = .ok field := by
  unfold Row.optionalEnum
  rw [found]
  rcases field with _ | member
  · rfl
  show (Row.enumOf all value (value member)).map some = _
  rw [reads]
  rfl

theorem enumOf_status (status : PendingEffectStatus) :
    Row.enumOf PendingEffectStatus.all PendingEffectStatus.value status.value = .ok status := by
  cases status <;> rfl

theorem enumOf_verificationStatus (status : EffectVerificationStatus) :
    Row.enumOf EffectVerificationStatus.all EffectVerificationStatus.value status.value =
      .ok status := by
  cases status <;> rfl

theorem enumOf_verificationReason (reason : EffectVerificationReason) :
    Row.enumOf EffectVerificationReason.all EffectVerificationReason.value reason.value =
      .ok reason := by
  cases reason <;> rfl

theorem expected_texts (expected : ExpectedEffect) :
    expected.val.predictionId ≠ "" ∧ expected.val.targetRef ≠ "" ∧ expected.val.metric ≠ "" := by
  have accepted := expected.2
  unfold ExpectedEffectFields.check at accepted
  simp only [validate_cons_eq_ok] at accepted
  obtain ⟨prediction, target, metric, _⟩ := accepted
  exact ⟨ne_empty_of_not_blank prediction, ne_empty_of_not_blank target,
    ne_empty_of_not_blank metric⟩

theorem record_texts (record : PendingEffectRecord) : record.val.actionType ≠ "" ∧
    record.val.environment ≠ "" ∧ record.val.observerVersion ≠ "" := by
  have accepted := record.2
  unfold PendingEffectFields.check PendingEffectFields.contentChecks at accepted
  rw [validate_append_eq_ok] at accepted
  simp only [validate_cons_eq_ok, Bool.and_eq_true] at accepted
  obtain ⟨⟨⟨actionType, _⟩, ⟨environment, _⟩, ⟨observerVersion, _⟩, _⟩, _⟩ := accepted
  exact ⟨ne_empty_of_not_blank actionType, ne_empty_of_not_blank environment,
    ne_empty_of_not_blank observerVersion⟩

theorem record_owner (record : PendingEffectRecord) : ∀ owner ∈ record.val.ownerId, owner ≠ "" := by
  have accepted := record.2
  unfold PendingEffectFields.check at accepted
  rw [validate_append_eq_ok] at accepted
  obtain ⟨_, accepted⟩ := accepted
  have bounded : record.val.ownerId.all ownerBounded = true := by
    unfold PendingEffectFields.statusChecks at accepted
    cases isStatus : record.val.status with
    | pending =>
      rw [isStatus] at accepted
      simp only [validate_cons_eq_ok, Bool.and_eq_true, Option.isNone_iff_eq_none] at accepted
      rw [accepted.1.1.1]
      rfl
    | claimed =>
      rw [isStatus] at accepted
      simp only [validate_cons_eq_ok] at accepted
      exact accepted.2.2.1
    | completed =>
      rw [isStatus] at accepted
      simp only [validate_cons_eq_ok] at accepted
      exact accepted.2.1
  intro owner isOwner
  rw [isOwner] at bounded
  unfold ownerBounded at bounded
  rw [Option.all_some, Bool.and_eq_true] at bounded
  exact ne_empty_of_not_blank bounded.1

theorem expectedKeys_toMapping (fields : PendingEffectFields) :
    expectedKeys fields.toMapping = fields.toMapping.map Prod.fst := rfl

/-- **A row that was written is read** field by field: only the expected effect may differ. -/
theorem fromMapping_toMapping (record : PendingEffectRecord) :
    fromMapping record.val.toMapping = (do
      let expected ← construct ExpectedEffectFields.check (restored record.val.expected.val)
      construct PendingEffectFields.check { record.val with expected := expected }) := by
  obtain ⟨predictionText, targetText, metricText⟩ := expected_texts record.val.expected
  obtain ⟨actionText, environmentText, observerText⟩ := record_texts record
  have ownerText := record_owner record
  have statusText : record.val.status.value ≠ "" := by
    cases record.val.status <;> decide
  have predictionId : record.val.toMapping.string "prediction_id" =
      .ok record.val.expected.val.predictionId := string_of_get rfl predictionText
  have targetRef : record.val.toMapping.string "target_ref" =
      .ok record.val.expected.val.targetRef := string_of_get rfl targetText
  have metric : record.val.toMapping.string "metric" = .ok record.val.expected.val.metric :=
    string_of_get rfl metricText
  have acceptableMin : record.val.toMapping.number "acceptable_min" =
      .ok record.val.expected.val.acceptableMin.toFloat := number_of_get rfl
  have acceptableMax : record.val.toMapping.number "acceptable_max" =
      .ok record.val.expected.val.acceptableMax.toFloat := number_of_get rfl
  have predictedAt : record.val.toMapping.instant "predicted_at" =
      .ok record.val.expected.val.predictedAt := rfl
  have observationDeadline : record.val.toMapping.instant "observation_deadline" =
      .ok record.val.expected.val.observationDeadline := rfl
  have actionType : record.val.toMapping.string "action_type" = .ok record.val.actionType :=
    string_of_get rfl actionText
  have environment : record.val.toMapping.string "environment" = .ok record.val.environment :=
    string_of_get rfl environmentText
  have observerVersion : record.val.toMapping.string "observer_version" =
      .ok record.val.observerVersion := string_of_get rfl observerText
  have digest : record.val.toMapping.digestText "effect_digest" = .ok record.val.effectDigest := rfl
  have status : record.val.toMapping.string "status" = .ok record.val.status.value :=
    string_of_get rfl statusText
  have revision : record.val.toMapping.integer "revision" = .ok record.val.revision := rfl
  have ownerId : record.val.toMapping.optionalString "owner_id" = .ok record.val.ownerId :=
    optionalString_of_get rfl ownerText
  have ownerGeneration : record.val.toMapping.integer "owner_generation" =
      .ok record.val.ownerGeneration := rfl
  have leaseUntil : record.val.toMapping.optionalInstant "lease_until" =
      .ok record.val.leaseUntil := optionalInstant_of_get rfl
  have completedAt : record.val.toMapping.optionalInstant "completed_at" =
      .ok record.val.completedAt := optionalInstant_of_get rfl
  have verificationStatus : record.val.toMapping.optionalEnum "verification_status"
      EffectVerificationStatus.all EffectVerificationStatus.value =
        .ok record.val.verificationStatus := optionalEnum_of_get rfl enumOf_verificationStatus
  have verificationReason : record.val.toMapping.optionalEnum "verification_reason"
      EffectVerificationReason.all EffectVerificationReason.value =
        .ok record.val.verificationReason := optionalEnum_of_get rfl enumOf_verificationReason
  unfold fromMapping
  rw [expectedKeys_toMapping, if_neg (by simp), predictionId, targetRef, metric, acceptableMin,
    acceptableMax, predictedAt, observationDeadline, actionType, environment, observerVersion,
    digest, status, revision, ownerId, ownerGeneration, leaseUntil, completedAt, verificationStatus,
    verificationReason]
  show (construct ExpectedEffectFields.check (restored record.val.expected.val) >>= fun expected =>
    Row.enumOf _ _ record.val.status.value >>= _) = _
  rw [enumOf_status]
  rfl

theorem restored_of_portable {expected : ExpectedEffectFields} (portable : Portable expected) :
    restored expected = expected := by
  obtain ⟨prediction, target, metric, least, most, predictedAt, deadline, snapshot⟩ := expected
  obtain ⟨leastFloat, mostFloat, noSnapshot⟩ := portable
  dsimp only at leastFloat mostFloat noSnapshot
  subst noSnapshot
  cases least with
  | int value => cases leastFloat
  | float least =>
    cases most with
    | int value => cases mostFloat
    | float most => rfl

variable {record : PendingEffectRecord}

/-- **A portable effect is read back as it was written.** -/
theorem fromMapping_of_portable (portable : Portable record.val.expected.val) :
    fromMapping record.val.toMapping = .ok record := by
  rw [fromMapping_toMapping, restored_of_portable portable, construct_eq_ok.2 rfl]
  exact construct_eq_ok.2 rfl

/-- An observation inside the range of an effect, that names no unit. -/
def inside (expected : ExpectedEffectFields) : ObservedEffectFields where
  predictionId := expected.predictionId
  targetRef := expected.targetRef
  metric := expected.metric
  value := expected.acceptableMin
  observedAt := expected.predictedAt

theorem inside_check (expected : ExpectedEffect) : (inside expected.val).check = .ok () := by
  have accepted := expected.2
  unfold ExpectedEffectFields.check at accepted
  simp only [validate_cons_eq_ok] at accepted
  obtain ⟨prediction, target, metric, least, _⟩ := accepted
  unfold ObservedEffectFields.check
  simp only [validate_cons_eq_ok]
  exact ⟨prediction, target, metric, least, rfl, rfl, rfl⟩

/-- Without a frozen prediction, an observation inside the range verifies an effect. -/
theorem verifyEffect_inside (expected : ExpectedEffect)
    (noSnapshot : expected.val.predictionSnapshot = none) :
    verifyEffect expected.val (inside expected.val) = ⟨.verified, .withinAcceptableRange⟩ := by
  have accepted := expected.2
  unfold ExpectedEffectFields.check at accepted
  simp only [validate_cons_eq_ok] at accepted
  obtain ⟨_, _, _, least, _, ordered, window, _⟩ := accepted
  have window := of_decide_eq_true window
  have selfLe : expected.val.acceptableMin.le expected.val.acceptableMin = true := by
    revert least
    generalize expected.val.acceptableMin = bound
    intro least
    cases bound with
    | int value => simp [Number.le, Number.exact, PyFloat.le]
    | float value =>
      cases value with
      | finite value => simp [Number.le, Number.exact, PyFloat.le]
      | infinite negative | nan => cases least
  unfold verifyEffect inside
  simp [noSnapshot, selfLe, ordered, window]

variable {expected : ExpectedEffect}

/-- **An effect survives its row** exactly if it is portable. -/
theorem survives_iff {actionType environment observerVersion : String}
    (isRecord : record.val = registration expected actionType environment observerVersion) :
    (∃ back, fromMapping record.val.toMapping = .ok back ∧ ∀ observed : ObservedEffect,
        verifyEffect back.val.expected.val observed.val = verifyEffect expected.val observed.val) ↔
      Portable expected.val := by
  have isExpected : record.val.expected = expected := by rw [isRecord]; rfl
  constructor
  · rintro ⟨back, readBack, sameVerdict⟩
    rw [fromMapping_toMapping] at readBack
    obtain ⟨given, isGiven, readBack⟩ := bind_eq_ok.1 readBack
    have givenFields := construct_eq_ok.1 isGiven
    have backFields := construct_eq_ok.1 readBack
    rw [isExpected] at givenFields
    -- The digest was taken of the bounds as they were given, and is checked on what is read.
    have digests : record.val.effectDigest = effectDigest given.val record.val.actionType
        record.val.environment record.val.observerVersion := by
      have accepted := back.2
      unfold PendingEffectFields.check PendingEffectFields.contentChecks at accepted
      rw [validate_append_eq_ok, backFields] at accepted
      simp only [validate_cons_eq_ok, decide_eq_true_eq] at accepted
      exact accepted.1.2.2.2.2.1
    rw [givenFields, isRecord] at digests
    have contents := EffectContent.mk.inj digests
    have floatLeast : expected.val.acceptableMin.isFloat = true := by
      rw [contents.2.2.2.1]
      rfl
    have floatMost : expected.val.acceptableMax.isFloat = true := by
      rw [contents.2.2.2.2.1]
      rfl
    refine ⟨floatLeast, floatMost, ?_⟩
    by_contra hasSnapshot
    obtain ⟨snapshot, isSnapshot⟩ := Option.ne_none_iff_exists'.1 hasSnapshot
    have verdict := sameVerdict ⟨inside expected.val, inside_check expected⟩
    have backExpected : back.val.expected = given := by rw [backFields]
    have sameInside : inside given.val = inside expected.val := by
      rw [givenFields]
      show inside { restored expected.val with acceptableMin := _ } = _
      exact congrArg (fun least => inside { restored expected.val with acceptableMin := least })
        contents.2.2.2.1.symm
    have isVerified := verifyEffect_inside given (by rw [givenFields]; rfl)
    rw [sameInside] at isVerified
    rw [backExpected, isVerified] at verdict
    unfold verifyEffect at verdict
    rw [isSnapshot] at verdict
    simp [inside] at verdict
  · intro portable
    refine ⟨record, fromMapping_of_portable (isExpected ▸ portable), ?_⟩
    intro observed
    rw [isExpected]

/-! ## What a method writes -/

/-- The writes of one effect, oldest first. -/
abbrev Writes := List (Row × PendingEffectAudit)

/-- A write of one of the methods over the row of an effect. -/
inductive Written (key : String) (current : Option Row) (value : Row) (entry : PendingEffectAudit) :
    Prop where
  | registered {record : PendingEffectRecord} {expected : ExpectedEffect}
      {actionType environment observerVersion : String}
      (isRecord : record.val = registration expected actionType environment observerVersion)
      (isKey : expected.val.predictionId = key) (absent : current = none)
      (isValue : value = record.val.toMapping)
      (isEntry : entry = audit "registered" record.val (some expected))
  | claimed {ownerId : String} {expectedRevision now leaseUntil : ℤ}
      {result : Except PendingEffectError PendingEffectRecord}
      (decided : claimDecision key ownerId expectedRevision now leaseUntil current =
        .write value entry result)
  | completed {ownerId : String} {ownerGeneration expectedRevision completedAt : ℤ}
      {verification : EffectVerificationResult}
      {result : Except PendingEffectError PendingEffectRecord}
      (decided : completeDecision key ownerId ownerGeneration expectedRevision completedAt
        verification current = .write value entry result)

/-- **What a write does**: it is the registration, or a claim of what is not completed, or the
completion of a claim by its owner inside the lease. -/
inductive Step (key : String) : Option Row → Row → PendingEffectAudit → Prop where
  | registered {record : PendingEffectRecord} {expected : ExpectedEffect}
      {actionType environment observerVersion : String}
      (isRecord : record.val = registration expected actionType environment observerVersion)
      (isKey : expected.val.predictionId = key) :
      Step key none record.val.toMapping (audit "registered" record.val (some expected))
  | claimed {row : Row} {current updated : PendingEffectRecord} {ownerId : String} {leaseUntil : ℤ}
      (decoded : fromMapping row = .ok current) (unfinished : current.val.status ≠ .completed)
      (isUpdated : updated.val = current.val.claimedBy ownerId leaseUntil) :
      Step key (some row) updated.val.toMapping (audit "claimed" updated.val none)
  | completed {row : Row} {current updated : PendingEffectRecord} {completedAt : ℤ}
      {verification : EffectVerificationResult}
      (decoded : fromMapping row = .ok current) (claimed : current.val.status = .claimed)
      (isUpdated : updated.val = current.val.completedBy completedAt verification) :
      Step key (some row) updated.val.toMapping (audit "completed" updated.val none)

theorem valueError_eq_ok {α : Type} {result : Except String α} {value : α} :
    valueError result = .ok value ↔ result = .ok value := by
  cases result with
  | error message => exact ⟨nofun, nofun⟩
  | ok found => exact ⟨fun same => congrArg _ (Except.ok.inj same), fun same => same ▸ rfl⟩

theorem decodeFound_eq_ok {found : Option Row} (decoded : decodeFound key found = .ok record) :
    ∃ row, found = some row ∧ fromMapping row = .ok record := by
  cases found with
  | none => cases decoded
  | some row => exact ⟨row, rfl, valueError_eq_ok.1 decoded⟩

variable {value : Row} {entry : PendingEffectAudit}

theorem writeUpdated_eq_ok {event : String} {updated : PendingEffectFields}
    {result : Except PendingEffectError PendingEffectRecord}
    (written : writeUpdated event updated = .ok (.write value entry result)) :
    ∃ record : PendingEffectRecord, record.val = updated ∧ value = record.val.toMapping ∧
      entry = audit event record.val none := by
  unfold writeUpdated at written
  obtain ⟨record, constructed, written⟩ := bind_eq_ok.1 written
  obtain ⟨rfl, rfl, -⟩ := Decision.write.inj (Except.ok.inj written)
  exact ⟨record, construct_eq_ok.1 (valueError_eq_ok.1 constructed), rfl, rfl⟩

theorem Written.step {current : Option Row} (written : Written key current value entry) :
    Step key current value entry := by
  cases written with
  | registered isRecord isKey absent isValue isEntry =>
    subst absent isValue isEntry
    exact .registered isRecord isKey
  | claimed decided =>
    obtain ⟨record, found, chosen⟩ := bind_eq_ok.1 (Decision.ofExcept_eq_write.1 decided)
    obtain ⟨row, rfl, decoded⟩ := decodeFound_eq_ok found
    split at chosen
    · cases chosen
    split at chosen
    · cases chosen
    split at chosen
    · cases chosen
    split at chosen
    · cases chosen
    rename_i unfinished _
    obtain ⟨updated, isUpdated, rfl, rfl⟩ := writeUpdated_eq_ok chosen
    exact .claimed decoded unfinished isUpdated
  | completed decided =>
    obtain ⟨record, found, chosen⟩ := bind_eq_ok.1 (Decision.ofExcept_eq_write.1 decided)
    obtain ⟨row, rfl, decoded⟩ := decodeFound_eq_ok found
    split at chosen
    · cases chosen
    split at chosen
    · cases chosen
    rename_i fenced
    have claimed : record.val.status = .claimed := by
      by_contra otherwise
      exact fenced (.inl otherwise)
    obtain ⟨updated, isUpdated, rfl, rfl⟩ := writeUpdated_eq_ok chosen
    exact .completed decoded claimed isUpdated

theorem revision_of_decoded
    (decoded : fromMapping row = .ok record) : row.revision = record.val.revision.toNat := by
  unfold fromMapping at decoded
  split at decoded
  · cases decoded
  iterate 14 obtain ⟨_, _, decoded⟩ := bind_eq_ok.1 decoded
  obtain ⟨revision, isRevision, decoded⟩ := bind_eq_ok.1 decoded
  iterate 6 obtain ⟨_, _, decoded⟩ := bind_eq_ok.1 decoded
  rw [construct_eq_ok.1 decoded]
  unfold Row.integer at isRevision
  unfold Row.revision
  split at isRevision
  · exact congrArg Int.toNat (Except.ok.inj isRevision)
  · cases isRevision

theorem one_le_revision (record : PendingEffectRecord) : 1 ≤ record.val.revision := by
  have accepted := record.2
  unfold PendingEffectFields.check PendingEffectFields.contentChecks at accepted
  rw [validate_append_eq_ok] at accepted
  simp only [validate_cons_eq_ok, Bool.and_eq_true, decide_eq_true_eq] at accepted
  exact accepted.1.2.2.2.1.1

theorem written_later : pendingEffectParts.Later Written := by
  intro key current value entry written
  show current.revision < value.revision
  have revision_toMapping : ∀ fields : PendingEffectFields,
      fields.toMapping.revision = fields.revision.toNat := fun _ => rfl
  cases written.step with
  | @claimed row before after _ _ decoded _ isUpdated
  | @completed row before after _ _ decoded _ isUpdated =>
    rw [revision_of_decoded decoded, revision_toMapping, isUpdated]
    have positive := one_le_revision before
    show before.val.revision.toNat < (before.val.revision + 1).toNat
    omega

/-! ## The writes of one effect -/

/-- The condition on a run: it registers portable effects. -/
def RegistersPortable (_ : String) (_ : Writes) (_ : Row) (entry : PendingEffectAudit) : Prop :=
  ∀ expected ∈ entry.registered, Portable expected.val

instance (key : String) (before : Writes) (value : Row) (entry : PendingEffectAudit) :
    Decidable (RegistersPortable key before value entry) := by
  unfold RegistersPortable
  infer_instance

/-- **What holds of the writes of a registered effect.** -/
structure EffectKept (expected : ExpectedEffect) (log : Writes) : Prop where
  /-- The effect was registered by the first write. -/
  registered : ∃ write rest, log = write :: rest ∧ write.2.registered = some expected
  /-- Every row decodes, to an effect with the same verdicts. -/
  decodes : ∀ row entry, (row, entry) ∈ log → ∃ record, fromMapping row = .ok record ∧
    ∀ observed : ObservedEffect, verifyEffect record.val.expected.val observed.val =
      verifyEffect expected.val observed.val
  completed_last : ∀ before row entry after record, log = before ++ (row, entry) :: after →
    fromMapping row = .ok record → record.val.status = .completed → after = []
  /-- A completed record belongs to the owner, the generation and the lease of the claim before. -/
  fenced : ∀ before row entry after record, log = before ++ (row, entry) :: after →
    fromMapping row = .ok record → record.val.status = .completed →
      ∃ claimRow claim, lastWritten none before = some claimRow ∧ fromMapping claimRow = .ok claim ∧
        claim.val.status = .claimed ∧ claim.val.ownerId = record.val.ownerId ∧
          claim.val.ownerGeneration = record.val.ownerGeneration ∧
            claim.val.leaseUntil = record.val.leaseUntil

/-- What the last row says, besides. -/
structure LastRow (key : String) (expected : ExpectedEffect) (log : Writes)
    (record : PendingEffectRecord) : Prop where
  row : lastWritten none log = some record.val.toMapping
  key : expected.val.predictionId = key
  portable : Portable expected.val
  same : record.val.expected = expected

variable {log : Writes}

theorem LastRow.decoded (last : LastRow key expected log record) :
    fromMapping record.val.toMapping = .ok record :=
  fromMapping_of_portable (last.same.symm ▸ last.portable)

/-- **A write that carries on keeps the effect.** -/
theorem EffectKept.concat {current updated : PendingEffectRecord}
    (kept : EffectKept expected log) (last : LastRow key expected log current)
    (unfinished : current.val.status ≠ .completed)
    (same : updated.val.expected = current.val.expected)
    (completes : updated.val.status = .completed → current.val.status = .claimed ∧
      current.val.ownerId = updated.val.ownerId ∧
        current.val.ownerGeneration = updated.val.ownerGeneration ∧
          current.val.leaseUntil = updated.val.leaseUntil) :
    EffectKept expected (log ++ [(updated.val.toMapping, entry)]) ∧
      LastRow key expected (log ++ [(updated.val.toMapping, entry)]) updated := by
  have updatedLast : LastRow key expected (log ++ [(updated.val.toMapping, entry)]) updated :=
    ⟨lastWritten_concat _ _, last.key, last.portable, same.trans last.same⟩
  refine ⟨⟨?_, ?_, ?_, ?_⟩, updatedLast⟩
  · obtain ⟨write, rest, rfl, isRegistered⟩ := kept.registered
    exact ⟨write, rest ++ [(updated.val.toMapping, entry)], rfl, isRegistered⟩
  · intro row rowEntry inside
    rcases List.mem_append.1 inside with earlier | isLast
    · exact kept.decodes row rowEntry earlier
    obtain ⟨rfl, rfl⟩ := Prod.mk.inj (List.mem_singleton.1 isLast)
    refine ⟨updated, updatedLast.decoded, ?_⟩
    intro observed
    rw [updatedLast.same]
  · intro before row rowEntry after record isLog decoded completed
    rcases concat_eq_append_cons isLog with ⟨-, -, isEnd⟩ | ⟨earlier, -, isEarlier⟩
    · exact isEnd
    -- A completed row before the last one was the last row of the log, or earlier still.
    obtain rfl := kept.completed_last before row rowEntry earlier record isEarlier decoded completed
    have rowLast := last.row
    rw [isEarlier, lastWritten_concat] at rowLast
    obtain rfl := Option.some.inj rowLast
    obtain rfl := Except.ok.inj (last.decoded.symm.trans decoded)
    exact absurd completed unfinished
  · intro before row rowEntry after record isLog decoded completed
    rcases concat_eq_append_cons isLog with ⟨rfl, isWrite, -⟩ | ⟨earlier, -, isEarlier⟩
    · obtain ⟨rfl, rfl⟩ := Prod.mk.inj isWrite
      obtain rfl := Except.ok.inj (updatedLast.decoded.symm.trans decoded)
      exact ⟨_, current, last.row, last.decoded, completes completed⟩
    · exact kept.fenced before row rowEntry earlier record isEarlier decoded completed

/-- **Every write keeps the effect.** -/
theorem EffectKept.step (kept : log = [] ∨ ∃ expected record, EffectKept expected log ∧
      LastRow key expected log record)
    (step : Step key (lastWritten none log) value entry)
    (portable : RegistersPortable key log value entry) :
    ∃ expected record, EffectKept expected (log ++ [(value, entry)]) ∧
      LastRow key expected (log ++ [(value, entry)]) record := by
  generalize isLast : lastWritten none log = found at step
  cases step with
  | @registered record expected actionType environment observerVersion isRecord isKey =>
    have isEmpty : log = [] := by
      rcases kept with isEmpty | ⟨_, _, _, last⟩
      · exact isEmpty
      · exact nomatch isLast.symm.trans last.row
    subst isEmpty
    have isPortable : Portable expected.val := portable expected rfl
    have isExpected : record.val.expected = expected := by
      rw [isRecord]
      rfl
    have isPending : record.val.status = .pending := by
      rw [isRecord]
      rfl
    have last : LastRow key expected [(record.val.toMapping,
        audit "registered" record.val (some expected))] record :=
      ⟨rfl, isKey, isPortable, isExpected⟩
    -- The log has one write, so a place in it is that write.
    have only : ∀ {before after : Writes} {write : Row × PendingEffectAudit},
        [(record.val.toMapping, audit "registered" record.val (some expected))] =
          before ++ write :: after → write = (record.val.toMapping,
            audit "registered" record.val (some expected)) ∧ after = [] := by
      intro before after write isLog
      rcases concat_eq_append_cons (show ([] : Writes) ++ [_] = _ from isLog) with
        ⟨_, isWrite, isEnd⟩ | ⟨earlier, _, isEmpty⟩
      · exact ⟨isWrite.symm, isEnd⟩
      · exact absurd isEmpty.symm (by simp)
    refine ⟨expected, record, ⟨⟨_, [], rfl, rfl⟩, ?_, ?_, ?_⟩, last⟩
    · intro row rowEntry inside
      obtain ⟨rfl, rfl⟩ := Prod.mk.inj (List.mem_singleton.1 inside)
      refine ⟨record, last.decoded, ?_⟩
      intro observed
      rw [isExpected]
    · intro before row rowEntry after found isLog _ _
      exact (only isLog).2
    · intro before row rowEntry after found isLog decoded completed
      obtain ⟨rfl, rfl⟩ := Prod.mk.inj (only isLog).1
      obtain rfl := Except.ok.inj (last.decoded.symm.trans decoded)
      rw [isPending] at completed
      cases completed
  | @claimed row current updated ownerId leaseUntil decoded unfinished isUpdated =>
    rcases kept with rfl | ⟨expected, record, kept, last⟩
    · cases isLast
    obtain rfl := Option.some.inj (last.row.symm.trans isLast)
    obtain rfl := Except.ok.inj (last.decoded.symm.trans decoded)
    refine ⟨expected, updated, kept.concat last unfinished (by rw [isUpdated]; rfl) ?_⟩
    intro completed
    rw [isUpdated] at completed
    cases completed
  | @completed row current updated completedAt verification decoded claimed isUpdated =>
    rcases kept with rfl | ⟨expected, record, kept, last⟩
    · cases isLast
    obtain rfl := Option.some.inj (last.row.symm.trans isLast)
    obtain rfl := Except.ok.inj (last.decoded.symm.trans decoded)
    refine ⟨expected, updated, kept.concat last (by rw [claimed]; decide)
      (by rw [isUpdated]; rfl) ?_⟩
    intro _
    rw [isUpdated]
    exact ⟨claimed, rfl, rfl, rfl⟩

variable {Ok : String → Writes → Row → PendingEffectAudit → Prop} {start : String → Option Row}

theorem follows_register (expected : ExpectedEffect)
    (actionType environment observerVersion : String) :
    Registers.Follows written_later Ok start
      (register expected actionType environment observerVersion) := by
  unfold register
  cases constructed : construct PendingEffectFields.check
      (registration expected actionType environment observerVersion) with
  | error message => exact Registers.follows_done
  | ok record =>
    show Registers.Follows written_later Ok start (invoke (RegisterOp.writeIfAbsent _ _ _) >>= _)
    refine Registers.follows_bind (Registers.follows_create
      (Written.registered (construct_eq_ok.1 constructed) rfl rfl rfl rfl)) ?_
    intro created
    cases created with
    | true => exact Registers.follows_done
    | false =>
      refine Registers.follows_bind (Registers.follows_read fun _ => Registers.follows_done) ?_
      intro existing
      show Registers.Follows written_later Ok start (ite _ _ _)
      split <;> exact Registers.follows_done

theorem follows_program (call : PendingEffectCall) :
    Registers.Follows written_later Ok start call.program := by
  cases call with
  | register expected actionType environment observerVersion =>
    exact follows_register expected actionType environment observerVersion
  | claim predictionId ownerId expectedRevision now leaseUntil =>
    show Registers.Follows written_later Ok start (claim _ _ _ _ _)
    unfold claim
    split
    · exact Registers.follows_done
    split
    · exact Registers.follows_done
    split
    · exact Registers.follows_done
    · exact Registers.follows_update 1 fun _ _ _ _ decided => .claimed decided
  | complete predictionId ownerId ownerGeneration expectedRevision completedAt result =>
    show Registers.Follows written_later Ok start (complete _ _ _ _ _ _)
    unfold complete
    split
    · exact Registers.follows_done
    split
    · exact Registers.follows_done
    · exact Registers.follows_update 1 fun _ _ _ _ decided => .completed decided

/-- The store before the first call. -/
def emptyStore : PendingEffectWorld := ⟨fun _ => none, [], ()⟩

/-- A run registers portable effects. -/
def ObservesPortable (moves : List (Move PendingEffectCall Unit)) : Prop :=
  pendingEffectStore.Observes (pendingEffectParts.Observed RegistersPortable)
    (Machine.idle emptyStore) moves

instance (moves : List (Move PendingEffectCall Unit)) : Decidable (ObservesPortable moves) := by
  unfold ObservesPortable
  infer_instance

/-- **A run keeps every effect.** -/
theorem run_kept {moves : List (Move PendingEffectCall Unit)} (observes : ObservesPortable moves)
    (key : String) :
    let world := (pendingEffectStore.run (Machine.idle emptyStore) moves).world
    world.current key = lastWritten none (logOf key world.log) ∧
      (logOf key world.log = [] ∨ ∃ expected record, EffectKept expected (logOf key world.log) ∧
          LastRow key expected (logOf key world.log) record) := by
  have followed : Registers.Followed Written RegistersPortable (fun _ => none)
      (pendingEffectStore.run (Machine.idle emptyStore) moves).world :=
    Registers.run_path written_later (fun _ => none) (fun _ call => follows_program call) ()
      observes
  intro world
  refine ⟨congrArg (fun start : String → Option Row => lastWritten (start key) _) followed.1, ?_⟩
  -- Induction along the writes of the effect.
  refine (followed.2 key).induction (fun log => log = [] ∨ ∃ expected record,
    EffectKept expected log ∧ LastRow key expected log record) (.inl rfl) ?_
  intro before value entry _ kept write
  exact .inr (EffectKept.step kept write.1.step write.2)

/-! ## The ready scan -/

/-- The rows under some keys are read together, if each of them decodes. -/
theorem mapM_rows {current : String → Option Row} {keys : List String}
    (found : ∀ key ∈ keys, ∃ record : PendingEffectRecord, current key = some record.val.toMapping ∧
        fromMapping record.val.toMapping = .ok record ∧
          record.val.expected.val.predictionId = key) :
    ∃ records, (keys.filterMap current).mapM fromMapping = .ok records ∧
      records.map (·.val.expected.val.predictionId) = keys ∧
        ∀ record, record ∈ records ↔ ∃ key ∈ keys, ∃ row, current key = some row ∧
          fromMapping row = .ok record := by
  induction keys with
  | nil => exact ⟨[], rfl, rfl, by simp⟩
  | cons key keys ih =>
    obtain ⟨records, areRead, ids, members⟩ := ih fun other inside =>
      found other (List.mem_cons_of_mem key inside)
    obtain ⟨record, isCurrent, decoded, isKey⟩ := found key List.mem_cons_self
    refine ⟨record :: records, ?_, ?_, ?_⟩
    · rw [List.filterMap_cons_some isCurrent, List.mapM_cons, decoded, areRead]
      rfl
    · rw [List.map_cons, isKey, ids]
    · intro other
      rw [List.mem_cons, members]
      constructor
      · rintro (rfl | ⟨otherKey, inside, row, isRow, isOther⟩)
        · exact ⟨key, List.mem_cons_self, _, isCurrent, decoded⟩
        · exact ⟨otherKey, List.mem_cons_of_mem key inside, row, isRow, isOther⟩
      · rintro ⟨otherKey, inside, row, isRow, isOther⟩
        rcases List.mem_cons.1 inside with rfl | inside
        · obtain rfl := Option.some.inj (isCurrent.symm.trans isRow)
          exact .inl (Except.ok.inj (isOther.symm.trans decoded))
        · exact .inr ⟨otherKey, inside, row, isRow, isOther⟩

instance : Std.Total dueBefore where
  total a b := by
    unfold dueBefore
    rcases lt_trichotomy a.val.expected.val.observationDeadline
      b.val.expected.val.observationDeadline with earlier | same | later
    · exact .inl (.inl earlier)
    · rcases le_total a.val.expected.val.predictionId b.val.expected.val.predictionId with le | le
      · exact .inl (.inr ⟨same, le⟩)
      · exact .inr (.inr ⟨same.symm, le⟩)
    · exact .inr (.inl later)

instance : IsTrans PendingEffectRecord dueBefore where
  trans a b c := by
    unfold dueBefore
    rintro (first | ⟨sameFirst, first⟩) (second | ⟨sameSecond, second⟩)
    · exact .inl (first.trans second)
    · exact .inl (sameSecond ▸ first)
    · exact .inl (sameFirst ▸ second)
    · exact .inr ⟨sameFirst.trans sameSecond, first.trans second⟩

/-- **The ready scan is exact**: the first of the ready records, in the order of their deadlines. -/
def ReadyExact (world : PendingEffectWorld) : Prop :=
  ∀ (now : ℤ) (limit : ℕ), 1 ≤ limit → limit ≤ maxDueRead →
    (pendingRows world).length ≤ maxDueRead → ∃ ready : List PendingEffectRecord,
        listReady (pendingRows world) now limit = .ok (ready.take limit) ∧
          ready.Pairwise dueBefore ∧ (ready.map (·.val.expected.val.predictionId)).Nodup ∧
            ∀ record : PendingEffectRecord, record ∈ ready ↔
              (∃ key row, world.current key = some row ∧ fromMapping row = .ok record) ∧
                record.val.isReady now = true

theorem readyExact_of_found {world : PendingEffectWorld}
    (found : ∀ key, key ∈ world.log.map Prod.fst → ∃ record : PendingEffectRecord,
      world.current key = some record.val.toMapping ∧
        fromMapping record.val.toMapping = .ok record ∧ record.val.expected.val.predictionId = key)
    (absent : ∀ key, key ∉ world.log.map Prod.fst → world.current key = none) :
    ReadyExact world := by
  intro now limit positive bounded small
  obtain ⟨records, areRead, ids, members⟩ := mapM_rows
    (fun key inside => found key (List.mem_dedup.1 inside))
  refine ⟨(records.filter (·.val.isReady now)).insertionSort dueBefore, ?_, ?_, ?_, ?_⟩
  · unfold listReady
    rw [if_neg (not_not.2 ⟨positive, bounded⟩), if_neg (not_lt.2 small)]
    show (valueError ((pendingRows world).mapM fromMapping) >>= _) = _
    unfold pendingRows
    rw [areRead]
    rfl
  · exact List.pairwise_insertionSort dueBefore _
  · -- Sorting and filtering leave the identities apart, as the keys of the store are.
    have distinct : (records.map (·.val.expected.val.predictionId)).Nodup := by
      rw [ids]
      exact List.nodup_dedup _
    have sorted := (List.perm_insertionSort dueBefore (records.filter (·.val.isReady now))).map
      (·.val.expected.val.predictionId)
    exact sorted.nodup_iff.2 (distinct.sublist (List.filter_sublist.map _))
  · intro record
    rw [List.mem_insertionSort, List.mem_filter, members]
    constructor
    · rintro ⟨⟨key, _, row, isCurrent, decoded⟩, isReady⟩
      exact ⟨⟨key, row, isCurrent, decoded⟩, isReady⟩
    · rintro ⟨⟨key, row, isCurrent, decoded⟩, isReady⟩
      refine ⟨⟨key, List.mem_dedup.2 ?_, row, isCurrent, decoded⟩, isReady⟩
      by_contra outside
      exact nomatch (absent key outside).symm.trans isCurrent

/-- **Pending effects are kept**, in every run that registers portable effects: each has the writes
that `EffectKept` says, and the ready scan is exact. And an effect is portable exactly if its row
decodes to one with the same verdicts. -/
theorem pending_effects_kept (moves : List (Move PendingEffectCall Unit))
    (observes : ObservesPortable moves) :
    (∀ key,
      let log := logOf key (pendingEffectStore.run (Machine.idle emptyStore) moves).world.log
      log = [] ∨ ∃ expected, expected.val.predictionId = key ∧ EffectKept expected log) ∧
    ReadyExact (pendingEffectStore.run (Machine.idle emptyStore) moves).world ∧
    ∀ (record : PendingEffectRecord) (expected : ExpectedEffect)
      (actionType environment observerVersion : String),
      record.val = registration expected actionType environment observerVersion →
        ((∃ back, fromMapping record.val.toMapping = .ok back ∧ ∀ observed : ObservedEffect,
          verifyEffect back.val.expected.val observed.val =
            verifyEffect expected.val observed.val) ↔ Portable expected.val) := by
  refine ⟨?_, readyExact_of_found ?_ ?_, ?_⟩
  · intro key
    rcases (run_kept observes key).2 with isEmpty | ⟨expected, record, kept, last⟩
    · exact .inl isEmpty
    · exact .inr ⟨expected, last.key, kept⟩
  · intro key written
    obtain ⟨⟨writtenKey, write⟩, inside, rfl⟩ := List.mem_map.1 written
    obtain ⟨isCurrent, isEmpty | ⟨expected, record, kept, last⟩⟩ :=
      run_kept observes writtenKey
    · have inLog := mem_logOf.2 inside
      rw [isEmpty] at inLog
      cases inLog
    · refine ⟨record, isCurrent.trans last.row, last.decoded, ?_⟩
      rw [last.same]
      exact last.key
  · intro key unwritten
    obtain ⟨isCurrent, -⟩ := run_kept observes key
    have isEmpty : logOf key (pendingEffectStore.run (Machine.idle emptyStore)
        moves).world.log = [] := by
      refine List.eq_nil_iff_forall_not_mem.2 ?_
      intro write inside
      exact unwritten (List.mem_map_of_mem (f := Prod.fst) (mem_logOf.1 inside))
    rw [isCurrent, isEmpty]
    rfl
  · intro record expected actionType environment observerVersion isRecord
    exact survives_iff isRecord

/-- A prediction of a latency, with its bounds. -/
def latencyEffect (least most : Number) (snapshot : Option EffectPredictionSnapshot) :
    ExpectedEffectFields where
  predictionId := "prediction-1"
  targetRef := "service-a"
  metric := "latency_ms"
  acceptableMin := least
  acceptableMax := most
  predictedAt := 10
  observationDeadline := 20
  predictionSnapshot := snapshot

/-- It has float bounds. -/
def floatEffect : ExpectedEffect :=
  ⟨latencyEffect (.float (.finite 1)) (.float (.finite 5)) none, by decide +kernel⟩

/-- One bound is an integer. -/
def integerEffect : ExpectedEffect :=
  ⟨latencyEffect (.float (.finite 1)) (.int 5) none, by decide +kernel⟩

/-- It has a frozen prediction, of a unit. -/
def frozenEffect : ExpectedEffect :=
  ⟨latencyEffect (.float (.finite 1)) (.float (.finite 5))
    (some ⟨"prediction-1", "latency_ms", "ms", 10, 20⟩), by decide +kernel⟩

/-- An effect is registered, claimed and completed. -/
def completedRun : List (Move PendingEffectCall Unit) :=
  [.start (.register floatEffect "restart" "prod" "v1"), .advance 0 (),
    .start (.claim "prediction-1" "observer-a" 1 12 30), .advance 1 (), .advance 1 (),
    .start (.complete "prediction-1" "observer-a" 1 2 15 ⟨.verified, .withinAcceptableRange⟩),
    .advance 2 (), .advance 2 ()]

theorem pending_effects_kept_completed : (ObservesPortable completedRun ∧
      ((pendingEffectStore.run (Machine.idle emptyStore) completedRun).world.current
        "prediction-1").map (Row.get · "status") = some (.str "completed")) ∧
      (∀ key,
        let log := logOf key (pendingEffectStore.run (Machine.idle emptyStore)
          completedRun).world.log
        log = [] ∨ ∃ expected, expected.val.predictionId = key ∧ EffectKept expected log) ∧
      ReadyExact (pendingEffectStore.run (Machine.idle emptyStore) completedRun).world :=
  have kept := pending_effects_kept completedRun (by decide +kernel)
  ⟨by decide +kernel, kept.1, kept.2.1⟩

/-- What the store holds after a registration. -/
def registeredRow (expected : ExpectedEffect) : Option Row :=
  (pendingEffectStore.run (Machine.idle emptyStore)
    [.start (.register expected "restart" "prod" "v1"), .advance 0 ()]).world.current "prediction-1"

/-- **Not every registered effect survives**: with an integer bound the row does not decode, and no
ready scan succeeds; with a frozen prediction the row decodes to an effect that verifies what the
registered one holds. -/
theorem registered_effects_lost :
    (¬ ∀ (expected : ExpectedEffect) (row : Row), registeredRow expected = some row →
      ∃ record, fromMapping row = .ok record) ∧
    (∃ row, registeredRow integerEffect = some row ∧ (listReady [row] 15 100).toBool = false) ∧
    ∃ row record, registeredRow frozenEffect = some row ∧ fromMapping row = .ok record ∧
      verifyEffect frozenEffect.val (inside frozenEffect.val) = ⟨.hold, .observationUnitMismatch⟩ ∧
      verifyEffect record.val.expected.val (inside frozenEffect.val) =
        ⟨.verified, .withinAcceptableRange⟩ := by
  have integerRow : registeredRow integerEffect =
      some (registration integerEffect "restart" "prod" "v1").toMapping := by decide +kernel
  have frozenRow : registeredRow frozenEffect =
      some (registration frozenEffect "restart" "prod" "v1").toMapping := by decide +kernel
  have undecodable : (fromMapping (registration integerEffect "restart" "prod" "v1").toMapping).toBool
      = false := by decide +kernel
  refine ⟨?_, ⟨_, integerRow, by decide +kernel⟩, ?_⟩
  · intro decodes
    obtain ⟨record, decoded⟩ := decodes integerEffect _ integerRow
    rw [decoded] at undecodable
    cases undecodable
  · cases decoded : fromMapping (registration frozenEffect "restart" "prod" "v1").toMapping with
    | error message =>
      have decodes : (fromMapping (registration frozenEffect "restart" "prod"
        "v1").toMapping).toBool = true := by decide +kernel
      rw [decoded] at decodes
      cases decodes
    | ok record =>
      have verdict : (fromMapping (registration frozenEffect "restart" "prod" "v1").toMapping).map
          (fun record => verifyEffect record.val.expected.val (inside frozenEffect.val)) =
            .ok ⟨.verified, .withinAcceptableRange⟩ := by decide +kernel
      rw [decoded] at verdict
      exact ⟨_, record, frozenRow, decoded, by decide +kernel, Except.ok.inj verdict⟩

end Fdai.Core.MscpProfile
