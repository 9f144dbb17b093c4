import Fdai.Documents.PythonEquality
import Fdai.Providers.Contracts
import Fdai.Sequences.SortedBy

/-!
# The hold fence

What is stored of the hold of a target is read twice: by `is_held`, and by the fence that is rechecked
under the lock of the target, immediately before a dispatch.

* `isHeld`, `readHoldRecord` — the two readings of the ledger.
* `classifyHold`, `recheckHoldFence` — the fence.
* `Agrees` — a target that is held is not eligible, and one that stands released is eligible under its
  own release only.
* `recheck_agrees_iff` — exactly when they agree.
-/

namespace Fdai.Core.HoldFence

open Fdai.Documents Fdai.Sequences

/-- What is hashed, and how. -/
structure Digests where
  /-- `hashlib.sha256(…).hexdigest()`. -/
  sha256 : String → String
  contentDigest : Json → String

/-- A mapping that is stored. -/
abbrev Stored := List (String × Json)

/-- `value.get(key) == expected`. -/
def fieldEq (value : Stored) (key : String) (expected : Json) : Bool :=
  (value.lookup key).any (·.pyEq expected)

variable (digests : Digests) (store : String → Option Stored)

def stateKey (targetRef : String) : String := "workflow:automation-hold:" ++ digests.sha256 targetRef

def isOf (targetRef : String) (record : Stored) : Bool :=
  fieldEq record "target_digest" (.text (digests.sha256 targetRef))

def isHeld (targetRef : String) : Bool :=
  match store (stateKey digests targetRef) with
  | none => false
  | some record => !(isOf digests targetRef record && fieldEq record "state" (.text "released"))

def readHoldRecord (targetRef : String) : Json :=
  match store (stateKey digests targetRef) with
  | none => .null
  | some record => if isOf digests targetRef record then .object record else .null

/-! ## The fence -/

inductive HoldFenceState where
  | noHold
  | activeHold
  | releasedHold
  | malformedHold
  | unreadable
  deriving DecidableEq

def HoldFenceState.value : HoldFenceState → String
  | noHold => "no_hold"
  | activeHold => "active_hold"
  | releasedHold => "released_hold"
  | malformedHold => "malformed_hold"
  | unreadable => "unreadable"

/-- `HoldFenceRejectionReason`, of those that the fence gives. -/
inductive HoldFenceRejectionReason where
  | activeHold
  | malformedHold
  | unreadableState
  | releaseReceiptMissing
  | releaseReceiptMismatch
  | fencingGenerationMismatch
  | lockOwnershipUnproven
  | holdReissuedAfterRelease
  | holdAuthorizationMismatch
  deriving DecidableEq

def HoldFenceRejectionReason.value : HoldFenceRejectionReason → String
  | activeHold => "active_hold"
  | malformedHold => "malformed_hold"
  | unreadableState => "unreadable_state"
  | releaseReceiptMissing => "release_receipt_missing"
  | releaseReceiptMismatch => "release_receipt_mismatch"
  | fencingGenerationMismatch => "fencing_generation_mismatch"
  | lockOwnershipUnproven => "lock_ownership_unproven"
  | holdReissuedAfterRelease => "hold_reissued_after_release"
  | holdAuthorizationMismatch => "hold_authorization_mismatch"

/-- `HoldLineage`: the release that a dispatch was admitted under. -/
structure HoldLineage where
  releaseReceiptDigest : String
  releasedHoldRevision : ℕ
  fencingGeneration : ℕ
  receipt_digest : isSha256 releaseReceiptDigest = true
  revision_pos : 0 < releasedHoldRevision
  generation_pos : 0 < fencingGeneration

/-- An `int`; a `bool` is one. -/
def intOf : Json → Option ℤ
  | .int value => some value
  | .bool value => some (if value then 1 else 0)
  | _ => none

/-- `_classify_hold` of a dictionary. -/
def classifyRecord (record : Stored) : HoldFenceState :=
  match record.lookup "state" with
  | none | some .null => .noHold
  | some (.text state) =>
    if state = "active" then .activeHold
    else if state = "released" then
      match (record.lookup "revision").bind intOf with
      | some revision => if revision < 1 then .malformedHold else .releasedHold
      | none => .malformedHold
    else .malformedHold
  | some _ => .malformedHold

def classifyHold : Json → HoldFenceState
  | .null => .noHold
  | .object record => classifyRecord record
  | _ => .unreadable

/-- `_check_released_lineage`, and the check for a hold that was issued again. -/
def releasedReasons (record : Stored) (lineage : HoldLineage) : List HoldFenceRejectionReason :=
  (match record.lookup "release_receipt" with
    | some (.object releaseReceipt) =>
      (if fieldEq releaseReceipt "receipt_digest" (.text lineage.releaseReceiptDigest) then []
        else [.releaseReceiptMismatch]) ++
      (if fieldEq record "fencing_generation" (.int lineage.fencingGeneration) then []
        else [.fencingGenerationMismatch])
    | _ => [.releaseReceiptMissing]) ++
  (match (record.lookup "revision").bind intOf with
    | some revision =>
      if (lineage.fencingGeneration : ℤ) < revision then [.holdReissuedAfterRelease] else []
    | none => [])

/-- A lock is held: its token is there, and not empty. -/
def isLocked (lockOwnershipToken : Option String) : Bool := lockOwnershipToken.any (· ≠ "")

def matchesAuthorizedRevision (holdRecord : Json) (authorizedHoldRevision : ℤ) : Bool :=
  match holdRecord.get "revision" with
  | some (.int revision) => revision = authorizedHoldRevision
  | _ => false

/-- The reason of a state that denies every dispatch. -/
def stateReasons : HoldFenceState → List HoldFenceRejectionReason
  | .activeHold => [.activeHold]
  | .malformedHold => [.malformedHold]
  | .unreadable => [.unreadableState]
  | .releasedHold | .noHold => []

/-- What speaks against a dispatch without an authorization. -/
def unauthorizedReasons (holdRecord : Json) (expectedLineage : Option HoldLineage) :
    List HoldFenceRejectionReason :=
  match classifyHold holdRecord, holdRecord, expectedLineage with
  | .releasedHold, .object record, some lineage => releasedReasons record lineage
  | .noHold, _, some _ => [.releaseReceiptMissing]
  | holdState, _, _ => stateReasons holdState

/-- What speaks against a dispatch that is authorized under one revision of the hold. -/
def authorizedReasons (holdRecord : Json) (expectedLineage : Option HoldLineage)
    (authorizedHoldRevision : ℤ) : List HoldFenceRejectionReason :=
  (if expectedLineage.isSome then [.holdAuthorizationMismatch] else []) ++
  (if classifyHold holdRecord = .activeHold ∧ matchesAuthorizedRevision holdRecord authorizedHoldRevision
    then [] else .holdAuthorizationMismatch :: stateReasons (classifyHold holdRecord))

structure HoldFenceCheckResult where
  targetDigest : String
  holdState : HoldFenceState
  holdLineage : Option HoldLineage
  eligible : Bool
  rejectionReasons : List HoldFenceRejectionReason
  /-- An aware datetime. -/
  checkedAt : ℤ
  lockOwnershipToken : Option String
  resultDigest : String
  /-- What is eligible has no reasons against it, and nothing else has none. -/
  eligible_iff : eligible = true ↔ rejectionReasons = []

/-- `sorted(set(reasons), key=str)`. -/
def sortedReasons (reasons : List HoldFenceRejectionReason) : List HoldFenceRejectionReason :=
  sortedBy HoldFenceRejectionReason.value reasons.dedup

theorem sortedReasons_eq_nil {reasons : List HoldFenceRejectionReason} :
    sortedReasons reasons = [] ↔ reasons = [] := by
  unfold sortedReasons
  constructor
  · intro isNil
    have perm := perm_sortedBy HoldFenceRejectionReason.value reasons.dedup
    rw [isNil] at perm
    exact (List.dedup_eq_nil _).1 perm.symm.eq_nil
  · rintro rfl
    rfl

def result (targetDigest : String) (holdState : HoldFenceState)
    (expectedLineage : Option HoldLineage) (reasons : List HoldFenceRejectionReason)
    (lockOwnershipToken : Option String) (checkedAt : ℤ) : HoldFenceCheckResult where
  targetDigest
  holdState
  holdLineage := expectedLineage
  eligible := reasons.length = 0
  rejectionReasons := sortedReasons reasons
  checkedAt
  lockOwnershipToken
  resultDigest := digests.contentDigest (.object
    [("target_digest", .text targetDigest), ("hold_state", .text holdState.value),
      ("eligible", .bool (reasons.length = 0)),
      ("rejection_reasons", .texts ((sortedReasons reasons).map HoldFenceRejectionReason.value)),
      ("checked_at", .text (isoformat checkedAt))])
  eligible_iff := by rw [sortedReasons_eq_nil, decide_eq_true_eq, List.length_eq_zero_iff]

def recheckHoldFence (targetDigest : String) (holdRecord : Json)
    (expectedLineage : Option HoldLineage) (lockOwnershipToken : Option String) (checkedAt : ℤ)
    (authorizedHoldRevision : Option ℤ) : HoldFenceCheckResult :=
  let lockReasons := if isLocked lockOwnershipToken then [] else [.lockOwnershipUnproven]
  let reasons :=
    match authorizedHoldRevision with
    | some revision => authorizedReasons holdRecord expectedLineage revision
    | none => unauthorizedReasons holdRecord expectedLineage
  result digests targetDigest (classifyHold holdRecord) expectedLineage (lockReasons ++ reasons)
    lockOwnershipToken checkedAt

/-! ## What is eligible -/

variable {digests store} {targetRef targetDigest : String} {holdRecord : Json} {record : Stored}
  {expectedLineage : Option HoldLineage} {lineage : HoldLineage} {token : Option String}
  {checkedAt : ℤ}

/-- **A dispatch without an authorization** is eligible if the lock is held and nothing speaks against
it. -/
theorem eligible_iff :
    (recheckHoldFence digests targetDigest holdRecord expectedLineage token checkedAt none).eligible =
      true ↔ isLocked token = true ∧ unauthorizedReasons holdRecord expectedLineage = [] := by
  show decide (((if isLocked token then [] else [HoldFenceRejectionReason.lockOwnershipUnproven]) ++
    unauthorizedReasons holdRecord expectedLineage).length = 0) = true ↔ _
  rw [decide_eq_true_eq, List.length_eq_zero_iff, List.append_eq_nil_iff]
  refine and_congr_left fun _ => ?_
  cases isLocked token with
  | true => exact ⟨fun _ => rfl, fun _ => rfl⟩
  | false =>
    refine ⟨fun never => ?_, fun never => ?_⟩
    · cases never
    · cases never

/-- What is stored says nothing of a state. -/
def Stateless (record : Stored) : Prop :=
  record.lookup "state" = none ∨ record.lookup "state" = some .null

instance (record : Stored) : Decidable (Stateless record) := inferInstanceAs (Decidable (_ ∨ _))

/-- The revision of a release that no later hold has replaced. -/
def InOrder (record : Stored) (lineage : HoldLineage) : Prop :=
  ∃ revision, (record.lookup "revision").bind intOf = some revision ∧ 1 ≤ revision ∧
    revision ≤ lineage.fencingGeneration

/-- The record says `released`. -/
theorem lookup_of_released (released : fieldEq record "state" (.text "released") = true) :
    record.lookup "state" = some (.text "released") := by
  unfold fieldEq at released
  rcases found : record.lookup "state" with _ | state
  · rw [found] at released
    cases released
  rw [found] at released
  have same : state.pyEq (.text "released") = true := released
  cases state with
  | text value =>
    have : value = "released" := by simpa [Json.pyEq, Json.scalarEq, Json.number] using same
    rw [this]
  | null | bool | int | float | list | object =>
    simp [Json.pyEq, Json.scalarEq, Json.number] at same

/-- A record that is not there is no hold. -/
theorem unauthorizedReasons_null : unauthorizedReasons .null expectedLineage = [] ↔
    expectedLineage = none := by
  cases expectedLineage with
  | none => exact ⟨fun _ => rfl, fun _ => rfl⟩
  | some lineage => exact ⟨fun never => (List.cons_ne_nil _ _ never).elim, fun never => by cases never⟩

/-- A record without a state is no hold. -/
theorem unauthorizedReasons_stateless (stateless : Stateless record) :
    unauthorizedReasons (.object record) expectedLineage = [] ↔ expectedLineage = none := by
  have isNone : classifyHold (.object record) = .noHold := by
    show classifyRecord record = .noHold
    unfold classifyRecord
    rcases stateless with missing | isNull
    · rw [missing]
    · rw [isNull]
  unfold unauthorizedReasons
  rw [isNone]
  cases expectedLineage with
  | none => exact ⟨fun _ => rfl, fun _ => rfl⟩
  | some lineage => exact ⟨fun never => (List.cons_ne_nil _ _ never).elim, fun never => by cases never⟩

/-- What is stored in a state that is neither `released` nor missing is a hold, or is malformed. -/
theorem classifyRecord_of_stated (stated : ¬ Stateless record)
    (held : fieldEq record "state" (.text "released") = false) :
    classifyRecord record = .activeHold ∨ classifyRecord record = .malformedHold := by
  unfold classifyRecord
  split
  · exact (stated (.inl (by assumption))).elim
  · exact (stated (.inr (by assumption))).elim
  · rename_i state found
    split
    · exact .inl rfl
    split
    · rename_i isReleased
      unfold fieldEq at held
      rw [found, isReleased] at held
      simp [Json.pyEq, Json.scalarEq, Json.number] at held
    · exact .inr rfl
  · exact .inr rfl

/-- **A state that is not `released`** speaks against every dispatch. -/
theorem unauthorizedReasons_held (stated : ¬ Stateless record)
    (held : fieldEq record "state" (.text "released") = false) :
    unauthorizedReasons (.object record) expectedLineage ≠ [] := by
  unfold unauthorizedReasons
  rcases classifyRecord_of_stated stated held with isActive | isMalformed
  · rw [show classifyHold (.object record) = .activeHold from isActive]
    exact List.cons_ne_nil _ _
  · rw [show classifyHold (.object record) = .malformedHold from isMalformed]
    exact List.cons_ne_nil _ _

theorem classifyRecord_released (released : fieldEq record "state" (.text "released") = true) :
    classifyRecord record =
      match (record.lookup "revision").bind intOf with
      | some revision => if revision < 1 then .malformedHold else .releasedHold
      | none => .malformedHold := by
  unfold classifyRecord
  rw [lookup_of_released released]
  rfl

/-- The receipt and the generation of a release are those of a lineage. -/
def Receipted (record : Stored) (lineage : HoldLineage) : Prop :=
  ∃ receipt, record.lookup "release_receipt" = some (.object receipt) ∧
    fieldEq receipt "receipt_digest" (.text lineage.releaseReceiptDigest) = true ∧
    fieldEq record "fencing_generation" (.int lineage.fencingGeneration) = true

theorem releasedReasons_eq_nil {revision : ℤ}
    (isRevision : (record.lookup "revision").bind intOf = some revision) :
    releasedReasons record lineage = [] ↔
      Receipted record lineage ∧ revision ≤ lineage.fencingGeneration := by
  unfold releasedReasons Receipted
  rw [isRevision, List.append_eq_nil_iff]
  refine and_congr ?_ ?_
  · split
    · rename_i receipt found
      rw [found, List.append_eq_nil_iff]
      constructor
      · rintro ⟨digest, generation⟩
        refine ⟨receipt, rfl, ?_, ?_⟩
        · by_contra differs
          rw [if_neg differs] at digest
          cases digest
        · by_contra differs
          rw [if_neg differs] at generation
          cases generation
      · rintro ⟨_, same, digest, generation⟩
        obtain rfl := Json.object.inj (Option.some.inj same)
        rw [if_pos digest, if_pos generation]
        exact ⟨rfl, rfl⟩
    · rename_i missing
      refine ⟨fun never => (List.cons_ne_nil _ _ never).elim, ?_⟩
      rintro ⟨receipt, found, -⟩
      exact (missing receipt found).elim
  · dsimp only
    split
    · rename_i above
      exact ⟨fun never => (List.cons_ne_nil _ _ never).elim, fun below => (above.not_ge below).elim⟩
    · rename_i below
      exact ⟨fun _ => not_lt.1 below, fun _ => rfl⟩

/-- **A release** speaks for the dispatches that were admitted under it, and are in order. -/
theorem unauthorizedReasons_released (released : fieldEq record "state" (.text "released") = true) :
    unauthorizedReasons (.object record) (some lineage) = [] ↔
      Receipted record lineage ∧ InOrder record lineage := by
  have isClass := classifyRecord_released released
  unfold unauthorizedReasons InOrder
  rcases isRevision : (record.lookup "revision").bind intOf with _ | revision
  · rw [isRevision] at isClass
    rw [show classifyHold (.object record) = .malformedHold from isClass]
    refine ⟨fun never => (List.cons_ne_nil _ _ never).elim, ?_⟩
    rintro ⟨-, _, never, -⟩
    cases never
  rw [isRevision] at isClass
  dsimp only at isClass
  by_cases positive : 1 ≤ revision
  · rw [if_neg (by omega)] at isClass
    rw [show classifyHold (.object record) = .releasedHold from isClass]
    show releasedReasons record lineage = [] ↔ _
    rw [releasedReasons_eq_nil isRevision]
    refine and_congr_right fun _ => ⟨fun below => ⟨revision, rfl, positive, below⟩, ?_⟩
    rintro ⟨_, ⟨⟩, -, below⟩
    exact below
  · rw [if_pos (by omega)] at isClass
    rw [show classifyHold (.object record) = .malformedHold from isClass]
    refine ⟨fun never => (List.cons_ne_nil _ _ never).elim, ?_⟩
    rintro ⟨-, _, ⟨⟩, isPositive, -⟩
    exact (positive isPositive).elim

/-! ## The two readings -/

def StandsReleased (digests : Digests) (store : String → Option Stored) (targetRef : String)
    (record : Stored) : Prop :=
  store (stateKey digests targetRef) = some record ∧ isOf digests targetRef record = true ∧
    fieldEq record "state" (.text "released") = true

/-- The hold that a release released is the one of a lineage. -/
def SameRevision (record : Stored) (lineage : HoldLineage) : Prop :=
  ∃ receipt, record.lookup "release_receipt" = some (.object receipt) ∧
    fieldEq receipt "released_hold_revision" (.int lineage.releasedHoldRevision) = true

/-- **The two readings agree**, without an authorization: a target that is held is not eligible, and one
that stands released is, under the lock, exactly if the receipt, the revision and the generation of its
release are those of the lineage. -/
structure Agrees (digests : Digests) (store : String → Option Stored)
    (targetRef targetDigest : String) (expectedLineage : Option HoldLineage) (token : Option String)
    (checkedAt : ℤ) : Prop where
  held : isHeld digests store targetRef = true →
    (recheckHoldFence digests targetDigest (readHoldRecord digests store targetRef) expectedLineage
      token checkedAt none).eligible = false
  released : ∀ record lineage, StandsReleased digests store targetRef record →
    expectedLineage = some lineage → isLocked token = true →
      ((recheckHoldFence digests targetDigest (readHoldRecord digests store targetRef) expectedLineage
        token checkedAt none).eligible = true ↔
          Receipted record lineage ∧ SameRevision record lineage)

section

variable (stored : store (stateKey digests targetRef) = some record)

include stored

theorem isHeld_eq : isHeld digests store targetRef =
    !(isOf digests targetRef record && fieldEq record "state" (.text "released")) := by
  unfold isHeld
  rw [stored]

theorem readHoldRecord_eq : readHoldRecord digests store targetRef =
    if isOf digests targetRef record then .object record else .null := by
  unfold readHoldRecord
  rw [stored]

/-- **What is held** is eligible for a dispatch without a lineage if the record is of another target, or
says nothing of a state. -/
theorem held_eligible_iff (held : isHeld digests store targetRef = true) :
    (recheckHoldFence digests targetDigest (readHoldRecord digests store targetRef) expectedLineage
      token checkedAt none).eligible = true ↔ isLocked token = true ∧ expectedLineage = none ∧
          ¬ (isOf digests targetRef record = true ∧ ¬ Stateless record) := by
  rw [eligible_iff, readHoldRecord_eq stored]
  refine and_congr_right fun _ => ?_
  rw [isHeld_eq stored] at held
  rcases ofTarget : isOf digests targetRef record with _ | _
  · rw [if_neg Bool.false_ne_true, unauthorizedReasons_null]
    have closed : ¬ (false = true ∧ ¬ Stateless record) := fun never => Bool.false_ne_true never.1
    rw [and_iff_left closed]
  rw [if_pos rfl]
  rw [ofTarget, Bool.true_and, Bool.not_eq_true'] at held
  by_cases stateless : Stateless record
  · rw [unauthorizedReasons_stateless stateless]
    exact (and_iff_left fun never => never.2 stateless).symm
  · exact ⟨fun never => (unauthorizedReasons_held stateless held never).elim,
      fun never => (never.2 ⟨rfl, stateless⟩).elim⟩

end

/-- **What stands released** is eligible, under the lock, for what was admitted under its release, if that
is in order. -/
theorem released_eligible_iff (stands : StandsReleased digests store targetRef record)
    (locked : isLocked token = true) :
    (recheckHoldFence digests targetDigest (readHoldRecord digests store targetRef) (some lineage)
      token checkedAt none).eligible = true ↔ Receipted record lineage ∧ InOrder record lineage := by
  obtain ⟨stored, ofTarget, released⟩ := stands
  rw [eligible_iff, readHoldRecord_eq stored, if_pos ofTarget, unauthorizedReasons_released released]
  exact and_iff_right locked

/-- **Exactly when the two readings agree**: under the lock, a dispatch without a lineage finds no record
that is of another target or says nothing of a state; and a release whose receipt and generation are
those of the lineage is of its revision exactly if its own revision is in order. -/
theorem recheck_agrees_iff (digests : Digests) (store : String → Option Stored)
    (targetRef targetDigest : String) (expectedLineage : Option HoldLineage) (token : Option String)
    (checkedAt : ℤ) :
    Agrees digests store targetRef targetDigest expectedLineage token checkedAt ↔
      (isLocked token = true → expectedLineage = none →
        ∀ record, store (stateKey digests targetRef) = some record →
          isOf digests targetRef record = true ∧ ¬ Stateless record) ∧
      (isLocked token = true → ∀ record lineage, StandsReleased digests store targetRef record →
        expectedLineage = some lineage → Receipted record lineage →
          (InOrder record lineage ↔ SameRevision record lineage)) := by
  constructor
  · intro agrees
    refine ⟨fun locked isNone record stored => ?_, fun locked record lineage stands isLineage receipted => ?_⟩
    · by_contra closed
      have held : isHeld digests store targetRef = true := by
        rw [isHeld_eq stored, Bool.not_eq_true', Bool.and_eq_false_iff]
        by_contra both
        obtain ⟨ofTarget, released⟩ := not_or.1 both
        refine closed ⟨by simpa using ofTarget, fun stateless => ?_⟩
        have found := lookup_of_released (by simpa using released)
        rcases stateless with missing | isNull
        · rw [found] at missing
          cases missing
        · rw [found] at isNull
          cases isNull
      have refused := agrees.held held
      rw [(held_eligible_iff stored held).2 ⟨locked, isNone, closed⟩] at refused
      cases refused
    · have eligible := agrees.released record lineage stands isLineage locked
      subst isLineage
      rw [released_eligible_iff stands locked] at eligible
      exact ⟨fun inOrder => (eligible.1 ⟨receipted, inOrder⟩).2,
        fun same => (eligible.2 ⟨receipted, same⟩).2⟩
  · rintro ⟨closed, sameRevision⟩
    refine ⟨fun held => ?_, fun record lineage stands isLineage locked => ?_⟩
    · rw [← Bool.not_eq_true]
      intro eligible
      cases stored : store (stateKey digests targetRef) with
      | none =>
        unfold isHeld at held
        rw [stored] at held
        cases held
      | some record =>
        obtain ⟨locked, isNone, notReadable⟩ := (held_eligible_iff stored held).1 eligible
        exact notReadable (closed locked isNone record stored)
    · subst isLineage
      rw [released_eligible_iff stands locked]
      exact and_congr_right (sameRevision locked record lineage stands rfl)

def targetDigests : Digests where
  sha256 := fun _ => "2d62b0035f348790d3b99c33de8058c46bc32f90383b78dd834ff07eed596cf4"
  contentDigest := fun _ =>
    "sha256:0000000000000000000000000000000000000000000000000000000000000000"

def receiptDigest : String :=
  "sha256:1111111111111111111111111111111111111111111111111111111111111111"

/-- The record of a target whose hold was released at its seventh revision. -/
def releasedRecord : Stored :=
  [("target_digest", .text (targetDigests.sha256 "vm-1")), ("state", .text "released"),
    ("revision", .int 8), ("fencing_generation", .int 8),
    ("release_receipt", .object [("receipt_digest", .text receiptDigest),
      ("released_hold_revision", .int 7), ("fencing_generation", .int 8)])]

/-- A lineage of that receipt that names the third revision. -/
def otherRevision : HoldLineage where
  releaseReceiptDigest := receiptDigest
  releasedHoldRevision := 3
  fencingGeneration := 8
  receipt_digest := by decide
  revision_pos := by decide
  generation_pos := by decide

/-- **A lineage of another revision** is eligible under a release. -/
theorem other_revision_eligible : ¬ ∀ (digests : Digests) (store : String → Option Stored)
    (targetRef targetDigest : String) (expectedLineage : Option HoldLineage) (token : Option String)
    (checkedAt : ℤ), Agrees digests store targetRef targetDigest expectedLineage token checkedAt := by
  intro always
  have stands : StandsReleased targetDigests (fun _ => some releasedRecord) "vm-1" releasedRecord :=
    ⟨rfl, by decide +kernel, by decide +kernel⟩
  have agrees := (always targetDigests (fun _ => some releasedRecord) "vm-1"
    "sha256:vm-1" (some otherRevision) (some "lock-1") 0).released releasedRecord otherRevision stands
      rfl rfl
  have inOrder : InOrder releasedRecord otherRevision := ⟨8, rfl, by decide, by decide⟩
  have receipted : Receipted releasedRecord otherRevision :=
    ⟨_, rfl, by decide +kernel, by decide +kernel⟩
  obtain ⟨-, receipt, isReceipt, same⟩ :=
    agrees.1 ((released_eligible_iff stands rfl).2 ⟨receipted, inOrder⟩)
  obtain rfl := Json.object.inj (Option.some.inj isReceipt)
  revert same
  decide +kernel

end Fdai.Core.HoldFence
