import Fdai.Concurrency.Register
import Fdai.Providers.Record
import Fdai.Providers.Checks
import Fdai.Sequences.Keyed

/-!
# Chaos reservations

Loki reserves the targets of its chaos experiments in one durable record, so that no two live
experiments touch the same target and all of them together stay within a cap. `reserve`,
`release` and `expire_stale` replace the record under its revision, in at most eight attempts.

* `Journal` — `LokiReservationJournal`, with its cap in range.
* `decode`, `encode` — the stored record and the experiments in it.
* `reserveDecision`, `releaseDecision`, `expireDecision` — what one attempt of each method writes.
-/

namespace Fdai.Core.LokiReservations

open Fdai.Sequences Fdai.Concurrency

def maxCasAttempts : ℕ := 8

def maxIdentifierChars : ℕ := 512

def maxTargets : ℕ := 32

def maxBlastRadiusCap : ℕ := 256

structure ReservationRecord where
  actionType : String
  requestedTargets : List String
  selectedTargets : List String
  reservedAt : String

/-- The experiments of a record, by their ids. -/
abbrev Experiments := Keyed (Prod.fst : String × ReservationRecord → String)

structure ReservationResult where
  targets : List String
  occupied : List String
  duplicate : Bool := false

/-- What a method raises. -/
inductive LokiError where
  /-- `ValueError`. -/
  | value (message : String)
  /-- `RuntimeError`. -/
  | runtime (message : String)

/-- `LokiReservationJournal`: its configured cap. -/
structure Journal where
  cap : ℕ
  cap_pos : 1 ≤ cap
  cap_le : cap ≤ maxBlastRadiusCap

def safeIdentifier (value : String) : Bool :=
  strip value ≠ "" && strip value = value && (strip value).length ≤ maxIdentifierChars &&
    !(strip value).toList.any fun c => (c.toNat < 32 && c ≠ '\t') || c.toNat = 127

def validateReservationIdentity (experimentId actionType : String) (targets : List String) :
    Except LokiError Unit :=
  validate [ (safeIdentifier experimentId && safeIdentifier actionType,
      .value "chaos reservation identity is malformed"),
    (1 ≤ targets.length && targets.length ≤ maxTargets,
      .value "chaos reservation targets are malformed"),
    (targets.all safeIdentifier, .value "chaos reservation targets are malformed"),
    ((targets.map strip).dedup.length = targets.length,
      .value "chaos reservation targets are malformed")]

def allTargets (experiments : Experiments) : List String :=
  experiments.values.flatMap fun (_, reservation) => reservation.selectedTargets

def occupied (experiments : Experiments) : Except LokiError (List String) :=
  let targets := allTargets experiments
  if targets.dedup.length ≠ targets.length then
    .error (.value "chaos reservation targets overlap")
  else .ok targets

/-- The safe texts among some values. -/
def decodeTargets (raw : List Value) : List String :=
  raw.filterMap fun
    | .str target => if safeIdentifier target then some (strip target) else none
    | _ => none

/-- `reserved_at`, which may be missing. -/
def decodeReservedAt : Option Value → Except LokiError String
  | none => .ok ""
  | some (.str reservedAt) => .ok reservedAt
  | some _ => .error (.value "chaos reservation reserved_at is malformed")

def decodeReservation (raw : Record) : Except LokiError ReservationRecord :=
  match Value.get raw "action_type", Value.get raw "requested_targets", Value.get raw "targets" with
  | some (.str actionType), some (.list rawRequested), some (.list rawTargets) =>
    if !safeIdentifier actionType then .error (.value "chaos reservation fields are malformed")
    else
      let requested := decodeTargets rawRequested
      let targets := decodeTargets rawTargets
      if requested.length ≠ rawRequested.length || requested = [] ||
          maxTargets < requested.length || requested.dedup.length ≠ requested.length ||
          targets.length ≠ rawTargets.length || targets = [] ||
          targets.dedup.length ≠ targets.length || !targets.all (· ∈ requested) then
        .error (.value "chaos reservation targets are malformed")
      else do
        let reservedAt ← decodeReservedAt (Value.get raw "reserved_at")
        return ⟨actionType, requested, targets, reservedAt⟩
  | _, _, _ => .error (.value "chaos reservation fields are malformed")

/-- One entry of `experiments`. -/
def decodeExperiment : Value × Value → Except LokiError (String × ReservationRecord)
  | (.str experimentId, .mapping raw) =>
    if !safeIdentifier experimentId then
      .error (.value "chaos reservation experiment is malformed")
    else do
      let reservation ← decodeReservation raw
      return (experimentId, reservation)
  | _ => .error (.value "chaos reservation experiment is malformed")

/-- The loop over `experiments`. -/
def decodeExperiments : Experiments → Record → Except LokiError Experiments
  | experiments, [] => .ok experiments
  | experiments, entry :: rest => do
    let decoded ← decodeExperiment entry
    decodeExperiments (experiments.put decoded) rest

/-- `_decode`: the revision, the cap and the experiments. -/
def decode : Option Record → Except LokiError (ℕ × Option ℕ × Experiments)
  | none => .ok (0, none, Keyed.empty)
  | some record =>
    match positive? (Value.get record "revision") with
    | none => .error (.value "chaos reservation revision must be a positive integer")
    | some revision =>
      match positive? (Value.get record "blast_radius_cap") with
      | none => .error (.value "chaos reservation blast-radius cap must be a positive integer")
      | some cap =>
        match Value.get record "experiments" with
        | some (.mapping raw) => do
          let experiments ← decodeExperiments Keyed.empty raw
          let _ ← occupied experiments
          return (revision, some cap, experiments)
        | _ => .error (.value "chaos reservation experiments must be an object")

/-- One reservation, as it is stored. -/
def encodeReservation (reservation : ReservationRecord) : Record :=
  Record.ofFields [ ("action_type", .str reservation.actionType),
    ("requested_targets", .list (reservation.requestedTargets.map .str)),
    ("targets", .list (reservation.selectedTargets.map .str)),
    ("reserved_at", .str reservation.reservedAt)]

/-- `sorted(experiments.items())`. -/
def sortedExperiments (experiments : Experiments) : List (String × ReservationRecord) :=
  experiments.values.mergeSort fun a b => a.1 ≤ b.1

def encode (revision cap : ℕ) (experiments : Experiments) : Record :=
  Record.ofFields [ ("schema_version", .str "1.0.0"), ("revision", .int revision),
    ("blast_radius_cap", .int cap),
    ("experiments", .mapping (Record.ofFields ((sortedExperiments experiments).map
      fun (experimentId, reservation) =>
        (experimentId, .mapping (encodeReservation reservation)))))]

/-! ## The methods -/

/-- The audit entry of a write. The cap of the journal that writes is not part of it. -/
structure Audit where
  actionKind : String
  experimentId : Option String
  revision : ℕ
  targetCount : ℕ
  journalCap : ℕ

def validateCap (journal : Journal) (storedCap : Option ℕ) : Except LokiError Unit :=
  match storedCap with
  | none => .ok ()
  | some cap =>
    if cap ≠ journal.cap then
      .error (.value "chaos reservation blast-radius cap conflicts with durable state")
    else .ok ()

/-- `items[:end]`; a negative end counts from the back. -/
def sliceTo (items : List String) (stop : ℤ) : List String :=
  if 0 ≤ stop then items.take stop.toNat else items.take (items.length - stop.natAbs)

/-- What one attempt of a method decides. -/
abbrev Attempt := Decision Record Audit LokiError (Option ReservationResult)

/-- One attempt of `reserve`. -/
def reserveDecision (journal : Journal) (experimentId actionType : String)
    (targets : List String) (reservedAt : String) (current : Option Record) : Attempt :=
  .ofExcept do
    let (revision, storedCap, experiments) ← decode current
    validateCap journal storedCap
    match experiments.get experimentId with
    | some (_, existing) =>
      if existing.actionType ≠ actionType ∨ existing.requestedTargets ≠ targets then
        throw (.value "chaos experiment identity conflicts with its reservation")
      else do
        let taken ← occupied experiments
        return .done (.ok (some ⟨existing.selectedTargets, taken, true⟩))
    | none => do
      let taken ← occupied experiments
      let available : ℤ := journal.cap - taken.length
      let selected := sliceTo (targets.filter (· ∉ taken)) available
      if selected = [] then return .done (.ok (some ⟨[], taken, false⟩))
      else
        let reservation : ReservationRecord := ⟨actionType, targets, selected, reservedAt⟩
        let next := experiments.put (experimentId, reservation)
        return .write (encode (revision + 1) journal.cap next)
          ⟨"chaos.reservation.created", some experimentId, revision + 1, selected.length,
            journal.cap⟩
          (do
            let taken ← occupied next
            return some ⟨selected, taken, false⟩)

/-- One attempt of `release`. -/
def releaseDecision (journal : Journal) (experimentId actionType : String)
    (targets : List String) (current : Option Record) : Attempt :=
  .ofExcept do
    let (revision, storedCap, experiments) ← decode current
    validateCap journal storedCap
    match experiments.get experimentId with
    | none => return .done (.ok none)
    | some (_, existing) =>
      if existing.actionType ≠ actionType ∨ existing.selectedTargets ≠ targets then
        throw (.value "chaos completion does not match its reservation")
      else
        let next := experiments.erase experimentId
        return .write (encode (revision + 1) journal.cap next)
          ⟨"chaos.reservation.released", some experimentId, revision + 1, targets.length,
            journal.cap⟩
          (do
            let taken ← occupied next
            return some ⟨targets, taken, false⟩)

/-- A reservation that `expire_stale` keeps: one without a time, or with a later one. -/
def unexpired (cutoff : String) (reservation : ReservationRecord) : Bool :=
  reservation.reservedAt = "" || cutoff < reservation.reservedAt

/-- One attempt of `expire_stale`. -/
def expireDecision (journal : Journal) (cutoff : String) (current : Option Record) : Attempt :=
  .ofExcept do
    let (revision, storedCap, experiments) ← decode current
    validateCap journal storedCap
    let next := experiments.filter fun (_, reservation) => unexpired cutoff reservation
    if next.values.length = experiments.values.length then do
      let taken ← occupied experiments
      return .done (.ok (some ⟨[], taken, false⟩))
    else
      let expired := (experiments.values.filter fun (_, reservation) =>
        !unexpired cutoff reservation).flatMap fun (_, reservation) => reservation.selectedTargets
      return .write (encode (revision + 1) journal.cap next)
        ⟨"chaos.reservation.expired", none, revision + 1, expired.length, journal.cap⟩
        (do
          let taken ← occupied next
          return some ⟨expired, taken, false⟩)

/-- The decision of `snapshot`, which writes nothing. -/
def snapshotDecision (journal : Journal) (current : Option Record) : Attempt :=
  .ofExcept do
    let (_, storedCap, experiments) ← decode current
    validateCap journal storedCap
    let taken ← occupied experiments
    return .done (.ok (some ⟨[], taken, false⟩))

/-- A call of a method of a journal. -/
inductive LokiCall where
  | reserve (journal : Journal) (experimentId actionType : String) (targets : List String)
      (reservedAt : String)
  | release (journal : Journal) (experimentId actionType : String) (targets : List String)
  | expireStale (journal : Journal) (cutoff : String)
  | snapshot (journal : Journal)

/-- A program of a journal. -/
abbrev Reserving :=
  Program (RegisterOp Unit Record Audit Empty) (RegisterOp.Ans nofun) LokiError
    (Option ReservationResult)

/-- What a call runs. -/
def LokiCall.program : LokiCall → Reserving
  | .reserve journal experimentId actionType targets reservedAt =>
    match validateReservationIdentity experimentId actionType targets with
    | .error error => .done (.error error)
    | .ok () =>
      update Record.revision () (reserveDecision journal experimentId actionType targets reservedAt)
        (.runtime "chaos reservation contention exceeded the bounded retry limit") maxCasAttempts
  | .release journal experimentId actionType targets =>
    match validateReservationIdentity experimentId actionType targets with
    | .error error => .done (.error error)
    | .ok () =>
      update Record.revision () (releaseDecision journal experimentId actionType targets)
        (.runtime "chaos release contention exceeded the bounded retry limit") maxCasAttempts
  | .expireStale journal cutoff =>
    update Record.revision () (expireDecision journal cutoff)
      (.runtime "chaos reservation expiry contention exceeded the bounded retry limit")
      maxCasAttempts
  | .snapshot journal =>
    update Record.revision () (snapshotDecision journal) (.runtime "") 1

/-- The store: a write goes through exactly if its revision does. -/
def parts : Registers Unit Record Audit Unit Empty Unit nofun where
  revision := Record.revision
  lets _ _ := true
  other _ _ request := nomatch request

/-- **The replicas of Loki over one store.** -/
def lokiReservations : Machine (RegisterOp Unit Record Audit Empty) (RegisterOp.Ans nofun)
    (RegisterWorld Unit Record Audit Unit) LokiError (Option ReservationResult) LokiCall Unit :=
  parts.machine fun _ call => call.program

end Fdai.Core.LokiReservations
