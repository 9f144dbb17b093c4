import Mathlib.Data.List.Sort
import Mathlib.Data.Rat.Floor
import Fdai.Concurrency.Machine
import Fdai.Providers.StateStore
import Fdai.Sequences.Keyed
import Fdai.Sequences.SlidingWindow

/-!
# The proposal rate limiter

One record holds the proposal budget of an agent: how many proposals each second had, and
the slots that are reserved. Replicas reserve a slot, then commit or release it, with
compare-and-set writes; `allow` reads and writes the record without one.

* `RateRecord`, `normalizeRecord`, `loadDurableWindows` — the record and its two readers.
* `windowsAt`, `Full` — the decision.
* `reserve`, `commit`, `release`, `allow` — the operations.
* `LimiterWorld` — the store, the clock, and the proposals that were admitted, which nothing
  in the code reads.

Times are exact.
-/

namespace Fdai.Core

open Fdai.Providers Fdai.Concurrency Fdai.Sequences

/-! ## The record -/

/-- A field of a mapping: it may be missing, or of another type. -/
inductive Field (α : Type) where
  | missing
  | other
  | held (value : α)
  deriving DecidableEq

/-- `dict` fields: `record.get(key, {})`, if it is one. -/
def Field.orEmpty {α : Type} (empty : α) : Field α → Option α
  | .missing => some empty
  | .other => none
  | .held value => some value

def Field.held? {α : Type} : Field α → Option α
  | .held value => some value
  | _ => none

/-- Counts by whole seconds, in the order the seconds came. -/
abbrev Buckets := List (ℤ × ℕ)

/-- Reserved slots: the time each token was reserved at. -/
abbrev Reservations := Keyed (Prod.fst : ℕ × ℚ → ℕ)

/-- The stored record. One that an older version wrote has lists of times in place of
counts. -/
structure RateRecord where
  revision : ℕ := 0
  minuteBuckets : Field Buckets := .missing
  hourBuckets : Field Buckets := .missing
  minuteEvents : Field (List ℚ) := .missing
  hourEvents : Field (List ℚ) := .missing
  reservations : Field Reservations := .missing
  deriving DecidableEq

/-- `int(event)`: towards zero. -/
def truncated (event : ℚ) : ℤ := if 0 ≤ event then ⌊event⌋ else ⌈event⌉

/-- Count one more event in a second. -/
def countIn (second : ℤ) : Buckets → Buckets
  | [] => [(second, 1)]
  | (bucket, count) :: rest =>
    if bucket = second then (bucket, count + 1) :: rest
    else (bucket, count) :: countIn second rest

def bucketCounts (events : List ℚ) : Buckets :=
  events.foldl (fun buckets event => countIn (truncated event) buckets) []

/-- The events of the buckets, each at the start of its second. -/
def bucketEvents (buckets : Buckets) : List ℚ :=
  (buckets.insertionSort fun b b' => b.1 ≤ b'.1).flatMap fun (bucket, count) =>
    List.replicate count (bucket : ℚ)

def eventsFromRecord (buckets : Buckets) (events : List ℚ) : List ℚ :=
  if buckets ≠ [] then bucketEvents buckets else events

/-- The events of both windows, and the reserved slots. -/
structure Windows where
  minute : List ℚ
  hour : List ℚ
  reservations : Reservations

/-- `_normalize_record`, with the events of its result. -/
def normalizeRecord : Option RateRecord → Except String (ℕ × Windows)
  | none => .ok (0, ⟨[], [], Keyed.empty⟩)
  | some record =>
    match record.reservations.orEmpty Keyed.empty with
    | none => .error "durable proposal rate-limit window is malformed"
    | some reservations =>
      match record.minuteBuckets.orEmpty [], record.hourBuckets.orEmpty [] with
      | some minute, some hour =>
        -- the lists of an older record are dropped here
        .ok (record.revision, ⟨eventsFromRecord minute [], eventsFromRecord hour [], reservations⟩)
      | _, _ =>
        match record.minuteEvents.orEmpty [], record.hourEvents.orEmpty [] with
        | some minute, some hour => .ok (record.revision, ⟨minute, hour, reservations⟩)
        | _, _ => .error "durable proposal rate-limit window is malformed"

/-- `_load_durable_windows`: the events of both windows. -/
def loadDurableWindows : Option RateRecord → Except String (List ℚ × List ℚ)
  | none => .ok ([], [])
  | some record =>
    match record.minuteBuckets.held?, record.hourBuckets.held? with
    | some minute, some hour =>
      .ok (eventsFromRecord minute ((record.minuteEvents.held?).getD []),
        eventsFromRecord hour ((record.hourEvents.held?).getD []))
    | _, _ =>
      match record.minuteEvents.held?, record.hourEvents.held? with
      | some minute, some hour => .ok (minute, hour)
      | _, _ => .error "durable proposal rate-limit window is malformed"

/-- The mapping that `_store_record` writes. -/
def storedRecord (revision : ℕ) (windows : Windows) : RateRecord where
  revision := revision
  minuteBuckets := .held (bucketCounts windows.minute)
  hourBuckets := .held (bucketCounts windows.hour)
  reservations := .held windows.reservations

/-- The limits of an agent. -/
structure RateLimits where
  perMinute : ℕ
  perHour : ℕ
  perMinute_pos : 1 ≤ perMinute
  perHour_pos : 1 ≤ perHour

def minuteSeconds : ℚ := 60

def hourSeconds : ℚ := 3600

/-- What is left in the windows at a time. -/
def windowsAt (windows : Windows) (t : ℚ) : Windows where
  minute := evict windows.minute (t - minuteSeconds)
  hour := evict windows.hour (t - hourSeconds)
  reservations := windows.reservations.filter fun slot => t - hourSeconds < slot.2

/-- A window has no budget left. -/
def Full (limits : RateLimits) (windows : Windows) (t : ℚ) : Prop :=
  limits.perMinute ≤ windows.minute.length +
      later Prod.snd windows.reservations.values (t - minuteSeconds) ∨
    limits.perHour ≤ windows.hour.length + windows.reservations.values.length

instance (limits : RateLimits) (windows : Windows) (t : ℚ) : Decidable (Full limits windows t) :=
  inferInstanceAs (Decidable (_ ∨ _))

/-- The windows with one more slot. -/
def Windows.reserve (windows : Windows) (token : ℕ) (t : ℚ) : Windows :=
  { windows with reservations := windows.reservations.put (token, t) }

/-- The windows without a slot. -/
def Windows.drop (windows : Windows) (token : ℕ) : Windows :=
  { windows with reservations := windows.reservations.filter fun slot => slot.1 ≠ token }

/-- The windows with the slot as an event. -/
def Windows.consume (windows : Windows) (token : ℕ) (reservedAt : ℚ) : Windows :=
  { windows.drop token with
    minute := windows.minute ++ [reservedAt]
    hour := windows.hour ++ [reservedAt] }

/-! ## Calls -/

/-- What a conditional write is for. The source does not say. -/
inductive RateWrite where
  | full (t : ℚ)
  | reserved (token : ℕ) (t : ℚ)
  | committed (token : ℕ)
  | released (token : ℕ)

/-- What a limiter calls. A write of `allow` carries the record that `allow` read. The
token of a slot is made of the limiter's address, a sequence number and the time; it is a
number here, a new one each time. -/
inductive LimiterOp where
  | now
  | readState
  | writeStateIfAbsent (value : RateRecord) (why : RateWrite)
  | compareAndSetState (value : RateRecord) (expectedRevision : ℕ) (why : RateWrite)
  | nextReservationToken (replica : ℕ)
  | readSyncState
  | writeSyncState (value : RateRecord) (read : Option RateRecord) (t : ℚ) (admits : Bool)

def LimiterOp.Ans : LimiterOp → Type
  | .now => ℚ
  | .readState => Option RateRecord
  | .writeStateIfAbsent _ _ => Bool
  | .compareAndSetState _ _ _ => Bool
  | .nextReservationToken _ => ℕ
  | .readSyncState => Option RateRecord
  | .writeSyncState _ _ _ _ => Unit

/-- A program of a limiter. -/
abbrev Limiting (α : Type) := Program LimiterOp LimiterOp.Ans String α

namespace Limiting

/-- Make one call. -/
def ask (op : LimiterOp) : Limiting op.Ans := Program.invoke op

/-- A check that raises. -/
def checked {α : Type} : Except String α → Limiting α
  | .ok value => pure value
  | .error message => throw message

end Limiting

open Limiting

def storeRecord (windows : Windows) (expectedRevision : ℕ) (why : RateWrite) : Limiting Bool :=
  let value := storedRecord (expectedRevision + 1) windows
  if expectedRevision = 0 then ask (.writeStateIfAbsent value why)
  else ask (.compareAndSetState value expectedRevision why)

/-- `_reserve_durable`, with the attempts that are left. -/
def reserveDurable (limits : RateLimits) (replica : ℕ) : ℕ → Limiting (Option ℕ)
  | 0 => throw "proposal rate limiter CAS retry limit exceeded"
  | attempts + 1 => do
    let t : ℚ ← ask .now
    let stored : Option RateRecord ← ask .readState
    let (revision, windows) ← checked (normalizeRecord stored)
    let windows := windowsAt windows t
    if Full limits windows t then do
      let _ ← storeRecord windows revision (.full t)
      pure none
    else do
      let token : ℕ ← ask (.nextReservationToken replica)
      let isStored ← storeRecord (windows.reserve token t) revision (.reserved token t)
      if isStored then pure (some token)
      else reserveDurable limits replica attempts

/-- `_commit_reservation`, with the attempts that are left. -/
def commitReservation (token : ℕ) : ℕ → Limiting Unit
  | 0 => throw "proposal rate limiter commit CAS retry limit exceeded"
  | attempts + 1 => do
    let stored : Option RateRecord ← ask .readState
    let (revision, windows) ← checked (normalizeRecord stored)
    match windows.reservations.get token with
    | none => pure ()
    | some (_, reservedAt) => do
      let isStored ← storeRecord (windows.consume token reservedAt) revision (.committed token)
      if isStored then pure () else commitReservation token attempts

/-- `_release_reservation`, with the attempts that are left. -/
def releaseReservation (token : ℕ) : ℕ → Limiting Unit
  | 0 => throw "proposal rate limiter release CAS retry limit exceeded"
  | attempts + 1 => do
    let stored : Option RateRecord ← ask .readState
    let (revision, windows) ← checked (normalizeRecord stored)
    match windows.reservations.get token with
    | none => pure ()
    | some _ => do
      let isStored ← storeRecord (windows.drop token) revision (.released token)
      if isStored then pure () else releaseReservation token attempts

def saveDurableWindows (minute hour : List ℚ) (read : Option RateRecord) (t : ℚ)
    (admits : Bool) : Limiting Unit :=
  ask (.writeSyncState (storedRecord 1 ⟨minute, hour, Keyed.empty⟩) read t admits)

def allow (limits : RateLimits) : Limiting Bool := do
  let t : ℚ ← ask .now
  let read : Option RateRecord ← ask .readSyncState
  let (minute, hour) ← checked (loadDurableWindows read)
  let minute := evict minute (t - minuteSeconds)
  let hour := evict hour (t - hourSeconds)
  if limits.perMinute ≤ minute.length ∨ limits.perHour ≤ hour.length then do
    saveDurableWindows minute hour read t false
    pure false
  else do
    saveDurableWindows (minute ++ [t]) (hour ++ [t]) read t true
    pure true

/-- A proposal that was admitted and not released: the token of its slot, if it has one, and
the time it was admitted at. -/
structure Admission where
  token : Option ℕ
  moment : ℚ
  deriving DecidableEq

/-- The record of one agent, and the clock. What is admitted, the latest reading that
windows were evicted at, and who a token was given to are not read by the code. -/
structure LimiterWorld where
  store : StateStore Unit fun _ => RateRecord := StateStore.empty
  clock : ℚ := 0
  /-- The replica each token was given to. -/
  issued : List ℕ := []
  admitted : List Admission := []
  latest : Option ℚ := none

/-- The stored record. -/
abbrev LimiterWorld.record (w : LimiterWorld) : Option RateRecord := w.store.read ()

/-- The later of two readings. -/
def reading (latest : Option ℚ) (t : ℚ) : ℚ := latest.elim t (max · t)

/-- A conditional write that took effect. -/
def LimiterWorld.wrote (w : LimiterWorld) (store : StateStore Unit fun _ => RateRecord) :
    RateWrite → LimiterWorld
  | .full t => { w with store, latest := some (reading w.latest t) }
  | .reserved token t =>
    { w with store, latest := some (reading w.latest t)
             admitted := w.admitted ++ [⟨some token, t⟩] }
  | .committed _ => { w with store }
  | .released token =>
    { w with store, admitted := w.admitted.filter fun x => x.token ≠ some token }

/-- The effect of one call. The outside answers with the next reading of the clock. -/
def LimiterWorld.perform (next : ℚ) (w : LimiterWorld) : (op : LimiterOp) → op.Ans × LimiterWorld
  | .now =>
    let clock : ℚ := max w.clock next
    (clock, { w with clock })
  | .readState => (w.record, w)
  | .writeStateIfAbsent value why =>
    let (isStored, store) := w.store.writeIfAbsent () value
    (isStored, if isStored then w.wrote store why else w)
  | .compareAndSetState value expectedRevision why =>
    let (isStored, store) :=
      w.store.compareAndSet (fun _ record => record.revision) () value expectedRevision
    (isStored, if isStored then w.wrote store why else w)
  | .nextReservationToken replica =>
    (w.issued.length, { w with issued := w.issued ++ [replica] })
  | .readSyncState => (w.record, w)
  | .writeSyncState value _ t admits =>
    -- `_write_sync_state`
    let revision := w.record.elim 1 (·.revision + 1)
    ((), { w with
      store := w.store.write () { value with revision }
      latest := some (reading w.latest t)
      admitted := if admits then w.admitted ++ [⟨none, t⟩] else w.admitted })

/-- An operation of a limiter. -/
inductive LimiterCall where
  | reserve
  | commit (token : ℕ)
  | release (token : ℕ)
  | allow

/-- What an operation returns. -/
inductive LimiterResult where
  | reservation (token : Option ℕ)
  | done
  | allowed (admitted : Bool)

def LimiterCall.program (limits : RateLimits) (replica : ℕ) : LimiterCall → Limiting LimiterResult
  | .reserve => .reservation <$> reserveDurable limits replica 16
  | .commit token => (fun _ => .done) <$> commitReservation token 16
  | .release token => (fun _ => .done) <$> releaseReservation token 16
  | .allow => .allowed <$> Fdai.Core.allow limits

/-- Limiters over one store. -/
def limiterMachine (limits : RateLimits) :
    Machine LimiterOp LimiterOp.Ans LimiterWorld String LimiterResult LimiterCall ℚ where
  perform := LimiterWorld.perform
  program replica call := call.program limits replica

end Fdai.Core
