import Fdai.Agents.RateLimiter
import Fdai.Concurrency.Triple

/-!
# At most so many proposals in a window

The record of an agent forgets: it keeps the second an event fell in and not its time, and
an event that has left the window of the reading a replica holds is gone for good. A slot
that is given while something was forgotten too early is one too many.

* `Counted` — what a reading must find: no admission that still counts at it was forgotten.
* `LimiterOrderly` — the condition on the calls of a run.
* `Consistent` — the invariant: whatever was admitted and not forgotten is in the record, and
  every window holds at most as many proposals as its limit.
* `proposals_within_limits` — every orderly run keeps it.
-/

namespace Fdai.Core

open Fdai.Providers Fdai.Concurrency Fdai.Sequences Program Discipline Limiting

/-- The windows that are limited. -/
inductive RateWindow where
  | minute | hour

def RateWindow.width : RateWindow → ℚ
  | .minute => minuteSeconds
  | .hour => hourSeconds

def RateLimits.limit (limits : RateLimits) : RateWindow → ℕ
  | .minute => limits.perMinute
  | .hour => limits.perHour

def Windows.events (windows : Windows) : RateWindow → List ℚ
  | .minute => windows.minute
  | .hour => windows.hour

theorem RateWindow.width_le (k : RateWindow) : k.width ≤ hourSeconds := by
  cases k with
  | minute =>
    change (60 : ℚ) ≤ 3600
    norm_num
  | hour => exact le_rfl

/-- The time before which an event is forgotten at the latest: its own, or the start of the
second it is kept as. -/
def stamp (event : ℚ) : ℚ := min event (truncated event)

theorem stamp_le (event : ℚ) : stamp event ≤ event := min_le_left _ _

theorem stamp_le_truncated (event : ℚ) : stamp event ≤ truncated event := min_le_right _ _

@[simp] theorem truncated_intCast (second : ℤ) : truncated (second : ℚ) = second := by
  unfold truncated
  split
  · exact Int.floor_intCast second
  · exact Int.ceil_intCast second

@[simp] theorem stamp_intCast (second : ℤ) : stamp (second : ℚ) = second := by
  simp [stamp]

/-- The events of buckets in the order of the buckets. -/
private def unsorted (buckets : Buckets) : List ℚ :=
  buckets.flatMap fun (bucket, count) => List.replicate count (bucket : ℚ)

theorem later_countIn (second : ℤ) (buckets : Buckets) (cutoff : ℚ) :
    later stamp (unsorted (countIn second buckets)) cutoff =
      later stamp (unsorted buckets) cutoff + if cutoff < (second : ℚ) then 1 else 0 := by
  induction buckets with
  | nil => simp [countIn, unsorted, later_cons]
  | cons bucket rest ih =>
    obtain ⟨bucket, count⟩ := bucket
    have split (count : ℕ) (rest : Buckets) :
        unsorted ((bucket, count) :: rest) = List.replicate count (bucket : ℚ) ++ unsorted rest :=
      rfl
    by_cases same : bucket = second
    · subst same
      rw [countIn, if_pos rfl, split, split, List.replicate_succ, later_append, later_cons,
        later_append, stamp_intCast]
      omega
    · rw [countIn, if_neg same, split, split, later_append, later_append, ih]
      omega

/-- **Counting by seconds** keeps as many events, each at the start of its second. -/
theorem later_bucketCounts (events : List ℚ) (cutoff : ℚ) :
    later stamp (eventsFromRecord (bucketCounts events) []) cutoff =
      later (fun event => (truncated event : ℚ)) events cutoff := by
  have counted (buckets : Buckets) :
      later stamp (unsorted (events.foldl (fun b event => countIn (truncated event) b) buckets))
        cutoff = later stamp (unsorted buckets) cutoff +
          later (fun event => (truncated event : ℚ)) events cutoff := by
    induction events generalizing buckets with
    | nil => rfl
    | cons event rest ih =>
      rw [List.foldl_cons, ih, later_countIn, later_cons]
      omega
  have sorted (buckets : Buckets) :
      later stamp (eventsFromRecord buckets []) cutoff = later stamp (unsorted buckets) cutoff := by
    unfold eventsFromRecord
    split
    · exact later_perm ((List.perm_insertionSort _ buckets).flatMap_right _)
    rename_i empty
    rw [not_not.1 empty]
    rfl
  rw [sorted, bucketCounts, counted]
  exact Nat.zero_add _

/-- The slots of the record. -/
def reservationsOf (record : Option RateRecord) : Reservations :=
  (record.bind fun record => record.reservations.held?).getD Keyed.empty

/-- The events that `_load_durable_windows` takes from the record. -/
def loadedEvents (record : Option RateRecord) : RateWindow → List ℚ :=
  match loadDurableWindows record with
  | .ok (minute, hour) => fun
    | .minute => minute
    | .hour => hour
  | .error _ => fun _ => []

variable {revision : ℕ} {windows : Windows}

theorem reservations_of_normalizeRecord {record : Option RateRecord}
    (normalized : normalizeRecord record = .ok (revision, windows)) :
    windows.reservations = reservationsOf record := by
  rcases record with _ | record
  · obtain ⟨-, rfl⟩ := Prod.mk.inj (Except.ok.inj normalized)
    rfl
  unfold normalizeRecord at normalized
  dsimp only at normalized
  split at normalized
  · cases normalized
  rename_i reservations held
  have same : reservations = reservationsOf (some record) := by
    cases field : record.reservations with
    | missing =>
      rw [field] at held
      obtain rfl := Option.some.inj held
      simp [reservationsOf, field, Field.held?]
    | other =>
      rw [field] at held
      cases held
    | held value =>
      rw [field] at held
      obtain rfl := Option.some.inj held
      simp [reservationsOf, field, Field.held?]
  split at normalized
  · obtain ⟨-, rfl⟩ := Prod.mk.inj (Except.ok.inj normalized)
    exact same
  split at normalized
  · obtain ⟨-, rfl⟩ := Prod.mk.inj (Except.ok.inj normalized)
    exact same
  · cases normalized

theorem revision_of_normalizeRecord {record : RateRecord}
    (normalized : normalizeRecord (some record) = .ok (revision, windows)) :
    revision = record.revision := by
  unfold normalizeRecord at normalized
  dsimp only at normalized
  split at normalized
  · cases normalized
  split at normalized
  · exact (Prod.mk.inj (Except.ok.inj normalized)).1.symm
  split at normalized
  · exact (Prod.mk.inj (Except.ok.inj normalized)).1.symm
  · cases normalized

theorem later_loadedEvents_stored (revision : ℕ) (windows : Windows) (k : RateWindow)
    (cutoff : ℚ) : later stamp (loadedEvents (some (storedRecord revision windows)) k) cutoff =
      later (fun event => (truncated event : ℚ)) (windows.events k) cutoff := by
  rw [← later_bucketCounts]
  cases k <;> rfl

/-! ## What the record has of the admissions -/

def Pending (slots : Reservations) (x : Admission) : Prop :=
  match x.token with
  | none => False
  | some token => slots.get token = some (token, x.moment)

instance (slots : Reservations) (x : Admission) : Decidable (Pending slots x) := by
  unfold Pending
  split <;> infer_instance

/-- The admissions that are not slots: what the record has of them is in its windows. -/
def settled (slots : Reservations) (admitted : List Admission) : List Admission :=
  admitted.filter fun x => ¬ Pending slots x

/-- How many admissions still count after a cutoff, by the seconds they are kept as. -/
abbrev settledLater (slots : Reservations) (admitted : List Admission) (cutoff : ℚ) : ℕ :=
  later (fun x => stamp x.moment) (settled slots admitted) cutoff

/-- The window has every settled admission that was not forgotten at the latest reading. -/
def Covers (k : RateWindow) (events : List ℚ) (slots : Reservations)
    (admitted : List Admission) (latest : Option ℚ) : Prop :=
  ∀ cutoff, (∀ l ∈ latest, l - k.width ≤ cutoff) →
    settledLater slots admitted cutoff ≤ later stamp events cutoff

/-- **Nothing that counts was forgotten**: an admission that is less than a window old at the
reading is a slot, or in the second it is kept as it is less than a window old at the latest
reading as well. -/
def Counted (w : LimiterWorld) (t : ℚ) : Prop :=
  ∀ x ∈ settled (reservationsOf w.record) w.admitted,
    (t - minuteSeconds < x.moment → reading w.latest t - minuteSeconds < stamp x.moment) ∧
    (t - hourSeconds < x.moment → reading w.latest t - hourSeconds < stamp x.moment)

theorem le_reading (latest : Option ℚ) (t : ℚ) : t ≤ reading latest t := by
  cases latest with
  | none => exact le_rfl
  | some l => exact le_max_right l t

theorem le_reading_of_mem {latest : Option ℚ} {t l : ℚ} (isLatest : l ∈ latest) :
    l ≤ reading latest t := by
  rcases latest with _ | l'
  · cases isLatest
  obtain rfl := Option.some.inj isLatest
  exact le_max_left l' t

section

variable {k : RateWindow} {events : List ℚ} {slots slots' : Reservations}
  {admitted admitted' : List Admission} {latest : Option ℚ} {t cutoff : ℚ}

/-- Admissions that are settled later on count as often if they did before, or do not
count any more. -/
theorem settledLater_le
    (settles : ∀ x ∈ admitted, cutoff < stamp x.moment → Pending slots x → Pending slots' x) :
    settledLater slots' admitted cutoff ≤ settledLater slots admitted cutoff := by
  unfold settledLater settled later
  rw [List.countP_filter, List.countP_filter]
  refine List.countP_mono_left fun x isAdmitted counts => ?_
  simp only [Bool.and_eq_true, decide_eq_true_eq] at counts ⊢
  exact ⟨counts.1, fun pending => counts.2 (settles x isAdmitted counts.1 pending)⟩

/-- Slots, by their times. -/
theorem later_pending_le (tokens : (admitted.filterMap (·.token)).Nodup) :
    later Admission.moment (admitted.filter (Pending slots ·)) cutoff ≤
      later Prod.snd slots.values cutoff := by
  unfold later
  rw [List.countP_eq_length_filter, List.countP_eq_length_filter]
  generalize counted : (admitted.filter (Pending slots ·)).filter
    (fun x => decide (cutoff < x.moment)) = pending
  have isCounted : ∀ x ∈ pending, Pending slots x ∧ cutoff < x.moment := by
    intro x isPending
    rw [← counted, List.mem_filter, List.mem_filter] at isPending
    exact ⟨of_decide_eq_true isPending.1.2, of_decide_eq_true isPending.2⟩
  have fewer : pending.Sublist admitted := by
    rw [← counted]
    exact List.filter_sublist.trans List.filter_sublist
  -- each of them has a slot of its own
  let slot (x : Admission) : Option (ℕ × ℚ) := x.token.map fun token => (token, x.moment)
  have length : (pending.filterMap slot).length = pending.length := by
    rw [List.length_filterMap_eq_countP, List.countP_eq_length]
    intro x isPending
    have pends := (isCounted x isPending).1
    cases token : x.token with
    | none => simp [Pending, token] at pends
    | some _ => simp [slot, token]
  have nodup : (pending.filterMap slot).Nodup := by
    refine List.Nodup.of_map Prod.fst ?_
    have same : (pending.filterMap slot).map Prod.fst = pending.filterMap (·.token) := by
      rw [List.map_filterMap]
      congr 1
      funext x
      cases token : x.token <;> simp [slot, token]
    rw [same]
    exact tokens.sublist (fewer.filterMap _)
  have subset : pending.filterMap slot ⊆ slots.values.filter fun s => cutoff < s.2 := by
    intro s isSlot
    obtain ⟨x, isPending, same⟩ := List.mem_filterMap.1 isSlot
    obtain ⟨pends, after⟩ := isCounted x isPending
    rcases token : x.token with _ | t
    · simp [slot, token] at same
    obtain rfl : (t, x.moment) = s := by simpa [slot, token] using same
    simp only [Pending, token] at pends
    exact List.mem_filter.2 ⟨Keyed.mem_of_get pends, by simpa using after⟩
  rw [← length]
  exact (List.subperm_of_subset nodup subset).length_le

/-- **What a reading counts** is at least what was admitted in the window that ends at it. -/
theorem later_le_counted (covers : Covers k events slots admitted latest)
    (tokens : (admitted.filterMap (·.token)).Nodup)
    (counted : ∀ x ∈ settled slots admitted, t - k.width < x.moment →
      reading latest t - k.width < stamp x.moment) :
    later Admission.moment admitted (t - k.width) ≤
      (evict events (t - k.width)).length + later Prod.snd slots.values (t - k.width) := by
  have split : later Admission.moment admitted (t - k.width) =
      later Admission.moment (settled slots admitted) (t - k.width) +
        later Admission.moment (admitted.filter (Pending slots ·)) (t - k.width) := by
    unfold later settled
    rw [List.countP_eq_countP_filter_add admitted _ fun x => Pending slots x, Nat.add_comm]
    simp
  have cutoffs : t - k.width ≤ reading latest t - k.width :=
    sub_le_sub_right (le_reading latest t) _
  have inEvents : later Admission.moment (settled slots admitted) (t - k.width) ≤
      (evict events (t - k.width)).length := calc
    later Admission.moment (settled slots admitted) (t - k.width)
      ≤ settledLater slots admitted (reading latest t - k.width) :=
        List.countP_mono_left fun x isSettled after =>
          decide_eq_true (counted x isSettled (of_decide_eq_true after))
    _ ≤ later stamp events (reading latest t - k.width) :=
        covers _ fun l isLatest => sub_le_sub_right (le_reading_of_mem isLatest) _
    _ = later stamp (evict events (t - k.width)) (reading latest t - k.width) :=
        (later_evict stamp_le cutoffs).symm
    _ ≤ (evict events (t - k.width)).length := later_le_length
  have inSlots : later Admission.moment (admitted.filter (Pending slots ·)) (t - k.width) ≤
      later Prod.snd slots.values (t - k.width) := later_pending_le tokens
  omega

theorem Covers.stored (covered : ∀ cutoff, (∀ l ∈ latest, l - k.width ≤ cutoff) →
      settledLater slots admitted cutoff ≤ later stamp (windows.events k) cutoff) :
    Covers k (loadedEvents (some (storedRecord revision windows)) k) slots admitted latest := by
  intro cutoff afterLatest
  rw [later_loadedEvents_stored]
  exact (covered cutoff afterLatest).trans
    (later_mono_stamp fun event _ => stamp_le_truncated event)

/-- Eviction forgets nothing that still counts at the latest reading. -/
theorem Covers.evict (covers : Covers k events slots admitted latest) (t : ℚ)
    (expired : ∀ x ∈ admitted, t - hourSeconds < x.moment → Pending slots x → Pending slots' x)
    (afterLatest : ∀ l ∈ some (reading latest t), l - k.width ≤ cutoff) :
    settledLater slots' admitted cutoff ≤
      later stamp (Fdai.Sequences.evict events (t - k.width)) cutoff := by
  have afterReading : reading latest t - k.width ≤ cutoff := afterLatest _ rfl
  have cutoffs : t - k.width ≤ cutoff :=
    (sub_le_sub_right (le_reading latest t) _).trans afterReading
  calc settledLater slots' admitted cutoff
    _ ≤ settledLater slots admitted cutoff := by
        refine settledLater_le fun x isAdmitted counts => expired x isAdmitted ?_
        have hour : t - hourSeconds ≤ t - k.width := sub_le_sub_left k.width_le t
        exact lt_of_le_of_lt (hour.trans cutoffs) (counts.trans_le (stamp_le _))
    _ ≤ later stamp events cutoff :=
        covers cutoff fun l isLatest =>
          (sub_le_sub_right (le_reading_of_mem isLatest) _).trans afterReading
    _ = later stamp (Fdai.Sequences.evict events (t - k.width)) cutoff :=
        (later_evict stamp_le cutoffs).symm

theorem settledLater_append (slots : Reservations) (admitted : List Admission) (x : Admission)
    (cutoff : ℚ) : settledLater slots (admitted ++ [x]) cutoff =
      settledLater slots admitted cutoff + settledLater slots [x] cutoff := by
  unfold settledLater settled
  rw [List.filter_append, later_append]

/-- A slot that becomes an event counts once. -/
theorem settledLater_consume {token : ℕ} {reservedAt : ℚ}
    (tokens : (admitted.filterMap (·.token)).Nodup)
    (reserved : slots.get token = some (token, reservedAt)) :
    settledLater (slots.filter fun slot => slot.1 ≠ token) admitted cutoff ≤
      settledLater slots admitted cutoff + later stamp [reservedAt] cutoff := by
  unfold settledLater settled
  have newly : admitted.countP
      (fun x => decide (x = ⟨some token, reservedAt⟩) && decide (cutoff < stamp reservedAt)) ≤
        later stamp [reservedAt] cutoff := by
    by_cases counts : cutoff < stamp reservedAt
    · have once := List.nodup_iff_count_le_one.1 tokens token
      rw [List.count, List.countP_filterMap] at once
      rw [later_cons, if_pos counts]
      refine le_trans (List.countP_mono_left fun x _ isSlot => ?_) once
      simp only [counts, decide_true, Bool.and_true, decide_eq_true_eq] at isSlot
      simp [isSlot]
    · simp [counts]
  unfold later
  rw [List.countP_filter, List.countP_filter]
  refine le_trans (countP_le_add fun x isAdmitted counts => ?_) (Nat.add_le_add_left newly _)
  simp only [Bool.and_eq_true, decide_eq_true_eq] at counts ⊢
  by_cases pending : Pending slots x
  · -- it was a slot and is none any more, so it is the one that was consumed
    refine .inr ?_
    rcases isToken : x.token with _ | own
    · simp [Pending, isToken] at pending
    by_cases same : own = token
    · subst same
      simp only [Pending, isToken] at pending
      obtain ⟨-, moment⟩ := Prod.mk.inj (Option.some.inj (reserved.symm.trans pending))
      obtain ⟨_, _⟩ := x
      obtain rfl : _ = some own := isToken
      obtain rfl : reservedAt = _ := moment
      exact ⟨rfl, counts.1⟩
    · refine absurd ?_ counts.2
      simp only [Pending, isToken] at pending ⊢
      exact Keyed.get_filter pending (by simpa using same)
  · exact .inl ⟨counts.1, pending⟩

theorem not_full_iff {limits : RateLimits}
    (room : ¬ Full limits (windowsAt windows t) t) (k : RateWindow) :
    (Fdai.Sequences.evict (windows.events k) (t - k.width)).length +
      later Prod.snd windows.reservations.values (t - k.width) < limits.limit k := by
  obtain ⟨minute, hour⟩ := not_or.1 room
  have slotsLeft (cutoff : ℚ) (afterHour : t - hourSeconds ≤ cutoff) :
      later Prod.snd (windowsAt windows t).reservations.values cutoff =
        later Prod.snd windows.reservations.values cutoff := by
    unfold later
    change List.countP _ (List.filter _ _) = _
    rw [List.countP_filter]
    refine List.countP_congr fun slot _ => ?_
    simp only [Bool.and_eq_true, decide_eq_true_eq]
    exact ⟨fun both => both.1, fun after => ⟨after, lt_of_le_of_lt afterHour after⟩⟩
  cases k with
  | minute =>
    rw [slotsLeft (t - minuteSeconds) (sub_le_sub_left RateWindow.minute.width_le t)] at minute
    exact not_le.1 minute
  | hour =>
    have all : (windowsAt windows t).reservations.values.length =
        later Prod.snd windows.reservations.values (t - hourSeconds) := by
      rw [later, List.countP_eq_length_filter]
      rfl
    rw [all] at hour
    exact not_le.1 hour

end

/-- `_normalize_record` takes the events from the record that `_load_durable_windows` takes:
the record is not one of an older version, with lists. -/
def SameEvents (record : Option RateRecord) : Prop :=
  match normalizeRecord record with
  | .ok (_, windows) =>
    windows.minute = loadedEvents record .minute ∧ windows.hour = loadedEvents record .hour
  | .error _ => True

/-- A conditional write that takes effect finds a record of this version, and a slot is given
at a reading that finds every admission that counts. -/
def LimiterOrderlyWrite (w : LimiterWorld) (why : RateWrite) : Prop :=
  SameEvents w.record ∧
    match why with
    | .reserved _ t => Counted w t
    | _ => True

/-- The condition on a call. `allow` writes over the record that it read, while no slot is
reserved that still counts, and admits at a reading that finds every admission that counts. -/
def LimiterOrderly (w : LimiterWorld) : LimiterOp → Prop
  | .writeStateIfAbsent _ why => w.record = none → LimiterOrderlyWrite w why
  | .compareAndSetState _ expectedRevision why =>
    (w.record.any fun record => record.revision = expectedRevision) = true →
      LimiterOrderlyWrite w why
  | .writeSyncState _ read t admits =>
    read = w.record ∧ (∀ slot ∈ (reservationsOf w.record).values, slot.2 ≤ t - hourSeconds) ∧
      (admits = true → Counted w t)
  | _ => True

instance (record : Option RateRecord) : Decidable (SameEvents record) := by
  unfold SameEvents
  split <;> infer_instance

instance (w : LimiterWorld) (t : ℚ) : Decidable (Counted w t) :=
  inferInstanceAs (Decidable (∀ x ∈ _, _))

instance (w : LimiterWorld) (why : RateWrite) : Decidable (LimiterOrderlyWrite w why) := by
  unfold LimiterOrderlyWrite
  refine @instDecidableAnd _ _ _ ?_
  split <;> infer_instance

instance (w : LimiterWorld) : (op : LimiterOp) → Decidable (LimiterOrderly w op)
  | .writeStateIfAbsent _ _ => inferInstanceAs (Decidable (_ → _))
  | .compareAndSetState _ _ _ => inferInstanceAs (Decidable (_ → _))
  | .writeSyncState _ _ _ _ => inferInstanceAs (Decidable (_ ∧ _))
  | .now | .readState | .nextReservationToken _ | .readSyncState => isTrue trivial

/-! ## The invariant -/

structure Consistent (limits : RateLimits) (w : LimiterWorld) : Prop where
  covers : ∀ k, Covers k (loadedEvents w.record k) (reservationsOf w.record) w.admitted w.latest
  /-- A token is given once. -/
  tokens : (w.admitted.filterMap (·.token)).Nodup
  issued : ∀ x ∈ w.admitted, ∀ token ∈ x.token, token < w.issued.length
  reserved : ∀ slot ∈ (reservationsOf w.record).values, ⟨some slot.1, slot.2⟩ ∈ w.admitted
  within : ∀ k : RateWindow, Within Admission.moment k.width (limits.limit k) w.admitted

theorem consistent_empty (limits : RateLimits) : Consistent limits {} where
  covers _ _ _ := Nat.zero_le _
  tokens := List.nodup_nil
  issued _ isAdmitted := by cases isAdmitted
  reserved _ isSlot := by cases isSlot
  within _ := Within.nil

/-- What a conditional write stores, by what it is for. -/
def Computed (limits : RateLimits) (record : Option RateRecord) (value : RateRecord)
    (why : RateWrite) : Prop :=
  ∃ revision windows, normalizeRecord record = .ok (revision, windows) ∧
    match why with
    | .full t => value = storedRecord (revision + 1) (windowsAt windows t)
    | .reserved token t => ¬ Full limits (windowsAt windows t) t ∧
        value = storedRecord (revision + 1) ((windowsAt windows t).reserve token t)
    | .committed token => ∃ reservedAt, windows.reservations.get token = some (token, reservedAt) ∧
        value = storedRecord (revision + 1) (windows.consume token reservedAt)
    | .released token => value = storedRecord (revision + 1) (windows.drop token)

/-- What `allow` saves. -/
def ComputedSync (limits : RateLimits) (read : Option RateRecord) (value : RateRecord) (t : ℚ)
    (admits : Bool) : Prop :=
  let minute := evict (loadedEvents read .minute) (t - minuteSeconds)
  let hour := evict (loadedEvents read .hour) (t - hourSeconds)
  if admits then ¬ (limits.perMinute ≤ minute.length ∨ limits.perHour ≤ hour.length) ∧
    value = storedRecord 1 ⟨minute ++ [t], hour ++ [t], Keyed.empty⟩
  else value = storedRecord 1 ⟨minute, hour, Keyed.empty⟩

/-- A token was given to the replica, and nothing was admitted with it. -/
def OwnsToken (replica token : ℕ) (w : LimiterWorld) : Prop :=
  w.issued[token]? = some replica ∧ ∀ x ∈ w.admitted, x.token ≠ some token

/-- A slot is given under a token of the replica's own. -/
def OwnsSlot (replica : ℕ) (w : LimiterWorld) : RateWrite → Prop
  | .reserved token _ => OwnsToken replica token w
  | _ => True

section

variable {limits : RateLimits} {w : LimiterWorld} {value : RateRecord} {why : RateWrite}
  {replica : ℕ}

/-- The world after a conditional write, as the invariant sees it. -/
theorem record_wrote (w : LimiterWorld) (value : RateRecord) (why : RateWrite) :
    (w.wrote (w.store.write () value) why).record = some value := by
  cases why <;> exact @StateStore.read_write_self Unit (fun _ => RateRecord) _ w.store () value

theorem issued_wrote (store : StateStore Unit fun _ => RateRecord) :
    (w.wrote store why).issued = w.issued := by
  cases why <;> rfl

/-- What is known of the record that a conditional write replaces. -/
structure Replaced (w : LimiterWorld) (windows : Windows) : Prop where
  slots : windows.reservations = reservationsOf w.record
  covers : ∀ k, Covers k (windows.events k) windows.reservations w.admitted w.latest

variable {windows : Windows}

theorem Consistent.replaced (consistent : Consistent limits w)
    (normalized : normalizeRecord w.record = .ok (revision, windows))
    (sameEvents : SameEvents w.record) : Replaced w windows := by
  have slots := reservations_of_normalizeRecord normalized
  refine ⟨slots, fun k => ?_⟩
  have loaded : windows.events k = loadedEvents w.record k := by
    rw [SameEvents, normalized] at sameEvents
    cases k with
    | minute => exact sameEvents.1
    | hour => exact sameEvents.2
  rw [loaded, slots]
  exact consistent.covers k

variable {t : ℚ}

/-- A slot that is less than an hour old at a reading stays. -/
theorem pending_windowsAt {x : Admission}
    (recent : t - hourSeconds < x.moment) (pending : Pending windows.reservations x) :
    Pending (windowsAt windows t).reservations x := by
  rcases token : x.token with _ | own
  · simp [Pending, token] at pending
  simp only [Pending, token] at pending ⊢
  exact Keyed.get_filter pending (by simpa using recent)

/-- A write that evicts and admits nothing. -/
theorem Consistent.wrote_full (consistent : Consistent limits w)
    (revision : ℕ) (replaced : Replaced w windows) :
    Consistent limits (w.wrote
      (w.store.write () (storedRecord (revision + 1) (windowsAt windows t))) (.full t)) := by
  have record := record_wrote w (storedRecord (revision + 1) (windowsAt windows t)) (.full t)
  refine ⟨fun k => ?_, consistent.tokens, consistent.issued, ?_, consistent.within⟩
  · rw [record]
    refine Covers.stored fun cutoff afterLatest => ?_
    have evicted := (replaced.covers k).evict t
      (fun x _ recent pending => pending_windowsAt recent pending) afterLatest
    cases k <;> exact evicted
  · rw [record]
    intro slot isSlot
    refine consistent.reserved slot ?_
    rw [← replaced.slots]
    exact List.mem_of_mem_filter isSlot

variable {token : ℕ}

/-- A slot is given. -/
theorem Consistent.wrote_reserved (consistent : Consistent limits w)
    (revision : ℕ) (replaced : Replaced w windows)
    (room : ¬ Full limits (windowsAt windows t) t) (counted : Counted w t)
    (owns : OwnsToken replica token w) :
    Consistent limits (w.wrote (w.store.write ()
      (storedRecord (revision + 1) ((windowsAt windows t).reserve token t)))
      (.reserved token t)) := by
  have record := record_wrote w
    (storedRecord (revision + 1) ((windowsAt windows t).reserve token t)) (.reserved token t)
  obtain ⟨isIssued, fresh⟩ := owns
  refine ⟨fun k => ?_, ?_, ?_, ?_, fun k => ?_⟩
  · rw [record]
    refine Covers.stored fun cutoff afterLatest => ?_
    have isPending : Pending ((windowsAt windows t).reservations.put (token, t))
        ⟨some token, t⟩ := by
      exact Keyed.get_put_self
    have itself : settledLater ((windowsAt windows t).reservations.put (token, t))
        [⟨some token, t⟩] cutoff = 0 := by
      simp [settledLater, settled, isPending]
    change settledLater ((windowsAt windows t).reservations.put (token, t))
      (w.admitted ++ [⟨some token, t⟩]) cutoff ≤ _
    rw [settledLater_append, itself, Nat.add_zero]
    have evicted : settledLater ((windowsAt windows t).reservations.put (token, t))
        w.admitted cutoff ≤ later stamp (evict (windows.events k) (t - k.width)) cutoff := by
      refine (replaced.covers k).evict t (fun x isAdmitted recent pending => ?_) afterLatest
      have pending := pending_windowsAt recent pending
      rcases isToken : x.token with _ | own
      · simp [Pending, isToken] at pending
      have apart : own ≠ token := fun same => fresh x isAdmitted (same ▸ isToken)
      simp only [Pending, isToken] at pending ⊢
      rw [Keyed.get_put_ne apart]
      exact pending
    cases k <;> exact evicted
  · change ((w.admitted ++ [(⟨some token, t⟩ : Admission)]).filterMap Admission.token).Nodup
    rw [List.filterMap_append, List.nodup_append]
    refine ⟨consistent.tokens, List.nodup_singleton token, ?_⟩
    rintro own isToken _ isNew rfl
    obtain ⟨x, isAdmitted, isToken⟩ := List.mem_filterMap.1 isToken
    rw [List.mem_singleton.1 isNew] at isToken
    exact fresh x isAdmitted isToken
  · rw [issued_wrote]
    intro x isAdmitted own isToken
    rcases List.mem_append.1 isAdmitted with old | new
    · exact consistent.issued x old own isToken
    obtain rfl := List.mem_singleton.1 new
    obtain rfl := Option.some.inj isToken
    exact (List.getElem?_eq_some_iff.1 isIssued).1
  · rw [record]
    intro slot isSlot
    rcases Keyed.mem_put isSlot with rfl | old
    · exact List.mem_append_right _ List.mem_cons_self
    refine List.mem_append_left _ (consistent.reserved slot ?_)
    rw [← replaced.slots]
    exact List.mem_of_mem_filter old
  · refine Within.append (consistent.within k) ?_
    have inRecord := later_le_counted (replaced.covers k) consistent.tokens
      fun x isSettled recent => by
        rw [replaced.slots] at isSettled
        cases k with
        | minute => exact (counted x isSettled).1 recent
        | hour => exact (counted x isSettled).2 recent
    exact lt_of_le_of_lt inRecord (not_full_iff room k)

/-- A slot becomes an event. -/
theorem Consistent.wrote_committed (consistent : Consistent limits w)
    {reservedAt : ℚ} (revision : ℕ) (replaced : Replaced w windows)
    (isReserved : windows.reservations.get token = some (token, reservedAt)) :
    Consistent limits (w.wrote (w.store.write ()
      (storedRecord (revision + 1) (windows.consume token reservedAt))) (.committed token)) := by
  have record := record_wrote w
    (storedRecord (revision + 1) (windows.consume token reservedAt)) (.committed token)
  refine ⟨fun k => ?_, consistent.tokens, consistent.issued, ?_, consistent.within⟩
  · rw [record]
    refine Covers.stored fun cutoff afterLatest => ?_
    have events : (windows.consume token reservedAt).events k =
        windows.events k ++ [reservedAt] := by
      cases k <;> rfl
    rw [events, later_append]
    exact (settledLater_consume consistent.tokens isReserved).trans
      (Nat.add_le_add_right (replaced.covers k cutoff afterLatest) _)
  · rw [record]
    intro slot isSlot
    refine consistent.reserved slot ?_
    rw [← replaced.slots]
    exact List.mem_of_mem_filter isSlot

/-- A slot is given back. -/
theorem Consistent.wrote_released (consistent : Consistent limits w)
    (revision : ℕ) (replaced : Replaced w windows) :
    Consistent limits (w.wrote (w.store.write ()
      (storedRecord (revision + 1) (windows.drop token))) (.released token)) := by
  have record := record_wrote w (storedRecord (revision + 1) (windows.drop token)) (.released token)
  have fewer : (w.admitted.filter fun x : Admission => x.token ≠ some token).Sublist
      w.admitted :=
    List.filter_sublist
  refine ⟨fun k => ?_, consistent.tokens.sublist (fewer.filterMap _),
    fun x isAdmitted => consistent.issued x (fewer.subset isAdmitted), ?_,
    fun k => (consistent.within k).sublist fewer⟩
  · rw [record]
    refine Covers.stored fun cutoff afterLatest => ?_
    have events : (windows.drop token).events k = windows.events k := by
      cases k <;> rfl
    rw [events]
    calc settledLater (windows.drop token).reservations
          (w.admitted.filter fun x : Admission => x.token ≠ some token) cutoff
      _ ≤ settledLater windows.reservations
          (w.admitted.filter fun x : Admission => x.token ≠ some token) cutoff := by
        refine settledLater_le fun x isKept _ pending => ?_
        have apart := (List.mem_filter.1 isKept).2
        rcases isToken : x.token with _ | own
        · simp [Pending, isToken] at pending
        simp only [Pending, isToken] at pending ⊢
        exact Keyed.get_filter pending (by simpa [isToken] using apart)
      _ ≤ settledLater windows.reservations w.admitted cutoff :=
        (fewer.filter _).countP_le
      _ ≤ later stamp (windows.events k) cutoff := replaced.covers k cutoff afterLatest
  · rw [record]
    intro slot isSlot
    obtain ⟨isSlot, apart⟩ := List.mem_filter.1 isSlot
    have isAdmitted : (⟨some slot.1, slot.2⟩ : Admission) ∈ w.admitted := by
      refine consistent.reserved slot ?_
      rw [← replaced.slots]
      exact isSlot
    exact List.mem_filter.2 ⟨isAdmitted, by simpa using apart⟩

/-- **A conditional write** that is orderly keeps the invariant. -/
theorem Consistent.wrote (consistent : Consistent limits w)
    (computed : Computed limits w.record value why) (orderly : LimiterOrderlyWrite w why)
    (owns : OwnsSlot replica w why) :
    Consistent limits (w.wrote (w.store.write () value) why) := by
  obtain ⟨revision, windows, normalized, computed⟩ := computed
  obtain ⟨sameEvents, counted⟩ := orderly
  have replaced := consistent.replaced normalized sameEvents
  cases why with
  | full t =>
    obtain rfl := computed
    exact consistent.wrote_full revision replaced
  | reserved token t =>
    obtain ⟨room, rfl⟩ := computed
    exact consistent.wrote_reserved revision replaced room counted owns
  | committed token =>
    obtain ⟨reservedAt, isReserved, rfl⟩ := computed
    exact consistent.wrote_committed revision replaced isReserved
  | released token =>
    obtain rfl := computed
    exact consistent.wrote_released revision replaced

/-- The world after `allow` wrote. -/
def LimiterWorld.saved (w : LimiterWorld) (value : RateRecord) (t : ℚ) (admits : Bool) :
    LimiterWorld :=
  { w with
    store := w.store.write () { value with revision := w.record.elim 1 (·.revision + 1) }
    latest := some (reading w.latest t)
    admitted := if admits then w.admitted ++ [⟨none, t⟩] else w.admitted }

variable {admits : Bool}

theorem record_saved : (w.saved value t admits).record =
    some { value with revision := w.record.elim 1 (·.revision + 1) } :=
  @StateStore.read_write_self Unit (fun _ => RateRecord) _ w.store () _

theorem stored_saved : (w.saved (storedRecord 1 windows) t admits).record =
      some (storedRecord (w.record.elim 1 (·.revision + 1)) windows) := record_saved

/-- **`allow`**, where every slot has left the windows. -/
theorem Consistent.saved (consistent : Consistent limits w)
    (computed : ComputedSync limits w.record value t admits)
    (unreserved : ∀ slot ∈ (reservationsOf w.record).values, slot.2 ≤ t - hourSeconds)
    (counted : admits = true → Counted w t) : Consistent limits (w.saved value t admits) := by
  -- no slot counts any more
  have expired (slots' : Reservations) : ∀ x ∈ w.admitted, t - hourSeconds < x.moment →
      Pending (reservationsOf w.record) x → Pending slots' x := by
    intro x _ recent pending
    rcases isToken : x.token with _ | own
    · simp [Pending, isToken] at pending
    simp only [Pending, isToken] at pending
    exact absurd recent (not_lt.2 (unreserved _ (Keyed.mem_of_get pending)))
  have evicted (k : RateWindow) (cutoff : ℚ)
      (afterLatest : ∀ l ∈ some (reading w.latest t), l - k.width ≤ cutoff) :
      settledLater Keyed.empty w.admitted cutoff ≤
        later stamp (evict (loadedEvents w.record k) (t - k.width)) cutoff :=
    (consistent.covers k).evict t (expired _) afterLatest
  cases admits with
  | false =>
    obtain rfl := computed
    refine ⟨fun k => ?_, consistent.tokens, consistent.issued, ?_, consistent.within⟩
    · rw [stored_saved]
      refine Covers.stored fun cutoff afterLatest => ?_
      have evicted := evicted k cutoff afterLatest
      cases k <;> exact evicted
    · rw [stored_saved]
      intro slot isSlot
      cases isSlot
  | true =>
    obtain ⟨room, rfl⟩ := computed
    refine ⟨fun k => ?_, ?_, ?_, ?_, fun k => ?_⟩
    · rw [stored_saved]
      refine Covers.stored fun cutoff afterLatest => ?_
      have added : settledLater Keyed.empty (w.admitted ++ [⟨none, t⟩]) cutoff ≤
          later stamp (evict (loadedEvents w.record k) (t - k.width) ++ [t]) cutoff := by
        rw [settledLater_append, later_append]
        refine Nat.add_le_add (evicted k cutoff afterLatest) (le_of_eq ?_)
        have isSettled : ¬ Pending Keyed.empty ⟨none, t⟩ := id
        simp [settledLater, settled, isSettled, later]
      cases k <;> exact added
    · change ((w.admitted ++ [(⟨none, t⟩ : Admission)]).filterMap Admission.token).Nodup
      rw [List.filterMap_append]
      simpa using consistent.tokens
    · intro x isAdmitted own isToken
      rcases List.mem_append.1 isAdmitted with old | new
      · exact consistent.issued x old own isToken
      · obtain rfl := List.mem_singleton.1 new
        cases isToken
    · rw [stored_saved]
      intro slot isSlot
      cases isSlot
    · refine Within.append (consistent.within k) ?_
      have inRecord := later_le_counted (consistent.covers k) consistent.tokens
        fun x isSettled recent => by
          cases k with
          | minute => exact (counted rfl x isSettled).1 recent
          | hour => exact (counted rfl x isSettled).2 recent
      have noSlot : later Prod.snd (reservationsOf w.record).values (t - k.width) = 0 := by
        refine List.countP_eq_zero.2 fun slot isSlot after => ?_
        have early : slot.2 ≤ t - k.width :=
          (unreserved slot isSlot).trans (sub_le_sub_left k.width_le t)
        exact absurd (of_decide_eq_true after) (not_lt.2 early)
      rw [noSlot, Nat.add_zero] at inRecord
      refine lt_of_le_of_lt inRecord ?_
      cases k with
      | minute => exact not_le.1 (not_or.1 room).1
      | hour => exact not_le.1 (not_or.1 room).2

end

/-! ## The discipline -/

/-- The calls a replica may issue: a conditional write stores what its operation computes
from the record it finds, under a token of the replica's own. -/
def LimiterPermit (limits : RateLimits) (replica : ℕ) (w : LimiterWorld) : LimiterOp → Prop
  | .writeStateIfAbsent value why =>
    (w.record = none → Computed limits none value why) ∧ OwnsSlot replica w why
  | .compareAndSetState value expectedRevision why =>
    (∀ stored, w.record = some stored → stored.revision = expectedRevision →
      Computed limits (some stored) value why ∧ value.revision = expectedRevision + 1) ∧
    OwnsSlot replica w why
  | .writeSyncState value read t admits => ComputedSync limits read value t admits
  | _ => True

/-- What a permitted and orderly call does to the world. -/
inductive LimiterStep (limits : RateLimits) (replica : ℕ) (w : LimiterWorld) :
    LimiterWorld → Prop
  | clock (clock : ℚ) : LimiterStep limits replica w { w with clock }
  | issue (other : ℕ) : LimiterStep limits replica w { w with issued := w.issued ++ [other] }
  | wrote {value : RateRecord} {why : RateWrite} (computed : Computed limits w.record value why)
      (orderly : LimiterOrderlyWrite w why) (owns : OwnsSlot replica w why)
      (raises : ∀ stored, w.record = some stored → stored.revision < value.revision) :
      LimiterStep limits replica w (w.wrote (w.store.write () value) why)
  | saved {value : RateRecord} {t : ℚ} {admits : Bool}
      (computed : ComputedSync limits w.record value t admits)
      (unreserved : ∀ slot ∈ (reservationsOf w.record).values, slot.2 ≤ t - hourSeconds)
      (counted : admits = true → Counted w t) :
      LimiterStep limits replica w (w.saved value t admits)

section

variable {limits : RateLimits} {replica : ℕ} {w w' : LimiterWorld}

theorem LimiterStep.same : LimiterStep limits replica w w := .clock w.clock

/-- **What one call can do.** -/
theorem limiterStep {op : LimiterOp} {a : op.Ans} (allowed : LimiterPermit limits replica w op)
    (answered : (limiterMachine limits).Answers LimiterOrderly w op a w') :
    LimiterStep limits replica w w' := by
  obtain ⟨orderly, next, performed⟩ := answered
  obtain ⟨-, rfl⟩ := Prod.mk.inj performed
  cases op with
  | now => exact .clock (max w.clock next)
  | readState | readSyncState => exact .same
  | nextReservationToken other => exact .issue other
  | writeStateIfAbsent value why =>
    change LimiterStep limits replica w (if (w.store.writeIfAbsent () value).1 then
        w.wrote (w.store.writeIfAbsent () value).2 why else w)
    rcases written : w.store.writeIfAbsent () value with ⟨isStored, store⟩
    rcases StateStore.writeIfAbsent_cases written with ⟨rfl, -, -⟩ | ⟨rfl, absent, rfl⟩
    · exact .same
    have absent : w.record = none := absent
    refine .wrote ?_ (orderly absent) allowed.2 fun stored isStored => ?_
    · rw [absent]
      exact allowed.1 absent
    · rw [absent] at isStored
      cases isStored
  | compareAndSetState value expectedRevision why =>
    change LimiterStep limits replica w
      (if (w.store.compareAndSet (fun _ record => record.revision) () value expectedRevision).1 then
        w.wrote (w.store.compareAndSet (fun _ record => record.revision) () value
          expectedRevision).2 why else w)
    rcases written : w.store.compareAndSet (fun _ record => record.revision) () value
      expectedRevision with ⟨isStored, store⟩
    rcases StateStore.compareAndSet_cases written with
      ⟨rfl, rfl⟩ | ⟨rfl, rfl, stored, found, current⟩
    · exact .same
    have found : w.record = some stored := found
    obtain ⟨computed, raised⟩ := allowed.1 stored found current
    refine .wrote ?_ (orderly ?_) allowed.2 fun stored' found' => ?_
    · rw [found]
      exact computed
    · rw [found]
      exact decide_eq_true current
    · obtain rfl := Option.some.inj (found.symm.trans found')
      omega
  | writeSyncState value read t admits =>
    obtain ⟨rfl, unreserved, counted⟩ := orderly
    exact .saved allowed unreserved counted

theorem Consistent.step (consistent : Consistent limits w) (step : LimiterStep limits replica w w') :
    Consistent limits w' := by
  cases step with
  | clock => exact ⟨consistent.covers, consistent.tokens, consistent.issued, consistent.reserved,
      consistent.within⟩
  | issue other =>
    refine ⟨consistent.covers, consistent.tokens, fun x isAdmitted token isToken => ?_,
      consistent.reserved, consistent.within⟩
    have isIssued := consistent.issued x isAdmitted token isToken
    change token < (w.issued ++ [other]).length
    rw [List.length_append]
    omega
  | wrote computed orderly owns _ => exact consistent.wrote computed orderly owns
  | saved computed unreserved counted => exact consistent.saved computed unreserved counted

end

/-- Limiters over one store, as replicas that keep to `LimiterPermit`. -/
def limiterDiscipline (limits : RateLimits) : Discipline LimiterOp LimiterOp.Ans LimiterWorld where
  permit := LimiterPermit limits
  answers := (limiterMachine limits).Answers LimiterOrderly
  inv := Consistent limits
  kept allowed answered consistent := consistent.step (limiterStep allowed answered)

/-- The record that was read is still stored, or one of a later revision is. -/
def Read (read : Option RateRecord) (w : LimiterWorld) : Prop :=
  ∀ r ∈ read, ∃ stored, w.record = some stored ∧ (stored = r ∨ r.revision < stored.revision)

theorem stable_read (limits : RateLimits) (read : Option RateRecord) :
    (limiterDiscipline limits).Stable (Read read) := by
  intro replica w op a w' _ allowed answered known r isRead
  obtain ⟨stored, found, state⟩ := known r isRead
  cases limiterStep allowed answered with
  | clock | issue => exact ⟨stored, found, state⟩
  | @wrote value why _ _ _ raises =>
    refine ⟨value, record_wrote w value why, .inr ?_⟩
    have raised := raises stored found
    rcases state with rfl | later
    · exact raised
    · exact later.trans raised
  | saved =>
    refine ⟨_, record_saved, .inr ?_⟩
    have older : r.revision ≤ stored.revision := by
      rcases state with rfl | later
      · exact le_rfl
      · exact later.le
    rw [found]
    exact Nat.lt_succ_of_le older

/-- Nobody else uses a token that was given to a replica. -/
theorem stable_ownsToken (limits : RateLimits) (replica token : ℕ) :
    (limiterDiscipline limits).StableAround replica (OwnsToken replica token) := by
  rintro other w op a w' apart _ allowed answered ⟨isIssued, fresh⟩
  cases limiterStep allowed answered with
  | clock => exact ⟨isIssued, fresh⟩
  | issue given =>
    refine ⟨?_, fresh⟩
    change (w.issued ++ [given])[token]? = some replica
    rw [List.getElem?_append_left (List.getElem?_eq_some_iff.1 isIssued).1]
    exact isIssued
  | @wrote value why _ _ owns _ =>
    refine ⟨by rw [issued_wrote]; exact isIssued, fun x isAdmitted => ?_⟩
    cases why with
    | full | committed => exact fresh x isAdmitted
    | released => exact fresh x (List.mem_of_mem_filter isAdmitted)
    | reserved token' t =>
      rcases List.mem_append.1 isAdmitted with old | new
      · exact fresh x old
      obtain rfl := List.mem_singleton.1 new
      intro same
      obtain rfl : token' = token := Option.some.inj same
      exact apart (Option.some.inj (owns.1.symm.trans isIssued))
  | @saved _ t admits =>
    refine ⟨isIssued, fun x isAdmitted => ?_⟩
    rcases admits with _ | _
    · exact fresh x isAdmitted
    rcases List.mem_append.1 isAdmitted with old | new
    · exact fresh x old
    · obtain rfl := List.mem_singleton.1 new
      rintro ⟨⟩

/-! ### The operations -/

section

variable {limits : RateLimits} {me : ℕ} {F : LimiterWorld → Prop} {α β : Type}

/-- A program that keeps to the discipline, wherever it starts with `F`. -/
abbrev KeepsLimits (limits : RateLimits) (me : ℕ) (F : LimiterWorld → Prop) (p : Limiting α) : Prop :=
  (limiterDiscipline limits).Triple me F p fun _ _ => True

theorem keeps_checked {result : Except String β} {f : β → Limiting α}
    (next : ∀ b, result = .ok b → KeepsLimits limits me F (f b)) :
    KeepsLimits limits me F (checked result >>= f) := by
  cases result with
  | ok b => exact next b rfl
  | error message => exact triple_raise fun _ _ _ => trivial

/-- A call that is always permitted, where nothing is to be learned from the answer. -/
theorem keeps_ask {op : LimiterOp} {f : op.Ans → Limiting α}
    (stable : (limiterDiscipline limits).Stable F)
    (permitted : ∀ w, LimiterPermit limits me w op) (next : ∀ a, KeepsLimits limits me F (f a)) :
    KeepsLimits limits me F (ask op >>= f) :=
  triple_call stable (fun w _ _ => permitted w) (fun _ => F)
    (fun _ _ _ inv known answered _ => stable inv (permitted _) answered known) next

theorem keeps_map {p : Limiting α} {f : α → β} (keeps : KeepsLimits limits me F p) :
    KeepsLimits limits me F (f <$> p) := by
  rw [map_eq_pure_bind]
  refine triple_bind (fun _ _ => True) (keeps.mono (fun _ _ => id) fun r _ _ _ => ?_)
    fun _ => triple_pure fun _ _ _ => trivial
  cases r with
  | ok _ | error _ => trivial

/-- What a replica knows once it has read the record. -/
theorem keeps_readState {f : Option RateRecord → Limiting α}
    (next : ∀ read, KeepsLimits limits me (Read read) (f read)) :
    KeepsLimits limits me (fun _ => True) (ask .readState >>= f) := by
  refine triple_call stable_true (fun _ _ _ => trivial) Read ?_ next
  rintro w read w' _ _ ⟨-, oracle, performed⟩ _ r isRead
  obtain ⟨rfl, rfl⟩ := Prod.mk.inj performed
  exact ⟨r, isRead, .inl rfl⟩

variable {revision : ℕ}

theorem storeRecord_first (windows : Windows) (why : RateWrite)
    (first : revision = 0) : storeRecord windows revision why =
      ask (.writeStateIfAbsent (storedRecord (revision + 1) windows) why) := if_pos first

theorem storeRecord_next (windows : Windows) (why : RateWrite)
    (next : revision ≠ 0) : storeRecord windows revision why =
      ask (.compareAndSetState (storedRecord (revision + 1) windows) revision why) := if_neg next

/-- A new token is the replica's own. -/
theorem keeps_nextReservationToken {read : Option RateRecord} {f : ℕ → Limiting α} (next : ∀ token,
      KeepsLimits limits me (fun w => Read read w ∧ OwnsToken me token w) (f token)) :
    KeepsLimits limits me (Read read) (ask (.nextReservationToken me) >>= f) := by
  refine triple_call (stable_read limits read) (fun _ _ _ => trivial)
    (fun token w => Read read w ∧ OwnsToken me token w) ?_ next
  rintro w token w' consistent known answered _
  have allowed : (limiterDiscipline limits).permit me w (.nextReservationToken me) := trivial
  have stillRead := stable_read limits read consistent allowed answered known
  refine ⟨stillRead, ?_⟩
  obtain ⟨-, oracle, performed⟩ := answered
  obtain ⟨rfl, rfl⟩ := Prod.mk.inj performed
  refine ⟨List.getElem?_concat_length, fun x isAdmitted isToken => ?_⟩
  exact Nat.lt_irrefl _ (consistent.issued x isAdmitted _ isToken)

/-- **A conditional write** of what was computed from the record that was read. -/
theorem keeps_storeRecord {read : Option RateRecord} {windows' : Windows}
    {why : RateWrite} {f : Bool → Limiting α}
    (stable : (limiterDiscipline limits).StableAround me F)
    (isRead : ∀ w, F w → Read read w) (owns : ∀ w, F w → OwnsSlot me w why)
    (normalized : normalizeRecord read = .ok (revision, windows))
    (computed : Computed limits read (storedRecord (revision + 1) windows') why)
    (next : ∀ isStored, KeepsLimits limits me (fun _ => True) (f isStored)) :
    KeepsLimits limits me F (storeRecord windows' revision why >>= f) := by
  by_cases first : revision = 0
  · rw [storeRecord_first _ _ first]
    refine triple_call_around stable (fun w _ known => ⟨fun absent => ?_, owns w known⟩)
      (fun _ _ => True) (fun _ _ _ _ _ _ _ => trivial) next
    rcases read with _ | r
    · exact computed
    obtain ⟨stored, found, -⟩ := isRead w known r rfl
    rw [absent] at found
    cases found
  · rw [storeRecord_next _ _ first]
    refine triple_call_around stable
      (fun w _ known => ⟨fun stored found current => ⟨?_, rfl⟩, owns w known⟩)
      (fun _ _ => True) (fun _ _ _ _ _ _ _ => trivial) next
    rcases read with _ | r
    · exact absurd (Prod.mk.inj (Except.ok.inj normalized)).1.symm first
    obtain ⟨stored', found', state⟩ := isRead w known r rfl
    obtain rfl := Option.some.inj (found.symm.trans found')
    rcases state with rfl | later
    · exact computed
    · rw [revision_of_normalizeRecord normalized] at current
      omega

theorem keeps_reserve (limits : RateLimits) (me attempts : ℕ) :
    KeepsLimits limits me (fun _ => True) (reserveDurable limits me attempts) := by
  induction attempts with
  | zero => exact triple_raise fun _ _ _ => trivial
  | succ attempts ih =>
    refine keeps_ask stable_true (fun _ => trivial) fun (t : ℚ) => ?_
    refine keeps_readState fun read => keeps_checked fun (revision, windows) normalized => ?_
    dsimp only
    split
    · -- no budget is left, and the eviction is stored
      refine keeps_storeRecord (stable_read limits read).around (fun _ => id)
        (fun _ _ => trivial) normalized ⟨revision, windows, normalized, rfl⟩ fun _ => ?_
      exact triple_pure fun _ _ _ => trivial
    rename_i room
    refine keeps_nextReservationToken fun token => ?_
    refine keeps_storeRecord
      ((stable_read limits read).around.and (stable_ownsToken limits me token))
      (fun _ known => known.1) (fun _ known => known.2) normalized
      ⟨revision, windows, normalized, room, rfl⟩ fun isStored => ?_
    cases isStored with
    | true => exact triple_pure fun _ _ _ => trivial
    | false => exact ih

/-- `_commit_reservation` and `_release_reservation` compute a record from the slot they
find. -/
theorem keeps_commit (limits : RateLimits) (me token attempts : ℕ) :
    KeepsLimits limits me (fun _ => True) (commitReservation token attempts) := by
  induction attempts with
  | zero => exact triple_raise fun _ _ _ => trivial
  | succ attempts ih =>
    refine keeps_readState fun read => keeps_checked fun (revision, windows) normalized => ?_
    dsimp only
    split
    · exact triple_pure fun _ _ _ => trivial
    rename_i own reservedAt isReserved
    obtain rfl : own = token := Keyed.key_of_get isReserved
    refine keeps_storeRecord (stable_read limits read).around (fun _ => id)
      (fun _ _ => trivial) normalized
      ⟨revision, windows, normalized, reservedAt, isReserved, rfl⟩ fun isStored => ?_
    cases isStored with
    | true => exact triple_pure fun _ _ _ => trivial
    | false => exact ih

theorem keeps_release (limits : RateLimits) (me token attempts : ℕ) :
    KeepsLimits limits me (fun _ => True) (releaseReservation token attempts) := by
  induction attempts with
  | zero => exact triple_raise fun _ _ _ => trivial
  | succ attempts ih =>
    refine keeps_readState fun read => keeps_checked fun (revision, windows) normalized => ?_
    dsimp only
    split
    · exact triple_pure fun _ _ _ => trivial
    refine keeps_storeRecord (stable_read limits read).around (fun _ => id)
      (fun _ _ => trivial) normalized ⟨revision, windows, normalized, rfl⟩ fun isStored => ?_
    cases isStored with
    | true => exact triple_pure fun _ _ _ => trivial
    | false => exact ih

theorem keeps_allow (limits : RateLimits) (me : ℕ) :
    KeepsLimits limits me (fun _ => True) (allow limits) := by
  refine keeps_ask stable_true (fun _ => trivial) fun (t : ℚ) => ?_
  refine keeps_ask stable_true (fun _ => trivial) fun (read : Option RateRecord) => ?_
  refine keeps_checked fun (minute, hour) loaded => ?_
  have minutes : minute = loadedEvents read .minute := by
    unfold loadedEvents
    rw [loaded]
  have hours : hour = loadedEvents read .hour := by
    unfold loadedEvents
    rw [loaded]
  subst minutes hours
  dsimp only
  split
  · exact keeps_ask stable_true (fun _ => rfl) fun _ => triple_pure fun _ _ _ => trivial
  · rename_i room
    exact keeps_ask stable_true (fun _ => ⟨room, rfl⟩) fun _ => triple_pure fun _ _ _ => trivial

/-- Every operation keeps to the discipline. -/
theorem keeps_program (limits : RateLimits) (me : ℕ) (call : LimiterCall) :
    KeepsLimits limits me (fun _ => True) (call.program limits me) := by
  cases call with
  | reserve => exact keeps_map (keeps_reserve limits me 16)
  | commit token => exact keeps_map (keeps_commit limits me token 16)
  | release token => exact keeps_map (keeps_release limits me token 16)
  | allow => exact keeps_map (keeps_allow limits me)

end

/-- No window holds more proposals than its limit. -/
def WithinLimits (limits : RateLimits) (w : LimiterWorld) : Prop :=
  Within Admission.moment minuteSeconds limits.perMinute w.admitted ∧
    Within Admission.moment hourSeconds limits.perHour w.admitted

/-- **The proposal limits hold** in every run all of whose calls are orderly, wherever the
record accounts for what was admitted before. -/
theorem proposals_within_limits (limits : RateLimits) (w₀ : LimiterWorld)
    (start : Consistent limits w₀) (moves : List (Move LimiterCall ℚ))
    (orderly : (limiterMachine limits).Observes LimiterOrderly (Machine.idle w₀) moves) :
    WithinLimits limits ((limiterMachine limits).run (Machine.idle w₀) moves).world := by
  have consistent : Consistent limits _ :=
    Machine.run_inv_of_triple (D := limiterDiscipline limits) id
      (fun replica call => keeps_program limits replica call) start orderly
  exact ⟨consistent.within .minute, consistent.within .hour⟩

/-- One proposal a minute. -/
private def oneAMinute : RateLimits := ⟨1, 10, Nat.one_pos, Nat.le_add_left 1 9⟩

/-- A slot is reserved at a time and committed, and another one is asked for later. -/
private def reserveTwice (first second : ℚ) : List (Move LimiterCall ℚ) :=
  .start .reserve :: List.replicate 5 (.advance 0 first) ++
    .start (.commit 0) :: List.replicate 3 (.advance 1 first) ++
      .start .reserve :: List.replicate 5 (.advance 2 second)

theorem second_slot_refused : WithinLimits oneAMinute
      ((limiterMachine oneAMinute).run (Machine.idle {}) (reserveTwice 30 60)).world :=
  proposals_within_limits oneAMinute {} (consistent_empty oneAMinute) (reserveTwice 30 60)
    (by decide +kernel)

/-- The slot of 59.9 s is kept as an event of second 59, which leaves the minute at 119 s. -/
theorem two_proposals_in_a_minute : ¬ ∀ (limits : RateLimits) (moves : List (Move LimiterCall ℚ)),
      WithinLimits limits ((limiterMachine limits).run (Machine.idle {}) moves).world := by
  intro always
  have both : ((limiterMachine oneAMinute).run (Machine.idle {})
      (reserveTwice (599 / 10) 119)).world.admitted = [⟨some 0, 599 / 10⟩, ⟨some 1, 119⟩] := by
    decide +kernel
  have minute := (always oneAMinute (reserveTwice (599 / 10) 119)).1 (599 / 10)
  rw [both] at minute
  have two : ¬ ([⟨some 0, 599 / 10⟩, ⟨some 1, 119⟩] : List Admission).countP
      (fun x => (599 / 10 : ℚ) ≤ x.moment ∧ x.moment < 599 / 10 + minuteSeconds) ≤
        oneAMinute.perMinute := by
    decide +kernel
  exact two minute

end Fdai.Core
