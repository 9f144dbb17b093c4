import Fdai.Agents.RateLimiter
import Mathlib.Data.Prod.Lex
import Mathlib.Data.String.Basic

/-!
# Reservations in memory

The proposal budget of an agent without a store: events in two windows, and slots that are reserved,
with a heap of them for each window. A slot that is settled leaves the heaps when it is at their head.

* `MemoryLimiter` — its fields; `allow`, `reserveMemory`, `commitReservation`, `releaseReservation`.
* `Ledger` — the limiter, and what was granted: the slots that are outstanding, and the times that were
  committed.
* `Booked` — what the limiter keeps of the ledger, which every operation keeps.
* `reserve_exact_iff` — a reservation is refused exactly when the budget is used up, if and only if what
  is hidden behind the heads leaves room.
-/

namespace Fdai.Core.MemoryLimit

open Fdai.Sequences

/-- A token, and the time it was reserved at. The text of a token ends in its number and this time. -/
abbrev Slot := ℕ × ℚ

/-- The fields of a `RateLimiter` without a store. -/
structure MemoryLimiter where
  minuteEvents : List ℚ := []
  hourEvents : List ℚ := []
  reservations : Reservations := .empty
  minuteHeap : List Slot := []
  hourHeap : List Slot := []
  sequence : ℕ := 0

variable (limits : RateLimits) (text : ℕ → ℚ → String)

/-- What a heap is ordered by: the time, then the text of the token. -/
def slotKey (slot : Slot) : ℚ ×ₗ String := toLex (slot.2, text slot.1 slot.2)

/-- `heapq.heappush`, of a heap in its order. -/
def heappush (heap : List Slot) (slot : Slot) : List Slot :=
  heap.orderedInsert (fun a b => slotKey text a ≤ slotKey text b) slot

/-- `reservations.get(token) == reserved_at`. -/
def isCurrent (reservations : Reservations) (slot : Slot) : Bool :=
  (reservations.get slot.1).any fun current => current.2 = slot.2

/-- The slot is settled, or its time is over. -/
def isGone (reservations : Reservations) (cutoff : ℚ) (slot : Slot) : Bool :=
  !isCurrent reservations slot || slot.2 ≤ cutoff

def evictReservationHeap (heap : List Slot) (reservations : Reservations) (cutoff : ℚ) : List Slot :=
  heap.dropWhile (isGone reservations cutoff)

namespace MemoryLimiter

/-- `_evict_expired` of both windows. -/
def evictEvents (limiter : MemoryLimiter) (t : ℚ) : MemoryLimiter :=
  { limiter with
    minuteEvents := evict limiter.minuteEvents (t - minuteSeconds)
    hourEvents := evict limiter.hourEvents (t - hourSeconds) }

def evictExpiredReservations (limiter : MemoryLimiter) (t : ℚ) : MemoryLimiter :=
  let expired := limiter.hourHeap.takeWhile fun slot => slot.2 ≤ t - hourSeconds
  let hourHeap := limiter.hourHeap.dropWhile fun slot => slot.2 ≤ t - hourSeconds
  let reservations := limiter.reservations.filter fun slot => slot ∉ expired
  { limiter with
    reservations
    minuteHeap := evictReservationHeap limiter.minuteHeap reservations (t - minuteSeconds)
    hourHeap := evictReservationHeap hourHeap reservations (t - hourSeconds) }

def allow (limiter : MemoryLimiter) (t : ℚ) : MemoryLimiter × Bool :=
  let limiter := limiter.evictEvents t
  if limits.perMinute ≤ limiter.minuteEvents.length ∨ limits.perHour ≤ limiter.hourEvents.length then
    (limiter, false)
  else
    ({ limiter with
        minuteEvents := limiter.minuteEvents ++ [t]
        hourEvents := limiter.hourEvents ++ [t] }, true)

/-- A slot more. -/
def push (limiter : MemoryLimiter) (t : ℚ) : MemoryLimiter :=
  let slot : Slot := (limiter.sequence + 1, t)
  { limiter with
    sequence := limiter.sequence + 1
    reservations := limiter.reservations.put slot
    minuteHeap := heappush text limiter.minuteHeap slot
    hourHeap := heappush text limiter.hourHeap slot }

/-- No slot is left in a window. -/
def Full (limiter : MemoryLimiter) : Prop :=
  limits.perMinute ≤ limiter.minuteEvents.length + limiter.minuteHeap.length ∨
    limits.perHour ≤ limiter.hourEvents.length + limiter.hourHeap.length

instance (limiter : MemoryLimiter) : Decidable (limiter.Full limits) :=
  inferInstanceAs (Decidable (_ ∨ _))

/-- `_reserve_memory`: the token, unless it is refused. -/
def reserveMemory (limiter : MemoryLimiter) (t : ℚ) : MemoryLimiter × Option ℕ :=
  let limiter := (limiter.evictEvents t).evictExpiredReservations t
  if limiter.Full limits then (limiter, none)
  else (limiter.push text t, some (limiter.sequence + 1))

def commitReservation (limiter : MemoryLimiter) (token : ℕ) : MemoryLimiter :=
  match limiter.reservations.get token with
  | none => limiter
  | some (_, reservedAt) =>
    { limiter with
      reservations := limiter.reservations.erase token
      minuteEvents := limiter.minuteEvents ++ [reservedAt]
      hourEvents := limiter.hourEvents ++ [reservedAt] }

def releaseReservation (limiter : MemoryLimiter) (token : ℕ) : MemoryLimiter :=
  { limiter with reservations := limiter.reservations.erase token }

end MemoryLimiter

/-! ## The ledger -/

/-- A limiter, the last time it read, and what it granted, which no code reads: the slots whose
reservations are not closed, and the times that were admitted or committed. -/
structure Ledger where
  limiter : MemoryLimiter := {}
  clock : ℚ := 0
  outstanding : List Slot := []
  committed : List ℚ := []

/-- What happens at a limiter. -/
inductive Operation where
  | allow (t : ℚ)
  | reserve (t : ℚ)
  | commit (token : ℕ)
  | release (token : ℕ)

/-- The clock does not go back. -/
def Timely (ledger : Ledger) : Operation → Prop
  | .allow t | .reserve t => ledger.clock ≤ t
  | _ => True

/-- The ledger without a slot. -/
def Ledger.close (ledger : Ledger) (token : ℕ) : List Slot :=
  ledger.outstanding.filter fun slot => slot.1 ≠ token

/-- What an operation does. A reservation that is closed is not settled again. -/
def step (ledger : Ledger) : Operation → Ledger
  | .allow t =>
    let (limiter, admitted) := ledger.limiter.allow limits t
    { ledger with
      limiter
      clock := t
      committed := if admitted then ledger.committed ++ [t] else ledger.committed }
  | .reserve t =>
    let (limiter, token) := ledger.limiter.reserveMemory limits text t
    { ledger with
      limiter
      clock := t
      outstanding :=
        match token with
        | some token => ledger.outstanding ++ [(token, t)]
        | none => ledger.outstanding }
  | .commit token =>
    match ledger.outstanding.find? fun slot => slot.1 = token with
    | none => ledger
    | some slot =>
      { ledger with
        limiter := ledger.limiter.commitReservation token
        outstanding := ledger.close token
        committed := ledger.committed ++ [slot.2] }
  | .release token =>
    match ledger.outstanding.find? fun slot => slot.1 = token with
    | none => ledger
    | some _ =>
      { ledger with
        limiter := ledger.limiter.releaseReservation token
        outstanding := ledger.close token }

/-- What operations under a clock that does not go back lead to. -/
inductive Reachable : Ledger → Prop where
  | init : Reachable {}
  | step {ledger : Ledger} {operation : Operation} : Reachable ledger → Timely ledger operation →
      Reachable (step limits text ledger operation)

/-- What was granted in a window: the times committed, and the slots outstanding. -/
def used (ledger : Ledger) (width t : ℚ) : ℕ :=
  later id ledger.committed (t - width) + later Prod.snd ledger.outstanding (t - width)

/-- **The budget is used up** in one of the windows. -/
def Exhausted (ledger : Ledger) (t : ℚ) : Prop :=
  limits.perMinute ≤ used ledger minuteSeconds t ∨ limits.perHour ≤ used ledger hourSeconds t

/-- What is over or settled, but stands behind what is not, in the minute. -/
def hiddenMinute (limiter : MemoryLimiter) (t : ℚ) : ℕ :=
  hidden (fun event => decide (event ≤ t - minuteSeconds)) limiter.minuteEvents +
    hidden (isGone limiter.reservations (t - minuteSeconds)) limiter.minuteHeap

/-- What is over or settled, but stands behind what is not, in the hour. -/
def hiddenHour (limiter : MemoryLimiter) (t : ℚ) : ℕ :=
  hidden (fun event => decide (event ≤ t - hourSeconds)) limiter.hourEvents +
    hidden (isGone limiter.reservations (t - hourSeconds)) limiter.hourHeap

/-- **What a heap keeps** of the slots that are outstanding: those whose time is not over, each once. -/
structure Heaped (heap outstanding : List Slot) (sequence : ℕ) (cutoff : ℚ) : Prop where
  nodup : (heap.map Prod.fst).Nodup
  issued : ∀ slot ∈ heap, slot.1 ≤ sequence
  live : ∀ slot ∈ outstanding, cutoff < slot.2 → slot ∈ heap

/-- **What events keep** of the times that were committed: those that are not over. -/
def Evented (events committed : List ℚ) (cutoff : ℚ) : Prop :=
  ∀ cutoff', cutoff ≤ cutoff' → later id events cutoff' = later id committed cutoff'

/-- **The invariant.** -/
structure Booked (ledger : Ledger) : Prop where
  minuteEvents : Evented ledger.limiter.minuteEvents ledger.committed (ledger.clock - minuteSeconds)
  hourEvents : Evented ledger.limiter.hourEvents ledger.committed (ledger.clock - hourSeconds)
  kept : ∀ slot ∈ ledger.limiter.reservations.values, slot ∈ ledger.outstanding
  known : ∀ slot ∈ ledger.outstanding, slot ∈ ledger.limiter.reservations.values ∨
    slot.2 ≤ ledger.clock - hourSeconds
  unique : (ledger.outstanding.map Prod.fst).Nodup
  issued : ∀ slot ∈ ledger.outstanding, slot.1 ≤ ledger.limiter.sequence
  minuteHeap : Heaped ledger.limiter.minuteHeap ledger.outstanding ledger.limiter.sequence
    (ledger.clock - minuteSeconds)
  hourHeap : Heaped ledger.limiter.hourHeap ledger.outstanding ledger.limiter.sequence
    (ledger.clock - hourSeconds)

section

variable {limits} {text} {reservations : Reservations} {slot : Slot} {cutoff cutoff' : ℚ}
variable {heap outstanding : List Slot} {events committed : List ℚ} {sequence : ℕ}

theorem isCurrent_iff : isCurrent reservations slot = true ↔ slot ∈ reservations.values := by
  unfold isCurrent
  constructor
  · intro current
    rcases isFound : reservations.get slot.1 with _ | found
    · rw [isFound] at current
      cases current
    rw [isFound, Option.any_some, decide_eq_true_eq] at current
    have same : found = slot := Prod.ext (Keyed.key_of_get isFound) current
    rw [← same]
    exact Keyed.mem_of_get isFound
  · intro stored
    rw [Keyed.get_of_mem stored]
    exact decide_eq_true rfl

/-- A slot is gone unless it is reserved and its time is not over. -/
theorem isGone_eq_false : isGone reservations cutoff slot = false ↔
    slot ∈ reservations.values ∧ cutoff < slot.2 := by
  unfold isGone
  rw [Bool.or_eq_false_iff, Bool.not_eq_false', isCurrent_iff, decide_eq_false_iff_not, not_le]

theorem Evented.evict (evented : Evented events committed cutoff) (cutoffs : cutoff ≤ cutoff') :
    Evented (evict events cutoff') committed cutoff' := by
  intro further isFurther
  have same : later id (Sequences.evict events cutoff') further = later id events further :=
    later_evict (fun _ => le_rfl) isFurther
  rw [same]
  exact evented further (cutoffs.trans isFurther)

theorem Evented.append (evented : Evented events committed cutoff) (t : ℚ) :
    Evented (events ++ [t]) (committed ++ [t]) cutoff := by
  intro further isFurther
  rw [later_append, later_append, evented further isFurther]

/-- A time that is over need not be kept. -/
theorem Evented.elapsed {t : ℚ} (evented : Evented events committed cutoff) (elapsed : t ≤ cutoff) :
    Evented events (committed ++ [t]) cutoff := by
  intro further isFurther
  have notLater : later id [t] further = 0 := by
    rw [later_cons, later_nil, if_neg (show ¬ further < id t from not_lt.2 (elapsed.trans isFurther))]
  rw [later_append, notLater, Nat.add_zero, evented further isFurther]

theorem Heaped.mono (heaped : Heaped heap outstanding sequence cutoff) (cutoffs : cutoff ≤ cutoff') :
    Heaped heap outstanding sequence cutoff' where
  nodup := heaped.nodup
  issued := heaped.issued
  live slot isSlot after := heaped.live slot isSlot (cutoffs.trans_lt after)

theorem Heaped.subset {outstanding' : List Slot} (heaped : Heaped heap outstanding sequence cutoff)
    (fewer : outstanding' ⊆ outstanding) : Heaped heap outstanding' sequence cutoff where
  nodup := heaped.nodup
  issued := heaped.issued
  live slot isSlot := heaped.live slot (fewer isSlot)

/-- **Eviction** drops no slot that is outstanding and whose time is not over. -/
theorem Heaped.dropWhile {gone : Slot → Bool}
    (heaped : Heaped heap outstanding sequence cutoff) (cutoffs : cutoff ≤ cutoff')
    (stays : ∀ slot ∈ outstanding, cutoff' < slot.2 → gone slot = false) :
    Heaped (heap.dropWhile gone) outstanding sequence cutoff' where
  nodup := heaped.nodup.sublist ((List.dropWhile_sublist _).map _)
  issued slot isSlot := heaped.issued slot ((List.dropWhile_sublist _).subset isSlot)
  live slot isSlot after := mem_dropWhile_of_not
    (heaped.live slot isSlot (cutoffs.trans_lt after)) (stays slot isSlot after)

/-- **A slot more**, under a number of its own. -/
theorem Heaped.push (heaped : Heaped heap outstanding sequence cutoff) (t : ℚ) :
    Heaped (heappush text heap (sequence + 1, t)) (outstanding ++ [(sequence + 1, t)])
      (sequence + 1) cutoff := by
  have perm : (heappush text heap (sequence + 1, t)).Perm ((sequence + 1, t) :: heap) :=
    List.perm_orderedInsert _ _ _
  refine ⟨?_, fun slot isSlot => ?_, fun slot isSlot after => ?_⟩
  · rw [(perm.map Prod.fst).nodup_iff, List.map_cons, List.nodup_cons]
    refine ⟨fun inside => ?_, heaped.nodup⟩
    obtain ⟨slot, isSlot, same⟩ := List.mem_map.1 inside
    have issued := heaped.issued slot isSlot
    omega
  · rcases List.mem_cons.1 (perm.mem_iff.1 isSlot) with rfl | isSlot
    · exact le_rfl
    · exact (heaped.issued slot isSlot).trans (Nat.le_succ _)
  · refine perm.mem_iff.2 (List.mem_cons.2 ?_)
    rcases List.mem_append.1 isSlot with isSlot | isLast
    · exact .inr (heaped.live slot isSlot after)
    · exact .inl (List.mem_singleton.1 isLast)

/-- **What is not gone** in a heap are the slots that are outstanding and whose time is not over. -/
theorem Heaped.countP (heaped : Heaped heap outstanding sequence cutoff)
    (cutoffs : cutoff ≤ cutoff') (unique : (outstanding.map Prod.fst).Nodup)
    (kept : ∀ slot ∈ reservations.values, slot ∈ outstanding)
    (known : ∀ slot ∈ outstanding, cutoff' < slot.2 → slot ∈ reservations.values) :
    (heap.countP fun slot => !isGone reservations cutoff' slot) =
      later Prod.snd outstanding cutoff' := by
  unfold later
  rw [List.countP_eq_length_filter, List.countP_eq_length_filter]
  refine List.Perm.length_eq ((List.perm_ext_iff_of_nodup ?_ ?_).2 fun slot => ?_)
  · exact heaped.nodup.of_map.filter _
  · exact unique.of_map.filter _
  · rw [List.mem_filter, List.mem_filter, Bool.not_eq_true', isGone_eq_false, decide_eq_true_eq]
    constructor
    · rintro ⟨-, stored, after⟩
      exact ⟨kept slot stored, after⟩
    · rintro ⟨isSlot, after⟩
      exact ⟨heaped.live slot isSlot (cutoffs.trans_lt after), known slot isSlot after, after⟩

/-! ## Every operation -/

variable {ledger : Ledger} {t : ℚ}

theorem hour_le_minute (t : ℚ) : t - hourSeconds ≤ t - minuteSeconds := by
  unfold hourSeconds minuteSeconds
  linarith

/-- The limiter after what is over is evicted. -/
abbrev MemoryLimiter.evicted (limiter : MemoryLimiter) (t : ℚ) : MemoryLimiter :=
  (limiter.evictEvents t).evictExpiredReservations t

theorem mem_reservations_evicted {limiter : MemoryLimiter} {slot : Slot}
    (stored : slot ∈ limiter.reservations.values) (after : t - hourSeconds < slot.2) :
    slot ∈ (limiter.evicted t).reservations.values := by
  refine List.mem_filter.2 ⟨stored, decide_eq_true fun isExpired => ?_⟩
  have elapsed := List.mem_takeWhile_imp (p := fun slot : Slot => decide (slot.2 ≤ t - hourSeconds)) isExpired
  exact absurd after (not_lt.2 (of_decide_eq_true elapsed))

/-- **Time goes by**, and what is over is evicted. -/
theorem Booked.evicted (booked : Booked ledger) (later : ledger.clock ≤ t) :
    Booked { ledger with limiter := ledger.limiter.evicted t, clock := t } := by
  have minutes : ledger.clock - minuteSeconds ≤ t - minuteSeconds := sub_le_sub_right later _
  have hours : ledger.clock - hourSeconds ≤ t - hourSeconds := sub_le_sub_right later _
  have stays : ∀ slot ∈ ledger.outstanding, t - hourSeconds < slot.2 →
      slot ∈ (ledger.limiter.evicted t).reservations.values := fun slot isSlot after =>
    mem_reservations_evicted ((booked.known slot isSlot).resolve_right
      (not_le.2 (hours.trans_lt after))) after
  refine ⟨booked.minuteEvents.evict minutes, booked.hourEvents.evict hours, ?_, ?_, booked.unique,
    booked.issued, ?_, ?_⟩
  · exact fun slot stored => booked.kept slot (List.mem_filter.1 stored).1
  · intro slot isSlot
    by_cases after : t - hourSeconds < slot.2
    · exact .inl (stays slot isSlot after)
    · exact .inr (not_lt.1 after)
  · exact booked.minuteHeap.dropWhile minutes fun slot isSlot after =>
      isGone_eq_false.2 ⟨stays slot isSlot ((hour_le_minute t).trans_lt after), after⟩
  · exact (booked.hourHeap.dropWhile hours fun slot _ after =>
      decide_eq_false (not_le.2 after)).dropWhile le_rfl fun slot isSlot after =>
        isGone_eq_false.2 ⟨stays slot isSlot after, after⟩

/-- Only events are evicted. -/
theorem Booked.allow (booked : Booked ledger) (later : ledger.clock ≤ t) :
    Booked (step limits text ledger (.allow t)) := by
  have minutes : ledger.clock - minuteSeconds ≤ t - minuteSeconds := sub_le_sub_right later _
  have hours : ledger.clock - hourSeconds ≤ t - hourSeconds := sub_le_sub_right later _
  have evicted : Booked { ledger with limiter := ledger.limiter.evictEvents t, clock := t } :=
    ⟨booked.minuteEvents.evict minutes, booked.hourEvents.evict hours, booked.kept,
      fun slot isSlot => (booked.known slot isSlot).imp_right hours.trans', booked.unique,
      booked.issued, booked.minuteHeap.mono minutes, booked.hourHeap.mono hours⟩
  unfold step MemoryLimiter.allow
  dsimp only
  split
  · exact evicted
  · exact ⟨evicted.minuteEvents.append t, evicted.hourEvents.append t, evicted.kept, evicted.known,
      evicted.unique, evicted.issued, evicted.minuteHeap, evicted.hourHeap⟩

/-- **A slot more** is outstanding. -/
theorem Booked.push (booked : Booked ledger) (t : ℚ) :
    Booked { ledger with
      limiter := ledger.limiter.push text t
      outstanding := ledger.outstanding ++ [(ledger.limiter.sequence + 1, t)] } := by
  have fresh : ∀ slot ∈ ledger.outstanding, slot.1 ≠ ledger.limiter.sequence + 1 :=
    fun slot isSlot same => by
      have issued := booked.issued slot isSlot
      omega
  have freshKey : (ledger.limiter.sequence + 1) ∉
      ledger.limiter.reservations.values.map Prod.fst := fun inside => by
    obtain ⟨slot, stored, same⟩ := List.mem_map.1 inside
    exact fresh slot (booked.kept slot stored) same
  have values : (ledger.limiter.push text t).reservations.values =
      ledger.limiter.reservations.values ++ [(ledger.limiter.sequence + 1, t)] :=
    Keyed.values_put_of_notMem freshKey
  refine ⟨booked.minuteEvents, booked.hourEvents, ?_, ?_, ?_, ?_, booked.minuteHeap.push t,
    booked.hourHeap.push t⟩
  · intro slot stored
    rw [values] at stored
    exact List.mem_append.2 ((List.mem_append.1 stored).imp_left (booked.kept slot))
  · intro slot isSlot
    rw [values]
    rcases List.mem_append.1 isSlot with isSlot | isLast
    · exact (booked.known slot isSlot).imp_left (List.mem_append_left _)
    · exact .inl (List.mem_append_right _ isLast)
  · rw [List.map_append, List.nodup_append]
    refine ⟨booked.unique, List.nodup_singleton _, ?_⟩
    rintro _ isSlot _ isLast rfl
    obtain ⟨slot, isSlot, same⟩ := List.mem_map.1 isSlot
    exact fresh slot isSlot (same.trans (List.mem_singleton.1 isLast))
  · intro slot isSlot
    rcases List.mem_append.1 isSlot with isSlot | isLast
    · exact (booked.issued slot isSlot).trans (Nat.le_succ _)
    · rw [List.mem_singleton.1 isLast]
      exact le_rfl

/-- **A reservation** that is made, or refused. -/
theorem Booked.reserve (booked : Booked ledger) (later : ledger.clock ≤ t) :
    Booked (step limits text ledger (.reserve t)) := by
  have evicted := booked.evicted later
  unfold step MemoryLimiter.reserveMemory
  dsimp only
  split
  · exact evicted
  · exact evicted.push t

theorem Booked.get (booked : Booked ledger) {token : ℕ} {slot stored : Slot}
    (isSlot : slot ∈ ledger.outstanding) (isToken : slot.1 = token)
    (found : ledger.limiter.reservations.get token = some stored) : stored = slot := by
  have sameToken : stored.1 = slot.1 := (Keyed.key_of_get found).trans isToken.symm
  exact List.inj_on_of_nodup_map booked.unique (booked.kept stored (Keyed.mem_of_get found)) isSlot
    sameToken

/-- **A slot less.** -/
theorem Booked.closed (booked : Booked ledger) (token : ℕ) :
    Booked { ledger with
      limiter := ledger.limiter.releaseReservation token
      outstanding := ledger.close token } := by
  have fewer : ledger.close token ⊆ ledger.outstanding := List.filter_subset_self _
  refine ⟨booked.minuteEvents, booked.hourEvents, ?_, ?_,
    booked.unique.sublist (List.filter_sublist.map _), fun slot isSlot => booked.issued slot (fewer isSlot),
    booked.minuteHeap.subset fewer, booked.hourHeap.subset fewer⟩
  · intro slot stored
    obtain ⟨stored, apart⟩ := Keyed.mem_erase.1 stored
    exact List.mem_filter.2 ⟨booked.kept slot stored, decide_eq_true apart⟩
  · intro slot isSlot
    obtain ⟨isSlot, apart⟩ := List.mem_filter.1 isSlot
    exact (booked.known slot isSlot).imp_left fun stored =>
      Keyed.mem_erase.2 ⟨stored, of_decide_eq_true apart⟩

/-- **A commit** records the time of its slot, unless that is over. -/
theorem Booked.commit (booked : Booked ledger) (token : ℕ) :
    Booked (step limits text ledger (.commit token)) := by
  unfold step
  dsimp only
  cases isFound : ledger.outstanding.find? fun slot => slot.1 = token with
  | none => exact booked
  | some slot =>
    dsimp only
    have isSlot := List.mem_of_find?_eq_some isFound
    have isToken : slot.1 = token := by simpa using List.find?_some isFound
    have closed := booked.closed token
    unfold MemoryLimiter.commitReservation
    cases found : ledger.limiter.reservations.get token with
    | none =>
      -- The reservation was evicted: its time is over.
      have elapsed : slot.2 ≤ ledger.clock - hourSeconds := by
        refine (booked.known slot isSlot).resolve_left fun stored => ?_
        have present := Keyed.get_of_mem stored
        rw [isToken, found] at present
        cases present
      have same : ledger.limiter.reservations.erase token = ledger.limiter.reservations := by
        refine Keyed.ext (List.filter_eq_self.2 fun stored isStored => ?_)
        refine decide_eq_true fun sameToken => ?_
        have present := Keyed.get_of_mem isStored
        rw [sameToken, found] at present
        cases present
      unfold MemoryLimiter.releaseReservation at closed
      rw [same] at closed
      exact { closed with
        minuteEvents := closed.minuteEvents.elapsed (elapsed.trans (hour_le_minute _))
        hourEvents := closed.hourEvents.elapsed elapsed }
    | some stored =>
      obtain rfl := booked.get isSlot isToken found
      exact { closed with
        minuteEvents := closed.minuteEvents.append stored.2
        hourEvents := closed.hourEvents.append stored.2 }

/-- **What an operation keeps.** -/
theorem Booked.step {operation : Operation} (booked : Booked ledger)
    (timely : Timely ledger operation) : Booked (step limits text ledger operation) := by
  cases operation with
  | allow t => exact booked.allow timely
  | reserve t => exact booked.reserve timely
  | commit token => exact booked.commit token
  | release token =>
    unfold MemoryLimit.step
    dsimp only
    split
    · exact booked
    · exact booked.closed token

/-- **What every run keeps.** -/
theorem Reachable.booked (reachable : Reachable limits text ledger) : Booked ledger := by
  induction reachable with
  | init =>
    refine ⟨fun _ _ => rfl, fun _ _ => rfl, ?_, ?_, List.nodup_nil, ?_, ?_, ?_⟩
    · exact fun _ never => (List.not_mem_nil never).elim
    · exact fun _ never => (List.not_mem_nil never).elim
    · exact fun _ never => (List.not_mem_nil never).elim
    · exact ⟨List.nodup_nil, fun _ never => (List.not_mem_nil never).elim,
        fun _ never => (List.not_mem_nil never).elim⟩
    · exact ⟨List.nodup_nil, fun _ never => (List.not_mem_nil never).elim,
        fun _ never => (List.not_mem_nil never).elim⟩
  | step _ timely ih => exact ih.step timely

/-! ## The decision -/

/-- **The events** that are left count those that are not over, and those that hide behind them. -/
theorem length_evict {width : ℚ} (evented : Evented events committed cutoff)
    (cutoffs : cutoff ≤ t - width) : (evict events (t - width)).length =
      later id committed (t - width) + hidden (fun event => decide (event ≤ t - width)) events := by
  unfold evict
  rw [length_dropWhile_eq, ← evented (t - width) cutoffs]
  congr 1
  refine List.countP_congr fun event _ => ?_
  simp

/-- What is gone after the eviction of what is over in the hour was gone before. -/
theorem isGone_evicted {limiter : MemoryLimiter} (elapsed : t - hourSeconds ≤ cutoff) (slot : Slot) :
    isGone (limiter.evicted t).reservations cutoff slot = isGone limiter.reservations cutoff slot := by
  rw [Bool.eq_iff_iff, ← not_iff_not, Bool.not_eq_true, Bool.not_eq_true, isGone_eq_false,
    isGone_eq_false]
  constructor
  · rintro ⟨stored, after⟩
    exact ⟨(List.mem_filter.1 stored).1, after⟩
  · rintro ⟨stored, after⟩
    exact ⟨mem_reservations_evicted stored (elapsed.trans_lt after), after⟩

/-- **The heap of the minute**, once it is evicted. -/
theorem Booked.length_minuteHeap (booked : Booked ledger) (isLater : ledger.clock ≤ t) :
    (ledger.limiter.evicted t).minuteHeap.length =
      later Prod.snd ledger.outstanding (t - minuteSeconds) +
        hidden (isGone ledger.limiter.reservations (t - minuteSeconds)) ledger.limiter.minuteHeap := by
  have gone : isGone (ledger.limiter.evicted t).reservations (t - minuteSeconds) =
      isGone ledger.limiter.reservations (t - minuteSeconds) :=
    funext (isGone_evicted (hour_le_minute t))
  show (ledger.limiter.minuteHeap.dropWhile
    (isGone (ledger.limiter.evicted t).reservations (t - minuteSeconds))).length = _
  rw [gone, length_dropWhile_eq, booked.minuteHeap.countP (sub_le_sub_right isLater _) booked.unique
    booked.kept fun slot isSlot after => (booked.known slot isSlot).resolve_right (not_le.2 ?_)]
  exact ((sub_le_sub_right isLater _).trans (hour_le_minute t)).trans_lt after

/-- **The heap of the hour**, once it is evicted. -/
theorem Booked.length_hourHeap (booked : Booked ledger) (isLater : ledger.clock ≤ t) :
    (ledger.limiter.evicted t).hourHeap.length =
      later Prod.snd ledger.outstanding (t - hourSeconds) +
        hidden (isGone ledger.limiter.reservations (t - hourSeconds)) ledger.limiter.hourHeap := by
  have gone : isGone (ledger.limiter.evicted t).reservations (t - hourSeconds) =
      isGone ledger.limiter.reservations (t - hourSeconds) := funext (isGone_evicted le_rfl)
  show ((ledger.limiter.hourHeap.dropWhile fun slot => slot.2 ≤ t - hourSeconds).dropWhile
    (isGone (ledger.limiter.evicted t).reservations (t - hourSeconds))).length = _
  rw [gone, dropWhile_dropWhile_of_imp fun slot elapsed => ?_, length_dropWhile_eq,
    booked.hourHeap.countP (sub_le_sub_right isLater _) booked.unique booked.kept
      fun slot isSlot after => (booked.known slot isSlot).resolve_right (not_le.2 ?_)]
  · exact (sub_le_sub_right isLater _).trans_lt after
  · unfold isGone
    rw [elapsed, Bool.or_true]

end

/-- **A reservation is refused exactly when the budget is used up**, in every run and at every time, if
and only if the budget is used up or what is hidden behind the heads leaves room in both windows. -/
theorem reserve_exact_iff (ledger : Ledger) (reachable : Reachable limits text ledger) (t : ℚ)
    (later : ledger.clock ≤ t) :
    (((ledger.limiter.reserveMemory limits text t).2 = none ↔ Exhausted limits ledger t) ↔
      (Exhausted limits ledger t ∨
        used ledger minuteSeconds t + hiddenMinute ledger.limiter t < limits.perMinute ∧
        used ledger hourSeconds t + hiddenHour ledger.limiter t < limits.perHour)) := by
  have booked := reachable.booked
  have minute : (ledger.limiter.evicted t).minuteEvents.length +
      (ledger.limiter.evicted t).minuteHeap.length =
        used ledger minuteSeconds t + hiddenMinute ledger.limiter t := by
    have events := length_evict (t := t) booked.minuteEvents (sub_le_sub_right later _)
    have heap := booked.length_minuteHeap later
    unfold used hiddenMinute
    show (evict ledger.limiter.minuteEvents (t - minuteSeconds)).length + _ = _
    rw [events, heap]
    omega
  have hour : (ledger.limiter.evicted t).hourEvents.length +
      (ledger.limiter.evicted t).hourHeap.length =
        used ledger hourSeconds t + hiddenHour ledger.limiter t := by
    have events := length_evict (t := t) booked.hourEvents (sub_le_sub_right later _)
    have heap := booked.length_hourHeap later
    unfold used hiddenHour
    show (evict ledger.limiter.hourEvents (t - hourSeconds)).length + _ = _
    rw [events, heap]
    omega
  have refuses : (ledger.limiter.reserveMemory limits text t).2 = none ↔
      limits.perMinute ≤ used ledger minuteSeconds t + hiddenMinute ledger.limiter t ∨
        limits.perHour ≤ used ledger hourSeconds t + hiddenHour ledger.limiter t := by
    rw [← minute, ← hour]
    unfold MemoryLimiter.reserveMemory
    dsimp only
    split
    · rename_i isFull
      exact ⟨fun _ => isFull, fun _ => rfl⟩
    rename_i notFull
    refine ⟨fun never => ?_, fun isFull => (notFull isFull).elim⟩
    cases never
  rw [refuses]
  unfold Exhausted
  omega

/-- Two proposals a minute. -/
def twoAMinute : RateLimits where
  perMinute := 2
  perHour := 10
  perMinute_pos := Nat.two_pos
  perHour_pos := Nat.succ_pos 9

def tokenText (number : ℕ) (_ : ℚ) : String := toString number

/-- Two slots are reserved, and the second is released. -/
def outOfTurn : Ledger :=
  [.reserve 0, .reserve 1, .release 2].foldl (step twoAMinute tokenText) {}

theorem outOfTurn_reachable : Reachable twoAMinute tokenText outOfTurn := by
  have first : Reachable twoAMinute tokenText (step twoAMinute tokenText {} (.reserve 0)) :=
    .step .init (le_refl (0 : ℚ))
  have second := @Reachable.step _ _ _ (.reserve 1) first (by
    show (0 : ℚ) ≤ 1
    decide)
  exact @Reachable.step _ _ _ (.release 2) second trivial

theorem outOfTurn_exact_later : (outOfTurn.limiter.reserveMemory twoAMinute tokenText 60).2 = none ↔
      Exhausted twoAMinute outOfTurn 60 :=
  (reserve_exact_iff twoAMinute tokenText outOfTurn outOfTurn_reachable 60
    (by decide +kernel)).2 (.inr (by decide +kernel))

/-- **A slot that is released out of turn** is counted until the slot before it is settled. -/
theorem released_slot_counted : ¬ ∀ (limits : RateLimits) (text : ℕ → ℚ → String) (ledger : Ledger),
    Reachable limits text ledger → ∀ t, ledger.clock ≤ t →
      ((ledger.limiter.reserveMemory limits text t).2 = none ↔ Exhausted limits ledger t) := by
  intro always
  have exhausted := (always twoAMinute tokenText outOfTurn outOfTurn_reachable 2
    (by decide +kernel)).1 (by decide +kernel)
  revert exhausted
  unfold Exhausted
  decide +kernel

end Fdai.Core.MemoryLimit
