import Mathlib.Data.List.Count

/-!
# Backpressure

A gate that lets some callers run, parks some more behind a semaphore, and sheds the others.

* `Waiter`, `locked`, `wakeUpNext`, `wakeWhile` — the semaphore: who is parked, and who is woken next.
* `Gate`, `Event`, `step` — the gate, from one point where a caller waits to the next: a caller arrives,
  is cancelled or times out, resumes, or leaves its slot.
* `OrderlyRun` — a run in which a caller that arrives while another is still to resume finds fewer
  admitted than the gate has place for.
-/

namespace Fdai.Shared.Resilience.Backpressure

/-- `BackpressureConfig`, of what bounds the gate. -/
structure BackpressureConfig where
  maxConcurrency : ℕ := 32
  maxQueued : ℕ := 128
  maxConcurrency_pos : 1 ≤ maxConcurrency := by decide

inductive Future where
  | pending | result | cancelled
  deriving DecidableEq

/-- A caller that waits in `acquire`: its future, and whether it was cancelled, or its time is over. -/
structure Waiter where
  caller : ℕ
  future : Future := .pending
  cancelRequested : Bool := false
  timedOut : Bool := false

/-- The future is waited for. -/
def Waiter.isPending (waiter : Waiter) : Bool := waiter.future = .pending

/-- The waiter has the slot of another that left. -/
def Waiter.isWoken (waiter : Waiter) : Bool := waiter.future = .result

/-- `locked`: the semaphore cannot be acquired at once. -/
def locked (value : ℕ) (parked : List Waiter) : Bool :=
  value = 0 || parked.any fun waiter => waiter.future ≠ .cancelled

/-- `_wake_up_next`: the first future that is waited for gets its result; `none` if there is none. -/
def wakeUpNext : List Waiter → Option (List Waiter)
  | [] => none
  | waiter :: rest =>
    if waiter.isPending then some ({ waiter with future := .result } :: rest)
    else (wakeUpNext rest).map (waiter :: ·)

/-- The loop at the end of `acquire`: wake up as many as there are slots. -/
def wakeWhile : ℕ → List Waiter → ℕ × List Waiter
  | 0, parked => (0, parked)
  | value + 1, parked =>
    match wakeUpNext parked with
    | some parked => wakeWhile value parked
    | none => (value + 1, parked)

/-! ## The gate -/

/-- `Backpressure`: its counters, the value and the waiters of its semaphore, and the callers that
run. -/
structure Gate where
  inFlight : ℕ := 0
  waiting : ℕ := 0
  shedCount : ℕ := 0
  value : ℕ
  parked : List Waiter := []
  running : List ℕ := []

/-- What happens between two points where a caller waits. -/
inductive Event where
  /-- A caller enters `slot`. -/
  | arrive (caller : ℕ)
  /-- A caller that is parked is cancelled, or its time is over. -/
  | cancel (place : ℕ) (timeout : Bool)
  /-- A caller whose future is done goes on. -/
  | resume (place : ℕ)
  /-- A caller leaves its slot, however its work ended. -/
  | leave (place : ℕ)

variable (config : BackpressureConfig)

/-- Every slot is in flight, and the queue is full. -/
def Saturated (gate : Gate) : Prop :=
  config.maxConcurrency ≤ gate.inFlight ∧ config.maxQueued ≤ gate.waiting

instance (gate : Gate) : Decidable (Saturated config gate) := inferInstanceAs (Decidable (_ ∧ _))

/-- `task.cancel()`, of a task that waits: a future that is done stays as it is. -/
def Waiter.cancel (timeout : Bool) (waiter : Waiter) : Waiter :=
  { waiter with
    future := if waiter.isPending then .cancelled else waiter.future
    cancelRequested := waiter.cancelRequested || !timeout
    timedOut := waiter.timedOut || timeout }

/-- `acquire` raises when the waiter goes on. -/
def Waiter.isRaised (waiter : Waiter) : Bool := waiter.cancelRequested || waiter.timedOut

/-- A caller enters `slot`: it is shed, runs at once, or is parked. -/
def arrive (caller : ℕ) (gate : Gate) : Gate :=
  if Saturated config gate then { gate with shedCount := gate.shedCount + 1 }
  else if locked gate.value gate.parked then
    { gate with
      waiting := gate.waiting + 1
      parked := gate.parked ++ [{ caller }] }
  else
    { gate with
      value := gate.value - 1
      inFlight := gate.inFlight + 1
      running := caller :: gate.running }

/-- A waiter goes on: it gives its slot back if it is raised, wakes up others, and runs unless it is
raised. -/
def resume (waiter : Waiter) (others : List Waiter) (gate : Gate) : Gate :=
  let (value, parked) := wakeWhile
    (if waiter.isRaised && waiter.isWoken then gate.value + 1 else gate.value) others
  let gate := { gate with value, parked, waiting := gate.waiting - 1 }
  if waiter.isRaised then
    -- A timeout is shed; a cancellation is raised further.
    { gate with
      shedCount :=
        if waiter.timedOut && !waiter.cancelRequested then gate.shedCount + 1 else gate.shedCount }
  else { gate with inFlight := gate.inFlight + 1, running := waiter.caller :: gate.running }

/-- `release`: the slot is handed to the next waiter, or is free. -/
def release (gate : Gate) : Gate :=
  match wakeUpNext gate.parked with
  | some parked => { gate with parked }
  | none => { gate with value := gate.value + 1 }

/-- What an event does; one that is not possible does nothing. -/
def step (gate : Gate) : Event → Gate
  | .arrive caller => arrive config caller gate
  | .cancel place timeout =>
    match gate.parked[place]? with
    | none => gate
    | some waiter =>
      { gate with
        parked := gate.parked.take place ++ waiter.cancel timeout :: gate.parked.drop (place + 1) }
  | .resume place =>
    match gate.parked[place]? with
    | none => gate
    | some waiter =>
      if waiter.isPending then gate
      else resume waiter (gate.parked.take place ++ gate.parked.drop (place + 1)) gate
  | .leave place =>
    match gate.running[place]? with
    | none => gate
    | some _ =>
      release {
        gate with
        inFlight := gate.inFlight - 1
        running := gate.running.take place ++ gate.running.drop (place + 1) }

/-- The gate at first. -/
def opened : Gate where
  value := config.maxConcurrency

/-- What events lead to. -/
inductive Reachable : Gate → Prop where
  | init : Reachable (opened config)
  | step {gate : Gate} (event : Event) : Reachable gate → Reachable (step config gate event)

/-- A caller that arrives while another has been woken or cancelled and is still to resume finds fewer
admitted than the gate has place for. -/
def Orderly (gate : Gate) : Event → Prop
  | .arrive _ => (∀ waiter ∈ gate.parked, waiter.isPending = true) ∨
      gate.inFlight + gate.waiting < config.maxConcurrency + config.maxQueued
  | _ => True

inductive OrderlyRun : Gate → Prop where
  | init : OrderlyRun (opened config)
  | step {gate : Gate} {event : Event} : OrderlyRun gate → Orderly config gate event →
      OrderlyRun (step config gate event)

/-- How many waiters have the slot of another. -/
def woken (parked : List Waiter) : ℕ := parked.countP Waiter.isWoken

section

variable {config} {value : ℕ} {parked parked' : List Waiter} {gate : Gate}

/-- **Whoever is woken** gets the slot that was free. -/
theorem wakeUpNext_some (wakes : wakeUpNext parked = some parked') :
    parked'.length = parked.length ∧ woken parked' = woken parked + 1 ∧
      ∀ waiter ∈ parked', waiter.future = .cancelled → waiter ∈ parked := by
  induction parked generalizing parked' with
  | nil => cases wakes
  | cons waiter rest ih =>
    unfold wakeUpNext at wakes
    split at wakes
    · rename_i pending
      obtain rfl := Option.some.inj wakes
      have notWoken : waiter.isWoken = false := by
        unfold Waiter.isPending at pending
        unfold Waiter.isWoken
        rw [of_decide_eq_true pending]
        rfl
      refine ⟨rfl, ?_, fun other isOther isCancelled => ?_⟩
      · unfold woken
        rw [List.countP_cons_of_pos rfl, List.countP_cons_of_neg (by rw [notWoken]; decide)]
      · rcases List.mem_cons.1 isOther with rfl | isOther
        · cases isCancelled
        · exact List.mem_cons_of_mem _ isOther
    · obtain ⟨rest', isRest, rfl⟩ := Option.map_eq_some_iff.1 wakes
      obtain ⟨lengths, more, cancelled⟩ := ih isRest
      refine ⟨by rw [List.length_cons, List.length_cons, lengths], ?_,
        fun other isOther isCancelled => ?_⟩
      · unfold woken at more ⊢
        rw [List.countP_cons, List.countP_cons, more]
        omega
      · rcases List.mem_cons.1 isOther with rfl | isOther
        · exact List.mem_cons_self
        · exact List.mem_cons_of_mem _ (cancelled other isOther isCancelled)

/-- If nobody is woken, nobody is waiting. -/
theorem wakeUpNext_none (asleep : wakeUpNext parked = none) :
    ∀ waiter ∈ parked, waiter.isPending = false := by
  induction parked with
  | nil => exact fun _ never => (List.not_mem_nil never).elim
  | cons waiter rest ih =>
    unfold wakeUpNext at asleep
    split at asleep
    · cases asleep
    rename_i notPending
    intro other isOther
    rcases List.mem_cons.1 isOther with rfl | isOther
    · exact Bool.eq_false_iff.2 notPending
    · exact ih (Option.map_eq_none_iff.1 asleep) other isOther

/-- **The loop** keeps the slots, and ends when none is free or nobody is waiting. -/
theorem wakeWhile_spec (value : ℕ) (parked : List Waiter) :
    (wakeWhile value parked).2.length = parked.length ∧
      (wakeWhile value parked).1 + woken (wakeWhile value parked).2 = value + woken parked ∧
      ((wakeWhile value parked).1 = 0 ∨
        ∀ waiter ∈ (wakeWhile value parked).2, waiter.isPending = false) ∧
      ∀ waiter ∈ (wakeWhile value parked).2, waiter.future = .cancelled → waiter ∈ parked := by
  induction value generalizing parked with
  | zero => exact ⟨rfl, rfl, .inl rfl, fun _ isWaiter _ => isWaiter⟩
  | succ value ih =>
    unfold wakeWhile
    split
    · rename_i parked' wakes
      obtain ⟨lengths, more, cancelled⟩ := wakeUpNext_some wakes
      obtain ⟨sameLength, sameSlots, ends, stillCancelled⟩ := ih parked'
      exact ⟨sameLength.trans lengths, by omega, ends, fun waiter isWaiter isCancelled =>
        cancelled waiter (stillCancelled waiter isWaiter isCancelled) isCancelled⟩
    · rename_i asleep
      exact ⟨rfl, rfl, .inr (wakeUpNext_none asleep), fun _ isWaiter _ => isWaiter⟩

/-! ## What holds throughout -/

/-- **The invariant.** The counters count who runs and who is parked; a slot is free, in flight, or on
its way to who was woken; where a slot is free while somebody is waiting, somebody else was woken and
will hand it on; and a future is cancelled only if its waiter is raised. -/
structure Sound (config : BackpressureConfig) (gate : Gate) : Prop where
  inFlight : gate.inFlight = gate.running.length
  waiting : gate.waiting = gate.parked.length
  slots : gate.value + gate.inFlight + woken gate.parked = config.maxConcurrency
  handed : 0 < gate.value → (∃ waiter ∈ gate.parked, waiter.isPending = true) →
    0 < woken gate.parked
  raised : ∀ waiter ∈ gate.parked, waiter.future = .cancelled → waiter.isRaised = true

theorem sound_opened : Sound config (opened config) where
  inFlight := rfl
  waiting := rfl
  slots := rfl
  handed _ := fun ⟨_, never, _⟩ => (List.not_mem_nil never).elim
  raised _ never := (List.not_mem_nil never).elim

/-- **A caller arrives.** -/
theorem Sound.arrive (sound : Sound config gate) (caller : ℕ) :
    Sound config (arrive config caller gate) := by
  unfold Backpressure.arrive
  split
  · exact ⟨sound.inFlight, sound.waiting, sound.slots, sound.handed, sound.raised⟩
  split
  · rename_i isLocked
    have sameWoken : woken (gate.parked ++ [({ caller } : Waiter)]) = woken gate.parked := by
      unfold woken
      rw [List.countP_append, List.countP_singleton]
      rfl
    refine ⟨sound.inFlight, ?_, ?_, fun free _ => ?_, fun waiter isWaiter isCancelled => ?_⟩
    · show gate.waiting + 1 = (gate.parked ++ [_]).length
      rw [List.length_append, List.length_singleton, sound.waiting]
    · show gate.value + gate.inFlight + woken (gate.parked ++ [_]) = _
      rw [sameWoken, sound.slots]
    · -- The semaphore is locked for a waiter: it was woken, or another was.
      show 0 < woken (gate.parked ++ [_])
      rw [sameWoken]
      unfold locked at isLocked
      rw [decide_eq_false (Nat.pos_iff_ne_zero.1 free), Bool.false_or, List.any_eq_true] at isLocked
      obtain ⟨waiter, isWaiter, notCancelled⟩ := isLocked
      cases isFuture : waiter.future with
      | pending => exact sound.handed free ⟨waiter, isWaiter, decide_eq_true isFuture⟩
      | result => exact List.countP_pos_iff.2 ⟨waiter, isWaiter, decide_eq_true isFuture⟩
      | cancelled =>
        rw [isFuture] at notCancelled
        cases notCancelled
    · rcases List.mem_append.1 isWaiter with isWaiter | isLast
      · exact sound.raised waiter isWaiter isCancelled
      · rw [List.mem_singleton.1 isLast] at isCancelled
        cases isCancelled
  · rename_i unlocked
    unfold locked at unlocked
    rw [Bool.or_eq_true, not_or, decide_eq_true_eq, Bool.not_eq_true, List.any_eq_false] at unlocked
    have slots := sound.slots
    refine ⟨?_, sound.waiting, ?_, fun _ ⟨waiter, isWaiter, pending⟩ => ?_, sound.raised⟩
    · show gate.inFlight + 1 = gate.running.length + 1
      rw [sound.inFlight]
    · show gate.value - 1 + (gate.inFlight + 1) + woken gate.parked = _
      omega
    · refine (unlocked.2 waiter isWaiter (decide_eq_true fun isCancelled => ?_)).elim
      unfold Waiter.isPending at pending
      rw [isCancelled] at pending
      cases pending

theorem eq_around {place : ℕ} {waiter : Waiter} (isWaiter : parked[place]? = some waiter) :
    parked = parked.take place ++ waiter :: parked.drop (place + 1) := by
  obtain ⟨inside, rfl⟩ := List.getElem?_eq_some_iff.1 isWaiter
  rw [List.getElem_cons_drop, List.take_append_drop]

/-- A waiter more. -/
theorem woken_insert (front back : List Waiter) (waiter : Waiter) :
    woken (front ++ waiter :: back) = woken (front ++ back) + if waiter.isWoken then 1 else 0 := by
  unfold woken
  rw [List.countP_append, List.countP_append, List.countP_cons]
  omega

theorem isWoken_cancel (waiter : Waiter) (timeout : Bool) :
    (waiter.cancel timeout).isWoken = waiter.isWoken := by
  unfold Waiter.cancel Waiter.isWoken Waiter.isPending
  cases waiter.future with
  | pending | result | cancelled => rfl

theorem isPending_cancel (waiter : Waiter) (timeout : Bool) :
    (waiter.cancel timeout).isPending = false := by
  unfold Waiter.cancel Waiter.isPending
  cases waiter.future with
  | pending | result | cancelled => rfl

theorem isRaised_cancel (waiter : Waiter) (timeout : Bool) :
    (waiter.cancel timeout).isRaised = true := by
  unfold Waiter.cancel Waiter.isRaised
  cases timeout with
  | true | false => simp

/-- **A waiter is cancelled**, or its time is over. -/
theorem Sound.cancel (sound : Sound config gate) (place : ℕ) (timeout : Bool) :
    Sound config (step config gate (.cancel place timeout)) := by
  unfold step
  dsimp only
  rcases isWaiter : gate.parked[place]? with _ | waiter
  · exact sound
  have around := eq_around isWaiter
  have others : ∀ other ∈ gate.parked.take place ++ waiter.cancel timeout ::
      gate.parked.drop (place + 1), other = waiter.cancel timeout ∨ other ∈ gate.parked := by
    intro other isOther
    rcases List.mem_append.1 isOther with isOther | isOther
    · exact .inr (List.mem_of_mem_take isOther)
    · exact (List.mem_cons.1 isOther).imp_right List.mem_of_mem_drop
  have sameCount : woken (gate.parked.take place ++ waiter.cancel timeout ::
      gate.parked.drop (place + 1)) = woken gate.parked := by
    have count := woken_insert (gate.parked.take place) (gate.parked.drop (place + 1)) waiter
    rw [← around] at count
    rw [woken_insert, isWoken_cancel, count]
  refine ⟨sound.inFlight, ?_, ?_, fun free waits => ?_, fun other isOther isCancelled => ?_⟩
  · have lengths := congrArg List.length around
    rw [List.length_append, List.length_cons] at lengths
    show gate.waiting = (gate.parked.take place ++ _ :: gate.parked.drop (place + 1)).length
    rw [List.length_append, List.length_cons, sound.waiting, lengths]
  · show gate.value + gate.inFlight + woken (gate.parked.take place ++ _) = _
    rw [sameCount, sound.slots]
  · show 0 < woken (gate.parked.take place ++ _)
    rw [sameCount]
    obtain ⟨other, isOther, pending⟩ := waits
    refine sound.handed free ⟨other, (others other isOther).resolve_left fun same => ?_, pending⟩
    rw [same, isPending_cancel] at pending
    cases pending
  · rcases others other isOther with rfl | isOther
    · exact isRaised_cancel waiter timeout
    · exact sound.raised other isOther isCancelled

/-- **A waiter goes on.** -/
theorem Sound.resume (sound : Sound config gate) (place : ℕ) :
    Sound config (step config gate (.resume place)) := by
  unfold step
  dsimp only
  rcases isWaiter : gate.parked[place]? with _ | waiter
  · exact sound
  dsimp only
  split
  · exact sound
  rename_i done
  have around := eq_around isWaiter
  have count := woken_insert (gate.parked.take place) (gate.parked.drop (place + 1)) waiter
  have lengths := congrArg List.length around
  rw [← around] at count
  rw [List.length_append, List.length_cons] at lengths
  have inside : ∀ other ∈ gate.parked.take place ++ gate.parked.drop (place + 1),
      other ∈ gate.parked := fun other isOther =>
    (List.mem_append.1 isOther).elim List.mem_of_mem_take List.mem_of_mem_drop
  have length : (gate.parked.take place ++ gate.parked.drop (place + 1)).length + 1 =
      gate.waiting := by
    rw [List.length_append, sound.waiting, lengths]
    omega
  generalize gate.parked.take place ++ gate.parked.drop (place + 1) = others at *
  have slots := sound.slots
  have running := sound.inFlight
  have raisedBefore := sound.raised waiter (List.mem_of_getElem? isWaiter)
  unfold Backpressure.resume
  dsimp only
  generalize isFree : (if waiter.isRaised && waiter.isWoken then gate.value + 1
    else gate.value) = free at *
  obtain ⟨sameLength, sameSlots, ends, cancelled⟩ := wakeWhile_spec free others
  have handed : 0 < (wakeWhile free others).1 →
      (∃ other ∈ (wakeWhile free others).2, other.isPending = true) →
      0 < woken (wakeWhile free others).2 := by
    rintro isLeft ⟨other, isOther, pending⟩
    rcases ends with none | none
    · omega
    · rw [none other isOther] at pending
      cases pending
  have raised : ∀ other ∈ (wakeWhile free others).2, other.future = .cancelled →
      other.isRaised = true := fun other isOther isCancelled =>
    sound.raised other (inside other (cancelled other isOther isCancelled)) isCancelled
  have waiting : gate.waiting - 1 = (wakeWhile free others).2.length := by omega
  split
  · -- It gives its slot back, if it was woken.
    rename_i isRaised
    rw [isRaised, Bool.true_and] at isFree
    refine ⟨running, waiting, ?_, handed, raised⟩
    show (wakeWhile free others).1 + gate.inFlight + woken (wakeWhile free others).2 = _
    split at isFree
    · rename_i isWoken
      rw [if_pos isWoken] at count
      omega
    rename_i notWoken
    rw [if_neg notWoken] at count
    omega
  · -- It was woken, and takes the slot.
    rename_i notRaised
    have isWoken : waiter.isWoken = true := by
      unfold Waiter.isPending at done
      unfold Waiter.isWoken
      cases isFuture : waiter.future with
      | pending => exact (done (decide_eq_true isFuture)).elim
      | result => rfl
      | cancelled => exact (notRaised (raisedBefore isFuture)).elim
    rw [if_pos isWoken] at count
    rw [Bool.eq_false_iff.2 notRaised, Bool.false_and] at isFree
    refine ⟨?_, waiting, ?_, handed, raised⟩
    · show gate.inFlight + 1 = gate.running.length + 1
      rw [running]
    · show (wakeWhile free others).1 + (gate.inFlight + 1) + woken (wakeWhile free others).2 = _
      have sameValue : gate.value = free := isFree
      omega

/-- **A caller leaves its slot**: the next waiter gets it, or it is free. -/
theorem Sound.leave (sound : Sound config gate) (place : ℕ) :
    Sound config (step config gate (.leave place)) := by
  unfold step
  dsimp only
  rcases isRunning : gate.running[place]? with _ | caller
  · exact sound
  obtain ⟨inside, -⟩ := List.getElem?_eq_some_iff.1 isRunning
  have fewer : (gate.running.take place ++ gate.running.drop (place + 1)).length =
      gate.running.length - 1 := by
    rw [List.length_append, List.length_take, List.length_drop]
    omega
  have running := sound.inFlight
  have slots := sound.slots
  unfold release
  dsimp only
  split
  · rename_i parked wakes
    obtain ⟨lengths, more, cancelled⟩ := wakeUpNext_some wakes
    refine ⟨?_, ?_, ?_, fun _ _ => ?_, fun waiter isWaiter isCancelled => ?_⟩
    · show gate.inFlight - 1 = (gate.running.take place ++ _).length
      rw [fewer, running]
    · show gate.waiting = parked.length
      rw [lengths, sound.waiting]
    · show gate.value + (gate.inFlight - 1) + woken parked = _
      omega
    · show 0 < woken parked
      omega
    · exact sound.raised waiter (cancelled waiter isWaiter isCancelled) isCancelled
  · rename_i asleep
    refine ⟨?_, sound.waiting, ?_, fun _ ⟨waiter, isWaiter, pending⟩ => ?_, sound.raised⟩
    · show gate.inFlight - 1 = (gate.running.take place ++ _).length
      rw [fewer, running]
    · show gate.value + 1 + (gate.inFlight - 1) + woken gate.parked = _
      omega
    · rw [wakeUpNext_none asleep waiter isWaiter] at pending
      cases pending

/-- **What every event keeps.** -/
theorem Sound.step (sound : Sound config gate) (event : Event) :
    Sound config (step config gate event) := by
  cases event with
  | arrive caller => exact sound.arrive caller
  | cancel place timeout => exact sound.cancel place timeout
  | resume place => exact sound.resume place
  | leave place => exact sound.leave place

/-- **What every run keeps.** -/
theorem Reachable.sound (reachable : Reachable config gate) : Sound config gate := by
  induction reachable with
  | init => exact sound_opened
  | step event _ ih => exact ih.step event

/-- The events of an orderly run are events. -/
theorem OrderlyRun.reachable (run : OrderlyRun config gate) : Reachable config gate := by
  induction run with
  | init => exact .init
  | step _ _ ih => exact .step _ ih

/-! ## How many are admitted -/

/-- **Whoever arrives orderly** and is not shed finds a place. -/
theorem admitted_of_orderly (sound : Sound config gate) {caller : ℕ}
    (orderly : Orderly config gate (.arrive caller)) (notSaturated : ¬ Saturated config gate) :
    gate.inFlight + gate.waiting < config.maxConcurrency + config.maxQueued := by
  rcases orderly with allPending | fewer
  swap
  · exact fewer
  have slots := sound.slots
  have noneWoken : woken gate.parked = 0 := by
    refine List.countP_eq_zero.2 fun waiter isWaiter isWoken => ?_
    have pending := allPending waiter isWaiter
    unfold Waiter.isPending at pending
    unfold Waiter.isWoken at isWoken
    rw [of_decide_eq_true pending] at isWoken
    cases isWoken
  unfold Saturated at notSaturated
  by_cases short : gate.waiting < config.maxQueued
  · omega
  -- A slot is free, and nobody was woken: nobody is parked.
  have free : 0 < gate.value := by omega
  have noneParked : gate.parked = [] := List.eq_nil_iff_forall_not_mem.2 fun waiter isWaiter => by
    have handed := sound.handed free ⟨waiter, isWaiter, allPending waiter isWaiter⟩
    omega
  have waiting := sound.waiting
  rw [noneParked, List.length_nil] at waiting
  omega

/-- Going on, a waiter is counted once more at most as it was. -/
theorem admitted_resume (waiter : Waiter) (others : List Waiter) (waits : 0 < gate.waiting) :
    (resume waiter others gate).inFlight + (resume waiter others gate).waiting ≤
      gate.inFlight + gate.waiting := by
  unfold resume
  dsimp only
  split
  · show gate.inFlight + (gate.waiting - 1) ≤ _
    omega
  · show gate.inFlight + 1 + (gate.waiting - 1) ≤ _
    omega

theorem admitted_release (gate : Gate) :
    (release gate).inFlight + (release gate).waiting = gate.inFlight + gate.waiting := by
  unfold release
  split
  · rfl
  · rfl

/-- **No more are admitted** after an orderly event. -/
theorem admitted_step {event : Event} (sound : Sound config gate)
    (orderly : Orderly config gate event)
    (bounded : gate.inFlight + gate.waiting ≤ config.maxConcurrency + config.maxQueued) :
    (step config gate event).inFlight + (step config gate event).waiting ≤
      config.maxConcurrency + config.maxQueued := by
  cases event with
  | arrive caller =>
    show (arrive config caller gate).inFlight + (arrive config caller gate).waiting ≤ _
    unfold arrive
    split
    · exact bounded
    rename_i notSaturated
    have fewer := admitted_of_orderly sound orderly notSaturated
    split
    · show gate.inFlight + (gate.waiting + 1) ≤ _
      omega
    · show gate.inFlight + 1 + gate.waiting ≤ _
      omega
  | cancel place timeout =>
    unfold step
    dsimp only
    split
    · exact bounded
    · exact bounded
  | resume place =>
    unfold step
    dsimp only
    split
    · exact bounded
    rename_i waiter isWaiter
    split
    · exact bounded
    have waits : 0 < gate.waiting := by
      rw [sound.waiting]
      exact List.length_pos_of_mem (List.mem_of_getElem? isWaiter)
    exact Nat.le_trans (admitted_resume waiter _ waits) bounded
  | leave place =>
    unfold step
    dsimp only
    split
    · exact bounded
    rw [admitted_release]
    dsimp only
    omega

end

/-- **No more are admitted than the gate has place for**, in every state of a run in which a caller
that arrives while another has been woken or cancelled and is still to resume finds fewer admitted. In
every run, the counters count who runs and who is parked: a caller who was shed, cancelled or timed
out is in neither. -/
theorem admitted_bounded (gate : Gate) : (OrderlyRun config gate →
      gate.inFlight + gate.waiting ≤ config.maxConcurrency + config.maxQueued) ∧
    (Reachable config gate →
      gate.inFlight = gate.running.length ∧ gate.waiting = gate.parked.length) := by
  refine ⟨fun run => ?_, fun reachable => ⟨reachable.sound.inFlight, reachable.sound.waiting⟩⟩
  induction run with
  | init => exact Nat.zero_le _
  | step run orderly ih => exact admitted_step run.reachable.sound orderly ih

/-- One slot, and one place in the queue. -/
def oneAndOne : BackpressureConfig where
  maxConcurrency := 1
  maxQueued := 1
  maxConcurrency_pos := Nat.one_pos

/-- One caller runs, another is parked, and the first leaves. -/
def handing : Gate :=
  [.arrive 1, .arrive 2, .leave 0].foldl (step oneAndOne) (opened oneAndOne)

theorem handing_orderly : OrderlyRun oneAndOne handing := by
  have first : OrderlyRun oneAndOne (step oneAndOne (opened oneAndOne) (.arrive 1)) :=
    .step .init (.inr (by decide))
  have second := @OrderlyRun.step _ _ (.arrive 2) first (.inr (by decide))
  exact @OrderlyRun.step _ _ (.leave 0) second trivial

theorem handing_admitted : handing.inFlight + handing.waiting ≤ 2 ∧ handing.running.length = 0 := by
  have bounded := admitted_bounded oneAndOne handing
  refine ⟨bounded.1 handing_orderly, ?_⟩
  rw [← (bounded.2 handing_orderly.reachable).1]
  rfl

/-- **Callers that arrive before a woken waiter resumes** are all admitted. -/
theorem storm_admitted : ¬ ∀ (config : BackpressureConfig) (gate : Gate), Reachable config gate →
    gate.inFlight + gate.waiting ≤ config.maxConcurrency + config.maxQueued := by
  intro always
  have third := Reachable.step (.arrive 3) handing_orderly.reachable
  have bound := always oneAndOne _ (.step (.arrive 4) third)
  revert bound
  decide

end Fdai.Shared.Resilience.Backpressure
