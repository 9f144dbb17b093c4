import Mathlib.Data.List.Count
import Mathlib.Tactic.Linarith

/-!
# The circuit breaker

A breaker that calls go through: a run of failures trips it, and after a cooldown a few probes decide
whether it closes again.

* `CircuitBreaker` — its fields, and `allow`, `onSuccess`, `onFailure`, `releaseProbe`.
* `Event`, `step` — calls that are admitted, and that end in any order.
* `Reachable` — what events under a clock that never goes back lead to.
* `FreshRun` — a run in which no call of an earlier state ends well, or gives back the place of a probe,
  while the breaker is half open.
-/

namespace Fdai.Shared.Resilience

inductive CircuitState where
  | closed | «open» | halfOpen
  deriving DecidableEq

structure CircuitBreakerConfig where
  failureThreshold : ℕ := 5
  resetTimeout : ℚ := 30
  halfOpenMaxCalls : ℕ := 1
  failureThreshold_pos : 1 ≤ failureThreshold := by decide
  resetTimeout_pos : 0 < resetTimeout := by decide
  halfOpenMaxCalls_pos : 1 ≤ halfOpenMaxCalls := by decide

/-- `CircuitBreaker`. The last two fields are not in the source: how often the breaker became half
open, and when it was last tripped. -/
structure CircuitBreaker where
  state : CircuitState := .closed
  consecutiveFailures : ℕ := 0
  openedAt : ℚ := 0
  halfOpenCalls : ℕ := 0
  halfOpenSince : ℚ := 0
  episode : ℕ := 0
  latestTrip : Option ℚ := none

/-- What the clock says, each time that a method reads it: whether the cooldown is over, since when
the breaker is half open, whether a probe is stuck, when it is tripped for that, and since when a probe
is out. -/
structure Readings where
  cooled : ℚ
  halfOpened : ℚ
  stuck : ℚ
  retripped : ℚ
  probed : ℚ

/-- The clock never goes back. -/
structure Readings.Ordered (readings : Readings) : Prop where
  halfOpened : readings.cooled ≤ readings.halfOpened
  stuck : readings.halfOpened ≤ readings.stuck
  retripped : readings.stuck ≤ readings.retripped
  probed : readings.retripped ≤ readings.probed

variable (config : CircuitBreakerConfig)

namespace CircuitBreaker

def trip (now : ℚ) (breaker : CircuitBreaker) : CircuitBreaker :=
  { breaker with
    state := .open
    openedAt := now
    halfOpenCalls := 0
    latestTrip := some now }

def maybeHalfOpen (readings : Readings) (breaker : CircuitBreaker) : CircuitBreaker :=
  if breaker.state = .open ∧ config.resetTimeout ≤ readings.cooled - breaker.openedAt then
    { breaker with
      state := .halfOpen
      halfOpenCalls := 0
      halfOpenSince := readings.halfOpened
      episode := breaker.episode + 1 }
  else breaker

def maybeReopenStuckProbe (readings : Readings) (breaker : CircuitBreaker) : CircuitBreaker :=
  if breaker.state = .halfOpen ∧ 0 < breaker.halfOpenCalls ∧
      config.resetTimeout ≤ readings.stuck - breaker.halfOpenSince then
    breaker.trip readings.retripped
  else breaker

/-- The state is brought up to the time, as `state` and `allow` begin. -/
def refresh (readings : Readings) (breaker : CircuitBreaker) : CircuitBreaker :=
  (breaker.maybeHalfOpen config readings).maybeReopenStuckProbe config readings

/-- What is left of `allow` then: the breaker, and whether the call may proceed. -/
def tryPass (readings : Readings) (breaker : CircuitBreaker) : CircuitBreaker × Bool :=
  match breaker.state with
  | .open => (breaker, false)
  | .halfOpen =>
    if config.halfOpenMaxCalls ≤ breaker.halfOpenCalls then (breaker, false)
    else
      ({ breaker with
          halfOpenSince :=
            if breaker.halfOpenCalls = 0 then readings.probed else breaker.halfOpenSince
          halfOpenCalls := breaker.halfOpenCalls + 1 }, true)
  | .closed => (breaker, true)

def allow (readings : Readings) (breaker : CircuitBreaker) : CircuitBreaker × Bool :=
  (breaker.refresh config readings).tryPass config readings

def releaseProbe (breaker : CircuitBreaker) : CircuitBreaker :=
  if breaker.state = .halfOpen ∧ 0 < breaker.halfOpenCalls then
    { breaker with halfOpenCalls := breaker.halfOpenCalls - 1 }
  else breaker

def onSuccess (breaker : CircuitBreaker) : CircuitBreaker :=
  { breaker with
    consecutiveFailures := 0
    state := if breaker.state = .halfOpen then .closed else breaker.state }

def onFailure (now : ℚ) (breaker : CircuitBreaker) : CircuitBreaker :=
  let breaker := { breaker with consecutiveFailures := breaker.consecutiveFailures + 1 }
  if breaker.state = .halfOpen then breaker.trip now
  else if config.failureThreshold ≤ breaker.consecutiveFailures then breaker.trip now
  else breaker

end CircuitBreaker

/-- A call that is under way: the episode that it is a probe of, if the breaker was half open when it
was admitted. -/
abbrev Call := Option ℕ

/-- How a call ends. -/
inductive Outcome where
  | success | failure | cancelled

/-- What happens: `call` asks the breaker, a call that it admitted ends, or `state` is read. -/
inductive Event where
  | call (readings : Readings)
  | finish (call : Call) (outcome : Outcome) (now : ℚ)
  | observe (readings : Readings)

/-- A breaker, the calls that it admitted and that are under way, and what the clock said last. -/
structure System where
  breaker : CircuitBreaker := {}
  running : List Call := []
  clock : ℚ := 0

/-- The handlers of `call`. -/
def CircuitBreaker.settle (outcome : Outcome) (now : ℚ) (breaker : CircuitBreaker) : CircuitBreaker :=
  match outcome with
  | .success => breaker.onSuccess
  | .failure => breaker.onFailure config now
  | .cancelled => breaker.releaseProbe

/-- An event is possible: the clock does not go back, and what ends is under way. -/
def Possible (system : System) : Event → Prop
  | .call readings | .observe readings => system.clock ≤ readings.cooled ∧ readings.Ordered
  | .finish call _ now => system.clock ≤ now ∧ call ∈ system.running

def Admits (system : System) : Event → Prop
  | .call readings => (system.breaker.allow config readings).2 = true
  | _ => False

def step (system : System) : Event → System
  | .call readings =>
    let (breaker, admitted) := system.breaker.allow config readings
    let call : Call := if breaker.state = .halfOpen then some breaker.episode else none
    { breaker
      running := if admitted then call :: system.running else system.running
      clock := readings.probed }
  | .finish call outcome now => {
      breaker := system.breaker.settle config outcome now
      running := system.running.erase call
      clock := now }
  | .observe readings => {
      breaker := system.breaker.refresh config readings
      running := system.running
      clock := readings.probed }

/-- What possible events lead to. -/
inductive Reachable : System → Prop where
  | init : Reachable {}
  | step {system : System} {event : Event} : Reachable system → Possible system event →
      Reachable (step config system event)

/-- While the breaker is half open, no call that was admitted before succeeds; and none is cancelled
while a probe is out. -/
def Fresh (system : System) : Event → Prop
  | .finish call outcome _ => system.breaker.state = .halfOpen →
      outcome = .success ∨ outcome = .cancelled ∧ 0 < system.breaker.halfOpenCalls →
      call = some system.breaker.episode
  | _ => True

inductive FreshRun : System → Prop where
  | init : FreshRun {}
  | step {system : System} {event : Event} : FreshRun system → Possible system event →
      Fresh system event → FreshRun (step config system event)

/-! ## What holds throughout -/

/-- The events of a fresh run are possible. -/
theorem FreshRun.reachable {system : System} (run : FreshRun config system) :
    Reachable config system := by
  induction run with
  | init => exact .init
  | step _ possible _ ih => exact .step ih possible

/-- **The invariant.** No episode has more probes under way than the breaker allows; while it is half
open, it counts those of this episode; and unless it is open, the cooldown of the latest trip is
over. -/
structure Sound (system : System) : Prop where
  bounded : ∀ episode, system.running.count (some episode) ≤ config.halfOpenMaxCalls
  known : ∀ episode, some episode ∈ system.running → episode ≤ system.breaker.episode
  counted : system.breaker.state = .halfOpen →
    system.breaker.halfOpenCalls = system.running.count (some system.breaker.episode)
  opened : system.breaker.state = .open → system.breaker.latestTrip = some system.breaker.openedAt
  cooled : system.breaker.state ≠ .open → ∀ trip, system.breaker.latestTrip = some trip →
    trip + config.resetTimeout ≤ system.clock

section

variable {config} {breaker : CircuitBreaker} {running : List Call} {clock now : ℚ}
variable {readings : Readings} {system : System}

/-- Time goes by. -/
theorem Sound.later (sound : Sound config { breaker, running, clock }) (later : clock ≤ now) :
    Sound config { breaker, running, clock := now } where
  bounded := sound.bounded
  known := sound.known
  counted := sound.counted
  opened := sound.opened
  cooled notOpen trip isTrip := (sound.cooled notOpen trip isTrip).trans later

/-- **A trip** ends the episode, and starts the cooldown. -/
theorem sound_trip (bounded : ∀ episode, running.count (some episode) ≤ config.halfOpenMaxCalls)
    (known : ∀ episode, some episode ∈ running → episode ≤ breaker.episode) :
    Sound config { breaker := breaker.trip now, running, clock := now } where
  bounded := bounded
  known := known
  counted isHalfOpen := by cases isHalfOpen
  opened _ := rfl
  cooled notOpen := (notOpen rfl).elim

/-- **The cooldown is over**: a new episode begins, without a probe. -/
theorem Sound.maybeHalfOpen (sound : Sound config { breaker, running, clock })
    (later : clock ≤ readings.cooled) (ordered : readings.Ordered) :
    Sound config {
      breaker := breaker.maybeHalfOpen config readings
      running
      clock := readings.halfOpened } := by
  unfold CircuitBreaker.maybeHalfOpen
  split
  · rename_i elapsed
    have noProbe : running.count (some (breaker.episode + 1)) = 0 :=
      List.count_eq_zero.2 fun inside => Nat.not_succ_le_self _ (sound.known _ inside)
    exact {
      bounded := sound.bounded
      known := fun episode inside => (sound.known episode inside).trans (Nat.le_succ _)
      counted := fun _ => noProbe.symm
      opened := fun isOpen => by cases isOpen
      cooled := fun _ trip isTrip => by
        obtain rfl : breaker.openedAt = trip :=
          Option.some.inj ((sound.opened elapsed.1).symm.trans isTrip)
        have := ordered.halfOpened
        dsimp only
        linarith [elapsed.2] }
  · exact sound.later (later.trans ordered.halfOpened)

/-- A probe that is stuck trips the breaker again. -/
theorem Sound.maybeReopenStuckProbe
    (sound : Sound config { breaker, running, clock := readings.halfOpened })
    (ordered : readings.Ordered) :
    Sound config {
      breaker := breaker.maybeReopenStuckProbe config readings
      running
      clock := readings.retripped } := by
  unfold CircuitBreaker.maybeReopenStuckProbe
  split
  · exact sound_trip sound.bounded sound.known
  · exact sound.later (ordered.stuck.trans ordered.retripped)

/-- The state is brought up to the time. -/
theorem Sound.refresh (sound : Sound config system) (later : system.clock ≤ readings.cooled)
    (ordered : readings.Ordered) :
    Sound config {
      breaker := system.breaker.refresh config readings
      running := system.running
      clock := readings.retripped } :=
  (Sound.maybeHalfOpen sound later ordered).maybeReopenStuckProbe ordered

/-- **A call is admitted**: as a probe, only if there is place for one. -/
theorem Sound.call (sound : Sound config system) (later : system.clock ≤ readings.cooled)
    (ordered : readings.Ordered) : Sound config (step config system (.call readings)) := by
  have refreshed := (sound.refresh later ordered).later ordered.probed
  unfold step CircuitBreaker.allow CircuitBreaker.tryPass
  dsimp only
  generalize system.breaker.refresh config readings = breaker at refreshed
  cases isState : breaker.state with
  | «open» => exact refreshed
  | closed =>
    dsimp only
    rw [isState]
    exact {
      bounded := fun episode => by
        rw [if_pos rfl, if_neg (by decide), List.count_cons_of_ne (by simp)]
        exact refreshed.bounded episode
      known := fun episode inside => by
        rw [if_pos rfl, if_neg (by decide)] at inside
        rcases List.mem_cons.1 inside with never | inside
        · cases never
        · exact refreshed.known episode inside
      counted := fun isHalfOpen => by
        rw [isState] at isHalfOpen
        cases isHalfOpen
      opened := refreshed.opened
      cooled := refreshed.cooled }
  | halfOpen =>
    dsimp only
    split
    · exact refreshed
    rename_i place
    have counted := refreshed.counted isState
    dsimp only at counted ⊢
    rw [if_pos rfl, if_pos rfl]
    exact {
      bounded := fun episode => by
        dsimp only
        by_cases isEpisode : episode = breaker.episode
        · rw [isEpisode, List.count_cons_self, ← counted]
          exact Nat.not_le.1 place
        · rw [List.count_cons_of_ne (by simpa using Ne.symm isEpisode)]
          exact refreshed.bounded episode
      known := fun episode inside => by
        rcases List.mem_cons.1 inside with same | inside
        · exact (Option.some.inj same).le
        · exact refreshed.known episode inside
      counted := fun _ => by
        dsimp only
        rw [List.count_cons_self, counted]
      opened := fun isOpen => by cases isOpen
      cooled := fun _ => refreshed.cooled (by
        dsimp only
        rw [isState]
        decide) }

/-- **A call ends**: an episode is decided, or a place is given back, by a probe of its own. -/
theorem Sound.finish (sound : Sound config system) {call : Call} {outcome : Outcome}
    (later : system.clock ≤ now)
    (fresh : Fresh system (.finish call outcome now)) :
    Sound config (step config system (.finish call outcome now)) := by
  have bounded : ∀ episode, (system.running.erase call).count (some episode) ≤
      config.halfOpenMaxCalls := fun episode =>
    (List.erase_sublist.count_le _).trans (sound.bounded episode)
  have known : ∀ episode, some episode ∈ system.running.erase call →
      episode ≤ system.breaker.episode := fun episode inside =>
    sound.known episode (List.mem_of_mem_erase inside)
  have cooled : system.breaker.state ≠ .open → ∀ trip, system.breaker.latestTrip = some trip →
      trip + config.resetTimeout ≤ now := fun notOpen trip isTrip =>
    (sound.cooled notOpen trip isTrip).trans later
  cases outcome with
  | success =>
    refine ⟨bounded, known, fun isHalfOpen => ?_, fun isOpen => ?_, fun notOpen => cooled ?_⟩
    · -- A breaker that is half open closes.
      change (if system.breaker.state = .halfOpen then CircuitState.closed
        else system.breaker.state) = .halfOpen at isHalfOpen
      split at isHalfOpen
      · cases isHalfOpen
      · contradiction
    · change (if system.breaker.state = .halfOpen then CircuitState.closed
        else system.breaker.state) = .open at isOpen
      split at isOpen
      · cases isOpen
      · exact sound.opened isOpen
    · intro isOpen
      refine notOpen ?_
      show (if system.breaker.state = .halfOpen then CircuitState.closed
        else system.breaker.state) = .open
      rw [if_neg (by rw [isOpen]; decide)]
      exact isOpen
  | failure =>
    show Sound config {
      breaker := system.breaker.onFailure config now
      running := system.running.erase call
      clock := now }
    unfold CircuitBreaker.onFailure
    dsimp only
    split
    · exact sound_trip bounded known
    rename_i notHalfOpen
    split
    · exact sound_trip bounded known
    · exact ⟨bounded, known, fun isHalfOpen => (notHalfOpen isHalfOpen).elim, sound.opened, cooled⟩
  | cancelled =>
    show Sound config {
      breaker := system.breaker.releaseProbe
      running := system.running.erase call
      clock := now }
    unfold CircuitBreaker.releaseProbe
    split
    · rename_i released
      have isProbe := fresh released.1 (.inr ⟨rfl, released.2⟩)
      refine ⟨bounded, known, fun _ => ?_, sound.opened, cooled⟩
      show system.breaker.halfOpenCalls - 1 =
        (system.running.erase call).count (some system.breaker.episode)
      rw [isProbe, List.count_erase_self, sound.counted released.1]
    · rename_i kept
      refine ⟨bounded, known, fun isHalfOpen => ?_, sound.opened, cooled⟩
      have none : system.breaker.halfOpenCalls = 0 := Nat.eq_zero_of_not_pos fun some =>
        kept ⟨isHalfOpen, some⟩
      have counted := sound.counted isHalfOpen
      have fewer : (system.running.erase call).count (some system.breaker.episode) ≤
          system.running.count (some system.breaker.episode) := List.erase_sublist.count_le _
      dsimp only
      omega

/-- **What a fresh event keeps.** -/
theorem Sound.step {event : Event} (sound : Sound config system) (possible : Possible system event)
    (fresh : Fresh system event) : Sound config (step config system event) := by
  cases event with
  | call readings => exact sound.call possible.1 possible.2
  | finish call outcome now => exact sound.finish possible.1 fresh
  | observe readings =>
    exact (sound.refresh possible.1 possible.2).later possible.2.probed

/-- **What a fresh run keeps.** -/
theorem FreshRun.sound (run : FreshRun config system) : Sound config system := by
  induction run with
  | init =>
    exact {
      bounded := fun _ => Nat.zero_le _
      known := fun _ never => (List.not_mem_nil never).elim
      counted := fun never => by cases never
      opened := fun never => by cases never
      cooled := fun _ _ never => by cases never }
  | step _ possible fresh ih => exact ih.step possible fresh

/-! ## When it closes -/

/-- Neither the time nor a call that is admitted closes the breaker. -/
theorem state_of_refresh (notClosed : breaker.state ≠ .closed) :
    (breaker.refresh config readings).state ≠ .closed := by
  unfold CircuitBreaker.refresh CircuitBreaker.maybeReopenStuckProbe
  split
  · show CircuitState.open ≠ .closed
    decide
  unfold CircuitBreaker.maybeHalfOpen
  split
  · show CircuitState.halfOpen ≠ .closed
    decide
  · exact notClosed

theorem state_of_tryPass : (breaker.tryPass config readings).1.state = breaker.state := by
  unfold CircuitBreaker.tryPass
  split
  · rfl
  · split
    · rfl
    · rfl
  · rfl

/-- **The breaker closes** only by a success while it is half open. -/
theorem closes {event : Event} (notClosed : system.breaker.state ≠ .closed)
    (closed : (step config system event).breaker.state = .closed) :
    ∃ call now, event = .finish call .success now ∧ system.breaker.state = .halfOpen := by
  cases event with
  | call readings =>
    have before : (system.breaker.refresh config readings).state = .closed := by
      rw [← state_of_tryPass]
      exact closed
    exact (state_of_refresh notClosed before).elim
  | observe readings => exact (state_of_refresh notClosed closed).elim
  | finish call outcome now =>
    cases outcome with
    | success =>
      refine ⟨call, now, rfl, ?_⟩
      change (if system.breaker.state = .halfOpen then CircuitState.closed
        else system.breaker.state) = .closed at closed
      split at closed
      · assumption
      · exact (notClosed closed).elim
    | failure =>
      change (system.breaker.onFailure config now).state = .closed at closed
      unfold CircuitBreaker.onFailure at closed
      dsimp only at closed
      split at closed
      · cases closed
      split at closed
      · cases closed
      · exact (notClosed closed).elim
    | cancelled =>
      change system.breaker.releaseProbe.state = .closed at closed
      unfold CircuitBreaker.releaseProbe at closed
      split at closed
      · exact (notClosed closed).elim
      · exact (notClosed closed).elim

/-- A call is admitted only by a breaker that is not open. -/
theorem state_of_admits (admits : (breaker.allow config readings).2 = true) :
    (breaker.allow config readings).1.state ≠ .open := by
  unfold CircuitBreaker.allow at admits ⊢
  rw [state_of_tryPass]
  intro isOpen
  unfold CircuitBreaker.tryPass at admits
  rw [isOpen] at admits
  cases admits

end

/-- **What a breaker promises** after a run, of the events that may come next: no episode has more
probes under way than it allows; no call is admitted within the cooldown of the latest trip; and only
the success of a probe of this episode closes it. -/
structure Promises (next : System → Event → Prop) (system : System) : Prop where
  probes : ∀ episode, system.running.count (some episode) ≤ config.halfOpenMaxCalls
  cooldown : ∀ event, Possible system event → next system event → Admits config system event →
    ∀ trip, (step config system event).breaker.latestTrip = some trip →
      trip + config.resetTimeout ≤ (step config system event).clock
  closes : ∀ event, Possible system event → next system event → system.breaker.state ≠ .closed →
    (step config system event).breaker.state = .closed →
    system.breaker.state = .halfOpen ∧
      ∃ now, event = .finish (some system.breaker.episode) .success now

/-- **The breaker keeps its promises** through every run in which, while it is half open, no call that
was admitted before this episode succeeds, or is cancelled while a probe is out. -/
theorem promises_of_freshRun {system : System} (run : FreshRun config system) :
    Promises config Fresh system where
  probes := run.sound.bounded
  cooldown event possible fresh admits trip isTrip := by
    have sound := run.sound.step possible fresh
    refine sound.cooled ?_ trip isTrip
    cases event with
    | call readings => exact state_of_admits admits
    | finish call outcome now | observe readings => exact admits.elim
  closes event possible fresh notClosed closed := by
    obtain ⟨call, now, rfl, isHalfOpen⟩ := closes notClosed closed
    refine ⟨isHalfOpen, now, ?_⟩
    rw [fresh isHalfOpen (.inl rfl)]

/-- The clock does not move while a method runs. -/
def Readings.at (now : ℚ) : Readings := ⟨now, now, now, now, now⟩

theorem Readings.at_ordered (now : ℚ) : (Readings.at now).Ordered := ⟨le_rfl, le_rfl, le_rfl, le_rfl⟩

/-- A breaker that the first failure trips, for a second. -/
def oneSecond : CircuitBreakerConfig where
  failureThreshold := 1
  failureThreshold_pos := Nat.one_pos
  resetTimeout := 1
  resetTimeout_pos := rfl
  halfOpenMaxCalls_pos := Nat.one_pos

/-- Two calls are admitted, one fails, and a second later a probe is admitted. -/
def probed : System :=
  [.call (.at 0), .call (.at 0), .finish none .failure 0, .call (.at 1)].foldl (step oneSecond) {}

theorem probed_eq : probed = step oneSecond (step oneSecond (step oneSecond
    (step oneSecond {} (.call (.at 0))) (.call (.at 0))) (.finish none .failure 0)) (.call (.at 1)) :=
  rfl

/-- The run is possible, and every event of it is fresh. -/
theorem probed_freshRun : FreshRun oneSecond probed := by
  rw [probed_eq]
  have first : FreshRun oneSecond (step oneSecond {} (.call (.at 0))) :=
    .step .init ⟨le_rfl, Readings.at_ordered 0⟩ trivial
  have second := @FreshRun.step _ _ (.call (.at 0)) first ⟨le_rfl, Readings.at_ordered 0⟩ trivial
  have failed := @FreshRun.step _ _ (.finish none .failure 0) second
    ⟨le_rfl, by decide +kernel⟩ fun never => absurd never (by decide +kernel)
  exact @FreshRun.step _ _ (.call (.at 1)) failed ⟨by decide +kernel, Readings.at_ordered 1⟩ trivial

theorem promises_of_probed : probed.running.count (some 1) ≤ 1 :=
  (promises_of_freshRun oneSecond probed_freshRun).probes 1

/-- **A call of before the trip** closes the breaker when it succeeds, and makes place for another probe
when it is cancelled. -/
theorem stale_call_closes :
    (¬ ∀ (config : CircuitBreakerConfig) (system : System), Reachable config system →
      Promises config (fun _ _ => True) system) ∧
    ¬ ∀ (config : CircuitBreakerConfig) (system : System), Reachable config system →
      ∀ episode, system.running.count (some episode) ≤ config.halfOpenMaxCalls := by
  constructor
  · intro always
    obtain ⟨-, now, same⟩ := (always oneSecond probed probed_freshRun.reachable).closes
      (.finish none .success 1) ⟨by decide +kernel, by decide +kernel⟩ trivial (by decide +kernel)
      (by decide +kernel)
    cases same
  · intro always
    have cancelled : Reachable oneSecond (step oneSecond probed (.finish none .cancelled 1)) :=
      .step probed_freshRun.reachable ⟨by decide +kernel, by decide +kernel⟩
    have twice : Reachable oneSecond (step oneSecond
        (step oneSecond probed (.finish none .cancelled 1)) (.call (.at 1))) :=
      .step cancelled ⟨by decide +kernel, Readings.at_ordered 1⟩
    have bound := always oneSecond _ twice 1
    revert bound
    decide +kernel

end Fdai.Shared.Resilience
