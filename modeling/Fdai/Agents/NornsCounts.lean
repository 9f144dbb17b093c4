import Mathlib.Data.List.Dedup
import Fdai.Agents.NornsIssueDedup

/-!
# An issue is counted exactly once

While an issue collects occurrences, its count is the number of distinct operations that were
applied to it, and its candidate becomes pending at most once.

An operation whose claim is still open may be applied again, and is recognised by the window of the
record. The window keeps the last 128 operations, whatever the threshold, so an operation that was
applied long ago is recognised only if the threshold is no larger than that.

* `Remembered` — the condition on a write: the operation is recognised if it was applied before.
* `issue_counted_once` — every run whose writes meet the condition has it.
-/

namespace Fdai.Core.NornsIssueDedup

open Fdai.Concurrency Fdai.Providers Program

variable {D : Type}

/-- The writes of one fingerprint, oldest first. -/
abbrev Writes (D : Type) := List (FingerprintState D × NornsAudit D)

/-- The operations applied by the writes, oldest first. -/
def applied (log : Writes D) : List D :=
  log.filterMap fun (_, entry) =>
    match entry with
    | .applied operationDigest _ => some operationDigest
    | .delivered _ => none

/-- The writes that leave the candidate pending. -/
def pendingWrites (log : Writes D) : Writes D :=
  log.filter fun write => write.1.candidateState = .pending

@[simp] theorem applied_concat_applied (log : Writes D) (value : FingerprintState D)
    (operationDigest : D) (revision : ℕ) :
    applied (log ++ [(value, .applied operationDigest revision)]) =
      applied log ++ [operationDigest] := by
  simp [applied]

@[simp] theorem applied_concat_delivered (log : Writes D) (value : FingerprintState D)
    (revision : ℕ) : applied (log ++ [(value, .delivered revision)]) = applied log := by
  simp [applied]

theorem pendingWrites_concat (log : Writes D) (value : FingerprintState D)
    (entry : NornsAudit D) : pendingWrites (log ++ [(value, entry)]) =
      pendingWrites log ++ if value.candidateState = .pending then [(value, entry)] else [] := by
  unfold pendingWrites
  rw [List.filter_append]
  congr 1
  split <;> simp_all

/-- The last few of a list to which one was added are the last few of the last few. -/
theorem rtake_rtake_concat {α : Type} (operations : List α) (operation : α) (size : ℕ) :
    (operations.rtake size ++ [operation]).rtake size = (operations ++ [operation]).rtake size := by
  rcases size with _ | size
  · simp
  rw [List.rtake_concat_succ, List.rtake_concat_succ, List.rtake_eq_reverse_take_reverse,
    List.rtake_eq_reverse_take_reverse, List.rtake_eq_reverse_take_reverse, List.reverse_reverse,
    List.take_take]
  simp

/-- A window as large as the list keeps it. -/
theorem rtake_of_length_le {α : Type} {operations : List α} {size : ℕ} (fits : operations.length ≤ size) :
    operations.rtake size = operations := by
  unfold List.rtake
  rw [Nat.sub_eq_zero_of_le fits, List.drop_zero]

variable [DecidableEq D]

/-- **What holds of the writes of a fingerprint.** -/
structure CountsOnce (log : Writes D) : Prop where
  exact_count : ∀ record, lastWritten none log = some record →
    record.candidateState = .collecting → record.occurrenceCount = (applied log).dedup.length
  pending_once : (pendingWrites log).length ≤ 1

/-- The operations that the last record remembers. -/
def remembered (log : Writes D) : List D :=
  ((lastWritten none log).map FingerprintState.operationDigests).getD []

/-- An operation that was applied before is remembered, unless the threshold lets the window keep
all that are counted. -/
def Remembered (_ : String) (before : Writes D) (value : FingerprintState D) : NornsAudit D → Prop
  | .applied operationDigest _ => value.promotionThreshold ≤ maxFingerprintOperationDigests ∨
      (operationDigest ∈ applied before → operationDigest ∈ remembered before)
  | .delivered _ => True

instance (fingerprint : String) (before : Writes D) (value : FingerprintState D)
    (entry : NornsAudit D) : Decidable (Remembered fingerprint before value entry) := by
  unfold Remembered
  split <;> infer_instance

/-- A write of one of the methods over the record of a fingerprint. -/
inductive Written (fingerprint : String) (current : Option (FingerprintState D))
    (value : FingerprintState D) (entry : NornsAudit D) : Prop where
  | applied {threshold : Threshold} {operationDigest : D} {result : Except NornsError Application}
      (decided : applyDecision threshold.value operationDigest fingerprint current =
        .write value entry result)
  | delivered {result : Except NornsError Unit}
      (decided : deliverDecision fingerprint current = .write value entry result)

theorem checked_of_application {stored : FingerprintState D} {fingerprint : String}
    {threshold : ℕ} {operationCounted : Bool} {application : Application}
    (read : applicationFromState stored fingerprint threshold operationCounted = .ok application) :
    stored.promotionThreshold = threshold ∧
      (stored.candidateState = .collecting → stored.occurrenceCount < threshold) ∧
      application.candidateState = stored.candidateState := by
  unfold applicationFromState at read
  split at read
  next => cases read
  next passed =>
    simp only [Bool.or_eq_true, Bool.and_eq_true, decide_eq_true_eq, not_or, not_and, not_not,
      not_le] at passed
    obtain rfl := Except.ok.inj read
    obtain ⟨⟨⟨⟨⟨⟨⟨⟨-, -⟩, threshold_eq⟩, -⟩, -⟩, -⟩, -⟩, below⟩, -⟩ := passed
    exact ⟨threshold_eq, below, rfl⟩

/-- **What a write does**: it is the first record, or counts one operation more that the record
does not remember, or marks the pending candidate delivered. -/
inductive Step : Option (FingerprintState D) → FingerprintState D → NornsAudit D → Prop where
  | first (threshold : Threshold) (operationDigest : D) (fingerprint : String) :
      Step none (firstState threshold.value operationDigest fingerprint) (.applied operationDigest 1)
  | counted {stored : FingerprintState D} {operationDigest : D}
      (collecting : stored.candidateState = .collecting)
      (below : stored.occurrenceCount < stored.promotionThreshold)
      (unknown : operationDigest ∉ stored.operationDigests) :
      Step (some stored) (nextState stored.promotionThreshold operationDigest stored)
        (.applied operationDigest (stored.revision + 1))
  | delivered {stored : FingerprintState D} (pending : stored.candidateState = .pending) :
      Step (some stored)
        { stored with revision := stored.revision + 1, candidateState := .delivered }
        (.delivered (stored.revision + 1))

theorem Written.step {fingerprint : String} {current : Option (FingerprintState D)}
    {value : FingerprintState D} {entry : NornsAudit D}
    (written : Written fingerprint current value entry) : Step current value entry := by
  cases written with
  | @applied threshold operationDigest result decided =>
    rcases current with _ | stored
    · obtain ⟨rfl, rfl, -⟩ := Decision.write.inj decided
      exact .first threshold operationDigest fingerprint
    obtain ⟨application, read, decided⟩ :=
      bind_eq_ok.1 (Decision.ofExcept_eq_write.1 decided)
    obtain ⟨threshold_eq, below, state_eq⟩ := checked_of_application read
    split at decided
    next => cases decided
    next unknown =>
      split at decided
      next => cases decided
      next collecting =>
        rw [not_not, state_eq] at collecting
        obtain ⟨rfl, rfl, -⟩ := Decision.write.inj (Except.ok.inj decided)
        rw [← threshold_eq] at below ⊢
        exact .counted collecting (below collecting) unknown
  | @delivered result decided =>
    rcases current with _ | stored
    · cases decided
    obtain ⟨application, read, decided⟩ :=
      bind_eq_ok.1 (Decision.ofExcept_eq_write.1 decided)
    obtain ⟨-, -, state_eq⟩ := checked_of_application read
    split at decided
    next => cases decided
    next => cases decided
    next pending =>
      obtain ⟨rfl, rfl, -⟩ := Decision.write.inj (Except.ok.inj decided)
      exact .delivered (state_eq.symm.trans pending)

theorem written_later : (parts D).Later Written := by
  intro fingerprint current value entry written
  change current.revision < value.revision
  cases written.step with
  | counted | delivered => exact Nat.lt_succ_self _

/-! ## The invariant of the writes -/

structure Counted (log : Writes D) : Prop where
  nodup : (applied log).Nodup
  record : ∀ r, lastWritten none log = some r → r.occurrenceCount = (applied log).length ∧
    r.operationDigests = (applied log).rtake (windowSize r.promotionThreshold)
  collecting : ∀ r, lastWritten none log = some r → r.candidateState = .collecting →
    pendingWrites log = []
  pending_once : (pendingWrites log).length ≤ 1
  start : lastWritten none log = none → log = []

omit [DecidableEq D] in
theorem counted_nil : Counted ([] : Writes D) where
  nodup := List.nodup_nil
  record r last := by cases last
  collecting r last := by cases last
  pending_once := Nat.zero_le 1
  start _ := rfl

omit [DecidableEq D] in
theorem Counted.fresh {log : Writes D} (counted : Counted log) {stored : FingerprintState D}
    {operationDigest : D} (last : lastWritten none log = some stored)
    (below : stored.occurrenceCount < stored.promotionThreshold)
    (unknown : operationDigest ∉ stored.operationDigests)
    (condition : stored.promotionThreshold ≤ maxFingerprintOperationDigests ∨
      (operationDigest ∈ applied log → operationDigest ∈ remembered log)) :
    operationDigest ∉ applied log := by
  obtain ⟨count_eq, window_eq⟩ := counted.record stored last
  rcases condition with small | known
  · have all : (applied log).rtake (windowSize stored.promotionThreshold) = applied log := by
      apply rtake_of_length_le
      unfold windowSize
      rw [min_eq_left small]
      omega
    rw [window_eq, all] at unknown
    exact unknown
  · intro before
    have stillKnown := known before
    simp only [remembered, last, Option.map_some, Option.getD_some] at stillKnown
    exact unknown stillKnown

omit [DecidableEq D] in
/-- **Every write keeps the invariant.** -/
theorem Counted.step {log : Writes D} {fingerprint : String} {value : FingerprintState D}
    {entry : NornsAudit D} (counted : Counted log) (step : Step (lastWritten none log) value entry)
    (condition : Remembered fingerprint log value entry) :
    Counted (log ++ [(value, entry)]) := by
  generalize isLast : lastWritten none log = last at step
  cases step with
  | first threshold operationDigest fingerprint =>
    obtain rfl := counted.start isLast
    have atLeast := threshold.pos
    refine ⟨by simp [applied], ?_, ?_, ?_, by simp⟩
    · intro r same
      obtain rfl : firstState threshold.value operationDigest fingerprint = r := by
        simpa using same
      refine ⟨by simp [applied, firstState], ?_⟩
      have size : 1 ≤ windowSize threshold.value := by
        unfold windowSize maxFingerprintOperationDigests
        omega
      change [operationDigest] = [operationDigest].rtake (windowSize threshold.value)
      rw [rtake_of_length_le size]
    · intro r same collecting
      obtain rfl : firstState threshold.value operationDigest fingerprint = r := by
        simpa using same
      simp [pendingWrites, collecting]
    · rw [pendingWrites_concat]
      split <;> simp [pendingWrites]
  | @counted stored operationDigest collecting below unknown =>
    obtain ⟨count_eq, window_eq⟩ := counted.record stored isLast
    have nonePending := counted.collecting stored isLast collecting
    have fresh := counted.fresh isLast below unknown condition
    refine ⟨?_, ?_, ?_, ?_, by simp⟩
    · rw [applied_concat_applied, List.nodup_append]
      refine ⟨counted.nodup, List.nodup_singleton _, fun d before d' new => ?_⟩
      rintro rfl
      rw [List.mem_singleton.1 new] at before
      exact fresh before
    · intro r same
      obtain rfl : nextState stored.promotionThreshold operationDigest stored = r := by
        simpa using same
      constructor
      · simp [nextState, count_eq]
      · simp only [nextState, applied_concat_applied, window_eq]
        exact rtake_rtake_concat _ _ _
    · intro r same collecting'
      obtain rfl : nextState stored.promotionThreshold operationDigest stored = r := by
        simpa using same
      rw [pendingWrites_concat, nonePending, collecting']
      rfl
    · rw [pendingWrites_concat, nonePending]
      split <;> simp
  | @delivered stored pending =>
    obtain ⟨count_eq, window_eq⟩ := counted.record stored isLast
    refine ⟨by simpa using counted.nodup, ?_, ?_, ?_, by simp⟩
    · intro r same
      obtain rfl : ({ stored with
          revision := stored.revision + 1, candidateState := .delivered } :
          FingerprintState D) = r := by simpa using same
      exact ⟨by simpa using count_eq, by simpa using window_eq⟩
    · intro r same collecting
      obtain rfl : ({ stored with
          revision := stored.revision + 1, candidateState := .delivered } :
          FingerprintState D) = r := by simpa using same
      cases collecting
    · rw [pendingWrites_concat]
      simpa using counted.pending_once

theorem Counted.countsOnce {log : Writes D} (counted : Counted log) : CountsOnce log where
  exact_count record last _ := by
    rw [(counted.record record last).1, List.dedup_eq_self.2 counted.nodup]
  pending_once := counted.pending_once

/-! ## Every run -/

/-- The start of every record of a fingerprint. -/
abbrev noRecords : String → Option (FingerprintState D) := fun _ => none

variable {threshold : Threshold} {operationDigest : D} {fingerprint : String}

/-- A program that writes only what `Written` allows. -/
abbrev Keeps {α : Type} (p : Norns D α) : Prop :=
  Registers.Follows (written_later (D := D)) Remembered noRecords p

private theorem keeps_ask (request : NornsRequest D) : Keeps (ask request) :=
  Registers.follows_other

theorem keeps_lift {α : Type} (result : Except NornsError α) :
    Keeps (lift result : Norns D α) := Registers.follows_done

theorem keeps_applyClaimed : Keeps (applyClaimed threshold operationDigest fingerprint) := by
  unfold applyClaimed
  apply Registers.follows_bind
  · exact Registers.follows_update _ fun _ _ _ _ decided => .applied decided
  · intro application
    apply Registers.follows_bind
    · exact keeps_ask _
    · intro _
      exact Registers.follows_done

theorem keeps_observe : Keeps (observe threshold operationDigest fingerprint) := by
  unfold observe
  apply Registers.follows_bind
  · exact keeps_ask _
  intro created
  split
  next => exact keeps_applyClaimed
  next =>
    unfold applyExisting
    apply Registers.follows_bind
    · unfold claimApplied
      apply Registers.follows_bind
      · exact keeps_ask _
      intro stored
      rcases stored with _ | claim
      · exact Registers.follows_done
      apply Registers.follows_bind
      · exact keeps_lift _
      intro _
      apply Registers.follows_bind
      · exact keeps_lift _
      intro _
      exact Registers.follows_done
    · intro isApplied
      split
      next => exact Registers.follows_read fun _ => keeps_lift _
      next => exact keeps_applyClaimed

theorem keeps_recoverRows (recoveryLimit : ℕ) (rows : List (OperationState D))
    (recovered : ℕ) : Keeps (recoverRows threshold recoveryLimit rows recovered) := by
  induction rows generalizing recovered with
  | nil => exact Registers.follows_done
  | cons row rest ih =>
    unfold recoverRows
    split
    next => exact Registers.follows_done
    next =>
      apply Registers.follows_bind
      · exact keeps_lift _
      intro identity
      apply Registers.follows_bind
      · exact keeps_applyClaimed
      intro _
      exact ih _

theorem keeps_recoverPages (recoveryLimit pages recovered : ℕ) :
    Keeps (D := D) (recoverPages threshold recoveryLimit pages recovered) := by
  induction pages generalizing recovered with
  | zero => exact Registers.follows_done
  | succ pages ih =>
    unfold recoverPages
    split
    next => exact Registers.follows_done
    next =>
      apply Registers.follows_bind
      · exact keeps_ask _
      intro rows
      split
      next => exact Registers.follows_done
      next =>
        apply Registers.follows_bind
        · exact keeps_recoverRows _ _ _
        intro recovered
        exact ih _

private theorem keeps_program (call : NornsCall D) : Keeps call.program := by
  cases call with
  | observe threshold operationDigest fingerprint =>
    unfold NornsCall.program
    dsimp only
    split
    next => exact Registers.follows_done
    next => exact Registers.follows_bind keeps_observe fun _ => Registers.follows_done
  | recover threshold recoveryLimit =>
    exact Registers.follows_bind (keeps_recoverPages _ _ _) fun _ => Registers.follows_done
  | deliver fingerprint =>
    exact Registers.follows_update _ fun _ _ _ _ decided => .delivered decided

/-- The store before anything was learned. -/
abbrev untouched (D : Type) [DecidableEq D] :
    RegisterWorld String (FingerprintState D) (NornsAudit D) (Operations D) :=
  { rest := StateStore.empty }

/-- **An issue is counted exactly once.** In every run in which each operation that is counted is
recognised if it was applied before, or the threshold is at most the size of the window: while an
issue collects, its count is the number of distinct operations applied to it, and its candidate
becomes pending at most once. -/
theorem issue_counted_once (moves : List (Move (NornsCall D) Unit))
    (observes : (nornsIssueDedup D).Observes ((parts D).Observed Remembered)
      (Machine.idle (untouched D)) moves) (fingerprint : String) :
    CountsOnce (logOf fingerprint
      ((nornsIssueDedup D).run (Machine.idle (untouched D)) moves).world.log) := by
  have followed := Registers.run_path written_later noRecords
    (fun _ call => keeps_program call) StateStore.empty observes
  have counted := (followed.2 fingerprint).induction Counted counted_nil
    fun before value entry _ counted write => counted.step write.1.step write.2
  exact counted.countsOnce

/-- Two operations, the first of which is delivered twice, at a threshold of 2. -/
theorem issue_counted_once_twice : CountsOnce (logOf "disk"
      ((nornsIssueDedup ℕ).run (Machine.idle (untouched ℕ))
        [.start (.observe ⟨2, by decide⟩ 0 "disk"), .advance 0 (), .advance 0 (), .advance 0 (),
          .start (.observe ⟨2, by decide⟩ 0 "disk"), .advance 1 (), .advance 1 (), .advance 1 (),
          .start (.observe ⟨2, by decide⟩ 1 "disk"), .advance 2 (), .advance 2 (),
          .advance 2 ()]).world.log) :=
  issue_counted_once _ (by decide +kernel) "disk"

/-! ## A large threshold -/

/-- The record after so many first deliveries, at a threshold of 200. -/
private def stateAfter (count : ℕ) : FingerprintState ℕ :=
  ⟨count + 1, "disk", 200, (List.range (count + 1)).rtake 128, count + 1, .collecting⟩

/-- The store after so many first deliveries, each of which crashed before it closed its claim. -/
private def storeAfter : ℕ → RegisterWorld String (FingerprintState ℕ) (NornsAudit ℕ) (Operations ℕ)
  | 0 => untouched ℕ
  | count + 1 =>
    { (storeAfter count).write "disk" (stateAfter count) (.applied count (count + 1)) with
      rest := (storeAfter count).rest.write count ⟨1, .pending, count, "disk"⟩ }

/-- A first delivery that crashes once its operation is counted. -/
private def delivery (operation replica : ℕ) : List (Move (NornsCall ℕ) Unit) :=
  [.start (.observe ⟨200, by decide⟩ operation "disk"), .advance replica (), .advance replica (),
    .advance replica (), .crash replica]

/-- So many deliveries, one after the other. -/
private def deliveries : ℕ → List (Move (NornsCall ℕ) Unit)
  | 0 => []
  | count + 1 => deliveries count ++ delivery count count

theorem storeAfter_unclaimed {count operation : ℕ} (later : count ≤ operation) :
    (storeAfter count).rest.read operation = none := by
  induction count with
  | zero => rfl
  | succ count ih =>
    have apart : operation ≠ count := by omega
    simp only [storeAfter]
    rw [StateStore.read_write_ne _ apart]
    exact ih (by omega)

theorem storeAfter_current (count : ℕ) :
    (storeAfter (count + 1)).current "disk" = some (stateAfter count) := by
  simp [storeAfter, RegisterWorld.current, RegisterWorld.write]

theorem windowSize_200 : windowSize 200 = 128 := by
  unfold windowSize maxFingerprintOperationDigests
  rfl

/-- The record of so many deliveries passes its reader. -/
theorem stateAfter_reads (count : ℕ) (below : count + 1 < 200) :
    applicationFromState (stateAfter count) "disk" 200 false =
      .ok ⟨"disk", 200, count + 1, .collecting, false⟩ := by
  have length_eq : ((List.range (count + 1)).rtake 128).length = min (count + 1) 128 := by
    unfold List.rtake
    rw [List.length_drop, List.length_range]
    omega
  have nonempty : (List.range (count + 1)).rtake 128 ≠ [] := by
    intro empty
    rw [empty, List.length_nil] at length_eq
    omega
  have nodup : ((List.range (count + 1)).rtake 128).Nodup :=
    List.nodup_range.sublist (List.drop_sublist _ _)
  unfold applicationFromState
  rw [if_neg]
  · rfl
  · simp [stateAfter, windowSize_200, length_eq, nonempty, nodup]
    omega

theorem unknown_of_range (count size : ℕ) : count ∉ (List.range count).rtake size := by
  intro isLast
  unfold List.rtake at isLast
  have before := List.mem_range.1 (List.mem_of_mem_drop isLast)
  omega

theorem stateAfter_next (count : ℕ) (below : count + 2 < 200) :
    applyDecision 200 (count + 1) "disk" (some (stateAfter count)) =
      .write (stateAfter (count + 1)) (.applied (count + 1) (count + 2))
        (applicationFromState (stateAfter (count + 1)) "disk" 200 true) := by
  have unknown : count + 1 ∉ (stateAfter count).operationDigests := by
    unfold stateAfter
    dsimp only
    exact unknown_of_range (count + 1) 128
  have next : nextState 200 (count + 1) (stateAfter count) = stateAfter (count + 1) := by
    have notYet : ¬ 200 ≤ count + 1 + 1 := by omega
    simp only [nextState, stateAfter, windowSize_200, candidateStateOf, notYet, ↓reduceIte,
      rtake_rtake_concat, ← List.range_succ]
  have read := stateAfter_reads count (by omega)
  have revision : (stateAfter count).revision = count + 1 := rfl
  generalize stateAfter (count + 1) = later at next
  generalize stateAfter count = before at unknown next read revision
  simp [applyDecision, read, unknown, next, revision, Decision.ofExcept, bind, Except.bind, pure,
    Except.pure]

/-- What is left of a delivery whose claim is open. -/
private def counting (operation : ℕ) : Norns ℕ Unit := do
  let _ ← applyClaimed ⟨200, by decide⟩ operation "disk"
  pure ()

/-- What is left of it once the operation is counted. -/
private def closing (operation : ℕ) (application : Application) : Norns ℕ Unit :=
  (ask (.writeOperation ⟨2, .applied, operation, "disk"⟩) >>= fun _ => pure application) >>=
    fun _ => pure ()

/-- **A delivery counts its operation**, and crashes. -/
theorem run_counting {w : RegisterWorld String (FingerprintState ℕ) (NornsAudit ℕ)
    (Operations ℕ)} (pool : List (Option (Norns ℕ Unit))) {operation : ℕ}
    {value : FingerprintState ℕ} {entry : NornsAudit ℕ} {result : Except NornsError Application}
    (decided : applyDecision 200 operation "disk" (w.current "disk") = .write value entry result) :
    (nornsIssueDedup ℕ).run ⟨w, pool ++ [some (counting operation)]⟩
      [.advance pool.length (), .advance pool.length (), .crash pool.length] =
      ⟨w.write "disk" value entry, pool ++ [none]⟩ := by
  have same : counting operation = update FingerprintState.revision "disk"
      (applyDecision 200 operation "disk")
      (.runtime "issue learning fingerprint CAS retry limit exceeded") 16 >>= closing operation :=
    Program.bind_assoc _ _ _
  have updated : (nornsIssueDedup ℕ).run ⟨w, pool ++ [some (update FingerprintState.revision "disk"
        (applyDecision 200 operation "disk")
        (.runtime "issue learning fingerprint CAS retry limit exceeded") 16 >>=
          closing operation)]⟩ [.advance pool.length (), .advance pool.length ()] =
      ⟨w.write "disk" value entry, pool ++ [some (Program.done result >>= closing operation)]⟩ :=
    Registers.run_update decided rfl
  rw [same]
  change (nornsIssueDedup ℕ).run _ ([.advance pool.length (), .advance pool.length ()] ++
    [.crash pool.length]) = _
  rw [Machine.run_append, updated]
  exact (nornsIssueDedup ℕ).move_crash_last _ _ _

/-- One first delivery more. -/
theorem run_delivery (count : ℕ) (below : count + 1 < 200) :
    (nornsIssueDedup ℕ).run ⟨storeAfter count, List.replicate count none⟩ (delivery count count) =
      ⟨storeAfter (count + 1), List.replicate (count + 1) none⟩ := by
  have decided : ∃ result, applyDecision 200 count "disk" ((storeAfter count).current "disk") =
      .write (stateAfter count) (.applied count (count + 1)) result := by
    rcases count with _ | count
    · exact ⟨_, rfl⟩
    rw [storeAfter_current]
    exact ⟨_, stateAfter_next count below⟩
  obtain ⟨result, decided⟩ := decided
  have claims : (nornsIssueDedup ℕ).perform () (storeAfter count)
      (.other (.claimOperation ⟨1, .pending, count, "disk"⟩)) =
      (true, { storeAfter count with
        rest := (storeAfter count).rest.write count ⟨1, .pending, count, "disk"⟩ }) := by
    have unclaimed := storeAfter_unclaimed (Nat.le_refl count)
    simp [nornsIssueDedup, Registers.machine, Registers.perform, parts, performRequest,
      StateStore.writeIfAbsent, unclaimed]
  have length_eq : (List.replicate count (none : Option (Norns ℕ Unit))).length = count :=
    List.length_replicate
  have claimed := (nornsIssueDedup ℕ).move_advance_last (List.replicate count none)
    (.other (.claimOperation ⟨1, .pending, count, "disk"⟩))
    (fun created => (if created then applyClaimed ⟨200, by decide⟩ count "disk"
      else applyExisting ⟨200, by decide⟩ count "disk") >>= fun _ => pure ()) claims
  have counted : (nornsIssueDedup ℕ).run ⟨{ storeAfter count with
      rest := (storeAfter count).rest.write count ⟨1, .pending, count, "disk"⟩ },
      List.replicate count none ++ [some (counting count)]⟩ _ = _ :=
    run_counting _ decided
  rw [length_eq] at claimed counted
  rw [List.replicate_succ']
  exact (congrArg (fun sys => (nornsIssueDedup ℕ).run sys
    [.advance count (), .advance count (), .crash count]) claimed).trans counted

theorem run_deliveries (count : ℕ) (below : count < 200) :
    (nornsIssueDedup ℕ).run (Machine.idle (untouched ℕ)) (deliveries count) =
      ⟨storeAfter count, List.replicate count none⟩ := by
  induction count with
  | zero => rfl
  | succ count ih =>
    rw [deliveries, Machine.run_append, ih (by omega)]
    exact run_delivery count below

/-- The second delivery of the first operation. -/
private def redelivery : List (Move (NornsCall ℕ) Unit) :=
  [.start (.observe ⟨200, by decide⟩ 0 "disk"), .advance 129 (), .advance 129 (), .advance 129 (),
    .advance 129 (), .crash 129]

/-- The claim of the first operation is still open. -/
theorem storeAfter_open (count : ℕ) :
    (storeAfter (count + 1)).rest.read 0 = some ⟨1, .pending, 0, "disk"⟩ := by
  induction count with
  | zero =>
    rw [storeAfter]
    dsimp only
    rw [StateStore.read_write_self]
  | succ count ih =>
    have apart : 0 ≠ count + 1 := by omega
    rw [storeAfter]
    dsimp only
    rw [StateStore.read_write_ne _ apart]
    exact ih

/-- The window of the record has lost the first operation. -/
theorem stateAfter_forgets : applyDecision 200 (0 : ℕ) "disk" (some (stateAfter 128)) =
      .write (nextState 200 0 (stateAfter 128)) (.applied 0 130)
        (applicationFromState (nextState 200 0 (stateAfter 128)) "disk" 200 true) := by
  have unknown : 0 ∉ (stateAfter 128).operationDigests := by
    unfold stateAfter
    dsimp only
    decide +kernel
  have read := stateAfter_reads 128 (by omega)
  have revision : (stateAfter 128).revision = 129 := rfl
  generalize stateAfter 128 = before at unknown read revision
  simp [applyDecision, read, unknown, revision, Decision.ofExcept, bind, Except.bind, pure,
    Except.pure]

theorem run_redelivery :
    (nornsIssueDedup ℕ).run ⟨storeAfter 129, List.replicate 129 none⟩ redelivery =
      ⟨(storeAfter 129).write "disk" (nextState 200 0 (stateAfter 128)) (.applied 0 130),
        List.replicate 129 none ++ [none]⟩ := by
  have opened := storeAfter_open 128
  have decided : applyDecision 200 (0 : ℕ) "disk" ((storeAfter 129).current "disk") = _ :=
    (congrArg (applyDecision 200 (0 : ℕ) "disk") (storeAfter_current 128)).trans stateAfter_forgets
  have length_eq : (List.replicate 129 (none : Option (Norns ℕ Unit))).length = 129 :=
    List.length_replicate
  generalize storeAfter 129 = w at opened decided
  generalize List.replicate 129 (none : Option (Norns ℕ Unit)) = pool at length_eq
  have refused : (nornsIssueDedup ℕ).perform () w
      (.other (.claimOperation ⟨1, .pending, 0, "disk"⟩)) = (false, w) := by
    simp [nornsIssueDedup, Registers.machine, Registers.perform, parts, performRequest,
      StateStore.writeIfAbsent, opened]
  have reads : (nornsIssueDedup ℕ).perform () w (.other (.readOperation 0)) =
      (some ⟨1, .pending, 0, "disk"⟩, w) := by
    simp [nornsIssueDedup, Registers.machine, Registers.perform, parts, performRequest, opened]
  have claimed : (nornsIssueDedup ℕ).run ⟨w, pool⟩ [.start (.observe ⟨200, by decide⟩ 0 "disk"),
      .advance pool.length ()] =
      ⟨w, pool ++ [some (applyExisting ⟨200, by decide⟩ (0 : ℕ) "disk" >>= fun _ => pure ())]⟩ :=
    (nornsIssueDedup ℕ).move_advance_last pool _ _ refused
  have looked : (nornsIssueDedup ℕ).move
      ⟨w, pool ++ [some (applyExisting ⟨200, by decide⟩ (0 : ℕ) "disk" >>= fun _ => pure ())]⟩
      (.advance pool.length ()) = ⟨w, pool ++ [some (counting 0)]⟩ :=
    (nornsIssueDedup ℕ).move_advance_last pool _ _ reads
  have counted := run_counting pool decided
  rw [length_eq] at claimed looked counted
  change (nornsIssueDedup ℕ).run ⟨w, pool⟩ ([.start (.observe ⟨200, by decide⟩ 0 "disk"),
    .advance 129 ()] ++ ([.advance 129 ()] ++ [.advance 129 (), .advance 129 (), .crash 129])) = _
  rw [Machine.run_append, claimed, Machine.run_append]
  exact (congrArg (fun sys => (nornsIssueDedup ℕ).run sys
    [.advance 129 (), .advance 129 (), .crash 129]) looked).trans counted

/-- The first operations in order. -/
theorem applied_storeAfter (count : ℕ) :
    applied (logOf "disk" (storeAfter count).log) = List.range count := by
  induction count with
  | zero => rfl
  | succ count ih =>
    have grows : logOf "disk" (storeAfter (count + 1)).log = logOf "disk" (storeAfter count).log ++
          [(stateAfter count, .applied count (count + 1))] := by
      simp [storeAfter, logOf, RegisterWorld.write]
    rw [grows, applied_concat_applied, ih, List.range_succ]

/-- **An operation is counted twice.** At a threshold of 200 an operation is counted, and the
replica crashes before it closes the claim. After 128 more operations the window has lost it, and
its redelivery counts it again: the count is 130, of 129 operations. -/
theorem issue_counted_twice : ¬ ∀ (moves : List (Move (NornsCall ℕ) Unit)) (fingerprint : String),
    CountsOnce (logOf fingerprint
      ((nornsIssueDedup ℕ).run (Machine.idle (untouched ℕ)) moves).world.log) := by
  intro once
  have counts := once (deliveries 129 ++ redelivery) "disk"
  rw [Machine.run_append, run_deliveries 129 (by omega), run_redelivery] at counts
  have grows : logOf "disk" ((storeAfter 129).write "disk" (nextState 200 0 (stateAfter 128))
      (.applied 0 130)).log = logOf "disk" (storeAfter 129).log ++
        [(nextState 200 0 (stateAfter 128), .applied 0 130)] := by
    simp [logOf, RegisterWorld.write]
  rw [grows] at counts
  have exact_count := counts.exact_count (nextState 200 0 (stateAfter 128)) (by simp) rfl
  rw [applied_concat_applied, applied_storeAfter] at exact_count
  have distinct : (List.range 129 ++ [0]).dedup.length = 129 := by decide +kernel
  rw [distinct] at exact_count
  have count_eq : (nextState 200 0 (stateAfter 128)).occurrenceCount = 130 := rfl
  omega

end Fdai.Core.NornsIssueDedup
