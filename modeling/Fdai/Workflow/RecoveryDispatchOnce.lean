import Fdai.Workflow.RecoveryDispatch

/-!
# When a recovery is invoked at most once

Any number of callers dispatch one attempt at one hold revision. The claim record hands
the in-flight lease from one to the next and keeps the last outcome.

* `Cleared` — every invocation on the log was disproved after it.
* `AtMostOnce` — an invocation is made on a cleared log only, and never by a caller that
  took a lease over.
* `Orderly` — what keeps the callers to that: an in-doubt outcome is not overlooked, and a
  caller that lost its lease neither invokes nor denies.
* `dispatch_at_most_once` — every run of orderly calls is `AtMostOnce`;
  `dispatch_repeated_in_doubt` is a run that is not.
-/

namespace Fdai.Core

open Fdai.Providers Fdai.Concurrency Program

/-! ## Logs -/

/-- The entry that records that an invocation did not happen. -/
def denied (result : RecoveryDispatchResult) : LogEvent :=
  .dispatchRecorded .notInvoked (some result.resultDigest)

/-- Since an invocation was answered with `answer`, the provider said that it did not
happen, and this was recorded. -/
def Disproved (answer : Option RecoveryDispatchResult) (since : List LogEvent) : Prop :=
  ∃ result, result.outcome = .notInvoked ∧ (answer = some result ∧ denied result ∈ since ∨
      [.recoveryReconciled (some result), denied result].Sublist since)

def Cleared : List LogEvent → Prop
  | [] => True
  | .recoveryInvoked _ answer :: rest => Disproved answer rest ∧ Cleared rest
  | _ :: rest => Cleared rest

/-- An invocation of the provider. -/
def IsInvocation : LogEvent → Prop
  | .recoveryInvoked _ _ => True
  | _ => False

theorem Disproved.mono {answer : Option RecoveryDispatchResult} {since since' : List LogEvent}
    (more : since.Sublist since') : Disproved answer since → Disproved answer since' := by
  rintro ⟨result, outcome, ⟨own, mem⟩ | reconciled⟩
  · exact ⟨result, outcome, .inl ⟨own, more.subset mem⟩⟩
  · exact ⟨result, outcome, .inr (reconciled.trans more)⟩

variable {e : LogEvent}

theorem cleared_cons {rest : List LogEvent} (other : ¬ IsInvocation e) :
    Cleared (e :: rest) ↔ Cleared rest := by
  cases e with
  | recoveryInvoked => exact absurd trivial other
  | _ => exact Iff.rfl

theorem Cleared.of_cons {rest : List LogEvent} (cleared : Cleared (e :: rest)) : Cleared rest := by
  cases e with
  | recoveryInvoked => exact cleared.2
  | _ => exact cleared

/-- Whatever else happens, a cleared log stays cleared. -/
theorem Cleared.insert {before after : List LogEvent} (other : ¬ IsInvocation e)
    (cleared : Cleared (before ++ after)) : Cleared (before ++ e :: after) := by
  induction before with
  | nil => exact (cleared_cons other).2 cleared
  | cons first rest ih =>
    have later := ih cleared.of_cons
    cases first with
    | recoveryInvoked _ _ =>
      exact ⟨cleared.1.mono (List.Sublist.append_left (List.sublist_cons_self e after) rest), later⟩
    | _ => exact later

variable {log : List LogEvent}

theorem Cleared.append (other : ¬ IsInvocation e) (cleared : Cleared log) : Cleared (log ++ [e]) :=
  Cleared.insert other (by simpa using cleared)

variable {result : RecoveryDispatchResult}

/-- An invocation whose own answer denies it is disproved once that is recorded. -/
theorem Cleared.invoked {owner : Token}
    (outcome : result.outcome = .notInvoked) (cleared : Cleared log) :
    Cleared (log ++ [.recoveryInvoked owner (some result)] ++ [denied result]) := by
  induction log with
  | nil => exact ⟨⟨result, outcome, .inl ⟨rfl, List.mem_singleton_self _⟩⟩, trivial⟩
  | cons first rest ih =>
    have later := ih cleared.of_cons
    cases first with
    | recoveryInvoked _ _ =>
      exact ⟨cleared.1.mono ((List.sublist_append_left _ _).trans
        (List.sublist_append_left _ _)), later⟩
    | _ => exact later

/-- A reconciliation that denies clears the log once that is recorded. -/
theorem Cleared.reconciled (outcome : result.outcome = .notInvoked) (log : List LogEvent) :
    Cleared (log ++ [.recoveryReconciled (some result)] ++ [denied result]) := by
  induction log with
  | nil => trivial
  | cons first rest ih =>
    cases first with
    | recoveryInvoked _ _ =>
      refine ⟨⟨result, outcome, .inr ?_⟩, ih⟩
      change List.Sublist _ (rest ++ [_] ++ [_])
      rw [List.append_assoc]
      exact List.sublist_append_right _ _
    | _ => exact ih

/-- **At most one invocation.** Each is made on a cleared log, and by a caller that did
not take its lease over. -/
structure AtMostOnce (log : List LogEvent) : Prop where
  once : ∀ pre owner answer post, log = pre ++ .recoveryInvoked owner answer :: post → Cleared pre
  takeover : ∀ owner answer, .recoveryInvoked owner answer ∈ log →
    ∀ replica, .leaseAcquired owner replica true ∉ log

instance : DecidablePred IsInvocation
  | .recoveryInvoked _ _ => isTrue trivial
  | .claimed _ _ | .published _ | .verified _ _ _ | .leaseAcquired _ _ _
  | .recoveryReconciled _ | .dispatchRecorded _ _ | .holdReleased _ => isFalse id

/-- No invocation was denied. -/
def NoDenial (log : List LogEvent) : Prop :=
  ∀ e ∈ log, ∀ result, e ≠ denied result

theorem Cleared.filter_eq_nil (cleared : Cleared log)
    (noDenial : NoDenial log) : log.filter (IsInvocation ·) = [] := by
  induction log with
  | nil => rfl
  | cons e rest ih =>
    have later := ih cleared.of_cons fun e' mem => noDenial e' (List.mem_cons_of_mem _ mem)
    by_cases invocation : IsInvocation e
    · cases e with
      | recoveryInvoked _ _ =>
        obtain ⟨result, -, ⟨-, mem⟩ | reconciled⟩ := cleared.1
        · exact absurd rfl (noDenial _ (List.mem_cons_of_mem _ mem) result)
        · have mem := reconciled.subset (List.mem_cons_of_mem _ (List.mem_singleton_self _))
          exact absurd rfl (noDenial _ (List.mem_cons_of_mem _ mem) result)
      | _ => exact invocation.elim
    · rw [List.filter_cons_of_neg (by simpa using invocation), later]

theorem AtMostOnce.length_le_one (atMostOnce : AtMostOnce log)
    (noDenial : NoDenial log) : (log.filter (IsInvocation ·)).length ≤ 1 := by
  induction log using List.reverseRecOn with
  | nil => exact Nat.zero_le 1
  | append_singleton log e ih =>
    have before : NoDenial log := fun e' mem => noDenial e' (List.mem_append_left _ mem)
    rw [List.filter_append, List.length_append]
    cases e with
    | recoveryInvoked owner answer =>
      have cleared : Cleared log := atMostOnce.once log owner answer [] rfl
      rw [cleared.filter_eq_nil before]
      exact Nat.le_refl 1
    | _ =>
      refine ih ⟨?_, ?_⟩ before
      · intro pre owner answer post split
        exact atMostOnce.once pre owner answer _ (by rw [split, List.append_assoc]; rfl)
      · intro owner answer mem replica acquired
        exact atMostOnce.takeover owner answer (List.mem_append_left _ mem) replica
          (List.mem_append_left _ acquired)

/-- An invocation on a log that grew by one entry is an old one or the new entry. -/
private theorem once_append
    (once : ∀ pre owner answer post, log = pre ++ .recoveryInvoked owner answer :: post →
      Cleared pre)
    (new : IsInvocation e → Cleared log) :
    ∀ pre owner answer post, log ++ [e] = pre ++ .recoveryInvoked owner answer :: post →
      Cleared pre := by
  intro pre owner answer post split
  rcases List.eq_nil_or_concat post with rfl | ⟨post', last, rfl⟩
  · obtain ⟨rfl, same⟩ := List.append_inj' split rfl
    obtain rfl := List.singleton_inj.1 same
    exact new trivial
  rw [List.concat_eq_append, ← List.cons_append, ← List.append_assoc] at split
  obtain ⟨old, -⟩ := List.append_inj' split rfl
  exact once pre owner answer post' old

section

variable (attempt : RecoveryAttemptIdentity) (claim : RecoveryPreDispatchClaim)

def claimRecord (w : World) : Option ClaimRecord :=
  w.records.read (claimKey attempt claim.holdRevision)

/-- The record names this caller as the owner of the in-flight lease. -/
def Owns (w : World) (owner : Token) : Prop :=
  ∃ stored ∈ claimRecord attempt claim w, stored.inFlightOwner = some owner

instance (w : World) (owner : Token) : Decidable (Owns attempt claim w owner) :=
  inferInstanceAs (Decidable (∃ stored ∈ claimRecord attempt claim w, _ = _))

/-- What an orderly caller meets when it makes a call.

* It acquires the lease of a record that is in doubt only where the record it read first
  had shown that.
* It invokes the provider only while it still owns the lease.
* It records that the provider was not invoked only while it still owns the lease, and
  only where the provider said so. -/
def Orderly (w : World) : WorkflowOp → Prop
  | .compareAndSetState _ _ expectedRevision (.acquiring _ _ first) =>
    ∀ stored ∈ claimRecord attempt claim w,
      stored.revision = expectedRevision → stored.dispatchState ≠ .inFlight →
        stored.dispatchOutcome = .inDoubt →
          (dispatchFromRecord first claim).any (·.outcome = .inDoubt)
  | .compareAndSetState (.claim _ _) value expectedRevision (.recording owner reread) =>
    ClaimRecord.dispatchOutcome value = .notInvoked → ∀ stored ∈ claimRecord attempt claim w,
        stored.revision = expectedRevision → reread = false ∧ stored.inFlightOwner = some owner
  | .dispatchRecovery _ _ owner => Owns attempt claim w owner
  | _ => True

instance (w : World) (op : WorkflowOp) : Decidable (Orderly attempt claim w op) := by
  cases op with
  | compareAndSetState key value expectedRevision hand =>
    cases hand with
    | recording => cases key <;> dsimp only [Orderly] <;> infer_instance
    | _ => dsimp only [Orderly]; infer_instance
  | _ => dsimp only [Orderly]; infer_instance

/-! ## What a caller asks for -/

/-- A record that was read is still the stored one, or an earlier one. -/
def Seen (w : World) (record : ClaimRecord) : Prop :=
  ∃ stored, claimRecord attempt claim w = some stored ∧ record.revision ≤ stored.revision ∧
    (stored.revision = record.revision → stored = record)

/-- As long as the caller owns the lease, the log with `more` added is cleared. -/
def ClearedWith (more : List LogEvent) (w : World) (owner : Token) : Prop :=
  Owns attempt claim w owner → Cleared (w.log ++ more)

/-- Everything a caller asks for, with what it knows when it does. -/
inductive OncePermit (me : ℕ) (w : World) : WorkflowOp → Prop where
  | quiet {op : WorkflowOp} (isQuiet : Quiet op) (own : ∀ replica, op = .newToken replica →
      replica = me) : OncePermit me w op
  | acquire {record : ClaimRecord} {owner : Token} {expiresAt : Instant}
      {first : Option ClaimRecord} (issued : w.issued[owner]? = some me)
      (unused : ∀ replica tookOver, .leaseAcquired owner replica tookOver ∉ w.log)
      (seen : Seen attempt claim w record) :
      OncePermit me w (.compareAndSetState (claimKey attempt claim.holdRevision)
        (leaseRecord record owner expiresAt) record.revision (.acquiring me owner first))
  | record {stored : ClaimRecord} {result : RecoveryDispatchResult} {owner : Token}
      {reread : Bool} (seen : Seen attempt claim w stored)
      (warrant : result.outcome = .notInvoked → reread = false →
        ClearedWith attempt claim [denied result] w owner) :
      OncePermit me w (.compareAndSetState (claimKey attempt claim.holdRevision)
        (resolvedRecord stored result) stored.revision (.recording owner reread))
  | invoke {owner : Token} (issued : w.issued[owner]? = some me)
      (acquired : .leaseAcquired owner me false ∈ w.log)
      (cleared : ClearedWith attempt claim [] w owner) :
      OncePermit me w (.dispatchRecovery attempt claim owner)
  | reconcile : OncePermit me w (.reconcileRecovery attempt claim)

/-- What the claim record and the log keep. -/
structure OnceInv (w : World) : Prop where
  once : ∀ pre owner answer post, w.log = pre ++ .recoveryInvoked owner answer :: post → Cleared pre
  leased : ∀ owner answer, .recoveryInvoked owner answer ∈ w.log →
    ∃ replica, .leaseAcquired owner replica false ∈ w.log
  leases : ∀ owner replica tookOver replica' tookOver',
    .leaseAcquired owner replica tookOver ∈ w.log →
    .leaseAcquired owner replica' tookOver' ∈ w.log → tookOver = tookOver'
  issued : ∀ owner replica tookOver, .leaseAcquired owner replica tookOver ∈ w.log →
    w.issued[owner]? = some replica
  idle : ∀ stored, claimRecord attempt claim w = some stored →
    stored.dispatchState ≠ .inFlight → stored.inFlightOwner = none ∧
      (stored.dispatchOutcome = .notInvoked → Cleared w.log)

variable {attempt claim}

theorem OnceInv.atMostOnce {w : World} (inv : OnceInv attempt claim w) : AtMostOnce w.log := by
  refine ⟨inv.once, fun owner answer invoked replica took => ?_⟩
  obtain ⟨replica', acquired⟩ := inv.leased owner answer invoked
  cases inv.leases owner replica true replica' false took acquired

/-- One more entry on the log. -/
private theorem OnceInv.extend {w w' : World} (inv : OnceInv attempt claim w)
    (log : w'.log = w.log ++ [e]) (issued : w'.issued = w.issued) (cleared : IsInvocation e → Cleared w.log)
    (leased : ∀ owner answer, e = .recoveryInvoked owner answer →
      ∃ replica, .leaseAcquired owner replica false ∈ w.log)
    (lease : ∀ owner replica tookOver, e = .leaseAcquired owner replica tookOver →
      w.issued[owner]? = some replica ∧
        ∀ replica' tookOver', .leaseAcquired owner replica' tookOver' ∉ w.log)
    (idle : ∀ stored, claimRecord attempt claim w' = some stored →
      stored.dispatchState ≠ .inFlight → stored.inFlightOwner = none ∧
        (stored.dispatchOutcome = .notInvoked → Cleared (w.log ++ [e]))) :
    OnceInv attempt claim w' := by
  refine ⟨?_, ?_, ?_, ?_, ?_⟩
  · rw [log]
    exact once_append inv.once cleared
  · intro owner answer mem
    rw [log, List.mem_append, List.mem_singleton] at mem
    rw [log]
    rcases mem with old | rfl
    · obtain ⟨replica, acquired⟩ := inv.leased owner answer old
      exact ⟨replica, List.mem_append_left _ acquired⟩
    · obtain ⟨replica, acquired⟩ := leased owner answer rfl
      exact ⟨replica, List.mem_append_left _ acquired⟩
  · intro owner replica tookOver replica' tookOver' mem mem'
    rw [log, List.mem_append, List.mem_singleton] at mem mem'
    rcases mem with old | rfl <;> rcases mem' with old' | new
    · exact inv.leases owner replica tookOver replica' tookOver' old old'
    · exact absurd old ((lease owner replica' tookOver' new.symm).2 _ _)
    · exact absurd old' ((lease owner replica tookOver rfl).2 _ _)
    · exact (LogEvent.leaseAcquired.inj new).2.2.symm
  · intro owner replica tookOver mem
    rw [log, List.mem_append, List.mem_singleton] at mem
    rw [issued]
    rcases mem with old | rfl
    · exact inv.issued owner replica tookOver old
    · exact (lease owner replica tookOver rfl).1
  · rw [log]
    exact idle

/-- The record of a caller whose compare-and-set was answered with `true` was the stored
one. -/
private theorem Seen.current {w : World} {record stored : ClaimRecord}
    (seen : Seen attempt claim w record)
    (found : w.records.read (claimKey attempt claim.holdRevision) = some stored)
    (current : recordRevision (claimKey attempt claim.holdRevision) stored = record.revision) :
    stored = record := by
  obtain ⟨stored', found', -, latest⟩ := seen
  obtain rfl : stored' = stored := Option.some.inj (found'.symm.trans found)
  exact latest current

/-- **A permitted call keeps the invariant.** -/
theorem OnceInv.kept {me : ℕ} {w w' : World} {op : WorkflowOp} {a : WorkflowAns op}
    (allowed : OncePermit attempt claim me w op)
    (answered : Answered (Orderly attempt claim) w op a w') (inv : OnceInv attempt claim w) :
    OnceInv attempt claim w' := by
  cases allowed with
  | quiet isQuiet own =>
    obtain ⟨-, -, records, log⟩ := answered.quiet isQuiet
    refine ⟨log ▸ inv.once, log ▸ inv.leased, log ▸ inv.leases, ?_, ?_⟩
    · intro owner replica tookOver mem
      exact answered.grows.issued_eq (inv.issued owner replica tookOver (log ▸ mem))
    · unfold claimRecord
      rw [records, log]
      exact inv.idle
  | @acquire record owner expiresAt first issued unused seen =>
    rcases answered.compareAndSetState with ⟨-, rfl⟩ | ⟨-, ⟨stored, found, current⟩, rfl⟩
    · exact inv
    refine inv.extend rfl rfl (fun h => h.elim) ?_ ?_ ?_
    · rintro owner' answer ⟨⟩
    · intro owner' replica tookOver same
      obtain ⟨rfl, rfl, -⟩ := LogEvent.leaseAcquired.inj same
      exact ⟨issued, unused⟩
    · intro stored' found' notInFlight
      obtain rfl : leaseRecord record owner expiresAt = stored' :=
        Option.some.inj ((StateStore.read_write_self _ _).symm.trans found')
      exact absurd rfl notInFlight
  | @record stored result owner reread seen warrant =>
    have orderly := answered.1
    rcases answered.compareAndSetState with ⟨-, rfl⟩ | ⟨-, ⟨stored', found, current⟩, rfl⟩
    · exact inv
    obtain rfl := seen.current found current
    refine inv.extend rfl rfl (fun h => h.elim) ?_ ?_ ?_
    · rintro owner' answer ⟨⟩
    · rintro owner' replica tookOver ⟨⟩
    · intro stored'' found'' _
      obtain rfl : resolvedRecord stored' result = stored'' :=
        Option.some.inj ((StateStore.read_write_self _ _).symm.trans found'')
      refine ⟨rfl, fun outcome => ?_⟩
      obtain ⟨answeredNow, owns⟩ := orderly outcome stored' found rfl
      have cleared := warrant outcome answeredNow ⟨stored', found, owns⟩
      change result.outcome = .notInvoked at outcome
      simpa [denied, resolvedRecord, outcome] using cleared
  | @invoke owner issued acquired cleared =>
    have owns : Owns attempt claim w owner := answered.1
    have onCleared : Cleared w.log := by simpa using cleared owns
    obtain rfl := answered.dispatchRecovery
    refine inv.extend rfl rfl (fun _ => onCleared) ?_ ?_ ?_
    · intro owner' answer same
      obtain ⟨rfl, -⟩ := LogEvent.recoveryInvoked.inj same
      exact ⟨me, acquired⟩
    · rintro owner' replica tookOver ⟨⟩
    · intro stored found notInFlight
      obtain ⟨stored', found', isOwner⟩ := owns
      obtain rfl : stored' = stored := Option.some.inj (found'.symm.trans found)
      rw [(inv.idle stored' found' notInFlight).1] at isOwner
      cases isOwner
  | reconcile =>
    obtain rfl := answered.reconcileRecovery
    refine inv.extend rfl rfl (fun h => h.elim) ?_ ?_ ?_
    · rintro owner' answer ⟨⟩
    · rintro owner' replica tookOver ⟨⟩
    · intro stored found notInFlight
      obtain ⟨unowned, cleared⟩ := inv.idle stored found notInFlight
      exact ⟨unowned, fun outcome => (cleared outcome).append id⟩

variable (attempt claim) in
/-- Callers that dispatch the attempt, side by side. -/
def onceDiscipline : FlowDiscipline :=
  { permit := OncePermit attempt claim, ok := Orderly attempt claim
    inv := OnceInv attempt claim, kept := OnceInv.kept }

/-! ## What a caller goes on knowing -/

section Stable

variable {me : ℕ} {w w' : World} {op : WorkflowOp} {a : WorkflowAns op}

variable {record : ClaimRecord}

/-- The stored record only moves on to later revisions. -/
private theorem Seen.kept (allowed : OncePermit attempt claim me w op)
    (answered : Answered (Orderly attempt claim) w op a w')
    (seen : Seen attempt claim w record) : Seen attempt claim w' record := by
  have wrote {value stored : ClaimRecord}
      (found : w.records.read (claimKey attempt claim.holdRevision) = some stored)
      (next : value.revision = stored.revision + 1)
      (records : w'.records = w.records.write (claimKey attempt claim.holdRevision) value) :
      Seen attempt claim w' record := by
    obtain ⟨stored', found', earlier, -⟩ := seen
    obtain rfl : stored' = stored := Option.some.inj (found'.symm.trans found)
    refine ⟨value, ?_, by omega, fun same => absurd same (by omega)⟩
    rw [claimRecord, records]
    exact StateStore.read_write_self _ _
  have unchanged (records : w'.records = w.records) : Seen attempt claim w' record := by
    unfold Seen claimRecord
    rw [records]
    exact seen
  cases allowed with
  | quiet isQuiet own => exact unchanged (answered.quiet isQuiet).2.2.1
  | acquire issued unused seen' | record seen' warrant =>
    rcases answered.compareAndSetState with ⟨-, rfl⟩ | ⟨-, ⟨stored, found, current⟩, rfl⟩
    · exact seen
    obtain rfl := seen'.current found current
    exact wrote found rfl rfl
  | invoke issued acquired cleared =>
    obtain rfl := answered.dispatchRecovery
    exact seen
  | reconcile =>
    obtain rfl := answered.reconcileRecovery
    exact seen

private theorem Seen.rely
    (between : (onceDiscipline attempt claim).Rely me w w') (inv : OnceInv attempt claim w)
    (seen : Seen attempt claim w record) : Seen attempt claim w' record :=
  FlowDiscipline.rely_fact (D := onceDiscipline attempt claim)
    (fun _ _ allowed answered h => Seen.kept allowed answered h) between inv seen

variable {owner : Token} {more : List LogEvent}

/-- What holds as long as the caller owns the lease survives the others: none of them owns
it, so each either leaves the record alone or takes the lease away. -/
private theorem ClearedWith.kept {other : ℕ}
    (apart : other ≠ me) (issued : w.issued[owner]? = some me)
    (allowed : OncePermit attempt claim other w op)
    (answered : Answered (Orderly attempt claim) w op a w')
    (cleared : ClearedWith attempt claim more w owner) :
    ClearedWith attempt claim more w' owner := by
  have foreign {token : Token} (theirs : w.issued[token]? = some other) : token ≠ owner := by
    rintro rfl
    exact apart (Option.some.inj (theirs.symm.trans issued))
  have handed {value : ClaimRecord} (notMine : value.inFlightOwner ≠ some owner)
      (records : w'.records = w.records.write (claimKey attempt claim.holdRevision) value) :
      ClearedWith attempt claim more w' owner := by
    rintro ⟨stored, found, mine⟩
    rw [claimRecord, records] at found
    obtain rfl : value = stored :=
      Option.some.inj ((StateStore.read_write_self _ _).symm.trans found)
    exact absurd mine notMine
  cases allowed with
  | quiet isQuiet own =>
    obtain ⟨-, -, records, log⟩ := answered.quiet isQuiet
    unfold ClearedWith Owns claimRecord
    rw [records, log]
    exact cleared
  | acquire theirs unused seen =>
    rcases answered.compareAndSetState with ⟨-, rfl⟩ | ⟨-, -, rfl⟩
    · exact cleared
    · refine handed (fun same => ?_) rfl
      exact foreign theirs (Option.some.inj same)
  | record seen warrant =>
    rcases answered.compareAndSetState with ⟨-, rfl⟩ | ⟨-, -, rfl⟩
    · exact cleared
    · refine handed (fun same => ?_) rfl
      cases same
  | invoke theirs acquired cleared' =>
    obtain ⟨stored, found, isOwner⟩ : Owns attempt claim w _ := answered.1
    obtain rfl := answered.dispatchRecovery
    rintro ⟨stored', found', mine⟩
    obtain rfl : stored = stored' := Option.some.inj (found.symm.trans found')
    exact absurd (Option.some.inj (isOwner.symm.trans mine)) (foreign theirs)
  | reconcile =>
    obtain rfl := answered.reconcileRecovery
    intro owns
    rw [List.append_assoc]
    exact (cleared owns).insert id

private theorem ClearedWith.rely
    (between : (onceDiscipline attempt claim).Rely me w w') (inv : OnceInv attempt claim w)
    (issued : w.issued[owner]? = some me) (cleared : ClearedWith attempt claim more w owner) :
    ClearedWith attempt claim more w' owner :=
  (FlowDiscipline.rely_fact (D := onceDiscipline attempt claim)
    (F := fun w => w.issued[owner]? = some me ∧ ClearedWith attempt claim more w owner)
    (fun apart _ allowed answered h =>
      ⟨answered.grows.issued_eq h.1, h.2.kept apart h.1 allowed answered⟩)
    between inv ⟨issued, cleared⟩).2

/-- A lease is acquired under a token of the caller that acquires it. -/
private theorem lease_issued {other : ℕ} {replica : ℕ} {tookOver : Bool}
    (allowed : OncePermit attempt claim other w op)
    (answered : Answered (Orderly attempt claim) w op a w')
    (mem : .leaseAcquired owner replica tookOver ∈ w'.log) :
    .leaseAcquired owner replica tookOver ∈ w.log ∨ w.issued[owner]? = some other := by
  cases allowed with
  | quiet isQuiet own => exact .inl ((answered.quiet isQuiet).2.2.2 ▸ mem)
  | acquire theirs _ _ =>
    rcases answered.compareAndSetState with ⟨-, rfl⟩ | ⟨-, -, rfl⟩
    · exact .inl mem
    refine (List.mem_append.1 mem).imp_right fun new => ?_
    obtain ⟨rfl, -⟩ := LogEvent.leaseAcquired.inj (List.mem_singleton.1 new)
    exact theirs
  | record _ _ =>
    rcases answered.compareAndSetState with ⟨-, rfl⟩ | ⟨-, -, rfl⟩
    · exact .inl mem
    · refine (List.mem_append.1 mem).imp_right fun new => ?_
      cases List.mem_singleton.1 new
  | invoke _ _ _ =>
    obtain rfl := answered.dispatchRecovery
    refine (List.mem_append.1 mem).imp_right fun new => ?_
    cases List.mem_singleton.1 new
  | reconcile =>
    obtain rfl := answered.reconcileRecovery
    refine (List.mem_append.1 mem).imp_right fun new => ?_
    cases List.mem_singleton.1 new

/-- A fresh token of this caller is used by no other. -/
private theorem unused_rely
    (between : (onceDiscipline attempt claim).Rely me w w') (inv : OnceInv attempt claim w)
    (issued : w.issued[owner]? = some me)
    (unused : ∀ replica tookOver, .leaseAcquired owner replica tookOver ∉ w.log) :
    ∀ replica tookOver, .leaseAcquired owner replica tookOver ∉ w'.log := by
  refine (FlowDiscipline.rely_fact (D := onceDiscipline attempt claim)
    (F := fun w => w.issued[owner]? = some me ∧
      ∀ replica tookOver, .leaseAcquired owner replica tookOver ∉ w.log)
    ?_ between inv ⟨issued, unused⟩).2
  rintro other w op a w' apart - allowed answered ⟨issued, unused⟩
  refine ⟨answered.grows.issued_eq issued, fun replica tookOver mem => ?_⟩
  rcases lease_issued allowed answered mem with old | theirs
  · exact unused _ _ old
  · exact apart (Option.some.inj (theirs.symm.trans issued))

/-- The others have moved on, and the caller made no call but a quiet one. -/
private def Later (attempt : RecoveryAttemptIdentity) (claim : RecoveryPreDispatchClaim)
    (me : ℕ) (w w' : World) : Prop :=
  ∃ w₁, (onceDiscipline attempt claim).Rely me w w₁ ∧ Grows w₁ w' ∧ w'.records = w₁.records ∧
    w'.log = w₁.log

private theorem Later.grows (later : Later attempt claim me w w')
    (inv : OnceInv attempt claim w) : Grows w w' := by
  obtain ⟨w₁, between, grows, -, -⟩ := later
  exact (FlowDiscipline.grows_of_rely between inv).trans grows

private theorem Seen.later (later : Later attempt claim me w w')
    (inv : OnceInv attempt claim w) (seen : Seen attempt claim w record) :
    Seen attempt claim w' record := by
  obtain ⟨w₁, between, -, records, -⟩ := later
  unfold Seen claimRecord
  rw [records]
  exact seen.rely between inv

private theorem ClearedWith.later
    (later : Later attempt claim me w w') (inv : OnceInv attempt claim w)
    (issued : w.issued[owner]? = some me) (cleared : ClearedWith attempt claim more w owner) :
    ClearedWith attempt claim more w' owner := by
  obtain ⟨w₁, between, -, records, log⟩ := later
  unfold ClearedWith Owns claimRecord
  rw [records, log]
  exact cleared.rely between inv issued

private theorem unused_later (later : Later attempt claim me w w')
    (inv : OnceInv attempt claim w) (issued : w.issued[owner]? = some me)
    (unused : ∀ replica tookOver, .leaseAcquired owner replica tookOver ∉ w.log) :
    ∀ replica tookOver, .leaseAcquired owner replica tookOver ∉ w'.log := by
  obtain ⟨w₁, between, -, -, log⟩ := later
  rw [log]
  exact unused_rely between inv issued unused

end Stable

/-! ## What each function asks for -/

section Sat

open FlowDiscipline

variable {me : ℕ} {w : World} {α : Type}

/-- Nothing is claimed about the results of the callers. -/
private abbrev KeepsOnce (attempt : RecoveryAttemptIdentity) (claim : RecoveryPreDispatchClaim)
    (me : ℕ) (p : Flow α) (w : World) : Prop :=
  (onceDiscipline attempt claim).Sat me (fun _ _ => True) p w

private theorem sat_quiet {op : WorkflowOp} {f : WorkflowAns op → Flow α}
    (inv : OnceInv attempt claim w) (isQuiet : Quiet op) (own : ∀ r, op = .newToken r → r = me)
    (h : ∀ a w₁ w₂, (onceDiscipline attempt claim).Rely me w w₁ →
      Answered (Orderly attempt claim) w₁ op a w₂ → Later attempt claim me w w₂ →
        OnceInv attempt claim w₂ → KeepsOnce attempt claim me (f a) w₂) :
    KeepsOnce attempt claim me (Flow.ask op >>= f) w :=
  sat_call inv fun w₁ between _ => ⟨.quiet isQuiet own, fun a w₂ answered inv₂ =>
    have unchanged := answered.quiet isQuiet
    h a w₁ w₂ between answered ⟨w₁, between, answered.grows, unchanged.2.2.1, unchanged.2.2.2⟩ inv₂⟩

private theorem sat_readClaim {f : Option ClaimRecord → Flow α} (inv : OnceInv attempt claim w)
    (h : ∀ stored w', Later attempt claim me w w' → OnceInv attempt claim w' →
      (∀ record ∈ stored, Seen attempt claim w' record) →
        KeepsOnce attempt claim me (f stored) w') :
    KeepsOnce attempt claim me (Flow.read (claimKey attempt claim.holdRevision) >>= f) w := by
  refine sat_quiet inv trivial (by simp) fun stored w₁ w₂ _ answered later inv₂ => ?_
  obtain ⟨rfl, rfl⟩ := answered.readState
  exact h _ _ later inv₂ fun record found => ⟨record, found, le_refl _, fun _ => rfl⟩

/-- What a caller that acquired the lease knows. -/
private structure Leased (attempt : RecoveryAttemptIdentity) (claim : RecoveryPreDispatchClaim)
    (me : ℕ) (first : Option ClaimRecord) (w : World) (lease : InFlightLease) : Prop where
  issued : w.issued[lease.owner]? = some me
  acquired : .leaseAcquired lease.owner me lease.tookOver ∈ w.log
  cleared : lease.tookOver = false → ¬ (dispatchFromRecord first claim).any (·.outcome = .inDoubt) →
      ClearedWith attempt claim [] w lease.owner

variable {owner : Token} {w' : World}

/-- The caller whose compare-and-set gave it the lease. -/
private theorem leased_of_commit {expiresAt : Instant}
    {first : Option ClaimRecord} {stored : ClaimRecord}
    (found : claimRecord attempt claim w = some stored)
    (orderly : Orderly attempt claim w (.compareAndSetState
      (claimKey attempt claim.holdRevision) (leaseRecord stored owner expiresAt)
      stored.revision (.acquiring me owner first)))
    (inv : OnceInv attempt claim w) (notDispatched : stored.dispatchOutcome ≠ .dispatched)
    (issued : w.issued[owner]? = some me)
    (wrote : w' = { w with
      records := w.records.write (claimKey attempt claim.holdRevision)
        (leaseRecord stored owner expiresAt)
      log := w.log ++ written w.records (claimKey attempt claim.holdRevision)
        (leaseRecord stored owner expiresAt) (.acquiring me owner first) }) :
    Leased attempt claim me first w' ⟨owner, stored.dispatchState = .inFlight⟩ := by
  subst wrote
  have entry : written w.records (claimKey attempt claim.holdRevision)
      (leaseRecord stored owner expiresAt) (.acquiring me owner first) =
      [.leaseAcquired owner me (stored.dispatchState = .inFlight)] := by
    unfold claimRecord at found
    simp only [claimKey] at found
    simp [written, claimKey, found]
  refine ⟨issued, ?_, ?_⟩
  · rw [entry]
    exact List.mem_append_right _ (List.mem_singleton_self _)
  · intro fresh noDoubt _
    have notInFlight : stored.dispatchState ≠ .inFlight := by simpa using fresh
    have outcome : stored.dispatchOutcome = .notInvoked := by
      cases known : stored.dispatchOutcome with
      | notInvoked => rfl
      | dispatched => exact absurd known notDispatched
      | inDoubt => exact absurd (orderly stored found rfl notInFlight known) noDoubt
    have cleared := (inv.idle stored found notInFlight).2 outcome
    rw [entry]
    simpa using cleared.append id

private theorem sat_acquireInFlight {config : RecoveryCoordinatorConfig}
    {first record : Option ClaimRecord} {rounds : ℕ} {f : Option InFlightLease → Flow α}
    (inv : OnceInv attempt claim w)
    (seen : ∀ stored ∈ record, Seen attempt claim w stored)
    (none : ∀ w', OnceInv attempt claim w' → KeepsOnce attempt claim me (f none) w')
    (some : ∀ lease w', OnceInv attempt claim w' → Leased attempt claim me first w' lease →
      KeepsOnce attempt claim me (f (some lease)) w') :
    KeepsOnce attempt claim me
      (acquireInFlight me config attempt claim first rounds record >>= f) w := by
  induction rounds generalizing w record with
  | zero => exact none w inv
  | succ rounds ih =>
    rcases record with _ | stored
    · exact none w inv
    have seen := seen stored rfl
    unfold acquireInFlight
    split
    · exact none w inv
    rename_i notDispatched
    rw [Program.bind_assoc]
    refine sat_quiet inv trivial (by simp) fun now _ w₁ _ _ later₁ inv₁ => ?_
    have seen₁ := seen.later later₁ inv
    split
    · exact none w₁ inv₁
    rw [Program.bind_assoc]
    refine sat_call inv₁ fun w₂ between₂ inv₂ =>
      ⟨.quiet trivial (by simp), fun owner w₃ answered₃ inv₃ => ?_⟩
    obtain ⟨rfl, rfl⟩ := answered₃.newToken
    have issued₃ : (w₂.issued ++ [me])[w₂.issued.length]? = Option.some me := by simp
    have unused₃ : ∀ replica tookOver,
        .leaseAcquired w₂.issued.length replica tookOver ∉ w₂.log := by
      intro replica tookOver mem
      have := (List.getElem?_eq_some_iff.1 (inv₂.issued _ _ _ mem)).1
      omega
    have seen₃ := seen₁.rely between₂ inv₁
    rw [Program.bind_assoc]
    refine sat_compareAndSet inv₃ ?_ ?_ ?_
    · intro w₄ between₄ _
      exact .acquire ((grows_of_rely between₄ inv₃).issued_eq issued₃)
        (unused_rely between₄ inv₃ issued₃ unused₃) (Seen.rely between₄ inv₃ seen₃)
    · intro w₄ _ inv₄
      rw [if_neg Bool.false_ne_true, Program.bind_assoc]
      exact sat_readClaim inv₄ fun again w₅ _ inv₅ seen₅ => ih inv₅ seen₅
    · intro w₄ current between₄ inv₄ found same orderly w₅ wrote inv₅
      obtain rfl := (Seen.rely between₄ inv₃ seen₃).current found same
      refine some _ _ inv₅ (leased_of_commit found orderly inv₄ notDispatched ?_ wrote)
      exact (grows_of_rely between₄ inv₃).issued_eq issued₃

/-- What a caller must know to record a result under its lease. -/
private structure Warrant (attempt : RecoveryAttemptIdentity)
    (claim : RecoveryPreDispatchClaim) (me : ℕ) (result : RecoveryDispatchResult)
    (owner : Token) (reread : Bool) (w : World) : Prop where
  issued : w.issued[owner]? = some me
  cleared : result.outcome = .notInvoked → reread = false →
    ClearedWith attempt claim [denied result] w owner

private theorem Warrant.later
    {reread : Bool} (later : Later attempt claim me w w') (inv : OnceInv attempt claim w)
    (warrant : Warrant attempt claim me result owner reread w) :
    Warrant attempt claim me result owner reread w' :=
  ⟨(later.grows inv).issued_eq warrant.issued, fun outcome fresh =>
    (warrant.cleared outcome fresh).later later inv warrant.issued⟩

private theorem later_of_rely
    (between : (onceDiscipline attempt claim).Rely me w w') : Later attempt claim me w w' :=
  ⟨w', between, Grows.refl w', rfl, rfl⟩

private theorem sat_recordDispatch
    {reread : Bool} {rounds : ℕ} {f : Unit → Flow α} (inv : OnceInv attempt claim w)
    (warrant : Warrant attempt claim me result owner reread w)
    (h : ∀ w', OnceInv attempt claim w' → KeepsOnce attempt claim me (f ()) w') :
    KeepsOnce attempt claim me
      (recordDispatch attempt claim result owner reread rounds >>= f) w := by
  induction rounds generalizing w with
  | zero => exact h w inv
  | succ rounds ih =>
    unfold recordDispatch
    rw [Program.bind_assoc]
    refine sat_readClaim inv fun found w₁ later₁ inv₁ seen₁ => ?_
    rcases found with _ | stored
    · exact h w₁ inv₁
    dsimp only
    split
    · exact h w₁ inv₁
    rw [Program.bind_assoc]
    have warrant₁ := warrant.later later₁ inv
    refine sat_compareAndSet inv₁ ?_ ?_ ?_
    · intro w₂ between₂ _
      exact .record ((seen₁ stored rfl).rely between₂ inv₁)
        (warrant₁.later (later_of_rely between₂) inv₁).cleared
    · intro w₂ between₂ inv₂
      exact ih inv₂ (warrant₁.later (later_of_rely between₂) inv₁)
    · intro w₂ _ _ _ _ _ _ w₃ _ inv₃
      exact h w₃ inv₃

/-- The provider is invoked under a lease that was not taken over. -/
private theorem sat_invokeProvider {f : RecoveryDispatchResult → Flow α}
    (inv : OnceInv attempt claim w) (issued : w.issued[owner]? = some me)
    (acquired : .leaseAcquired owner me false ∈ w.log)
    (cleared : ClearedWith attempt claim [] w owner)
    (h : ∀ result w', OnceInv attempt claim w' → Warrant attempt claim me result owner false w' →
        KeepsOnce attempt claim me (f result) w') :
    KeepsOnce attempt claim me (invokeProvider attempt claim owner >>= f) w := by
  rw [invokeProvider, Program.bind_assoc]
  refine sat_call inv fun w₁ between₁ inv₁ => ?_
  have issued₁ := (grows_of_rely between₁ inv).issued_eq issued
  have cleared₁ := cleared.rely between₁ inv issued
  refine ⟨.invoke issued₁ ((grows_of_rely between₁ inv).mem_log acquired) cleared₁, ?_⟩
  intro a w₂ answered inv₂
  obtain rfl := answered.dispatchRecovery
  cases a with
  | ok result =>
    refine h result _ inv₂ ⟨issued₁, fun outcome _ owns => ?_⟩
    have before : Cleared w₁.log := by simpa using cleared₁ owns
    exact before.invoked outcome
  | error _ =>
    rw [Program.bind_assoc]
    refine sat_quiet inv₂ trivial (by simp) fun recordedAt _ w₃ _ _ later₃ inv₃ => ?_
    exact h _ w₃ inv₃ ⟨(later₃.grows inv₂).issued_eq issued₁, fun outcome => nomatch outcome⟩

/-- The provider is asked what became of the dispatch. -/
private theorem sat_reconcile {f : Option RecoveryDispatchResult → Flow α}
    (inv : OnceInv attempt claim w) (issued : w.issued[owner]? = some me)
    (h : ∀ answer w', OnceInv attempt claim w' → w'.issued[owner]? = some me →
      (∀ result ∈ answer, Warrant attempt claim me result owner false w') →
        KeepsOnce attempt claim me (f answer) w') :
    KeepsOnce attempt claim me (reconcile attempt claim >>= f) w := by
  rw [reconcile, Program.bind_assoc]
  refine sat_call inv fun w₁ between₁ inv₁ => ⟨.reconcile, fun a w₂ answered inv₂ => ?_⟩
  have issued₁ := (grows_of_rely between₁ inv).issued_eq issued
  obtain rfl := answered.reconcileRecovery
  cases a with
  | ok answer =>
    refine h answer _ inv₂ issued₁ fun result known => ⟨issued₁, fun outcome _ _ => ?_⟩
    obtain rfl := known
    exact Cleared.reconciled outcome w₁.log
  | error _ => exact h none _ inv₂ issued₁ fun _ none => nomatch none

/-- **A caller of `dispatchOnce` keeps to the permitted calls.** -/
private theorem sat_dispatchOnce {config : RecoveryCoordinatorConfig}
    (inv : OnceInv attempt claim w) :
    KeepsOnce attempt claim me (dispatchOnce me config attempt claim) w := by
  rw [dispatchOnce]
  refine sat_readClaim inv fun stored w₁ _ inv₁ seen₁ => ?_
  dsimp only
  split
  · trivial
  split
  · exact sat_quiet inv₁ trivial (by simp) fun _ _ _ _ _ _ _ => trivial
  refine sat_acquireInFlight inv₁ seen₁ (fun w₂ inv₂ => ?_) fun lease w₂ inv₂ leased => ?_
  · exact sat_quiet inv₂ trivial (by simp) fun _ _ _ _ _ _ _ => trivial
  have done (result : RecoveryDispatchResult) (w' : World) (_ : OnceInv attempt claim w') :
      KeepsOnce attempt claim me (pure result) w' := trivial
  dsimp only
  split
  · refine sat_reconcile inv₂ leased.issued fun answer w₃ inv₃ issued₃ warrant₃ => ?_
    cases answer with
    | some result =>
      exact sat_recordDispatch inv₃ (warrant₃ result rfl) fun w₄ inv₄ => done _ w₄ inv₄
    | none =>
      dsimp only
      split
      · rename_i result _
        exact sat_recordDispatch inv₃ ⟨issued₃, fun _ reread => nomatch reread⟩
          fun w₄ inv₄ => done _ w₄ inv₄
      refine sat_quiet inv₃ trivial (by simp) fun recordedAt _ w₄ _ _ later₄ inv₄ => ?_
      exact sat_recordDispatch inv₄
        ⟨(later₄.grows inv₃).issued_eq issued₃, fun outcome => nomatch outcome⟩
        fun w₅ inv₅ => done _ w₅ inv₅
  · rename_i fresh
    obtain ⟨noDoubt, notTaken⟩ : _ ∧ lease.tookOver = false := by
      simpa only [Bool.or_eq_true, not_or, Bool.not_eq_true] using fresh
    refine sat_invokeProvider inv₂ leased.issued (notTaken ▸ leased.acquired)
      (leased.cleared notTaken (by rw [noDoubt]; exact Bool.false_ne_true)) ?_
    intro result w₃ inv₃ warrant₃
    exact sat_recordDispatch inv₃ warrant₃ fun w₄ inv₄ => done _ w₄ inv₄

end Sat

variable (attempt claim) in
/-- The claim is as it was written, and nothing was dispatched yet. -/
structure Claimed (w : World) : Prop where
  log : w.log = []
  record : ∀ stored, claimRecord attempt claim w = some stored → stored = { claim }

theorem Claimed.inv {w : World} (fresh : Claimed attempt claim w) : OnceInv attempt claim w := by
  have nothing {e : LogEvent} : e ∉ w.log := by simp [fresh.log]
  refine ⟨?_, fun _ _ mem => absurd mem nothing, fun _ _ _ _ _ mem => absurd mem nothing,
    fun _ _ _ mem => absurd mem nothing, ?_⟩
  · intro pre owner answer post split
    rw [fresh.log] at split
    simp at split
  · intro stored found _
    obtain rfl := fresh.record stored found
    exact ⟨rfl, fun _ => fresh.log ▸ trivial⟩

end

/-- **A recovery is invoked at most once** as long as its callers are orderly. -/
theorem dispatch_at_most_once (attempt : RecoveryAttemptIdentity)
    (claim : RecoveryPreDispatchClaim) (w : World) (fresh : Claimed attempt claim w)
    (moves : List (Move RecoveryCoordinatorConfig Oracle))
    (orderly : (workflowMachine fun replica config =>
      dispatchOnce replica config attempt claim).Observes (Orderly attempt claim)
        (Machine.idle w) moves) :
    AtMostOnce ((workflowMachine fun replica config =>
      dispatchOnce replica config attempt claim).run (Machine.idle w) moves).world.log :=
  OnceInv.atMostOnce ((onceDiscipline attempt claim).run_inv
    (fun _ _ _ inv => sat_dispatchOnce inv) fresh.inv orderly)

/-- The first attempt to restore a configuration. -/
def restoreAttempt : RecoveryAttemptIdentity :=
  { failedCompensationProposalDigest := .text "compensation"
    holdRevision := 1
    recoveryActionType := "config.restore"
    recoveryPayloadDigest := .text "payload"
    attemptNumber := 1 }

def restoreClaim : RecoveryPreDispatchClaim :=
  { attemptIdentityDigest := restoreAttempt.identityDigest
    holdRevision := 1
    claimRevision := 1
    idempotencyKey := restoreAttempt.idempotencyKey
    claimedAt := 0 }

private def restoreClaimed : World :=
  { records := StateStore.empty.write (claimKey restoreAttempt 1)
      ({ claim := restoreClaim } : ClaimRecord) }

private theorem restoreClaimed_fresh : Claimed restoreAttempt restoreClaim restoreClaimed :=
  ⟨rfl, fun _ found =>
    (Option.some.inj ((StateStore.read_write_self _ _).symm.trans found)).symm⟩

private def restoreConfig : RecoveryCoordinatorConfig := { claimValidity := 60, dispatchLease := 30 }

/-- The calls of two callers, in two turns of the first one. The provider answers every
invocation with an exception. -/
private def restoreMoves (firstTurn secondTurn : ℕ) :
    List (Move RecoveryCoordinatorConfig Oracle) :=
  [.start restoreConfig, .start restoreConfig] ++ List.replicate firstTurn (.advance 0 {}) ++
    List.replicate 9 (.advance 1 {}) ++ List.replicate secondTurn (.advance 0 {})

/-- The first caller reads the claim; the second dispatches and records that this is in
doubt; the first finds its lease lost, reads the claim again, acquires it, and dispatches
since its first read had shown no doubt. -/
theorem dispatch_repeated_in_doubt :
    ¬ ∀ w, Claimed restoreAttempt restoreClaim w → ∀ moves, AtMostOnce
      ((workflowMachine fun replica config =>
        dispatchOnce replica config restoreAttempt restoreClaim).run
          (Machine.idle w) moves).world.log := by
  intro always
  have atMostOnce := always restoreClaimed restoreClaimed_fresh (restoreMoves 1 8)
  generalize ran : ((workflowMachine fun replica config =>
    dispatchOnce replica config restoreAttempt restoreClaim).run
      (Machine.idle restoreClaimed) (restoreMoves 1 8)).world.log = log at atMostOnce
  have twice : (log.filter (IsInvocation ·)).length = 2 := ran ▸ by decide +kernel
  have undenied : (log.all fun
      | .dispatchRecorded .notInvoked _ => false
      | _ => true) = true := ran ▸ by decide +kernel
  have noDenial : NoDenial log := by
    rintro e mem result rfl
    cases List.all_eq_true.1 undenied _ mem
  have once := atMostOnce.length_le_one noDenial
  omega

/-- The same callers, the first one a turn later: it finds the outcome in doubt. -/
theorem dispatch_once_in_turn : AtMostOnce ((workflowMachine fun replica config =>
      dispatchOnce replica config restoreAttempt restoreClaim).run
        (Machine.idle restoreClaimed) (restoreMoves 0 12)).world.log :=
  dispatch_at_most_once restoreAttempt restoreClaim restoreClaimed restoreClaimed_fresh
    (restoreMoves 0 12) (by decide +kernel)

end Fdai.Core
