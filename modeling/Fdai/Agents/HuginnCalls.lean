import Fdai.Agents.HuginnDedup
import Fdai.Concurrency.Triple

/-!
# The calls of Huginn's journals

What a check, a read and a write of a journal do, under any discipline whose calls are
answered by the store.

* `triple_checked`, `triple_readDecoded`, `triple_advance` — a check, a record that is read,
  and a record that is written back.
* `Aside` — calls that leave the records, the flags and missing receipts alone;
  `triple_validateTerminalRequest` and `triple_pruneTerminals` make no others.
-/

namespace Fdai.Core.HuginnDedup

open Fdai.Providers Fdai.Concurrency Fdai.Sequences Program Discipline Deduping

section

variable {w : DedupWorld} {place : Place} {value : DedupRecord}

theorem record_stored : (w.stored place value).record place = some value :=
  @StateStore.read_write_self Place (fun _ => DedupRecord) _ w.records place value

theorem record_stored_ne {other : Place} (apart : other ≠ place) :
    (w.stored place value).record other = w.record other :=
  @StateStore.read_write_ne Place (fun _ => DedupRecord) _ w.records place other value apart

theorem record_of_records {w' : DedupWorld} (records : w'.records = w.records) :
    w'.record place = w.record place :=
  congrArg (fun store => store.read place) records

end

/-- The write of `_advance`. -/
def advanceOp (place : Place) (current : Option DedupRecord) (value : DedupRecord)
    (expectedRevision : ℕ) (why : DedupWrite) : DedupOp :=
  match current with
  | none => .writeEntriesIfAbsent place value why
  | some _ => .compareAndSetEntries place value expectedRevision why

/-- Calls on receipts that are there, on the marks of compacted shards and on the counters. -/
def Aside : DedupOp → Prop
  | .readTerminal _ | .compareAndSetTerminal _ _ _ | .deleteTerminalsBeyond _
  | .isCompacted _ _ | .setCompacted _ _ _ | .countCompletion _ _ => True
  | _ => False

/-- The calls of a discipline are answered by the store. -/
def Answered (D : Discipline DedupOp DedupOp.Ans DedupWorld) : Prop :=
  ∀ ⦃w op a w'⦄, D.answers w op a w' → ∃ now, w.perform now op = (a, w')

section

variable {D : Discipline DedupOp DedupOp.Ans DedupWorld} {me : ℕ} {F : DedupWorld → Prop}
  {α β : Type} {goal : α → DedupWorld → Prop}

theorem triple_checked {result : Except DedupError β} {f : β → Deduping α}
    (next : ∀ b, result = .ok b → D.Triple me F (f b) (Returns goal)) :
    D.Triple me F (checked result >>= f) (Returns goal) := by
  cases result with
  | ok b => exact next b rfl
  | error error => exact triple_throw

/-- A check at the end. -/
theorem triple_check {result : Except DedupError α}
    (returns : ∀ a, result = .ok a → ∀ w, D.inv w → F w → goal a w) :
    D.Triple me F (checked result) (Returns goal) := by
  cases result with
  | ok a => exact triple_pure (returns a rfl)
  | error error => exact triple_throw

variable {place : Place}

/-- **A record that is read** is stored, and decoded with the capacity that is expected. -/
theorem triple_readDecoded {capacity : ℕ}
    {f : Option DedupRecord × Decoded → Deduping α} (answered : Answered D)
    (stable : D.Stable F) (permitted : ∀ w, D.inv w → F w → D.permit me w (.readEntries place))
    (next : ∀ read decoded, decode read = .ok decoded →
      validateCapacity decoded.capacity capacity = .ok () →
      D.Triple me (fun w => F w ∧ w.record place = read) (f (read, decoded)) (Returns goal)) :
    D.Triple me F (readDecoded place capacity >>= f) (Returns goal) := by
  have reads : D.Triple me F (readDecoded place capacity)
      (Returns fun b w => (decode b.1 = .ok b.2 ∧ validateCapacity b.2.capacity capacity = .ok ()) ∧
        F w ∧ w.record place = b.1) := by
    refine triple_read stable (fun w => w.record place) permitted ?_ fun read => ?_
    · intro w a w' isAnswer
      obtain ⟨now, performed⟩ := answered isAnswer
      obtain ⟨rfl, rfl⟩ := Prod.mk.inj performed
      exact ⟨rfl, rfl⟩
    · refine triple_checked fun decoded isDecoded => triple_checked fun _ expected => ?_
      exact triple_pure fun w _ known => ⟨⟨isDecoded, expected⟩, known⟩
  refine triple_seq _ reads ?_
  rintro ⟨read, decoded⟩
  exact triple_of_fact fun checks => next read decoded checks.1 checks.2

variable {why : DedupWrite}

/-- What a write that takes effect leaves. -/
theorem record_of_writeIfAbsent {value : DedupRecord} {now : Datetime} {w w' : DedupWorld}
    (performed : w.perform now (.writeEntriesIfAbsent place value why) = (true, w')) :
    w'.record place = some value := by
  obtain ⟨isStored, rfl⟩ := Prod.mk.inj performed
  have isStored : (w.records.writeIfAbsent place value).1 = true := isStored
  show (if (w.records.writeIfAbsent place value).1 then w.stored place value else w).record place =
    some value
  rw [if_pos isStored]
  exact record_stored

theorem record_of_compareAndSet {value : DedupRecord} {expectedRevision : ℕ}
    {now : Datetime} {w w' : DedupWorld}
    (performed : w.perform now (.compareAndSetEntries place value expectedRevision why) =
      (true, w')) : w'.record place = some value := by
  obtain ⟨isStored, rfl⟩ := Prod.mk.inj performed
  have isStored : (w.records.compareAndSet (fun _ record => record.revision) place value
    expectedRevision).1 = true := isStored
  show (if (w.records.compareAndSet (fun _ record => record.revision) place value
    expectedRevision).1 then w.stored place value else w).record place = some value
  rw [if_pos isStored]
  exact record_stored

/-- **A record that is written back.** -/
theorem triple_advance {read : Option DedupRecord}
    {revision capacity nextSequence : ℕ} {entries : DedupEntries}
    {f : Bool → Deduping α} (answered : Answered D) (stable : D.Stable F)
    (permitted : ∀ w, D.inv w → F w → D.permit me w
      (advanceOp place read ⟨revision + 1, capacity, nextSequence, entries⟩ revision why))
    (next : ∀ isStored, D.Triple me (fun w => F w ∧ (isStored = true → w.record place =
      some ⟨revision + 1, capacity, nextSequence, entries⟩)) (f isStored) (Returns goal)) :
    D.Triple me F (advance place read revision capacity nextSequence entries why >>= f)
      (Returns goal) := by
  cases read with
  | none =>
    refine triple_call stable permitted (fun (isStored : Bool) w => F w ∧ (isStored = true →
      w.record place = some ⟨revision + 1, capacity, nextSequence, entries⟩)) ?_ next
    intro w isStored w' inv known isAnswer _
    refine ⟨stable inv (permitted w inv known) isAnswer known, ?_⟩
    rintro rfl
    obtain ⟨now, performed⟩ := answered isAnswer
    exact record_of_writeIfAbsent performed
  | some record =>
    refine triple_call stable permitted (fun (isStored : Bool) w => F w ∧ (isStored = true →
      w.record place = some ⟨revision + 1, capacity, nextSequence, entries⟩)) ?_ next
    intro w isStored w' inv known isAnswer _
    refine ⟨stable inv (permitted w inv known) isAnswer known, ?_⟩
    rintro rfl
    obtain ⟨now, performed⟩ := answered isAnswer
    exact record_of_compareAndSet performed

theorem triple_validateTerminalRequest (stable : D.Stable F)
    (aside : ∀ op, Aside op → ∀ w, D.inv w → F w → D.permit me w op)
    (key digest : String) (legacyDigest : Option String) (attempts : ℕ) :
    D.Triple me F (validateTerminalRequest key digest legacyDigest attempts)
      (Returns fun _ => F) := by
  induction attempts with
  | zero => exact triple_throw
  | succ attempts ih =>
    refine triple_keep stable (aside _ trivial) fun (terminal : Option TerminalReceipt) => ?_
    rcases terminal with _ | receipt
    · exact triple_throw
    refine triple_checked fun _ _ => ?_
    split
    · exact triple_pure fun _ _ => id
    split
    · exact triple_throw
    refine triple_keep stable (aside _ trivial) fun (isStored : Bool) => ?_
    split
    · exact triple_pure fun _ _ => id
    · exact ih

theorem triple_pruneTerminals {layout : DedupLayout} (stable : D.Stable F)
    (aside : ∀ op, Aside op → ∀ w, D.inv w → F w → D.permit me w op)
    (journal : HuginnDedupJournal) :
    D.Triple me F (pruneTerminals layout journal) (Returns fun _ => F) := by
  refine triple_keep stable (aside _ trivial) fun (isTime : Bool) => ?_
  split
  · exact triple_keep_last stable (aside _ trivial)
  · exact triple_pure fun _ _ => id

end

end Fdai.Core.HuginnDedup
