import Mathlib.Data.List.Dedup
import Mathlib.Data.List.Flatten
import Mathlib.Data.String.Basic
import Fdai.Agents.LokiReservations

/-!
# Live experiments never overlap

Whatever the replicas do, each record of reservations that is ever stored decodes to itself, its
experiments touch pairwise disjoint targets, and all of them together stay within the cap.

The record is replaced only by what one attempt of a method has decided from the record it read
(`Concurrency/Register`), so it is enough that a decision keeps `Reserved`, the experiments a
record may hold.
-/

namespace Fdai.Core.LokiReservations

open Fdai.Sequences Fdai.Concurrency

/-- A reservation that passes the checks of `_decode`. -/
structure WellFormed (entry : String × ReservationRecord) : Prop where
  experiment_safe : safeIdentifier entry.1 = true
  action_safe : safeIdentifier entry.2.actionType = true
  requested_safe : ∀ target ∈ entry.2.requestedTargets, safeIdentifier target = true
  requested_ne : entry.2.requestedTargets ≠ []
  requested_le : entry.2.requestedTargets.length ≤ maxTargets
  requested_nodup : entry.2.requestedTargets.Nodup
  selected_ne : entry.2.selectedTargets ≠ []
  selected_nodup : entry.2.selectedTargets.Nodup
  selected_requested : ∀ target ∈ entry.2.selectedTargets, target ∈ entry.2.requestedTargets

/-- **The experiments a record may hold** under a cap. -/
structure Reserved (cap : ℕ) (experiments : Experiments) : Prop where
  wellFormed : ∀ entry ∈ experiments.values, WellFormed entry
  disjoint : (allTargets experiments).Nodup
  within : (allTargets experiments).length ≤ cap

theorem reserved_empty (cap : ℕ) : Reserved cap Keyed.empty :=
  ⟨by simp [Keyed.empty], by simp [allTargets, Keyed.empty], by simp [allTargets, Keyed.empty]⟩

variable {cap : ℕ} {experiments : Experiments}

/-- Forgetting experiments. -/
theorem Reserved.filter (reserved : Reserved cap experiments)
    (p : String × ReservationRecord → Bool) : Reserved cap (experiments.filter p) := by
  have fewer : List.Sublist (allTargets (experiments.filter p)) (allTargets experiments) :=
    List.filter_sublist.flatMap _
  constructor
  · intro entry kept
    exact reserved.wellFormed entry (List.mem_of_mem_filter kept)
  · exact reserved.disjoint.sublist fewer
  · exact fewer.length_le.trans reserved.within

variable {entry : String × ReservationRecord}

/-- A new key is put last. -/
theorem values_put_of_fresh (fresh : entry.1 ∉ experiments.values.map Prod.fst) :
    (experiments.put entry).values = experiments.values ++ [entry] := by
  unfold Keyed.put
  rw [dif_neg fresh]

theorem Reserved.put (reserved : Reserved cap experiments) (wellFormed : WellFormed entry)
    (fresh : entry.1 ∉ experiments.values.map Prod.fst)
    (free : ∀ target ∈ entry.2.selectedTargets, target ∉ allTargets experiments)
    (fits : (allTargets experiments).length + entry.2.selectedTargets.length ≤ cap) :
    Reserved cap (experiments.put entry) := by
  have targets : allTargets (experiments.put entry) =
      allTargets experiments ++ entry.2.selectedTargets := by
    simp [allTargets, values_put_of_fresh fresh]
  constructor
  · intro other stored
    rw [values_put_of_fresh fresh, List.mem_append, List.mem_singleton] at stored
    rcases stored with old | rfl
    · exact reserved.wellFormed other old
    · exact wellFormed
  · rw [targets, List.nodup_append]
    refine ⟨reserved.disjoint, wellFormed.selected_nodup, fun taken isTaken target selected => ?_⟩
    rintro rfl
    exact free taken selected isTaken
  · rw [targets, List.length_append]
    exact fits

/-! ## The record and its experiments -/

/-- The experiments in the order in which they are stored. -/
def sorted (experiments : Experiments) : Experiments where
  values := sortedExperiments experiments
  nodup := (((List.mergeSort_perm _ _).map Prod.fst).nodup_iff).2 experiments.nodup

theorem sortedExperiments_sorted (experiments : Experiments) :
    sortedExperiments (sorted experiments) = sortedExperiments experiments := by
  refine List.mergeSort_of_pairwise (List.pairwise_mergeSort ?_ ?_ _)
  · intro a b c first second
    simp only [decide_eq_true_eq] at first second ⊢
    exact le_trans first second
  · intro a b
    simp only [Bool.or_eq_true, decide_eq_true_eq]
    exact le_total a.1 b.1

theorem Reserved.sorted
    (reserved : Reserved cap experiments) : Reserved cap (sorted experiments) := by
  have sameTargets : (allTargets (LokiReservations.sorted experiments)).Perm
      (allTargets experiments) := (List.mergeSort_perm _ _).flatMap_right _
  constructor
  · intro entry stored
    exact reserved.wellFormed entry (List.mem_mergeSort.1 stored)
  · exact sameTargets.nodup_iff.2 reserved.disjoint
  · exact sameTargets.length_eq.trans_le reserved.within

theorem nodup_iff_length_dedup {targets : List String} :
    targets.dedup.length = targets.length ↔ targets.Nodup := by
  constructor
  · intro same
    exact List.dedup_eq_self.1 ((List.dedup_sublist targets).eq_of_length same)
  · intro nodup
    rw [List.dedup_eq_self.2 nodup]

theorem strip_of_safe {value : String} (safe : safeIdentifier value = true) :
    strip value = value := by
  simp only [safeIdentifier, Bool.and_eq_true, decide_eq_true_eq] at safe
  exact safe.1.1.2

/-- Safe targets are read back as they were written. -/
theorem decodeTargets_str {targets : List String}
    (safe : ∀ target ∈ targets, safeIdentifier target = true) :
    decodeTargets (targets.map .str) = targets := by
  induction targets with
  | nil => rfl
  | cons target rest ih =>
    have first := safe target List.mem_cons_self
    have later := ih fun other isLater => safe other (List.mem_cons_of_mem _ isLater)
    unfold decodeTargets at later ⊢
    simp only [List.map_cons, List.filterMap_cons, first, ↓reduceIte, strip_of_safe first, later]

/-- A reservation is read back as it was written. -/
theorem decodeReservation_encode (wellFormed : WellFormed entry) :
    decodeReservation (encodeReservation entry.2) = .ok entry.2 := by
  obtain ⟨id, actionType, requested, selected, reservedAt⟩ := entry
  have selected_safe : ∀ target ∈ selected, safeIdentifier target = true :=
    fun target isSelected => wellFormed.requested_safe target
      (wellFormed.selected_requested target isSelected)
  have requested_read := decodeTargets_str wellFormed.requested_safe
  have selected_read := decodeTargets_str selected_safe
  have action_safe : safeIdentifier actionType = true := wellFormed.action_safe
  have requested_ne : requested ≠ [] := wellFormed.requested_ne
  have selected_ne : selected ≠ [] := wellFormed.selected_ne
  have requested_dedup := nodup_iff_length_dedup.2 wellFormed.requested_nodup
  have selected_dedup := nodup_iff_length_dedup.2 wellFormed.selected_nodup
  have requested_le : requested.length ≤ maxTargets := wellFormed.requested_le
  have subset : ∀ target ∈ selected, target ∈ requested := wellFormed.selected_requested
  dsimp only at requested_read requested_dedup selected_dedup
  have subset_all : selected.all (· ∈ requested) = true := by simpa using subset
  simp [decodeReservation, encodeReservation, requested_read, selected_read, action_safe,
    requested_ne, selected_ne, requested_dedup, selected_dedup, requested_le, subset_all,
    decodeReservedAt]

theorem decodeExperiment_encode (wellFormed : WellFormed entry) :
    decodeExperiment (.str entry.1, .mapping (encodeReservation entry.2)) = .ok entry := by
  simp only [decodeExperiment, wellFormed.experiment_safe, decodeReservation_encode wellFormed]
  rfl

/-- The loop reads the experiments one after the other. -/
theorem decodeExperiments_encode {result : Experiments}
    {entries : List (String × ReservationRecord)}
    (wellFormed : ∀ entry ∈ entries, WellFormed entry)
    (appended : result.values = experiments.values ++ entries) :
    decodeExperiments experiments (Record.ofFields (entries.map fun (experimentId, reservation) =>
      (experimentId, .mapping (encodeReservation reservation)))) = .ok result := by
  induction entries generalizing experiments with
  | nil =>
    rw [List.append_nil] at appended
    rw [Keyed.ext appended]
    rfl
  | cons entry rest ih =>
    have fresh : entry.1 ∉ experiments.values.map Prod.fst := by
      have nodup := result.nodup
      rw [appended, List.map_append, List.map_cons, List.nodup_append] at nodup
      intro stored
      exact nodup.2.2 entry.1 stored entry.1 List.mem_cons_self rfl
    have longer : result.values = (experiments.put entry).values ++ rest := by
      rw [appended, values_put_of_fresh fresh, List.append_assoc, List.singleton_append]
    have next := ih (fun other isLater => wellFormed other (List.mem_cons_of_mem _ isLater)) longer
    rw [List.map_cons, Record.ofFields_cons, decodeExperiments,
      decodeExperiment_encode (wellFormed entry List.mem_cons_self)]
    exact next

/-- **A record decodes to itself.** -/
theorem decode_encode {revision : ℕ}
    (reserved : Reserved cap experiments) (revision_pos : 1 ≤ revision) (cap_pos : 1 ≤ cap) :
    decode (some (encode revision cap experiments)) =
      .ok (revision, some cap, sorted experiments) := by
  have read : decodeExperiments Keyed.empty (Record.ofFields ((sortedExperiments experiments).map
      fun (experimentId, reservation) =>
        (experimentId, .mapping (encodeReservation reservation)))) = .ok (sorted experiments) :=
    decodeExperiments_encode reserved.sorted.wellFormed (List.nil_append _).symm
  have free : occupied (sorted experiments) = .ok (allTargets (sorted experiments)) := by
    unfold occupied
    rw [if_neg (not_not.2 (nodup_iff_length_dedup.2 reserved.sorted.disjoint))]
  simp only [decode, encode, Record.ofFields_cons, Value.get_str_cons]
  simp only [String.reduceEq, ↓reduceIte, positive?_natCast revision_pos,
    positive?_natCast cap_pos, read]
  change (occupied (sorted experiments) >>= fun _ => Except.ok _) = _
  rw [free]
  rfl

/-- The revision that was decoded is the one the store compares. -/
theorem revision_of_decode {record : Record} {revision : ℕ} {cap : Option ℕ}
    (decoded : decode (some record) = .ok (revision, cap, experiments)) :
    record.revision = revision := by
  simp only [decode] at decoded
  split at decoded
  next => cases decoded
  next found =>
    split at decoded
    next => cases decoded
    next =>
      split at decoded
      next =>
        obtain ⟨read, -, decoded⟩ := bind_eq_ok.1 decoded
        obtain ⟨taken, -, decoded⟩ := bind_eq_ok.1 decoded
        obtain ⟨rfl, -⟩ := Prod.mk.inj (Except.ok.inj decoded)
        exact Record.revision_of_positive found
      next => cases decoded

/-! ## What a replica writes -/

/-- A write of one of the methods over a record. -/
inductive Writes (current : Option Record) (value : Record) (entry : Audit) : Prop where
  | reserve {journal : Journal} {experimentId actionType : String} {targets : List String}
      {reservedAt : String} {result : Except LokiError (Option ReservationResult)}
      (valid : validateReservationIdentity experimentId actionType targets = .ok ())
      (decided : reserveDecision journal experimentId actionType targets reservedAt current =
        .write value entry result)
  | release {journal : Journal} {experimentId actionType : String} {targets : List String}
      {result : Except LokiError (Option ReservationResult)}
      (decided : releaseDecision journal experimentId actionType targets current =
        .write value entry result)
  | expireStale {journal : Journal} {cutoff : String}
      {result : Except LokiError (Option ReservationResult)}
      (decided : expireDecision journal cutoff current = .write value entry result)

/-- The experiments that a write stores, by those it has read. -/
inductive Next (experiments : Experiments) (cap : ℕ) : Experiments → Prop where
  | reserve {experimentId actionType : String} {targets : List String} {reservedAt : String}
      (valid : validateReservationIdentity experimentId actionType targets = .ok ())
      (absent : experiments.get experimentId = none)
      (some : sliceTo (targets.filter (· ∉ allTargets experiments))
        (cap - (allTargets experiments).length) ≠ []) :
      Next experiments cap (experiments.put (experimentId, ⟨actionType, targets,
        sliceTo (targets.filter (· ∉ allTargets experiments))
          (cap - (allTargets experiments).length), reservedAt⟩))
  | forget (p : String × ReservationRecord → Bool) : Next experiments cap (experiments.filter p)

theorem cap_of_validateCap {journal : Journal} {storedCap : Option ℕ}
    (valid : validateCap journal storedCap = .ok ()) :
    ∀ cap, storedCap = some cap → cap = journal.cap := by
  rintro cap rfl
  by_contra differs
  simp [validateCap, differs] at valid

theorem eq_allTargets_of_occupied {taken : List String}
    (free : occupied experiments = .ok taken) : taken = allTargets experiments := by
  unfold occupied at free
  dsimp only at free
  split at free
  next => cases free
  next => exact (Except.ok.inj free).symm

/-- **What a write does**: it stores, under the next revision, experiments that follow from those
of the record it has read; the cap of that record, if there is one, is the cap of the journal. -/
theorem Writes.cases {current : Option Record} {value : Record} {entry : Audit}
    (writes : Writes current value entry) :
    ∃ journal : Journal, ∃ revision storedCap experiments next,
      decode current = .ok (revision, storedCap, experiments) ∧
      (∀ cap, storedCap = some cap → cap = journal.cap) ∧
      Next experiments journal.cap next ∧
      value = encode (revision + 1) journal.cap next ∧ entry.journalCap = journal.cap := by
  cases writes with
  | @reserve journal experimentId actionType targets reservedAt result valid decided =>
    obtain ⟨⟨revision, storedCap, experiments⟩, decoded, decided⟩ :=
      bind_eq_ok.1 (Decision.ofExcept_eq_write.1 decided)
    obtain ⟨capValid, decided⟩ := check_bind_eq_ok.1 decided
    split at decided
    next =>
      split at decided
      next => cases decided
      next =>
        obtain ⟨taken, -, decided⟩ := bind_eq_ok.1 decided
        cases decided
    next absent =>
      obtain ⟨taken, free, decided⟩ := bind_eq_ok.1 decided
      obtain rfl := eq_allTargets_of_occupied free
      dsimp only at decided
      split at decided
      next => cases decided
      next some =>
        obtain ⟨rfl, rfl, -⟩ := Decision.write.inj (Except.ok.inj decided)
        exact ⟨journal, revision, storedCap, experiments, _, decoded,
          cap_of_validateCap capValid, .reserve valid absent some, rfl, rfl⟩
  | @release journal experimentId actionType targets result decided =>
    obtain ⟨⟨revision, storedCap, experiments⟩, decoded, decided⟩ :=
      bind_eq_ok.1 (Decision.ofExcept_eq_write.1 decided)
    obtain ⟨capValid, decided⟩ := check_bind_eq_ok.1 decided
    split at decided
    next => cases decided
    next =>
      split at decided
      next => cases decided
      next =>
        obtain ⟨rfl, rfl, -⟩ := Decision.write.inj (Except.ok.inj decided)
        exact ⟨journal, revision, storedCap, experiments, _, decoded,
          cap_of_validateCap capValid, .forget _, rfl, rfl⟩
  | @expireStale journal cutoff result decided =>
    obtain ⟨⟨revision, storedCap, experiments⟩, decoded, decided⟩ :=
      bind_eq_ok.1 (Decision.ofExcept_eq_write.1 decided)
    obtain ⟨capValid, decided⟩ := check_bind_eq_ok.1 decided
    dsimp only at decided
    split at decided
    next =>
      obtain ⟨taken, -, decided⟩ := bind_eq_ok.1 decided
      cases decided
    next =>
      obtain ⟨rfl, rfl, -⟩ := Decision.write.inj (Except.ok.inj decided)
      exact ⟨journal, revision, storedCap, experiments, _, decoded,
        cap_of_validateCap capValid, .forget _, rfl, rfl⟩

/-- A written record has the next revision. -/
theorem writes_later : parts.Later fun _ => Writes := by
  intro _ current value entry writes
  obtain ⟨journal, revision, storedCap, experiments, next, decoded, -, -, rfl, -⟩ := writes.cases
  have before : current.revision = revision := revision_of_decode decoded
  have after : (encode (revision + 1) journal.cap next).revision = revision + 1 :=
    Record.revision_of_positive (by simp [encode, positive?])
  change current.revision < _
  change _ < (encode (revision + 1) journal.cap next).revision
  rw [before, after]
  exact Nat.lt_succ_self revision

/-- **What follows from experiments within a cap** is within it. -/
theorem Reserved.next {next : Experiments}
    (reserved : Reserved cap experiments) (step : Next experiments cap next) :
    Reserved cap next := by
  cases step with
  | forget p => exact reserved.filter p
  | @reserve experimentId actionType targets reservedAt valid absent some =>
    have nonnegative : (0 : ℤ) ≤ cap - (allTargets experiments).length := by
      have within := reserved.within
      omega
    have selected : sliceTo (targets.filter (· ∉ allTargets experiments))
        (cap - (allTargets experiments).length) = (targets.filter (· ∉ allTargets experiments)).take
            (cap - (allTargets experiments).length) := by
      unfold sliceTo
      rw [if_pos nonnegative]
      congr 1
      omega
    rw [selected] at some ⊢
    simp only [validateReservationIdentity, validate_cons_eq_ok, validate_nil, Bool.and_eq_true,
      decide_eq_true_eq, List.all_eq_true, and_true] at valid
    obtain ⟨⟨experiment_safe, action_safe⟩, ⟨nonempty, bounded⟩, safe, distinct⟩ := valid
    have stripped : targets.map strip = targets := by
      conv_rhs => rw [← List.map_id targets]
      exact List.map_congr_left fun target isTarget => strip_of_safe (safe target isTarget)
    rw [stripped, nodup_iff_length_dedup] at distinct
    have part : List.Sublist ((targets.filter (· ∉ allTargets experiments)).take
        (cap - (allTargets experiments).length)) (targets.filter (· ∉ allTargets experiments)) :=
      List.take_sublist _ _
    refine reserved.put ?_ (Keyed.get_eq_none.1 absent) ?_ ?_
    · exact {
        experiment_safe, action_safe
        requested_safe := safe
        requested_ne := List.ne_nil_of_length_pos nonempty
        requested_le := bounded
        requested_nodup := distinct
        selected_ne := some
        selected_nodup := distinct.sublist (part.trans List.filter_sublist)
        selected_requested := fun target isSelected =>
          List.mem_of_mem_filter (part.subset isSelected) }
    · intro target isSelected
      simpa using List.of_mem_filter (part.subset isSelected)
    · have taken := List.length_take_le (cap - (allTargets experiments).length)
        (targets.filter (· ∉ allTargets experiments))
      have within := reserved.within
      dsimp only
      omega

/-! ## Every stored record -/

/-- **A record of reservations under a cap**: it decodes to itself, the targets of its experiments
are pairwise disjoint, and their number is within the cap. -/
structure StoredReservations (cap : ℕ) (record : Record) : Prop where
  decodes : ∃ revision experiments, decode (some record) = .ok (revision, some cap, experiments) ∧
    encode revision cap experiments = record
  disjoint : ∀ revision storedCap experiments,
    decode (some record) = .ok (revision, storedCap, experiments) →
    experiments.values.Pairwise fun a b =>
      a.2.selectedTargets.Disjoint b.2.selectedTargets
  within : ∀ revision storedCap experiments,
    decode (some record) = .ok (revision, storedCap, experiments) →
    (allTargets experiments).length ≤ cap

private def Written (cap : ℕ) (record : Record) : Prop :=
  ∃ revision experiments, 1 ≤ revision ∧ 1 ≤ cap ∧ Reserved cap experiments ∧
    record = encode revision cap experiments

private theorem Written.stored {record : Record} (written : Written cap record) :
    StoredReservations cap record := by
  obtain ⟨revision, experiments, revision_pos, cap_pos, reserved, rfl⟩ := written
  have decoded := decode_encode reserved revision_pos cap_pos
  constructor
  · refine ⟨revision, sorted experiments, decoded, ?_⟩
    unfold encode
    rw [sortedExperiments_sorted]
  · intro revision' storedCap experiments' decoded'
    rw [decoded] at decoded'
    obtain ⟨-, -, rfl⟩ := by simpa using Except.ok.inj decoded'
    exact (List.nodup_flatMap.1 reserved.sorted.disjoint).2
  · intro revision' storedCap experiments' decoded'
    rw [decoded] at decoded'
    obtain ⟨-, -, rfl⟩ := by simpa using Except.ok.inj decoded'
    exact reserved.sorted.within

/-- A write over a record of a cap, or over none. -/
private theorem Writes.written {current : Option Record} {value : Record} {entry : Audit}
    (writes : Writes current value entry)
    (before : ∀ record, current = some record → ∃ cap, Written cap record) :
    Written entry.journalCap value ∧
      ∀ record cap, current = some record → Written cap record → cap = entry.journalCap := by
  obtain ⟨journal, revision, storedCap, experiments, next, decoded, capSame, step, rfl, isCap⟩ :=
    writes.cases
  rw [isCap]
  rcases current with _ | record
  · obtain ⟨rfl, rfl, rfl⟩ := by simpa [decode] using decoded
    refine ⟨⟨0 + 1, next, by omega, journal.cap_pos, (reserved_empty _).next step, rfl⟩, ?_⟩
    intro record cap isRecord
    cases isRecord
  have ofCap : ∀ cap, Written cap record → cap = journal.cap ∧ Reserved cap experiments := by
    rintro cap ⟨revision', experiments', revision_pos, cap_pos, reserved, rfl⟩
    rw [decode_encode reserved revision_pos cap_pos] at decoded
    obtain ⟨rfl, rfl, rfl⟩ := by simpa using Except.ok.inj decoded
    exact ⟨capSame cap rfl, reserved.sorted⟩
  obtain ⟨cap, written⟩ := before record rfl
  obtain ⟨rfl, reserved⟩ := ofCap cap written
  refine ⟨⟨revision + 1, next, by omega, journal.cap_pos, reserved.next step, rfl⟩, ?_⟩
  intro record' cap' isRecord written'
  obtain rfl := Option.some.inj isRecord
  exact (ofCap cap' written').1

/-- The methods of a journal write what `Writes` says. -/
theorem follows (call : LokiCall) :
    Registers.Follows writes_later (fun _ _ _ _ => True) (fun _ => none) call.program := by
  cases call with
  | reserve journal experimentId actionType targets reservedAt =>
    unfold LokiCall.program
    dsimp only
    split
    next => exact Registers.follows_done
    next valid =>
      exact Registers.follows_update _ fun _ _ _ _ decided => .reserve valid decided
  | release journal experimentId actionType targets =>
    unfold LokiCall.program
    dsimp only
    split
    next => exact Registers.follows_done
    next => exact Registers.follows_update _ fun _ _ _ _ decided => .release decided
  | expireStale journal cutoff =>
    exact Registers.follows_update _ fun _ _ _ _ decided => .expireStale decided
  | snapshot journal =>
    refine Registers.follows_update _ fun current value entry result decided => ?_
    obtain ⟨⟨revision, storedCap, experiments⟩, -, decided⟩ :=
      bind_eq_ok.1 (Decision.ofExcept_eq_write.1 decided)
    obtain ⟨-, decided⟩ := check_bind_eq_ok.1 decided
    obtain ⟨taken, -, decided⟩ := bind_eq_ok.1 decided
    cases decided

/-- **Live experiments never overlap.** After any run of any number of replicas, every record that
was ever stored decodes to itself, its experiments have pairwise disjoint targets, and all of them
together stay within the cap, which is one and the same for all replicas that have written. -/
theorem reservations_disjoint (moves : List (Move LokiCall Unit)) : ∃ cap, ∀ record entry,
      (record, entry) ∈ logOf () (lokiReservations.run (Machine.idle { rest := () }) moves).world.log →
      entry.journalCap = cap ∧ StoredReservations cap record := by
  have path := Registers.run_path_always writes_later (fun _ => none)
    (fun _ call => follows call) () moves ()
  have kept : ∃ cap, ∀ record entry, (record, entry) ∈
      logOf () (lokiReservations.run (Machine.idle { rest := () }) moves).world.log →
      entry.journalCap = cap ∧ Written cap record := by
    refine path.induction (fun log => ∃ cap, ∀ record entry, (record, entry) ∈ log →
      entry.journalCap = cap ∧ Written cap record) ⟨1, by simp⟩ ?_
    rintro before value entry - ⟨cap, earlier⟩ writes
    rcases List.eq_nil_or_concat' before with rfl | ⟨front, ⟨record, last⟩, rfl⟩
    · obtain ⟨written, -⟩ := writes.written (by simp)
      refine ⟨entry.journalCap, fun record' entry' isWrite => ?_⟩
      obtain ⟨rfl, rfl⟩ : record' = value ∧ entry' = entry := by simpa using isWrite
      exact ⟨rfl, written⟩
    have isLast := (earlier record last (by simp)).2
    obtain ⟨written, same⟩ := writes.written fun record' isCurrent => by
      obtain rfl : record = record' := by simpa using isCurrent
      exact ⟨cap, isLast⟩
    obtain rfl : cap = entry.journalCap := same record cap (by simp) isLast
    refine ⟨entry.journalCap, fun record' entry' isWrite => ?_⟩
    rcases List.mem_append.1 isWrite with old | new
    · exact earlier record' entry' old
    · obtain ⟨rfl, rfl⟩ : record' = value ∧ entry' = entry := by simpa using new
      exact ⟨rfl, written⟩
  obtain ⟨cap, every⟩ := kept
  refine ⟨cap, fun record entry isWrite => ?_⟩
  obtain ⟨same, written⟩ := every record entry isWrite
  exact ⟨same, written.stored⟩

end Fdai.Core.LokiReservations
