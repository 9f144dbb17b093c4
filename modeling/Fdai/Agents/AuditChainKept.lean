import Fdai.Agents.AuditChain
import Fdai.Concurrency.Sequential
import Fdai.Concurrency.Triple

/-!
# The audit chain is kept

Whatever the adapters over one store do, and in whatever order, the rows are one chain: the row of
every append is in it once, no two rows follow the same one, and each format of the checkpoint has
the same retained window in it.

* `restoreWindow_chainWindow` — following the hashes back from the head of a chain restores its
  window.
* `ChainInv` — the invariant: a checkpoint is the journal of the rows, in one format or the other.
* `AuditStep` — what one call can do; `ChainInv.step` — it keeps the invariant.
* `Known` — a journal that was loaded is the journal of the rows of some time. The revision tells
  whether it is the journal of all of them.
* `chain_kept` — every run keeps the chain.
-/

namespace Fdai.Core.AuditChain

open Fdai.Providers Fdai.Sequences Fdai.Concurrency Program Discipline

/-- A row holds a well-formed entry, and the entry's payload if any. -/
def AuditRecord.Holds (record : AuditRecord) (entry : AuditEntry) : Prop :=
  record.entry = some entry ∧ entry.wellFormed = true ∧
    ∀ payload ∈ record.payload, payloadDigest payload = entry.payloadDigest

/-- The rows hold the entries of a whole chain, each its own. -/
structure Recorded (records : List AuditRecord) (entries : List AuditEntry) : Prop where
  rows : List.Forall₂ AuditRecord.Holds records entries
  whole : WholeChain entries

variable {limit revision : ℕ}

section

variable {record : AuditRecord} {records : List AuditRecord} {entry : AuditEntry}
  {entries : List AuditEntry} {mismatch : String}

theorem decodeRecord_eq_ok : decodeRecord mismatch record = .ok entry ↔ record.Holds entry := by
  unfold decodeRecord
  rw [bind_eq_ok]
  constructor
  · rintro ⟨decoded, isDecoded, checked⟩
    obtain ⟨isEntry, wellFormed⟩ := decodeEntry_eq_ok.1 isDecoded
    split at checked
    · rename_i same
      obtain rfl := Except.ok.inj checked
      refine ⟨isEntry, wellFormed, fun payload isPayload => ?_⟩
      rw [Option.mem_def.1 isPayload] at same
      exact of_decide_eq_true same
    · cases checked
  · rintro ⟨isEntry, wellFormed, same⟩
    refine ⟨entry, decodeEntry_eq_ok.2 ⟨isEntry, wellFormed⟩, if_pos ?_⟩
    cases isPayload : record.payload with
    | none => rfl
    | some payload => exact decide_eq_true (same payload isPayload)

/-- **Rows are decoded** exactly to the entries they hold. -/
theorem decodeRecords_eq_ok : records.mapM (decodeRecord mismatch) = .ok entries ↔
    List.Forall₂ AuditRecord.Holds records entries := by
  simp only [mapM_eq_ok_iff, decodeRecord_eq_ok]

theorem filterMap_of_holds (rows : List.Forall₂ AuditRecord.Holds records entries) :
    records.filterMap AuditRecord.entry = entries := by
  induction rows with
  | nil => rfl
  | cons holds _ ih => rw [List.filterMap_cons_some holds.1, ih]

theorem wellFormed_of_holds (rows : List.Forall₂ AuditRecord.Holds records entries) :
    ∀ entry ∈ entries, entry.wellFormed = true := by
  induction rows with
  | nil => simp
  | cons holds _ ih => exact List.forall_mem_cons.2 ⟨holds.2.1, ih⟩

theorem Recorded.length_eq (recorded : Recorded records entries) :
    records.length = entries.length := recorded.rows.length_eq

/-- One more row. -/
theorem Recorded.concat (recorded : Recorded records entries) (holds : record.Holds entry)
    (whole : WholeChain (entries ++ [entry])) :
    Recorded (records ++ [record]) (entries ++ [entry]) :=
  ⟨List.rel_append recorded.rows (List.Forall₂.cons holds List.Forall₂.nil), whole⟩

/-! ### The window of a chain -/

theorem WholeChain.parents_eq (whole : WholeChain entries) (isEntry : entry ∈ entries) :
    (entries.filter (·.entryHash = entry.entryHash)).take 2 = [entry] := by
  have hashes : (entries.map AuditEntry.entryHash).Nodup :=
    whole.chained.hashes_nodup whole.binds
  have single : entries.filter (·.entryHash = entry.entryHash) = [entry] := by
    have alike : ∀ other ∈ entries.filter (·.entryHash = entry.entryHash), other = entry := by
      intro other isOther
      obtain ⟨isOther, same⟩ := List.mem_filter.1 isOther
      exact List.inj_on_of_nodup_map hashes isOther isEntry (of_decide_eq_true same)
    refine List.eq_replicate_iff.2 ⟨?_, alike⟩ |>.trans List.replicate_one
    have atMost : (entries.filter (·.entryHash = entry.entryHash)).length ≤ 1 := by
      have nodup := (List.Nodup.of_map _ hashes).filter (·.entryHash = entry.entryHash)
      rw [List.eq_replicate_of_mem alike, List.nodup_replicate] at nodup
      exact nodup
    have isThere : entry ∈ entries.filter (·.entryHash = entry.entryHash) :=
      List.mem_filter.2 ⟨isEntry, decide_eq_true rfl⟩
    have positive := List.length_pos_of_mem isThere
    omega
  rw [single]
  rfl

/-- **The window query** finds the end of a chain, in its order, although more rows have come
after it. -/
theorem chainWindow_eq {all : List AuditEntry} (whole : WholeChain all)
    (isPrefix : entries <+: all) (limit : ℕ) :
    chainWindow all (entries.length - limit) entries.length (AuditLink.headOf genesisHash entries) =
      (window limit entries).map fun entry => ⟨some entry, none⟩ := by
  have chained := (whole.of_prefix isPrefix).chained
  have reached := chained.ancestry_eq (fun hash => (all.filter (·.entryHash = hash)).take 2)
    (Nat.sub_le entries.length (entries.length - limit))
    fun entry isEntry => whole.parents_eq (isPrefix.subset isEntry)
  have same : window (entries.length - (entries.length - limit)) entries =
      window limit entries := by
    unfold window
    congr 1
    omega
  unfold chainWindow
  dsimp only
  rw [reached, same, List.take_of_length_le, List.reverse_reverse]
  rw [List.length_reverse, length_window]
  omega

/-- **A compact head restores** the journal of its chain. -/
theorem restoreWindow_chainWindow {all : List AuditEntry} (whole : WholeChain all)
    (isPrefix : entries <+: all) (nonempty : entries ≠ [])
    (fits : (journalOf revision entries).fits = true) :
    restoreWindow (journalWith limit revision entries)
        (chainWindow all (entries.length - auditJournalLimit) entries.length
          (AuditLink.headOf genesisHash entries)) = .ok (journalOf revision entries) := by
  have own := whole.of_prefix isPrefix
  have length := length_window auditJournalLimit entries
  have positive := auditJournalLimit_pos
  have some_entries := List.length_pos_iff.2 nonempty
  rw [chainWindow_eq whole isPrefix]
  unfold restoreWindow
  dsimp only
  rw [journalWith_length, journalWith_headHash, List.length_map, if_neg (by omega)]
  -- headers come without payloads
  have decoded : ((window auditJournalLimit entries).map fun entry =>
      (⟨some entry, none⟩ : AuditRecord)).mapM
        (decodeRecord "compact audit recovery payload digest mismatch") =
      .ok (window auditJournalLimit entries) := by
    rw [decodeRecords_eq_ok, List.forall₂_map_left_iff]
    refine List.forall₂_same.2 fun entry isEntry => ⟨rfl, ?_, fun payload isPayload => ?_⟩
    · exact own.wellFormed entry (mem_window isEntry)
    · cases isPayload
  have baseHash : ((window auditJournalLimit entries).head?.map AuditEntry.prevHash).getD
      genesisHash = AuditLink.headOf genesisHash
        (entries.take (entries.length - auditJournalLimit)) := by
    rw [← own.base_eq]
    cases first : (window auditJournalLimit entries).head? with
    | some _ => rfl
    | none =>
      have empty := congrArg List.length (List.head?_eq_none_iff.1 first)
      rw [List.length_nil] at empty
      omega
  rw [decoded]
  change (if _ ∧ _ ≠ _ then _ else _) = _
  rw [baseHash, if_neg]
  · have verified := verifyEntries_eq_ok.2 ⟨own.chained_window auditJournalLimit,
        fun entry isEntry => own.hashed entry (mem_window isEntry)⟩
    rw [verified]
    change (if _ ≠ _ then _ else _) = _
    have head : AuditLink.headOf (AuditLink.headOf genesisHash
        (entries.take (entries.length - auditJournalLimit))) (window auditJournalLimit entries) =
          AuditLink.headOf genesisHash entries := by
      rw [window, ← Linking.headOf_append, List.take_append_drop]
    rw [if_neg (not_not.2 head)]
    have encoded : (journalOf revision entries).encode false =
        .ok ((journalOf revision entries).stored false) := by
      unfold AuditJournal.encode
      rw [if_neg (by simp), if_neg (Nat.not_lt.2 (of_decide_eq_true fits))]
    change (do let _ ← (journalOf revision entries).encode false; pure _) = _
    rw [encoded]
    rfl
  · rintro ⟨none_before, other⟩
    rw [none_before] at other
    exact other rfl

end

def chainJournal (migrated : ℕ) (entries : List AuditEntry) : AuditJournal :=
  journalOf (1 + (entries.length - migrated)) entries

/-- A journal is stored. -/
def Claimed (w : AuditWorld) : Prop := ∃ stored, w.checkpoint = some (.journal stored)

/-- The value is the journal of the entries, in one format or the other. -/
def Encodes (migrated : ℕ) (entries : List AuditEntry) (value : StoredJournal) : Prop :=
  ∃ compact, (chainJournal migrated entries).encode compact = .ok value

/-- The mirror is of the chain as it was at some time. -/
def MirrorOf (mirror : Mirror) (w : AuditWorld) : Prop :=
  ∃ entries, entries <+: w.entries ∧ WholeChain entries ∧ mirror = (journalOf 0 entries).mirror

/-- **What holds at all times.** -/
structure ChainInv (initial : List AuditRecord) (w : AuditWorld) : Prop where
  /-- Nothing is written before a journal is stored. -/
  unclaimed : ¬ Claimed w → w.rows = initial
  claimed : ∀ stored, w.checkpoint = some (.journal stored) →
    Recorded w.rows w.entries ∧ Encodes initial.length w.entries stored
  /-- Each row since the start is of a program. -/
  grown : ∃ added, w.rows = initial ++ added ∧ added.length = w.log.length
  mirrors : ∀ adapter, MirrorOf (w.mirrors adapter) w
  /-- A program writes one row at most. -/
  once : w.log.Nodup

variable {op : AuditOp}

section

variable {initial : List AuditRecord} {w w' : AuditWorld} {entries : List AuditEntry}
  {value : StoredJournal} {journal : AuditJournal}

theorem encode_eq_ok {compact : Bool} (encoded : journal.encode compact = .ok value) :
    value = journal.stored compact ∧ journal.fits = true := by
  unfold AuditJournal.encode at encoded
  split at encoded
  · cases encoded
  rename_i admitted
  split at encoded
  · cases encoded
  rename_i within
  obtain rfl := Except.ok.inj encoded
  refine ⟨rfl, ?_⟩
  cases compact with
  | true => simpa using admitted
  | false => exact decide_eq_true (Nat.not_lt.1 within)

/-- The revision of a stored journal counts the entries since the migration. -/
theorem Encodes.revision_eq (encodes : Encodes initial.length entries value) :
    value.revision = 1 + (entries.length - initial.length) := by
  obtain ⟨compact, encoded⟩ := encodes
  rw [(encode_eq_ok encoded).1]
  rfl

theorem hasRevision_iff {expected : ℕ} : w.hasRevision expected = true ↔
    ∃ stored, w.checkpoint = some stored ∧ stored.revision = expected := by
  unfold AuditWorld.hasRevision
  cases w.checkpoint <;> simp

theorem Recorded.entries_eq (recorded : Recorded w.rows entries) : w.entries = entries :=
  filterMap_of_holds recorded.rows

namespace ChainInv

variable (inv : ChainInv initial w)
include inv

/-- Rows are only ever added. -/
theorem initial_le (recorded : Recorded w.rows w.entries) : initial.length ≤ w.entries.length := by
  obtain ⟨added, rows, -⟩ := inv.grown
  rw [← recorded.length_eq, rows, List.length_append]
  omega

/-- A stored journal has a revision. -/
theorem hasRevision_zero (matches_zero : w.hasRevision 0 = true) : ¬ Claimed w := by
  rintro ⟨stored, isStored⟩
  obtain ⟨current, isCurrent, zero⟩ := hasRevision_iff.1 matches_zero
  obtain rfl := Option.some.inj (isStored.symm.trans isCurrent)
  have numbered := (inv.claimed stored isStored).2.revision_eq
  have zero : stored.revision = 0 := zero
  omega

end ChainInv

/-! ## Steps -/

/-- A migration may store the value: there is no journal yet, and it is the one of the rows. -/
def Claims (initial : List AuditRecord) (value : StoredJournal) (w : AuditWorld) : Prop :=
  ¬ Claimed w → Recorded w.rows w.entries ∧ Encodes initial.length w.entries value

/-- An append may store the value: it is the journal of the rows with one more. -/
def Extends (initial : List AuditRecord) (value : StoredJournal) (record : AuditRecord)
    (w : AuditWorld) : Prop :=
  Claimed w ∧ ∃ entry, record.Holds entry ∧ WholeChain (w.entries ++ [entry]) ∧
    Encodes initial.length (w.entries ++ [entry]) value

/-- The calls an adapter may make. -/
def AuditPermit (initial : List AuditRecord) (me : ℕ) (w : AuditWorld) : AuditOp → Prop
  | .createCheckpoint value => w.checkpoint = none → Claims initial value w
  | .replaceCheckpoint value expectedRevision => expectedRevision = 0 ∧ Claims initial value w
  | .commit writer value expectedRevision record
  | .commitPair writer value expectedRevision _ _ _ record => writer = me ∧ me ∉ w.log ∧
      (w.hasRevision expectedRevision = true → Extends initial value record w)
  | .install _ mirror => MirrorOf mirror w
  | _ => True

/-- What a permitted call does to the world. -/
inductive AuditStep (initial : List AuditRecord) (me : ℕ) (w : AuditWorld) : AuditWorld → Prop
  | quiet {w' : AuditWorld} (checkpoint : w'.checkpoint = w.checkpoint) (rows : w'.rows = w.rows)
      (mirrors : w'.mirrors = w.mirrors) (log : w'.log = w.log) : AuditStep initial me w w'
  | migrated (value : StoredJournal) (unclaimed : ¬ Claimed w)
      (recorded : Recorded w.rows w.entries) (encodes : Encodes initial.length w.entries value) :
      AuditStep initial me w { w with checkpoint := some (.journal value) }
  | appended (value : StoredJournal) (record : AuditRecord)
      (states : StateStore String fun _ => StateRow) (fresh : me ∉ w.log)
      (extended : Extends initial value record w) :
      AuditStep initial me w { w.appended me value record with states }
  | installed (adapter : ℕ) (mirror : Mirror) (isMirror : MirrorOf mirror w) :
      AuditStep initial me w
        { w with mirrors := fun other => if other = adapter then mirror else w.mirrors other }

variable {me : ℕ}

/-- **What one call can do.** -/
theorem auditStep {a : op.Ans} (inv : ChainInv initial w) (allowed : AuditPermit initial me w op)
    (answered : auditMachine.Answers (fun _ _ => True) w op a w') : AuditStep initial me w w' := by
  obtain ⟨-, o, performed⟩ := answered
  have world : w' = (w.perform o op).2 := (Prod.mk.inj performed).2.symm
  rw [world]
  cases op with
  | queue | deadlinePassed | readCheckpoint | isWindowReader | supportsCompact | writesPairs
  | readWindow | readMirror | writeState => exact .quiet rfl rfl rfl rfl
  | readHistory =>
    unfold AuditWorld.perform
    dsimp only
    split
    · exact .quiet rfl rfl rfl rfl
    · exact .quiet rfl rfl rfl rfl
  | createCheckpoint value =>
    unfold AuditWorld.perform
    dsimp only
    split
    · exact .quiet rfl rfl rfl rfl
    rename_i absent
    have unclaimed : ¬ Claimed w := by
      rintro ⟨stored, isStored⟩
      rw [absent] at isStored
      cases isStored
    obtain ⟨recorded, encodes⟩ := allowed absent unclaimed
    exact .migrated value unclaimed recorded encodes
  | replaceCheckpoint value expected =>
    unfold AuditWorld.perform
    dsimp only
    split
    · rename_i current
      obtain ⟨rfl, claims⟩ := allowed
      have unclaimed := inv.hasRevision_zero current
      obtain ⟨recorded, encodes⟩ := claims unclaimed
      exact .migrated value unclaimed recorded encodes
    · exact .quiet rfl rfl rfl rfl
  | commit writer value expected record =>
    unfold AuditWorld.perform
    dsimp only
    split
    · rename_i current
      obtain ⟨rfl, fresh, extended⟩ := allowed
      exact .appended value record w.states fresh (extended current)
    · exact .quiet rfl rfl rfl rfl
  | commitPair writer value expected stateKey stateValue expectedState record =>
    unfold AuditWorld.perform
    dsimp only
    split
    · rename_i current
      obtain ⟨rfl, fresh, extended⟩ := allowed
      exact .appended value record _ fresh (extended current.1)
    · exact .quiet rfl rfl rfl rfl
  | install adapter mirror => exact .installed adapter mirror allowed

theorem AuditStep.grows (step : AuditStep initial me w w') :
    w.entries <+: w'.entries ∧ w.log <+: w'.log := by
  cases step with
  | quiet _ rows _ log =>
    unfold AuditWorld.entries
    rw [rows, log]
    exact ⟨List.prefix_refl _, List.prefix_refl _⟩
  | migrated | installed => exact ⟨List.prefix_refl _, List.prefix_refl _⟩
  | appended value record =>
    refine ⟨?_, List.prefix_append _ _⟩
    change w.entries <+: (w.rows ++ [record]).filterMap AuditRecord.entry
    rw [List.filterMap_append]
    exact List.prefix_append _ _

theorem MirrorOf.grow {mirror : Mirror} (isMirror : MirrorOf mirror w)
    (grows : w.entries <+: w'.entries) : MirrorOf mirror w' := by
  obtain ⟨entries, isPrefix, whole, same⟩ := isMirror
  exact ⟨entries, isPrefix.trans grows, whole, same⟩

/-- A stored journal stays one. -/
theorem AuditStep.claimed (step : AuditStep initial me w w') (claimed : Claimed w) :
    Claimed w' := by
  cases step with
  | quiet checkpoint =>
    obtain ⟨stored, isStored⟩ := claimed
    exact ⟨stored, checkpoint.trans isStored⟩
  | migrated value | appended value => exact ⟨value, rfl⟩
  | installed => exact claimed

/-- **The invariant is kept.** -/
theorem ChainInv.step (inv : ChainInv initial w) (step : AuditStep initial me w w') :
    ChainInv initial w' := by
  have mirrors (adapter : ℕ) : MirrorOf (w.mirrors adapter) w' :=
    (inv.mirrors adapter).grow step.grows.1
  cases step with
  | quiet checkpoint rows mirrored log =>
    refine ⟨fun unclaimed => ?_, fun stored isStored => ?_, ?_, fun adapter => ?_, ?_⟩
    · rw [rows]
      refine inv.unclaimed fun ⟨stored, isStored⟩ => ?_
      exact unclaimed ⟨stored, checkpoint.trans isStored⟩
    · unfold AuditWorld.entries
      rw [rows]
      exact inv.claimed stored (checkpoint.symm.trans isStored)
    · rw [rows, log]
      exact inv.grown
    · rw [mirrored]
      exact mirrors adapter
    · rw [log]
      exact inv.once
  | migrated value _ recorded encodes =>
    refine ⟨fun unclaimed => absurd ⟨value, rfl⟩ unclaimed, fun stored isStored => ?_,
      inv.grown, mirrors, inv.once⟩
    obtain rfl := Checkpoint.journal.inj (Option.some.inj isStored)
    exact ⟨recorded, encodes⟩
  | appended value record states fresh extended =>
    obtain ⟨⟨stored, isStored⟩, entry, holds, whole, encodes⟩ := extended
    have recorded := (inv.claimed stored isStored).1.concat holds whole
    have entries : AuditWorld.entries { w.appended me value record with states } =
        w.entries ++ [entry] := filterMap_of_holds recorded.rows
    refine ⟨fun unclaimed => absurd ⟨value, rfl⟩ unclaimed, fun stored isStored => ?_, ?_,
      mirrors, ?_⟩
    · obtain rfl := Checkpoint.journal.inj (Option.some.inj isStored)
      rw [entries]
      exact ⟨recorded, encodes⟩
    · obtain ⟨added, rows, length⟩ := inv.grown
      refine ⟨added ++ [record], ?_, ?_⟩
      · change w.rows ++ [record] = _
        rw [rows, List.append_assoc]
      · change _ = (w.log ++ [me]).length
        rw [List.length_append, List.length_append, length]
        rfl
    · change (w.log ++ [me]).Nodup
      rw [List.nodup_append]
      refine ⟨inv.once, List.nodup_singleton _, fun writer isWriter other isOther => ?_⟩
      rw [List.mem_singleton.1 isOther]
      rintro rfl
      exact fresh isWriter
  | installed adapter mirror isMirror =>
    refine ⟨inv.unclaimed, inv.claimed, inv.grown, fun other => ?_, inv.once⟩
    change MirrorOf (if other = adapter then mirror else w.mirrors other) _
    split
    · exact isMirror
    · exact mirrors other

end

/-- Adapters over one store, as replicas that keep to `AuditPermit`. -/
def auditDiscipline (initial : List AuditRecord) : Discipline AuditOp AuditOp.Ans AuditWorld where
  permit := AuditPermit initial
  answers := auditMachine.Answers fun _ _ => True
  inv := ChainInv initial
  kept allowed answered inv := inv.step (auditStep inv allowed answered)

/-- **A loaded journal** has the last entries of the chain as it was at some time. -/
def Known (initial : List AuditRecord) (limit : ℕ) (journal : AuditJournal) (w : AuditWorld) :
    Prop :=
  Claimed w ∧ ∃ entries, entries <+: w.entries ∧ WholeChain entries ∧
    initial.length ≤ entries.length ∧ (chainJournal initial.length entries).fits = true ∧
    journal = journalWith limit (1 + (entries.length - initial.length)) entries

/-- The journal has the retained window. -/
def Loaded (initial : List AuditRecord) (journal : AuditJournal) : AuditWorld → Prop :=
  Known initial auditJournalLimit journal

/-- The entry is in the chain, in a row of the writer. -/
def Landed (initial : List AuditRecord) (writer : ℕ) (entry : AuditEntry) (w : AuditWorld) : Prop :=
  ∃ i : ℕ, w.log[i]? = some writer ∧ w.entries[initial.length + i]? = some entry

section

variable {initial : List AuditRecord} {me : ℕ} {w : AuditWorld} {entries : List AuditEntry}
  {journal : AuditJournal}

theorem stable_known (limit : ℕ) (journal : AuditJournal) :
    (auditDiscipline initial).Stable (Known initial limit journal) := by
  rintro _ _ _ _ _ inv allowed answered ⟨claimed, entries, isPrefix, known⟩
  have step := auditStep inv allowed answered
  exact ⟨step.claimed claimed, entries, isPrefix.trans step.grows.1, known⟩

theorem stable_mirrorOf (mirror : Mirror) : (auditDiscipline initial).Stable (MirrorOf mirror) :=
  fun _ _ _ _ _ inv allowed answered isMirror =>
    isMirror.grow (auditStep inv allowed answered).grows.1

/-- An entry of a list is one of a longer list. -/
theorem getElem?_of_prefix {α : Type} {l l' : List α} {i : ℕ} {x : α}
    (isPrefix : l <+: l') (found : l[i]? = some x) : l'[i]? = some x := by
  obtain ⟨rest, rfl⟩ := isPrefix
  rw [List.getElem?_append_left (List.getElem?_eq_some_iff.1 found).1]
  exact found

theorem stable_landed (writer : ℕ) (entry : AuditEntry) :
    (auditDiscipline initial).Stable (Landed initial writer entry) := by
  rintro _ _ _ _ _ inv allowed answered ⟨i, isWriter, isEntry⟩
  obtain ⟨entries, log⟩ := (auditStep inv allowed answered).grows
  exact ⟨i, getElem?_of_prefix log isWriter, getElem?_of_prefix entries isEntry⟩

/-- The others do not write in one's name. -/
theorem around_fresh : (auditDiscipline initial).StableAround me fun w => me ∉ w.log := by
  intro other w op a w' apart inv allowed answered fresh
  cases auditStep inv allowed answered with
  | quiet _ _ _ log =>
    rw [log]
    exact fresh
  | migrated | installed => exact fresh
  | appended value record =>
    change me ∉ w.log ++ [other]
    rw [List.mem_append, List.mem_singleton]
    rintro (isWriter | same)
    · exact fresh isWriter
    · exact apart same.symm

theorem ChainInv.known (inv : ChainInv initial w) {stored : StoredJournal}
    (isStored : w.checkpoint = some (.journal stored)) :
    ∃ journal, decodeJournal stored = .ok journal ∧
      Known initial (formatLimit stored.compact) journal w := by
  obtain ⟨recorded, compact, encoded⟩ := inv.claimed stored isStored
  obtain ⟨same, fits⟩ := encode_eq_ok encoded
  have isCompact : stored.compact = compact := by
    rw [same]
    rfl
  rw [isCompact, same]
  refine ⟨_, decode_stored recorded.whole (by omega) compact, ⟨stored, isStored⟩, w.entries,
    List.prefix_refl _, recorded.whole, inv.initial_le recorded, fits, rfl⟩

/-! ### Loading -/

variable {F : AuditWorld → Prop}

theorem triple_orRaise {α β : Type} {value : Except AuditError β}
    {f : β → Auditing α} {goal : α → AuditWorld → Prop}
    (next : ∀ b, value = .ok b → (auditDiscipline initial).Triple me F (f b) (Returns goal)) :
    (auditDiscipline initial).Triple me F (orRaise value >>= f) (Returns goal) := by
  cases value with
  | error e => exact triple_raise fun _ _ _ => trivial
  | ok b => exact next b rfl

theorem triple_orRaise_last {β : Type} {value : Except AuditError β}
    {goal : β → AuditWorld → Prop} (met : ∀ b w, value = .ok b → F w → goal b w) :
    (auditDiscipline initial).Triple me F (orRaise value) (Returns goal) := by
  rw [← Program.bind_pure (orRaise value)]
  exact triple_orRaise fun b isValue => triple_pure fun w _ known => met b w isValue known

/-- A window that has all entries is any longer one. -/
theorem journalWith_eq (bounded : limit ≤ auditJournalLimit)
    (complete : limit = auditJournalLimit ∨ entries.length ≤ limit) :
    journalWith limit revision entries = journalOf revision entries := by
  rcases complete with rfl | few
  · rfl
  unfold journalOf journalWith
  rw [window_of_le few, window_of_le (few.trans bounded), Nat.sub_eq_zero_of_le few,
    Nat.sub_eq_zero_of_le (few.trans bounded)]

/-- What `load_journal` has of a journal: some of its window, or all of it. -/
def LoadedAs (initial : List AuditRecord) (withWindow : Bool) (journal : AuditJournal)
    (w : AuditWorld) : Prop :=
  ∃ limit, 0 < limit ∧ limit ≤ auditJournalLimit ∧
    (withWindow = true → limit = auditJournalLimit) ∧ Known initial limit journal w

variable {withWindow : Bool}

theorem Loaded.as (loaded : Loaded initial journal w) : LoadedAs initial withWindow journal w :=
  ⟨auditJournalLimit, auditJournalLimit_pos, le_rfl, fun _ => rfl, loaded⟩

/-- **The window** of a journal is read back from the rows, which may be more by then. -/
theorem triple_loadWindow :
    (auditDiscipline initial).Triple me (Known initial limit journal) (loadWindow journal)
      (Returns (Loaded initial)) := by
  unfold loadWindow
  have stable : (auditDiscipline initial).Stable (Known initial limit journal) := stable_known _ _
  refine triple_keep stable (fun _ _ _ => trivial) fun (isReader : Bool) => ?_
  split
  · exact triple_throw
  split
  · rename_i empty
    refine triple_pure fun w _ known => ?_
    obtain ⟨claimed, entries, isPrefix, whole, within, fits, rfl⟩ := known
    rw [journalWith_length] at empty
    obtain rfl := List.eq_nil_of_length_eq_zero empty
    refine ⟨claimed, [], isPrefix, whole, within, fits, ?_⟩
    simp [journalWith, window]
  · rename_i nonempty
    refine triple_call stable (fun _ _ _ => trivial)
      (fun records w => ∃ restored, restoreWindow journal records = .ok restored ∧
        Loaded initial restored w) ?_
      fun (records : List AuditRecord) => ?_
    · rintro w records w' inv ⟨claimed, entries, isPrefix, whole, within, fits, rfl⟩
        ⟨-, o, performed⟩ -
      obtain ⟨rfl, rfl⟩ := Prod.mk.inj performed
      have claimed' := claimed
      obtain ⟨stored, isStored⟩ := claimed'
      have all := (inv.claimed stored isStored).1.whole
      rw [journalWith_length] at nonempty
      rw [journalWith_length, journalWith_headHash]
      exact ⟨_, restoreWindow_chainWindow all isPrefix
        (fun empty => nonempty (by rw [empty]; rfl)) fits, claimed, entries, isPrefix, whole,
        within, fits, rfl⟩
    · refine triple_orRaise_last fun restored w isRestored known => ?_
      obtain ⟨other, isOther, loaded⟩ := known
      obtain rfl := Except.ok.inj (isRestored.symm.trans isOther)
      exact loaded

theorem triple_loadStored {stored : StoredJournal} : (auditDiscipline initial).Triple me
      (fun w => ∃ journal, decodeJournal stored = .ok journal ∧
        Known initial (formatLimit stored.compact) journal w)
      (loadStored withWindow stored) (Returns (LoadedAs initial withWindow)) := by
  unfold loadStored
  refine triple_orRaise fun journal decoded => ?_
  refine Triple.pre (F := Known initial (formatLimit stored.compact) journal) ?_ ?_
  · have stable : (auditDiscipline initial).Stable
        (Known initial (formatLimit stored.compact) journal) := stable_known _ _
    split
    · rename_i full
      refine triple_pure fun w _ known => ?_
      have limit : formatLimit stored.compact = auditJournalLimit := if_neg full
      rw [limit] at known
      exact Loaded.as known
    refine triple_keep stable (fun _ _ _ => trivial) fun (isReader : Bool) => ?_
    split
    · exact triple_throw
    refine triple_keep stable (fun _ _ _ => trivial) fun (supported : Bool) => ?_
    split
    · exact triple_throw
    split
    · exact triple_loadWindow.mono (fun _ _ known => known) fun r _ _ loaded => by
        cases r with
        | error _ => trivial
        | ok _ => exact Loaded.as loaded
    rename_i headOnly
    exact triple_pure fun w _ known =>
      ⟨_, formatLimit_pos _, formatLimit_le _, fun windowed => absurd windowed headOnly, known⟩
  · rintro w - ⟨other, isOther, known⟩
    obtain rfl := Except.ok.inj (decoded.symm.trans isOther)
    exact known

/-- A complete history is the rows that there were at the start, if no journal is stored. -/
def HistoryAt (initial : List AuditRecord) (history : Option (List AuditRecord × Bool))
    (w : AuditWorld) : Prop :=
  Claimed w ∨ ∀ records, history = some (records, false) →
    records = initial ∧ initial.length ≤ auditJournalLimit

theorem stable_historyAt (history : Option (List AuditRecord × Bool)) :
    (auditDiscipline initial).Stable (HistoryAt initial history) := by
  rintro _ _ _ _ _ inv allowed answered (claimed | complete)
  · exact .inl ((auditStep inv allowed answered).claimed claimed)
  · exact .inr complete

/-- What a migration starts from. -/
theorem migratedJournal_eq_ok {stored : Option Checkpoint}
    {history : Option (List AuditRecord × Bool)}
    (migrated : migratedJournal stored history = .ok journal) :
    ∃ records restored, history = some (records, false) ∧ Recorded records restored ∧
      journal = ⟨1, 0, genesisHash, restored⟩ := by
  unfold migratedJournal at migrated
  split at migrated
  · cases migrated
  rename_i records truncated
  split at migrated
  · cases migrated
  rename_i complete
  obtain ⟨restored, decoded, migrated⟩ := bind_eq_ok.1 migrated
  obtain ⟨verified, migrated⟩ := check_bind_eq_ok.1 migrated
  have rows := decodeRecords_eq_ok.1 decoded
  obtain ⟨chained, hashed⟩ := verifyEntries_eq_ok.1 verified
  split at migrated
  · cases migrated
  rw [Bool.not_eq_true] at complete
  exact ⟨records, restored, by rw [complete],
    ⟨rows, chained, hashed, wellFormed_of_holds rows⟩, (Except.ok.inj migrated).symm⟩

/-- **A migration** stores the journal of the rows, if nothing was stored before it. -/
theorem triple_storeMigrated {stored : Option Checkpoint}
    {history : Option (List AuditRecord × Bool)} {value : StoredJournal}
    (migrated : migratedJournal stored history = .ok journal)
    (encoded : journal.encode false = .ok value) :
    (auditDiscipline initial).Triple me (HistoryAt initial history) (storeMigrated value stored)
      (Returns fun created w => created = true → Loaded initial journal w) := by
  obtain ⟨records, restored, isHistory, recorded, rfl⟩ := migratedJournal_eq_ok migrated
  -- without a journal the history is of all the rows
  have complete {w : AuditWorld} (inv : ChainInv initial w) (known : HistoryAt initial history w)
      (unclaimed : ¬ Claimed w) : Recorded w.rows restored ∧ w.entries = restored ∧
        restored.length = initial.length ∧
        (⟨1, 0, genesisHash, restored⟩ : AuditJournal) = chainJournal initial.length restored := by
    rcases known with claimed | complete
    · exact absurd claimed unclaimed
    obtain ⟨rfl, few⟩ := complete records isHistory
    have length := recorded.length_eq
    rw [← inv.unclaimed unclaimed] at recorded
    refine ⟨recorded, recorded.entries_eq, length.symm, ?_⟩
    have single : restored.length ≤ auditJournalLimit := by omega
    unfold chainJournal journalOf journalWith
    rw [length, Nat.sub_self, Nat.sub_eq_zero_of_le single, window_of_le single]
    rfl
  have claims {w : AuditWorld} (inv : ChainInv initial w) (known : HistoryAt initial history w) :
      Claims initial value w := by
    intro unclaimed
    obtain ⟨rows, same, -, journal⟩ := complete inv known unclaimed
    rw [same]
    rw [journal] at encoded
    exact ⟨rows, false, encoded⟩
  have loaded {w w' : AuditWorld} (inv : ChainInv initial w) (known : HistoryAt initial history w)
      (unclaimed : ¬ Claimed w)
      (same : w' = { w with checkpoint := some (.journal value) }) :
      Loaded initial ⟨1, 0, genesisHash, restored⟩ w' := by
    obtain ⟨rows, entries, length, journal⟩ := complete inv known unclaimed
    subst same
    rw [journal] at encoded ⊢
    exact ⟨⟨value, rfl⟩, restored, entries ▸ List.prefix_refl _, recorded.whole,
      length.ge, (encode_eq_ok encoded).2, rfl⟩
  unfold storeMigrated
  have stable : (auditDiscipline initial).Stable (HistoryAt initial history) :=
    stable_historyAt history
  cases stored with
  | none =>
    rw [← Program.bind_pure (ask _)]
    refine triple_call stable (fun w inv known _ => claims inv known)
      (fun (created : Bool) w => created = true → Loaded initial ⟨1, 0, genesisHash, restored⟩ w) ?_
      fun created => triple_pure fun _ _ known => known
    rintro w created w' inv known ⟨-, o, performed⟩ - isCreated
    have world : (w.perform o (.createCheckpoint value)) = (created, w') := performed
    unfold AuditWorld.perform at world
    dsimp only at world
    split at world
    · obtain ⟨rfl, -⟩ := Prod.mk.inj world
      cases isCreated
    rename_i absent
    refine loaded inv known ?_ (Prod.mk.inj world).2.symm
    rintro ⟨stored, isStored⟩
    rw [absent] at isStored
    cases isStored
  | some stored =>
    rw [← Program.bind_pure (ask _)]
    refine triple_call stable (fun w inv known => ⟨rfl, claims inv known⟩)
      (fun (created : Bool) w => created = true → Loaded initial ⟨1, 0, genesisHash, restored⟩ w) ?_
      fun created => triple_pure fun _ _ known => known
    rintro w created w' inv known ⟨-, o, performed⟩ - isCreated
    have world : (w.perform o (.replaceCheckpoint value 0)) = (created, w') := performed
    unfold AuditWorld.perform at world
    dsimp only at world
    split at world
    · rename_i current
      exact loaded inv known (inv.hasRevision_zero current) (Prod.mk.inj world).2.symm
    · obtain ⟨rfl, -⟩ := Prod.mk.inj world
      cases isCreated

theorem triple_migrate (stored : Option Checkpoint) :
    (auditDiscipline initial).Triple me (fun _ => True) (migrate stored)
      (Returns fun found w => ∀ journal ∈ found, LoadedAs initial withWindow journal w) := by
  unfold migrate
  refine triple_call stable_true (fun _ _ _ => trivial) (HistoryAt initial) ?_
    fun (history : Option (List AuditRecord × Bool)) => ?_
  · rintro w history w' inv - ⟨-, o, performed⟩ -
    have world : (w.perform o .readHistory) = (history, w') := performed
    unfold AuditWorld.perform at world
    dsimp only at world
    split at world
    · obtain ⟨rfl, rfl⟩ := Prod.mk.inj world
      by_cases claimed : Claimed w
      · exact .inl claimed
      refine .inr fun records isRecords => ?_
      obtain ⟨rfl, complete⟩ := Prod.mk.inj (Option.some.inj isRecords)
      rw [inv.unclaimed claimed] at complete ⊢
      rw [Bool.or_eq_false_iff, decide_eq_false_iff_not, Nat.not_lt] at complete
      exact ⟨List.take_of_length_le complete.2, complete.2⟩
    · obtain ⟨rfl, rfl⟩ := Prod.mk.inj world
      exact .inr fun records isRecords => by cases isRecords
  · refine triple_orRaise fun journal migrated => ?_
    refine triple_orRaise fun value encoded => ?_
    refine triple_seq _ (triple_storeMigrated migrated encoded) fun created => ?_
    refine triple_pure fun w _ known other isOther => ?_
    rcases created with _ | _
    · cases isOther
    obtain rfl := Option.some.inj isOther
    exact Loaded.as (known rfl)

/-- **`load_journal`** returns a journal of the rows. -/
theorem triple_loadJournal (withWindow : Bool) :
    (auditDiscipline initial).Triple me (fun _ => True) (loadJournal withWindow)
      (Returns fun found w => ∀ journal ∈ found, LoadedAs initial withWindow journal w) := by
  unfold loadJournal
  -- a journal that is stored is known as long as the rows are
  refine triple_call stable_true (fun _ _ _ => trivial)
    (fun (stored : Option Checkpoint) w => ∀ value, stored = some (.journal value) →
      ∃ journal, decodeJournal value = .ok journal ∧
        Known initial (formatLimit value.compact) journal w) ?_
    fun (stored : Option Checkpoint) => ?_
  · rintro w stored w' inv - ⟨-, o, performed⟩ - value isValue
    obtain ⟨rfl, rfl⟩ := Prod.mk.inj performed
    exact inv.known isValue
  · split
    · rename_i value
      refine triple_map (triple_loadStored.mono (fun w _ known => known value rfl)
        fun r w _ loaded => ?_)
      rcases r with _ | journal
      · trivial
      rintro other isOther
      obtain rfl := Option.some.inj isOther
      exact loaded
    · exact (triple_migrate _).pre fun _ _ _ => trivial

/-- **The journal of an append** has the retained window, from the checkpoint, from the mirror
or from the rows. -/
theorem triple_loadAppendJournal (adapter : ℕ) :
    (auditDiscipline initial).Triple me (fun _ => True) (loadAppendJournal adapter)
      (Returns fun found w => ∀ journal ∈ found, Loaded initial journal w) := by
  unfold loadAppendJournal
  refine triple_seq _ (triple_loadJournal false) fun found => ?_
  rcases found with _ | journal
  · exact triple_pure fun _ _ _ journal isJournal => by cases isJournal
  refine Triple.pre (F := LoadedAs initial false journal) ?_ fun w _ known => known journal rfl
  refine triple_exists fun limit => ?_
  refine triple_of_fact fun _ => triple_of_fact fun bounded => triple_of_fact fun _ => ?_
  dsimp only
  have stable : (auditDiscipline initial).Stable (Known initial limit journal) := stable_known _ _
  split
  · rename_i complete
    refine triple_pure fun w _ known other isOther => ?_
    obtain rfl := Option.some.inj isOther
    obtain ⟨claimed, entries, isPrefix, whole, within, fits, rfl⟩ := known
    rw [journalWith_length] at complete
    have length : (window limit entries).length = min entries.length auditJournalLimit :=
      complete
    rw [length_window] at length
    exact ⟨claimed, entries, isPrefix, whole, within, fits, journalWith_eq bounded (by omega)⟩
  · refine triple_call stable (fun _ _ _ => trivial)
      (fun mirror w => Known initial limit journal w ∧ MirrorOf mirror w) ?_
      fun (mirror : Mirror) => ?_
    · rintro w mirror w' inv known ⟨-, o, performed⟩ -
      obtain ⟨rfl, rfl⟩ := Prod.mk.inj performed
      exact ⟨known, inv.mirrors adapter⟩
    · split
      · rename_i isSealed
        refine triple_map (triple_orRaise_last fun restored w isRestored known => ?_)
        rintro other isOther
        obtain rfl := Option.some.inj isOther
        obtain ⟨⟨claimed, entries, isPrefix, whole, within, fits, rfl⟩, mirrored, isPrefix',
          -, rfl⟩ := known
        -- two chains of one length that lead to the same rows are the same
        have lengths : mirrored.length = entries.length := by
          have length := isSealed.1
          rw [journalWith_length] at length
          exact journalWith_length.symm.trans length
        have same : mirrored = entries :=
          (List.prefix_of_prefix_length_le isPrefix' isPrefix lengths.le).eq_of_length lengths
        subst same
        obtain ⟨-, isRestored⟩ := check_bind_eq_ok.1 isRestored
        obtain rfl := Except.ok.inj isRestored
        exact ⟨claimed, mirrored, isPrefix, whole, within, fits, rfl⟩
      · refine (triple_loadJournal true).mono (fun _ _ _ => trivial) fun r w _ loaded => ?_
        rcases r with _ | found
        · trivial
        intro other isOther
        obtain ⟨limit, -, -, isFull, known⟩ := loaded other isOther
        obtain rfl := isFull rfl
        exact known

/-! ### Appending -/

/-- Calls that write no row. -/
def Rowless : AuditOp → Prop
  | .commit _ _ _ _ | .commitPair _ _ _ _ _ _ _ => False
  | _ => True

variable {w' : AuditWorld}

/-- A call that writes no row leaves the log as it is. -/
theorem log_of_rowless {a : op.Ans} (rowless : Rowless op)
    (answered : (auditDiscipline initial).answers w op a w') : w'.log = w.log := by
  obtain ⟨-, o, performed⟩ := answered
  have world : w' = (w.perform o op).2 := (Prod.mk.inj performed).2.symm
  rw [world]
  cases op with
  | commit | commitPair => exact rowless.elim
  | queue | deadlinePassed | readCheckpoint | isWindowReader | supportsCompact | writesPairs
  | readWindow | readMirror | writeState | install => rfl
  | readHistory | createCheckpoint | replaceCheckpoint =>
    unfold AuditWorld.perform
    dsimp only
    split
    · rfl
    · rfl

/-- A result, and no row of the program so far. -/
def Rowlessly {α : Type} (me : ℕ) (known : α → AuditWorld → Prop) :
    Except AuditError α → AuditWorld → Prop
  | .ok a, w => known a w ∧ me ∉ w.log
  | .error _, w => me ∉ w.log

/-- **A program that writes no row** has none. -/
theorem rowlessly {α : Type} {p : Auditing α} {known : α → AuditWorld → Prop}
    (triple : (auditDiscipline initial).Triple me F p (Returns known)) (only : Only Rowless p) :
    (auditDiscipline initial).Triple me (fun w => F w ∧ me ∉ w.log) p (Rowlessly me known) := by
  refine (triple.frame_only only around_fresh fun op w a w' rowless answered fresh => ?_).mono
    (fun _ _ known => known) fun r w _ known => ?_
  · rw [log_of_rowless rowless answered]
    exact fresh
  · cases r with
    | ok _ => exact known
    | error _ => exact known.2

theorem only_orRaise {α : Type} (value : Except AuditError α) : Only Rowless (orRaise value) := by
  cases value with
  | ok a => exact only_pure
  | error e => exact only_raise

theorem only_ask (rowless : Rowless op) : Only Rowless (ask op) :=
  only_invoke rowless

theorem only_loadJournal (withWindow : Bool) : Only Rowless (loadJournal withWindow) := by
  have window (journal : AuditJournal) : Only Rowless (loadWindow journal) := by
    refine only_bind (only_ask trivial) fun (isReader : Bool) => ?_
    split
    · exact only_raise
    split
    · exact only_pure
    · exact only_bind (only_ask trivial) fun _ => only_orRaise _
  refine only_bind (only_ask trivial) fun (stored : Option Checkpoint) => ?_
  split
  · refine only_map (only_bind (only_orRaise _) fun journal => ?_)
    split
    · exact only_pure
    refine only_bind (only_ask trivial) fun (isReader : Bool) => ?_
    split
    · exact only_raise
    refine only_bind (only_ask trivial) fun (supported : Bool) => ?_
    split
    · exact only_raise
    split
    · exact window journal
    · exact only_pure
  · refine only_bind (only_ask trivial) fun (history : Option (List AuditRecord × Bool)) => ?_
    refine only_bind (only_orRaise _) fun journal => only_bind (only_orRaise _) fun value => ?_
    refine only_bind ?_ fun _ => only_pure
    cases stored with
    | none | some _ => exact only_ask trivial

theorem only_loadAppendJournal (adapter : ℕ) : Only Rowless (loadAppendJournal adapter) := by
  refine only_bind (only_loadJournal false) fun found => ?_
  rcases found with _ | journal
  · exact only_pure
  dsimp only
  split
  · exact only_pure
  refine only_bind (only_ask trivial) fun (mirror : Mirror) => ?_
  split
  · exact only_map (only_orRaise _)
  · exact only_loadJournal true

/-- **The revision tells** whether a loaded journal is the journal of all the rows. -/
theorem Loaded.current (inv : ChainInv initial w) (loaded : Loaded initial journal w)
    (current : w.hasRevision journal.revision = true) :
    Recorded w.rows w.entries ∧ initial.length ≤ w.entries.length ∧
      journal = chainJournal initial.length w.entries := by
  obtain ⟨⟨stored, isStored⟩, entries, isPrefix, -, within, -, rfl⟩ := loaded
  obtain ⟨recorded, encodes⟩ := inv.claimed stored isStored
  obtain ⟨other, isOther, revision⟩ := hasRevision_iff.1 current
  obtain rfl := Option.some.inj (isStored.symm.trans isOther)
  have revision : stored.revision = 1 + (entries.length - initial.length) := revision
  rw [encodes.revision_eq] at revision
  have all := inv.initial_le recorded
  have same : entries = w.entries := isPrefix.eq_of_length (by omega)
  subst same
  exact ⟨recorded, all, rfl⟩

theorem chainJournal_advanced (whole : WholeChain entries) (within : initial.length ≤ entries.length)
    {entry : AuditEntry} : (chainJournal initial.length entries).advanced entry =
      chainJournal initial.length (entries ++ [entry]) := by
  unfold chainJournal
  rw [journalOf_advanced whole, List.length_append, List.length_singleton]
  congr 1
  omega

theorem whole_nextEntry (whole : WholeChain entries) (principal topic correlationId : String)
    (payload : String) : WholeChain (entries ++ [(chainJournal initial.length entries).nextEntry
      principal topic correlationId (payloadDigest payload)]) :=
  whole.concat journalWith_length journalWith_headHash rfl rfl

/-- What an append knows when it writes: its journal, and the form of the next one. -/
def Ready (initial : List AuditRecord) (me : ℕ) (journal : AuditJournal) (entry : AuditEntry)
    (value : StoredJournal) (w : AuditWorld) : Prop :=
  (∃ compact, (journal.advanced entry).encode compact = .ok value) ∧ Loaded initial journal w ∧
    me ∉ w.log

theorem around_ready (entry : AuditEntry) (value : StoredJournal) :
    (auditDiscipline initial).StableAround me (Ready initial me journal entry value) :=
  (stable_const _).around.and ((stable_known _ _).around.and around_fresh)

section

variable {principal topic correlationId payload : String} {value : StoredJournal}

/-- The row that an append writes is the next one, where its journal is current. -/
theorem Ready.extends (inv : ChainInv initial w) (ready : Ready initial me journal
      (journal.nextEntry principal topic correlationId (payloadDigest payload)) value w)
    (current : w.hasRevision journal.revision = true) :
    Extends initial value
      ⟨some (journal.nextEntry principal topic correlationId (payloadDigest payload)),
        some payload⟩ w := by
  obtain ⟨⟨compact, encoded⟩, loaded, -⟩ := ready
  obtain ⟨recorded, within, rfl⟩ := loaded.current inv current
  have whole : WholeChain (w.entries ++ [(chainJournal initial.length w.entries).nextEntry
      principal topic correlationId (payloadDigest payload)]) := whole_nextEntry recorded.whole _ _ _ _
  rw [chainJournal_advanced recorded.whole within] at encoded
  refine ⟨loaded.1, _, ⟨rfl, whole.wellFormed _ (by simp), fun other isOther => ?_⟩, whole,
    compact, encoded⟩
  obtain rfl := Option.some.inj isOther
  rfl

/-- **An append that is committed** has landed, and its mirror is of the chain. -/
theorem Ready.appended (inv : ChainInv initial w) (ready : Ready initial me journal
      (journal.nextEntry principal topic correlationId (payloadDigest payload)) value w)
    (current : w.hasRevision journal.revision = true)
    (states : StateStore String fun _ => StateRow) :
    let entry := journal.nextEntry principal topic correlationId (payloadDigest payload)
    let w' : AuditWorld := { w.appended me value ⟨some entry, some payload⟩ with states }
    Landed initial me entry w' ∧ MirrorOf (journal.advanced entry).mirror w' := by
  obtain ⟨-, loaded, -⟩ := ready
  obtain ⟨recorded, within, rfl⟩ := loaded.current inv current
  intro entry w'
  have whole : WholeChain (w.entries ++ [entry]) := whole_nextEntry recorded.whole _ _ _ _
  have entries : w'.entries = w.entries ++ [entry] := by
    change (w.rows ++ [_]).filterMap AuditRecord.entry = _
    rw [List.filterMap_append]
    rfl
  obtain ⟨added, rows, length⟩ := inv.grown
  have counted : w.entries.length = initial.length + w.log.length := by
    rw [← recorded.length_eq, rows, List.length_append, length]
  refine ⟨⟨w.log.length, ?_, ?_⟩, w.entries ++ [entry], ?_, whole, ?_⟩
  · change (w.log ++ [me])[w.log.length]? = _
    simp
  · rw [entries, ← counted]
    simp
  · exact ⟨[], by rw [List.append_nil, entries]⟩
  · rw [chainJournal_advanced recorded.whole within]
    rfl

end

/-- What an append returns with. -/
def AppendPost (initial : List AuditRecord) (me : ℕ) :
    Except AuditError (Option AuditEntry) → AuditWorld → Prop
  | .ok (some entry) => Landed initial me entry
  | _ => fun w => me ∉ w.log

/-- How the store answers an append: nothing happens, or the revision is current and the row is
written. -/
def CommitAnswer (me : ℕ) (journal : AuditJournal) (value : StoredJournal) (record : AuditRecord)
    (w : AuditWorld) (committed : Bool) (w' : AuditWorld) : Prop :=
  (committed = false ∧ w' = w) ∨ (committed = true ∧ w.hasRevision journal.revision = true ∧
    ∃ states, w' = { w.appended me value record with states })

theorem commitAnswer {value : StoredJournal} {record : AuditRecord} {committed : Bool}
    (answered : (auditDiscipline initial).answers w
      (.commit me value journal.revision record) committed w') :
    CommitAnswer me journal value record w committed w' := by
  obtain ⟨-, o, performed⟩ := answered
  have world : w.perform o (.commit me value journal.revision record) = (committed, w') := performed
  unfold AuditWorld.perform at world
  dsimp only at world
  split at world
  · rename_i current
    obtain ⟨rfl, rfl⟩ := Prod.mk.inj world
    exact .inr ⟨rfl, current, w.states, rfl⟩
  · obtain ⟨rfl, rfl⟩ := Prod.mk.inj world
    exact .inl ⟨rfl, rfl⟩

theorem commitPairAnswer {value : StoredJournal} {stateKey : String} {stateValue : StateRow}
    {expected : ℕ} {record : AuditRecord} {committed : Bool}
    (answered : (auditDiscipline initial).answers w
      (.commitPair me value journal.revision stateKey stateValue expected record) committed w') :
    CommitAnswer me journal value record w committed w' := by
  obtain ⟨-, o, performed⟩ := answered
  have world : w.perform o (.commitPair me value journal.revision stateKey stateValue expected
    record) = (committed, w') := performed
  unfold AuditWorld.perform at world
  dsimp only at world
  split at world
  · rename_i current
    obtain ⟨rfl, rfl⟩ := Prod.mk.inj world
    exact .inr ⟨rfl, current.1, _, rfl⟩
  · obtain ⟨rfl, rfl⟩ := Prod.mk.inj world
    exact .inl ⟨rfl, rfl⟩

/-- What is known once the store has answered an append. -/
def Committed (initial : List AuditRecord) (me : ℕ) (journal : AuditJournal) (entry : AuditEntry)
    (committed : Bool) (w : AuditWorld) : Prop :=
  if committed then Landed initial me entry w ∧ MirrorOf (journal.advanced entry).mirror w
  else me ∉ w.log

theorem CommitAnswer.committed {principal topic correlationId payload : String}
    {value : StoredJournal} {committed : Bool}
    (answer : CommitAnswer me journal value
      ⟨some (journal.nextEntry principal topic correlationId (payloadDigest payload)),
        some payload⟩ w committed w') (inv : ChainInv initial w)
    (ready : Ready initial me journal
      (journal.nextEntry principal topic correlationId (payloadDigest payload)) value w) :
    Committed initial me journal
      (journal.nextEntry principal topic correlationId (payloadDigest payload)) committed w' := by
  rcases answer with ⟨rfl, rfl⟩ | ⟨rfl, current, states, rfl⟩
  · exact ready.2.2
  · exact ready.appended inv current states

section

variable {α β : Type} {G : Except AuditError α → AuditWorld → Prop}

variable {F : AuditWorld → Prop}

/-- Going on after a program that writes no row. -/
theorem triple_rowless_bind {p : Auditing β} {f : β → Auditing α} {known : β → AuditWorld → Prop}
    (triple : (auditDiscipline initial).Triple me F p (Returns known)) (only : Only Rowless p)
    (refused : ∀ e w, me ∉ w.log → G (.error e) w)
    (next : ∀ b, (auditDiscipline initial).Triple me (fun w => known b w ∧ me ∉ w.log) (f b) G) :
    (auditDiscipline initial).Triple me (fun w => F w ∧ me ∉ w.log) (p >>= f) G := by
  refine triple_bind _ ((rowlessly triple only).mono (fun _ _ known => known) fun r w _ known => ?_)
    next
  cases r with
  | ok _ => exact known
  | error e => exact refused e w known

theorem triple_checkDeadline (stable : (auditDiscipline initial).Stable F) :
    (auditDiscipline initial).Triple me F checkDeadline (Returns fun _ => F) := by
  refine triple_keep stable (fun _ _ _ => trivial) fun (passed : Bool) => ?_
  split
  · exact triple_throw
  · exact triple_pure fun _ _ known => known

theorem only_checkDeadline : Only Rowless checkDeadline := by
  refine only_bind (only_ask trivial) fun (passed : Bool) => ?_
  split
  · exact only_raise
  · exact only_pure

theorem triple_encodeNext (stable : (auditDiscipline initial).Stable F) :
    (auditDiscipline initial).Triple me F (encodeNext journal)
      (Returns fun value w => (∃ compact, journal.encode compact = .ok value) ∧ F w) := by
  have supports : (auditDiscipline initial).Triple me F supportsCompactCheckpoint
      (Returns fun _ => F) := by
    refine triple_keep stable (fun _ _ _ => trivial) fun (isReader : Bool) => ?_
    split
    · exact triple_keep_last stable fun _ _ _ => trivial
    · exact triple_pure fun _ _ known => known
  exact triple_seq _ supports fun compact => triple_orRaise_last fun value w encoded known =>
    ⟨⟨compact, encoded⟩, known⟩

theorem only_encodeNext : Only Rowless (encodeNext journal) := by
  have supports : Only Rowless supportsCompactCheckpoint := by
    refine only_bind (only_ask trivial) fun (isReader : Bool) => ?_
    split
    · exact only_ask trivial
    · exact only_pure
  exact only_bind supports fun _ => only_orRaise _

/-- The mirror is installed once the row is written. -/
theorem triple_install {entry : AuditEntry} (adapter : ℕ) {a : α}
    (met : ∀ w, Landed initial me entry w → G (.ok a) w) :
    (auditDiscipline initial).Triple me
      (fun w => Landed initial me entry w ∧ MirrorOf (journal.advanced entry).mirror w)
      (do
        ask (.install adapter (journal.advanced entry).mirror)
        pure a) G :=
  triple_keep ((stable_landed _ _).and (stable_mirrorOf _)) (fun _ _ known => known.2)
    fun _ => triple_pure fun w _ known => met w known.1

end

/-- A round begins with the deadline and the journal. -/
theorem triple_round {α : Type} (adapter : ℕ) {again : Auditing α} {rest : AuditJournal → Auditing α}
    {G : Except AuditError α → AuditWorld → Prop} (refused : ∀ e w, me ∉ w.log → G (.error e) w)
    (none_found : (auditDiscipline initial).Triple me (fun w => True ∧ me ∉ w.log) again G)
    (next : ∀ journal, (auditDiscipline initial).Triple me
      (fun w => Loaded initial journal w ∧ me ∉ w.log) (rest journal) G) :
    (auditDiscipline initial).Triple me (fun w => True ∧ me ∉ w.log) (do
        checkDeadline
        match ← loadAppendJournal adapter with
        | none => again
        | some journal => rest journal) G := by
  refine triple_rowless_bind (triple_checkDeadline stable_true) only_checkDeadline refused
    fun _ => ?_
  refine triple_rowless_bind (triple_loadAppendJournal adapter) (only_loadAppendJournal adapter)
    refused fun found => ?_
  cases found with
  | none => exact none_found.pre fun _ _ known => ⟨trivial, known.2⟩
  | some journal => exact (next journal).pre fun _ _ known => ⟨known.1 journal rfl, known.2⟩

theorem triple_appendRounds (adapter : ℕ) (content : AuditContent) (correlationId payload : String)
    (attempts : ℕ) : (auditDiscipline initial).Triple me (fun w => True ∧ me ∉ w.log)
      (appendRounds me adapter content correlationId payload attempts)
      fun r => AppendPost initial me (r.map some) := by
  induction attempts with
  | zero => exact triple_raise fun _ _ known => known.2
  | succ attempts ih =>
    refine triple_round adapter (fun _ _ fresh => fresh) ih fun journal => ?_
    have stable : (auditDiscipline initial).Stable (Loaded initial journal) := stable_known _ _
    refine triple_rowless_bind (triple_checkDeadline stable) only_checkDeadline
      (fun _ _ fresh => fresh) fun _ => ?_
    refine triple_rowless_bind (triple_encodeNext stable) only_encodeNext
      (fun _ _ fresh => fresh) fun value => ?_
    refine Triple.pre (F := Ready initial me journal (journal.nextEntry content.principal
      content.topic correlationId (payloadDigest payload)) value) ?_
      fun _ _ known => and_assoc.1 known
    refine triple_call_around (around_ready _ value)
      (fun w inv ready => ⟨rfl, ready.2.2, ready.extends inv⟩) (Committed initial me journal _)
      (fun w a w' inv ready answered _ => (commitAnswer answered).committed inv ready)
      fun (committed : Bool) => ?_
    cases committed with
    | true => exact triple_install adapter fun _ landed => landed
    | false => exact ih.pre fun _ _ fresh => ⟨trivial, fresh⟩

theorem triple_appendPairRounds (adapter : ℕ) (content : AuditContent) (pair : StatePair)
    (payload : String) (attempts : ℕ) :
    (auditDiscipline initial).Triple me (fun w => True ∧ me ∉ w.log)
      (appendPairRounds me adapter content pair payload attempts) (AppendPost initial me) := by
  induction attempts with
  | zero => exact triple_raise fun _ _ known => known.2
  | succ attempts ih =>
    refine triple_round adapter (fun _ _ fresh => fresh) ih fun journal => ?_
    have stable : (auditDiscipline initial).Stable (Loaded initial journal) := stable_known _ _
    have identified : (auditDiscipline initial).Triple me (Loaded initial journal)
        (orRaise (pair.entryCorrelationId journal.length))
        (Returns fun _ => Loaded initial journal) :=
      triple_orRaise_last fun _ _ _ loaded => loaded
    refine triple_rowless_bind identified (only_orRaise _) (fun _ _ fresh => fresh)
      fun correlationId => ?_
    refine triple_rowless_bind (triple_encodeNext stable) only_encodeNext
      (fun _ _ fresh => fresh) fun value => ?_
    split
    · exact triple_raise fun _ _ known => known.2
    refine Triple.pre (F := Ready initial me journal (journal.nextEntry content.principal
      content.topic correlationId (payloadDigest payload)) value) ?_
      fun _ _ known => and_assoc.1 known
    refine triple_call_around (around_ready _ value)
      (fun w inv ready => ⟨rfl, ready.2.2, ready.extends inv⟩)
      (Committed initial me journal _)
      (fun w a w' inv ready answered _ => (commitPairAnswer answered).committed inv ready)
      fun (committed : Bool) => ?_
    cases committed with
    | true => exact triple_install adapter fun _ landed => landed
    | false => exact triple_pure fun _ _ fresh => fresh

/-! ### Requests -/

/-- An append that returns has landed. -/
def AuditPost (initial : List AuditRecord) : Except AuditError AuditResult → AuditWorld → Prop
  | .ok (.appended writer entry) => Landed initial writer entry
  | _ => fun _ => True

theorem triple_enterQueue :
    (auditDiscipline initial).Triple me (fun _ => True) enterQueue (Returns fun _ _ => True) := by
  refine triple_keep stable_true (fun _ _ _ => trivial) fun (outcome : QueueOutcome) => ?_
  cases outcome with
  | full | timedOut => exact triple_throw
  | acquired => exact triple_pure fun _ _ _ => trivial

theorem only_enterQueue : Only Rowless enterQueue := by
  refine only_bind (only_ask trivial) fun (outcome : QueueOutcome) => ?_
  cases outcome with
  | full | timedOut => exact only_raise
  | acquired => exact only_pure

theorem triple_append (adapter : ℕ) (content : AuditContent) (correlationId : String) :
    (auditDiscipline initial).Triple me (fun w => True ∧ me ∉ w.log)
      (append me adapter content correlationId) fun r => AppendPost initial me (r.map some) := by
  have canonical : (auditDiscipline initial).Triple me (fun _ => True)
      (orRaise (canonicalPayload content)) (Returns fun _ _ => True) :=
    triple_orRaise_last fun _ _ _ _ => trivial
  refine triple_rowless_bind canonical (only_orRaise _) (fun _ _ fresh => fresh) fun payload => ?_
  refine triple_rowless_bind triple_enterQueue only_enterQueue (fun _ _ fresh => fresh) fun _ => ?_
  exact triple_appendRounds adapter content correlationId payload 8

theorem triple_appendWithStatePair (adapter : ℕ) (content : AuditContent) (pair : StatePair) :
    (auditDiscipline initial).Triple me (fun w => True ∧ me ∉ w.log)
      (appendWithStatePair me adapter content pair) (AppendPost initial me) := by
  have writesPairs : (auditDiscipline initial).Triple me (fun _ => True) (ask .writesPairs)
      (Returns fun _ _ => True) := triple_keep_last stable_true fun _ _ _ => trivial
  refine triple_rowless_bind writesPairs (only_ask trivial) (fun _ _ fresh => fresh)
    fun (writes : Bool) => ?_
  split
  · exact triple_pure fun _ _ known => known.2
  have checked : (auditDiscipline initial).Triple me (fun _ => True) (orRaise pair.check)
      (Returns fun _ _ => True) := triple_orRaise_last fun _ _ _ _ => trivial
  have canonical : (auditDiscipline initial).Triple me (fun _ => True)
      (orRaise (canonicalPayload content)) (Returns fun _ _ => True) :=
    triple_orRaise_last fun _ _ _ _ => trivial
  refine triple_rowless_bind checked (only_orRaise _) (fun _ _ fresh => fresh) fun _ => ?_
  refine triple_rowless_bind canonical (only_orRaise _) (fun _ _ fresh => fresh) fun payload => ?_
  refine triple_rowless_bind triple_enterQueue only_enterQueue (fun _ _ fresh => fresh) fun _ => ?_
  exact triple_appendPairRounds adapter content pair payload 8

theorem triple_rehydrateRounds (attempts : ℕ) : (auditDiscipline initial).Triple me
    (fun _ => True) (rehydrateRounds attempts) (Returns fun _ _ => True) := by
  induction attempts with
  | zero => exact triple_throw
  | succ attempts ih =>
    refine triple_seq _ (triple_loadJournal true) fun found => ?_
    cases found with
    | none => exact ih.pre fun _ _ _ => trivial
    | some journal => exact triple_pure fun _ _ _ => trivial

/-- **Every request** keeps to the discipline, if its program has no row yet. -/
theorem triple_program (request : AuditRequest) :
    (auditDiscipline initial).Triple me (fun w => True ∧ me ∉ w.log) (request.program me)
      (AuditPost initial) := by
  cases request with
  | append adapter content correlationId =>
    unfold AuditRequest.program
    rw [map_eq_pure_bind]
    refine triple_bind (Landed initial me) ((triple_append adapter content correlationId).mono
      (fun _ _ fresh => fresh) fun r _ _ known => ?_) fun entry =>
        triple_pure fun _ _ landed => landed
    cases r with
    | ok entry => exact known
    | error e => trivial
  | appendWithStatePair adapter content pair =>
    unfold AuditRequest.program
    rw [map_eq_pure_bind]
    refine triple_bind (fun entry w => AppendPost initial me (.ok entry) w)
      ((triple_appendWithStatePair adapter content pair).mono (fun _ _ fresh => fresh)
        fun r _ _ known => ?_) fun entry => triple_pure fun w _ landed => ?_
    · cases r with
      | ok entry => exact known
      | error e => trivial
    · cases entry with
      | none => trivial
      | some entry => exact landed
  | rehydrate =>
    unfold AuditRequest.program
    rw [map_eq_pure_bind]
    refine triple_bind (fun _ _ => True) (((triple_rehydrateRounds 8).pre
      fun _ _ _ => trivial).mono (fun _ _ known => known) fun r _ _ _ => ?_) fun _ =>
        triple_pure fun _ _ _ => trivial
    cases r with
    | ok _ | error _ => trivial
  | writeState key row =>
    refine Triple.pre (F := fun _ => True) ?_ fun _ _ _ => trivial
    exact triple_keep stable_true (fun _ _ _ => trivial) fun _ => triple_pure fun _ _ _ => trivial

end

section

variable {α : Type} {oracle : ℕ → AuditOracle} {w : AuditWorld}

/-- One call of a program that runs on its own. -/
theorem exec_ask (next : op.Ans → Auditing α) : auditMachine.exec (ask op >>= next) oracle w =
      auditMachine.exec (next (w.perform (oracle 0) op).1) (fun n => oracle (n + 1))
        (w.perform (oracle 0) op).2 := rfl

/-- **The window** is read back by a store that has the reader. -/
theorem exec_loadWindow (whole : WholeChain w.entries)
    (fits : (journalOf revision w.entries).fits = true)
    (supported : ∀ n, (oracle n).isWindowReader = true) :
    auditMachine.exec (some <$> loadWindow (journalWith 1 revision w.entries)) oracle w =
      (.ok (some (journalOf revision w.entries)), w) := by
  rw [map_eq_pure_bind]
  unfold loadWindow
  rw [bind_assoc, exec_ask]
  have reads : w.perform (oracle 0) .isWindowReader = (true, w) := by rw [← supported 0]; rfl
  rw [reads]
  dsimp only
  rw [if_neg (by simp), journalWith_length, journalWith_headHash]
  split
  · rename_i empty
    have nothing := List.eq_nil_of_length_eq_zero empty
    have same : journalWith 1 revision w.entries = journalOf revision w.entries := by
      rw [nothing]
      exact journalWith_eq auditJournalLimit_pos (.inr (Nat.zero_le _))
    rw [same]
    rfl
  · rename_i nonempty
    rw [bind_assoc, exec_ask]
    change auditMachine.exec (orRaise (restoreWindow _ (chainWindow w.entries _ _ _)) >>= _) _ w = _
    rw [restoreWindow_chainWindow whole (List.prefix_refl _)
      (fun empty => nonempty (by rw [empty]; rfl)) fits]
    rfl

/-- **Both formats reload** to the journal of the rows. -/
theorem exec_loadJournal (whole : WholeChain w.entries)
    (numbered : 1 ≤ revision) (fits : (journalOf revision w.entries).fits = true) (compact : Bool)
    (stored : w.checkpoint = some (.journal ((journalOf revision w.entries).stored compact)))
    (supported : ∀ n, (oracle n).isWindowReader = true ∧ (oracle n).supportsCompact = true) :
    auditMachine.exec (loadJournal true) oracle w =
      (.ok (some (journalOf revision w.entries)), w) := by
  unfold loadJournal
  rw [exec_ask]
  have reads : w.perform (oracle 0) .readCheckpoint =
      (some (.journal ((journalOf revision w.entries).stored compact)), w) := by rw [← stored]; rfl
  rw [reads]
  dsimp only
  unfold loadStored
  rw [decode_stored whole numbered]
  change auditMachine.exec (some <$> (if _ then _ else _)) _ w = _
  rcases compact with _ | _
  · rfl
  have isCompact : ((journalOf revision w.entries).stored true).compact = true := rfl
  rw [if_neg (not_not.2 isCompact), map_eq_pure_bind, bind_assoc, exec_ask]
  have isReader : w.perform (oracle (0 + 1)) .isWindowReader = (true, w) := by
    rw [← (supported (0 + 1)).1]
    rfl
  rw [isReader]
  dsimp only
  rw [if_neg (by simp), bind_assoc, exec_ask]
  have supports : w.perform (oracle (0 + 1 + 1)) .supportsCompact = (true, w) := by
    rw [← (supported (0 + 1 + 1)).2]
    rfl
  rw [supports]
  dsimp only
  rw [if_neg (by simp), if_pos rfl, ← map_eq_pure_bind]
  exact exec_loadWindow whole fits fun n => (supported (n + 1 + 1 + 1)).1

end

/-! ## Runs -/

/-- A store to begin with: any rows, and no journal yet. -/
structure AuditStores where
  checkpoint : Option Checkpoint := none
  rows : List AuditRecord := []
  states : StateStore String fun _ => StateRow := StateStore.empty
  noJournal : checkpoint.any Checkpoint.isJournal = false := by rfl

def AuditStores.start (s : AuditStores) : AuditWorld :=
  { checkpoint := s.checkpoint, rows := s.rows, states := s.states }

theorem chainInv_start (s : AuditStores) : ChainInv s.rows s.start where
  unclaimed _ := rfl
  claimed stored isStored := by
    have noJournal := s.noJournal
    have isStored : s.checkpoint = some (.journal stored) := isStored
    rw [isStored] at noJournal
    cases noJournal
  grown := ⟨[], (List.append_nil _).symm, rfl⟩
  mirrors _ := ⟨[], List.nil_prefix, WholeChain.nil, by simp [AuditStores.start, journalOf,
    journalWith, AuditJournal.mirror, AuditJournal.length, AuditJournal.headHash, window]⟩
  once := List.nodup_nil

/-- **What the adapters promise**, of the world a run ends in. -/
structure ChainKept (w₀ : AuditWorld) (moves : List (Move AuditRequest AuditOracle)) : Prop where
  /-- Rows are only added, each by a program; a program adds one at most. -/
  added : ∃ added, (auditMachine.run (Machine.idle w₀) moves).world.rows = w₀.rows ++ added ∧
    added.length = (auditMachine.run (Machine.idle w₀) moves).world.log.length
  once : (auditMachine.run (Machine.idle w₀) moves).world.log.Nodup
  /-- No append that has returned is lost: its row is there. -/
  landed : ∀ first m rest writer entry, moves = first ++ m :: rest →
    auditMachine.Finishes (auditMachine.run (Machine.idle w₀) first) m
      (.ok (.appended writer entry)) →
    Landed w₀.rows writer entry (auditMachine.run (Machine.idle w₀) moves).world
  /-- Once there is an append, all the rows are one chain of contiguous numbers, and the journal
  is stored. -/
  chain : (auditMachine.run (Machine.idle w₀) moves).world.log ≠ [] →
    Claimed (auditMachine.run (Machine.idle w₀) moves).world ∧
      Recorded (auditMachine.run (Machine.idle w₀) moves).world.rows
        (auditMachine.run (Machine.idle w₀) moves).world.entries ∧
      ∀ (i : ℕ) (entry : AuditEntry),
        (auditMachine.run (Machine.idle w₀) moves).world.entries[i]? = some entry → entry.seq = i
  /-- No two rows follow the same one, and no two are the same. -/
  unforked : (auditMachine.run (Machine.idle w₀) moves).world.log ≠ [] →
    ((auditMachine.run (Machine.idle w₀) moves).world.entries.map AuditEntry.prevHash).Nodup ∧
      ((auditMachine.run (Machine.idle w₀) moves).world.entries.map AuditEntry.entryHash).Nodup
  /-- The stored journal has the last entries as its window, and reloads from either format. -/
  window : ∀ stored,
    (auditMachine.run (Machine.idle w₀) moves).world.checkpoint = some (.journal stored) →
    ∃ journal : AuditJournal, stored = journal.stored stored.compact ∧
      journal.entries = Sequences.window auditJournalLimit
        (auditMachine.run (Machine.idle w₀) moves).world.entries ∧
      journal.length = (auditMachine.run (Machine.idle w₀) moves).world.entries.length ∧
      ∀ compact (oracle : ℕ → AuditOracle),
        (∀ n, (oracle n).isWindowReader = true ∧ (oracle n).supportsCompact = true) →
        (auditMachine.exec (loadJournal true) oracle
          { (auditMachine.run (Machine.idle w₀) moves).world with
            checkpoint := some (.journal (journal.stored compact)) }).1 = .ok (some journal)
  /-- A mirror has the last entries of the chain as it was at some time. -/
  mirrors : ∀ adapter, ∃ entries,
    entries <+: (auditMachine.run (Machine.idle w₀) moves).world.entries ∧
      ((auditMachine.run (Machine.idle w₀) moves).world.mirrors adapter).entries =
        Sequences.window auditJournalLimit entries

/-- **The audit chain is kept** in every run of any number of adapters. -/
theorem chain_kept (s : AuditStores) (moves : List (Move AuditRequest AuditOracle)) :
    ChainKept s.start moves := by
  let post : Except AuditError AuditResult → AuditWorld → Prop := fun r w =>
    ChainInv s.rows w ∧ AuditPost s.rows r w
  have calls (F : AuditWorld → Prop) (me : ℕ) (call : AuditRequest) (w : AuditWorld)
      (inv : ChainInv s.rows w) (fresh : me ∉ w.log ∧ F w) :
      (auditMachine.program me call).Sat ((auditDiscipline s.rows).regime me) post w :=
    triple_program call w inv ⟨trivial, fresh.1⟩
  have start : Machine.Healthy (auditDiscipline s.rows) post (Machine.idle s.start) :=
    Machine.Healthy.idle (chainInv_start s)
  have reaches (before : List (Move AuditRequest AuditOracle)) :=
    Machine.run_newcomers (F := fun me w => me ∉ w.log ∧ True) (fun answered => answered)
      (fun me => around_fresh.and (stable_const True).around) (calls fun _ => True) start
      (Machine.observes_true _ _ before) fun me _ => ⟨List.not_mem_nil, trivial⟩
  have inv := (reaches moves).1.inv
  have begun (written : (auditMachine.run (Machine.idle s.start) moves).world.log ≠ []) :
      Claimed (auditMachine.run (Machine.idle s.start) moves).world := by
    by_contra unclaimed
    obtain ⟨added, rows, length⟩ := inv.grown
    rw [inv.unclaimed unclaimed] at rows
    have nothing : added = [] := List.append_right_eq_self.1 rows.symm
    rw [nothing] at length
    exact written (List.eq_nil_of_length_eq_zero length.symm)
  have recorded (written : (auditMachine.run (Machine.idle s.start) moves).world.log ≠ []) :=
    let ⟨stored, isStored⟩ := begun written
    (inv.claimed stored isStored).1
  refine ⟨inv.grown, inv.once, fun first m rest writer entry split finishes => ?_,
    fun written => ⟨begun written, recorded written, fun i entry isEntry => ?_⟩,
    fun written => ⟨?_, ?_⟩, fun stored isStored => ?_, fun adapter => ?_⟩
  · subst split
    have admits : Machine.Admits (fun _ _ => True)
        (auditMachine.run (Machine.idle s.start) first) m :=
      (Machine.observes_true auditMachine _ [m]).1
    have landed := (reaches first).1.finishes (fun answered => answered) admits finishes
    obtain ⟨healthy, unbegun⟩ := reaches (first ++ [m])
    have later := Machine.run_newcomers (F := fun me w => me ∉ w.log ∧ Landed s.rows writer entry w)
      (fun answered => answered)
      (fun me => around_fresh.and (stable_landed writer entry).around)
      (calls (Landed s.rows writer entry)) healthy (Machine.observes_true _ _ rest)
      fun me beyond => ⟨(unbegun me beyond).1, by rw [Machine.run_append]; exact landed.2⟩
    have split : first ++ m :: rest = first ++ [m] ++ rest := by simp
    rw [split, Machine.run_append]
    exact (later.2 _ le_rfl).2
  · have position := (recorded written).whole.chained.position_eq isEntry
    rwa [Nat.zero_add] at position
  · have whole := (recorded written).whole
    exact whole.chained.previous_nodup whole.binds whole.ne_genesis
  · have whole := (recorded written).whole
    exact whole.chained.hashes_nodup whole.binds
  · obtain ⟨rows, compact, encoded⟩ := inv.claimed stored isStored
    obtain ⟨rfl, fits⟩ := encode_eq_ok encoded
    refine ⟨_, rfl, rfl, journalWith_length, fun compact oracle supported => ?_⟩
    rw [exec_loadJournal (w := { (auditMachine.run (Machine.idle s.start) moves).world with
      checkpoint := some (.journal ((chainJournal s.rows.length _).stored compact)) })
      rows.whole (by omega) fits compact rfl supported]
    rfl
  · obtain ⟨entries, isPrefix, -, mirror⟩ := inv.mirrors adapter
    refine ⟨entries, isPrefix, ?_⟩
    rw [mirror]
    rfl

end Fdai.Core.AuditChain
