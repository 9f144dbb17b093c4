import Mathlib.Algebra.GroupWithZero.Nat
import Fdai.Providers.Contracts
import Fdai.Sequences.HashChain

/-!
# The audit journal

The audit chain is kept as rows, and as a checkpoint with the last entries of the chain. The
checkpoint is stored with all of them (the full format) or with the newest one only (the compact
format); a store of an older deployment may have a length and a head hash.

* `AuditEntry`, `AuditLink` — an entry, and its place in the chain.
* `AuditJournal`, `advanced` — the retained window, and the window after one more entry.
* `encode`, `decodeJournal` — a journal as it is stored.
* `journalOf`, `journalOf_advanced` — the window of a whole chain.

The hashes of an entry and of a journal are taken of the same text as ever, so the legacy form
of the entry hash is the same function.
-/

namespace Fdai.Core.AuditChain

open Fdai.Providers Fdai.Sequences

structure AuditEntry where
  seq : ℕ
  prevHash : Digest
  entryHash : Digest
  principal : String
  topic : String
  correlationId : String
  payloadDigest : Digest

/-- `entry_hash`. -/
def AuditEntry.hash (entry : AuditEntry) : Digest :=
  .ofFields [.num entry.seq, entry.prevHash, .text entry.principal, .text entry.topic,
    .text entry.correlationId, entry.payloadDigest]

def genesisHash : Digest :=
  .text "0000000000000000000000000000000000000000000000000000000000000000"

def isHash : Digest → Bool
  | .text value => isFingerprint value
  | _ => true

/-- `AUDIT_JOURNAL_LIMIT`. -/
@[irreducible] def auditJournalLimit : ℕ := 512

theorem auditJournalLimit_pos : 0 < auditJournalLimit := by
  unfold auditJournalLimit
  decide

/-- The place of an entry in the chain. -/
def AuditLink : Linking AuditEntry Digest where
  position := AuditEntry.seq
  previous := AuditEntry.prevHash
  hash := AuditEntry.entryHash

/-- What the adapters raise. -/
inductive AuditError where
  /-- `AuditChainError`. -/
  | chain (message : String)
  /-- `AuditAppendDeferredError`. -/
  | deferred (message : String)
  | value (message : String)

/-- The fields of a stored entry have their formats. -/
def AuditEntry.wellFormed (entry : AuditEntry) : Bool :=
  isHash entry.prevHash && isHash entry.entryHash && isHash entry.payloadDigest

/-- `_decode_entry`; there is no entry where a field is missing or of another type. -/
def decodeEntry (raw : Option AuditEntry) : Except AuditError AuditEntry :=
  match raw.filter AuditEntry.wellFormed with
  | none => .error (.chain "durable audit journal entry is malformed")
  | some entry => .ok entry

def verifyEntries : ℕ → Digest → List AuditEntry → Except AuditError Unit
  | _, _, [] => .ok ()
  | expectedSeq, previous, entry :: rest =>
    if entry.seq ≠ expectedSeq ∨ entry.prevHash ≠ previous then
      .error (.chain "durable audit chain sequence or previous hash is not contiguous")
    else if entry.entryHash ≠ entry.hash then
      .error (.chain ("entry hash mismatch at seq " ++ toString entry.seq))
    else verifyEntries (expectedSeq + 1) entry.entryHash rest

structure AuditJournal where
  revision : ℕ
  baseLength : ℕ
  baseHash : Digest
  entries : List AuditEntry

/-- A journal as it is stored: `schema_version` is `3.0.0` in the compact format, and `2.0.0`
in the full one. -/
structure StoredJournal where
  compact : Bool
  revision : ℕ
  baseLength : ℕ
  baseHash : Digest
  entries : List AuditEntry
  contentDigest : Digest

/-- An entry as part of a digest. -/
def AuditEntry.digest (entry : AuditEntry) : Digest :=
  .ofFields [.num entry.seq, entry.prevHash, entry.entryHash, .text entry.principal,
    .text entry.topic, .text entry.correlationId, entry.payloadDigest]

/-- The digest of a stored journal but for its `content_digest`. -/
def StoredJournal.bodyDigest (stored : StoredJournal) : Digest :=
  .ofFields [.num (if stored.compact then 3 else 2), .num stored.revision,
    .num stored.baseLength, stored.baseHash, .ofFields (stored.entries.map AuditEntry.digest)]

/-- The length of a character in a JSON text with `ensure_ascii`. -/
def jsonCharSize (c : Char) : ℕ :=
  let n := c.toNat
  if c = '"' ∨ c = '\\' ∨ n = 8 ∨ n = 9 ∨ n = 10 ∨ n = 12 ∨ n = 13 then 2
  else if 32 ≤ n ∧ n ≤ 126 then 1
  else if n < 0x10000 then 6
  else 12

/-- The length of a text in JSON, without the quotes. -/
def jsonSize (text : String) : ℕ := (text.toList.map jsonCharSize).sum

/-- The length of a number in JSON. -/
def numberSize (n : ℕ) : ℕ := (toString n).length

/-- The length of an entry: its field names, three hashes, a number and three texts. -/
def AuditEntry.size (entry : AuditEntry) : ℕ :=
  310 + numberSize entry.seq + jsonSize entry.principal + jsonSize entry.topic +
    jsonSize entry.correlationId

/-- The length of a stored journal: its field names, two hashes, two numbers and the entries
with the separators between them. -/
def StoredJournal.size (stored : StoredJournal) : ℕ :=
  240 + numberSize stored.revision + numberSize stored.baseLength +
    (stored.entries.map AuditEntry.size).sum + 2 * (stored.entries.length - 1)

def journalByteLimit : ℕ := 512 * 1024

namespace AuditJournal

variable (journal : AuditJournal)

def length : ℕ := journal.baseLength + journal.entries.length

def headHash : Digest := AuditLink.headOf journal.baseHash journal.entries

/-- The stored form of a journal, whatever its size. -/
def stored (compact : Bool) : StoredJournal :=
  let entries := if compact then window 1 journal.entries else journal.entries
  let body : StoredJournal :=
    { compact, revision := journal.revision
      baseLength := journal.length - entries.length
      baseHash := (entries.head?.map AuditEntry.prevHash).getD journal.baseHash
      entries, contentDigest := .none }
  { body with contentDigest := body.bodyDigest }

/-- The full form is within the byte budget. -/
def fits : Bool := (journal.stored false).size ≤ journalByteLimit

/-- `encode`: a compact form is within the budget only if the full one is. -/
def encode (compact : Bool) : Except AuditError StoredJournal :=
  if compact ∧ ¬ journal.fits then
    .error (.chain "durable audit journal exceeds its byte budget")
  else if journalByteLimit < (journal.stored compact).size then
    .error (.chain "durable audit journal exceeds its byte budget")
  else .ok (journal.stored compact)

def advanced (entry : AuditEntry) : AuditJournal :=
  match journal.entries ++ [entry] with
  | oldest :: rest =>
    if auditJournalLimit < (oldest :: rest).length then
      ⟨journal.revision + 1, oldest.seq + 1, oldest.entryHash, rest⟩
    else ⟨journal.revision + 1, journal.baseLength, journal.baseHash, oldest :: rest⟩
  | [] => ⟨journal.revision + 1, journal.baseLength, journal.baseHash, []⟩

end AuditJournal

def decodeJournal (stored : StoredJournal) : Except AuditError AuditJournal := do
  if stored.revision < 1 ∨ isHash stored.baseHash = false ∨
      (stored.baseLength = 0 ∧ stored.baseHash ≠ genesisHash) ∨
      auditJournalLimit < stored.entries.length ∨
      (stored.compact ∧ 1 < stored.entries.length) ∨
      (0 < stored.baseLength ∧ stored.entries = []) then
    .error (.chain "durable audit journal is malformed")
  else do
    let entries ← stored.entries.mapM fun entry => decodeEntry (some entry)
    if stored.bodyDigest ≠ stored.contentDigest then
      .error (.chain "durable audit journal content digest mismatch")
    else do
      verifyEntries stored.baseLength stored.baseHash entries
      pure ⟨stored.revision, stored.baseLength, stored.baseHash, entries⟩

/-! ## Whole chains -/

/-- A chain from the first entry on. -/
structure WholeChain (entries : List AuditEntry) : Prop where
  chained : AuditLink.Chained 0 genesisHash entries
  hashed : ∀ entry ∈ entries, entry.entryHash = entry.hash
  wellFormed : ∀ entry ∈ entries, entry.wellFormed = true

section

variable {entries : List AuditEntry} {entry : AuditEntry} {start : ℕ} {base : Digest}

/-- **Verification passes** exactly if the entries are chained under their own hashes. -/
theorem verifyEntries_eq_ok : verifyEntries start base entries = .ok () ↔
    AuditLink.Chained start base entries ∧ ∀ entry ∈ entries, entry.entryHash = entry.hash := by
  induction entries generalizing start base with
  | nil => simp [verifyEntries]
  | cons entry rest ih =>
    rw [Linking.chained_cons, List.forall_mem_cons]
    unfold verifyEntries
    constructor
    · intro passes
      split at passes
      · cases passes
      rename_i linked
      rw [not_or, not_not, not_not] at linked
      split at passes
      · cases passes
      rename_i hashed
      obtain ⟨chained, others⟩ := ih.1 passes
      exact ⟨⟨linked.1, linked.2, chained⟩, not_not.1 hashed, others⟩
    · rintro ⟨⟨position, previous, chained⟩, hashed, others⟩
      have position : entry.seq = start := position
      have previous : entry.prevHash = base := previous
      rw [if_neg (by simp [position, previous]), if_neg (by simp [hashed])]
      exact ih.2 ⟨chained, others⟩

theorem decodeEntry_eq_ok {raw : Option AuditEntry} :
    decodeEntry raw = .ok entry ↔ raw = some entry ∧ entry.wellFormed = true := by
  unfold decodeEntry
  split
  · rename_i nothing
    constructor
    · intro decoded
      cases decoded
    · rintro ⟨rfl, wellFormed⟩
      rw [Option.filter_some, if_pos wellFormed] at nothing
      cases nothing
  · rename_i other found
    obtain ⟨isRaw, wellFormed⟩ := Option.filter_eq_some_iff.1 found
    constructor
    · intro decoded
      obtain rfl := Except.ok.inj decoded
      exact ⟨isRaw, wellFormed⟩
    · rintro ⟨same, -⟩
      obtain rfl := Option.some.inj (isRaw.symm.trans same)
      rfl

theorem mapM_decodeEntry (wellFormed : ∀ entry ∈ entries, entry.wellFormed = true) :
    (entries.mapM fun entry => decodeEntry (some entry)) = .ok entries := by
  induction entries with
  | nil => rfl
  | cons entry rest ih =>
    rw [List.forall_mem_cons] at wellFormed
    rw [List.mapM_cons, decodeEntry_eq_ok.2 ⟨rfl, wellFormed.1⟩]
    exact congrArg (fun decoded => decoded >>= fun rest => pure (entry :: rest)) (ih wellFormed.2)

namespace WholeChain

theorem nil : WholeChain [] := ⟨trivial, by simp, by simp⟩

variable (whole : WholeChain entries)
include whole

theorem of_prefix {before : List AuditEntry} (isPrefix : before <+: entries) : WholeChain before :=
  ⟨whole.chained.of_prefix isPrefix, fun entry isEntry => whole.hashed entry
    (isPrefix.subset isEntry), fun entry isEntry => whole.wellFormed entry
    (isPrefix.subset isEntry)⟩

theorem binds : ∀ entry ∈ entries, ∀ other ∈ entries, AuditLink.hash entry = AuditLink.hash other →
      AuditLink.position entry = AuditLink.position other := by
  intro entry isEntry other isOther same
  have same : entry.entryHash = other.entryHash := same
  rw [whole.hashed entry isEntry, whole.hashed other isOther] at same
  unfold AuditEntry.hash at same
  rw [Digest.ofFields_inj] at same
  injection same with seqs _
  exact Digest.num.inj seqs

/-- No entry has the hash that the chain starts from. -/
theorem ne_genesis : ∀ entry ∈ entries, AuditLink.hash entry ≠ genesisHash := by
  intro entry isEntry same
  have same : entry.entryHash = genesisHash := same
  rw [whole.hashed entry isEntry] at same
  cases same

theorem isHash_headOf : isHash (AuditLink.headOf genesisHash entries) = true := by
  rcases List.eq_nil_or_concat' entries with rfl | ⟨before, entry, rfl⟩
  · decide
  rw [Linking.headOf_concat]
  have wellFormed := whole.wellFormed entry (by simp)
  simp only [AuditEntry.wellFormed, Bool.and_eq_true] at wellFormed
  exact wellFormed.1.2

/-- **One more entry.** -/
theorem concat (position : entry.seq = entries.length)
    (previous : entry.prevHash = AuditLink.headOf genesisHash entries)
    (hashed : entry.entryHash = entry.hash) (wellFormed : isHash entry.payloadDigest = true) :
    WholeChain (entries ++ [entry]) where
  chained := Linking.chained_concat.2
    ⟨whole.chained, position.trans (Nat.zero_add _).symm, previous⟩
  hashed other isOther := by
    rcases List.mem_append.1 isOther with old | new
    · exact whole.hashed other old
    · rw [List.mem_singleton.1 new]
      exact hashed
  wellFormed other isOther := by
    rcases List.mem_append.1 isOther with old | new
    · exact whole.wellFormed other old
    rw [List.mem_singleton.1 new]
    simp only [AuditEntry.wellFormed, Bool.and_eq_true]
    refine ⟨⟨?_, ?_⟩, wellFormed⟩
    · rw [previous]
      exact whole.isHash_headOf
    · rw [hashed]
      rfl

end WholeChain

end

/-! ## The journal of a chain -/

/-- A journal with the last entries of a chain. -/
def journalWith (limit revision : ℕ) (entries : List AuditEntry) : AuditJournal :=
  ⟨revision, entries.length - limit,
    AuditLink.headOf genesisHash (entries.take (entries.length - limit)), window limit entries⟩

/-- The journal of a chain: its retained window. -/
def journalOf (revision : ℕ) (entries : List AuditEntry) : AuditJournal :=
  journalWith auditJournalLimit revision entries

/-- How many entries a format keeps. -/
def formatLimit (compact : Bool) : ℕ := if compact then 1 else auditJournalLimit

theorem formatLimit_pos (compact : Bool) : 0 < formatLimit compact := by
  cases compact with
  | false => exact auditJournalLimit_pos
  | true => exact Nat.one_pos

theorem formatLimit_le (compact : Bool) : formatLimit compact ≤ auditJournalLimit := by
  cases compact with
  | false => exact le_rfl
  | true => exact auditJournalLimit_pos

section

variable {limit revision : ℕ} {entries : List AuditEntry} {entry : AuditEntry}

@[simp] theorem journalWith_length : (journalWith limit revision entries).length =
    entries.length := by
  change entries.length - limit + (window limit entries).length = _
  rw [length_window]
  omega

@[simp] theorem journalWith_headHash : (journalWith limit revision entries).headHash =
    AuditLink.headOf genesisHash entries := by
  change AuditLink.headOf (AuditLink.headOf _ _) (entries.drop _) = _
  rw [← Linking.headOf_append, List.take_append_drop]

theorem WholeChain.base_eq (whole : WholeChain entries) :
    ((window limit entries).head?.map AuditEntry.prevHash).getD
      (AuditLink.headOf genesisHash (entries.take (entries.length - limit))) =
      AuditLink.headOf genesisHash (entries.take (entries.length - limit)) := by
  unfold window
  rw [List.head?_drop]
  cases first : entries[entries.length - limit]? with
  | none => rfl
  | some entry => exact whole.chained.previous_eq first

theorem WholeChain.chained_window (whole : WholeChain entries) (limit : ℕ) :
    AuditLink.Chained (entries.length - limit)
      (AuditLink.headOf genesisHash (entries.take (entries.length - limit)))
      (window limit entries) := by
  have chained := whole.chained.drop (Nat.sub_le entries.length limit)
  rwa [Nat.zero_add] at chained

theorem mem_window {other : AuditEntry} (isOther : other ∈ window limit entries) :
    other ∈ entries := List.mem_of_mem_drop isOther

/-- **The retained window moves on** with the chain. -/
theorem journalOf_advanced (whole : WholeChain entries) :
    (journalOf revision entries).advanced entry = journalOf (revision + 1) (entries ++ [entry]) := by
  unfold journalOf AuditJournal.advanced journalWith
  dsimp only
  rw [window_concat auditJournalLimit_pos]
  by_cases full : auditJournalLimit ≤ entries.length
  · -- the oldest entry of a full window becomes its base
    have within : entries.length - auditJournalLimit < entries.length := by
      have positive := auditJournalLimit_pos
      omega
    have split : window auditJournalLimit entries = entries[entries.length - auditJournalLimit] ::
          entries.drop (entries.length - auditJournalLimit + 1) :=
      List.drop_eq_getElem_cons within
    have length := length_window auditJournalLimit entries
    rw [split, List.length_cons] at length
    have position := whole.chained.position_eq (List.getElem?_eq_getElem within)
    rw [Nat.zero_add] at position
    rw [if_pos full, split, List.cons_append]
    dsimp only
    rw [if_pos (by simp; omega), List.tail_cons, List.length_append, List.length_singleton,
      List.take_append_of_le_length (by omega)]
    have next : entries.length + 1 - auditJournalLimit =
        entries.length - auditJournalLimit + 1 := by omega
    rw [next, List.take_succ_eq_append_getElem within, Linking.headOf_concat]
    congr 1
    exact congrArg (· + 1) position
  · have few : entries.length ≤ auditJournalLimit := by omega
    rw [if_neg full, window_of_le few]
    have base : entries.length + 1 - auditJournalLimit = 0 := by omega
    have none_left : entries.length - auditJournalLimit = 0 := by omega
    rw [List.length_append, List.length_singleton, base, none_left, List.take_zero, List.take_zero]
    split
    · rename_i oldest rest isList
      have length := congrArg List.length isList
      rw [List.length_append, List.length_singleton] at length
      rw [if_neg (by omega), isList]
    · rename_i nothing
      simp at nothing

theorem stored_journalOf (whole : WholeChain entries) (compact : Bool) :
    (journalOf revision entries).stored compact =
      let kept := journalWith (formatLimit compact) revision entries
      let body : StoredJournal :=
        ⟨compact, kept.revision, kept.baseLength, kept.baseHash, kept.entries, .none⟩
      { body with contentDigest := body.bodyDigest } := by
  have kept : (if compact = true then window 1 (journalOf revision entries).entries
      else (journalOf revision entries).entries) = window (formatLimit compact) entries := by
    rcases compact with _ | _
    · rfl
    change window 1 (window auditJournalLimit entries) = window 1 entries
    unfold window
    rw [List.drop_drop, List.length_drop]
    have positive := auditJournalLimit_pos
    congr 1
    omega
  have positive := formatLimit_pos compact
  unfold AuditJournal.stored
  dsimp only
  rw [kept]
  have baseLength : (journalOf revision entries).length -
      (window (formatLimit compact) entries).length = entries.length - formatLimit compact := by
    unfold journalOf
    rw [journalWith_length, length_window]
    omega
  have baseHash : ((window (formatLimit compact) entries).head?.map AuditEntry.prevHash).getD
      (journalOf revision entries).baseHash =
        AuditLink.headOf genesisHash (entries.take (entries.length - formatLimit compact)) := by
    rw [← whole.base_eq]
    -- a window is empty only where the chain is
    cases first : (window (formatLimit compact) entries).head? with
    | some _ => rfl
    | none =>
      have empty := congrArg List.length (List.head?_eq_none_iff.1 first)
      rw [length_window, List.length_nil] at empty
      have nothing : entries = [] := List.eq_nil_of_length_eq_zero (by omega)
      subst nothing
      change AuditLink.headOf genesisHash (List.take _ []) = AuditLink.headOf _ (List.take _ [])
      rw [List.take_nil, List.take_nil]
  rw [baseLength, baseHash]
  rfl

/-- **A stored journal is decoded** as it was encoded: the whole window in the full format,
and its newest entry in the compact one. -/
theorem decode_stored (whole : WholeChain entries) (numbered : 1 ≤ revision) (compact : Bool) :
    decodeJournal ((journalOf revision entries).stored compact) =
      .ok (journalWith (formatLimit compact) revision entries) := by
  rw [stored_journalOf whole]
  have positive := formatLimit_pos compact
  have bounded := formatLimit_le compact
  have length := length_window (formatLimit compact) entries
  unfold decodeJournal journalWith
  dsimp only
  rw [if_neg, mapM_decodeEntry fun entry isEntry => whole.wellFormed entry (mem_window isEntry)]
  · change (if _ ≠ _ then _ else _) = _
    rw [if_neg (by simp [StoredJournal.bodyDigest])]
    have verified := verifyEntries_eq_ok.2 ⟨whole.chained_window (formatLimit compact),
      fun entry isEntry => whole.hashed entry (mem_window isEntry)⟩
    rw [verified]
    rfl
  · rintro (unnumbered | notHash | ⟨base, notGenesis⟩ | many | ⟨isCompact, many⟩ | ⟨base, empty⟩)
    · omega
    · rw [(whole.of_prefix (List.take_prefix _ _)).isHash_headOf] at notHash
      cases notHash
    · rw [base] at notGenesis
      exact notGenesis rfl
    · omega
    · have single : formatLimit compact = 1 := if_pos isCompact
      omega
    · rw [empty, List.length_nil] at length
      omega

end

end Fdai.Core.AuditChain
