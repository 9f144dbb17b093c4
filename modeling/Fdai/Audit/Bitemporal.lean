import Fdai.Documents.PythonEquality
import Fdai.Providers.Time
import Fdai.Sequences.Keyed
import Fdai.Sequences.SortedBy
import Fdai.Sequences.Summaries
import Mathlib.Data.Prod.Lex

/-!
# Bitemporal snapshots

What the system knew, at one time, about the state of a resource at another: the fold of the audit
entries that were recorded and took effect by then.

* `snapshotAt` — the snapshot of a list of entries.
* `Known`, `InEffect` — the entry was recorded by one time, and took effect by the other.
* `snapshot_fold` — the snapshot is the fold of the entries that survive both cutoffs, in the order of
  effect; its sources are the entries that were known.
* `snapshot_advances` — what is known later changes no snapshot, and a later one goes on from it.
-/

namespace Fdai.Core.Audit

open Fdai.Documents Fdai.Sequences

/-- What the language and its library decide. -/
structure Python where
  /-- `str` of a value that is no text. -/
  str : Json → String
  /-- `datetime.fromisoformat`; `none` where it raises. -/
  fromisoformat : String → Option Datetime

variable (python : Python)

/-- `_ensure_aware`: the instant of a datetime; a naive one is read in UTC. -/
def ensureAware : Datetime → ℤ
  | .aware instant => instant
  | .naive reading => reading

def truth : Json → Bool
  | .null => false
  | .bool value => value
  | .int value => value ≠ 0
  | .float value => !value.pyEq (.finite 0)
  | .text value => value ≠ ""
  | .list items => items ≠ []
  | .object fields => fields ≠ []

/-- `_parse_ts` of a text. -/
def parseText (raw : String) : Option ℤ :=
  (python.fromisoformat (replaceChars "Z" "+00:00" raw)).map ensureAware

/-- `_parse_ts` of a value. -/
def parseTs : Json → Option ℤ
  | .null => none
  | .text raw => parseText python raw
  | raw => parseText python (python.str raw)

/-- `AuditItemLike`, of what a snapshot reads. -/
structure AuditItem where
  seq : ℤ
  entry : List (String × Json)
  recordedAt : String

/-- `effective_at`, or when the entry was recorded. -/
def effectiveRaw (item : AuditItem) : Json :=
  match item.entry.lookup "effective_at" with
  | some raw => if truth raw then raw else .text item.recordedAt
  | none => .text item.recordedAt

/-- A state, by when it took effect and by the sequence of its entry. -/
structure Scored where
  effective : ℤ
  seq : ℤ
  state : List (String × Json)

/-- What states are sorted by. -/
def Scored.order (scored : Scored) : ℤ ×ₗ ℤ := toLex (scored.effective, scored.seq)

/-- The state of an entry. -/
def stateOf (item : AuditItem) : Option (List (String × Json)) :=
  match item.entry.lookup "state" with
  | some (.object state) => some state
  | _ => none

/-- One turn of the loop over the entries. -/
def scan (asOf effective : ℤ) (found : List Scored × List ℤ) (item : AuditItem) :
    List Scored × List ℤ :=
  match parseText python item.recordedAt with
  | none => found
  | some recorded =>
    if asOf < recorded then found
    else
      let provenance := found.2 ++ [item.seq]
      match parseTs python (effectiveRaw item) with
      | none => (found.1, provenance)
      | some effectiveTs =>
        if effective < effectiveTs then (found.1, provenance)
        else
          match stateOf item with
          | some state =>
            (found.1 ++ [{ effective := effectiveTs, seq := item.seq, state }], provenance)
          | none => (found.1, provenance)

/-- The fields of a state, as a dictionary. -/
abbrev State := Keyed (Prod.fst : String × Json → String)

/-- `folded.update(state)`. -/
def update (folded : State) (state : List (String × Json)) : State := state.foldl Keyed.put folded

structure BitemporalSnapshot where
  resourceId : String
  asOf : ℤ
  effective : ℤ
  state : State
  sourceSeqs : List ℤ

def snapshotAt (resourceId : String) (items : List AuditItem) (asOf : Datetime)
    (effective : Option Datetime) : Except String BitemporalSnapshot :=
  if resourceId = "" then .error "resource_id MUST be non-empty"
  else
    let asOf := ensureAware asOf
    let effective := (effective.map ensureAware).getD asOf
    if asOf < effective then
      .error "effective MUST be <= as_of (bitemporal snapshots do not predict)"
    else
      let (scored, provenance) := items.foldl (scan python asOf effective) ([], [])
      .ok {
        resourceId
        asOf
        effective
        state := (sortedBy Scored.order scored).foldl (fun folded each => update folded each.state) .empty
        sourceSeqs := sortedBy id provenance }

/-! ## What survives -/

/-- **The entry was known**: it was recorded by the one time. -/
def Known (asOf : ℤ) (item : AuditItem) : Bool :=
  (parseText python item.recordedAt).any (· ≤ asOf)

/-- **The entry was in effect** by the other time. -/
def InEffect (effective : ℤ) (item : AuditItem) : Bool :=
  (parseTs python (effectiveRaw item)).any (· ≤ effective)

/-- The entry survives both cutoffs. -/
def Survives (asOf effective : ℤ) (item : AuditItem) : Bool :=
  Known python asOf item && InEffect python effective item

/-- The state of an entry, when it took effect. -/
def scoredOf (item : AuditItem) : Option Scored :=
  match parseTs python (effectiveRaw item), stateOf item with
  | some effective, some state => some { effective, seq := item.seq, state }
  | _, _ => none

section

variable {python} {asOf effective : ℤ} {items items' : List AuditItem}

/-- **One turn**: a known entry is a source, and its state is kept if it is in effect. -/
theorem scan_eq (found : List Scored × List ℤ) (item : AuditItem) :
    scan python asOf effective found item =
      (found.1 ++ ([item].filter (Survives python asOf effective)).filterMap (scoredOf python),
        found.2 ++ ([item].filter (Known python asOf)).map (·.seq)) := by
  unfold scan
  cases isRecorded : parseText python item.recordedAt with
  | none =>
    have unknown : Known python asOf item = false := by
      unfold Known
      rw [isRecorded]
      rfl
    have gone : Survives python asOf effective item = false := by
      unfold Survives
      rw [unknown, Bool.false_and]
    simp [unknown, gone]
  | some recorded =>
    dsimp only
    split
    · rename_i late
      have unknown : Known python asOf item = false := by
        unfold Known
        rw [isRecorded, Option.any_some]
        exact decide_eq_false (not_le_of_gt late)
      have gone : Survives python asOf effective item = false := by
        unfold Survives
        rw [unknown, Bool.false_and]
      simp [unknown, gone]
    rename_i intime
    have known : Known python asOf item = true := by
      unfold Known
      rw [isRecorded, Option.any_some]
      exact decide_eq_true (not_lt.1 intime)
    have isSource : [item].filter (Known python asOf) = [item] := by simp [known]
    have survives : Survives python asOf effective item = InEffect python effective item := by
      unfold Survives
      rw [known, Bool.true_and]
    rw [isSource, List.map_singleton]
    rcases isEffective : parseTs python (effectiveRaw item) with _ | effectiveTs
    · have gone : InEffect python effective item = false := by
        unfold InEffect
        rw [isEffective]
        rfl
      simp [survives, gone]
    dsimp only
    split
    · rename_i late
      have gone : InEffect python effective item = false := by
        unfold InEffect
        rw [isEffective, Option.any_some]
        exact decide_eq_false (not_le_of_gt late)
      simp [survives, gone]
    rename_i intime
    have stays : InEffect python effective item = true := by
      unfold InEffect
      rw [isEffective, Option.any_some]
      exact decide_eq_true (not_lt.1 intime)
    cases isState : stateOf item with
    | none | some state => simp [survives, stays, scoredOf, isEffective, isState]

/-- **The loop** keeps the states of the entries that survive, and the sequences of those known. -/
theorem foldl_scan (found : List Scored × List ℤ) : items.foldl (scan python asOf effective) found =
      (found.1 ++ (items.filter (Survives python asOf effective)).filterMap (scoredOf python),
        found.2 ++ (items.filter (Known python asOf)).map (·.seq)) := by
  induction items generalizing found with
  | nil => simp
  | cons item items ih =>
    rw [List.foldl_cons, scan_eq, ih]
    dsimp only
    rw [List.append_assoc, List.append_assoc, ← List.filterMap_append, ← List.map_append,
      ← List.filter_append, ← List.filter_append, List.singleton_append]

end

/-- The states of the entries that survive both cutoffs. -/
def survivors (asOf effective : ℤ) (items : List AuditItem) : List Scored :=
  (items.filter (Survives python asOf effective)).filterMap (scoredOf python)

/-- The fold of some states, in the order of effect and of their sequences. -/
def foldInOrder (scored : List Scored) : State :=
  (sortedBy Scored.order scored).foldl (fun folded each => update folded each.state) .empty

variable {python} {resourceId : String} {items items' : List AuditItem} {asOf : Datetime}
variable {effective : Option Datetime}

/-- What a snapshot of two cutoffs in order is. -/
theorem snapshotAt_eq (named : resourceId ≠ "")
    (ordered : (effective.map ensureAware).getD (ensureAware asOf) ≤ ensureAware asOf) :
    snapshotAt python resourceId items asOf effective = .ok {
      resourceId
      asOf := ensureAware asOf
      effective := (effective.map ensureAware).getD (ensureAware asOf)
      state := foldInOrder (survivors python (ensureAware asOf)
        ((effective.map ensureAware).getD (ensureAware asOf)) items)
      sourceSeqs := sortedBy id ((items.filter (Known python (ensureAware asOf))).map (·.seq)) } := by
  unfold snapshotAt
  rw [if_neg named]
  dsimp only
  rw [if_neg (not_lt.2 ordered), foldl_scan]
  rfl

/-- The order of the states does not matter, if those of one time and one sequence are the same. -/
theorem foldInOrder_eq_of_perm {scored scored' : List Scored}
    (agree : ∀ each ∈ scored, ∀ other ∈ scored, each.order = other.order →
      each.state = other.state) (perm : scored.Perm scored') :
    foldInOrder scored = foldInOrder scored' := by
  have same : ∀ each ∈ scored, ∀ other ∈ scored, each.order = other.order → each = other := by
    intro each isEach other isOther sameOrder
    have sameState := agree each isEach other isOther sameOrder
    obtain ⟨effective, seq, state⟩ := each
    obtain ⟨effective', seq', state'⟩ := other
    unfold Scored.order at sameOrder
    obtain ⟨rfl, rfl⟩ := Prod.mk.inj (toLex_inj.1 sameOrder)
    cases sameState
    rfl
  unfold foldInOrder
  rw [sortedBy_eq_of_perm_of_inj same perm]

/-- **A bitemporal snapshot** is the fold, in the order of effect and of their sequences, of the
entries that survive both cutoffs; its sources are the sequences of the entries that were known; and
it does not depend on the order of the entries, if no two that survive have the same time of effect
and the same sequence but different states. -/
theorem snapshot_fold (named : resourceId ≠ "")
    (ordered : (effective.map ensureAware).getD (ensureAware asOf) ≤ ensureAware asOf) :
    ∃ snapshot, snapshotAt python resourceId items asOf effective = .ok snapshot ∧
      snapshot.state = foldInOrder (survivors python (ensureAware asOf)
        ((effective.map ensureAware).getD (ensureAware asOf)) items) ∧
      snapshot.sourceSeqs.Perm ((items.filter (Known python (ensureAware asOf))).map (·.seq)) ∧
      snapshot.sourceSeqs.Pairwise (· ≤ ·) ∧
      ((∀ scored ∈ survivors python (ensureAware asOf)
          ((effective.map ensureAware).getD (ensureAware asOf)) items,
        ∀ other ∈ survivors python (ensureAware asOf)
          ((effective.map ensureAware).getD (ensureAware asOf)) items,
        scored.order = other.order → scored.state = other.state) →
      ∀ items', items.Perm items' →
        snapshotAt python resourceId items' asOf effective = .ok snapshot) := by
  refine ⟨_, snapshotAt_eq named ordered, rfl, perm_sortedBy _ _, pairwise_sortedBy id _, ?_⟩
  intro agree items' perm
  rw [snapshotAt_eq named ordered]
  have sameSources : sortedBy id ((items'.filter (Known python (ensureAware asOf))).map (·.seq)) =
      sortedBy id ((items.filter (Known python (ensureAware asOf))).map (·.seq)) :=
    sortedBy_eq_of_perm_of_inj (fun _ _ _ _ same => same) ((perm.symm.filter _).map _)
  rw [sameSources, foldInOrder_eq_of_perm agree ((perm.filter _).filterMap _)]
  rfl

theorem survivors_cut {known earlier later : ℤ} (ordered : earlier ≤ later)
    (items : List AuditItem) :
    (survivors python known later items).filter (fun each => each.effective ≤ earlier) =
        survivors python known earlier items ∧
      (survivors python known later items).filter (fun each => !decide (each.effective ≤ earlier)) =
        survivors python known later (items.filter (!InEffect python earlier ·)) := by
  unfold survivors
  simp only [List.filter_filter, List.filterMap_filter, List.filter_filterMap]
  constructor <;>
  · refine congrArg (List.filterMap · items) (funext fun item => ?_)
    cases isScored : scoredOf python item with
    | none => simp
    | some each =>
      have inEffect (time : ℤ) : InEffect python time item = decide (each.effective ≤ time) := by
        unfold scoredOf at isScored
        split at isScored
        · rename_i parsed _
          obtain rfl := Option.some.inj isScored
          rw [InEffect, parsed, Option.any_some]
        · cases isScored
      unfold Survives
      rw [inEffect, inEffect]
      by_cases isKnown : Known python known item
      · by_cases early : each.effective ≤ earlier
        · simp [isKnown, early, early.trans ordered]
        · by_cases intime : each.effective ≤ later <;> simp [isKnown, early, intime] <;> omega
      · simp [isKnown]

/-- What a snapshot says as the time of effect goes on, and as entries are recorded later. -/
structure Advances (python : Python) (resourceId : String) (items : List AuditItem)
    (asOf earlier later : Datetime) : Prop where
  /-- Entries that were not known by the one time change nothing, and neither does an error. -/
  settled : ∀ items', items'.filter (Known python (ensureAware asOf)) =
      items.filter (Known python (ensureAware asOf)) →
    snapshotAt python resourceId items' asOf (some earlier) =
      snapshotAt python resourceId items asOf (some earlier)
  /-- The later state is the earlier one, updated by what took effect in between. -/
  advanced : ensureAware earlier ≤ ensureAware later → ∀ snapshot,
    snapshotAt python resourceId items asOf (some later) = .ok snapshot →
    ∃ before, snapshotAt python resourceId items asOf (some earlier) = .ok before ∧
      snapshot.sourceSeqs = before.sourceSeqs ∧
      snapshot.state = (sortedBy Scored.order (survivors python (ensureAware asOf)
        (ensureAware later) (items.filter (!InEffect python (ensureAware earlier) ·)))).foldl
          (fun folded each => update folded each.state) before.state

/-- **A snapshot is settled, and it advances.** -/
theorem snapshot_advances (items : List AuditItem) (asOf earlier later : Datetime) :
    Advances python resourceId items asOf earlier later := by
  constructor
  · intro items' same
    have survive (items : List AuditItem) (known effective : ℤ) :
        items.filter (Survives python known effective) =
          (items.filter (Known python known)).filter (InEffect python effective) := by
      rw [List.filter_filter]
      exact congrArg (items.filter ·) (funext fun item => Bool.and_comm ..)
    unfold snapshotAt
    dsimp only
    rw [foldl_scan, foldl_scan, survive, survive, same]
  · intro ordered snapshot done
    have named : resourceId ≠ "" := by
      rintro rfl
      cases done
    have intime : ensureAware later ≤ ensureAware asOf := by
      by_contra late
      simp only [snapshotAt, if_neg named, Option.map_some, Option.getD_some,
        if_pos (not_le.1 late)] at done
      cases done
    rw [snapshotAt_eq named (by exact intime)] at done
    obtain rfl := Except.ok.inj done
    refine ⟨_, snapshotAt_eq named (ordered.trans intime), rfl, ?_⟩
    -- what took effect by the earlier time is sorted before the rest
    have apart (a b : Scored) (early : a.effective ≤ ensureAware earlier)
        (late : ¬ b.effective ≤ ensureAware earlier) : a.order < b.order :=
      Prod.Lex.toLex_lt_toLex.2 (.inl (early.trans_lt (not_le.1 late)))
    unfold foldInOrder sortedBy
    simp only [Option.map_some, Option.getD_some]
    rw [insertionSort_cut (p := fun each => decide (each.effective ≤ ensureAware earlier))
      fun a _ b _ early late => ?_, List.foldl_append]
    · rw [(survivors_cut ordered items).1, (survivors_cut ordered items).2]
    · have before := apart a b (of_decide_eq_true early) (of_decide_eq_false late)
      exact ⟨before.le, not_le.2 before⟩
/-- The printed timestamps of aware datetimes are read back. -/
def printedPython : Python where
  str _ := ""
  fromisoformat text := some (.aware (fromIsoformat text))

/-- An entry of January, of a state that takes effect at a time. -/
def plannedAt (seq : ℤ) (effective tier : String) : AuditItem where
  seq
  entry := [("state", .object [("tier", .text tier)]), ("effective_at", .text effective)]
  recordedAt := "2026-01-01T00:00:00+00:00"

/-- The middle of January. -/
def midJanuary : Datetime := .aware (fromIsoformat "2026-01-15T00:00:00+00:00")

theorem snapshot_fold_january : ∃ snapshot, snapshotAt printedPython "res-1"
        [plannedAt 1 "2026-01-03T00:00:00+00:00" "S2", plannedAt 2 "2026-01-02T00:00:00+00:00" "S1"]
        midJanuary none = .ok snapshot ∧
      snapshot.state.values = [("tier", .text "S2")] ∧ snapshot.sourceSeqs.Perm [1, 2] := by
  obtain ⟨snapshot, done, isState, sources, -⟩ := @snapshot_fold printedPython "res-1"
    [plannedAt 1 "2026-01-03T00:00:00+00:00" "S2",
      plannedAt 2 "2026-01-02T00:00:00+00:00" "S1"] midJanuary none
    (by decide) le_rfl
  refine ⟨snapshot, done, ?_, sources.trans ?_⟩
  · rw [isState]
    decide +kernel
  · decide +kernel

/-- **An entry that is not in effect** is a source; and two states of one time and one sequence are
folded in the order in which they come. -/
theorem planned_entry_is_source :
    (¬ ∀ (python : Python) (resourceId : String) (items : List AuditItem) (asOf : Datetime)
      (effective : Option Datetime) (snapshot : BitemporalSnapshot),
      snapshotAt python resourceId items asOf effective = .ok snapshot →
      snapshot.sourceSeqs.Perm ((items.filter (Survives python (ensureAware asOf)
        ((effective.map ensureAware).getD (ensureAware asOf)))).map (·.seq))) ∧
    ¬ ∀ (python : Python) (resourceId : String) (items items' : List AuditItem) (asOf : Datetime)
      (effective : Option Datetime) (snapshot snapshot' : BitemporalSnapshot), items.Perm items' →
      snapshotAt python resourceId items asOf effective = .ok snapshot →
      snapshotAt python resourceId items' asOf effective = .ok snapshot' →
      ∀ name, snapshot.state.get name = snapshot'.state.get name := by
  constructor
  · intro always
    have sources := always printedPython "res-1" [plannedAt 1 "2026-02-01T00:00:00+00:00" "S1"]
      midJanuary none _ (snapshotAt_eq (by decide) le_rfl)
    have lengths := sources.length_eq
    revert lengths
    decide +kernel
  · intro always
    have same := always printedPython "res-1"
      [plannedAt 1 "2026-01-02T00:00:00+00:00" "S1", plannedAt 1 "2026-01-02T00:00:00+00:00" "S2"]
      [plannedAt 1 "2026-01-02T00:00:00+00:00" "S2", plannedAt 1 "2026-01-02T00:00:00+00:00" "S1"]
      midJanuary none _ _ (List.Perm.swap _ _ _) (snapshotAt_eq (by decide) le_rfl)
      (snapshotAt_eq (by decide) le_rfl) "tier"
    revert same
    decide +kernel

end Fdai.Core.Audit
