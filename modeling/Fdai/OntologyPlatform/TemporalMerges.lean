import Mathlib.Tactic.Ring
import Fdai.OntologyPlatform.SemanticRollupTemporal

/-!
# Temporal summaries merge

The summary of a window is the merge of the summaries of its parts, however they are grouped, provided
that no cut splits an observation: the counter step over a cut is scored like any other, and a run that
goes on over a cut is joined.

* `Grouped` — the groupings of adjacent windows, each with what is made of it.
* `temporal_summaries_merge` — every grouping of a window that is accepted gives its summary.
-/

namespace Fdai.Core.OntologyPlatform

open Sequences

variable {policy : RollupPolicyFields}

theorem touches_joining : Joining touches fun covered interval => (covered.1, interval.2) where
  joins_join := fun _ => rfl
  join_joins := fun _ => rfl
  assoc := fun _ _ => rfl

@[simp] theorem meetRevisions_nil (order : List String) : meetRevisions order [] = order := by
  unfold meetRevisions
  simp

@[simp] theorem nil_meetRevisions (order : List String) : meetRevisions [] order = order := by
  unfold meetRevisions
  cases order with
  | nil => rfl
  | cons head tail => simp

/-- The last revision is the one of the second run. -/
theorem meetRevisions_getLast? (order : List String) {head : String} {tail : List String} :
    (meetRevisions order (head :: tail)).getLast? = (head :: tail).getLast? := by
  unfold meetRevisions
  by_cases same : order.getLast? = some head
  · rw [List.head?_cons, if_pos same, List.drop_one, List.tail_cons, List.getLast?_append, same,
      List.getLast?_cons]
    cases tail.getLast? <;> rfl
  · rw [List.head?_cons, if_neg same, List.drop_zero, List.getLast?_append, List.getLast?_cons]
    rfl

theorem meetRevisions_assoc (a b c : List String) :
    meetRevisions (meetRevisions a b) c = meetRevisions a (meetRevisions b c) := by
  rcases b with _ | ⟨head, tail⟩
  · simp
  have few : (if a.getLast? = some head then 1 else 0) ≤ (head :: tail).length := by
    split <;> simp
  have outer : meetRevisions (meetRevisions a (head :: tail)) c = meetRevisions a (head :: tail) ++
        c.drop (if (head :: tail).getLast? = c.head? then 1 else 0) := by
    rw [← meetRevisions_getLast? a]
    rfl
  rw [outer]
  show a ++ (head :: tail).drop (if a.getLast? = some head then 1 else 0) ++ _ =
    a ++ ((head :: tail) ++ _).drop (if a.getLast? = some head then 1 else 0)
  rw [List.drop_append_of_le_length few, List.append_assoc]

theorem joins_joining : Joining (StateRun.joins policy) StateRun.join where
  joins_join := fun _ => rfl
  join_joins := by
    intro a b c joined
    have same : a.value = b.value := by
      unfold StateRun.joins at joined
      simp only [Bool.and_eq_true, decide_eq_true_eq] at joined
      exact joined.1.1.1.1.1.2
    unfold StateRun.joins StateRun.join
    rw [same]
  assoc := by
    intro a b c _ _
    unfold StateRun.join
    simp only [meetRevisions_assoc, add_assoc]

@[simp] theorem CounterSummary.merge_empty (counter : CounterSummary) : counter.merge {} = counter := by
  unfold CounterSummary.merge
  simp

/-- A pair counts the same after other counts. -/
theorem counterPair_merge {prior current : Sample} (left right : CounterSummary) :
    counterPair policy prior current (left.merge right) =
      (counterPair policy prior current right).map left.merge := by
  unfold counterPair
  cases unresolvedReason policy prior current with
  | some reason =>
    show Except.ok _ = Except.ok _
    simp [CounterSummary.merge, List.append_assoc]
  | none =>
    rcases current.value.decimal with message | now
    · rfl
    rcases prior.value.decimal with message | before
    · rfl
    show ite _ _ _ = Except.map _ (ite _ _ _)
    by_cases less : now < before
    · rw [if_pos less, if_pos less]
      show Except.ok _ = Except.ok _
      simp [CounterSummary.merge, List.append_assoc]
    rw [if_neg less, if_neg less]
    show Except.ok _ = Except.ok _
    simp only [CounterSummary.merge, Except.ok.injEq, CounterSummary.mk.injEq, and_true]
    ring

/-! ## Extrema -/

/-- An order that is decided: it is transitive, and so is its negation. -/
structure Orders (better : ℚ → ℚ → Bool) : Prop where
  trans : ∀ {a b c}, better a b = true → better b c = true → better a c = true
  negTrans : ∀ {a b c}, better a b = false → better b c = false → better a c = false

theorem orders_lt : Orders fun a b => decide (a < b) where
  trans := by
    intro a b c first second
    simp only [decide_eq_true_eq] at first second ⊢
    exact first.trans second
  negTrans := by
    intro a b c first second
    simp only [decide_eq_false_iff_not, not_lt] at first second ⊢
    exact second.trans first

theorem orders_gt : Orders fun a b => decide (a > b) where
  trans := by
    intro a b c first second
    simp only [decide_eq_true_eq] at first second ⊢
    exact second.trans first
  negTrans := by
    intro a b c first second
    simp only [decide_eq_false_iff_not, not_lt, gt_iff_lt] at first second ⊢
    exact first.trans second

def mergeExtremum (better : ℚ → ℚ → Bool) (old more : Option Sample) :
    Except String (Option Sample) :=
  match more with
  | none => .ok old
  | some point => extremum better old point

/-- **A point more**, after an extremum or with the one that is merged. -/
theorem extremum_merge {better : ℚ → ℚ → Bool} (orders : Orders better)
    {old more merged next : Option Sample} {point : Sample}
    (isMerged : mergeExtremum better old more = .ok merged)
    (isNext : extremum better merged point = .ok next) :
    ∃ more', extremum better more point = .ok more' ∧
      mergeExtremum better old more' = .ok next := by
  rcases more with _ | second
  · obtain rfl := Except.ok.inj isMerged
    exact ⟨some point, rfl, isNext⟩
  rcases old with _ | first
  · obtain rfl := Except.ok.inj isMerged
    obtain ⟨new, isNew, rest⟩ := bind_eq_ok.1 isNext
    obtain ⟨best, isBest, chosen⟩ := bind_eq_ok.1 rest
    obtain rfl := Except.ok.inj chosen
    exact ⟨_, isNext, rfl⟩
  obtain ⟨a, isSecond, rest⟩ := bind_eq_ok.1 isMerged
  obtain ⟨b, isFirst, chosen⟩ := bind_eq_ok.1 rest
  obtain rfl := Except.ok.inj chosen
  obtain ⟨c, isPoint, rest⟩ := bind_eq_ok.1 isNext
  obtain ⟨d, isStanding, chosen⟩ := bind_eq_ok.1 rest
  obtain rfl := Except.ok.inj chosen
  have step : ∀ {left right : Sample} {x y : ℚ}, left.value.decimal = .ok x →
      right.value.decimal = .ok y →
      extremum better (some left) right = .ok (some (if better y x then right else left)) := by
    intro left right x y isX isY
    show (right.value.decimal >>= fun new => left.value.decimal >>= _) = _
    rw [isX, isY]
    rfl
  refine ⟨_, step isSecond isPoint, ?_⟩
  show extremum better (some first) (if better c a then point else second) = _
  by_cases ofSecond : better c a = true
  · rw [if_pos ofSecond, step isFirst isPoint]
    by_cases ofFirst : better a b = true
    · rw [if_pos ofFirst] at isStanding ⊢
      obtain rfl := Except.ok.inj (isSecond.symm.trans isStanding)
      rw [if_pos ofSecond, if_pos (orders.trans ofSecond ofFirst)]
    rw [if_neg ofFirst] at isStanding ⊢
    obtain rfl := Except.ok.inj (isFirst.symm.trans isStanding)
    rfl
  · rw [if_neg ofSecond, step isFirst isSecond]
    by_cases ofFirst : better a b = true
    · rw [if_pos ofFirst] at isStanding ⊢
      obtain rfl := Except.ok.inj (isSecond.symm.trans isStanding)
      rw [if_neg ofSecond]
    rw [if_neg ofFirst] at isStanding ⊢
    obtain rfl := Except.ok.inj (isFirst.symm.trans isStanding)
    have not : better c b = false :=
      orders.negTrans (Bool.eq_false_iff.2 ofSecond) (Bool.eq_false_iff.2 ofFirst)
    rw [not, if_neg Bool.false_ne_true]

theorem Extrema.merge_eq (extrema more : Extrema) : extrema.merge more = (do
    let minimum ← mergeExtremum (· < ·) extrema.minimum more.minimum
    let maximum ← mergeExtremum (· > ·) extrema.maximum more.maximum
    return ⟨minimum, maximum⟩) := by
  unfold Extrema.merge mergeExtremum
  cases more.minimum <;> cases more.maximum <;> rfl

theorem Extrema.merge_empty (extrema : Extrema) : extrema.merge {} = .ok extrema := rfl

variable {sample : Sample}

/-- Both extrema, after a point more. -/
theorem Extrema.observe_merge {extrema more merged next : Extrema}
    (isMerged : extrema.merge more = .ok merged) (isNext : merged.observe sample = .ok next) :
    ∃ more', more.observe sample = .ok more' ∧ extrema.merge more' = .ok next := by
  rw [Extrema.merge_eq] at isMerged
  obtain ⟨least, isLeast, rest⟩ := bind_eq_ok.1 isMerged
  obtain ⟨most, isMost, built⟩ := bind_eq_ok.1 rest
  obtain rfl := Except.ok.inj built
  obtain ⟨nextLeast, isNextLeast, rest⟩ := bind_eq_ok.1 isNext
  obtain ⟨nextMost, isNextMost, built⟩ := bind_eq_ok.1 rest
  obtain rfl := Except.ok.inj built
  obtain ⟨least', observedLeast, mergedLeast⟩ := extremum_merge orders_lt isLeast isNextLeast
  obtain ⟨most', observedMost, mergedMost⟩ := extremum_merge orders_gt isMost isNextMost
  refine ⟨⟨least', most'⟩, ?_, ?_⟩
  · unfold Extrema.observe
    rw [observedLeast, observedMost]
    rfl
  · rw [Extrema.merge_eq]
    show (mergeExtremum _ _ least' >>= fun _ => mergeExtremum _ _ most' >>= _) = _
    rw [mergedLeast, mergedMost]
    rfl

/-! ## The facts of a summary -/

/-- A summary has the keys that its policy selects. -/
structure Keyed (policy : RollupPolicyFields) (facts : TemporalFacts) : Prop where
  counterDelta : facts.counterDelta.isSome = (noFacts policy).counterDelta.isSome
  timeline : facts.timeline.isSome = (noFacts policy).timeline.isSome
  extrema : facts.extrema.isSome = (noFacts policy).extrema.isSome

variable {facts next : TemporalFacts}

theorem observe_eq_ok : observe policy facts sample = .ok next ↔ ∃ counter extrema,
      observePair policy facts.last (some sample) facts.counterDelta = .ok counter ∧
        facts.extrema.mapM (·.observe sample) = .ok extrema ∧ next = {
          first := facts.first.or (some sample)
          last := some sample
          coverage := cover facts.coverage (sample.intervalStart, sample.intervalEnd)
          counterDelta := counter
          timeline := facts.timeline.map (appendStateRun policy · sample.run)
          extrema := extrema } := by
  unfold observe
  constructor
  · intro observed
    obtain ⟨counter, isCounter, rest⟩ := bind_eq_ok.1 observed
    obtain ⟨extrema, isExtrema, built⟩ := bind_eq_ok.1 rest
    exact ⟨counter, extrema, isCounter, isExtrema, (Except.ok.inj built).symm⟩
  · rintro ⟨counter, extrema, isCounter, isExtrema, rfl⟩
    rw [isCounter]
    show (facts.extrema.mapM (·.observe sample) >>= _) = _
    rw [isExtrema]
    rfl

theorem mergeFacts_eq_ok {result current merged : TemporalFacts} :
    mergeFacts policy result current = .ok merged ↔ ∃ paired counter timeline extrema,
      observePair policy result.last current.first result.counterDelta = .ok paired ∧
        mergeKey paired current.counterDelta (fun left right => .ok (left.merge right)) =
          .ok counter ∧
        mergeKey result.timeline current.timeline (fun runs more =>
          .ok (more.foldl (appendStateRun policy) runs)) = .ok timeline ∧
        mergeKey result.extrema current.extrema Extrema.merge = .ok extrema ∧ merged = {
          first := result.first.or current.first
          last := current.last.or result.last
          coverage := current.coverage.foldl cover result.coverage
          counterDelta := counter
          timeline := timeline
          extrema := extrema } := by
  unfold mergeFacts
  constructor
  · intro isMerged
    obtain ⟨paired, isPaired, rest⟩ := bind_eq_ok.1 isMerged
    obtain ⟨counter, isCounter, rest⟩ := bind_eq_ok.1 rest
    obtain ⟨timeline, isTimeline, rest⟩ := bind_eq_ok.1 rest
    obtain ⟨extrema, isExtrema, built⟩ := bind_eq_ok.1 rest
    exact ⟨paired, counter, timeline, extrema, isPaired, isCounter, isTimeline, isExtrema,
      (Except.ok.inj built).symm⟩
  · rintro ⟨paired, counter, timeline, extrema, isPaired, isCounter, isTimeline, isExtrema, rfl⟩
    rw [isPaired]
    show (mergeKey paired _ _ >>= _) = _
    rw [isCounter]
    show (mergeKey result.timeline _ _ >>= _) = _
    rw [isTimeline]
    show (mergeKey result.extrema _ _ >>= _) = _
    rw [isExtrema]
    rfl

/-- A pair does not change which keys there are. -/
theorem isSome_of_observePair {prior current : Option Sample} {counter next : Option CounterSummary}
    (paired : observePair policy prior current counter = .ok next) :
    next.isSome = counter.isSome := by
  unfold observePair at paired
  split at paired
  · obtain ⟨-, paired⟩ := check_bind_eq_ok.1 paired
    rcases counter with _ | counter
    · exact congrArg Option.isSome (Except.ok.inj paired).symm
    obtain ⟨found, -, built⟩ := bind_eq_ok.1 paired
    rw [← Except.ok.inj built]
    rfl
  · exact congrArg Option.isSome (Except.ok.inj paired).symm

theorem isSome_of_mapM {extrema next : Option Extrema}
    (observed : extrema.mapM (·.observe sample) = .ok next) : next.isSome = extrema.isSome := by
  rcases extrema with _ | extrema
  · exact congrArg Option.isSome (Except.ok.inj observed).symm
  obtain ⟨found, -, built⟩ :=
    bind_eq_ok.1 (show (extrema.observe sample >>= _) = _ from observed)
  rw [← Except.ok.inj built]
  rfl

variable {α : Type}

theorem mergeKey_eq_ok {left right merged : Option α} {merge : α → α → Except String α}
    (same : left.isSome = right.isSome) :
    mergeKey left right merge = .ok merged ↔
      (left = none ∧ right = none ∧ merged = none) ∨ ∃ a b c, left = some a ∧ right = some b ∧
        merge a b = .ok c ∧ merged = some c := by
  cases left with
  | none =>
    cases right with
    | some b => cases same
    | none =>
      constructor
      · intro isMerged
        exact .inl ⟨rfl, rfl, (Except.ok.inj isMerged).symm⟩
      · rintro (⟨-, -, rfl⟩ | ⟨_, _, _, isSome, -⟩)
        · rfl
        · cases isSome
  | some a =>
    rcases right with _ | b
    · cases same
    constructor
    · intro isMerged
      obtain ⟨c, isMerge, isC⟩ : ∃ c, merge a b = .ok c ∧ some c = merged := by
        cases found : merge a b with
        | error message =>
          rw [show mergeKey (some a) (some b) merge = (merge a b).map some from rfl,
            found] at isMerged
          cases isMerged
        | ok c =>
          rw [show mergeKey (some a) (some b) merge = (merge a b).map some from rfl,
            found] at isMerged
          exact ⟨c, rfl, Except.ok.inj isMerged⟩
      exact .inr ⟨a, b, c, rfl, rfl, isMerge, isC.symm⟩
    · rintro (⟨isNone, -⟩ | ⟨_, _, c, isA, isB, isMerge, rfl⟩)
      · cases isNone
      · obtain rfl := Option.some.inj isA
        obtain rfl := Option.some.inj isB
        show (merge a b).map some = _
        rw [isMerge]
        rfl

variable {selected : Bool}

theorem mergeKey_empty {left : Option α} {merge : α → α → Except String α} {empty : α}
    (same : left.isSome = (if selected then some empty else none).isSome)
    (unit : ∀ a, merge a empty = .ok a) :
    mergeKey left (if selected then some empty else none) merge = .ok left := by
  rcases selected with _ | _
  · cases left with
    | none => rfl
    | some a => cases same
  rcases left with _ | a
  · cases same
  show (merge a empty).map some = _
  rw [unit]
  rfl

theorem Keyed.merge_start (keyed : Keyed policy facts) :
    mergeFacts policy facts (noFacts policy) = .ok facts := by
  refine mergeFacts_eq_ok.2 ⟨facts.counterDelta, facts.counterDelta, facts.timeline, facts.extrema,
    ?_, ?_, ?_, ?_, ?_⟩
  · cases facts.last <;> rfl
  · refine mergeKey_empty keyed.counterDelta ?_
    intro counter
    rw [counter.merge_empty]
  · exact mergeKey_empty keyed.timeline fun _ => rfl
  · exact mergeKey_empty keyed.extrema Extrema.merge_empty
  · obtain ⟨first, last, coverage, counterDelta, timeline, extrema⟩ := facts
    cases first <;> rfl

theorem Keyed.observe (keyed : Keyed policy facts)
    (observed : observe policy facts sample = .ok next) : Keyed policy next := by
  obtain ⟨counter, extrema, isCounter, isExtrema, rfl⟩ := observe_eq_ok.1 observed
  refine ⟨?_, ?_, ?_⟩
  · exact (isSome_of_observePair isCounter).trans keyed.counterDelta
  · show (facts.timeline.map _).isSome = _
    rw [Option.isSome_map]
    exact keyed.timeline
  · exact (isSome_of_mapM isExtrema).trans keyed.extrema

theorem timeline_first {runs : Option (List StateRun)} {run : StateRun}
    (same : runs.isSome = (if selected then some ([] : List StateRun) else none).isSome) :
    mergeKey runs ((if selected then some [] else none).map (appendStateRun policy · run))
      (fun runs more => .ok (more.foldl (appendStateRun policy) runs)) =
        .ok (runs.map (appendStateRun policy · run)) := by
  cases selected with
  | false =>
    cases runs with
    | none => rfl
    | some runs => cases same
  | true =>
    cases runs with
    | none => cases same
    | some runs => rfl

theorem extrema_first {extrema next : Option Extrema}
    (same : extrema.isSome = (if selected then some ({} : Extrema) else none).isSome)
    (observed : extrema.mapM (·.observe sample) = .ok next) :
    ∃ first, (if selected then some ({} : Extrema) else none).mapM (·.observe sample) = .ok first ∧
      mergeKey extrema first Extrema.merge = .ok next := by
  rcases selected with _ | _
  · cases extrema with
    | none => exact ⟨none, rfl, observed⟩
    | some extrema => cases same
  rcases extrema with _ | extrema
  · cases same
  refine ⟨some ⟨some sample, some sample⟩, rfl, ?_⟩
  obtain ⟨found, isFound, built⟩ :=
    bind_eq_ok.1 (show (extrema.observe sample >>= _) = _ from observed)
  obtain rfl := Except.ok.inj built
  show (extrema.observe sample).map some = _
  rw [isFound]
  rfl

/-- **The first sample** of a summary that is merged. -/
theorem Keyed.merge_first
    (keyed : Keyed policy facts) (observed : OntologyPlatform.observe policy facts sample = .ok next) :
    ∃ first, OntologyPlatform.observe policy (noFacts policy) sample = .ok first ∧
      mergeFacts policy facts first = .ok next := by
  obtain ⟨counter, extrema, isCounter, isExtrema, rfl⟩ := observe_eq_ok.1 observed
  obtain ⟨first, isFirst, mergesExtrema⟩ := extrema_first keyed.extrema isExtrema
  refine ⟨_, observe_eq_ok.2 ⟨(noFacts policy).counterDelta, first, rfl, isFirst, rfl⟩,
    mergeFacts_eq_ok.2 ⟨counter, counter, _, extrema, isCounter, ?_, timeline_first keyed.timeline,
      mergesExtrema, rfl⟩⟩
  refine mergeKey_empty ((isSome_of_observePair isCounter).trans keyed.counterDelta) ?_
  intro summary
  rw [summary.merge_empty]

/-- A pair more, after the counter is merged or before. -/
theorem observePair_merge {prior current : Option Sample}
    {left right merged next : Option CounterSummary}
    (isMerged : mergeKey left right (fun left right => .ok (left.merge right)) = .ok merged)
    (same : left.isSome = right.isSome)
    (isNext : observePair policy prior current merged = .ok next) :
    ∃ right', observePair policy prior current right = .ok right' ∧
      mergeKey left right' (fun left right => .ok (left.merge right)) = .ok next := by
  rcases (mergeKey_eq_ok same).1 isMerged with ⟨rfl, rfl, rfl⟩ | ⟨a, b, c, rfl, rfl, isC, rfl⟩
  · refine ⟨next, isNext, ?_⟩
    have isNone := isSome_of_observePair isNext
    rw [Option.isSome_none, Option.isSome_eq_false_iff, Option.isNone_iff_eq_none] at isNone
    rw [isNone]
    rfl
  obtain rfl := Except.ok.inj isC
  unfold observePair at isNext ⊢
  split at isNext
  · obtain ⟨isValid, paired⟩ := check_bind_eq_ok.1 isNext
    obtain ⟨found, isFound, built⟩ := bind_eq_ok.1 paired
    obtain rfl := Except.ok.inj built
    rw [counterPair_merge] at isFound
    rcases counted : counterPair policy _ _ b with message | count
    · rw [counted] at isFound
      cases isFound
    rw [counted] at isFound
    obtain rfl := Except.ok.inj isFound
    refine ⟨some count, ?_, rfl⟩
    refine check_bind_eq_ok.2 ⟨isValid, ?_⟩
    show (counterPair policy _ _ b >>= _) = _
    rw [counted]
    rfl
  · obtain rfl := Except.ok.inj isNext
    exact ⟨some b, rfl, rfl⟩

theorem timeline_merge {left right merged : Option (List StateRun)} {run : StateRun}
    (isMerged : mergeKey left right (fun runs more =>
      .ok (more.foldl (appendStateRun policy) runs)) = .ok merged)
    (same : left.isSome = right.isSome) :
    mergeKey left (right.map (appendStateRun policy · run)) (fun runs more =>
      .ok (more.foldl (appendStateRun policy) runs)) =
        .ok (merged.map (appendStateRun policy · run)) := by
  rcases (mergeKey_eq_ok same).1 isMerged with ⟨rfl, rfl, rfl⟩ | ⟨a, b, c, rfl, rfl, isC, rfl⟩
  · rfl
  obtain rfl := Except.ok.inj isC
  show Except.ok (some _) = _
  exact congrArg (fun runs => Except.ok (some runs)) (foldl_appendRun joins_joining a b run)

/-- A point more, after the extrema are merged or before. -/
theorem extrema_merge {left right merged next : Option Extrema}
    (isMerged : mergeKey left right Extrema.merge = .ok merged)
    (same : left.isSome = right.isSome)
    (isNext : merged.mapM (·.observe sample) = .ok next) :
    ∃ right', right.mapM (·.observe sample) = .ok right' ∧
      mergeKey left right' Extrema.merge = .ok next := by
  rcases (mergeKey_eq_ok same).1 isMerged with ⟨rfl, rfl, rfl⟩ | ⟨a, b, c, rfl, rfl, isC, rfl⟩
  · exact ⟨none, rfl, isNext⟩
  obtain ⟨found, isFound, built⟩ :=
    bind_eq_ok.1 (show (c.observe sample >>= _) = _ from isNext)
  obtain rfl := Except.ok.inj built
  obtain ⟨b', isB', isMerge⟩ := Extrema.observe_merge isC isFound
  refine ⟨some b', ?_, ?_⟩
  · show (b.observe sample >>= _) = _
    rw [isB']
    rfl
  · show (a.merge b').map some = _
    rw [isMerge]
    rfl

/-- **A sample more**, after a merge or before. -/
theorem Keyed.merge_step {left right merged : TemporalFacts}
    (keyed : Keyed policy left) (keyedRight : Keyed policy right)
    (begun : right.first.isSome = true ∧ right.last.isSome = true)
    (isMerged : mergeFacts policy left right = .ok merged)
    (observed : OntologyPlatform.observe policy merged sample = .ok next) :
    ∃ right', OntologyPlatform.observe policy right sample = .ok right' ∧
      mergeFacts policy left right' = .ok next := by
  obtain ⟨paired, counter, timeline, extrema, isPaired, isCounter, isTimeline, isExtrema, rfl⟩ :=
    mergeFacts_eq_ok.1 isMerged
  obtain ⟨nextCounter, nextExtrema, isNextCounter, isNextExtrema, rfl⟩ := observe_eq_ok.1 observed
  obtain ⟨⟨first, isFirst⟩, ⟨last, isLast⟩⟩ :=
    And.intro (Option.isSome_iff_exists.1 begun.1) (Option.isSome_iff_exists.1 begun.2)
  have lastOf : right.last.or left.last = right.last := by rw [isLast]; rfl
  rw [lastOf] at isNextCounter
  have sameCounter : paired.isSome = right.counterDelta.isSome :=
    (isSome_of_observePair isPaired).trans (keyed.counterDelta.trans keyedRight.counterDelta.symm)
  obtain ⟨rightCounter, isRightCounter, mergesCounter⟩ :=
    observePair_merge isCounter sameCounter isNextCounter
  obtain ⟨rightExtrema, isRightExtrema, mergesExtrema⟩ :=
    extrema_merge isExtrema (keyed.extrema.trans keyedRight.extrema.symm) isNextExtrema
  refine ⟨_, observe_eq_ok.2 ⟨rightCounter, rightExtrema, isRightCounter, isRightExtrema, rfl⟩,
    mergeFacts_eq_ok.2 ⟨paired, nextCounter, _, nextExtrema, ?_, mergesCounter,
      timeline_merge isTimeline (keyed.timeline.trans keyedRight.timeline.symm), mergesExtrema, ?_⟩⟩
  · -- The first sample of the second summary stays the same.
    rw [isFirst] at isPaired ⊢
    exact isPaired
  · rw [isFirst]
    have covered := foldl_appendRun touches_joining left.coverage right.coverage
      (sample.intervalStart, sample.intervalEnd)
    show TemporalFacts.mk _ _ _ _ _ _ = TemporalFacts.mk _ _ _ _ _ _
    refine TemporalFacts.mk.injEq .. |>.mpr ⟨?_, rfl, covered.symm, rfl, rfl, rfl⟩
    cases left.first <;> rfl

/-- **The facts of a summary** are a summary that merges. -/
def temporalSummarizing (policy : RollupPolicyFields) :
    Summarizing String Sample TemporalFacts where
  start := noFacts policy
  step := observe policy
  merge := mergeFacts policy
  Fits := Keyed policy
  Begun facts := facts.first.isSome = true ∧ facts.last.isSome = true
  fits_start := ⟨rfl, rfl, rfl⟩
  fits_step := Keyed.observe
  begun_step := by
    intro facts sample next observed
    obtain ⟨counter, extrema, -, -, rfl⟩ := observe_eq_ok.1 observed
    exact ⟨by simp, rfl⟩
  merge_start := Keyed.merge_start
  merge_first := Keyed.merge_first
  merge_step := Keyed.merge_step

/-! ## Windows -/

/-- The samples of a window, in order. -/
def samplesOf (observations : List RollupObservation) : List Sample :=
  (byStart observations).map (·.val.sample)

/-- The source that `build_temporal` finds. -/
def sourceOf (observations : List RollupObservation) : Option (String × String) :=
  (observations.map (·.val.source)).dedup.head?

/-- The time basis that `build_temporal` finds. -/
def basisOf (observations : List RollupObservation) : Option String :=
  (observations.map (·.val.eventAt.isSome)).dedup.head?.map
    fun present => if present then "event_at" else "effective_at"

/-- What `build_temporal` accepts, with the facts of it. -/
structure Accepted (policy : RollupPolicyFields) (observations : List RollupObservation)
    (facts : TemporalFacts) : Prop where
  source : ∀ a ∈ observations, ∀ b ∈ observations, a.val.source = b.val.source
  basis : ∀ a ∈ observations, ∀ b ∈ observations, a.val.eventAt.isSome = b.val.eventAt.isSome
  timely : ∀ a ∈ observations, a.val.sample.timely = true
  cumulative : policy.selects .counterDelta = true → ∀ a ∈ observations,
    ∃ value, a.val.sample.value.decimal = .ok value ∧ 0 ≤ value
  run : (temporalSummarizing policy).run (samplesOf observations) = .ok facts

variable {β : Type}

/-- There is at most one value. -/
theorem not_one_lt_dedup_iff [DecidableEq β] {items : List α} {value : α → β} :
    ¬ 1 < (items.map value).dedup.length ↔ ∀ a ∈ items, ∀ b ∈ items, value a = value b := by
  have ofValues : (∀ a ∈ items, ∀ b ∈ items, value a = value b) ↔
      ∀ a ∈ items.map value, ∀ b ∈ items.map value, a = b := by
    simp only [List.forall_mem_map]
  rw [ofValues]
  generalize items.map value = values
  constructor
  · intro few a insideA b insideB
    rw [← List.mem_dedup] at insideA insideB
    match isDedup : values.dedup with
    | [] =>
      rw [isDedup] at insideA
      cases insideA
    | [value] =>
      rw [isDedup, List.mem_singleton] at insideA insideB
      rw [insideA, insideB]
    | _ :: _ :: _ =>
      rw [isDedup] at few
      exact absurd (by simp) few
  · intro same many
    match isDedup : values.dedup with
    | [] => simp [isDedup] at many
    | [value] => simp [isDedup] at many
    | a :: b :: rest =>
      have apart := List.nodup_dedup values
      rw [isDedup, List.nodup_cons] at apart
      have isSame : a = b :=
        same a (List.mem_dedup.1 (by simp [isDedup])) b (List.mem_dedup.1 (by simp [isDedup]))
      exact apart.1 (isSame ▸ List.mem_cons_self)

/-- The only value is found first. -/
theorem dedup_head? [DecidableEq α] {values : List α} {value : α}
    (inside : value ∈ values) (same : ∀ a ∈ values, a = value) :
    values.dedup.head? = some value := by
  cases isDedup : values.dedup with
  | nil =>
    rw [← List.mem_dedup, isDedup] at inside
    cases inside
  | cons head tail =>
    rw [List.head?_cons, same head (List.mem_dedup.1 (by simp [isDedup]))]

theorem checkCumulative_eq_ok {samples : List Sample} : checkCumulative samples = .ok () ↔
      ∀ sample ∈ samples, ∃ value, sample.value.decimal = .ok value ∧ 0 ≤ value := by
  induction samples with
  | nil => simp [checkCumulative]
  | cons sample rest ih =>
    unfold checkCumulative
    rw [bind_eq_ok, List.forall_mem_cons]
    constructor
    · rintro ⟨value, isValue, checked⟩
      split at checked
      · cases checked
      · rename_i nonnegative
        exact ⟨⟨value, isValue, not_lt.1 nonnegative⟩, ih.1 checked⟩
    · rintro ⟨⟨value, isValue, nonnegative⟩, others⟩
      refine ⟨value, isValue, ?_⟩
      rw [if_neg (not_lt.2 nonnegative)]
      exact ih.2 others

variable {observations : List RollupObservation}

theorem forall_samplesOf {holds : Sample → Prop} :
    (∀ sample ∈ samplesOf observations, holds sample) ↔ ∀ a ∈ observations, holds a.val.sample := by
  unfold samplesOf byStart
  rw [List.forall_mem_map]
  simp only [List.mem_insertionSort]

theorem checkCounter_eq_ok : checkCounter policy (samplesOf observations) = .ok () ↔
      (policy.selects .counterDelta = true → ∀ a ∈ observations,
        ∃ value, a.val.sample.value.decimal = .ok value ∧ 0 ≤ value) := by
  unfold checkCounter
  by_cases selected : policy.selects .counterDelta = true
  · rw [if_pos selected, checkCumulative_eq_ok]
    exact ⟨fun all _ => forall_samplesOf.1 all, fun all => forall_samplesOf.2 (all selected)⟩
  · rw [if_neg selected]
    exact ⟨fun _ isSelected => absurd isSelected selected, fun _ => rfl⟩

/-- **What is accepted** is summarized. -/
theorem buildTemporal_eq_ok {windowStart windowEnd : ℤ} {summary : TemporalSummary} :
    buildTemporal policy observations windowStart windowEnd = .ok summary ↔
      ∃ facts, Accepted policy observations facts ∧ summary = finish policy (sourceOf observations)
        (basisOf observations) facts windowStart windowEnd := by
  have sources : ¬ 1 < (observations.map (·.val.source)).dedup.length ↔
      ∀ a ∈ observations, ∀ b ∈ observations, a.val.source = b.val.source :=
    not_one_lt_dedup_iff
  have bases : ¬ 1 < (observations.map (·.val.eventAt.isSome)).dedup.length ↔
      ∀ a ∈ observations, ∀ b ∈ observations, a.val.eventAt.isSome = b.val.eventAt.isSome :=
    not_one_lt_dedup_iff
  have timely : (samplesOf observations).all Sample.timely = true ↔
      ∀ a ∈ observations, a.val.sample.timely = true := by
    rw [List.all_eq_true]
    exact forall_samplesOf
  unfold buildTemporal
  show ite _ _ (ite _ _ (ite ((!(samplesOf observations).all Sample.timely) = true) _
    (checkCounter policy (samplesOf observations) >>= fun _ =>
      (temporalSummarizing policy).run (samplesOf observations) >>= _))) = _ ↔ _
  constructor
  · intro built
    split at built
    · cases built
    rename_i oneSource
    split at built
    · cases built
    rename_i oneBasis
    split at built
    · cases built
    rename_i allTimely
    obtain ⟨checked, built⟩ := check_bind_eq_ok.1 built
    obtain ⟨facts, isRun, built⟩ := bind_eq_ok.1 built
    exact ⟨facts, ⟨sources.1 oneSource, bases.1 oneBasis, timely.1 (by simpa using allTimely),
      checkCounter_eq_ok.1 checked, isRun⟩, (Except.ok.inj built).symm⟩
  · rintro ⟨facts, accepted, rfl⟩
    rw [if_neg (sources.2 accepted.source), if_neg (bases.2 accepted.basis),
      if_neg (by rw [timely.2 accepted.timely]; decide)]
    exact check_bind_eq_ok.2 ⟨checkCounter_eq_ok.2 accepted.cumulative,
      bind_eq_ok.2 ⟨facts, accepted.run, rfl⟩⟩

/-- Windows one after the other, whose cuts split no observation. -/
def Adjacent (observations : List RollupObservation) : ℤ → List (ℤ × ℤ) → ℤ → Prop
  | start, [], finish => start = finish
  | start, window :: rest, finish => window.1 = start ∧ window.1 ≤ window.2 ∧
      Unsplit observations window.2 ∧ Adjacent observations window.2 rest finish

variable {windows : List (ℤ × ℤ)} {start finish : ℤ}

theorem Adjacent.le (adjacent : Adjacent observations start windows finish) : start ≤ finish := by
  induction windows generalizing start with
  | nil => exact le_of_eq adjacent
  | cons window rest ih =>
    obtain ⟨rfl, ordered, -, adjacent⟩ := adjacent
    exact ordered.trans (ih adjacent)

/-- **A cut** that splits no observation sorts the observations of a window part by part. -/
theorem byStart_within {cut : ℤ}
    (before : start ≤ cut) (after : cut ≤ finish) (unsplit : Unsplit observations cut) :
    byStart (within observations start finish) =
      byStart (within observations start cut) ++ byStart (within observations cut finish) := by
  unfold byStart within
  rw [insertionSort_cut (p := fun a => decide (a.val.intervalEnd ≤ cut))]
  · congr 2
    · rw [List.filter_filter]
      refine List.filter_congr ?_
      intro a _
      have positive := RollupObservation.positive a
      unfold RollupObservationFields.inside
      rw [Bool.eq_iff_iff]
      simp only [Bool.and_eq_true, decide_eq_true_eq]
      omega
    · rw [List.filter_filter]
      refine List.filter_congr ?_
      intro a isObservation
      have positive := RollupObservation.positive a
      have apart := unsplit a isObservation
      unfold RollupObservationFields.inside
      rw [Bool.eq_iff_iff]
      simp only [Bool.and_eq_true, Bool.not_eq_true', decide_eq_true_eq, decide_eq_false_iff_not]
      omega
  · intro a insideA b insideB earlier later
    have positive := RollupObservation.positive a
    have apart := unsplit b (List.mem_filter.1 insideB).1
    simp only [decide_eq_true_eq, decide_eq_false_iff_not] at earlier later
    omega

theorem within_empty (observations : List RollupObservation) (cut : ℤ) :
    within observations cut cut = [] := by
  unfold within
  rw [List.filter_eq_nil_iff]
  intro a _
  have positive := RollupObservation.positive a
  unfold RollupObservationFields.inside
  simp only [Bool.and_eq_true, decide_eq_true_eq]
  omega

theorem samplesOf_within (adjacent : Adjacent observations start windows finish) :
    samplesOf (within observations start finish) =
      (windows.map fun window => samplesOf (within observations window.1 window.2)).flatten := by
  induction windows generalizing start with
  | nil =>
    obtain rfl : start = finish := adjacent
    rw [within_empty]
    rfl
  | cons window rest ih =>
    obtain ⟨rfl, ordered, unsplit, adjacent⟩ := adjacent
    rw [List.map_cons, List.flatten_cons, ← ih adjacent]
    unfold samplesOf
    rw [byStart_within ordered adjacent.le unsplit, List.map_append]

/-! ## Merging the parts -/

/-- What is said of a source and a time basis in a summary: a summary of nothing has none. -/
structure Sourced (policy : RollupPolicyFields) (source : Option (String × String))
    (timeBasis : Option String) (summary : TemporalSummary) : Prop where
  policy : summary.policy = binding policy
  present : summary.facts.first.isSome = true →
    summary.source = source ∧ summary.timeBasis = timeBasis
  absent : summary.facts.first = none → summary.source = none ∧ summary.timeBasis = none

/-- **The loop of the merge** merges the facts, and keeps the source. -/
theorem foldlM_mergeInto {source : Option (String × String)} {timeBasis : Option String}
    {head : TemporalSummary} (tail : List TemporalSummary)
    (sourced : Sourced policy source timeBasis head)
    (sourcedTail : ∀ summary ∈ tail, Sourced policy source timeBasis summary)
    (merged : (tail.map (·.facts)).foldlM (mergeFacts policy) head.facts = .ok facts) :
    ∃ result, tail.foldlM (mergeInto policy) head = .ok result ∧ result.facts = facts ∧
      Sourced policy source timeBasis result := by
  induction tail generalizing head with
  | nil =>
    obtain rfl := Except.ok.inj merged
    exact ⟨head, rfl, rfl, sourced⟩
  | cons current tail ih =>
    rw [List.map_cons, List.foldlM_cons] at merged
    obtain ⟨next, isNext, merged⟩ := bind_eq_ok.1 merged
    have isFacts : next.first = head.facts.first.or current.facts.first := by
      obtain ⟨_, _, _, _, -, -, -, -, rfl⟩ := mergeFacts_eq_ok.1 isNext
      rfl
    have ofCurrent := sourcedTail current List.mem_cons_self
    have isMerged : mergeInto policy head current = .ok { head with
        facts := next
        source := if head.facts.first.isNone && current.facts.first.isSome then current.source
          else head.source
        timeBasis := if head.facts.first.isNone && current.facts.first.isSome then
          current.timeBasis else head.timeBasis } := by
      unfold mergeInto
      rw [isNext]
      rfl
    obtain ⟨result, isResult, sameFacts, sourcedResult⟩ := @ih { head with
        facts := next
        source := if head.facts.first.isNone && current.facts.first.isSome then current.source
          else head.source
        timeBasis := if head.facts.first.isNone && current.facts.first.isSome then
          current.timeBasis else head.timeBasis } (by
      refine ⟨sourced.policy, ?_, ?_⟩
      · intro present
        rw [isFacts] at present
        cases ofHead : head.facts.first with
        | some first =>
          simpa using sourced.present (by rw [ofHead]; rfl)
        | none =>
          have isSome : current.facts.first.isSome = true := by
            simpa [ofHead] using present
          simpa [isSome] using ofCurrent.present isSome
      · intro absent
        rw [isFacts] at absent
        cases ofHead : head.facts.first with
        | some first => simp [ofHead] at absent
        | none =>
          have isNone : current.facts.first = none := by
            simpa [ofHead] using absent
          simpa [isNone] using sourced.absent ofHead)
      (fun summary inside => sourcedTail summary (List.mem_cons_of_mem current inside)) merged
    refine ⟨result, ?_, sameFacts, sourcedResult⟩
    rw [List.foldlM_cons, isMerged]
    exact isResult

def TemporalPart.window (part : TemporalPart) : ℤ × ℤ := (part.windowStart, part.windowEnd)

theorem Adjacent.last {first : TemporalPart} {rest : List TemporalPart}
    (adjacent : Adjacent observations start ((first :: rest).map TemporalPart.window) finish) :
    (rest.getLast?.map (·.windowEnd)).getD first.windowEnd = finish := by
  obtain ⟨-, -, -, adjacent⟩ := adjacent
  induction rest generalizing first with
  | nil => exact adjacent
  | cons next rest ih =>
    obtain ⟨-, -, -, adjacent⟩ := adjacent
    rw [List.getLast?_cons]
    have last := ih adjacent
    cases ofRest : rest.getLast? with
    | none | some final =>
      rw [ofRest] at last
      exact last

/-- **Parts with the facts of their windows** are merged into the summary of the whole. -/
theorem mergeTemporal_eq_ok {first : TemporalPart}
    {rest : List TemporalPart} {source : Option (String × String)}
    {timeBasis : Option String}
    (adjacent : Adjacent observations start ((first :: rest).map TemporalPart.window) finish)
    (sourced : ∀ part ∈ first :: rest, Sourced policy source timeBasis part.summary)
    (absent : facts.first = none → source = none ∧ timeBasis = none)
    (merged : (rest.map (·.summary.facts)).foldlM (mergeFacts policy) first.summary.facts =
      .ok facts) :
    mergeTemporal policy (first :: rest) =
      .ok (OntologyPlatform.finish policy source timeBasis facts start finish) := by
  have isStart : first.windowStart = start := adjacent.1
  obtain ⟨result, isResult, rfl, sourcedResult⟩ := foldlM_mergeInto (rest.map (·.summary))
    (sourced first List.mem_cons_self) (by
      intro summary inside
      obtain ⟨part, isPart, rfl⟩ := List.mem_map.1 inside
      exact sourced part (List.mem_cons_of_mem first isPart))
    (by rw [List.map_map]; exact merged)
  have present : ∀ summary ∈ ((first :: rest).map (·.summary)).filter (·.facts.first.isSome),
      summary.source = source ∧ summary.timeBasis = timeBasis := by
    intro summary inside
    obtain ⟨inside, isPresent⟩ := List.mem_filter.1 inside
    obtain ⟨part, isPart, rfl⟩ := List.mem_map.1 inside
    exact (sourced part isPart).present isPresent
  show ite _ _ (ite _ _ (ite _ _ ((rest.map (·.summary)).foldlM (mergeInto policy) first.summary >>=
    _))) = _
  rw [if_neg, if_neg, if_neg]
  · refine bind_eq_ok.2 ⟨result, isResult, ?_⟩
    rw [adjacent.last, isStart]
    have same : result.source = source ∧ result.timeBasis = timeBasis := by
      cases seen : result.facts.first with
      | none =>
        obtain ⟨noSource, noBasis⟩ := absent seen
        rw [noSource, noBasis]
        exact sourcedResult.absent seen
      | some sample => exact sourcedResult.present (by rw [seen]; rfl)
    rw [same.1, same.2]
    rfl
  · rw [not_one_lt_dedup_iff]
    intro a insideA b insideB
    rw [(present a insideA).2, (present b insideB).2]
  · rw [not_one_lt_dedup_iff]
    intro a insideA b insideB
    rw [(present a insideA).1, (present b insideB).1]
  · rw [List.any_eq_true]
    rintro ⟨part, inside, differs⟩
    exact of_decide_eq_true differs (sourced part inside).policy

def buildPart (policy : RollupPolicyFields) (observations : List RollupObservation)
    (window : ℤ × ℤ) : Except String TemporalPart :=
  (buildTemporal policy (within observations window.1 window.2) window.1 window.2).map
    (⟨window.1, window.2, ·⟩)

theorem within_subset (adjacent : Adjacent observations start windows finish) {window : ℤ × ℤ}
    (isWindow : window ∈ windows) :
    within observations window.1 window.2 ⊆ within observations start finish := by
  have bounds : start ≤ window.1 ∧ window.2 ≤ finish := by
    induction windows generalizing start with
    | nil => cases isWindow
    | cons head rest ih =>
      obtain ⟨rfl, ordered, -, adjacent⟩ := adjacent
      rcases List.mem_cons.1 isWindow with rfl | later
      · exact ⟨le_rfl, adjacent.le⟩
      · have inside := ih adjacent later
        exact ⟨ordered.trans inside.1, inside.2⟩
  intro a inside
  unfold within at inside ⊢
  rw [List.mem_filter] at inside ⊢
  refine ⟨inside.1, ?_⟩
  have isInside := inside.2
  unfold RollupObservationFields.inside at isInside ⊢
  simp only [Bool.and_eq_true, decide_eq_true_eq] at isInside ⊢
  omega

/-- A summary has seen a sample exactly if there is an observation. -/
theorem first_isSome_iff
    (isRun : (temporalSummarizing policy).run (samplesOf observations) = .ok facts) :
    facts.first = none ↔ observations = [] := by
  constructor
  · intro isNone
    by_contra nonempty
    have begun := (temporalSummarizing policy).begun_run isRun (by
      intro isEmpty
      obtain ⟨a, inside⟩ := List.exists_mem_of_ne_nil observations nonempty
      have impossible : ∀ sample ∈ samplesOf observations, False := by
        rw [isEmpty]
        exact fun _ => nofun
      exact forall_samplesOf.1 impossible a inside)
    have isSome : facts.first.isSome = true := begun.1
    rw [isNone] at isSome
    cases isSome
  · rintro rfl
    obtain rfl := Except.ok.inj isRun
    rfl

/-- **A part of what is accepted** is accepted, with the source and the time basis of the whole. -/
theorem Accepted.part {part : List RollupObservation} {partFacts : TemporalFacts}
    (start finish : ℤ) (accepted : Accepted policy observations facts) (isPart : part ⊆ observations)
    (isRun : (temporalSummarizing policy).run (samplesOf part) = .ok partFacts) :
    Accepted policy part partFacts ∧ Sourced policy (sourceOf observations) (basisOf observations)
      (OntologyPlatform.finish policy (sourceOf part) (basisOf part) partFacts start finish) := by
  refine ⟨⟨?_, ?_, ?_, ?_, isRun⟩, rfl, ?_, ?_⟩
  · exact fun a isA b isB => accepted.source a (isPart isA) b (isPart isB)
  · exact fun a isA b isB => accepted.basis a (isPart isA) b (isPart isB)
  · exact fun a isA => accepted.timely a (isPart isA)
  · exact fun selected a isA => accepted.cumulative selected a (isPart isA)
  · intro present
    have nonempty : part ≠ [] := by
      intro isEmpty
      rw [show (OntologyPlatform.finish _ _ _ partFacts start finish).facts.first = partFacts.first
        from rfl, (first_isSome_iff isRun).2 isEmpty] at present
      cases present
    obtain ⟨a, inside⟩ := List.exists_mem_of_ne_nil part nonempty
    -- Both find what the observation has.
    have source : ∀ {items : List RollupObservation}, a ∈ items → items ⊆ observations →
        sourceOf items = some a.val.source := by
      intro items isItem areObservations
      refine dedup_head? (List.mem_map_of_mem isItem) ?_
      rw [List.forall_mem_map]
      exact fun b isB => accepted.source b (areObservations isB) a (isPart inside)
    have basis : ∀ {items : List RollupObservation}, a ∈ items → items ⊆ observations →
        (items.map (·.val.eventAt.isSome)).dedup.head? = some a.val.eventAt.isSome := by
      intro items isItem areObservations
      refine dedup_head? (List.mem_map_of_mem isItem) ?_
      rw [List.forall_mem_map]
      exact fun b isB => accepted.basis b (areObservations isB) a (isPart inside)
    refine ⟨?_, ?_⟩
    · show sourceOf part = _
      rw [source inside isPart, source (isPart inside) (fun _ => id)]
    · show basisOf part = basisOf observations
      unfold basisOf
      rw [basis inside isPart, basis (isPart inside) (fun _ => id)]
  · intro absent
    obtain rfl := (first_isSome_iff isRun).1 absent
    exact ⟨rfl, rfl⟩

/-- **The merge of the parts of a window** that is accepted: each of them is built, and they are merged
into the summary of the window. -/
theorem mergeTemporal_windows {whole : TemporalSummary} (nonempty : windows ≠ [])
    (adjacent : Adjacent observations start windows finish)
    (built : buildTemporal policy (within observations start finish) start finish = .ok whole) :
    (windows.mapM (buildPart policy observations) >>= mergeTemporal policy) = .ok whole := by
  obtain ⟨facts, accepted, rfl⟩ := buildTemporal_eq_ok.1 built
  obtain ⟨window, rest, rfl⟩ := List.exists_cons_of_ne_nil nonempty
  have summarized := accepted.run
  rw [samplesOf_within adjacent, List.map_cons, List.flatten_cons] at summarized
  obtain ⟨head, tail, isHead, areTail, merged⟩ := (temporalSummarizing policy).run_flatten summarized
  rw [List.forall₂_map_left_iff] at areTail
  -- Each window is built as a part with these facts.
  have buildsPart : ∀ {part : ℤ × ℤ} {partFacts : TemporalFacts}, part ∈ window :: rest →
      (temporalSummarizing policy).run (samplesOf (within observations part.1 part.2)) =
        .ok partFacts → ∃ summary : TemporalSummary, summary.facts = partFacts ∧
          buildPart policy observations part = .ok ⟨part.1, part.2, summary⟩ ∧
            Sourced policy (sourceOf (within observations start finish))
              (basisOf (within observations start finish)) summary := by
    intro part partFacts isPart isRun
    obtain ⟨acceptedPart, sourced⟩ := accepted.part part.1 part.2
      (within_subset adjacent isPart) isRun
    refine ⟨_, rfl, ?_, sourced⟩
    unfold buildPart
    rw [buildTemporal_eq_ok.2 ⟨partFacts, acceptedPart, rfl⟩]
    rfl
  have buildsRest : ∀ {parts : List (ℤ × ℤ)} {partFacts : List TemporalFacts},
      parts ⊆ window :: rest → List.Forall₂ (fun part t => (temporalSummarizing policy).run
        (samplesOf (within observations part.1 part.2)) = .ok t) parts partFacts →
          ∃ built : List TemporalPart, parts.mapM (buildPart policy observations) = .ok built ∧
            built.map TemporalPart.window = parts ∧ built.map (·.summary.facts) = partFacts ∧
              ∀ part ∈ built, Sourced policy (sourceOf (within observations start finish))
                (basisOf (within observations start finish)) part.summary := by
    intro parts partFacts areParts areRun
    induction areRun with
    | nil => exact ⟨[], rfl, rfl, rfl, fun _ => nofun⟩
    | @cons part t parts partFacts isRun _ ih =>
      obtain ⟨summary, rfl, isBuilt, sourced⟩ := buildsPart (areParts List.mem_cons_self) isRun
      obtain ⟨built, areBuilt, rfl, rfl, areSourced⟩ := ih fun other isOther =>
        areParts (List.mem_cons_of_mem part isOther)
      refine ⟨⟨part.1, part.2, summary⟩ :: built, ?_, rfl, rfl, ?_⟩
      · rw [List.mapM_cons, isBuilt, areBuilt]
        rfl
      · exact List.forall_mem_cons.2 ⟨sourced, areSourced⟩
  obtain ⟨summary, rfl, isBuilt, sourced⟩ := buildsPart List.mem_cons_self isHead
  obtain ⟨built, areBuilt, rfl, rfl, areSourced⟩ :=
    buildsRest (List.subset_cons_self window rest) areTail
  rw [List.mapM_cons, isBuilt, areBuilt]
  refine mergeTemporal_eq_ok adjacent (List.forall_mem_cons.2 ⟨sourced, areSourced⟩) ?_ merged
  intro absent
  rw [(first_isSome_iff accepted.run).1 absent]
  exact ⟨rfl, rfl⟩

/-! ## Groupings -/

theorem ok_of_mapM {ε : Type} {f : α → Except ε β} {items : List α} {results : List β}
    (mapped : items.mapM f = .ok results) : ∀ item ∈ items, ∃ result, f item = .ok result := by
  induction items generalizing results with
  | nil => exact fun _ => nofun
  | cons item items ih =>
    rw [List.mapM_cons] at mapped
    obtain ⟨result, isResult, mapped⟩ := bind_eq_ok.1 mapped
    obtain ⟨rest, isRest, -⟩ := bind_eq_ok.1 mapped
    exact List.forall_mem_cons.2 ⟨⟨result, isResult⟩, ih isRest⟩

theorem mapM_congr_ok {ε : Type} {f g : α → Except ε β} {items : List α}
    (same : ∀ item ∈ items, f item = g item) : items.mapM f = items.mapM g := by
  induction items with
  | nil => rfl
  | cons item items ih =>
    rw [List.mapM_cons, List.mapM_cons, same item List.mem_cons_self,
      ih fun other isOther => same other (List.mem_cons_of_mem item isOther)]

/-- What is made of some windows, with what was made of each: they are merged. -/
def mergeGroups (policy : RollupPolicyFields)
    (groups : List (ℤ × ℤ × Except String TemporalSummary)) : Except String TemporalSummary := do
  let parts ← groups.mapM fun group =>
    group.2.2.map (⟨group.1, group.2.1, ·⟩ : _ → TemporalPart)
  mergeTemporal policy parts

/-- **The groupings** of adjacent windows, each with the summary that is made of it: a window is built,
or it is merged from groupings. -/
inductive Grouped (policy : RollupPolicyFields) (observations : List RollupObservation) :
    ℤ → ℤ → Except String TemporalSummary → Prop where
  | built (start finish : ℤ) : Grouped policy observations start finish
      (buildTemporal policy (within observations start finish) start finish)
  | merged {start finish : ℤ} (groups : List (ℤ × ℤ × Except String TemporalSummary))
      (nonempty : groups ≠ [])
      (adjacent : Adjacent observations start (groups.map fun group => (group.1, group.2.1)) finish)
      (grouped : ∀ group ∈ groups, Grouped policy observations group.1 group.2.1 group.2.2) :
      Grouped policy observations start finish (mergeGroups policy groups)

/-- A window that is accepted: what is made of a grouping of it is its summary. -/
theorem Grouped.eq_built {result : Except String TemporalSummary} {whole : TemporalSummary}
    (grouped : Grouped policy observations start finish result)
    (accepted : buildTemporal policy (within observations start finish) start finish = .ok whole) :
    result = .ok whole := by
  -- Induction on the grouping: its groups are parts, so they are accepted.
  induction grouped generalizing whole with
  | built start finish => exact accepted
  | @merged start finish groups nonempty adjacent grouped ih =>
    have merged := mergeTemporal_windows (by simpa using nonempty) adjacent accepted
    obtain ⟨parts, areBuilt, -⟩ := bind_eq_ok.1 merged
    rw [List.mapM_map] at merged areBuilt
    have same : groups.mapM
        (fun group => group.2.2.map (⟨group.1, group.2.1, ·⟩ : _ → TemporalPart)) =
          groups.mapM (buildPart policy observations ∘ fun group => (group.1, group.2.1)) := by
      refine mapM_congr_ok ?_
      intro group isGroup
      obtain ⟨part, isPart⟩ := ok_of_mapM areBuilt group isGroup
      cases isBuilt : buildTemporal policy (within observations group.1 group.2.1) group.1
          group.2.1 with
      | error message =>
        rw [Function.comp_apply, buildPart, isBuilt] at isPart
        cases isPart
      | ok summary =>
        rw [ih group isGroup isBuilt, Function.comp_apply, buildPart, isBuilt]
    unfold mergeGroups
    rw [same]
    exact merged

theorem within_all {windowStart windowEnd : ℤ}
    (inWindow : ∀ observation ∈ observations, observation.val.inside windowStart windowEnd = true) :
    within observations windowStart windowEnd = observations :=
  List.filter_eq_self.2 inWindow

def someDigest : String :=
  "sha256:0000000000000000000000000000000000000000000000000000000000000000"

def requestCounter : SemanticRollupPolicy :=
  ⟨⟨"requests", "1", someDigest, .counter, 1, [.count, .sum, .counterDelta]⟩, by decide +kernel⟩

/-- What the counter shows in a second. -/
def requestsAt (second value : ℕ) : RollupObservationFields where
  observationId := "request-count"
  semanticId := "requests"
  factKind := .counter
  sourceId := "source-a"
  sourceRevision := "r1"
  sourcePartitionDigest := someDigest
  generationRef := "g1"
  ontologyReleaseDigest := someDigest
  intervalStart := second * 1000000
  intervalEnd := (second + 1) * 1000000
  effectiveAt := second * 1000000
  eventAt := none
  recordedAt := (second + 1) * 1000000
  value := .number value

/-- The counter grows, and is reset. -/
def requestObservations : List RollupObservation :=
  [⟨requestsAt 2 9, by decide +kernel⟩, ⟨requestsAt 0 4, by decide +kernel⟩,
    ⟨requestsAt 3 2, by decide +kernel⟩]

/-- A window of the counter. -/
def requestWindow (start finish : ℤ) : ℤ × ℤ × Except String TemporalSummary :=
  (start, finish, buildTemporal requestCounter.val (within requestObservations start finish) start
    finish)

/-- The first two seconds, in one of which nothing is observed. -/
def earlyRequests : Except String TemporalSummary :=
  mergeGroups requestCounter.val [requestWindow 0 1000000, requestWindow 1000000 2000000]

end Fdai.Core.OntologyPlatform
