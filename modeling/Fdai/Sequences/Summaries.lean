import Mathlib.Data.List.Sort
import Mathlib.Data.List.Induction
import Fdai.Providers.Checks

/-!
# Summaries that merge

A list is summarized by one step for each of its elements, and the summaries of its parts are merged
without their elements. A step and a merge may be refused.

* `Summarizing` — the steps, the merge, and how they agree.
* `Summarizing.run_append`, `Summarizing.run_flatten` — **the merge of the summaries of the parts is the
  summary of the whole**, and the parts have one.
* `Joining`, `appendRun` — a list of runs, where a new run may be joined to the last one.
-/

namespace Fdai.Sequences

open Fdai.Core

/-! ## Summaries -/

/-- A summary, one element at a time, and the merge of two summaries. `Fits` holds of every summary,
and `Begun` of the ones that have seen an element. -/
structure Summarizing (ε α σ : Type) where
  start : σ
  step : σ → α → Except ε σ
  merge : σ → σ → Except ε σ
  Fits : σ → Prop
  Begun : σ → Prop
  fits_start : Fits start
  fits_step : ∀ {s a s'}, Fits s → step s a = .ok s' → Fits s'
  begun_step : ∀ {s a s'}, step s a = .ok s' → Begun s'
  /-- To merge what has seen nothing changes nothing. -/
  merge_start : ∀ {s}, Fits s → merge s start = .ok s
  /-- To merge what has seen one element is to go on with it. -/
  merge_first : ∀ {s a s'}, Fits s → step s a = .ok s' →
    ∃ first, step start a = .ok first ∧ merge s first = .ok s'
  /-- To go on with an element after a merge, or to merge what went on with it. -/
  merge_step : ∀ {s t merged a s'}, Fits s → Fits t → Begun t → merge s t = .ok merged →
    step merged a = .ok s' → ∃ t', step t a = .ok t' ∧ merge s t' = .ok s'

namespace Summarizing

variable {ε α σ : Type} (M : Summarizing ε α σ)

/-- The summary of a list. -/
def run (elements : List α) : Except ε σ := elements.foldlM M.step M.start

theorem run_concat {elements : List α} {last : α} {s : σ} :
    M.run (elements ++ [last]) = .ok s ↔ ∃ t, M.run elements = .ok t ∧ M.step t last = .ok s := by
  unfold run
  rw [List.foldlM_append, bind_eq_ok]
  simp

theorem fits_run {elements : List α} {s : σ} (summarized : M.run elements = .ok s) : M.Fits s := by
  induction elements using List.reverseRecOn generalizing s with
  | nil =>
    obtain rfl := Except.ok.inj summarized
    exact M.fits_start
  | append_singleton elements last ih =>
    obtain ⟨t, earlier, stepped⟩ := M.run_concat.1 summarized
    exact M.fits_step (ih earlier) stepped

theorem begun_run {elements : List α} {s : σ} (summarized : M.run elements = .ok s)
    (nonempty : elements ≠ []) : M.Begun s := by
  rcases List.eq_nil_or_concat' elements with rfl | ⟨earlier, last, rfl⟩
  · exact absurd rfl nonempty
  · obtain ⟨t, -, stepped⟩ := M.run_concat.1 summarized
    exact M.begun_step stepped

/-- **Two parts**: the summary of the whole is the merge of theirs. -/
theorem run_append {left right : List α} {s : σ} (summarized : M.run (left ++ right) = .ok s) :
    ∃ sl sr, M.run left = .ok sl ∧ M.run right = .ok sr ∧ M.merge sl sr = .ok s := by
  -- Induction on the second part, from its end.
  induction right using List.reverseRecOn generalizing s with
  | nil =>
    rw [List.append_nil] at summarized
    exact ⟨s, M.start, summarized, rfl, M.merge_start (M.fits_run summarized)⟩
  | append_singleton right last ih =>
    rw [← List.append_assoc] at summarized
    obtain ⟨t, earlier, stepped⟩ := M.run_concat.1 summarized
    obtain ⟨sl, sr, ofLeft, ofRight, merged⟩ := ih earlier
    have fitsLeft := M.fits_run ofLeft
    by_cases isEmpty : right = []
    · subst isEmpty
      obtain rfl := Except.ok.inj ofRight
      obtain rfl := Except.ok.inj ((M.merge_start fitsLeft).symm.trans merged)
      obtain ⟨first, isFirst, same⟩ := M.merge_first fitsLeft stepped
      exact ⟨sl, first, ofLeft, M.run_concat.2 ⟨M.start, ofRight, isFirst⟩, same⟩
    obtain ⟨sr', steppedRight, same⟩ := M.merge_step fitsLeft (M.fits_run ofRight)
      (M.begun_run ofRight isEmpty) merged stepped
    exact ⟨sl, sr', ofLeft, M.run_concat.2 ⟨sr, ofRight, steppedRight⟩, same⟩

/-- **Any number of parts**, merged one after the other. -/
theorem run_flatten {first : List α} {rest : List (List α)} {s : σ}
    (summarized : M.run (first ++ rest.flatten) = .ok s) :
    ∃ head tail, M.run first = .ok head ∧ List.Forall₂ (fun part t => M.run part = .ok t) rest tail ∧
      tail.foldlM M.merge head = .ok s := by
  induction rest using List.reverseRecOn generalizing s with
  | nil =>
    rw [List.flatten_nil, List.append_nil] at summarized
    exact ⟨s, [], summarized, .nil, rfl⟩
  | append_singleton rest last ih =>
    rw [List.flatten_append, List.flatten_singleton, ← List.append_assoc] at summarized
    obtain ⟨before, final, ofBefore, ofFinal, merged⟩ := M.run_append summarized
    obtain ⟨head, tail, isHead, areTail, folded⟩ := ih ofBefore
    refine ⟨head, tail ++ [final], isHead, ?_, ?_⟩
    · exact List.rel_append areTail (.cons ofFinal .nil)
    · rw [List.foldlM_append, folded]
      show [final].foldlM M.merge before = _
      rw [List.foldlM_cons, merged]
      rfl

end Summarizing

section Runs

variable {α : Type} (joins : α → α → Bool) (join : α → α → α)

/-- Two neighbours may be joined, and it does not matter in which order three of them are. -/
structure Joining : Prop where
  joins_join : ∀ {a b c}, joins b c = true → joins a (join b c) = joins a b
  join_joins : ∀ {a b c}, joins a b = true → joins (join a b) c = joins b c
  assoc : ∀ {a b c}, joins a b = true → joins b c = true → join (join a b) c = join a (join b c)

/-- Add a run: it is joined to the last one, or comes after it. -/
def appendRun (runs : List α) (run : α) : List α :=
  match runs.getLast? with
  | none => [run]
  | some last => if joins last run then runs.dropLast ++ [join last run] else runs ++ [run]

variable {joins join}

@[simp] theorem appendRun_nil (run : α) : appendRun joins join [] run = [run] := rfl

theorem appendRun_concat (runs : List α) (last run : α) :
    appendRun joins join (runs ++ [last]) run =
      if joins last run then runs ++ [join last run] else runs ++ [last, run] := by
  unfold appendRun
  simp

/-- Two runs that are joined are added as one. -/
theorem appendRun_join (joining : Joining joins join) {runs : List α} {a b : α}
    (joined : joins a b = true) :
    appendRun joins join (appendRun joins join runs a) b =
      appendRun joins join runs (join a b) := by
  rcases List.eq_nil_or_concat' runs with rfl | ⟨earlier, last, rfl⟩
  · rw [appendRun_nil, appendRun_nil, ← List.nil_append [a], appendRun_concat, if_pos joined]
    rfl
  rw [appendRun_concat, appendRun_concat, joining.joins_join joined]
  by_cases follows : joins last a = true
  · rw [if_pos follows, if_pos follows, appendRun_concat, joining.join_joins follows,
      if_pos joined, joining.assoc follows joined]
  have split : earlier ++ [last, a] = (earlier ++ [last]) ++ [a] := by simp
  rw [if_neg follows, if_neg follows, split, appendRun_concat, if_pos joined]
  simp

/-- **To add runs one by one**, the last one before or after the others are added to what there was. -/
theorem foldl_appendRun (joining : Joining joins join) (runs more : List α) (run : α) :
    (appendRun joins join more run).foldl (appendRun joins join) runs =
      appendRun joins join (more.foldl (appendRun joins join) runs) run := by
  rcases List.eq_nil_or_concat' more with rfl | ⟨earlier, last, rfl⟩
  · rfl
  rw [appendRun_concat]
  by_cases follows : joins last run = true
  · rw [if_pos follows, List.foldl_append, List.foldl_append]
    exact (appendRun_join joining follows).symm
  · rw [if_neg follows, List.foldl_append, List.foldl_append]
    rfl

end Runs

section Sorting

variable {α : Type} {r : α → α → Prop} [DecidableRel r]

theorem orderedInsert_append_left {a : α} {before after : List α} (inside : ∀ b ∈ after, r a b) :
    (before ++ after).orderedInsert r a = before.orderedInsert r a ++ after := by
  induction before with
  | nil =>
    cases after with
    | nil => rfl
    | cons b after => exact if_pos (inside b List.mem_cons_self)
  | cons b before ih =>
    rw [List.cons_append, List.orderedInsert_cons, List.orderedInsert_cons, ih]
    split <;> rfl

theorem orderedInsert_append_right {a : α} {before after : List α}
    (outside : ∀ b ∈ before, ¬ r a b) :
    (before ++ after).orderedInsert r a = before ++ after.orderedInsert r a := by
  induction before with
  | nil => rfl
  | cons b before ih =>
    rw [List.cons_append, List.orderedInsert_cons, if_neg (outside b List.mem_cons_self),
      ih fun other inside => outside other (List.mem_cons_of_mem b inside)]
    rfl

/-- **A list that is cut by its order** is sorted part by part. -/
theorem insertionSort_cut {p : α → Bool} {elements : List α}
    (before : ∀ a ∈ elements, ∀ b ∈ elements, p a = true → p b = false → r a b ∧ ¬ r b a) :
    elements.insertionSort r =
      (elements.filter p).insertionSort r ++ (elements.filter (!p ·)).insertionSort r := by
  induction elements with
  | nil => rfl
  | cons a elements ih =>
    have earlier := ih fun b isLeft c isRight =>
      before b (List.mem_cons_of_mem a isLeft) c (List.mem_cons_of_mem a isRight)
    rw [List.insertionSort_cons, earlier]
    cases side : p a with
    | true =>
      rw [List.filter_cons_of_pos side, List.filter_cons_of_neg (by simp [side]),
        List.insertionSort_cons]
      refine orderedInsert_append_left ?_
      intro b inside
      rw [List.mem_insertionSort, List.mem_filter] at inside
      exact (before a List.mem_cons_self b (List.mem_cons_of_mem a inside.1) side
        (by simpa using inside.2)).1
    | false =>
      rw [List.filter_cons_of_neg (by simp [side]), List.filter_cons_of_pos (by simp [side]),
        List.insertionSort_cons]
      refine orderedInsert_append_right ?_
      intro b inside
      rw [List.mem_insertionSort, List.mem_filter] at inside
      exact (before b (List.mem_cons_of_mem a inside.1) a List.mem_cons_self inside.2 side).2

end Sorting

end Fdai.Sequences
