import Fdai.Sequences.HashChain

/-!
# Deduplication at ingress

The cache of the keys that were accepted last: a full cache drops its oldest key, and a second
delivery is refused without making its key younger.

* `EventIngest.ingest`, `EventIngest.deliveries` — one delivery, and many.
* `deliveries_deduplicated` — what is refused, and how far apart a key is accepted again.
-/

namespace Fdai.Core

open Fdai.Sequences

variable {Raw Event ε : Type}

/-- `_coerce` answers the event, or what the validator raises. -/
structure EventIngest (Raw Event ε : Type) where
  coerce : Raw → Except ε Event
  idempotencyKey : Event → String
  maxEntries : ℕ := 50000
  maxEntries_pos : 1 ≤ maxEntries

namespace EventIngest

variable (ingress : EventIngest Raw Event ε)

/-- `EventIngest.ingest`: the answer, and the keys that are seen, the oldest first. -/
def ingest (seen : List String) (raw : Raw) : Except ε (Option Event) × List String :=
  match ingress.coerce raw with
  | .error raised => (.error raised, seen)
  | .ok event =>
    let key := ingress.idempotencyKey event
    if key ∈ seen then (.ok none, seen)
    else
      let added := seen ++ [key]
      -- `popitem(last=False)` drops the oldest key.
      (.ok (some event), if ingress.maxEntries < added.length then added.tail else added)

/-- The keys that are seen, and the events that were accepted. -/
def delivered (run : List String × List Event) (raw : Raw) : List String × List Event :=
  let (answer, seen) := ingress.ingest run.1 raw
  match answer with
  | .ok (some event) => (seen, run.2 ++ [event])
  | _ => (seen, run.2)

def deliveries (raws : List Raw) : List String × List Event :=
  raws.foldl ingress.delivered ([], [])

/-- **What the cache is good for**, after the events that were accepted. -/
structure Deduplicated (run : List String × List Event) : Prop where
  seen : run.1 = window ingress.maxEntries (run.2.map ingress.idempotencyKey)
  /-- So many keys, at least, are accepted between two acceptances of one key. -/
  apart : ∀ before key between after,
    run.2.map ingress.idempotencyKey = before ++ key :: (between ++ key :: after) →
      ingress.maxEntries ≤ between.length

variable {ingress} {run : List String × List Event}

theorem Deduplicated.accept (kept : ingress.Deduplicated run) {event : Event}
    (fresh : ingress.idempotencyKey event ∉ run.1) :
    ingress.Deduplicated (if ingress.maxEntries < (run.1 ++ [ingress.idempotencyKey event]).length
      then (run.1 ++ [ingress.idempotencyKey event]).tail
      else run.1 ++ [ingress.idempotencyKey event], run.2 ++ [event]) := by
  obtain ⟨seen, apart⟩ := kept
  constructor
  · have size := length_window ingress.maxEntries (run.2.map ingress.idempotencyKey)
    rw [← seen] at size
    rw [List.map_append, List.map_singleton, window_concat ingress.maxEntries_pos, ← seen]
    simp only [List.length_append, List.length_singleton, size]
    by_cases full : ingress.maxEntries ≤ (run.2.map ingress.idempotencyKey).length
    · have nonempty : run.1 ≠ [] := by
        have := ingress.maxEntries_pos
        rw [← List.length_pos_iff]
        omega
      rw [if_pos full, if_pos (by omega), List.tail_append_of_ne_nil nonempty]
    · rw [if_neg full, if_neg (by omega)]
  · intro before key between after accepted
    rw [List.map_append, List.map_singleton] at accepted
    rcases after.eq_nil_or_concat' with rfl | ⟨after, last, rfl⟩
    · -- The key of the event is `key`, which the window would hold were it any younger.
      rw [← List.cons_append, ← List.append_assoc] at accepted
      obtain ⟨earlier, same⟩ := List.append_inj' accepted rfl
      by_contra near
      refine fresh (List.singleton_inj.1 same ▸ ?_)
      rw [seen, window, earlier, List.drop_append_of_le_length
        (by simp only [List.length_append, List.length_cons]; omega)]
      simp
    · have split : before ++ key :: (between ++ key :: (after ++ [last])) =
          before ++ key :: (between ++ key :: after) ++ [last] := by simp
      exact apart _ _ _ _ (List.append_inj' (accepted.trans split) rfl).1

theorem delivered_deduplicated (kept : ingress.Deduplicated run) (raw : Raw) :
    ingress.Deduplicated (ingress.delivered run raw) := by
  unfold delivered ingest
  cases ingress.coerce raw with
  | error raised => exact kept
  | ok event =>
    dsimp only
    by_cases known : ingress.idempotencyKey event ∈ run.1
    · rw [if_pos known]
      exact kept
    · rw [if_neg known]
      exact kept.accept known

/-- **Deduplication**: however events are delivered, a delivery is refused exactly when its key
is among the last that were accepted, and then nothing changes. -/
theorem deliveries_deduplicated (raws : List Raw) (raw : Raw) :
    ingress.Deduplicated (ingress.deliveries raws) ∧
      ((ingress.ingest (ingress.deliveries raws).1 raw).1.toOption = some none ↔
        ∃ event, ingress.coerce raw = .ok event ∧ ingress.idempotencyKey event ∈
          window ingress.maxEntries ((ingress.deliveries raws).2.map ingress.idempotencyKey)) := by
  have kept : ingress.Deduplicated (ingress.deliveries raws) := by
    refine List.foldlRecOn raws ingress.delivered ⟨by simp [window], by simp⟩ ?_
    exact fun run kept raw _ => delivered_deduplicated kept raw
  refine ⟨kept, ?_⟩
  rw [← kept.seen]
  unfold ingest
  cases ingress.coerce raw with
  | error raised => simp [Except.toOption]
  | ok event =>
    by_cases known : ingress.idempotencyKey event ∈ (ingress.deliveries raws).1
    · simp [known, Except.toOption]
    · simp [known, Except.toOption]

end EventIngest

end Fdai.Core
