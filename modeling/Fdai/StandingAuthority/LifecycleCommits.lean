import Fdai.Sequences.HashChain
import Fdai.StandingAuthority.LifecycleReplay

/-!
# A fence fixes its history

A dispatch carries the fence of the snapshot that admitted it. Its digest is chained to every
transition before it, so no other history has a snapshot that the fence matches: not one of
another store, or of the same store restored from elsewhere.

* `transitionDigest_injective` — a digest tells every field of its transition.
* `fence_commits` — a fence matches exactly the active snapshots of its own history.
-/

namespace Fdai.Core.StandingAuthority

open Fdai.Providers (Digest)
open Fdai.Sequences

/-- How transitions are linked. -/
def transitionLinking : Linking AuthorizationTransition (Option Digest) where
  position transition := transition.val.sequence
  previous transition := transition.val.previousTransitionDigest
  hash transition := some transition.val.transitionDigest

variable {revisions : List AuthorizationRevision} {familyId : String} {replay : Replay}
  {transitions : List AuthorizationTransition}

/-- **A history that the replay accepts** is linked. -/
theorem linked_of_replayAll (replayed : replayAll revisions familyId transitions = .ok replay) :
    transitionLinking.Chained 1 none transitions := by
  induction transitions using List.reverseRecOn generalizing replay with
  | nil => exact trivial
  | append_singleton transitions transition ih =>
    rw [replayAll_concat, bind_eq_ok] at replayed
    obtain ⟨middle, before, step⟩ := replayed
    obtain ⟨sequence, -, -, position, -⟩ := replayStep_eq_ok.1 step
    have chained := chained_of_replayAll before
    refine Linking.chained_concat.2 ⟨ih before, ?_, ?_⟩
    · rw [chained.expected] at sequence
      exact sequence.trans (Nat.add_comm _ _)
    rw [chained.snapshot] at position
    unfold Linking.headOf
    cases isLast : transitions.getLast? with
    | none =>
      rw [isLast] at position
      exact (checkPosition_none.1 position).2.1
    | some last =>
      rw [isLast] at position
      exact (checkPosition_some.1 position).1.2.1

theorem kindValue_injective : Function.Injective AuthorizationCommandKind.value := by
  intro kind kind' same
  cases kind <;> cases kind' <;> first | rfl | simp [AuthorizationCommandKind.value] at same

/-- **A digest tells its transition.** -/
theorem transitionDigest_injective :
    Function.Injective fun transition : AuthorizationTransition => transition.val.transitionDigest := by
  rintro ⟨fields, checked⟩ ⟨fields', checked'⟩ same
  simp only [TransitionFields.check, validate_cons_eq_ok, decide_eq_true_eq] at checked checked'
  have bodies : fields.bodyDigest = fields'.bodyDigest := by
    rw [← checked.2.2.2.2.2.2.2.2.2.2.2.2.2.1, ← checked'.2.2.2.2.2.2.2.2.2.2.2.2.2.1]
    exact same
  cases fields
  cases fields'
  simp only [TransitionFields.bodyDigest, Digest.ofFields_inj, List.cons.injEq, Digest.text.injEq,
    Digest.num.injEq, kindValue_injective.eq_iff, instantDigest_injective.eq_iff,
    absentOrDigest_injective.eq_iff, rolesDigest, Digest.ofTexts,
    (List.map_injective_iff.2 fun _ _ => Digest.text.inj).eq_iff] at bodies
  obtain ⟨rfl, rfl, rfl, rfl, rfl, rfl, rfl, rfl, rfl, rfl, rfl, rfl, rfl, rfl, rfl, -⟩ := bodies
  cases same
  rfl

/-- A fence of one history matches the snapshot of another exactly if they are the same and active. -/
def FenceCommits (rows rows' : FamilyRows) : Prop :=
  ∀ snapshot, rows.snapshot = some snapshot →
    (fenceMatches rows'.snapshot snapshot.val.fence = true ↔
      snapshot.val.status = .active ∧ rows'.transitions = rows.transitions)

/-- **A fence fixes its history**, in any two stores after any commands. -/
theorem fence_commits (commands commands' : List AuthorizationLifecycleCommand) (familyId : String) :
    FenceCommits (storeAfter commands familyId) (storeAfter commands' familyId) := by
  intro snapshot taken
  obtain ⟨replay, all, -⟩ := replayed_storeAfter commands familyId
  obtain ⟨replay', all', -⟩ := replayed_storeAfter commands' familyId
  have isSnapshot := snapshot_storeAfter commands familyId
  rw [taken] at isSnapshot
  obtain ⟨last, isLast, rfl⟩ := Option.map_eq_some_iff.1 isSnapshot.symm
  constructor
  · intro isMatch
    rw [snapshot_storeAfter commands' familyId] at isMatch
    cases current : (storeAfter commands' familyId).transitions.getLast? with
    | none =>
      rw [current] at isMatch
      cases isMatch
    | some last' =>
      rw [current, Option.map_some] at isMatch
      simp only [fenceMatches, SnapshotFields.fence, Bool.and_eq_true, decide_eq_true_eq] at isMatch
      obtain ⟨⟨⟨⟨active, -⟩, -⟩, -⟩, heads⟩ := isMatch
      obtain rfl : last' = last := transitionDigest_injective (of_decide_eq_true heads)
      refine ⟨active, ?_⟩
      have digests := (linked_of_replayAll all').map_hash_eq
        (fun a b same => congrArg (·.val.previousTransitionDigest)
          (transitionDigest_injective (Option.some.inj same)))
        (fun _ => Option.some_ne_none _) (linked_of_replayAll all)
        (by rw [Linking.headOf, Linking.headOf, current, isLast])
      exact List.map_injective_iff.2 (fun a b same => transitionDigest_injective
        (Option.some.inj same)) digests
  · rintro ⟨active, same⟩
    have unchanged := snapshot_storeAfter commands' familyId
    rw [same, ← snapshot_storeAfter, taken] at unchanged
    rw [unchanged]
    simp [fenceMatches, SnapshotFields.fence, active]

end Fdai.Core.StandingAuthority
