import Fdai.Executor.EffectStaysClosed
import Fdai.Sequences.HashChain

/-!
# What the effect ledger retains

The store of the ledger, from the empty one on, whatever receipts it is offered.

* `append_cases` — what an append does: nothing, or one more receipt at the end of its lineage.
* `Retained` — a lineage of one dispatch, each receipt linked to the one before it.
* `retainAll_kept` — whatever is offered, every lineage is so and only grows.
* `ledger_appendOnly`, `ledger_commits` — from the empty store; the last digest fixes a lineage.
-/

namespace Fdai.Core.IndependentEffect

open Fdai.Providers (Digest)
open Fdai.Sequences

variable {casefold : String → String}

/-- How receipts are linked. -/
def receiptLinking (casefold : String → String) :
    Linking (IndependentEffectObservationReceipt casefold) (Option Digest) where
  position receipt := receipt.val.sequence.toNat
  previous receipt := receipt.val.priorReceiptDigest
  hash receipt := some receipt.val.receiptDigest

/-- **A retained lineage** of a dispatch. -/
structure Retained (lineage : List (IndependentEffectObservationReceipt casefold))
    (identity : Digest) : Prop where
  chained : (receiptLinking casefold).Chained 1 none lineage
  dispatch : ∀ receipt ∈ lineage, receipt.val.binding.val.evidenceIdentityDigest = identity

variable {store store' : EffectStore casefold} {identity : Digest}
  {receipt : IndependentEffectObservationReceipt casefold}
  {lineage : List (IndependentEffectObservationReceipt casefold)}

theorem headOf_receipts : (receiptLinking casefold).headOf none lineage =
    lineage.getLast?.map (·.val.receiptDigest) := by
  unfold Linking.headOf
  cases lineage.getLast? with
  | none | some last => rfl

theorem sequence_pos (receipt : IndependentEffectObservationReceipt casefold) :
    1 ≤ receipt.val.sequence := by
  obtain ⟨passed, -⟩ := check_bind_eq_ok.1 receipt.2
  simp only [validate_cons_eq_ok, effectCheck, decide_eq_true_eq] at passed
  exact passed.2.2.2.2.2.2.2.2.2.2.2.1

/-- **A retained lineage is a chain**, so it is projected. -/
theorem Retained.chain (retained : Retained lineage identity) : Chain lineage identity := by
  have number (i : ℕ) (receipt : IndependentEffectObservationReceipt casefold)
      (isAt : lineage[i]? = some receipt) : receipt.val.sequence = i + 1 := by
    have position : receipt.val.sequence.toNat = 1 + i := retained.chained.position_eq isAt
    have := sequence_pos receipt
    omega
  refine ⟨?_, fun receipt isHead => retained.dispatch receipt (List.mem_of_mem_head? isHead), ?_⟩
  · intro receipt isHead
    rw [List.head?_eq_getElem?] at isHead
    exact number 0 receipt isHead
  rw [List.isChain_iff_getElem]
  intro i inRange
  have here : lineage[i]? = some lineage[i] := List.getElem?_eq_getElem (by omega)
  have next : lineage[i + 1]? = some lineage[i + 1] := List.getElem?_eq_getElem inRange
  refine ⟨?_, ?_, ?_⟩
  · rw [number i _ here, number (i + 1) _ next]
    push_cast
    ring
  · have named : lineage[i + 1].val.priorReceiptDigest = _ := retained.chained.previous_eq next
    rw [named, List.take_add_one, here, Option.toList_some, Linking.headOf_concat]
    rfl
  · rw [retained.dispatch _ (List.getElem_mem _), retained.dispatch _ (List.getElem_mem _)]

/-- **What an append does.** -/
theorem append_cases (appended : store.append receipt = .ok store') :
    store' = store ∨
      (receipt.val.sequence =
          (store receipt.val.binding.val.evidenceIdentityDigest).length + 1 ∧
        receipt.val.priorReceiptDigest = (receiptLinking casefold).headOf none
          (store receipt.val.binding.val.evidenceIdentityDigest) ∧
        store' = Function.update store receipt.val.binding.val.evidenceIdentityDigest
          (store receipt.val.binding.val.evidenceIdentityDigest ++ [receipt])) := by
  unfold EffectStore.append at appended
  dsimp only at appended
  split at appended
  · obtain ⟨-, same⟩ := check_bind_eq_ok.1 appended
    exact .inl (Except.ok.inj same).symm
  · obtain ⟨passed, same⟩ := check_bind_eq_ok.1 appended
    simp only [validate_cons_eq_ok, decide_eq_true_eq] at passed
    obtain ⟨contiguous, linked, -⟩ := passed
    exact .inr ⟨contiguous, headOf_receipts ▸ linked, (Except.ok.inj same).symm⟩

/-- **Step.** An append keeps every lineage, and only adds to its end. -/
theorem append_kept (kept : ∀ identity, Retained (store identity) identity)
    (appended : store.append receipt = .ok store') (identity : Digest) :
    Retained (store' identity) identity ∧ store identity <+: store' identity := by
  rcases append_cases appended with rfl | ⟨contiguous, linked, rfl⟩
  · exact ⟨kept identity, List.prefix_refl _⟩
  by_cases here : identity = receipt.val.binding.val.evidenceIdentityDigest
  · subst here
    rw [Function.update_self]
    have before := kept receipt.val.binding.val.evidenceIdentityDigest
    refine ⟨⟨Linking.chained_concat.2 ⟨before.chained, ?_, linked⟩, ?_⟩, List.prefix_append _ _⟩
    · show receipt.val.sequence.toNat = _
      omega
    · intro other isOther
      rcases List.mem_append.1 isOther with isBefore | isNew
      · exact before.dispatch other isBefore
      · rw [List.mem_singleton.1 isNew]
  · rw [Function.update_of_ne here]
    exact ⟨kept identity, List.prefix_refl _⟩

/-- A receipt that is retained is found again. -/
theorem append_again (retained : Retained (store identity) identity)
    (isRetained : receipt ∈ store identity) : store.append receipt = .ok store := by
  obtain ⟨i, isAt⟩ := List.mem_iff_getElem?.1 isRetained
  have position : receipt.val.sequence.toNat = 1 + i := retained.chained.position_eq isAt
  have index : receipt.val.sequence.toNat - 1 = i := by omega
  unfold EffectStore.append
  simp only [retained.dispatch receipt isRetained, index, isAt, decide_true]
  rfl

/-! ## Runs -/

/-- The receipts that are offered one by one: one that is refused changes nothing. -/
def EffectStore.retainAll (store : EffectStore casefold) :
    List (IndependentEffectObservationReceipt casefold) → EffectStore casefold
  | [] => store
  | receipt :: rest =>
    match store.append receipt with
    | .ok retained => retained.retainAll rest
    | .error _ => store.retainAll rest

/-- **Run.** -/
theorem retainAll_kept (offered : List (IndependentEffectObservationReceipt casefold))
    (kept : ∀ identity, Retained (store identity) identity) (identity : Digest) :
    Retained (store.retainAll offered identity) identity ∧
      store identity <+: store.retainAll offered identity := by
  induction offered generalizing store with
  | nil => exact ⟨kept identity, List.prefix_refl _⟩
  | cons receipt rest ih =>
    cases appended : store.append receipt with
    | ok after =>
      simp only [EffectStore.retainAll, appended]
      have step := append_kept kept appended
      obtain ⟨keeps, grows⟩ := ih fun identity => (step identity).1
      exact ⟨keeps, (step identity).2.trans grows⟩
    | error refused =>
      simp only [EffectStore.retainAll, appended]
      exact ih kept

/-- The store after the receipts that it was offered, from empty. -/
def retainedFrom (offered : List (IndependentEffectObservationReceipt casefold)) :
    EffectStore casefold :=
  EffectStore.retainAll (fun _ => []) offered

theorem retainedFrom_kept (offered : List (IndependentEffectObservationReceipt casefold))
    (identity : Digest) : Retained (retainedFrom offered identity) identity := by
  have empty : ∀ identity, Retained ((fun _ => [] : EffectStore casefold) identity) identity :=
    fun _ => ⟨trivial, fun _ isRetained => absurd isRetained List.not_mem_nil⟩
  exact (retainAll_kept offered empty identity).1

/-- **The ledger only grows.** Whatever it was offered, and is offered after that: a lineage is a
chain of its dispatch, it is kept, and a receipt in it is found again and not retained twice. -/
theorem ledger_appendOnly (offered more : List (IndependentEffectObservationReceipt casefold))
    (identity : Digest) : Chain (retainedFrom offered identity) identity ∧
      retainedFrom offered identity <+: (retainedFrom offered).retainAll more identity ∧
      ∀ receipt ∈ retainedFrom offered identity,
        ((retainedFrom offered).retainAll more).append receipt =
          .ok ((retainedFrom offered).retainAll more) := by
  obtain ⟨after, grows⟩ := retainAll_kept more (retainedFrom_kept offered) identity
  exact ⟨(retainedFrom_kept offered identity).chain, grows,
    fun receipt isRetained => append_again after (grows.subset isRetained)⟩

/-- The digest of a receipt is taken of its fields. -/
theorem receiptDigest_eq (receipt : IndependentEffectObservationReceipt casefold) :
    receipt.val.expectedDigest = .ok receipt.val.receiptDigest := by
  -- both branches end in the comparison of the digests
  have compared (passed : (receipt.val.expectedDigest >>= fun expected =>
      validate [effectDigest "receipt_digest" receipt.val.receiptDigest,
        effectCheck (receipt.val.receiptDigest = expected)
          "independent effect observation receipt digest mismatched"]) = .ok ()) :
      receipt.val.expectedDigest = .ok receipt.val.receiptDigest := by
    obtain ⟨expected, isExpected, passed⟩ := bind_eq_ok.1 passed
    simp only [validate_cons_eq_ok, effectCheck, decide_eq_true_eq] at passed
    rw [isExpected, passed.2.1]
  obtain ⟨-, checked⟩ := check_bind_eq_ok.1 receipt.2
  split at checked
  · obtain ⟨downgrade, -, checked⟩ := bind_eq_ok.1 checked
    exact compared (check_bind_eq_ok.1 checked).2
  · exact compared checked

/-- The digest of a receipt binds the one before it. -/
theorem prior_of_receiptDigest {a b : IndependentEffectObservationReceipt casefold}
    (same : a.val.receiptDigest = b.val.receiptDigest) :
    a.val.priorReceiptDigest = b.val.priorReceiptDigest := by
  have boundA := receiptDigest_eq a
  have boundB := receiptDigest_eq b
  unfold ReceiptFields.expectedDigest at boundA boundB
  obtain ⟨qualityA, -, boundA⟩ := bind_eq_ok.1 boundA
  obtain ⟨qualityB, -, boundB⟩ := bind_eq_ok.1 boundB
  have fields := (Except.ok.inj boundA).trans (same.trans (Except.ok.inj boundB).symm)
  simp only [Digest.ofFields_inj, List.cons.injEq] at fields
  exact absentOrDigest_injective fields.2.2.2.2.2.2.2.2.2.2.2.2.2.2.1

/-- **The last digest fixes the lineage.** Two stores, offered anything, that end a dispatch with
the same receipt retain the same receipts of it. -/
theorem ledger_commits (offered offered' : List (IndependentEffectObservationReceipt casefold))
    (identity : Digest) : (retainedFrom offered identity).getLast?.map (·.val.receiptDigest) =
        (retainedFrom offered' identity).getLast?.map (·.val.receiptDigest) ↔
      (retainedFrom offered identity).map (·.val.receiptDigest) =
        (retainedFrom offered' identity).map (·.val.receiptDigest) := by
  constructor
  · intro same
    have heads := Linking.Chained.map_hash_eq (fun a b same => prior_of_receiptDigest
      (Option.some.inj same)) (fun _ => Option.some_ne_none _)
      (retainedFrom_kept offered identity).chained (retainedFrom_kept offered' identity).chained
      (by rw [headOf_receipts, headOf_receipts, same])
    have digests := congrArg (List.map fun digest => digest.getD .none) heads
    rw [List.map_map, List.map_map] at digests
    exact digests
  · intro same
    rw [← List.getLast?_map, ← List.getLast?_map, same]

end Fdai.Core.IndependentEffect
