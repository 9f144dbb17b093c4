import Mathlib.Data.List.Basic

/-!
# Content digests

A digest stands for the content it was taken of. It is kept as the tree of that
content, so two digests are equal exactly when the contents are: a collision of the
hash function is outside the model.
-/

namespace Fdai.Providers

/-- A content digest, as the content. -/
inductive Digest where
  | text (value : String)
  | num (value : ℕ)
  | none
  | pair (head tail : Digest)
  deriving DecidableEq

namespace Digest

/-- The digest of a record: its fields in order. -/
def ofFields : List Digest → Digest
  | [] => .none
  | field :: rest => .pair field (ofFields rest)

def ofTexts (texts : List String) : Digest := ofFields (texts.map .text)

theorem ofFields_injective : Function.Injective ofFields := by
  intro fields fields' same
  induction fields generalizing fields' with
  | nil => cases fields' with
    | nil => rfl
    | cons field' rest' => cases same
  | cons field rest ih => cases fields' with
    | nil => cases same
    | cons field' rest' =>
      obtain ⟨rfl, tails⟩ := Digest.pair.inj same
      rw [ih tails]

@[simp] theorem ofFields_inj {fields fields' : List Digest} :
    ofFields fields = ofFields fields' ↔ fields = fields' :=
  ofFields_injective.eq_iff

end Digest

end Fdai.Providers
