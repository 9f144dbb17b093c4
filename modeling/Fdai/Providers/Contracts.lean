import Std.Data.String.ToInt
import Fdai.Providers.Checks
import Fdai.Providers.Digest
import Fdai.Providers.Text
import Fdai.Providers.Time

/-!
# Contract fields

The field formats that the executor's durable records share.

* `Digest.wellFormed` — a digest text is a lowercase SHA-256; a digest that was taken in
  the model is one anyway.
* `canonicalText`, `isFingerprint`, `isRevision` — bounded texts, fingerprints and source
  revisions.
* `utc` — a datetime as an instant; one without a time zone is refused.
-/

namespace Fdai.Core

open Fdai.Providers (Digest)

/-- How an action is applied. -/
inductive ExecutionPath where
  | prNative | directApi | prManual | toolCall
  deriving DecidableEq

def ExecutionPath.value : ExecutionPath → String
  | .prNative => "pr_native"
  | .directApi => "direct_api"
  | .prManual => "pr_manual"
  | .toolCall => "tool_call"

/-- `[a-f0-9]`. -/
def isLowerHex (c : Char) : Bool := c.isDigit || ('a' ≤ c && c ≤ 'f')

/-- `[a-f0-9]` a fixed number of times. -/
def isHex (length : ℕ) (chars : List Char) : Bool :=
  chars.length = length && chars.all isLowerHex

/-- `sha256:[a-f0-9]{64}`. -/
def isSha256 (text : String) : Bool :=
  text.toList.take 7 = "sha256:".toList && isHex 64 (text.toList.drop 7)

/-- Whether a digest field holds a digest. -/
def wellFormedDigest : Digest → Bool
  | .text value => isSha256 value
  | _ => true

/-- `[a-f0-9]{64}`. -/
def isFingerprint (text : String) : Bool := isHex 64 text.toList

/-- `commit:[a-f0-9]{40}(?:[a-f0-9]{24})?`. -/
def isRevision (text : String) : Bool :=
  text.toList.take 7 = "commit:".toList &&
    (isHex 40 (text.toList.drop 7) || isHex 64 (text.toList.drop 7))

/-- `_validate_text`: nothing to strip, not blank, at most 512 characters. -/
def canonicalText (value : String) : Bool :=
  strip value ≠ "" && value = strip value && value.length ≤ 512

def utc (subject name : String) (value : Datetime) : Except String ℤ :=
  match value.instant? with
  | some instant => .ok instant
  | none => .error (subject ++ " " ++ name ++ " MUST include a timezone")

/-- `isoformat` of an instant, as part of a digest. -/
def instantDigest (instant : ℤ) : Digest := .text (toString instant)

def absentOrDigest : Option Digest → Digest
  | none => .none
  | some digest => .ofFields [digest]

theorem instantDigest_injective : Function.Injective instantDigest :=
  fun _ _ same => Int.repr_inj.1 (Digest.text.inj same)

theorem absentOrDigest_injective : Function.Injective absentOrDigest := by
  rintro (_ | a) (_ | b) same <;> simp_all [absentOrDigest, Digest.ofFields]

/-- The part of an acquisition receipt that reservations and fences read; the digest
covers the rest of it. -/
structure ResourceLockAcquisitionReceipt where
  lockKey : String
  targetDigest : Digest
  actionDigest : Digest
  attempt : ℕ
  ownerTokenDigest : Digest
  acquiredAt : ℤ
  sourceRevision : String
  receiptDigest : Digest
  attempt_pos : 1 ≤ attempt
  deriving DecidableEq

end Fdai.Core
