import Fdai.Providers.Checks
import Fdai.Providers.Value

/-!
# Candidates of the quality gate

An action that a model proposes, and the copy of it that the gate works on.

* `QualityCandidate` — the candidate; its parameters and signals are mappings with text keys.
* `aggregateConfidence` — the mean of the signals, or zero.
* `snapshotQualityCandidate`, `evaluationIdentity` — the copy, and what identifies it.

The strict adapter of native JSON, the canonical encoder, the hash and the arithmetic of floats are
those of the platform. A candidate is a value: no port writes to the copy it is given.
-/

namespace Fdai.Core.QualityGate

/-- An exception that a handler catches. -/
structure Raised where
  /-- `type(exc).__name__`. -/
  name : String
  text : String := ""

/-- A mapping with text keys, in their order. -/
abbrev Mapping := List (String × Value)

structure QualityCandidate where
  actionType : String
  targetResourceRef : String
  params : Mapping
  citedRuleIds : List String
  targetResourceType : Option String := none
  confidenceSignals : Mapping := []
  reasoningTrace : String := ""

/-- What the platform does: it copies native JSON or raises, encodes it canonically or raises, hashes,
computes the mean of floats and writes one with two decimals. -/
structure Platform where
  validateStrict : Mapping → Except Raised Unit
  dumps : Value → Except Raised String
  sha256 : String → String
  mean : List PyFloat → PyFloat
  fixed2 : PyFloat → String

/-- A signal: a number in the unit interval, or malformed. An integer that no float holds raises. -/
def signalValue : Value → Except Raised (Option PyFloat)
  | .int value =>
    match PyFloat.ofRat value with
    | .infinite _ => .error ⟨"OverflowError", "int too large to convert to float"⟩
    | number => .ok (inUnit number)
  | .float number => .ok (inUnit number)
  | _ => .ok none
where
  inUnit (number : PyFloat) : Option PyFloat :=
    if (PyFloat.finite 0).le number && number.le (.finite 1) then some number else none

/-- The loop over the signals: one that is malformed ends it. -/
def signalValues : Mapping → Except Raised (Option (List PyFloat))
  | [] => .ok (some [])
  | (_, signal) :: rest => do
    match ← signalValue signal with
    | none => return none
    | some value => return (← signalValues rest).map (value :: ·)

variable (platform : Platform)

def QualityCandidate.aggregateConfidence (candidate : QualityCandidate) : Except Raised PyFloat :=
  if candidate.confidenceSignals.isEmpty then .ok (.finite 0)
  else do
    match ← signalValues candidate.confidenceSignals with
    | none => return .finite 0
    | some values => return platform.mean values

def Mapping.toValue (entries : Mapping) : Value :=
  .mapping (entries.map fun (key, value) => (.str key, value))

def qualityCandidateDigest (candidate : QualityCandidate) : Except Raised String := do
  let payload ← platform.dumps (.mapping [ (.str "action_type", .str candidate.actionType),
    (.str "target_resource_ref", .str candidate.targetResourceRef),
    (.str "target_resource_type", (candidate.targetResourceType.map Value.str).getD .null),
    (.str "params", Mapping.toValue candidate.params),
    (.str "cited_rule_ids", .list (candidate.citedRuleIds.map .str))])
  return "sha256:" ++ platform.sha256 payload

def canonicalDigest (value : Value) : Except Raised String :=
  match platform.dumps value with
  | .ok encoded => .ok ("sha256:" ++ platform.sha256 encoded)
  | .error _ => .error ⟨"CompatibilityError", "digest input MUST be JSON-compatible"⟩

def snapshotCandidateParams (candidate : QualityCandidate) (params : Mapping) :
    Except Raised Mapping := do
  platform.validateStrict params
  let _ ← qualityCandidateDigest platform { candidate with params := params }
  return params

def snapshotQualityCandidate (candidate : QualityCandidate) : Except Raised QualityCandidate := do
  platform.validateStrict candidate.confidenceSignals
  let _ ← canonicalDigest platform (Mapping.toValue candidate.confidenceSignals)
  let params ← snapshotCandidateParams platform candidate candidate.params
  return { candidate with params := params }

/-- `quality_candidate_evaluation_identity`. -/
def evaluationIdentity (candidate : QualityCandidate) : Except Raised (String × String) := do
  let snapshot ← snapshotQualityCandidate platform candidate
  let action ← qualityCandidateDigest platform snapshot
  let confidence ← canonicalDigest platform (Mapping.toValue snapshot.confidenceSignals)
  return (action, confidence)

variable {platform} {candidate : QualityCandidate}

/-- **A copy is the candidate**, and it can be encoded. -/
theorem snapshot_eq_ok {snapshot : QualityCandidate}
    (copied : snapshotQualityCandidate platform candidate = .ok snapshot) :
    snapshot = candidate ∧ platform.validateStrict candidate.params = .ok () ∧
      (∃ digest, qualityCandidateDigest platform candidate = .ok digest) ∧
      ∃ digest, canonicalDigest platform (Mapping.toValue candidate.confidenceSignals) =
        .ok digest := by
  unfold snapshotQualityCandidate at copied
  rw [check_bind_eq_ok] at copied
  obtain ⟨_, copied⟩ := copied
  obtain ⟨confidence, isConfidence, copied⟩ := bind_eq_ok.1 copied
  obtain ⟨params, isParams, copied⟩ := bind_eq_ok.1 copied
  unfold snapshotCandidateParams at isParams
  rw [check_bind_eq_ok] at isParams
  obtain ⟨isNative, isParams⟩ := isParams
  obtain ⟨digest, isDigest, isParams⟩ := bind_eq_ok.1 isParams
  cases isParams
  cases copied
  exact ⟨rfl, isNative, ⟨digest, isDigest⟩, confidence, isConfidence⟩

theorem identity_of_snapshot (copied : snapshotQualityCandidate platform candidate = .ok candidate) :
    ∃ identity, evaluationIdentity platform candidate = .ok identity ∧
      qualityCandidateDigest platform candidate = .ok identity.1 := by
  obtain ⟨_, _, ⟨digest, isDigest⟩, confidence, isConfidence⟩ := snapshot_eq_ok copied
  refine ⟨(digest, confidence), ?_, isDigest⟩
  unfold evaluationIdentity
  rw [copied]
  show (qualityCandidateDigest platform candidate >>= _) = _
  rw [isDigest]
  show (canonicalDigest platform _ >>= _) = _
  rw [isConfidence]
  rfl

end Fdai.Core.QualityGate
