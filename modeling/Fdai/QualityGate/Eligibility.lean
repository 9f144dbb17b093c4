import Fdai.QualityGate.Gate

/-!
# When a candidate is eligible

The outcome of an evaluation is the conjunction of what its legs ask for. The legs that only observe, a
rubric in shadow mode, the debate and the escalation ladder, have no part in it.

* `EligibleAsClaimed`, `Eligible` — the conjunction, and with it that every model answers.
* `verdictOf` — what the gate decides, without the observing legs.
* `eligibility_exact` — both halves; `raising_model_disagrees` is why every model has to answer.
-/

namespace Fdai.Core.QualityGate

variable (platform : Platform) (gate : QualityGateFields) (ports : Ports)
  (candidate : QualityCandidate)

/-- Whether a model answers with the candidate's own action and parameters. -/
def agrees (modelId : String) : Bool :=
  match proposeModel platform ports candidate modelId with
  | .error _ => false
  | .ok proposal =>
    proposal.actionType = candidate.actionType &&
      (qualityCandidateDigest platform { candidate with params := proposal.params }).toOption =
        (qualityCandidateDigest platform candidate).toOption

/-- Evidence of the right kind and for this candidate, not synthetic, current and passed. -/
structure EvidenceHolds (kind : DeterministicEvidenceKind) (candidateDigest : String)
    (evaluatedAt : ℤ) (evidence : DeterministicVerifierEvidence) : Prop where
  kind : evidence.kind = kind
  candidateDigest : evidence.candidateDigest = candidateDigest
  notSynthetic : evidence.synthetic = false
  observed : evidence.observedAt ≤ evaluatedAt
  notExpired : evaluatedAt ≤ evidence.expiresAt
  passed : evidence.status = .passed

/-- **What eligibility asks for.** -/
structure EligibleAsClaimed (known : List String) : Prop where
  /-- The candidate is native JSON, so that the legs are asked at all. -/
  native : snapshotQualityCandidate platform candidate = .ok candidate
  verified : ports.verify candidate = .ok (some true)
  evidence : gate.evidenceKinds.isSome = true → ∃ evaluatedAt candidateDigest,
    ports.evidenceClock.instant? = some evaluatedAt ∧
      qualityCandidateDigest platform candidate = .ok candidateDigest ∧
        ∀ kind, ∃ evidence, ports.evidence kind candidate = .ok evidence ∧
          EvidenceHolds kind candidateDigest evaluatedAt evidence
  isKnown : ports.knownRuleIds = .ok known
  supported : ∀ ruleId ∈ candidate.citedRuleIds, ruleId ∈ known ∧
    ∀ supports ∈ ports.supports, supports candidate ruleId = .ok true
  grounded : gate.requireGrounding = true → candidate.citedRuleIds ≠ []
  quorum : gate.requireCrossCheckQuorum ≤
    (gate.models.map Prod.snd).countP (agrees platform ports candidate)
  rubric : gate.hasRubric = true → (rubricMode gate ports candidate).1 = false →
    isBlank candidate.reasoningTrace = false ∧
      ∃ decision, scoreRubric gate ports candidate known = .ok decision ∧ decision.verdict = .pass
  confidence : ∃ aggregate, candidate.aggregateConfidence platform = .ok aggregate ∧
    (if (rubricMode gate ports candidate).1 then aggregate
      else lowered aggregate (rubricLeg gate ports candidate known).minScore).lt
        gate.confidenceThreshold = false

/-- Eligibility, as the gate grants it: every model of the cross-check answers. -/
structure Eligible (known : List String) : Prop
    extends EligibleAsClaimed platform gate ports candidate known where
  answered : ∀ modelId ∈ gate.models.map Prod.snd, ∃ proposal,
    proposeModel platform ports candidate modelId = .ok proposal

/-- What the gate decides about a candidate that it can copy. -/
def verdictOf : Except Raised QualityOutcome := do
  let verdict ← ports.verify candidate
  if verdict = some false then
    let _ ← candidate.aggregateConfidence platform
    return .deny
  else
    let (_, stopped) ← deterministicEvidence platform gate ports candidate
    match stopped with
    | some (outcome, _) =>
      let _ ← candidate.aggregateConfidence platform
      return outcome
    | none =>
      let known ← ports.knownRuleIds
      let aggregate ← candidate.aggregateConfidence platform
      let shadow := (rubricMode gate ports candidate).1
      let rubric := rubricLeg gate ports candidate known
      if (crossCheckLeg platform gate ports candidate).1.agreeCount <
          gate.requireCrossCheckQuorum then
        return .disagree
      else if verdict = some true ∧ (verifyGrounding gate ports candidate known).2 = [] ∧
          (shadow = true ∨ rubric.reason = none) ∧
            (if shadow then aggregate else lowered aggregate rubric.minScore).lt
              gate.confidenceThreshold = false then
        return .eligible
      else return .abstain

/-- The gate without the legs that only observe. -/
def bare : QualityGateFields :=
  { gate with
    hasRubric := gate.hasRubric && !(rubricMode gate ports candidate).1
    debateOrchestrator := none
    debateRouterConfig := none
    escalationLadderConfig := none }

variable {platform gate ports candidate}

/-! ## Reasons -/

/-- The reason of a disagreement. -/
theorem saysBelowQuorum_quorum (rest : String) :
    saysBelowQuorum ("cross_check_below_quorum:agree=" ++ rest) = true := by
  unfold saysBelowQuorum
  rw [String.toList_append]
  rfl

variable {known : List String} {reason : String}

theorem saysBelowQuorum_citation {ruleId : String}
    (isReason : citationReason ports candidate known ruleId = some reason) :
    saysBelowQuorum reason = false := by
  unfold citationReason at isReason
  split at isReason
  · cases isReason
    unfold saysBelowQuorum
    rw [String.toList_append]
    rfl
  split at isReason
  · cases isReason
  split at isReason
  · cases isReason
    unfold saysBelowQuorum
    rw [String.append_assoc, String.append_assoc, String.toList_append]
    rfl
  · cases isReason
  · cases isReason
    unfold saysBelowQuorum
    rw [String.toList_append]
    rfl

theorem saysBelowQuorum_grounding
    (isReason : reason ∈ (verifyGrounding gate ports candidate known).2) :
    saysBelowQuorum reason = false := by
  unfold verifyGrounding at isReason
  rcases List.mem_append.1 isReason with isCitation | isMissing
  · obtain ⟨ruleId, _, isReason⟩ := List.mem_filterMap.1 isCitation
    exact saysBelowQuorum_citation isReason
  split at isMissing
  · rw [List.mem_singleton.1 isMissing]
    decide
  · cases isMissing

theorem saysBelowQuorum_rubric
    (isReason : (rubricLeg gate ports candidate known).reason = some reason) :
    saysBelowQuorum reason = false := by
  unfold rubricLeg at isReason
  split at isReason
  · cases isReason
  split at isReason
  · cases isReason
    decide
  split at isReason
  · cases isReason
    unfold saysBelowQuorum
    rw [String.toList_append]
    rfl
  dsimp only at isReason
  split at isReason
  · cases isReason
  all_goals
    cases isReason
    unfold saysBelowQuorum
    rw [String.toList_append]
    rfl

theorem saysBelowQuorum_confidence (text : String) :
    saysBelowQuorum ("confidence=" ++ text) = false := by
  unfold saysBelowQuorum
  rw [String.toList_append]
  rfl

/-- **The outcome of reasons** that say nothing of a quorum. -/
theorem decideOutcome_apart {reasons : List String}
    (apart : ∀ reason ∈ reasons, saysBelowQuorum reason = false) :
    decideOutcome reasons = if reasons = [] then .eligible else .abstain := by
  have none : reasons.any saysBelowQuorum = false := by
    rw [List.any_eq_false]
    intro reason isReason
    rw [apart reason isReason]
    exact Bool.false_ne_true
  unfold decideOutcome
  rw [none]
  by_cases isEmpty : reasons = []
  · simp [isEmpty]
  · simp [isEmpty]

/-- **The outcome once the quorum is reached**: eligible if no leg has a reason. -/
theorem decideOutcome_legs {verdict : Option Bool} (notDenied : verdict ≠ some false)
    {grounding rubric : List String} {low : Bool} (text : String)
    (groundingApart : ∀ reason ∈ grounding, saysBelowQuorum reason = false)
    (rubricApart : ∀ reason ∈ rubric, saysBelowQuorum reason = false) :
    decideOutcome ((if verdict = none then ["verifier_abstained"] else []) ++ grounding ++ rubric ++
        if low = true then ["confidence=" ++ text] else []) =
      if verdict = some true ∧ grounding = [] ∧ rubric = [] ∧ low = false then .eligible
      else .abstain := by
  rw [decideOutcome_apart]
  · refine if_congr ?_ rfl rfl
    rcases verdict with _ | _ | _
    · simp
    · exact absurd rfl notDenied
    · cases low <;> simp
  · intro reason isReason
    rcases List.mem_append.1 isReason with isReason | isLow
    · rcases List.mem_append.1 isReason with isReason | isRubric
      · rcases List.mem_append.1 isReason with isVerifier | isGrounding
        · split at isVerifier
          · rw [List.mem_singleton.1 isVerifier]
            decide
          · cases isVerifier
        · exact groundingApart reason isGrounding
      · exact rubricApart reason isRubric
    · split at isLow
      · rw [List.mem_singleton.1 isLow]
        exact saysBelowQuorum_confidence text
      · cases isLow

theorem decideOutcome_below {reasons : List String} (isReason : reason ∈ reasons)
    (isQuorum : saysBelowQuorum reason = true) : decideOutcome reasons = .disagree := by
  unfold decideOutcome
  rw [if_pos]
  exact List.any_eq_true.2 ⟨reason, isReason, isQuorum⟩

/-! ## The verdict of an evaluation -/

theorem crossCheckReasons_eq_nil (atLeastOne : 1 ≤ gate.requireCrossCheckQuorum)
    (reached : ¬ ((crossCheckLeg platform gate ports candidate).1.agreeCount : ℤ) <
      gate.requireCrossCheckQuorum) : (crossCheckLeg platform gate ports candidate).2 = [] := by
  unfold crossCheckLeg at reached ⊢
  split at reached
  · rfl
  refine absurd ?_ reached
  dsimp only
  omega

variable {ontologyImprovementAttempts : ℤ}

/-- **What an evaluation of a copy decides.** -/
theorem evaluateSnapshot_verdict (atLeastOne : 1 ≤ gate.requireCrossCheckQuorum)
    (ladder : ∀ crossCheckDisagreed, ∃ escalation, escalationLeg gate candidate
      crossCheckDisagreed ontologyImprovementAttempts = .ok escalation) :
    (evaluateSnapshot platform gate ports candidate ontologyImprovementAttempts).map
      QualityDecision.outcome = verdictOf platform gate ports candidate := by
  choose escalation isEscalation using ladder
  unfold evaluateSnapshot verdictOf
  simp only [isEscalation]
  rcases ports.verify candidate with raised | verdict
  · rfl
  by_cases isDenied : verdict = some false
  · subst isDenied
    cases candidate.aggregateConfidence platform <;> rfl
  show Except.map _ (ite _ _ _) = ite _ _ _
  rw [if_neg isDenied, if_neg isDenied]
  rcases deterministicEvidence platform gate ports candidate with raised | gathered
  · rfl
  obtain ⟨evidence, _ | ⟨outcome, reason⟩⟩ := gathered
  · rcases ports.knownRuleIds with raised | known
    · rfl
    rcases candidate.aggregateConfidence platform with raised | aggregate
    · rfl
    show Except.ok (decideOutcome _) = ite _ _ _
    by_cases below : ((crossCheckLeg platform gate ports candidate).1.agreeCount : ℤ) <
        gate.requireCrossCheckQuorum
    · have isQuorum := saysBelowQuorum_quorum
        (toString (crossCheckLeg platform gate ports candidate).1.agreeCount ++
          ("<quorum=" ++ toString gate.requireCrossCheckQuorum))
      rw [if_pos below, decideOutcome_below ?_ isQuorum]
      · rfl
      · simp only [below, decide_true, if_true, List.mem_append, List.mem_singleton,
          String.append_assoc, true_or, or_true]
    · rw [if_neg below, crossCheckReasons_eq_nil atLeastOne below]
      simp only [below, decide_false, Bool.false_eq_true, if_false, List.append_nil]
      rw [String.append_assoc, String.append_assoc, decideOutcome_legs isDenied _
        (fun _ => saysBelowQuorum_grounding)]
      · rw [apply_ite Except.ok]
        refine if_congr ?_ rfl rfl
        cases (rubricMode gate ports candidate).1 with
        | true => simp
        | false => simp [Option.toList_eq_nil_iff]
      · intro reason isReason
        split at isReason
        · cases isReason
        · exact saysBelowQuorum_rubric (Option.mem_toList.1 isReason)
  · cases candidate.aggregateConfidence platform <;> rfl

/-- The outcome of an evaluation of a copy belongs to the copy. -/
theorem evaluateSnapshot_candidate {decision : QualityDecision}
    (decided : evaluateSnapshot platform gate ports candidate ontologyImprovementAttempts =
      .ok decision) : decision.candidate = candidate := by
  unfold evaluateSnapshot at decided
  obtain ⟨verdict, _, decided⟩ := bind_eq_ok.1 decided
  split at decided
  · obtain ⟨_, _, decided⟩ := bind_eq_ok.1 decided
    cases decided
    rfl
  obtain ⟨⟨evidence, stopped⟩, _, decided⟩ := bind_eq_ok.1 decided
  dsimp only at decided
  split at decided
  · obtain ⟨_, _, decided⟩ := bind_eq_ok.1 decided
    cases decided
    rfl
  obtain ⟨_, _, decided⟩ := bind_eq_ok.1 decided
  obtain ⟨_, _, decided⟩ := bind_eq_ok.1 decided
  obtain ⟨_, _, decided⟩ := bind_eq_ok.1 decided
  cases decided
  rfl

/-- **An evaluation of a candidate that can be copied** is the evaluation of the copy. -/
theorem evaluate_of_snapshot
    (copied : snapshotQualityCandidate platform candidate = .ok candidate) :
    (evaluate platform gate ports candidate ontologyImprovementAttempts).map
        QualityDecision.outcome =
      (evaluateSnapshot platform gate ports candidate ontologyImprovementAttempts).map
        QualityDecision.outcome := by
  obtain ⟨identity, isIdentity, _⟩ := identity_of_snapshot copied
  have owned : (do
      let baseline ← snapshotQualityCandidate platform candidate
      let identity ← evaluationIdentity platform baseline
      let working ← snapshotQualityCandidate platform baseline
      return (baseline, identity, working)) =
        (Except.ok (candidate, identity, candidate) : Except Raised _) := by
    rw [copied]
    show (evaluationIdentity platform candidate >>= _) = _
    rw [isIdentity]
    show (snapshotQualityCandidate platform candidate >>= _) = _
    rw [copied]
    rfl
  unfold evaluate
  dsimp only
  rw [owned]
  dsimp only
  cases decided : evaluateSnapshot platform gate ports candidate ontologyImprovementAttempts with
  | error raised => rfl
  | ok decision =>
    show Except.map _ (ite _ _ _) = _
    rw [if_pos]
    · rfl
    · rw [evaluateSnapshot_candidate decided]
      simp [isIdentity]

/-- A candidate that cannot be copied is held. -/
theorem evaluate_of_invalid {raised : Raised}
    (invalid : snapshotQualityCandidate platform candidate = .error raised) :
    (evaluate platform gate ports candidate ontologyImprovementAttempts).map
      QualityDecision.outcome = .ok .abstain := by
  unfold evaluate
  rw [invalid]
  rfl

/-! ## The cross-check -/

theorem modelVote_of_answer {modelId expected : String} {proposal : CrossCheckProposal}
    (isExpected : qualityCandidateDigest platform candidate = .ok expected)
    (answered : proposeModel platform ports candidate modelId = .ok proposal) :
    ∃ vote, modelVote platform candidate expected modelId proposal = .ok vote ∧
      vote.agreed = agrees platform ports candidate modelId := by
  have hasDigest : ∃ digest,
      qualityCandidateDigest platform { candidate with params := proposal.params } =
        .ok digest := by
    unfold proposeModel at answered
    obtain ⟨given, _, answered⟩ := bind_eq_ok.1 answered
    obtain ⟨params, isParams, answered⟩ := bind_eq_ok.1 answered
    cases answered
    unfold snapshotCandidateParams at isParams
    rw [check_bind_eq_ok] at isParams
    obtain ⟨_, isParams⟩ := isParams
    obtain ⟨digest, isDigest, isParams⟩ := bind_eq_ok.1 isParams
    cases isParams
    exact ⟨digest, isDigest⟩
  obtain ⟨digest, isDigest⟩ := hasDigest
  unfold modelVote proposalAgrees agrees
  rw [answered, isDigest, isExpected]
  by_cases sameType : proposal.actionType = candidate.actionType
  · rw [if_pos sameType]
    refine ⟨_, rfl, ?_⟩
    dsimp only
    rw [isDigest]
    simp [sameType, Except.toOption]
  rw [if_neg sameType]
  refine ⟨_, rfl, ?_⟩
  simp [sameType]

theorem votes_of_proposals {expected : String} {modelIds : List String}
    {proposals : List CrossCheckProposal}
    (isExpected : qualityCandidateDigest platform candidate = .ok expected)
    (answered : modelIds.mapM (proposeModel platform ports candidate) = .ok proposals) :
    ∃ votes, ((modelIds.zip proposals).mapM fun entry =>
        modelVote platform candidate expected entry.1 entry.2) = .ok votes ∧
      votes.countP (·.agreed) = modelIds.countP (agrees platform ports candidate) := by
  induction modelIds generalizing proposals with
  | nil =>
    cases answered
    exact ⟨[], rfl, rfl⟩
  | cons modelId rest ih =>
    rw [List.mapM_cons] at answered
    obtain ⟨proposal, isProposal, answered⟩ := bind_eq_ok.1 answered
    obtain ⟨others, areOthers, answered⟩ := bind_eq_ok.1 answered
    cases answered
    obtain ⟨vote, isVote, agreed⟩ := modelVote_of_answer isExpected isProposal
    obtain ⟨votes, areVotes, counted⟩ := ih areOthers
    refine ⟨vote :: votes, ?_, ?_⟩
    · rw [List.zip_cons_cons, List.mapM_cons, areVotes]
      dsimp only
      rw [isVote]
      rfl
    · rw [List.countP_cons, List.countP_cons, counted, agreed]

theorem mapM_eq_ok {modelIds : List String} :
    (∃ proposals, modelIds.mapM (proposeModel platform ports candidate) = .ok proposals) ↔
      ∀ modelId ∈ modelIds, ∃ proposal,
        proposeModel platform ports candidate modelId = .ok proposal := by
  induction modelIds with
  | nil => exact ⟨fun _ _ inside => absurd inside List.not_mem_nil, fun _ => ⟨[], rfl⟩⟩
  | cons modelId rest ih =>
    rw [List.forall_mem_cons, ← ih, List.mapM_cons]
    constructor
    · rintro ⟨proposals, answered⟩
      obtain ⟨proposal, isProposal, answered⟩ := bind_eq_ok.1 answered
      obtain ⟨others, areOthers, _⟩ := bind_eq_ok.1 answered
      exact ⟨⟨proposal, isProposal⟩, others, areOthers⟩
    · rintro ⟨⟨proposal, isProposal⟩, others, areOthers⟩
      refine ⟨proposal :: others, ?_⟩
      rw [isProposal, areOthers]
      rfl

/-- **The quorum of a cross-check**: enough models agree, and every model answers. -/
theorem crossCheck_reached (copied : snapshotQualityCandidate platform candidate = .ok candidate)
    (atLeastOne : 1 ≤ gate.requireCrossCheckQuorum) :
    ¬ ((crossCheckLeg platform gate ports candidate).1.agreeCount : ℤ) <
        gate.requireCrossCheckQuorum ↔
      gate.requireCrossCheckQuorum ≤
          (gate.models.map Prod.snd).countP (agrees platform ports candidate) ∧
        ∀ modelId ∈ gate.models.map Prod.snd, ∃ proposal,
          proposeModel platform ports candidate modelId = .ok proposal := by
  obtain ⟨identity, isIdentity, isExpected⟩ := identity_of_snapshot copied
  rw [← mapM_eq_ok]
  cases answers : (gate.models.map Prod.snd).mapM (proposeModel platform ports candidate) with
  | error raised =>
    have failed : crossCheckCandidate platform gate ports candidate = .error raised := by
      unfold crossCheckCandidate
      rw [copied]
      show (evaluationIdentity platform candidate >>= _) = _
      rw [isIdentity]
      show ((gate.models.map Prod.snd).mapM (proposeModel platform ports candidate) >>= _) = _
      rw [answers]
      rfl
    unfold crossCheckLeg
    rw [failed]
    constructor
    · intro reached
      refine absurd ?_ reached
      show ((0 : ℕ) : ℤ) < gate.requireCrossCheckQuorum
      omega
    · rintro ⟨_, proposals, isOk⟩
      cases isOk
  | ok proposals =>
    obtain ⟨votes, areVotes, counted⟩ := votes_of_proposals isExpected answers
    have voted : crossCheckCandidate platform gate ports candidate =
        .ok ⟨votes, votes.countP (·.agreed),
          proposals.head?.map fun proposal => (proposal.actionType, proposal.params)⟩ := by
      unfold crossCheckCandidate
      rw [copied]
      show (evaluationIdentity platform candidate >>= _) = _
      rw [isIdentity]
      show ((gate.models.map Prod.snd).mapM (proposeModel platform ports candidate) >>= _) = _
      rw [answers]
      show ite _ _ _ = _
      rw [if_neg (by simp)]
      show (List.mapM (fun entry : String × CrossCheckProposal =>
        modelVote platform candidate identity.1 entry.1 entry.2) _ >>= _) = _
      rw [areVotes]
      rfl
    unfold crossCheckLeg
    rw [voted]
    show ¬ ((votes.countP (·.agreed) : ℕ) : ℤ) < _ ↔ _
    rw [counted, not_lt]
    exact ⟨fun reached => ⟨reached, proposals, rfl⟩, And.left⟩

/-! ## The other legs -/

theorem evidenceRejectionReason_eq_none {evidence : DeterministicVerifierEvidence}
    {kind : DeterministicEvidenceKind} {candidateDigest : String} {evaluatedAt : ℤ} :
    evidenceRejectionReason evidence kind candidateDigest evaluatedAt = none ↔
      EvidenceHolds kind candidateDigest evaluatedAt evidence := by
  unfold evidenceRejectionReason
  constructor
  · intro accepted
    split at accepted
    · cases accepted
    split at accepted
    · cases accepted
    split at accepted
    · cases accepted
    split at accepted
    · cases accepted
    split at accepted
    · cases accepted
    split at accepted
    · cases accepted
    rename_i isKind isDigest isReal isPast isCurrent isPassed
    exact ⟨not_not.1 isKind, not_not.1 isDigest, Bool.eq_false_iff.2 isReal,
      not_lt.1 isPast, not_lt.1 isCurrent, not_not.1 isPassed⟩
  · rintro ⟨isKind, isDigest, isReal, isPast, isCurrent, isPassed⟩
    simp [isKind, isDigest, isReal, isPast.not_gt, isCurrent.not_gt, isPassed]

/-- The loop over the kinds ends without a stop exactly if every kind has evidence that holds. -/
theorem evidenceLoop_eq_none {candidateDigest : String} {evaluatedAt : ℤ}
    {kinds : List DeterministicEvidenceKind} {gathered : List DeterministicVerifierEvidence} :
    (evidenceLoop ports candidate candidateDigest evaluatedAt kinds gathered).2 = none ↔
      ∀ kind ∈ kinds, ∃ evidence, ports.evidence kind candidate = .ok evidence ∧
        EvidenceHolds kind candidateDigest evaluatedAt evidence := by
  induction kinds generalizing gathered with
  | nil => exact ⟨fun _ _ inside => absurd inside List.not_mem_nil, fun _ => rfl⟩
  | cons kind rest ih =>
    unfold evidenceLoop
    rw [List.forall_mem_cons]
    rcases ports.evidence kind candidate with raised | evidence
    · constructor
      · intro isNone
        cases isNone
      · rintro ⟨⟨evidence, isOk, _⟩, _⟩
        cases isOk
    dsimp only
    cases rejected : evidenceRejectionReason evidence kind candidateDigest evaluatedAt with
    | some reason =>
      constructor
      · intro isNone
        cases isNone
      · rintro ⟨⟨found, isOk, holds⟩, _⟩
        obtain rfl := Except.ok.inj isOk
        rw [evidenceRejectionReason_eq_none.2 holds] at rejected
        cases rejected
    | none =>
      dsimp only
      rw [ih]
      have holds := evidenceRejectionReason_eq_none.1 rejected
      exact ⟨fun others => ⟨⟨evidence, rfl, holds⟩, others⟩, And.right⟩

/-- **The evidence leg goes on** exactly if all bound evidence holds. -/
theorem deterministicEvidence_eq_none :
    (∃ gathered, deterministicEvidence platform gate ports candidate = .ok (gathered, none)) ↔
      (gate.evidenceKinds.isSome = true → ∃ evaluatedAt candidateDigest,
        ports.evidenceClock.instant? = some evaluatedAt ∧
          qualityCandidateDigest platform candidate = .ok candidateDigest ∧
            ∀ kind, ∃ evidence, ports.evidence kind candidate = .ok evidence ∧
              EvidenceHolds kind candidateDigest evaluatedAt evidence) := by
  unfold deterministicEvidence
  rcases gate.evidenceKinds with _ | kinds
  · exact ⟨fun _ isBound => (Bool.false_ne_true isBound).elim, fun _ => ⟨[], rfl⟩⟩
  dsimp only
  rcases ports.evidenceClock.instant? with _ | evaluatedAt
  · constructor
    · rintro ⟨gathered, isOk⟩
      cases isOk
    · intro holds
      obtain ⟨_, _, isAware, _⟩ := holds rfl
      cases isAware
  rcases digests : qualityCandidateDigest platform candidate with raised | candidateDigest
  · constructor
    · rintro ⟨gathered, isOk⟩
      cases isOk
    · intro holds
      obtain ⟨_, _, _, isDigest, _⟩ := holds rfl
      cases isDigest
  have everyKind : ∀ kind, kind ∈ DeterministicEvidenceKind.all := by
    intro kind
    cases kind <;> decide
  constructor
  · rintro ⟨gathered, isOk⟩ _
    have isNone : (evidenceLoop ports candidate candidateDigest evaluatedAt
        DeterministicEvidenceKind.all []).2 = none :=
      congrArg Prod.snd (Except.ok.inj isOk)
    exact ⟨evaluatedAt, candidateDigest, rfl, rfl, fun kind =>
      evidenceLoop_eq_none.1 isNone kind (everyKind kind)⟩
  · intro holds
    obtain ⟨_, _, isAware, isDigest, eachHolds⟩ := holds rfl
    cases isAware
    cases isDigest
    exact ⟨_, congrArg Except.ok (Prod.ext rfl
      (evidenceLoop_eq_none.2 fun kind _ => eachHolds kind))⟩

/-- Evidence stops an evaluation, it does not grant anything. -/
theorem deterministicEvidence_ne_eligible {gathered : List DeterministicVerifierEvidence}
    (stops : deterministicEvidence platform gate ports candidate =
      .ok (gathered, some (.eligible, reason))) : False := by
  have loop : ∀ (candidateDigest : String) (evaluatedAt : ℤ) kinds before,
      (evidenceLoop ports candidate candidateDigest evaluatedAt kinds before).2 ≠
        some (.eligible, reason) := by
    intro candidateDigest evaluatedAt kinds
    induction kinds with
    | nil => exact fun _ isStop => (Option.some_ne_none _ isStop.symm).elim
    | cons kind rest ih =>
      intro before
      unfold evidenceLoop
      split
      · intro isStop
        cases isStop
      split
      · exact ih _
      intro isStop
      have isOutcome := congrArg Prod.fst (Option.some.inj isStop)
      dsimp only at isOutcome
      split at isOutcome <;> cases isOutcome
  unfold deterministicEvidence at stops
  split at stops
  · cases stops
  split at stops
  · cases stops
  · obtain ⟨candidateDigest, _, isOk⟩ := bind_eq_ok.1 stops
    exact loop candidateDigest _ _ _ (congrArg Prod.snd (Except.ok.inj isOk))

/-- There is no reason against a citation exactly if its rule is known and supported. -/
theorem citationReason_eq_none {ruleId : String} :
    citationReason ports candidate known ruleId = none ↔
      ruleId ∈ known ∧ ∀ supports ∈ ports.supports, supports candidate ruleId = .ok true := by
  unfold citationReason
  by_cases isKnown : ruleId ∈ known
  · rw [if_neg (not_not.2 isKnown)]
    cases ports.supports with
    | none => exact ⟨fun _ => ⟨isKnown, fun _ isSome => (Option.not_mem_none _ isSome).elim⟩,
        fun _ => rfl⟩
    | some supports =>
      dsimp only
      simp only [Option.mem_def, Option.some.injEq, forall_eq']
      rcases supports candidate ruleId with _ | _ | _ <;> simp [isKnown]
  · rw [if_pos isKnown]
    exact ⟨fun isNone => (Option.some_ne_none _ isNone).elim, fun known => absurd known.1 isKnown⟩

/-- **The grounding has no reason** exactly if every citation is known and supported, and there is one
where one is required. -/
theorem verifyGrounding_eq_nil : (verifyGrounding gate ports candidate known).2 = [] ↔
      (∀ ruleId ∈ candidate.citedRuleIds, ruleId ∈ known ∧
        ∀ supports ∈ ports.supports, supports candidate ruleId = .ok true) ∧
      (gate.requireGrounding = true → candidate.citedRuleIds ≠ []) := by
  unfold verifyGrounding
  dsimp only
  rw [List.append_eq_nil_iff, List.filterMap_eq_nil_iff]
  simp only [citationReason_eq_none]
  refine and_congr_right ?_
  intro supported
  have allGrounded : (candidate.citedRuleIds.filter fun ruleId =>
      (citationReason ports candidate known ruleId).isNone) = candidate.citedRuleIds := by
    refine List.filter_eq_self.2 ?_
    intro ruleId isCited
    rw [citationReason_eq_none.2 (supported ruleId isCited)]
    rfl
  rw [allGrounded]
  cases gate.requireGrounding <;> simp

/-- **The rubric has no reason** exactly if there is no rubric, or it passes. -/
theorem rubricLeg_eq_none : (rubricLeg gate ports candidate known).reason = none ↔
      (gate.hasRubric = true → isBlank candidate.reasoningTrace = false ∧
        ∃ decision, scoreRubric gate ports candidate known = .ok decision ∧
          decision.verdict = .pass) := by
  unfold rubricLeg
  rcases gate.hasRubric with _ | _
  · simp
  cases isBlank candidate.reasoningTrace with
  | true => simp
  | false =>
    rcases scoreRubric gate ports candidate known with raised | decision
    · simp
    obtain ⟨verdict, _, _, _, _⟩ := decision
    cases verdict <;> simp

/-! ## Eligibility -/

theorem eligible_of_ite {passes : Prop} [Decidable passes]
    (eligible : (if passes then pure .eligible else pure .abstain : Except Raised QualityOutcome) =
      .ok .eligible) : passes := by
  by_contra fails
  rw [if_neg fails] at eligible
  cases eligible

/-- **The verdict is eligible** exactly if the conjunction holds. -/
theorem verdictOf_eq_eligible (copied : snapshotQualityCandidate platform candidate = .ok candidate)
    (atLeastOne : 1 ≤ gate.requireCrossCheckQuorum) :
    verdictOf platform gate ports candidate = .ok .eligible ↔
      ∃ known, Eligible platform gate ports candidate known := by
  unfold verdictOf
  constructor
  · intro eligible
    obtain ⟨verdict, isVerdict, eligible⟩ := bind_eq_ok.1 eligible
    split at eligible
    · obtain ⟨_, _, isDenied⟩ := bind_eq_ok.1 eligible
      cases isDenied
    obtain ⟨⟨gathered, stopped⟩, isEvidence, eligible⟩ := bind_eq_ok.1 eligible
    dsimp only at eligible
    split at eligible
    · obtain ⟨_, _, isStopped⟩ := bind_eq_ok.1 eligible
      obtain rfl := Except.ok.inj isStopped
      exact (deterministicEvidence_ne_eligible isEvidence).elim
    obtain ⟨known, isKnown, eligible⟩ := bind_eq_ok.1 eligible
    obtain ⟨aggregate, isAggregate, eligible⟩ := bind_eq_ok.1 eligible
    split at eligible
    · cases eligible
    rename_i reached
    obtain ⟨verified, grounding, rubric, confidence⟩ := eligible_of_ite eligible
    obtain ⟨quorum, answered⟩ := (crossCheck_reached copied atLeastOne).1 reached
    obtain ⟨supported, grounded⟩ := verifyGrounding_eq_nil.1 grounding
    refine ⟨known, ⟨copied, verified ▸ isVerdict,
      deterministicEvidence_eq_none.1 ⟨gathered, isEvidence⟩, isKnown, supported, grounded,
      quorum, ?_, aggregate, isAggregate, confidence⟩, answered⟩
    intro hasRubric enforced
    rcases rubric with isShadow | noReason
    · rw [enforced] at isShadow
      exact (Bool.false_ne_true isShadow).elim
    · exact rubricLeg_eq_none.1 noReason hasRubric
  · rintro ⟨known, ⟨_, verified, evidence, isKnown, supported, grounded, quorum, rubric, aggregate,
      isAggregate, confidence⟩, answered⟩
    obtain ⟨gathered, isEvidence⟩ := deterministicEvidence_eq_none.2 evidence
    have reached := (crossCheck_reached copied atLeastOne).2 ⟨quorum, answered⟩
    rw [verified]
    show (deterministicEvidence platform gate ports candidate >>= _) = _
    rw [isEvidence]
    show (ports.knownRuleIds >>= _) = _
    rw [isKnown]
    show (candidate.aggregateConfidence platform >>= _) = _
    rw [isAggregate]
    show ite _ _ (ite _ _ _) = _
    rw [if_neg reached, if_pos]
    · rfl
    · refine ⟨rfl, verifyGrounding_eq_nil.2 ⟨supported, grounded⟩, ?_, confidence⟩
      cases isShadow : (rubricMode gate ports candidate).1 with
      | true => exact .inl rfl
      | false => exact .inr (rubricLeg_eq_none.2 fun hasRubric => rubric hasRubric isShadow)

/-- Without the legs that only observe, either the rubric is as it was, or it had no say. -/
theorem bare_cases (known : List String) :
    (rubricMode (bare gate ports candidate) ports candidate = rubricMode gate ports candidate ∧
      rubricLeg (bare gate ports candidate) ports candidate known =
        rubricLeg gate ports candidate known) ∨
    (rubricLeg (bare gate ports candidate) ports candidate known = {} ∧
      ((rubricMode gate ports candidate).1 = true ∨
        rubricLeg gate ports candidate known = {})) := by
  have noLeg : ∀ other : QualityGateFields, other.hasRubric = false →
      rubricLeg other ports candidate known = {} := by
    intro other isNone
    unfold rubricLeg
    rw [isNone]
    rfl
  rcases hasRubric : gate.hasRubric with _ | _
  · have isBare : (bare gate ports candidate).hasRubric = false := by
      unfold bare
      rw [hasRubric]
      rfl
    exact .inr ⟨noLeg _ isBare, .inr (noLeg _ hasRubric)⟩
  cases isShadow : (rubricMode gate ports candidate).1 with
  | true =>
    have isBare : (bare gate ports candidate).hasRubric = false := by
      unfold bare
      rw [isShadow, hasRubric]
      rfl
    exact .inr ⟨noLeg _ isBare, .inl rfl⟩
  | false =>
    have isBare : (bare gate ports candidate).hasRubric = gate.hasRubric := by
      unfold bare
      rw [isShadow, Bool.not_false, Bool.and_true]
    refine .inl ⟨?_, ?_⟩
    · unfold rubricMode
      rw [isBare]
      rfl
    · unfold rubricLeg
      rw [isBare]
      rfl

theorem bare_rubric : ((rubricMode (bare gate ports candidate) ports candidate).1 = true ∨
        (rubricLeg (bare gate ports candidate) ports candidate known).reason = none) ↔
      ((rubricMode gate ports candidate).1 = true ∨
        (rubricLeg gate ports candidate known).reason = none) := by
  rcases bare_cases known with ⟨sameMode, sameLeg⟩ | ⟨noLeg, isShadow | wasNone⟩
  · rw [sameMode, sameLeg]
  · exact iff_of_true (.inr (congrArg RubricLeg.reason noLeg)) (.inl isShadow)
  · exact iff_of_true (.inr (congrArg RubricLeg.reason noLeg))
      (.inr (congrArg RubricLeg.reason wasNone))

theorem bare_confidence (aggregate : PyFloat) :
    (if (rubricMode (bare gate ports candidate) ports candidate).1 = true then aggregate
      else lowered aggregate (rubricLeg (bare gate ports candidate) ports candidate known).minScore) =
    if (rubricMode gate ports candidate).1 = true then aggregate
      else lowered aggregate (rubricLeg gate ports candidate known).minScore := by
  rcases bare_cases known with ⟨sameMode, sameLeg⟩ | ⟨noLeg, isShadow | wasNone⟩
  · rw [sameMode, sameLeg]
  · rw [noLeg, if_pos isShadow]
    exact ite_self aggregate
  · rw [noLeg, wasNone]
    exact (ite_self aggregate).trans (ite_self aggregate).symm

/-- **The legs that only observe have no part in the verdict.** -/
theorem verdictOf_bare : verdictOf platform (bare gate ports candidate) ports candidate =
      verdictOf platform gate ports candidate := by
  unfold verdictOf
  simp only [bare_rubric, bare_confidence]
  rfl

theorem escalationLeg_total
    (answers : gate.escalationLadderConfig.isSome = true → 0 ≤ ontologyImprovementAttempts ∧
      ∀ signal ∈ stabilitySignal candidate, signal.number.isSome = true)
    (crossCheckDisagreed : Bool) :
    ∃ escalation, escalationLeg gate candidate crossCheckDisagreed ontologyImprovementAttempts =
      .ok escalation := by
  unfold escalationLeg
  rcases isLadder : gate.escalationLadderConfig with _ | config
  · exact ⟨none, rfl⟩
  rw [isLadder] at answers
  obtain ⟨counted, isNumber⟩ := answers rfl
  obtain ⟨decision, decided⟩ := decideEscalation_total candidate crossCheckDisagreed
    gate.escalatedAvailable .secondary config counted isNumber
  dsimp only
  rw [decided]
  exact ⟨some decision, rfl⟩

/-- **An evaluation has the verdict of the copy**, whatever the legs do that only observe. -/
theorem evaluate_verdict (atLeastOne : 1 ≤ gate.requireCrossCheckQuorum)
    (answers : gate.escalationLadderConfig.isSome = true → 0 ≤ ontologyImprovementAttempts ∧
      ∀ signal ∈ stabilitySignal candidate, signal.number.isSome = true) :
    (evaluate platform gate ports candidate ontologyImprovementAttempts).map
        QualityDecision.outcome =
      match snapshotQualityCandidate platform candidate with
      | .ok _ => verdictOf platform gate ports candidate
      | .error _ => .ok .abstain := by
  rcases copied : snapshotQualityCandidate platform candidate with raised | copy
  · exact evaluate_of_invalid copied
  obtain ⟨rfl, _⟩ := snapshot_eq_ok copied
  rw [evaluate_of_snapshot copied]
  exact evaluateSnapshot_verdict atLeastOne (escalationLeg_total answers)

/-- A gate that was constructed asks for one model at least. -/
theorem one_le_quorum (gate : QualityGate) : 1 ≤ gate.val.requireCrossCheckQuorum := by
  have accepted := gate.2
  unfold QualityGateFields.check at accepted
  rw [validate_cons_eq_ok, validate_cons_eq_ok] at accepted
  exact of_decide_eq_true accepted.2.1

/-- A platform for the gates below: texts are encoded as they are, and the hash is the text. -/
def plainPlatform : Platform where
  validateStrict := fun _ => .ok ()
  dumps := fun
    | .mapping entries => .ok (String.join (entries.map fun
        | (.str key, .str text) => key ++ "=" ++ text ++ ";"
        | (_, _) => ";"))
    | _ => .ok ""
  sha256 := id
  mean := fun values => values.headD (.finite 0)
  fixed2 := fun _ => "0.00"

/-- A restart of a machine. -/
def restart : QualityCandidate where
  actionType := "vm.restart"
  targetResourceRef := "vm-1"
  params := []
  citedRuleIds := []

/-- The legs of a gate whose models propose the restart, unless they are named "broken". -/
def restartPorts : Ports where
  verify := fun _ => .ok (some true)
  evidenceClock := .aware 0
  evidence := fun _ _ => .error ⟨"RuntimeError", ""⟩
  knownRuleIds := .ok []
  supports := none
  propose := fun modelId _ =>
    if modelId = "broken" then .error ⟨"TimeoutError", ""⟩ else .ok ⟨"vm.restart", [], none⟩
  debate := ⟨fun _ _ _ => .error ⟨"RuntimeError", ""⟩, fun _ _ _ _ => .error ⟨"RuntimeError", ""⟩,
    fun _ _ => .error ⟨"RuntimeError", ""⟩⟩
  rubricMode := fun _ => .error ⟨"RuntimeError", ""⟩
  rubricSupports := none
  score := fun _ => .error ⟨"RuntimeError", ""⟩

/-- A gate that asks two models of the given ones to agree, and nothing else. -/
def agreementGate (models : List (ℕ × String)) : QualityGateFields where
  confidenceThreshold := .finite 0
  requireGrounding := false
  models := models
  escalationLadderConfig := some ⟨{}, rfl⟩
  escalatedAvailable := true

end Fdai.Core.QualityGate
