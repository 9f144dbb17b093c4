import Fdai.QualityGate.Candidate

/-!
# The debate on a disagreement

A critic and a judge look at the output of a proposer, once and then once more after a retry. Whatever
they raise becomes an abort, so a debate always ends.

* `evaluateCriticOutput`, `evaluateJudgeOutput` — the verdicts.
* `DebateOrchestrator.run` — the two rounds.
* `decideDebateRoute`, `resolveDisagreement` — when the gate asks for a debate.
-/

namespace Fdai.Core.QualityGate

/-- What a proposer proposes: an action type, and parameters. -/
abbrev ProposerOutput := String × Mapping

inductive CriticStance where
  | agree | challenge | abstain

inductive CriticSeverity where
  | low | medium | high
  deriving DecidableEq

/-- What the evaluator reads of a `CriticObjection`. -/
structure CriticObjection where
  severity : CriticSeverity
  citedRuleId : String

/-- What the evaluator reads of a `CriticOutput`. -/
structure CriticOutput where
  stance : CriticStance
  objections : List CriticObjection := []

inductive CriticVerdict where
  | endorse | retry | abort | abstain
  deriving DecidableEq

def CriticVerdict.value : CriticVerdict → String
  | .endorse => "endorse"
  | .retry => "retry"
  | .abort => "abort"
  | .abstain => "abstain"

def evaluateCriticOutput (output : CriticOutput) (knownRuleIds : List String) : CriticVerdict :=
  let hasHigh := output.objections.any (·.severity = .high)
  match output.stance with
  | .abstain => .abstain
  | .agree => if hasHigh then .abort else .endorse
  | .challenge =>
    if output.objections.isEmpty then .abstain
    else if output.objections.any (·.citedRuleId ∉ knownRuleIds) then .abstain
    else if hasHigh then .abort
    else .retry

inductive JudgeDecision where
  | accept | reviseAndRetry | escalateHil

/-- What the evaluator reads of a `JudgeOutput`. -/
structure JudgeOutput where
  decision : JudgeDecision
  retryDirective : Option String := none
  citations : List String := []

inductive JudgeVerdict where
  | proceed | retry | escalate
  deriving DecidableEq

def JudgeVerdict.value : JudgeVerdict → String
  | .proceed => "proceed"
  | .retry => "retry"
  | .escalate => "escalate"

def evaluateJudgeOutput (output : JudgeOutput) (knownRuleIds : List String) : JudgeVerdict :=
  if output.citations.any (· ∉ knownRuleIds) then .escalate
  else
    match output.decision with
    | .accept => .proceed
    | .reviseAndRetry =>
      match output.retryDirective with
      | none => .escalate
      | some directive => if isBlank directive then .escalate else .retry
    | .escalateHil => .escalate

/-! ## The rounds -/

inductive DebateVerdict where
  | proceed | abort
  deriving DecidableEq

def DebateVerdict.value : DebateVerdict → String
  | .proceed => "proceed"
  | .abort => "abort"

structure DebateOutcome where
  verdict : DebateVerdict
  reason : String
  finalProposerOutput : ProposerOutput
  criticOutput : Option CriticOutput := none
  judgeOutput : Option JudgeOutput := none
  criticVerdict : Option CriticVerdict := none
  judgeVerdict : Option JudgeVerdict := none
  rounds : ℕ := 1
  errorClass : Option String := none

/-- The roles of a debate, which answer or raise; the rounds count from one. -/
structure DebateRoles where
  critique : ℕ → QualityCandidate → ProposerOutput → Except Raised CriticOutput
  judge : ℕ → QualityCandidate → ProposerOutput → CriticOutput → Except Raised JudgeOutput
  retryProposer : QualityCandidate → String → Except Raised ProposerOutput

def outcomeFromError (proposerOutput : ProposerOutput) (reason : String) (raised : Raised)
    (criticOutput : Option CriticOutput) (criticVerdict : Option CriticVerdict)
    (judgeOutput : Option JudgeOutput) (judgeVerdict : Option JudgeVerdict) (rounds : ℕ) :
    DebateOutcome :=
  ⟨.abort, reason, proposerOutput, criticOutput, judgeOutput, criticVerdict, judgeVerdict, rounds,
    some raised.name⟩

variable (roles : DebateRoles) (candidate : QualityCandidate) (known : List String)

/-- Round 2 of `DebateOrchestrator.run`: it starts with the retry and ends the debate. -/
def debateRetry (proposerOutput : ProposerOutput) (criticOutput : CriticOutput)
    (criticVerdict : CriticVerdict) (judgeOutput : JudgeOutput) (judgeVerdict : JudgeVerdict)
    (directive : String) : DebateOutcome :=
  match roles.retryProposer candidate directive with
  | .error raised =>
    outcomeFromError proposerOutput ("proposer retry error: " ++ raised.text) raised
      (some criticOutput) (some criticVerdict) (some judgeOutput) (some judgeVerdict) 1
  | .ok retriedOutput =>
    match roles.critique 2 candidate retriedOutput with
    | .error raised =>
      outcomeFromError retriedOutput ("critic model error on retry: " ++ raised.text) raised
        none none (some judgeOutput) (some judgeVerdict) 2
    | .ok criticOutput2 =>
      let criticVerdict2 := evaluateCriticOutput criticOutput2 known
      if criticVerdict2 = .abort ∨ criticVerdict2 = .abstain then
        ⟨.abort, "critic " ++ criticVerdict2.value ++ " on retry", retriedOutput,
          some criticOutput2, some judgeOutput, some criticVerdict2, some judgeVerdict, 2, none⟩
      else
        match roles.judge 2 candidate retriedOutput criticOutput2 with
        | .error raised =>
          outcomeFromError retriedOutput ("judge model error on retry: " ++ raised.text) raised
            (some criticOutput2) (some criticVerdict2) none none 2
        | .ok judgeOutput2 =>
          let judgeVerdict2 := evaluateJudgeOutput judgeOutput2 known
          if judgeVerdict2 = .proceed then
            ⟨.proceed, "judge accepted on retry", retriedOutput, some criticOutput2,
              some judgeOutput2, some criticVerdict2, some judgeVerdict2, 2, none⟩
          else
            ⟨.abort, "judge " ++ judgeVerdict2.value ++ " after retry (max_rounds exhausted)",
              retriedOutput, some criticOutput2, some judgeOutput2, some criticVerdict2,
              some judgeVerdict2, 2, none⟩

/-- `DebateOrchestrator.run`, with a retry proposer. A verdict to retry has a directive. -/
def DebateOrchestrator.run (maxRounds : ℕ) (proposerOutput : ProposerOutput) : DebateOutcome :=
  match roles.critique 1 candidate proposerOutput with
  | .error raised =>
    outcomeFromError proposerOutput ("critic model error: " ++ raised.text) raised
      none none none none 1
  | .ok criticOutput =>
    let criticVerdict := evaluateCriticOutput criticOutput known
    if criticVerdict = .abort then
      ⟨.abort, "critic aborted on high-severity objection", proposerOutput, some criticOutput, none,
        some criticVerdict, none, 1, none⟩
    else if criticVerdict = .abstain then
      ⟨.abort, "critic abstained (ungrounded / empty challenge / abstain stance)", proposerOutput,
        some criticOutput, none, some criticVerdict, none, 1, none⟩
    else
      match roles.judge 1 candidate proposerOutput criticOutput with
      | .error raised =>
        outcomeFromError proposerOutput ("judge model error: " ++ raised.text) raised
          (some criticOutput) (some criticVerdict) none none 1
      | .ok judgeOutput =>
        let judgeVerdict := evaluateJudgeOutput judgeOutput known
        match judgeVerdict with
        | .proceed =>
          ⟨.proceed, "judge accepted", proposerOutput, some criticOutput, some judgeOutput,
            some criticVerdict, some judgeVerdict, 1, none⟩
        | .escalate =>
          ⟨.abort, "judge escalated to HIL", proposerOutput, some criticOutput, some judgeOutput,
            some criticVerdict, some judgeVerdict, 1, none⟩
        | .retry =>
          if maxRounds < 1 then
            ⟨.abort, "judge asked for retry but max_rounds=0 forbids it", proposerOutput,
              some criticOutput, some judgeOutput, some criticVerdict, some judgeVerdict, 1, none⟩
          else
            debateRetry roles candidate known proposerOutput criticOutput criticVerdict judgeOutput
              judgeVerdict (judgeOutput.retryDirective.getD "")

inductive DebateRoute where
  | debate | skip
  deriving DecidableEq

def DebateRoute.value : DebateRoute → String
  | .debate => "debate"
  | .skip => "skip"

/-- The fields of a `DebateRouterConfig`. -/
structure DebateRouterFields where
  enabled : Bool := true
  onCrossCheckDisagreement : Bool := true
  alwaysForActionTypes : List String := []
  neverForActionTypes : List String := []

/-- `DebateRouterConfig.__post_init__`. -/
def DebateRouterFields.check (config : DebateRouterFields) : Except String Unit :=
  validate [(config.alwaysForActionTypes.all (· ∉ config.neverForActionTypes),
    "DebateRouterConfig: always/never allowlists MUST be disjoint")]

abbrev DebateRouterConfig := Valid DebateRouterFields.check

def decideDebateRoute (actionType : String) (crossCheckDisagreed orchestratorAvailable : Bool)
    (config : DebateRouterFields) : DebateRoute × String :=
  if !orchestratorAvailable then (.skip, "orchestrator_unavailable")
  else if !config.enabled then (.skip, "disabled")
  else if actionType ∈ config.neverForActionTypes then (.skip, "never_list")
  else if actionType ∈ config.alwaysForActionTypes then (.debate, "always_list")
  else if crossCheckDisagreed && config.onCrossCheckDisagreement then
    (.debate, "cross_check_disagreement")
  else (.skip, "default_skip")

structure DebateResolution where
  resolved : Bool
  reasons : List String

/-- `resolve_disagreement`; an orchestrator is its `max_rounds`. -/
def resolveDisagreement (orchestrator : Option ℕ) (routerConfig : Option DebateRouterConfig)
    (firstProposerOutput : Option ProposerOutput) : DebateResolution :=
  match orchestrator, routerConfig, firstProposerOutput with
  | some maxRounds, some config, some proposerOutput =>
    let (route, why) := decideDebateRoute candidate.actionType true true config.val
    let routed := "debate_route:" ++ route.value ++ ":" ++ why
    if route ≠ .debate then ⟨false, [routed]⟩
    else
      let outcome := DebateOrchestrator.run roles candidate known maxRounds proposerOutput
      ⟨outcome.verdict = .proceed,
        [routed, "debate_outcome:" ++ outcome.verdict.value ++ ":" ++ outcome.reason]⟩
  | _, _, _ => ⟨false, []⟩

end Fdai.Core.QualityGate
