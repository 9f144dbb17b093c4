import Fdai.Providers.Contracts
import Fdai.RiskGate.RiskTable
import Fdai.Runbook.Models

/-!
# Action types and their feature vectors

What the risk gate reads of an ontology action type, and the feature vector that it hands
to the risk table.

The fields of an action type that no part of the gate reads enter only through its content
digest.
-/

namespace Fdai.Core

open Fdai.Providers (Digest)

/-- Trust-router tier. -/
inductive Tier where
  | t0 | t1 | t2

def Tier.value : Tier → String
  | .t0 => "t0"
  | .t1 => "t1"
  | .t2 => "t2"

/-- What an action does to its target. -/
inductive Operation where
  | create | update | delete | disable | enable | tag | drop | purge | scale | restart
  | failover | rotate | revert | attach | detach | quarantine
  deriving DecidableEq

/-- Interfaces an action type declares. -/
inductive ActionInterface where
  | controlPlane | dataPlaneMutating | idempotentByKey | rateLimited | requiresInventoryFresh
  | graphTraversalRequired | crossResource | asymmetricRollback | requiresMaintenanceWindow
  deriving DecidableEq

inductive RollbackKind where
  | prRevert | scripted | pitr | snapshotRestore | stateForwardOnly

def RollbackKind.value : RollbackKind → String
  | .prRevert => "pr_revert"
  | .scripted => "scripted"
  | .pitr => "pitr"
  | .snapshotRestore => "snapshot_restore"
  | .stateForwardOnly => "state_forward_only"

inductive BlastRadiusComputation where
  | staticEnum | graphDerived
  deriving DecidableEq

inductive BlastRadiusScope where
  | resource | resourceGroup | subscription
  deriving DecidableEq

def BlastRadiusScope.value : BlastRadiusScope → String
  | .resource => "resource"
  | .resourceGroup => "resource_group"
  | .subscription => "subscription"

/-- The declared impact of an action type. -/
structure ActionBlastRadius where
  computation : BlastRadiusComputation
  staticBucket : Option BlastRadiusScope := none
  maxAffectedResources : Option ℕ := none

/-- Highest autonomy a ceiling allows. -/
inductive Autonomy where
  | enforceAuto | enforceHil | shadowOnly

def Autonomy.value : Autonomy → String
  | .enforceAuto => "enforce_auto"
  | .enforceHil => "enforce_hil"
  | .shadowOnly => "shadow_only"

structure TierCeiling where
  maxAutonomy : Autonomy
  minRole : CeilingRole

structure CeilingByTier where
  t0 : Option TierCeiling := none
  t1 : Option TierCeiling := none
  t2 : Option TierCeiling := none

inductive EnvScope where
  | prod | nonProd | any
  deriving DecidableEq

/-- How an action type collapses in production; never to full autonomy. -/
structure ProdDowngrade where
  mode : Autonomy
  isDowngrade : mode ≠ .enforceAuto

structure OntologyActionType where
  name : String
  version : String
  operation : Operation
  interfaces : List ActionInterface := []
  rollbackContract : RollbackKind
  irreversible : Bool := false
  blastRadius : Option ActionBlastRadius := none
  executionPath : Option ExecutionPath := none
  ceilingByTier : Option CeilingByTier := none
  envScope : EnvScope := .any
  prodDowngrade : Option ProdDowngrade := none
  liveProbeRef : Option String := none
  /-- `action_type_digest`: the digest of its whole content. -/
  contentDigest : Digest

def destructiveOps : List Operation := [.delete, .drop, .purge, .detach]

/-- The signals of a dispatch that do not come from the action type. -/
structure DispatchContext where
  environment : String
  policyViolation : Bool := false
  verifierConfidence : Option PyFloat := none
  costImpactMonthly : Option PyFloat := none
  graphStale : Option Bool := none
  crossResourceImpact : Option ℤ := none
  allowlistProdAuto : Bool := false

def featureVectorFrom (at' : OntologyActionType) (context : DispatchContext) : FeatureVector where
  policyViolation := some context.policyViolation
  destructive := some (at'.operation ∈ destructiveOps)
  irreversible := some at'.irreversible
  reversible := some (!at'.irreversible)
  blastRadius := (at'.blastRadius.bind (·.staticBucket)).map (·.value)
  rollbackPath := some at'.rollbackContract.value
  environment := some context.environment
  dataPlaneTouched := some (ActionInterface.dataPlaneMutating ∈ at'.interfaces)
  graphStale := context.graphStale
  crossResourceImpact := context.crossResourceImpact
  costImpactMonthly := context.costImpactMonthly
  verifierConfidence := context.verifierConfidence
  allowlistProdAuto := some context.allowlistProdAuto

end Fdai.Core
