import Fdai.Runbook.Resume
import Fdai.Workflow.DispatchFencing
import Fdai.Workflow.RecoveryDispatchOnce
import Fdai.Workflow.CompensatedUnheld
import Fdai.Workflow.CompensationComplete
import Fdai.RiskGate.MostRestrictive
import Fdai.RiskGate.AuthorityCeiling
import Fdai.Executor.ReservationChain
import Fdai.Executor.PostReleaseTotal
import Fdai.Incident.OneActive
import Fdai.Agents.HuginnShardsKept
import Fdai.RiskGate.AutoExactly
import Fdai.Workflow.HoldKept
import Fdai.BackgroundTask.StoreKept
import Fdai.Agents.ProposalLimit
import Fdai.Agents.AuditChainKept
import Fdai.RuleActivation.TerminalTruthful
import Fdai.Agents.LokiDisjoint
import Fdai.Agents.NornsCounts
import Fdai.CodeFindings.GuardSees
import Fdai.StandingAuthority.LifecycleReplay
import Fdai.StandingAuthority.RevisionIdentity
import Fdai.Conversation.ReservationsFair
import Fdai.ReadInvestigation.RunStoreKept
import Fdai.Detection.DriftExact
import Fdai.MscpProfile.PendingEffectsKept
import Fdai.Ontology.AclNoninterference
import Fdai.OntologyPlatform.TemporalMerges
import Fdai.QualityGate.Eligibility
import Fdai.OntologyPlatform.TopologyDiffExact
import Fdai.Executor.EffectStaysClosed
import Fdai.ExecutionAuthorization.PolicyTightens
import Fdai.Conversation.ForeignUnheard
import Fdai.CodeFindings.GraphFlowComplete
import Fdai.OntologyPlatform.ObjectSetPages
import Fdai.Audit.Bitemporal
import Fdai.Resilience.CircuitBreaker
import Fdai.Agents.MemoryReservations
import Fdai.Resilience.Backpressure
import Fdai.HilResume.LoadControl
import Fdai.Executor.HoldDispatchFence
import Fdai.Providers.MemoryStateStoreKept
import Fdai.Contracts.SchemaSound
import Fdai.Agents.Arbitration
import Fdai.RiskGate.Precedence
import Fdai.RiskGate.BlastRadius
import Fdai.Executor.EffectLedgerKept
import Fdai.Incident.RowsAdmitted
import Fdai.StandingAuthority.LifecycleCommits
import Fdai.EventIngest.Dedup
