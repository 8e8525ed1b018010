import MoodleTenancy.Declaration.Writing
import MoodleTenancy.Operator.Registry
import MoodleTenancy.Operator.Startup
import MoodleTenancy.Scenario
import MoodleTenancy.Proofs.Acceptance
import MoodleTenancy.Proofs.TenantBody
import MoodleTenancy.Proofs.MemoryCalls
import MoodleTenancy.Proofs.PassInMemory
import MoodleTenancy.Proofs.CallOrder
import MoodleTenancy.Proofs.Additions
import MoodleTenancy.Proofs.Convergence
import MoodleTenancy.Proofs.Housing
import MoodleTenancy.Proofs.Sessions
import MoodleTenancy.Proofs.Alike
import MoodleTenancy.Proofs.Ownership
import MoodleTenancy.Proofs.Agreement
import MoodleTenancy.Proofs.Isolation
import MoodleTenancy.Proofs.Accounts
import MoodleTenancy.Proofs.Recovery
import MoodleTenancy.Proofs.Departure
import MoodleTenancy.Proofs.Reports
import MoodleTenancy.Proofs.Quiescence
import MoodleTenancy.Proofs.Completion
import MoodleTenancy.Proofs.Readers
import MoodleTenancy.Proofs.FailureCount
import MoodleTenancy.Proofs.Coherence
import MoodleTenancy.Proofs.References
import MoodleTenancy.Proofs.Upkeep
import MoodleTenancy.Proofs.Secrecy
import MoodleTenancy.Proofs.LostObjects
import MoodleTenancy.Proofs.Backoff
import MoodleTenancy.Proofs.Creations
import MoodleTenancy.Proofs.Entries
import MoodleTenancy.Proofs.NamespaceReady
import MoodleTenancy.Proofs.Transitions
import MoodleTenancy.Proofs.Undeclared
import MoodleTenancy.Proofs.WrittenBack
import MoodleTenancy.Proofs.Scaling
import MoodleTenancy.Proofs.Startups
import MoodleTenancy.Proofs.Paths
import MoodleTenancy.Proofs.Requests
import MoodleTenancy.Proofs.Credentials
import MoodleTenancy.Proofs.Quantities
import MoodleTenancy.Proofs.ConditionRuns
import MoodleTenancy.Proofs.LatestEntries
import MoodleTenancy.Proofs.CommaLists
