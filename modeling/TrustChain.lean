import TrustChain.Bilateral.Consent
import TrustChain.Gateway.Settlements
import TrustChain.Gateway.Attestations
import TrustChain.Registry.Solvency
import TrustChain.Freeze.Breaker
import TrustChain.Service.Obligations
import TrustChain.Service.Confirmation
import TrustChain.Service.DisputeSplits
import TrustChain.Service.Store
import TrustChain.Service.Cycles
import TrustChain.Service.ProfileReturns
import TrustChain.Runtime.Limits
import TrustChain.Verifier.Robustness
import TrustChain.Verifier.Plan
import TrustChain.Verifier.Mirror
import TrustChain.Commerce.Terms
import TrustChain.Commerce.Lifecycle
import TrustChain.Commerce.Disputes
import TrustChain.Delivery.Rejections
import TrustChain.Delivery.Chain
import TrustChain.OwnerConfirmation.OneYes
import TrustChain.Identity.Tampering
import TrustChain.AuthTokens.SingleUse
import TrustChain.ScanQueue.Execution
import TrustChain.SubAgents.Lists
import TrustChain.OnchainLock.Once
import TrustChain.OnchainStatus.Mirror
import TrustChain.PaymentIntents.Lifecycle
import TrustChain.Service.PanelDecisions
import TrustChain.Receipts.Digests
import TrustChain.Service.ConfirmWindows
import TrustChain.ImportantFields.TripleMatch
import TrustChain.SecurityPolicy.Runs
import TrustChain.X402.Audited
import TrustChain.X402.Budget
import TrustChain.Reputation.Gains
import TrustChain.Bilateral.Authorizations
import TrustChain.Billing.Scenarios
import TrustChain.Registry.ActiveCount
import TrustChain.Billing.Leaves
import TrustChain.Service.AutoSplit
import TrustChain.Service.Curves
import TrustChain.SettlementStore.RoundTrip
import TrustChain.Billing.Forcing
import TrustChain.Service.StepByStep
import TrustChain.Identity.Lifecycle
import TrustChain.Kya.Permissions
import TrustChain.ReputationAnchor.Weights
import TrustChain.Scoring.Runs
import TrustChain.Responsibility.Survey
import TrustChain.AcceptFulfillment.NoShows
import TrustChain.Runtime.Replay
import TrustChain.Delivery.Sweeps
import TrustChain.AgentBoundary.Coverage
import TrustChain.TradeLaunch.Audits
import TrustChain.Discovery.Priority
import TrustChain.Discovery.Stability
