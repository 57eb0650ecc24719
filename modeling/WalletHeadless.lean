import WalletHeadless.Fireblocks.Signature
import WalletHeadless.Fireblocks.Caller
import WalletHeadless.Exclusion.Restarts
import WalletHeadless.Exclusion.Unlocks
import WalletHeadless.Fireblocks.Messages
import WalletHeadless.Locks.Expiry
import WalletHeadless.Sends.Timer
import WalletHeadless.Sends.Stranded
import WalletHeadless.Proposals.Disjoint
import WalletHeadless.Hsm.Exclusive
import WalletHeadless.Hsm.MainKeys
import WalletHeadless.Hsm.Signatures
import WalletHeadless.Starts.Running
import WalletHeadless.Registry.HsmIds
import WalletHeadless.Registry.StopAll
import WalletHeadless.Registry.Reloads
import WalletHeadless.Listened.Confirmed
import WalletHeadless.Settings.InForce
import WalletHeadless.Settings.Library
import WalletHeadless.Settings.Analysis
import WalletHeadless.Funds.Filters
import WalletHeadless.Funds.Candidates
import WalletHeadless.Schemas.Amounts
import WalletHeadless.Decode.Tokens
import WalletHeadless.Marks.Proposals
import WalletHeadless.Marks.Swaps
import WalletHeadless.Notifications.Delivery
import WalletHeadless.Middleware.Gate
import WalletHeadless.TxProposal.InputData
import WalletHeadless.TxProposal.Signatures
import WalletHeadless.Loggers.Shared
import WalletHeadless.Funds.History
import WalletHeadless.Swaps.Signed
import WalletHeadless.Coop.Conclusion
import WalletHeadless.Coop.Causes
import WalletHeadless.Coop.Traces
import WalletHeadless.Server.Footprint
import WalletHeadless.Api.Calls
import WalletHeadless.Api.Reads
import WalletHeadless.Api.App
import WalletHeadless.Api.Answers
import WalletHeadless.Api.OneAnswer
import WalletHeadless.Api.Scope
import WalletHeadless.Api.Isolation
import WalletHeadless.Api.Key
import WalletHeadless.Sends.Honest
import WalletHeadless.Locks.Leases
import WalletHeadless.Plugins.Child
import WalletHeadless.Plugins.Streams
import WalletHeadless.Coop.Progress
import WalletHeadless.Api.Progress
import WalletHeadless.Api.Decoded
import WalletHeadless.Api.Configured
