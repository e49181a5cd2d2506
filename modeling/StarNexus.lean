import StarNexus.Ledger.Runs
import StarNexus.Ledger.AtMostOnce
import StarNexus.Ledger.SettleOrRefund
import StarNexus.Polling.RefundOnce
import StarNexus.Account.OrderOnce
import StarNexus.Account.OrderQuota
import StarNexus.Account.QuotaRace
import StarNexus.Account.AffiliateLedger
import StarNexus.Subscription.Usage
import StarNexus.Subscription.GroupRestored
import StarNexus.Refund.Coordinator
import StarNexus.RateLimit.InMemory
import StarNexus.RateLimit.Redis
import StarNexus.Convert.ClaudeConversation
import StarNexus.Convert.ResponsesRequest
import StarNexus.Convert.UsageTransport
import StarNexus.Pricing.WebSearch
import StarNexus.Relay.Scanners
import StarNexus.Channels.Keys
import StarNexus.Channels.Weights
import StarNexus.Relay.Streams
import StarNexus.Convert.NoPanic
import StarNexus.Continuation.Circuit
import StarNexus.Continuation.Replay
import StarNexus.Fetch.Spelling
import StarNexus.Account.Redeem
import StarNexus.Session.Realtime
import StarNexus.Service.TaskQuota
import StarNexus.Pricing.TieredQuota
import StarNexus.Model.BatchUpdate
import StarNexus.Subscription.ResetLoop
import StarNexus.RateLimit.Bucket
import StarNexus.Override.Legacy
import StarNexus.Relay.StatusCodes
import StarNexus.Router.Accounts
import StarNexus.Router.Order
import StarNexus.Upstream.Cooldown
