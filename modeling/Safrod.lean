import Safrod.Api.Access
import Safrod.Api.Account
import Safrod.Api.Amounts
import Safrod.Api.BitcoinLeg
import Safrod.Api.Feed
import Safrod.Api.InvoiceKeys
import Safrod.Api.Pagination
import Safrod.Api.PayoutPaid
import Safrod.Api.PayoutReplay
import Safrod.Api.PayoutResolution
import Safrod.Api.Secrecy
import Safrod.Api.Solvency
import Safrod.Api.Tenancy
import Safrod.Bitcoin.Amount
import Safrod.Bitcoin.Catchup
import Safrod.Bitcoin.Confirmations
import Safrod.Core.QuoteValue
import Safrod.Core.Webhook
import Safrod.Engine.Attribution
import Safrod.Engine.Fingerprint
import Safrod.Engine.Idempotency
import Safrod.Engine.Incoming
import Safrod.Engine.ReconcileAll
import Safrod.Engine.Reconciliation
import Safrod.Engine.Redelivery
import Safrod.Engine.Settlement
import Safrod.Legacy.Accounting
import Safrod.Legacy.Disputes
import Safrod.Legacy.Evidence
import Safrod.Legacy.FileStore
import Safrod.Legacy.Interleaving
import Safrod.Legacy.Quotes
import Safrod.Legacy.Recovery
import Safrod.Legacy.Restart
import Safrod.Legacy.Signatures
import Safrod.Storage.Deposits
import Safrod.Storage.Outbox
import Safrod.Storage.Reservations
import Safrod.Storage.Sightings
import Safrod.Webhooks.Leases
import Safrod.Webhooks.Pacing
import Safrod.Webhooks.UrlGuard
import Safrod.Webhooks.Wire
