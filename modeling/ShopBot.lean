import ShopBot.System.Command
import ShopBot.UseCases.ReconcileSubscriptions
import ShopBot.UseCases.IngestWebhook
import ShopBot.UseCases.CreatePayment
import ShopBot.UseCases.AdminOperations
import ShopBot.UseCases.ProcessPayment
import ShopBot.UseCases.ActivateSubscription
import ShopBot.UseCases.DispatchPanelProvisionTask
import ShopBot.UseCases.DispatchNodeTask
import ShopBot.UseCases.DispatchPanelRevokeTask
import ShopBot.UseCases.RevokeVpn
import ShopBot.UseCases.ProvisionVpn
import ShopBot.Persistence.Database
import ShopBot.Persistence.VpnRepository
import ShopBot.Domain.NodeSelection
import ShopBot.Domain.Payment
import ShopBot.Domain.Subscription
import ShopBot.Domain.PanelTask
import ShopBot.Domain.Node
import ShopBot.Domain.Task
import ShopBot.Domain.Vpn
import ShopBot.Library.Table
import ShopBot.Library.Transition
import ShopBot.Lifecycle.Protocol
import ShopBot.Lifecycle.Invariant
import ShopBot.Lifecycle.Fleet
import ShopBot.Refinement.Abstraction
import ShopBot.Refinement.Writes
import ShopBot.Refinement.Inserts
import ShopBot.Refinement.NodeDispatch
import ShopBot.Refinement.PanelDispatch
import ShopBot.Refinement.Planning
import ShopBot.Refinement.Billing
import ShopBot.Refinement.System
import ShopBot.Guarantees.Fencing
import ShopBot.Guarantees.Repair
import ShopBot.Guarantees.PayingCustomers
import ShopBot.System.NodeNetwork
import ShopBot.Refinement.Workers
import ShopBot.Guarantees.NodeRevocation
import ShopBot.Library.ExpiringMemory
import ShopBot.NodeAgent.Auth
import ShopBot.Guarantees.RequestReplay
import ShopBot.NodeAgent.Journal
import ShopBot.Guarantees.JournalProtocol
import ShopBot.Refinement.Inserted
import ShopBot.Lifecycle.NodeLedger
import ShopBot.Refinement.NodeAttempts
import ShopBot.Refinement.NodeFrame
import ShopBot.Guarantees.NodeTaskLedger
import ShopBot.System.NodeReservations
import ShopBot.Guarantees.NodeCapacity
import ShopBot.Lifecycle.Billing
import ShopBot.Refinement.Settlement
import ShopBot.Lifecycle.BillingHistory
import ShopBot.Guarantees.LiveSubscription
import ShopBot.Guarantees.PaymentSettlement
import ShopBot.Guarantees.Entitlement
import ShopBot.Library.ReadCommitted
import ShopBot.System.InvoiceTransactions
import ShopBot.Lifecycle.InvoiceClaims
import ShopBot.Guarantees.OneInvoice
import ShopBot.Library.LockOrder
import ShopBot.System.RowLocks
import ShopBot.Guarantees.Deadlocks
import ShopBot.Library.Leases
import ShopBot.Refinement.PanelRows
import ShopBot.Refinement.PanelWorkers
import ShopBot.Refinement.PanelBoards
import ShopBot.System.PanelNetwork
import ShopBot.Lifecycle.Revocation
import ShopBot.Refinement.Transaction
import ShopBot.UseCases.Settings
import ShopBot.Domain.Common
import ShopBot.Persistence.PaymentRepository
import ShopBot.Persistence.Reconciliation
import ShopBot.Guarantees.PanelCalls
import ShopBot.Library.Tickets
import ShopBot.Guarantees.WeightedSelection
import ShopBot.System.SubscriptionHistory
import ShopBot.Guarantees.SubscriptionTimeline
import ShopBot.Guarantees.RevokeEpochs
import ShopBot.Guarantees.PanelRevokeAttempts
import ShopBot.Guarantees.PanelAttempts
import ShopBot.Refinement.RevokePlans
import ShopBot.Guarantees.Expiration
import ShopBot.System.ProbeHistory
import ShopBot.Persistence.NodeProbes
import ShopBot.Guarantees.ProbeCoverage
import ShopBot.Guarantees.TaskRoundTrips
import ShopBot.Persistence.TaskRows
import ShopBot.UseCases.PaymentGateway
import ShopBot.Lifecycle.Invoices
import ShopBot.Refinement.Invoices
import ShopBot.Guarantees.CreationClaims
import ShopBot.Lifecycle.Refunds
import ShopBot.Guarantees.RefundAgreement
import ShopBot.Guarantees.CreationRace
import ShopBot.Guarantees.PanelClients
import ShopBot.Domain.NodeHealth
import ShopBot.UseCases.SyncNodeStatus
import ShopBot.Guarantees.NodeReports
import ShopBot.Api.Webhooks
import ShopBot.Library.IpAddress
import ShopBot.Guarantees.ForwardedFor
import ShopBot.Library.Separated
import ShopBot.Guarantees.SignedRequests
import ShopBot.Library.PercentEncoding
import ShopBot.Domain.VlessUri
import ShopBot.Guarantees.VlessRoundTrip
import ShopBot.UseCases.RetireNodeJournalRecords
import ShopBot.Library.Backlog
import ShopBot.Guarantees.JournalRetirement
import ShopBot.Library.Keyset
import ShopBot.Persistence.Maintenance
import ShopBot.Guarantees.ReconciliationPaging
import ShopBot.Guarantees.MaintenanceLeases
import ShopBot.Library.UniqueKeys
import ShopBot.System.TelegramRegistration
import ShopBot.Lifecycle.TelegramOwners
import ShopBot.Guarantees.TelegramUsers
import ShopBot.Library.Decimal
import ShopBot.Library.DecimalRounding
import ShopBot.Library.DecimalText
import ShopBot.Domain.Amounts
import ShopBot.Guarantees.Amounts
import ShopBot.Bot.Keyboards
import ShopBot.Guarantees.Dashboard
import ShopBot.Bot.Queries
import ShopBot.Bot.Handlers
import ShopBot.System.BotSystem
import ShopBot.Guarantees.BotButtons
import ShopBot.Refinement.BotSteps
import ShopBot.Refinement.Sales
import ShopBot.Guarantees.BotOrders
import ShopBot.Guarantees.BotUpdates
import ShopBot.Persistence.Scheduling
import ShopBot.Refinement.Scheduled
import ShopBot.System.Recovery
import ShopBot.Guarantees.Recovery
import ShopBot.Api.PaymentWebhooks
import ShopBot.UseCases.WebhookGateway
import ShopBot.Refinement.Payments
import ShopBot.System.PaymentNetwork
import ShopBot.Guarantees.AuthenticPayments
import ShopBot.Refinement.Refunds
import ShopBot.Lifecycle.RefundLedger
import ShopBot.Library.Linearization
import ShopBot.NodeAgent.Handlers
import ShopBot.NodeAgent.Operations
import ShopBot.NodeAgent.Attempts
import ShopBot.Guarantees.NodeOperations
