import OrderToCash.Transition.Run
import OrderToCash.Checked.Except
import OrderToCash.Text.UpperCase
import OrderToCash.Kernel.Values
import OrderToCash.Contracts.Facts
import OrderToCash.Contracts.Requests
import OrderToCash.Orders.Status
import OrderToCash.Orders.Order
import OrderToCash.Orders.LineChanges
import OrderToCash.Orders.AggregateInvariant
import OrderToCash.Orders.FailedOperations
import OrderToCash.Orders.OrderLife
import OrderToCash.Orders.FactRetries
import OrderToCash.Orders.OrderSums
import OrderToCash.Orders.StoredForm
import OrderToCash.Orders.OrderRows
import OrderToCash.Orders.SaveAndLoad
import OrderToCash.Orders.SagaSteps
import OrderToCash.Orders.SagaCommands
import OrderToCash.Orders.CommittedStatus
import OrderToCash.Fulfillment.OrderStock
import OrderToCash.Fulfillment.Store
import OrderToCash.Fulfillment.Handlers
import OrderToCash.Fulfillment.StockEffects
import OrderToCash.Fulfillment.Effects
import OrderToCash.Fulfillment.AllOrNothing
import OrderToCash.Fulfillment.StockCheck
import OrderToCash.Fulfillment.Ledger
import OrderToCash.Fulfillment.Arbitration
import OrderToCash.Fulfillment.Verdict
import OrderToCash.Billing.BuyerCredit
import OrderToCash.Billing.Handlers
import OrderToCash.Billing.Service
import OrderToCash.Billing.CreditLine
import OrderToCash.Billing.OrderView
import OrderToCash.Billing.CreditPhase
import OrderToCash.Billing.Accounts
import OrderToCash.Billing.Verdict
import OrderToCash.Fulfillment.StockBalance
import OrderToCash.Billing.LineBalance
import OrderToCash.Billing.LedgerBounds
import OrderToCash.Billing.CreditView
import OrderToCash.Billing.Bookings
import OrderToCash.Billing.Replies
import OrderToCash.Billing.Repeats
import OrderToCash.Billing.Protocol
import OrderToCash.Log.Precedence
import OrderToCash.Outbox.Relay
import OrderToCash.Outbox.Publication
import OrderToCash.Outbox.SequenceOrder
import OrderToCash.Orders.Placement
import OrderToCash.Orders.OrderReferences
import OrderToCash.Orders.RequestReplay
import OrderToCash.Orders.ReplayRuns
import OrderToCash.Orders.CommandDispatch
import OrderToCash.Orders.CommandLifecycle
import OrderToCash.Orders.DeadLetterClaims
import OrderToCash.Messaging.Consumption
import OrderToCash.Messaging.EffectivelyOnce
import OrderToCash.Gateway.ReplayBuffer
import OrderToCash.Gateway.IssuedOrderWindow
import OrderToCash.Gateway.OrderStream
import OrderToCash.Table.Paging
import OrderToCash.Billing.InvoiceList
import OrderToCash.Gateway.RegisterPayment
import OrderToCash.Notifications.Dispatch
import OrderToCash.Notifications.Accounting
import OrderToCash.Causal.Order
import OrderToCash.Causal.Acyclic
import OrderToCash.Causal.StableSort
import OrderToCash.Projector.Projection
import OrderToCash.Projector.Writer
import OrderToCash.Projector.Confluence
import OrderToCash.Projector.TimelineMigration
import OrderToCash.Projector.Determinism
import OrderToCash.Projector.FinalStatus
import OrderToCash.Projector.Signal
import OrderToCash.Projector.ReadModelHistory
import OrderToCash.Web.OrderStreamClient
import OrderToCash.Web.LiveSignal
import OrderToCash.Web.OrderDetail
import OrderToCash.Web.OrderPage
import OrderToCash.Web.PagePolling
import OrderToCash.Web.PageConvergence
import OrderToCash.Web.TimelineAgreement
import OrderToCash.Saga.Amounts
import OrderToCash.Saga.Announced
import OrderToCash.Saga.MoneyAgreement
import OrderToCash.Saga.ZeroTotal
import OrderToCash.Log.Inbox
import OrderToCash.Orders.Announcements
import OrderToCash.Orders.Reaction
import OrderToCash.Saga.OrderSaga
import OrderToCash.Saga.Orderly
import OrderToCash.Saga.Advance
import OrderToCash.Saga.ReadModel
import OrderToCash.Saga.System
import OrderToCash.Transition.Simulation
import OrderToCash.Saga.Coherence
import OrderToCash.Saga.Delivery
import OrderToCash.Saga.StockSide
import OrderToCash.Saga.CreditSide
import OrderToCash.Saga.OrdersSide
import OrderToCash.Saga.OrdersMoves
import OrderToCash.Saga.Represents
import OrderToCash.Saga.Shipment
import OrderToCash.Fulfillment.Answers
import OrderToCash.Orders.CommandRows
import OrderToCash.Orders.IgnoredFacts
import OrderToCash.Billing.Answers
import OrderToCash.Saga.Terms
import OrderToCash.Saga.Verdicts
import OrderToCash.Saga.TruthfulReason
import OrderToCash.Saga.Serial
import OrderToCash.Saga.Attendance
import OrderToCash.Saga.CreditAttendance
import OrderToCash.Saga.KeptTerms
import OrderToCash.Saga.StrandedStock
import OrderToCash.Saga.StrandedCredit
import OrderToCash.Saga.Lasting
import OrderToCash.Saga.HandledAgain
import OrderToCash.Saga.KeptCancel
import OrderToCash.Saga.Course
import OrderToCash.Saga.NeededFacts
import OrderToCash.Gateway.OrderList
import OrderToCash.Gateway.OrderPages
import OrderToCash.Text.Numerals
import OrderToCash.Text.Patterns
import OrderToCash.Kernel.CurrencyExponent
import OrderToCash.Kernel.MoneyText
import OrderToCash.Web.Money
import OrderToCash.Web.NumberInput
import OrderToCash.Fulfillment.ReservedUnits
import OrderToCash.Saga.Backing
import OrderToCash.Saga.Books
import OrderToCash.Log.Journal
import OrderToCash.Billing.Announced
import OrderToCash.Fulfillment.Announced
import OrderToCash.Projector.FinalDocument
import OrderToCash.Saga.Mirror
import OrderToCash.Saga.Milestones
import OrderToCash.Locking.Program
import OrderToCash.Locking.Threads
import OrderToCash.Locking.Service
import OrderToCash.Fulfillment.RowLocks
import OrderToCash.Fulfillment.LockedService
import OrderToCash.Billing.LineLocks
import OrderToCash.Billing.LockedService
import OrderToCash.Fulfillment.StockList
import OrderToCash.Saga.Warehouse
