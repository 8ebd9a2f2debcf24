import Till.Action
import Till.Actor
import Till.Advisor
import Till.Cache
import Till.Cart
import Till.Catalog
import Till.Cents
import Till.Demo
import Till.Engine.Basic
import Till.Engine.Checkout
import Till.Engine.Inventory
import Till.Engine.Once
import Till.Engine.Reader
import Till.Engine.Request
import Till.Engine.Sales
import Till.Engine.Shifts
import Till.Fault
import Till.Field
import Till.Files
import Till.Idempotency
import Till.Instant.Basic
import Till.Instant.Calendar
import Till.Instant.Json
import Till.Instant.Text
import Till.Invalid
import Till.Json.Basic
import Till.Json.Binary
import Till.Json.Kept
import Till.Json.Number
import Till.Json.Parser
import Till.Json.Printer
import Till.Json.Real
import Till.Json.Sorted
import Till.Location
import Till.Main
import Till.Payment
import Till.Pricing
import Till.Proofs.Acceptance
import Till.Proofs.Advice
import Till.Proofs.Amounts
import Till.Proofs.Answered
import Till.Proofs.AtMostOnce
import Till.Proofs.Attempts
import Till.Proofs.Authority
import Till.Proofs.Booking
import Till.Proofs.BoundedCache
import Till.Proofs.ByHand
import Till.Proofs.CacheAside
import Till.Proofs.CacheKeys
import Till.Proofs.Calendar
import Till.Proofs.Calls
import Till.Proofs.Catalog
import Till.Proofs.Change
import Till.Proofs.Companions
import Till.Proofs.Confined
import Till.Proofs.Coverage
import Till.Proofs.Deeds
import Till.Proofs.Drawer
import Till.Proofs.Expiry
import Till.Proofs.Extends
import Till.Proofs.Failures
import Till.Proofs.Gate
import Till.Proofs.History
import Till.Proofs.InstantText
import Till.Proofs.Isolation
import Till.Proofs.Journal
import Till.Proofs.JsonText
import Till.Proofs.KeptOrder
import Till.Proofs.Keys
import Till.Proofs.Ledger
import Till.Proofs.Lifecycle
import Till.Proofs.Lifespans
import Till.Proofs.Listing
import Till.Proofs.Logs
import Till.Proofs.LostRaces
import Till.Proofs.Mirrors
import Till.Proofs.Money
import Till.Proofs.Once
import Till.Proofs.Orders
import Till.Proofs.Origins
import Till.Proofs.Outcome
import Till.Proofs.OverReceipt
import Till.Proofs.Part
import Till.Proofs.Payloads
import Till.Proofs.Places
import Till.Proofs.Plans
import Till.Proofs.Portions
import Till.Proofs.Prices
import Till.Proofs.Purging
import Till.Proofs.Race
import Till.Proofs.Receipts
import Till.Proofs.ReceiptsAgree
import Till.Proofs.Reconciliation
import Till.Proofs.RefundSeries
import Till.Proofs.Replays
import Till.Proofs.Reports
import Till.Proofs.Retries
import Till.Proofs.Reversals
import Till.Proofs.Rounding
import Till.Proofs.Rows
import Till.Proofs.Run
import Till.Proofs.Rush
import Till.Proofs.SharedCache
import Till.Proofs.Stock
import Till.Proofs.Tables
import Till.Proofs.TextOrder
import Till.Proofs.Threshold
import Till.Proofs.Totals
import Till.Proofs.Unadvised
import Till.Proofs.Units
import Till.Proofs.Unread
import Till.Proofs.Writes
import Till.PurchaseOrder
import Till.Rejection
import Till.Rejection.Json
import Till.Retry
import Till.Settings.Basic
import Till.Settings.Json
import Till.Settings.Load
import Till.Shift.Basic
import Till.Shift.Drawer
import Till.Startup
import Till.Stock
import Till.Store.Basic
import Till.Store.Catalog
import Till.Store.CoPurchases
import Till.Store.Failure
import Till.Store.Json
import Till.Store.Ledger
import Till.Store.Orders
import Till.Store.Outcomes
import Till.Store.Shifts
import Till.Store.Stock
import Till.Store.Tables
import Till.Store.Units
import Till.Suggestion
import Till.Text.Alphanumeric
import Till.Text.Blank
import Till.Text.LowerCase
import Till.Text.Percent
import Till.Text.Range
import Till.Toml
import Till.Transaction.Basic
import Till.Transaction.Refund
import Till.Transaction.Status
