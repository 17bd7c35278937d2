import AyushOms.Analytics.Comparison
import AyushOms.Analytics.DrillDowns
import AyushOms.Analytics.Service
import AyushOms.Analytics.SupplyIntelligence
import AyushOms.Auth.Accounts
import AyushOms.Auth.Effects
import AyushOms.Auth.Grants
import AyushOms.Auth.Model
import AyushOms.Auth.Privileges
import AyushOms.Auth.Requests
import AyushOms.Auth.Service
import AyushOms.Auth.Sessions
import AyushOms.Chat.Conversations
import AyushOms.Chat.DatetimeRanges
import AyushOms.Chat.Grounding
import AyushOms.Chat.Service
import AyushOms.Clients.Cashfree
import AyushOms.Clients.Errors
import AyushOms.Clients.Shiprocket
import AyushOms.Clients.ShopifyClient
import AyushOms.Clients.ShopifyProgress
import AyushOms.Clients.ShopifyTokens
import AyushOms.Core.Base
import AyushOms.Core.Enums
import AyushOms.Core.Fault
import AyushOms.Core.Session
import AyushOms.Core.Timezone
import AyushOms.Core.Values
import AyushOms.Inventory.Concurrency
import AyushOms.Inventory.Dispatch
import AyushOms.Inventory.Ledger
import AyushOms.Inventory.Migration
import AyushOms.Inventory.Model
import AyushOms.Inventory.Movements
import AyushOms.Inventory.Races
import AyushOms.Inventory.Restock
import AyushOms.Inventory.Service
import AyushOms.Lib.Batches
import AyushOms.Lib.Buckets
import AyushOms.Lib.Budget
import AyushOms.Lib.Bulk
import AyushOms.Lib.Calendar
import AyushOms.Lib.Corrections
import AyushOms.Lib.Counters
import AyushOms.Lib.DatedLedger
import AyushOms.Lib.Decimal
import AyushOms.Lib.Evaluation
import AyushOms.Lib.FirstMatch
import AyushOms.Lib.Interleaving
import AyushOms.Lib.Json
import AyushOms.Lib.Labels
import AyushOms.Lib.LastWriter
import AyushOms.Lib.Ledger
import AyushOms.Lib.Names
import AyushOms.Lib.OffsetPages
import AyushOms.Lib.PageCrawl
import AyushOms.Lib.Procedure
import AyushOms.Lib.Recount
import AyushOms.Lib.Representatives
import AyushOms.Lib.Responses
import AyushOms.Lib.Retry
import AyushOms.Lib.Revisions
import AyushOms.Lib.RoundRobin
import AyushOms.Lib.Run
import AyushOms.Lib.Shares
import AyushOms.Lib.SingleFlight
import AyushOms.Lib.Staged
import AyushOms.Lib.Table
import AyushOms.Lib.Transaction
import AyushOms.Lib.UnitOfWork
import AyushOms.Lib.Versions
import AyushOms.Lib.Watched
import AyushOms.Marketplace.Atomicity
import AyushOms.Marketplace.Corrections
import AyushOms.Marketplace.Dates
import AyushOms.Marketplace.DayRow
import AyushOms.Marketplace.Effects
import AyushOms.Marketplace.Grouping
import AyushOms.Marketplace.History
import AyushOms.Marketplace.Model
import AyushOms.Marketplace.Overdraft
import AyushOms.Marketplace.Overview
import AyushOms.Marketplace.Service
import AyushOms.Marketplace.SoldPackets
import AyushOms.Orders.Atomicity
import AyushOms.Orders.Attribution
import AyushOms.Orders.Corrections
import AyushOms.Orders.Items
import AyushOms.Orders.Lifecycle
import AyushOms.Orders.Model
import AyushOms.Orders.Outcomes
import AyushOms.Orders.Returns
import AyushOms.Orders.Service
import AyushOms.Orders.Staleness
import AyushOms.Orders.Sync
import AyushOms.Orders.Timeline
import AyushOms.Payments.Charges
import AyushOms.Payments.Checkout
import AyushOms.Payments.Normalizer
import AyushOms.Payments.OrderIds
import AyushOms.Payments.Progress
import AyushOms.Payments.ReconSync
import AyushOms.Payments.Restart
import AyushOms.Payments.Safety
import AyushOms.Payments.Service
import AyushOms.Products.Repeat
import AyushOms.Products.Upsert
import AyushOms.Reconciliation.Checks
import AyushOms.Reconciliation.Model
import AyushOms.Reconciliation.Redelivery
import AyushOms.Reconciliation.Runs
import AyushOms.Reconciliation.Service
import AyushOms.Repositories.Listing
import AyushOms.Repositories.Upsert
import AyushOms.Returns.Refunds
import AyushOms.Returns.Service
import AyushOms.Returns.Updates
import AyushOms.Shipments.AssignSessions
import AyushOms.Shipments.BulkActions
import AyushOms.Shipments.BulkCreate
import AyushOms.Shipments.BulkProcess
import AyushOms.Shipments.LocateOrders
import AyushOms.Shipments.ProcessExisting
import AyushOms.Shipments.StaffScope
import AyushOms.Shopify.AwbAssignment
import AyushOms.Shopify.Callers
import AyushOms.Shopify.ChannelTags
import AyushOms.Shopify.FulfillmentService
import AyushOms.Shopify.Insertable
import AyushOms.Shopify.Isolation
import AyushOms.Shopify.Model
import AyushOms.Shopify.Normalizer
import AyushOms.Shopify.Once
import AyushOms.Shopify.Outcomes
import AyushOms.Shopify.ShapesAgree
import AyushOms.Shopify.TagPushes
import AyushOms.Shopify.WebhookShapes
import AyushOms.Sync.Backlog
import AyushOms.Sync.Checkouts
import AyushOms.Sync.Crawl
import AyushOms.Sync.Exclusive
import AyushOms.Sync.JobStatus
import AyushOms.Sync.Paging
import AyushOms.Sync.Reaping
import AyushOms.Sync.Records
import AyushOms.Sync.Retry
import AyushOms.Sync.Scheduling
import AyushOms.Sync.Service
import AyushOms.Sync.ShiprocketPaging
import AyushOms.Sync.Watermark
import AyushOms.Telecalling.Assign
import AyushOms.Telecalling.Attempts
import AyushOms.Telecalling.BulkConfirm
import AyushOms.Telecalling.Concurrency
import AyushOms.Telecalling.Counts
import AyushOms.Telecalling.DailyPerformance
import AyushOms.Telecalling.Effects
import AyushOms.Telecalling.Model
import AyushOms.Telecalling.Procedures
import AyushOms.Telecalling.Reassign
import AyushOms.Telecalling.Scope
import AyushOms.Telecalling.Service
import AyushOms.Telecalling.Shown
import AyushOms.Telecalling.Undo
import AyushOms.Tracking.Confluence
import AyushOms.Tracking.Convergence
import AyushOms.Tracking.CreateShipment
import AyushOms.Tracking.CreatedOnce
import AyushOms.Tracking.Dispatch
import AyushOms.Tracking.Effects
import AyushOms.Tracking.Identity
import AyushOms.Tracking.Model
import AyushOms.Tracking.Parcel
import AyushOms.Tracking.Reconciliation
import AyushOms.Tracking.RefreshIsolation
import AyushOms.Tracking.Service
import AyushOms.Tracking.Webhook
import AyushOms.Web.ApiClient
import AyushOms.Web.IstDate
import AyushOms.Web.OrderNavigation
import AyushOms.Web.SignedIn
import AyushOms.Webhooks.Endpoints
import AyushOms.Webhooks.Processing
import AyushOms.Webhooks.Retry
import AyushOms.Webhooks.Service
