import DispatchCore.Library.Coroutine
import DispatchCore.Library.Reliance
import DispatchCore.Library.Dict
import DispatchCore.Library.Occupancy
import DispatchCore.Library.Instant
import DispatchCore.Library.Json
import DispatchCore.Library.Method
import DispatchCore.Library.Text
import DispatchCore.Domain.WorkOrder
import DispatchCore.Domain.Transitions
import DispatchCore.Domain.Lifecycle
import DispatchCore.Domain.OrderNumbers
import DispatchCore.Domain.Selection
import DispatchCore.Domain.Tracking
import DispatchCore.Domain.Fixes
import DispatchCore.Domain.Pictures
import DispatchCore.Infrastructure.AsyncMemory
import DispatchCore.Infrastructure.Memory
import DispatchCore.Infrastructure.ExecutorCapacity
import DispatchCore.Application.AsyncService
import DispatchCore.Application.Atomic
import DispatchCore.Application.Ledger
import DispatchCore.Application.Effects
import DispatchCore.Application.Growth
import DispatchCore.Application.Serialization
import DispatchCore.Application.Interleaving
import DispatchCore.Infrastructure.ReadModels
import DispatchCore.Application.Coupling
import DispatchCore.Application.Bookkeeping
import DispatchCore.Application.Submissions
import DispatchCore.Application.Telling
import DispatchCore.Application.Progress
import DispatchCore.Application.Agreement
import DispatchCore.Infrastructure.Leases
import DispatchCore.Infrastructure.Callbacks
import DispatchCore.Infrastructure.Ownership
import DispatchCore.Infrastructure.Identities
import DispatchCore.Messaging.Plans
import DispatchCore.Messaging.Projector
import DispatchCore.Messaging.Projection
import DispatchCore.Messaging.AssignmentNotices
import DispatchCore.Application.Histories
import DispatchCore.Application.Service
import DispatchCore.Application.Proposals
import DispatchCore.Application.Placing
import DispatchCore.Messaging.Processor
import DispatchCore.Messaging.Redelivery
import DispatchCore.Messaging.Pool
import DispatchCore.Messaging.Reach
import DispatchCore.Messaging.Refusals
import DispatchCore.Messaging.SuccessReplies
import DispatchCore.Library.Numeral
import DispatchCore.Infrastructure.Inbox
import DispatchCore.Transports.Polling
import DispatchCore.Packs.Catalog
import DispatchCore.Infrastructure.PackStore
import DispatchCore.Infrastructure.PackRevisions
import DispatchCore.Infrastructure.PackSessions
import DispatchCore.Infrastructure.PackPinning
import DispatchCore.Infrastructure.PackCalls
import DispatchCore.Packs.ConfigEdits
import DispatchCore.Messaging.Editors
import DispatchCore.Library.Program
import DispatchCore.Messaging.Replies
import DispatchCore.Messaging.Intake
import DispatchCore.Messaging.IntakeWorld
import DispatchCore.Messaging.AddressCapability
import DispatchCore.Messaging.AddressRedeemed
import DispatchCore.Messaging.IntakeAnswers
import DispatchCore.Messaging.CompleteOrders
import DispatchCore.Messaging.CompleteCalls
import DispatchCore.Messaging.IntakeSteps
import DispatchCore.Messaging.ConfiguredPacks
import DispatchCore.Messaging.HeardAnswers
import DispatchCore.Messaging.FaithfulDetails
import DispatchCore.Messaging.ChoiceButtons
import DispatchCore.Messaging.OfferedChoices
import DispatchCore.Messaging.HandledAlone
import DispatchCore.Messaging.OfferedButtons
import DispatchCore.Messaging.HonouredButtons
import DispatchCore.Messaging.GuidedText
import DispatchCore.Infrastructure.Staff
import DispatchCore.Infrastructure.StaffBinding
import DispatchCore.Library.Runs
import DispatchCore.Infrastructure.Workers
import DispatchCore.Messaging.Workspaces
import DispatchCore.Messaging.Staffing
import DispatchCore.Messaging.ConfigReplies
import DispatchCore.Messaging.Config
import DispatchCore.Packs.RepeatedEdits
import DispatchCore.Messaging.CallbackDesk
import DispatchCore.Messaging.ConfigRepeats
import DispatchCore.Messaging.IntakePresses
import DispatchCore.Messaging.IntakeRepeats
import DispatchCore.Messaging.RepeatedCallbacks
import DispatchCore.Infrastructure.PostgresTracking
import DispatchCore.Infrastructure.StoredOrders
import DispatchCore.Library.Separation
import DispatchCore.Library.Crew
import DispatchCore.Application.Tenants
import DispatchCore.Application.TenantRuns
import DispatchCore.Application.Tracks
import DispatchCore.Application.FixTables
import DispatchCore.Application.FixesRecorded
import DispatchCore.Application.TrackingCycles
import DispatchCore.Messaging.ReportPhotos
import DispatchCore.Messaging.BindingGuesses
import DispatchCore.Library.Fields
import DispatchCore.Transports.ExecutorTokens
import DispatchCore.Api.ExecutorAuth
import DispatchCore.Library.RowLocks
import DispatchCore.Infrastructure.BindTransactions
import DispatchCore.Infrastructure.TruthfulBinding
import DispatchCore.Infrastructure.ValidPacks
import DispatchCore.Messaging.ConfigLists
import DispatchCore.Packs.PackJson
import DispatchCore.Transports.MaxUpdates
import DispatchCore.Transports.MaxRate
import DispatchCore.Api.MintedTokens
import DispatchCore.Transports.GenuineTokens
import DispatchCore.Messaging.PhoneNumbers
import DispatchCore.Infrastructure.OrderNumbering
import DispatchCore.Api.AttemptLimits
import DispatchCore.Library.Document
import DispatchCore.Library.DocumentText
import DispatchCore.Library.FloatText
import DispatchCore.Library.JsonDocument
import DispatchCore.Infrastructure.JsonbOrders
import DispatchCore.Infrastructure.OrderTables
import DispatchCore.Application.KeptOrders
import DispatchCore.Api.OrderCreation
import DispatchCore.Library.Labels
import DispatchCore.Infrastructure.StaffRegistry
import DispatchCore.Infrastructure.StaffIdentities
import DispatchCore.Library.Transactions
import DispatchCore.Infrastructure.PostgresUnitOfWork
import DispatchCore.Application.PostgresService
import DispatchCore.Application.StoredRecords
import DispatchCore.Application.StoreContract
import DispatchCore.Application.RepositoryPromises
import DispatchCore.Application.StoreCommits
import DispatchCore.Application.OrderTransactions
import DispatchCore.Application.VisitTransactions
import DispatchCore.Application.PostgresRefinement
import DispatchCore.Library.LockOrder
import DispatchCore.Application.StoreLockOrder
import DispatchCore.Infrastructure.Migrations
import DispatchCore.Infrastructure.Retention
import DispatchCore.Messaging.Sender
import DispatchCore.Messaging.Delivery
import DispatchCore.Application.UniqueSessions
import DispatchCore.Infrastructure.PostgresReadModels
import DispatchCore.Application.PublicViews
import DispatchCore.Library.Conversations
import DispatchCore.Messaging.SharedStaff
import DispatchCore.Messaging.SharedRoles
import DispatchCore.Messaging.Inbound
import DispatchCore.Messaging.AnsweredItems
