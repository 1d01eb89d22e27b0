import HelpdeskApi.Application.Announcements
import HelpdeskApi.Application.Claims
import HelpdeskApi.Application.Completion
import HelpdeskApi.Application.Jobs
import HelpdeskApi.Application.Listing
import HelpdeskApi.Application.NumberTraces
import HelpdeskApi.Application.PolicyChanges
import HelpdeskApi.Application.Ports
import HelpdeskApi.Application.ReadModel
import HelpdeskApi.Application.References
import HelpdeskApi.Application.Serial
import HelpdeskApi.Application.SerialRuns
import HelpdeskApi.Application.Slas
import HelpdeskApi.Application.TicketCommands
import HelpdeskApi.Application.TicketPairs
import HelpdeskApi.Application.TicketTraces
import HelpdeskApi.Application.Tickets
import HelpdeskApi.Application.Transactional
import HelpdeskApi.Domain.AuditLog
import HelpdeskApi.Domain.Commands
import HelpdeskApi.Domain.Methods
import HelpdeskApi.Domain.Sla
import HelpdeskApi.Domain.Ticket
import HelpdeskApi.Domain.TicketStatus
import HelpdeskApi.Domain.Values
import HelpdeskApi.Http.Access
import HelpdeskApi.Http.Answers
import HelpdeskApi.Http.Api
import HelpdeskApi.Http.Dtos
import HelpdeskApi.Http.Requests
import HelpdeskApi.Http.Sharing
import HelpdeskApi.Http.Traffic
import HelpdeskApi.Http.World
import HelpdeskApi.Iam.Accounts
import HelpdeskApi.Iam.Coherence
import HelpdeskApi.Iam.Directory
import HelpdeskApi.Iam.JwtTokenService
import HelpdeskApi.Iam.Login
import HelpdeskApi.Iam.Lookups
import HelpdeskApi.Iam.Members
import HelpdeskApi.Iam.NameRace
import HelpdeskApi.Iam.Promises
import HelpdeskApi.Iam.RefreshCalls
import HelpdeskApi.Iam.RefreshToken
import HelpdeskApi.Iam.RegistrationRuns
import HelpdeskApi.Iam.Registrations
import HelpdeskApi.Iam.Repositories
import HelpdeskApi.Iam.SerialSessions
import HelpdeskApi.Iam.Sessions
import HelpdeskApi.Iam.Slug
import HelpdeskApi.Iam.TokenRows
import HelpdeskApi.Iam.TokenRuns
import HelpdeskApi.Iam.TokenTraces
import HelpdeskApi.Library.Alone
import HelpdeskApi.Library.Batches
import HelpdeskApi.Library.Calendar
import HelpdeskApi.Library.CommitLog
import HelpdeskApi.Library.Faults
import HelpdeskApi.Library.Handler
import HelpdeskApi.Library.JobQueue
import HelpdeskApi.Library.LockedRely
import HelpdeskApi.Library.OnceOnly
import HelpdeskApi.Library.Paging
import HelpdeskApi.Library.Persistence
import HelpdeskApi.Library.Presence
import HelpdeskApi.Library.Proc
import HelpdeskApi.Library.Quiescence
import HelpdeskApi.Library.RelyGuarantee
import HelpdeskApi.Library.Reservation
import HelpdeskApi.Library.RoundRobin
import HelpdeskApi.Library.Runs
import HelpdeskApi.Library.Scripts
import HelpdeskApi.Library.Serializability
import HelpdeskApi.Library.Table
import HelpdeskApi.Library.Traces
import HelpdeskApi.Library.Transactions
import HelpdeskApi.Library.TwoCommits
import HelpdeskApi.Library.TwoRuns
import HelpdeskApi.Library.UnitOfWork
import HelpdeskApi.Library.Words
import HelpdeskApi.Observability.RequestContext
import HelpdeskApi.Outbox.Custody
import HelpdeskApi.Outbox.Execution
import HelpdeskApi.Outbox.Messages
import HelpdeskApi.Outbox.Publisher
import HelpdeskApi.Outbox.Scripts
import HelpdeskApi.Outbox.Sessions
import HelpdeskApi.Proofs.AccountAccess
import HelpdeskApi.Proofs.AllOrNothing
import HelpdeskApi.Proofs.Authorization
import HelpdeskApi.Proofs.BacklogVerdict
import HelpdeskApi.Proofs.BroadcastPrivacy
import HelpdeskApi.Proofs.CanonicalSlugs
import HelpdeskApi.Proofs.ClosedInTime
import HelpdeskApi.Proofs.ConcurrentSweeps
import HelpdeskApi.Proofs.EarliestAnswer
import HelpdeskApi.Proofs.ExactlyOnce
import HelpdeskApi.Proofs.FailedRefresh
import HelpdeskApi.Proofs.FairShares
import HelpdeskApi.Proofs.ForgottenSockets
import HelpdeskApi.Proofs.IndependentFields
import HelpdeskApi.Proofs.JobCustody
import HelpdeskApi.Proofs.JobProgress
import HelpdeskApi.Proofs.LetterCauses
import HelpdeskApi.Proofs.LosslessSaves
import HelpdeskApi.Proofs.ManualAssignment
import HelpdeskApi.Proofs.MarginSign
import HelpdeskApi.Proofs.MemberDirectory
import HelpdeskApi.Proofs.MetInTime
import HelpdeskApi.Proofs.NestedCalls
import HelpdeskApi.Proofs.NoDuplicates
import HelpdeskApi.Proofs.NothingLost
import HelpdeskApi.Proofs.Notifications
import HelpdeskApi.Proofs.OwnAnswers
import HelpdeskApi.Proofs.OwnMessages
import HelpdeskApi.Proofs.Pagination
import HelpdeskApi.Proofs.PoisonedMessages
import HelpdeskApi.Proofs.PolicyAgreement
import HelpdeskApi.Proofs.PolicyTrail
import HelpdeskApi.Proofs.RequestTrail
import HelpdeskApi.Proofs.Revocation
import HelpdeskApi.Proofs.RivalNames
import HelpdeskApi.Proofs.RoomIsolation
import HelpdeskApi.Proofs.SerialOrder
import HelpdeskApi.Proofs.SingleUse
import HelpdeskApi.Proofs.StartingLate
import HelpdeskApi.Proofs.StatusMoves
import HelpdeskApi.Proofs.StopAndBreach
import HelpdeskApi.Proofs.StopOrder
import HelpdeskApi.Proofs.SweepProgress
import HelpdeskApi.Proofs.TenantIsolation
import HelpdeskApi.Proofs.TheftContainment
import HelpdeskApi.Proofs.TicketLifecycle
import HelpdeskApi.Proofs.TicketNumbering
import HelpdeskApi.Proofs.TicketStory
import HelpdeskApi.Proofs.TimerLedger
import HelpdeskApi.Proofs.WireFormat
import HelpdeskApi.Queue.Backend
import HelpdeskApi.Queue.DeadLetters
import HelpdeskApi.Queue.Deliveries
import HelpdeskApi.Queue.JobLives
import HelpdeskApi.Queue.Processors
import HelpdeskApi.Queue.RequestFacts
import HelpdeskApi.Queue.SlaFacts
import HelpdeskApi.Queue.SlaSystem
import HelpdeskApi.Queue.Sweeper
import HelpdeskApi.Queue.Sweeps
import HelpdeskApi.Queue.TakenUp
import HelpdeskApi.Queue.TicketEffects
import HelpdeskApi.Queue.TicketEvents
import HelpdeskApi.Queue.TimerChanges
import HelpdeskApi.Queue.TimerRuns
import HelpdeskApi.Queue.TimerTraces
import HelpdeskApi.Queue.Wire
import HelpdeskApi.Realtime.Broadcast
import HelpdeskApi.Realtime.Gateway
import HelpdeskApi.Realtime.SocketLives
import HelpdeskApi.Store.Integrity
import HelpdeskApi.Store.Lemmas
import HelpdeskApi.Store.Marks
import HelpdeskApi.Store.ReadSets
import HelpdeskApi.Store.Repositories
import HelpdeskApi.Store.Schema
import HelpdeskApi.Store.Tenants
