import FaceVec.Ai.Enrolments
import FaceVec.Ai.Inference
import FaceVec.Api.Alike
import FaceVec.Api.Attendance
import FaceVec.Api.Courses
import FaceVec.Api.Noninterference
import FaceVec.Api.Ownership
import FaceVec.Api.Paging
import FaceVec.Api.Platform
import FaceVec.Api.Server
import FaceVec.Api.Students
import FaceVec.Api.View
import FaceVec.Attendance.Recording
import FaceVec.Auth.AccessTokens
import FaceVec.Auth.Bearer
import FaceVec.Auth.Dashboard
import FaceVec.Auth.Logout
import FaceVec.Auth.Refresh
import FaceVec.Auth.Revocation
import FaceVec.Auth.Rotation
import FaceVec.Auth.Service
import FaceVec.Auth.Tokens
import FaceVec.Broker
import FaceVec.Broker.Connection
import FaceVec.Cascades
import FaceVec.Composed
import FaceVec.Config
import FaceVec.Consumers
import FaceVec.Consumers.Acknowledgement
import FaceVec.Coupling
import FaceVec.Courses.Concurrency
import FaceVec.Courses.Convergence
import FaceVec.Courses.Enrollment
import FaceVec.Courses.Idempotence
import FaceVec.Courses.Moves
import FaceVec.Database
import FaceVec.Errors
import FaceVec.Faces.Deferred
import FaceVec.Faces.Enrollment
import FaceVec.Faces.Normalised
import FaceVec.Faces.Outcomes
import FaceVec.Faces.Retries
import FaceVec.Faces.Safety
import FaceVec.Faces.Similarity
import FaceVec.Faces.Tasks
import FaceVec.Faces.Uniqueness
import FaceVec.Faults
import FaceVec.ForeignKeys
import FaceVec.Gateway
import FaceVec.Gateway.Atomicity
import FaceVec.Gateway.ClosedOnce
import FaceVec.Gateway.Closing
import FaceVec.Gateway.Identification
import FaceVec.Gateway.Recordings
import FaceVec.Gateway.Roster
import FaceVec.Gateway.Similarities
import FaceVec.Http.App
import FaceVec.Http.Bodies
import FaceVec.Http.Dispatch
import FaceVec.Http.Expiry
import FaceVec.Http.Idempotency
import FaceVec.Http.Refusals
import FaceVec.Http.Requests
import FaceVec.Http.Routes
import FaceVec.Http.Schemas
import FaceVec.Http.Validate
import FaceVec.Import.Accounting
import FaceVec.Import.Blame
import FaceVec.Import.Broadcasting
import FaceVec.Import.Consumer
import FaceVec.Import.Finality
import FaceVec.Import.Panel
import FaceVec.Import.Redelivery
import FaceVec.Import.Rows
import FaceVec.Import.Stranding
import FaceVec.Import.Workbook
import FaceVec.Interleaving
import FaceVec.Json
import FaceVec.JsonText
import FaceVec.Messaging
import FaceVec.Numerals
import FaceVec.Outbox.Budget
import FaceVec.Outbox.Draining
import FaceVec.Outbox.Outage
import FaceVec.Outbox.Publishing
import FaceVec.Outbox.Relay
import FaceVec.Outbox.Safety
import FaceVec.Outbox.Ticking
import FaceVec.Paging
import FaceVec.Progress
import FaceVec.Ranking
import FaceVec.Schema
import FaceVec.Settings
import FaceVec.Settings.Startup
import FaceVec.Site.Accounts
import FaceVec.Site.Forms
import FaceVec.Site.References
import FaceVec.Site.Run
import FaceVec.Site.Statements
import FaceVec.Table
import FaceVec.Text
import FaceVec.Traces
import FaceVec.Transaction
import FaceVec.Users.Accounts
import FaceVec.Users.Authority
import FaceVec.Users.Lapses
import FaceVec.Users.Service
import FaceVec.Users.Sessions
import FaceVec.Users.Steps
import FaceVec.Validation
import FaceVec.Web.Alone
import FaceVec.Web.Feeds
import FaceVec.Web.Principal
import FaceVec.Web.Session
import FaceVec.Web.Shown
import FaceVec.Ws.Access
import FaceVec.Ws.Authority
import FaceVec.Ws.Disconnection
import FaceVec.Ws.Feed
import FaceVec.Ws.Forwarding
import FaceVec.Ws.Grants
import FaceVec.Ws.Heartbeats
import FaceVec.Ws.Indexes
import FaceVec.Ws.LastWord
import FaceVec.Ws.Liveness
import FaceVec.Ws.Logout
import FaceVec.Ws.Membership
import FaceVec.Ws.Notifications
import FaceVec.Ws.Registry
import FaceVec.Ws.Server
import FaceVec.Ws.Upgrades
