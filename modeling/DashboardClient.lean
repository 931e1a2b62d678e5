import DashboardClient.Auth.Script
import DashboardClient.Main
import DashboardClient.Pages
import DashboardClient.Polling.World
import DashboardClient.Session.Hub
import DashboardClient.Proofs.Polling.Moves
import DashboardClient.Proofs.Polling.Life
import DashboardClient.Proofs.Polling.SingleFlight
import DashboardClient.Proofs.Auth.Calls
import DashboardClient.Proofs.Auth.Discipline
import DashboardClient.Proofs.Auth.TokenRefresh
import DashboardClient.Proofs.Auth.Replay
import DashboardClient.Proofs.Auth.StartupProbe
import DashboardClient.Proofs.Auth.Logout
import DashboardClient.Proofs.Polling.Revocation
import DashboardClient.Proofs.Polling.Timers
import DashboardClient.Proofs.Polling.SnapshotMeaning
import DashboardClient.Proofs.Polling.Live
import DashboardClient.Proofs.Polling.Independence
import DashboardClient.Proofs.Session.Shape
import DashboardClient.Proofs.Polling.Bookkeeping
import DashboardClient.Proofs.Auth.Redaction
import DashboardClient.Proofs.Auth.Secrecy
import DashboardClient.Proofs.Polling.TickGrid
import DashboardClient.Proofs.Polling.Punctuality
import DashboardClient.Proofs.Polling.Prompt
import DashboardClient.Proofs.Json.Written
import DashboardClient.Proofs.Wire.RoundTrip
import DashboardClient.Proofs.Http.AntiForgery
import DashboardClient.Proofs.Auth.Served
import DashboardClient.Proofs.Watcher.LifeCycle
import DashboardClient.Proofs.Polling.Confluence
import DashboardClient.Proofs.Polling.Schedules
import DashboardClient.Proofs.Polling.Isolation
import DashboardClient.Proofs.Polling.Requests
import DashboardClient.Proofs.Polling.MissedTicks
import DashboardClient.Proofs.Config.Origin
import DashboardClient.Proofs.Config.Paths
import DashboardClient.Proofs.Auth.Login
import DashboardClient.Proofs.Pages
import DashboardClient.Proofs.Session.Notifications
import DashboardClient.Proofs.Polling.Notifications
import DashboardClient.Proofs.Polling.LogLines
import DashboardClient.Proofs.Http.Responses
import DashboardClient.Proofs.Wire.Decoding
import DashboardClient.Proofs.Auth.Resolved
import DashboardClient.Proofs.Config.Validation
import DashboardClient.Proofs.Auth.Retries
