import AdminConsole.Authenticate
import AdminConsole.Backend.Basic
import AdminConsole.Backend.Chosen
import AdminConsole.Backend.File
import AdminConsole.Backend.Memory
import AdminConsole.Backend.Recorder
import AdminConsole.CommandLine.Arguments
import AdminConsole.CommandLine.Form
import AdminConsole.CommandLine.Machine
import AdminConsole.CommandLine.Program
import AdminConsole.Console.Basic
import AdminConsole.Console.Step
import AdminConsole.Console.Stretch
import AdminConsole.Credentials.Basic
import AdminConsole.Credentials.Format
import AdminConsole.Credentials.Store
import AdminConsole.Domain.Mapping
import AdminConsole.Domain.Name
import AdminConsole.Domain.Properties
import AdminConsole.Environment.Basic
import AdminConsole.Environment.File
import AdminConsole.Error
import AdminConsole.Http.Header
import AdminConsole.Http.Host
import AdminConsole.Http.Path
import AdminConsole.Http.Percent
import AdminConsole.Http.Request
import AdminConsole.Http.Status
import AdminConsole.Http.Url
import AdminConsole.Http.Wire
import AdminConsole.Identity
import AdminConsole.Json.Basic
import AdminConsole.Json.Numeral
import AdminConsole.Json.Printer
import AdminConsole.Json.Reader
import AdminConsole.Json.Record
import AdminConsole.Json.Token
import AdminConsole.Json.Tree
import AdminConsole.Main
import AdminConsole.PathName
import AdminConsole.Proofs.Console.Attaching
import AdminConsole.Proofs.Console.BoundedReplay
import AdminConsole.Proofs.Console.Causes
import AdminConsole.Proofs.Console.CycleEnds
import AdminConsole.Proofs.Console.Deeds
import AdminConsole.Proofs.Console.FailedRenewal
import AdminConsole.Proofs.Console.Moves
import AdminConsole.Proofs.Console.Navigations
import AdminConsole.Proofs.Console.NewerSession
import AdminConsole.Proofs.Console.RefreshTokens
import AdminConsole.Proofs.Console.RejectedReplay
import AdminConsole.Proofs.Console.Rejections
import AdminConsole.Proofs.Console.RenewalStages
import AdminConsole.Proofs.Console.Run
import AdminConsole.Proofs.Console.SharedFailure
import AdminConsole.Proofs.Console.SharedRenewal
import AdminConsole.Proofs.Console.SignInKept
import AdminConsole.Proofs.Console.SignOut
import AdminConsole.Proofs.Console.SingleFlight
import AdminConsole.Proofs.Console.SparedSession
import AdminConsole.Proofs.Console.Steps
import AdminConsole.Proofs.Console.Stretch
import AdminConsole.Proofs.Console.Turn
import AdminConsole.Proofs.Console.Writes
import AdminConsole.Proofs.Http.Bearer
import AdminConsole.Proofs.Recovery
import AdminConsole.Proofs.Route.Standard
import AdminConsole.Recovery
import AdminConsole.Redirector
import AdminConsole.Renewal
import AdminConsole.Route
import AdminConsole.Settings
import AdminConsole.Simulation.Server
import AdminConsole.Simulation.Timeline
import AdminConsole.Text.Alphanumeric
import AdminConsole.Text.Base64
import AdminConsole.Text.Blank
import AdminConsole.Text.Canonical
import AdminConsole.Text.CanonicalData
import AdminConsole.Text.Decimal
import AdminConsole.Text.Hexadecimal
import AdminConsole.Text.Punycode
import AdminConsole.Text.Rows
import AdminConsole.Text.Shortest
import AdminConsole.Text.Utf8
import AdminConsole.Time.Calendar
import AdminConsole.Time.Moment
import AdminConsole.Time.Rfc3339
import AdminConsole.Proofs.Console.Recognition
import AdminConsole.Proofs.Console.RejectionMeaning
import AdminConsole.Proofs.Credentials.Twins
import AdminConsole.Proofs.Console.Confinement
import AdminConsole.Proofs.Credentials.Operations
import AdminConsole.Proofs.Credentials.RoundTrip
import AdminConsole.Proofs.Credentials.WriteThrough
import AdminConsole.Proofs.Console.Settlement
import AdminConsole.Proofs.Credentials.BlankTokens
import AdminConsole.Proofs.Console.BlankTokens
import AdminConsole.Proofs.Json.Fields
import AdminConsole.Proofs.Settings
import AdminConsole.Proofs.StoredForms
import AdminConsole.Proofs.CommandLine.Files
import AdminConsole.Proofs.Console.Alone
import AdminConsole.Proofs.CommandLine.Actions
import AdminConsole.Proofs.CommandLine.Login
import AdminConsole.Proofs.Authenticate
import AdminConsole.Proofs.PeerToken
import AdminConsole.Proofs.Console.BypassingRequests
import AdminConsole.Proofs.Console.DroppedPeer
import AdminConsole.Proofs.Http.Path
import AdminConsole.Proofs.Route.LongestPrefix
import AdminConsole.Proofs.Route.Spelling
import AdminConsole.Proofs.Credentials.Failures
import AdminConsole.Proofs.Credentials.Generations
import AdminConsole.Proofs.Console.SigningIn
import AdminConsole.Proofs.PartialForms
import AdminConsole.Proofs.ServerMessage
import AdminConsole.Proofs.Redirector
import AdminConsole.Proofs.Http.Address
