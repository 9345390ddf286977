import PatchLint.Check.Probe
import PatchLint.Check.Target
import PatchLint.CommandLine.Arguments
import PatchLint.CommandLine.Listing
import PatchLint.CommandLine.Running
import PatchLint.Config.Effective
import PatchLint.Config.Fault
import PatchLint.Config.File
import PatchLint.Config.Snapshot
import PatchLint.Exclusion
import PatchLint.Finding
import PatchLint.Glob.Basic
import PatchLint.Glob.Match
import PatchLint.Host
import PatchLint.Json.Basic
import PatchLint.Json.Commented
import PatchLint.Json.Decoding
import PatchLint.Json.Numeral
import PatchLint.Json.Printer
import PatchLint.Json.Token
import PatchLint.Layout.Basic
import PatchLint.Layout.Grammar
import PatchLint.Layout.Pattern
import PatchLint.Layout.Printer
import PatchLint.Layout.SingleLine
import PatchLint.Layout.TwoLine
import PatchLint.Log
import PatchLint.Main
import PatchLint.Number.Binary64
import PatchLint.Number.Decimal
import PatchLint.Path.Basic
import PatchLint.Path.Map
import PatchLint.Proofs.Session.Accounts
import PatchLint.Proofs.Session.Effects
import PatchLint.Proofs.Session.Takeover
import PatchLint.Report
import PatchLint.Repository.Commit
import PatchLint.Repository.Git
import PatchLint.Server.Basic
import PatchLint.Server.Checks
import PatchLint.Server.Commands
import PatchLint.Server.Conversation
import PatchLint.Server.Handling
import PatchLint.Server.Message
import PatchLint.Server.Params
import PatchLint.Session.Basic
import PatchLint.Session.Check
import PatchLint.Session.Course
import PatchLint.Session.Registry
import PatchLint.Session.Reload
import PatchLint.Session.Staged
import PatchLint.Settings.Basic
import PatchLint.Settings.Schema
import PatchLint.Store
import PatchLint.Store.Course
import PatchLint.Summary
import PatchLint.Text.Alphanumeric
import PatchLint.Text.Blank
import PatchLint.Text.CodePoints
import PatchLint.Text.DecimalDigit
import PatchLint.Text.Lines
import PatchLint.Text.Numeral
import PatchLint.Text.Quoted
import PatchLint.Text.Reading
import PatchLint.Text.Unprinted
import PatchLint.Text.Utf8
import PatchLint.Uri.Basic
import PatchLint.Uri.Host
import PatchLint.Uri.Percent
import PatchLint.Uri.Reading
import PatchLint.World.Basic
import PatchLint.World.Description
import PatchLint.Proofs.Check.Gate
import PatchLint.Proofs.Config.Scopes
import PatchLint.Proofs.Config.Layering
import PatchLint.Proofs.Config.Deepest
import PatchLint.Proofs.Session.Configured
import PatchLint.Proofs.Session.Stages
import PatchLint.Proofs.Report
import PatchLint.Proofs.Summary
import PatchLint.Proofs.Session.Provenance
import PatchLint.Proofs.Uri.File
import PatchLint.Proofs.Session.Noted
import PatchLint.Proofs.Server.Dialogue
import PatchLint.Proofs.Server.Shown
import PatchLint.Proofs.Session.Reloading
import PatchLint.Proofs.Session.Retry
import PatchLint.Proofs.Session.Landing
import PatchLint.Proofs.Layout.Linewise
import PatchLint.Proofs.Layout.RoundTrip
import PatchLint.Proofs.CommandLine.Listing
import PatchLint.Proofs.CommandLine.Prediction
import PatchLint.Proofs.Store.Replay
import PatchLint.Proofs.Session.Alike
import PatchLint.Proofs.Session.Isolation
import PatchLint.Proofs.Session.Commuting
import PatchLint.Proofs.Session.Confined
import PatchLint.Proofs.Session.RunMode
import PatchLint.Proofs.Session.Rechecking
import PatchLint.Proofs.Config.Files
import PatchLint.Proofs.CommandLine.FirstRepository
import PatchLint.Proofs.Server.Attempts
import PatchLint.Proofs.Server.Responses
import PatchLint.Proofs.Server.Choices
import PatchLint.Proofs.Server.Heeding
import PatchLint.Proofs.Server.Saving
import PatchLint.Proofs.Repository.Listing
import PatchLint.Proofs.Session.InFlight
import PatchLint.Proofs.Store.Contents
