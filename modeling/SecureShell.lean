import SecureShell.Bytes.Base64
import SecureShell.Bytes.Counted
import SecureShell.Bytes.Hex
import SecureShell.Bytes.Utf8
import SecureShell.Config.Anchoring
import SecureShell.Config.Builtin
import SecureShell.Config.Configuration
import SecureShell.Config.Directive
import SecureShell.Config.Document
import SecureShell.Config.Failure
import SecureShell.Config.Preference
import SecureShell.Config.Reading
import SecureShell.Config.Resolution
import SecureShell.Config.Settings
import SecureShell.Config.Source
import SecureShell.Config.Store
import SecureShell.Connection.Authentication
import SecureShell.Connection.CallerMethod
import SecureShell.Connection.Channel
import SecureShell.Connection.Destination
import SecureShell.Connection.Dialing
import SecureShell.Connection.Failure
import SecureShell.Connection.KeyLoading
import SecureShell.Connection.Run
import SecureShell.Connection.Surroundings
import SecureShell.Digest.Block
import SecureShell.Digest.Sha1
import SecureShell.Digest.Sha256
import SecureShell.FileSystem.Basic
import SecureShell.FileSystem.Tree
import SecureShell.Key.Material
import SecureShell.Key.PublicKey
import SecureShell.KnownHosts
import SecureShell.Path.Basic
import SecureShell.Path.Expansion
import SecureShell.Pattern.Glob
import SecureShell.Pattern.HostPattern
import SecureShell.Proofs.Acceptance
import SecureShell.Proofs.AppendedText
import SecureShell.Proofs.AttemptOrder
import SecureShell.Proofs.CallerHistory
import SecureShell.Proofs.ClearedSources
import SecureShell.Proofs.CommandOutput
import SecureShell.Proofs.DialEvents
import SecureShell.Proofs.DialFailures
import SecureShell.Proofs.DialFindings
import SecureShell.Proofs.DialSafety
import SecureShell.Proofs.DialSteps
import SecureShell.Proofs.DocumentForm
import SecureShell.Proofs.EffectiveValues
import SecureShell.Proofs.EncodedText
import SecureShell.Proofs.EveryHost
import SecureShell.Proofs.Exchanges
import SecureShell.Proofs.FirstAnswer
import SecureShell.Proofs.GlobLanguage
import SecureShell.Proofs.GlobPositions
import SecureShell.Proofs.HostKeyPolicy
import SecureShell.Proofs.IdentityScope
import SecureShell.Proofs.IncludeAnchoring
import SecureShell.Proofs.IncludeNesting
import SecureShell.Proofs.JumpCommand
import SecureShell.Proofs.KeyPrompts
import SecureShell.Proofs.LayeredLookup
import SecureShell.Proofs.LineGrammar
import SecureShell.Proofs.PathCleaning
import SecureShell.Proofs.PathSteps
import SecureShell.Proofs.PeerCommands
import SecureShell.Proofs.PortNumbers
import SecureShell.Proofs.PortResolution
import SecureShell.Proofs.PreferenceOrder
import SecureShell.Proofs.ProxyLife
import SecureShell.Proofs.ReachedFiles
import SecureShell.Proofs.ReadingOrder
import SecureShell.Proofs.ReadingParts
import SecureShell.Proofs.Rendering
import SecureShell.Proofs.RequiredSources
import SecureShell.Proofs.RoundTrip
import SecureShell.Proofs.RunLaws
import SecureShell.Proofs.Secrecy
import SecureShell.Proofs.ShellWords
import SecureShell.Proofs.SourceHistory
import SecureShell.Proofs.SplicedInclude
import SecureShell.Proofs.TrailingRemarks
import SecureShell.Proofs.UntouchedLines
import SecureShell.Proofs.VerbValues
import SecureShell.Proofs.WrittenLine
import SecureShell.Proxy
import SecureShell.Rehearsal.Cast
import SecureShell.Rehearsal.Preamble
import SecureShell.Rehearsal.Shell.Arguments
import SecureShell.Rehearsal.Shell.Arithmetic
import SecureShell.Rehearsal.Shell.Blocks
import SecureShell.Rehearsal.Shell.Builtins
import SecureShell.Rehearsal.Shell.Calculation
import SecureShell.Rehearsal.Shell.Choices
import SecureShell.Rehearsal.Shell.Complaint
import SecureShell.Rehearsal.Shell.Condition
import SecureShell.Rehearsal.Shell.Counts
import SecureShell.Rehearsal.Shell.Edit
import SecureShell.Rehearsal.Shell.EditScript
import SecureShell.Rehearsal.Shell.Editing
import SecureShell.Rehearsal.Shell.Entries
import SecureShell.Rehearsal.Shell.Evaluation
import SecureShell.Rehearsal.Shell.Excerpt
import SecureShell.Rehearsal.Shell.Exchange
import SecureShell.Rehearsal.Shell.Expansion
import SecureShell.Rehearsal.Shell.Expression
import SecureShell.Rehearsal.Shell.ExpressionSigns
import SecureShell.Rehearsal.Shell.Fields
import SecureShell.Rehearsal.Shell.FileConditions
import SecureShell.Rehearsal.Shell.Filtering
import SecureShell.Rehearsal.Shell.Filters
import SecureShell.Rehearsal.Shell.Formats
import SecureShell.Rehearsal.Shell.FreshShell
import SecureShell.Rehearsal.Shell.Globbing
import SecureShell.Rehearsal.Shell.Input
import SecureShell.Rehearsal.Shell.InputWords
import SecureShell.Rehearsal.Shell.Listing
import SecureShell.Rehearsal.Shell.Lookup
import SecureShell.Rehearsal.Shell.Names
import SecureShell.Rehearsal.Shell.Navigation
import SecureShell.Rehearsal.Shell.NextOption
import SecureShell.Rehearsal.Shell.Octets
import SecureShell.Rehearsal.Shell.Ordering
import SecureShell.Rehearsal.Shell.OwnOptions
import SecureShell.Rehearsal.Shell.Pattern
import SecureShell.Rehearsal.Shell.Printing
import SecureShell.Rehearsal.Shell.Programs
import SecureShell.Rehearsal.Shell.Reading
import SecureShell.Rehearsal.Shell.RecordFlows
import SecureShell.Rehearsal.Shell.RecordNames
import SecureShell.Rehearsal.Shell.RecordParts
import SecureShell.Rehearsal.Shell.RecordReading
import SecureShell.Rehearsal.Shell.RecordScript
import SecureShell.Rehearsal.Shell.RecordState
import SecureShell.Rehearsal.Shell.RecordTokens
import SecureShell.Rehearsal.Shell.RecordValues
import SecureShell.Rehearsal.Shell.Recording
import SecureShell.Rehearsal.Shell.Records
import SecureShell.Rehearsal.Shell.Redirecting
import SecureShell.Rehearsal.Shell.Relaying
import SecureShell.Rehearsal.Shell.Rights
import SecureShell.Rehearsal.Shell.Running
import SecureShell.Rehearsal.Shell.Script
import SecureShell.Rehearsal.Shell.Search
import SecureShell.Rehearsal.Shell.SortKeys
import SecureShell.Rehearsal.Shell.State
import SecureShell.Rehearsal.Shell.TextPrograms
import SecureShell.Rehearsal.Shell.Timing
import SecureShell.Rehearsal.Shell.Transfers
import SecureShell.Rehearsal.Shell.Traps
import SecureShell.Rehearsal.Shell.Word
import SecureShell.Rehearsal.Shell.Wrapping
import SecureShell.Rehearsal.Stage
import SecureShell.Rehearsal.Terminal
import SecureShell.Text.Basic
import SecureShell.Text.Blank
import SecureShell.Text.Decimal
import SecureShell.Text.Floating
import SecureShell.Text.Hidden
import SecureShell.Text.Quoted
import SecureShell.Text.Span
import SecureShell.Text.Summary
import SecureShell.Verbs
