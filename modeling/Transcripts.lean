import Transcripts.Calendar.Clock
import Transcripts.Calendar.Date
import Transcripts.Calendar.Timestamp
import Transcripts.Calendar.Written
import Transcripts.Collection.Basic
import Transcripts.CommandLine.Action
import Transcripts.CommandLine.Grammar
import Transcripts.CommandLine.Help
import Transcripts.CommandLine.Match
import Transcripts.CommandLine.Program
import Transcripts.CommandLine.Response
import Transcripts.CommandLine.Run
import Transcripts.Files.Path
import Transcripts.Files.Tree
import Transcripts.Identity.Alias
import Transcripts.Identity.Speaker
import Transcripts.Json.Reader
import Transcripts.Json.Writer
import Transcripts.Legal.Reference
import Transcripts.Main
import Transcripts.Numeral.Binary64
import Transcripts.Numeral.Integer
import Transcripts.Numeral.Shortest
import Transcripts.Project.Basic
import Transcripts.Proofs.Calendar.Duration
import Transcripts.Proofs.Calendar.TimeOfDay
import Transcripts.Proofs.Calendar.WrittenDates
import Transcripts.Proofs.Collection.Overlay
import Transcripts.Proofs.CommandLine.Addressing
import Transcripts.Proofs.CommandLine.Limiting
import Transcripts.Proofs.CommandLine.Storing
import Transcripts.Proofs.Identity.Chains
import Transcripts.Proofs.Identity.Circles
import Transcripts.Proofs.Identity.Flatness
import Transcripts.Proofs.Identity.Following
import Transcripts.Proofs.Identity.Keeping
import Transcripts.Proofs.Identity.MergeOrder
import Transcripts.Proofs.Identity.Merging
import Transcripts.Proofs.Identity.Overlaying
import Transcripts.Proofs.Identity.SelfPairs
import Transcripts.Proofs.Json.Reading
import Transcripts.Proofs.Json.Scalar
import Transcripts.Proofs.Numeral.Decimal
import Transcripts.Proofs.Numeral.Magnitude
import Transcripts.Proofs.Project.Entries
import Transcripts.Proofs.Project.MadeRecords
import Transcripts.Proofs.Project.Record
import Transcripts.Proofs.Project.RoundTrip
import Transcripts.Proofs.Query.AddedText
import Transcripts.Proofs.Query.AdjacentClauses
import Transcripts.Proofs.Query.AdjacentFactors
import Transcripts.Proofs.Query.Canonical
import Transcripts.Proofs.Query.Conservation
import Transcripts.Proofs.Query.Coverage
import Transcripts.Proofs.Query.EditScripts
import Transcripts.Proofs.Query.Gaps
import Transcripts.Proofs.Query.Grammar
import Transcripts.Proofs.Query.Matching
import Transcripts.Proofs.Query.Reordering
import Transcripts.Proofs.Query.ShiftedOperands
import Transcripts.Proofs.Query.Spelling
import Transcripts.Proofs.Query.StackedNegations
import Transcripts.Proofs.Query.StrayParentheses
import Transcripts.Proofs.Query.Unfinished
import Transcripts.Proofs.Search.Intersection
import Transcripts.Proofs.Search.Ordering
import Transcripts.Proofs.Search.Relinking
import Transcripts.Proofs.Search.Totality
import Transcripts.Proofs.Session.Listing
import Transcripts.Proofs.Session.OrderedMap
import Transcripts.Proofs.Settings.Faults
import Transcripts.Proofs.Settings.Sources
import Transcripts.Proofs.Tag.Changes
import Transcripts.Proofs.Text.Folding
import Transcripts.Proofs.Text.Refolding
import Transcripts.Proofs.Text.Split
import Transcripts.Proofs.Text.Tables
import Transcripts.Proofs.Text.Trimming
import Transcripts.Proofs.Text.Utf8
import Transcripts.Proofs.Workspace.Capturing
import Transcripts.Proofs.Workspace.Cataloguing
import Transcripts.Proofs.Workspace.Deleting
import Transcripts.Proofs.Workspace.Integrity
import Transcripts.Proofs.Workspace.Operations
import Transcripts.Proofs.Workspace.Refusals
import Transcripts.Proofs.Workspace.Reopening
import Transcripts.Proofs.Workspace.Restoring
import Transcripts.Proofs.Workspace.Searching
import Transcripts.Proofs.Workspace.Unaffected
import Transcripts.Query.Compiled
import Transcripts.Search.Filter
import Transcripts.Search.Sort
import Transcripts.Session.Store
import Transcripts.Settings.Basic
import Transcripts.Settings.File
import Transcripts.Text.CharClass
import Transcripts.Text.Folding
import Transcripts.Text.Printable
import Transcripts.Text.Split
import Transcripts.Text.Utf8
import Transcripts.Text.WordChar
import Transcripts.Workspace.Basic
import Transcripts.Workspace.Call
import Transcripts.Yaml.BlockText
import Transcripts.Yaml.Cursor
import Transcripts.Yaml.Moment
import Transcripts.Yaml.Node
import Transcripts.Yaml.PlainText
import Transcripts.Yaml.Property
import Transcripts.Yaml.QuotedText
import Transcripts.Yaml.Reader
import Transcripts.Yaml.Token
