import ScreenAgent.Agent.Device
import ScreenAgent.Main
import ScreenAgent.Proofs.Learning.History
import ScreenAgent.Proofs.Agent.Progress
import ScreenAgent.Proofs.Agent.Soundness
import ScreenAgent.Proofs.Agent.Completion
import ScreenAgent.Proofs.Hierarchy.Token
import ScreenAgent.Proofs.Hierarchy.Nesting
import ScreenAgent.Proofs.Hierarchy.Spelling
import ScreenAgent.Proofs.Hierarchy.Fields
import ScreenAgent.Proofs.Hierarchy.Label
import ScreenAgent.Proofs.Hierarchy.Rendering
import ScreenAgent.Proofs.Hierarchy.Quotes
import ScreenAgent.Proofs.Agent.Targeting
import ScreenAgent.Proofs.Agent.Statistics
import ScreenAgent.Proofs.Agent.Batching
import ScreenAgent.Proofs.Agent.Rest
import ScreenAgent.Proofs.Json.Literal
import ScreenAgent.Proofs.Json.Numeral
import ScreenAgent.Proofs.Json.Compact
import ScreenAgent.Proofs.Json.Layout
import ScreenAgent.Proofs.Text.Utf8
import ScreenAgent.Proofs.Text.Uuid
import ScreenAgent.Proofs.Text.Timestamp
import ScreenAgent.Proofs.Json.Record
import ScreenAgent.Proofs.Learning.Encoding
import ScreenAgent.Proofs.Archive.Lines
import ScreenAgent.Proofs.Archive.Keeping
import ScreenAgent.Proofs.Json.Joined
import ScreenAgent.Proofs.Archive.Appending
import ScreenAgent.Proofs.Runner.Traffic
import ScreenAgent.Proofs.Runner.Interleaving
import ScreenAgent.Proofs.Runner.Waking
import ScreenAgent.Proofs.Runner.Stopping
import ScreenAgent.Proofs.Goal.Reading
import ScreenAgent.Proofs.Json.Indented
import ScreenAgent.Proofs.Settings.Saving
import ScreenAgent.Proofs.Screen.Tree
import ScreenAgent.Proofs.Runner.Polling
import ScreenAgent.Proofs.Agent.Execution
import ScreenAgent.Proofs.Agent.Stability
import ScreenAgent.Proofs.Learning.Dropping
import ScreenAgent.Proofs.Bridge.Tapping
import ScreenAgent.Proofs.Bridge.Typing
import ScreenAgent.Proofs.Bridge.Restoring
import ScreenAgent.Proofs.Bridge.Dumping
import ScreenAgent.Proofs.Bridge.Scrolling
import ScreenAgent.Proofs.Agent.Summaries
import ScreenAgent.Proofs.Archive.Loading
import ScreenAgent.Proofs.CommandLine.Arguments
import ScreenAgent.Proofs.Hierarchy.Unescaping
import ScreenAgent.Proofs.Text.Words
import ScreenAgent.Proofs.Bridge.Listing
import ScreenAgent.Proofs.Text.LetterCase
import ScreenAgent.Proofs.Agent.Labels
