import TermSession.Backend.Basic
import TermSession.Backend.Journal
import TermSession.Backend.Memory
import TermSession.Backend.OutputLog
import TermSession.Command
import TermSession.Config.Basic
import TermSession.Config.File
import TermSession.Debouncer
import TermSession.FileTree
import TermSession.Input.Composition
import TermSession.Input.DuplicateFilter
import TermSession.Json.Number
import TermSession.Json.Token
import TermSession.Json.Tree
import TermSession.Json.Value
import TermSession.Json.Writer
import TermSession.Keyboard.Chord
import TermSession.Keyboard.Encoding
import TermSession.Keyboard.Key
import TermSession.Main
import TermSession.Metadata
import TermSession.OutputStream
import TermSession.Platform
import TermSession.Proofs.Backend.Delivery
import TermSession.Proofs.Backend.Journaling
import TermSession.Proofs.Backend.Sharing
import TermSession.Proofs.Backend.SnapshotText
import TermSession.Proofs.Config.Saving
import TermSession.Proofs.Input.FilterHistory
import TermSession.Proofs.Json.Embedding
import TermSession.Proofs.Json.Lexing
import TermSession.Proofs.Json.Members
import TermSession.Proofs.Json.Opening
import TermSession.Proofs.Keyboard.KeyText
import TermSession.Proofs.Session.Accounting
import TermSession.Proofs.Session.AgreedSizes
import TermSession.Proofs.Session.Arrivals
import TermSession.Proofs.Session.Calls
import TermSession.Proofs.Session.Channels
import TermSession.Proofs.Session.CheckedCounts
import TermSession.Proofs.Session.Chunks
import TermSession.Proofs.Session.Coverage
import TermSession.Proofs.Session.Deadlines
import TermSession.Proofs.Session.Displays
import TermSession.Proofs.Session.Disposal
import TermSession.Proofs.Session.Duplicates
import TermSession.Proofs.Session.Finality
import TermSession.Proofs.Session.Following
import TermSession.Proofs.Session.Hearing
import TermSession.Proofs.Session.Host
import TermSession.Proofs.Session.IdleSaving
import TermSession.Proofs.Session.InputGate
import TermSession.Proofs.Session.Isolation
import TermSession.Proofs.Session.LatestSize
import TermSession.Proofs.Session.LiveCommands
import TermSession.Proofs.Session.Locality
import TermSession.Proofs.Session.Lossless
import TermSession.Proofs.Session.Mirroring
import TermSession.Proofs.Session.Multiplexer
import TermSession.Proofs.Session.OtherSize
import TermSession.Proofs.Session.Reading
import TermSession.Proofs.Session.Reload
import TermSession.Proofs.Session.Replaying
import TermSession.Proofs.Session.Restart
import TermSession.Proofs.Session.SameSize
import TermSession.Proofs.Session.SaveAttempts
import TermSession.Proofs.Session.Separation
import TermSession.Proofs.Session.Shown
import TermSession.Proofs.Session.Sizes
import TermSession.Proofs.Session.StoreFaults
import TermSession.Proofs.Session.StreamCalls
import TermSession.Proofs.Session.TypedKeys
import TermSession.Proofs.Terminal.Actions
import TermSession.Proofs.Terminal.Alike
import TermSession.Proofs.Terminal.Bounds
import TermSession.Proofs.Terminal.Calls
import TermSession.Proofs.Terminal.Checked
import TermSession.Proofs.Terminal.Cleared
import TermSession.Proofs.Terminal.Combining
import TermSession.Proofs.Terminal.ControlSequences
import TermSession.Proofs.Terminal.Document
import TermSession.Proofs.Terminal.Framing
import TermSession.Proofs.Terminal.InRange
import TermSession.Proofs.Terminal.Interruptions
import TermSession.Proofs.Terminal.Layout
import TermSession.Proofs.Terminal.Pages
import TermSession.Proofs.Terminal.Pairs
import TermSession.Proofs.Terminal.PendingWrap
import TermSession.Proofs.Terminal.Reachable
import TermSession.Proofs.Terminal.Refit
import TermSession.Proofs.Terminal.RoundTrip
import TermSession.Proofs.Terminal.Scrolling
import TermSession.Proofs.Terminal.Sound
import TermSession.Proofs.Terminal.Tearing
import TermSession.Proofs.Terminal.Typing
import TermSession.Proofs.Terminal.Unfailing
import TermSession.Proofs.Terminal.Wrapping
import TermSession.Proofs.Text.Decimal
import TermSession.Proofs.Text.Utf8
import TermSession.Proofs.Toml.Documents
import TermSession.Proofs.Toml.Strings
import TermSession.Replay
import TermSession.Resizing
import TermSession.Session
import TermSession.Snapshot
import TermSession.SnapshotTimer
import TermSession.Table
import TermSession.Terminal.Decoder
import TermSession.Terminal.Display
import TermSession.Terminal.Edit
import TermSession.Terminal.Resize
import TermSession.Terminal.Row
import TermSession.Terminal.Screen
import TermSession.Terminal.Scrollback
import TermSession.Terminal.Span
import TermSession.Terminal.Surface
import TermSession.Terminal.Transcript
import TermSession.Text.Decimal
import TermSession.Text.Hex
import TermSession.Text.PrintableTable
import TermSession.Text.Quoted
import TermSession.Text.Utf8
import TermSession.Text.Width
import TermSession.Text.WidthTable
import TermSession.Toml.Node
import TermSession.Toml.Quoted
import TermSession.Toml.Reader
import TermSession.Toml.Scalar
import TermSession.Toml.Value
import TermSession.Wire
