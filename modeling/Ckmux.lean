import Ckmux.Grammar.Wire
import Ckmux.Grammar.WireLaws
import Ckmux.Terminal.Cell
import Ckmux.Proto.Message
import Ckmux.Proto.Codec
import Ckmux.Proto.CodecLaws
import Ckmux.Proto.Frame
import Ckmux.Proto.RoundTrip
import Ckmux.Proto.Canonical
import Ckmux.Grammar.Framing
import Ckmux.Proto.Stream
import Ckmux.Proto.ReadLoop
import Ckmux.Data.RowMajor
import Ckmux.Data.Newest
import Ckmux.Data.Keyed
import Ckmux.Data.Ledger
import Ckmux.Proto.Runs
import Ckmux.Proto.Sayable
import Ckmux.Grid.State
import Ckmux.Grid.Delta
import Ckmux.Grid.Spans
import Ckmux.Grid.Inverse
import Ckmux.Grid.Followers
import Ckmux.Grid.History
import Ckmux.Semantics.System
import Ckmux.Terminal.Subsession
import Ckmux.Server.DiffEngine
import Ckmux.Server.DiffEngineLaws
import Ckmux.Client.Mirror
import Ckmux.Agreement.Snapshot
import Ckmux.Agreement.Stream
import Ckmux.Agreement.History
import Ckmux.Data.Grouped
import Ckmux.Server.Paste
import Ckmux.Server.PasteLaws
import Ckmux.Server.PasteTidy
import Ckmux.Server.PasteMoves
import Ckmux.Server.PasteOrder
import Ckmux.Server.PasteAccounts
import Ckmux.Server.PasteAnswers
import Ckmux.Server.Pictures
import Ckmux.Server.Terminals
import Ckmux.Server.State
import Ckmux.Server.Sessions
import Ckmux.Server.Snapshot
import Ckmux.Server.Attach
import Ckmux.Server.Handle
import Ckmux.Server.Tick
import Ckmux.Server.Runs
import Ckmux.Server.StateLaws
import Ckmux.Server.Spares
import Ckmux.Server.Tells
import Ckmux.Server.Acts
import Ckmux.Server.ActRuns
import Ckmux.Server.Sound
import Ckmux.Server.SoundRuns
import Ckmux.Server.SnapshotLaws
import Ckmux.Server.SendLaws
import Ckmux.Server.AttachLaws
import Ckmux.Server.Partition
import Ckmux.Server.Provenance
import Ckmux.Server.Grace
import Ckmux.Server.Names
import Ckmux.Server.Alters
import Ckmux.Server.Focus
import Ckmux.Server.Shaping
import Ckmux.Server.Takeover
import Ckmux.Server.TooLarge
import Ckmux.Server.Watching
import Ckmux.Server.Leaving
import Ckmux.Server.Carrying
import Ckmux.Server.Stranded
import Ckmux.Grid.Formed
import Ckmux.Grid.Access
import Ckmux.Grid.Scrollback
import Ckmux.Grid.Cheapest
import Ckmux.Client.Pictures
import Ckmux.Client.Session
import Ckmux.Client.Shown
import Ckmux.Client.Damage
import Ckmux.Client.Tiling
import Ckmux.Client.Reader
import Ckmux.Client.ReaderLaws
import Ckmux.Client.Evicted
import Ckmux.Client.Formed
import Ckmux.Agreement.Company
import Ckmux.Agreement.Healing
import Ckmux.Data.Words
import Ckmux.Server.Stats
import Ckmux.Data.Worklist
import Ckmux.Server.ProcessTree
import Ckmux.Grid.Runs
import Ckmux.Grammar.Escape
import Ckmux.Client.PrinterOutput
import Ckmux.Data.Ranges
import Ckmux.Client.CopyMode
import Ckmux.Data.Cyclic
import Ckmux.Client.CopySearch
import Ckmux.Config.Keymap
import Ckmux.Config.Line
import Ckmux.Config.Settings
import Ckmux.Data.Overwrite
import Ckmux.Config.Sections
import Ckmux.Config.Save
import Ckmux.Client.Fetching
import Ckmux.Agreement.Printing
import Ckmux.Data.Matching
import Ckmux.Client.Commands
import Ckmux.Config.LastWord
import Ckmux.Config.Warnings
import Ckmux.Config.Saves
import Ckmux.Client.KeysInForce
import Ckmux.Client.Pasting
import Ckmux.Agreement.Credit
