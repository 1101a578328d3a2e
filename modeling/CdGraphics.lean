import CdGraphics.Command.Disk
import CdGraphics.Command.Run
import CdGraphics.Instruction.Json
import CdGraphics.Instruction.Text
import CdGraphics.Main
import CdGraphics.Playback.Run
import CdGraphics.Playback.TimeSource
import CdGraphics.Settings
import CdGraphics.Proofs.Moves
import CdGraphics.Proofs.Pass
import CdGraphics.Proofs.Lifecycle
import CdGraphics.Proofs.Advance
import CdGraphics.Proofs.Timing
import CdGraphics.Proofs.Schedule
import CdGraphics.Proofs.Pause
import CdGraphics.Proofs.Sync
import CdGraphics.Proofs.Cells
import CdGraphics.Proofs.SafeDrawing
import CdGraphics.Proofs.InRange
import CdGraphics.Proofs.Safety
import CdGraphics.Proofs.Channel
import CdGraphics.Proofs.Offset
import CdGraphics.Proofs.RoundTrip
import CdGraphics.Proofs.Drawn
import CdGraphics.Proofs.Outcome
import CdGraphics.Proofs.Rewind
import CdGraphics.Proofs.Composing
import CdGraphics.Proofs.TileScroll
import CdGraphics.Proofs.Registers
import CdGraphics.Proofs.Autonomy
import CdGraphics.Proofs.TileXor
import CdGraphics.Proofs.VerticalSource
import CdGraphics.Proofs.Unloaded
import CdGraphics.Proofs.Restart
import CdGraphics.Proofs.Stored
import CdGraphics.Proofs.Writing
import CdGraphics.Proofs.Delivered
import CdGraphics.Proofs.SteadyTicks
import CdGraphics.Proofs.Filmed
import CdGraphics.Proofs.FromZero
import CdGraphics.Proofs.Agreement
import CdGraphics.Proofs.Ticking
import CdGraphics.Proofs.TileDrawing
import CdGraphics.Proofs.Shifting
import CdGraphics.Proofs.InPlace
import CdGraphics.Proofs.Faults
import CdGraphics.Proofs.Border
import CdGraphics.Proofs.ReportReading
import CdGraphics.Proofs.Inspection
import CdGraphics.Proofs.FrameCount
import CdGraphics.Proofs.Footage
import CdGraphics.Proofs.Batch
import CdGraphics.Proofs.TableBuilding
