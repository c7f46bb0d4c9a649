import PadCapture.Main
import PadCapture.Proofs.Bench.CaptureMode
import PadCapture.Proofs.Bench.QueueHistory
import PadCapture.Proofs.Capture.Isolation
import PadCapture.Proofs.Capture.Pairing
import PadCapture.Proofs.Capture.Picking
import PadCapture.Proofs.Capture.Provenance
import PadCapture.Proofs.Capture.Schedule
import PadCapture.Proofs.Clock.Conversion
import PadCapture.Proofs.Device.Lenient
import PadCapture.Proofs.Device.Replay
import PadCapture.Proofs.Device.Sticks
import PadCapture.Proofs.Device.Trigger
import PadCapture.Proofs.Params.Grammar
import PadCapture.Proofs.Bench.Snapshots
import PadCapture.Proofs.Clock.Readings
import PadCapture.Proofs.Clock.RoundTrip
import PadCapture.Proofs.Clock.Words
import PadCapture.Proofs.Gamepad.Changes
import PadCapture.Proofs.Gamepad.Mirror
import PadCapture.Proofs.Bench.Gamepads
import PadCapture.Proofs.Script.Replay
import PadCapture.Proofs.Gamepad.Assignment
import PadCapture.Proofs.Params.Canonical
import PadCapture.Proofs.Bench.Stale
import PadCapture.Proofs.Capture.Deadline
import PadCapture.Proofs.Script.Compiling
import PadCapture.Proofs.Params.Integers
import PadCapture.Proofs.Config.Files
import PadCapture.Proofs.Device.Thresholds
import PadCapture.Proofs.Floating.Bounds
import PadCapture.Proofs.Device.Directions
import PadCapture.Proofs.Capture.Filters
