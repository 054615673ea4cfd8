import LedStrip.Main
import LedStrip.Pack.Bundled.Devices
import LedStrip.Pack.Bundled.Effects
import LedStrip.Proofs.Number.Nearest
import LedStrip.Proofs.Number.Quotients
import LedStrip.Proofs.Frame.Strokes
import LedStrip.Proofs.Effect.Calls
import LedStrip.Proofs.Effect.Lifecycle
import LedStrip.Proofs.Effect.Counts
import LedStrip.Proofs.Effect.Configuration
import LedStrip.Proofs.Effect.Chase
import LedStrip.Proofs.Effect.Wave
import LedStrip.Proofs.Scheduler.Runs
import LedStrip.Proofs.Scheduler.Timers
import LedStrip.Proofs.Scheduler.Simulation
import LedStrip.Proofs.Scheduler.Frames
import LedStrip.Proofs.Scheduler.Subscriptions
import LedStrip.Proofs.Scheduler.Beat
import LedStrip.Proofs.Scheduler.Failures
import LedStrip.Proofs.Scheduler.Statuses
import LedStrip.Proofs.Device.Grid
import LedStrip.Proofs.Pack.Paths
import LedStrip.Proofs.Loader.Cache
import LedStrip.Proofs.Loader.Panels
import LedStrip.Proofs.Loader.Stages
import LedStrip.Proofs.Panel.Compile
import LedStrip.Proofs.Panel.Lines
import LedStrip.Proofs.Panel.Nodes
import LedStrip.Proofs.Panel.Numbering
import LedStrip.Proofs.Panel.Bridge
import LedStrip.Proofs.Panel.Edits
import LedStrip.Proofs.Session.Runs
import LedStrip.Proofs.Color.Tagged
import LedStrip.Proofs.Color.Hsv
import LedStrip.Proofs.Script.Hsv
import LedStrip.Proofs.Effect.Colors
import LedStrip.Proofs.Session.Speed
import LedStrip.Proofs.Session.Colors
import LedStrip.Proofs.Session.Panels
import LedStrip.Proofs.Session.Canvas
import LedStrip.Proofs.Session.Readback
import LedStrip.Proofs.Session.Nudge
import LedStrip.Proofs.Session.Sliders
import LedStrip.Proofs.Scheduler.Periods
import LedStrip.Proofs.Terminal.Selection
import LedStrip.Proofs.CommandLine.Transcript
import LedStrip.Proofs.CommandLine.Headless
