import Rasterm.Library.Transition
import Rasterm.Library.Rows
import Rasterm.Library.Grid
import Rasterm.Frame.Pixel
import Rasterm.Frame.Metadata
import Rasterm.Frame.View
import Rasterm.Library.Decimal
import Rasterm.Library.Sixel
import Rasterm.Encoder.Host
import Rasterm.Encoder.Palette
import Rasterm.Encoder.Writer
import Rasterm.Encoder.Scan
import Rasterm.Encoder.Bands
import Rasterm.Encoder.Decoding
import Rasterm.Encoder.Mapping
import Rasterm.Encoder.Encoder
import Rasterm.Encoder.Stream
import Rasterm.Encoder.RoundTrip
import Rasterm.Encoder.Adaptive
import Rasterm.Encoder.Registers
import Rasterm.Encoder.Regional
import Rasterm.Library.Vt
import Rasterm.Output.Sink
import Rasterm.Output.Screen
import Rasterm.Output.Emulator
import Rasterm.Output.TerminalRenderer
import Rasterm.Output.Picture
import Rasterm.Output.Recovery
import Rasterm.Output.Counting
import Rasterm.Damage.Regions
import Rasterm.Damage.Normalization
import Rasterm.Damage.DamageTracker
import Rasterm.Damage.Tiles
import Rasterm.Damage.Comparison
import Rasterm.Render.Renderer
import Rasterm.Render.Recovery
import Rasterm.Render.Wire
import Rasterm.Encoder.Twin
import Rasterm.Encoder.Limit
import Rasterm.Encoder.SelfContained
import Rasterm.Output.Accepting
import Rasterm.Render.Partial
import Rasterm.Render.Fresh
import Rasterm.Output.Reporting
import Rasterm.Render.Display
import Rasterm.Color.ColorConverter
import Rasterm.Engine.Engine
import Rasterm.Engine.Cache
import Rasterm.Output.Attempts
import Rasterm.Render.Outcome
import Rasterm.Render.Decision
import Rasterm.Render.Patches
import Rasterm.Render.Ceiling
import Rasterm.Encoder.Omission
import Rasterm.Render.Omission
import Rasterm.Render.Resize
import Rasterm.Library.WorkerPool
import Rasterm.Encoder.Image
import Rasterm.Frame.Owned
import Rasterm.Library.History
import Rasterm.Library.Mailbox
import Rasterm.Presenter.Presenter
import Rasterm.Presenter.Submission
import Rasterm.Presenter.Rejection
import Rasterm.Presenter.Worker
import Rasterm.Presenter.Mailbox
import Rasterm.Presenter.Accounting
import Rasterm.Engine.Redraw
import Rasterm.Presenter.Invalidation
import Rasterm.Presenter.Idle
import Rasterm.Library.Staging
import Rasterm.Capi.Frames
import Rasterm.Capi.Presenter
import Rasterm.Capi.Mixing
import Rasterm.Encoder.Executor
import Rasterm.Encoder.Schedule
import Rasterm.Encoder.RowPool
import Rasterm.Encoder.Decisions
import Rasterm.Library.Sweep
import Rasterm.Encoder.FloydSteinberg
import Rasterm.Library.Checked
import Rasterm.Frame.Layout
import Rasterm.Frame.Checked
import Rasterm.Frame.Safety
import Rasterm.Encoder.Integers
import Rasterm.Library.Ownership
import Rasterm.Frame.Copies
import Rasterm.Library.Fitting
import Rasterm.Image.Scaling
import Rasterm.Library.Lease
import Rasterm.Platform.ConsoleSession
import Rasterm.Platform.Activation
import Rasterm.Library.CString
import Rasterm.Capi.Options
import Rasterm.Capi.Engine
import Rasterm.Capi.PresenterCalls
import Rasterm.Capi.LastError
import Rasterm.Presenter.Delivery
import Rasterm.Engine.Display
import Rasterm.Presenter.Screen
import Rasterm.Library.Settling
import Rasterm.Presenter.Monitor
import Rasterm.Presenter.Progress
import Rasterm.Library.Spacing
import Rasterm.Presenter.Pacing
import Rasterm.Engine.Options
import Rasterm.Engine.Lifecycle
import Rasterm.Engine.Pieces
import Rasterm.Engine.Exclusive
import Rasterm.Engine.Restored
import Rasterm.Library.Ranking
import Rasterm.Encoder.Frequent
import Rasterm.Encoder.Source
import Rasterm.Encoder.Painting
import Rasterm.Bindings.Surface
import Rasterm.Bindings.Frames
import Rasterm.Bindings.Handles
import Rasterm.Library.RingBuffer
import Rasterm.Engine.WriteStatistics
import Rasterm.Capi.Screen
import Rasterm.Capi.Requests
