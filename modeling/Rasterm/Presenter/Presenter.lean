import Rasterm.Engine.Engine
import Rasterm.Frame.Owned

/-!
Contract: the state `Presenter::Impl` keeps under its mutex, and what each
mutex-protected region does to it.

Owns the six ways to submit a frame, with every allocation they make as a point
where they can stop; `invalidate`, the two ends of `waitUntilIdle` and of
`shutdown`; and the worker's consume and finish regions.

Does not own the order in which threads take their regions. Generations and
counters are unbounded; `pending` and `rendering` hold pixels wherever their `data()` is
taken.
-/

set_option autoImplicit false

namespace Rasterm

open Rows

structure PresenterOptions where
  maximumFramesPerSecond : FloatValue := .finite 0

/-- The frame rate limit is finite and not negative. -/
def PresenterOptions.isValid (options : PresenterOptions) : Bool :=
  match options.maximumFramesPerSecond with
  | .finite rate => decide (0 ≤ rate)
  | _ => false

/-- The largest count of nanoseconds of the clock. -/
def clockMax : Nat := 9223372036854775807

/-- Nanoseconds between two presentations; `none` where the cast to the count of the clock
overflows. -/
def PresenterOptions.minimumInterval (options : PresenterOptions) : Option Nat :=
  match options.maximumFramesPerSecond with
  | .finite rate =>
      if 0 < rate then
        let nanoseconds := (1000000000 / rate).floor.toNat
        if nanoseconds ≤ clockMax then some nanoseconds else none
      else some 0
  | _ => some 0

structure PresenterStats where
  submittedFrames : Nat := 0
  presentedFrames : Nat := 0
  replacedFrames : Nat := 0
  latestRender : RenderStats := {}
  unchangedFrames : Nat := 0
  failedFrames : Nat := 0
  rejectedFrames : Nat := 0
  cancelledFrames : Nat := 0
deriving DecidableEq, Repr

inductive FrameKind where
  | packed | indexed
deriving DecidableEq, Repr

structure Presenter where
  options : PresenterOptions := {}
  pending : List UInt8 := []
  rendering : List UInt8 := []
  pendingPalette : List RgbColor := []
  renderingPalette : List RgbColor := []
  pendingDamage : List DamageRect := []
  renderingDamage : List DamageRect := []
  pendingLifetime : Option Lifetime := none
  renderingLifetime : Option Lifetime := none
  pendingFrame : FrameView := {}
  pendingIndexedFrame : IndexedFrameView := {}
  pendingKind : FrameKind := .packed
  pendingIndexedTrusted : Bool := false
  renderingIndexedTrusted : Bool := false
  pendingDamageSupplied : Bool := false
  renderingDamageSupplied : Bool := false
  pendingGeneration : Nat := 0
  consumedGeneration : Nat := 0
  statistics : PresenterStats := {}
  latestStatus : Status := {}
  running : Bool := false
  stopping : Bool := false
  renderingActive : Bool := false
  resetRequested : Bool := false

/-- The allocations of a `submit` call. -/
inductive Allocation where
  | pixels | palette | damage | owner
deriving DecidableEq, Repr

/-- The allocator during one call. -/
structure Heap where
  fails : Allocation → Bool := fun _ => false
  /-- What a failed `assign` leaves of the palette. -/
  leftPalette : List RgbColor := []

/-- The ways to submit a frame. -/
inductive Submission where
  | packed (frame : FrameView)
  | indexed (frame : IndexedFrameView)
  | owned (frame : OwnedFrame)
  | ownedIndexed (frame : OwnedIndexedFrame)
  | shared (frame : SharedFrameView)
  | sharedIndexed (frame : SharedIndexedFrameView)

/-- How a `submit` call ends. -/
inductive Outcome where
  /-- `true`, after `FrameDropped` has been emitted for the frame that was replaced. -/
  | accepted (dropped : Option FrameMetadata)
  | refused
  /-- A `bad_alloc` left the call. -/
  | threw

def Outcome.isAccepted : Outcome → Bool
  | accepted _ => true
  | _ => false

/-- What the worker passes to the engine, and what keeps it alive meanwhile. -/
structure Handed where
  frame : Frame
  /-- The indices are not looked at again. -/
  trusted : Bool
  lifetime : Option Lifetime

namespace Presenter

/-! ### The mailbox -/

/-- A frame waits for the worker. -/
def waiting (presenter : Presenter) : Bool :=
  presenter.pendingGeneration != presenter.consumedGeneration

def waitingMetadata (presenter : Presenter) : FrameMetadata :=
  match presenter.pendingKind with
  | .packed => presenter.pendingFrame.metadata
  | .indexed => presenter.pendingIndexedFrame.metadata

def countReplaced (presenter : Presenter) : Presenter :=
  if presenter.waiting then
    { presenter with
      statistics.replacedFrames := presenter.statistics.replacedFrames + 1 }
  else presenter

/-- Damage of a frame of this size can be added to what waits. -/
def compatibleDamage (presenter : Presenter) (width height : Int) : Bool :=
  !presenter.waiting ||
    match presenter.pendingKind with
    | .packed =>
        presenter.pendingFrame.width == width && presenter.pendingFrame.height == height
    | .indexed =>
        presenter.pendingIndexedFrame.width == width &&
          presenter.pendingIndexedFrame.height == height

def rejectLocked (presenter : Presenter) (code : ErrorCode) (message : String) : Presenter :=
  { presenter with
    statistics.rejectedFrames := presenter.statistics.rejectedFrames + 1
    latestStatus := ⟨code, message⟩ }

def allocationFailure (presenter : Presenter) : Presenter :=
  presenter.rejectLocked .outOfMemory "Out of memory."

/-- What a region has done when it ends, or when an allocation throws. -/
abbrev Region := Except Presenter Presenter

/-- `pending.resize`, and the row copies into it. -/
def storePixels (presenter : Presenter) (heap : Heap) (pixels : List UInt8) : Region :=
  if heap.fails .pixels then .error presenter else .ok { presenter with pending := pixels }

def assignPalette (presenter : Presenter) (heap : Heap) (colors : List RgbColor) : Region :=
  if heap.fails .palette then .error { presenter with pendingPalette := heap.leftPalette }
  else .ok { presenter with pendingPalette := colors }

/-- The damage list before the new rectangles go in. -/
def startDamage (presenter : Presenter) (source : DamageView) (replaced compatible : Bool) :
    Presenter :=
  if !replaced then
    { presenter with pendingDamage := [], pendingDamageSupplied := source.supplied }
  else if !compatible || !presenter.pendingDamageSupplied || !source.supplied then
    { presenter with pendingDamage := [], pendingDamageSupplied := false }
  else presenter

def mergePendingDamage (presenter : Presenter) (heap : Heap) (source : DamageView)
    (replaced compatible : Bool) : Region :=
  let started := presenter.startDamage source replaced compatible
  if started.pendingDamageSupplied && source.count > 0 then
    if heap.fails .damage then .error started
    else .ok { started with pendingDamage := started.pendingDamage ++ source.rects }
  else .ok started

/-- The damage a frame descriptor is left with. -/
def mergedDamage (presenter : Presenter) : DamageView :=
  DamageView.ofList presenter.pendingDamage presenter.pendingDamageSupplied

def acceptLocked (presenter : Presenter) : Presenter :=
  { presenter with
    pendingGeneration := presenter.pendingGeneration + 1
    statistics.submittedFrames := presenter.statistics.submittedFrames + 1
    latestStatus := {} }

/-! ### Submissions -/

/-- The region of `submit(FrameView)`. -/
def copyPacked (presenter : Presenter) (heap : Heap) (frame : FrameView) : Region := do
  let rowBytes := frame.width.toNat * bytesPerPixel frame.format
  let replaced := presenter.waiting
  let compatible := presenter.compatibleDamage frame.width frame.height
  let stored ← presenter.countReplaced.storePixels heap
    (packRows frame.bytes frame.stride.toNat rowBytes frame.height.toNat)
  let described :=
    { stored with
      pendingFrame :=
        { data := dataOf false stored.pending
          width := frame.width
          height := frame.height
          stride := rowBytes
          format := frame.format
          metadata := frame.metadata } }
  let merged ← described.mergePendingDamage heap frame.metadata.damage replaced compatible
  return acceptLocked
    { merged with
      pendingFrame.metadata.damage := merged.mergedDamage
      pendingKind := .packed
      pendingPalette := []
      pendingLifetime := none }

/-- The region of `submit(IndexedFrameView)`. -/
def copyIndexed (presenter : Presenter) (heap : Heap) (frame : IndexedFrameView) : Region := do
  let rowBytes := frame.width.toNat
  let replaced := presenter.waiting
  let compatible := presenter.compatibleDamage frame.width frame.height
  let stored ← presenter.countReplaced.storePixels heap
    (packRows frame.bytes frame.stride.toNat rowBytes frame.height.toNat)
  let colored ← stored.assignPalette heap frame.palette.entries
  let described :=
    { colored with
      pendingIndexedFrame :=
        { indices := dataOf false colored.pending
          width := frame.width
          height := frame.height
          stride := rowBytes
          palette := PaletteView.ofList colored.pendingPalette
          metadata := frame.metadata } }
  let merged ← described.mergePendingDamage heap frame.metadata.damage replaced compatible
  return acceptLocked
    { merged with
      pendingIndexedFrame.metadata.damage := merged.mergedDamage
      pendingKind := .indexed
      pendingIndexedTrusted := true
      pendingLifetime := none }

/-- The region of `submitShared(SharedFrameView)`. -/
def sharePacked (presenter : Presenter) (heap : Heap) (shared : SharedFrameView) : Region := do
  let replaced := presenter.waiting
  let compatible := presenter.compatibleDamage shared.frame.width shared.frame.height
  let described :=
    { presenter.countReplaced with
      pending := []
      pendingPalette := []
      pendingFrame := shared.frame }
  let merged ← described.mergePendingDamage heap shared.frame.metadata.damage replaced compatible
  return acceptLocked
    { merged with
      pendingFrame.metadata.damage := merged.mergedDamage
      pendingLifetime := shared.lifetime
      pendingKind := .packed }

/-- The region of `submitSharedIndexed`. -/
def shareIndexed (presenter : Presenter) (heap : Heap) (shared : SharedIndexedFrameView)
    (trusted : Bool) : Region := do
  let replaced := presenter.waiting
  let compatible := presenter.compatibleDamage shared.frame.width shared.frame.height
  let described :=
    { presenter.countReplaced with
      pending := []
      pendingPalette := []
      pendingIndexedFrame := shared.frame }
  let merged ← described.mergePendingDamage heap shared.frame.metadata.damage replaced compatible
  return acceptLocked
    { merged with
      pendingIndexedFrame.metadata.damage := merged.mergedDamage
      pendingLifetime := shared.lifetime
      pendingKind := .indexed
      pendingIndexedTrusted := trusted }

/-- The metadata of the frame that an accepted submission replaces. -/
def dropped (presenter : Presenter) : Option FrameMetadata :=
  if presenter.waiting then some presenter.waitingMetadata else none

/-- A submission that passed validation takes the mutex; `thrown` is what becomes of
a `bad_alloc`. -/
def enter (presenter : Presenter) (region : Region) (thrown : Presenter → Presenter × Outcome) :
    Presenter × Outcome :=
  if !presenter.running || presenter.stopping then
    (presenter.rejectLocked .presenterStopped "Presenter is not running.", .refused)
  else
    match region with
    | .ok next => (next, .accepted presenter.dropped)
    | .error left => thrown left

/-- The `catch` of the calls that copy. -/
def outOfMemory (presenter : Presenter) : Presenter × Outcome :=
  ({ presenter with latestStatus := ⟨.outOfMemory, "Out of memory."⟩ }, .refused)

/-- The `catch` of the calls that take ownership. -/
def caught (answer : Presenter × Outcome) : Presenter × Outcome :=
  match answer with
  | (left, .threw) => (left.allocationFailure, .refused)
  | other => other

def submitPacked (presenter : Presenter) (heap : Heap) (frame : FrameView) :
    Presenter × Outcome :=
  if !frame.isValid then
    (presenter.rejectLocked .invalidArgument "Packed frame validation failed.", .refused)
  else presenter.enter (presenter.copyPacked heap frame) outOfMemory

def submitIndexed (presenter : Presenter) (heap : Heap) (frame : IndexedFrameView) :
    Presenter × Outcome :=
  if !frame.hasValidIndices then
    (presenter.rejectLocked .invalidArgument "Indexed frame validation failed.", .refused)
  else presenter.enter (presenter.copyIndexed heap frame) outOfMemory

def submitShared (presenter : Presenter) (heap : Heap) (shared : SharedFrameView) :
    Presenter × Outcome :=
  if !shared.isValid then
    (presenter.rejectLocked .invalidArgument "Shared frame validation failed.", .refused)
  else presenter.enter (presenter.sharePacked heap shared) fun left => (left, .threw)

def submitSharedIndexed (presenter : Presenter) (heap : Heap) (shared : SharedIndexedFrameView)
    (trusted : Bool) : Presenter × Outcome :=
  let valid :=
    if trusted then shared.lifetime.isSome && shared.frame.isValid else shared.isValid
  if !valid then
    (presenter.rejectLocked .invalidArgument "Shared indexed frame validation failed.", .refused)
  else presenter.enter (presenter.shareIndexed heap shared trusted) fun left => (left, .threw)

def submitOwned (presenter : Presenter) (heap : Heap) (frame : OwnedFrame) :
    Presenter × Outcome :=
  if !frame.isValid then
    (presenter.rejectLocked .invalidArgument "Owned frame validation failed.", .refused)
  else if heap.fails .owner then (presenter.allocationFailure, .refused)
  else caught (presenter.submitShared heap ⟨frame.view, some (.owned frame)⟩)

def submitOwnedIndexed (presenter : Presenter) (heap : Heap) (frame : OwnedIndexedFrame) :
    Presenter × Outcome :=
  if !frame.isValid then
    (presenter.rejectLocked .invalidArgument "Owned indexed frame validation failed.", .refused)
  else if heap.fails .owner then (presenter.allocationFailure, .refused)
  else caught (presenter.submitSharedIndexed heap ⟨frame.view, some (.ownedIndexed frame)⟩ true)

/-- The overloads of `submit` and `submitShared`. -/
def submit (presenter : Presenter) (heap : Heap) : Submission → Presenter × Outcome
  | .packed frame => presenter.submitPacked heap frame
  | .indexed frame => presenter.submitIndexed heap frame
  | .owned frame => presenter.submitOwned heap frame
  | .ownedIndexed frame => presenter.submitOwnedIndexed heap frame
  | .shared shared => presenter.submitShared heap shared
  | .sharedIndexed shared => presenter.submitSharedIndexed heap shared false

/-! ### The worker's regions -/

/-- The damage of the frame the worker holds. -/
def renderingView (presenter : Presenter) : DamageView :=
  DamageView.ofList presenter.renderingDamage presenter.renderingDamageSupplied

/-- The two sides of the mailbox change places. -/
def swapBuffers (presenter : Presenter) : Presenter :=
  { presenter with
    rendering := presenter.pending
    pending := presenter.rendering
    renderingPalette := presenter.pendingPalette
    pendingPalette := presenter.renderingPalette
    renderingDamage := presenter.pendingDamage
    pendingDamage := presenter.renderingDamage
    renderingDamageSupplied := presenter.pendingDamageSupplied
    pendingDamageSupplied := presenter.renderingDamageSupplied
    renderingLifetime := presenter.pendingLifetime
    pendingLifetime := presenter.renderingLifetime
    renderingIndexedTrusted := presenter.pendingIndexedTrusted }

/-- The views built after the swap. -/
def handedFrame (swapped : Presenter) : Frame :=
  match swapped.pendingKind with
  | .packed =>
      let frame := swapped.pendingFrame
      .packed
        { frame with
          data := if swapped.renderingLifetime.isNone then dataOf false swapped.rendering
            else frame.data
          metadata := { frame.metadata with damage := swapped.renderingView } }
  | .indexed =>
      let frame := swapped.pendingIndexedFrame
      .indexed
        { frame with
          indices := if swapped.renderingLifetime.isNone then dataOf false swapped.rendering
            else frame.indices
          palette := if swapped.renderingLifetime.isNone then
              PaletteView.ofList swapped.renderingPalette
            else frame.palette
          metadata := { frame.metadata with damage := swapped.renderingView } }

def consume (presenter : Presenter) : Presenter × Handed :=
  let swapped := presenter.swapBuffers
  ({ swapped with
      consumedGeneration := presenter.pendingGeneration
      renderingActive := true },
    { frame := swapped.handedFrame
      trusted := swapped.pendingKind = .indexed && swapped.renderingIndexedTrusted
      lifetime := swapped.renderingLifetime })

/-- `engineStatus` is asked for after a failure. -/
def finish (presenter : Presenter) (rendered : RenderStats) (engineStatus : Status) :
    Presenter :=
  let recorded := { presenter with statistics.latestRender := rendered }
  let counted :=
    if rendered.error ≠ .none then
      { recorded with
        latestStatus := engineStatus
        statistics.failedFrames := recorded.statistics.failedFrames + 1 }
    else if rendered.rendered then
      { recorded with
        latestStatus := {}
        statistics.presentedFrames := recorded.statistics.presentedFrames + 1 }
    else
      { recorded with
        latestStatus := {}
        statistics.unchangedFrames := recorded.statistics.unchangedFrames + 1 }
  { counted with renderingActive := false }

/-! ### The other calls -/

def invalidate (presenter : Presenter) : Presenter × Bool :=
  if !presenter.running || presenter.stopping then
    (presenter.rejectLocked .presenterStopped "Presenter is not running.", false)
  else ({ presenter with resetRequested := true, latestStatus := {} }, true)

/-- The predicate of `waitUntilIdle`. -/
def isIdle (presenter : Presenter) : Bool :=
  !presenter.waiting && !presenter.renderingActive && !presenter.resetRequested

/-- `waitUntilIdle` up to its wait, which it reaches with `none`. -/
def beginWait (presenter : Presenter) (fromWorker : Bool) (timeout : Int) : Option Status :=
  if fromWorker then
    some ⟨.invalidArgument, "Presenter drain is forbidden from a worker callback."⟩
  else if !presenter.running || presenter.stopping then
    some ⟨.presenterStopped, "Presenter is not running."⟩
  else if timeout < 0 then
    some ⟨.invalidArgument, "Presenter drain timeout must not be negative."⟩
  else none

/-- The wait ends when the predicate holds, or with the timeout. -/
def endWait (presenter : Presenter) : Presenter × Bool :=
  ({ presenter with
      latestStatus := if presenter.isIdle then {} else
        ⟨.timedOut, "Presenter did not become idle before the timeout."⟩ },
    presenter.isIdle)

/-- `shutdown` called by the worker itself. -/
def refuseShutdown (presenter : Presenter) : Presenter :=
  { presenter with
    stopping := true
    latestStatus :=
      ⟨.invalidArgument, "Presenter shutdown is forbidden from a worker callback."⟩ }

/-- The first region of `shutdown`. -/
def beginShutdown (presenter : Presenter) : Presenter :=
  if presenter.running then
    if presenter.waiting then
      { presenter with
        statistics.cancelledFrames := presenter.statistics.cancelledFrames + 1
        consumedGeneration := presenter.pendingGeneration
        stopping := true }
    else { presenter with stopping := true }
  else presenter

/-- The second region of `shutdown`, after the worker has been joined. -/
def endShutdown (presenter : Presenter) : Presenter :=
  { presenter with
    running := false
    stopping := false
    pendingGeneration := 0
    consumedGeneration := 0
    pending := []
    rendering := []
    pendingPalette := []
    renderingPalette := []
    pendingDamage := []
    renderingDamage := []
    pendingDamageSupplied := false
    renderingDamageSupplied := false
    pendingLifetime := none
    renderingLifetime := none
    renderingActive := false
    resetRequested := false }

/-- `initialize` once its `shutdown` is done; `engineStatus` is the engine's answer and
`threadStatus` what starting the worker led to. -/
def initializeWith (presenter : Presenter) (requestedOptions : PresenterOptions)
    (engineStatus threadStatus : Status) : Presenter × Status :=
  if !requestedOptions.isValid then
    let status : Status := ⟨.invalidArgument, "Presenter frame rate limit is invalid."⟩
    ({ presenter with latestStatus := status }, status)
  else if engineStatus.code ≠ .none then
    ({ presenter with latestStatus := engineStatus }, engineStatus)
  else
    let started :=
      { presenter with
        options := requestedOptions
        statistics := {}
        pendingGeneration := 0
        consumedGeneration := 0
        stopping := false
        running := true
        renderingActive := false
        resetRequested := false }
    if threadStatus.code ≠ .none then
      ({ started with running := false, latestStatus := threadStatus }, threadStatus)
    else ({ started with latestStatus := {} }, {})

end Presenter

end Rasterm
