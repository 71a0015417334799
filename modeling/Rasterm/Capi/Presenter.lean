import Rasterm.Capi.Frames
import Rasterm.Library.Staging
import Rasterm.Presenter.Worker

/-!
Contract: `rasterm_presenter_submit` and `rasterm_presenter_submit_indexed` on one handle,
called by any number of threads.

Owns the handle with its staging vectors, a call cut into the copy of its damage list, the
copy of its palette, its call to `Presenter::submit` and its conclusion, and every order of
these steps and of the Presenter's own.

Does not own calls on a null handle. Messages are copied without fail.
-/

set_option autoImplicit false

universe u v

namespace Rasterm.Capi

open Rasterm (System)

structure RastermPresenter (Device : Type u) where
  presenter : System Device
  damage : Staging DamageRect := {}
  palette : Staging RgbColor := {}
  lastError : String := ""

/-- The argument of a call. -/
inductive Request where
  | packed (frame : Option RastermFrame)
  | indexed (frame : Option RastermIndexedFrame)

/-- A frame past the checks that come before the copies. -/
inductive CallFrame where
  | packed (frame : RastermFrame)
  | indexed (frame : RastermIndexedFrame)

def Request.check : Request → Except Answer CallFrame
  | packed frame => (checkFrame frame).map .packed
  | indexed frame => (checkIndexedFrame frame).map .indexed

namespace CallFrame

def metadata : CallFrame → RastermFrameMetadata
  | packed frame => frame.metadata
  | indexed frame => frame.metadata

/-- The damage rectangles passed in the call. -/
def rects (frame : CallFrame) : List DamageRect := frame.metadata.rects

/-- The palette entries passed in the call. -/
def colors : CallFrame → List RgbColor
  | packed _ => []
  | indexed frame => frame.colors

def invalidMetadata : CallFrame → Answer
  | packed _ => failure .invalidArgument "Packed frame metadata is invalid."
  | indexed _ => failure .invalidArgument "Indexed frame metadata is invalid."

/-- The `catch` of a `bad_alloc`. -/
def outOfMemory : CallFrame → Answer
  | packed _ =>
      failure .outOfMemory "rasterm could not allocate Presenter frame resources."
  | indexed _ =>
      failure .outOfMemory "rasterm could not allocate indexed Presenter resources."

/-- The text for a refusal that the Presenter's status does not explain. -/
def unexplained : CallFrame → String
  | packed _ => "The Presenter rejected an invalid frame or is not running."
  | indexed _ => "The Presenter rejected an invalid indexed frame or is not running."

end CallFrame

/-! ### The copies -/

/-- Metadata of the C++ interface, its damage list left in the handle's vector. -/
structure StagedMetadata where
  /-- All but the damage. -/
  metadata : FrameMetadata
  /-- What `damage.data()` pointed into, if the vector was not empty. -/
  storage : Nat
  count : Nat
  supplied : Bool

inductive Copied where
  | refused
  | threw
  | copied (staged : StagedMetadata)

/-- The metadata over the filled vector. -/
def StagedMetadata.filled (filled : Staging DamageRect) (source : RastermFrameMetadata) :
    StagedMetadata where
  metadata :=
    { frameId := source.frameId
      timestampNanoseconds := source.timestampNanoseconds
      color := color source.color
      sourceColor := color source.sourceColor }
  storage := filled.storage
  count := filled.elements.length
  supplied := source.damageSupplied != 0

/-- `full` lets `reserve` fail where it has to allocate. -/
def copyMetadata (damage : Staging DamageRect) (full : Bool) (source : RastermFrameMetadata) :
    Staging DamageRect × Copied :=
  if !validMetadata source then (damage, .refused)
  else if full && !damage.hasRoom source.damageCount then (damage.clear, .threw)
  else
    let filled := damage.fill source.rects
    (filled, .copied (.filled filled source))

/-- The copy of the palette, and whether it succeeded. -/
def copyPalette (palette : Staging RgbColor) (full : Bool) (frame : RastermIndexedFrame) :
    Staging RgbColor × Bool :=
  if full && !palette.hasRoom frame.paletteSize then (palette.clear, false)
  else (palette.fill frame.colors, true)

/-- What the Presenter sees through the pointer, as the vector is then. -/
def StagedMetadata.view (staged : StagedMetadata) (damage : Staging DamageRect)
    (stray : Nat → DamageRect) : FrameMetadata :=
  { staged.metadata with
    damage :=
      { rectangles :=
          if staged.count = 0 then none else some (damage.read staged.storage stray)
        count := staged.count
        supplied := staged.supplied } }

/-! ### A call, step by step -/

/-- Where a call is. -/
inductive Stage where
  | damageCopied (frame : CallFrame) (staged : StagedMetadata)
  | paletteCopied (frame : RastermIndexedFrame) (staged : StagedMetadata)
  | submitted (frame : CallFrame) (accepted : Bool)
  | returned (answer : Answer)

section Steps

variable {Device : Type u}

/-- From the start of a call to the end of `copyMetadata`. -/
def begin (handle : RastermPresenter Device) (full : Bool) (frame : CallFrame) :
    RastermPresenter Device × Stage :=
  let copied := copyMetadata handle.damage full frame.metadata
  ({ handle with damage := copied.1 },
    match copied.2 with
    | .refused => .returned frame.invalidMetadata
    | .threw => .returned frame.outOfMemory
    | .copied staged => .damageCopied frame staged)

/-- The argument of `Presenter::submit`, for a call that has come so far. -/
def submission (handle : RastermPresenter Device) (stray : Nat → DamageRect) :
    Stage → Option (CallFrame × Submission)
  | .damageCopied (.packed frame) staged =>
      some
        (.packed frame,
          .packed
            { data := frame.data
              width := frame.width
              height := frame.height
              stride := frame.stride
              format := pixelFormat frame.format
              metadata := staged.view handle.damage stray })
  | .paletteCopied frame staged =>
      some
        (.indexed frame,
          .indexed
            { indices := frame.indices
              width := frame.width
              height := frame.height
              stride := frame.stride
              palette := PaletteView.ofList handle.palette.elements
              metadata := staged.view handle.damage stray })
  | _ => none

/-- From the return of `Presenter::submit` to the return of the call. -/
def conclude (handle : RastermPresenter Device) (frame : CallFrame) (accepted : Bool) :
    RastermPresenter Device × Answer :=
  if !accepted then
    let status := handle.presenter.presenter.latestStatus
    let code := if status.code = .none then .invalidArgument else result status.code
    let lastError := if status.message.isEmpty then frame.unexplained else status.message
    ({ handle with lastError := lastError }, failure code lastError)
  else ({ handle with lastError := "" }, succeeded)

end Steps

/-! ### Any order of steps -/

/-- What is remembered of the calls. -/
inductive Entry where
  | damageCopied (call : Nat) (rects : List DamageRect)
  | paletteCopied (call : Nat) (colors : List RgbColor)
  /-- With the Presenter's state around the step. -/
  | accepted (call : Nat) (frame : CallFrame) (before after : Presenter)

structure Threads (Device : Type u) where
  handle : RastermPresenter Device
  /-- Every call ever made, by its number. -/
  calls : List Stage := []
  /-- Newest first. -/
  log : List Entry := []

inductive Label (Input : Type v) where
  | copyDamage (request : Request) (full : Bool)
  | copyPalette (call : Nat) (full : Bool)
  | submit (call : Nat) (heap : Heap) (stray : Nat → DamageRect)
  | conclude (call : Nat)
  /-- Any step of the Presenter but a submission. -/
  | present (label : Rasterm.Label Input)

/-- A handle on which nothing has been called. -/
def opened {Device : Type u} (presenter : System Device) (lastError : String) : Threads Device where
  handle := { presenter := presenter, lastError := lastError }

namespace Threads

variable {Device : Type u} {Input : Type v}

def step (calls : EngineCalls Device Input) (label : Label Input) (threads : Threads Device) :
    Option (Threads Device) :=
  match label with
  | .copyDamage request full =>
      match request.check with
      | .error answer => some { threads with calls := threads.calls ++ [.returned answer] }
      | .ok frame =>
          let begun := begin threads.handle full frame
          some
            { handle := begun.1
              calls := threads.calls ++ [begun.2]
              log :=
                if validMetadata frame.metadata then
                  .damageCopied threads.calls.length begun.1.damage.elements :: threads.log
                else threads.log }
  | .copyPalette call full =>
      match threads.calls[call]? with
      | some (.damageCopied (.indexed frame) staged) =>
          let copied := copyPalette threads.handle.palette full frame
          some
            { handle := { threads.handle with palette := copied.1 }
              calls := threads.calls.set call
                (if copied.2 then .paletteCopied frame staged
                else .returned (CallFrame.indexed frame).outOfMemory)
              log := .paletteCopied call copied.1.elements :: threads.log }
      | _ => none
  | .submit call heap stray =>
      match threads.calls[call]?.bind (submission threads.handle stray) with
      | some (frame, passed) =>
          let presenter := threads.handle.presenter
          let accepted := (presenter.presenter.submit heap passed).2.isAccepted
          (presenter.step calls (.submit heap passed)).map fun next =>
            { handle := { threads.handle with presenter := next }
              calls := threads.calls.set call (.submitted frame accepted)
              log :=
                if accepted then
                  .accepted call frame presenter.presenter next.presenter :: threads.log
                else threads.log }
      | none => none
  | .conclude call =>
      match threads.calls[call]? with
      | some (.submitted frame accepted) =>
          let concluded := conclude threads.handle frame accepted
          some
            { threads with
              handle := concluded.1
              calls := threads.calls.set call (.returned concluded.2) }
      | _ => none
  | .present (.submit _ _) => none
  | .present label =>
      (threads.handle.presenter.step calls label).map fun next =>
        { threads with handle.presenter := next }

end Threads

end Rasterm.Capi
