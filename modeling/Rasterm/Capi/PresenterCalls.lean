import Rasterm.Capi.Engine

/-!
Contract: the C functions on a Presenter handle, called by one thread after the other.

Owns the order in which a call asks C++ for its answer and for the status, with what the
worker does in between, and the message each way out leaves.

Does not own what is written into a caller's statistics.
-/

set_option autoImplicit false

universe u v

namespace Rasterm.Capi

open Rasterm (System)

variable {Device : Type u} {Input : Type v}

namespace RastermPresenter

/-- The Presenter goes on by itself. -/
def elapse (object : EngineObject Device Input) (labels : List (Rasterm.Label Input))
    (handle : RastermPresenter Device) : Option (RastermPresenter Device) :=
  (Transition.exec (System.step object.toEngineCalls) labels handle.presenter).map fun next =>
    { handle with presenter := next }

/-- One call into C++. -/
def enter (object : EngineObject Device Input) (label : Rasterm.Label Input)
    (handle : RastermPresenter Device) : Option (RastermPresenter Device) :=
  (handle.presenter.step object.toEngineCalls label).map fun next =>
    { handle with presenter := next }

end RastermPresenter

/-- `given` says that `output_presenter` is not null. -/
def rastermPresenterCreate (object : EngineObject Device Input) (around : Circumstances Input)
    (requested : Option RastermPresenterOptions) (given : Bool) :
    Option (RastermPresenter Device) × Answer :=
  if !given then (none, failure .invalidArgument "output_presenter must not be null.")
  else
    match checkPresenterOptions requested with
    | .error answer => (none, answer)
    | .ok options =>
        let caught := Thrown.answer "rasterm could not allocate a Presenter handle."
          (failure .presenterThreadStartFailed
            "Unexpected exception while creating a Presenter.")
        match around.thrown with
        | some thrown => (none, caught thrown)
        | none =>
            let (engine, engineStatus) := object.start around.input options.engine
            let (presenter, initialized) := ({} : Presenter).endShutdown.initializeWith
              { maximumFramesPerSecond := options.maximumFramesPerSecond }
              engineStatus around.threadStatus
            if around.failsToCopy initialized.message then (none, caught .badAlloc)
            else
              (some
                  { presenter :=
                      { presenter := presenter
                        device := engine
                        phase := if initialized.code = .none then .waiting else .exited }
                    damage := .empty
                    palette := .empty
                    lastError := initialized.message },
                concluded (result initialized.code) initialized.message)

/-- The ends of a drain and of an invalidation. `unexpected` is the only `catch`. -/
def reportDone (around : Circumstances Input) (handle : RastermPresenter Device) (done : Bool)
    (unexpected : Answer) : RastermPresenter Device × Answer :=
  if done then ({ handle with lastError := "" }, succeeded)
  else
    let status := handle.presenter.presenter.latestStatus
    if around.failsToCopy status.message then (handle, unexpected)
    else
      ({ handle with lastError := status.message }, failure (result status.code) status.message)

def rastermPresenterWaitUntilIdle (object : EngineObject Device Input)
    (around : Circumstances Input) (handle : RastermPresenter Device) (timeout : Nat) :
    Option (RastermPresenter Device × Answer) :=
  let unexpected :=
    failure .renderingException "Unexpected exception while draining Presenter."
  match around.thrown with
  | some _ => some (handle, unexpected)
  | none => do
      let entered ← handle.enter object (.waitUntilIdle false timeout)
      if (handle.presenter.presenter.beginWait false timeout).isSome then
        let later ← entered.elapse object around.after
        return reportDone around later false unexpected
      else
        let waited ← entered.elapse object around.during
        let ended ← waited.enter object .endWait
        let later ← ended.elapse object around.after
        return reportDone around later waited.presenter.presenter.endWait.2 unexpected

def rastermPresenterInvalidate (object : EngineObject Device Input)
    (around : Circumstances Input) (handle : RastermPresenter Device) :
    Option (RastermPresenter Device × Answer) :=
  let unexpected :=
    failure .renderingException "Unexpected exception while invalidating Presenter."
  match around.thrown with
  | some _ => some (handle, unexpected)
  | none => do
      let entered ← handle.enter object .invalidate
      let later ← entered.elapse object around.after
      return reportDone around later handle.presenter.presenter.invalidate.2 unexpected

/-- The last `catch` of a submission. -/
def CallFrame.unexpected : CallFrame → Answer
  | packed _ => failure .renderingException "Unexpected exception while submitting a frame."
  | indexed _ =>
      failure .renderingException "Unexpected exception while submitting an indexed frame."

/-- Both copies of a submission. -/
def copies (around : Circumstances Input) (handle : RastermPresenter Device) (frame : CallFrame) :
    RastermPresenter Device × Stage :=
  let begun := begin handle around.damageFull frame
  match begun.2 with
  | .damageCopied (.indexed frame) staged =>
      let copied := copyPalette begun.1.palette around.paletteFull frame
      ({ begun.1 with palette := copied.1 },
        if copied.2 then .paletteCopied frame staged
        else .returned (CallFrame.indexed frame).outOfMemory)
  | stage => (begun.1, stage)

/-- From the call of `Presenter::submit` on. -/
def submitStaged (object : EngineObject Device Input) (around : Circumstances Input)
    (handle : RastermPresenter Device) (frame : CallFrame) (passed : Submission) :
    Option (RastermPresenter Device × Answer) :=
  match around.thrown with
  | some .badAlloc => some (handle, frame.outOfMemory)
  | some .other => some (handle, frame.unexpected)
  | none => do
      let accepted := (handle.presenter.presenter.submit around.heap passed).2.isAccepted
      let entered ← handle.enter object (.submit around.heap passed)
      let later ← entered.elapse object around.after
      if !accepted && around.messageFull then return (later, frame.outOfMemory)
      else return conclude later frame accepted

/-- `rasterm_presenter_submit` and `rasterm_presenter_submit_indexed`. -/
def rastermPresenterSubmit (object : EngineObject Device Input) (around : Circumstances Input)
    (handle : RastermPresenter Device) (request : Request) :
    Option (RastermPresenter Device × Answer) :=
  match request.check with
  | .error answer => some (handle, answer)
  | .ok frame =>
      match copies around handle frame with
      | (staged, .returned answer) => some (staged, answer)
      | (staged, stage) =>
          (submission staged around.stray stage).bind fun (frame, passed) =>
            submitStaged object around staged frame passed

/-- The sizes of the structure and of the one in it. -/
def rastermPresenterGetStats (stats : Option (Nat × Nat)) : Answer :=
  match stats with
  | none => failure .invalidArgument "presenter and stats must not be null."
  | some (structSize, latestRender) =>
      if structSize < rastermPresenterStatsV1Size || latestRender < rastermRenderStatsV1Size then
        failure .bufferTooSmall "A Presenter stats structure is smaller than its v1 prefix."
      else succeeded

/-- What `rasterm_presenter_last_error` copies: the message of the thread replaces that of
the handle, and that of the handle the Presenter's. -/
def RastermPresenter.lastMessage (handle : RastermPresenter Device)
    (globalLastError : ErrorBuffer) : List UInt8 :=
  let message :=
    if handle.lastError.isEmpty then handle.presenter.presenter.latestStatus.message
    else handle.lastError
  if !globalLastError.isEmpty then globalLastError.text else messageBytes message

/-! ### Any call -/

inductive PresenterCall where
  | waitUntilIdle (timeout : Nat)
  | invalidate
  | submit (request : Request)
  | getStats (stats : Option (Nat × Nat))

/-- What a call on a null handle answers. -/
def PresenterCall.onNull : PresenterCall → Answer
  | waitUntilIdle _ => failure .invalidArgument "presenter must not be null."
  | invalidate => failure .invalidArgument "presenter must not be null."
  | submit (.packed _) => failure .invalidArgument "presenter and frame must not be null."
  | submit (.indexed _) =>
      failure .invalidArgument "presenter and indexed frame must not be null."
  | getStats _ => failure .invalidArgument "presenter and stats must not be null."

def PresenterCall.perform (object : EngineObject Device Input) (around : Circumstances Input)
    (handle : RastermPresenter Device) :
    PresenterCall → Option (RastermPresenter Device × Answer)
  | waitUntilIdle timeout => rastermPresenterWaitUntilIdle object around handle timeout
  | invalidate => rastermPresenterInvalidate object around handle
  | submit request => rastermPresenterSubmit object around handle request
  | getStats stats => some (handle, rastermPresenterGetStats stats)

end Rasterm.Capi
