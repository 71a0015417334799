import Rasterm.Capi.LastError

/-!
Contract: programs of the Rust or the Python binding: objects that are made, called and closed in
any order, over the handles of the C interface.

Owns the objects with their handles, each operation with every C call it makes and the error it
raises, that a handle belongs to one object for as long as it is live and to none before or after,
and that an error is that of the call that failed.

Does not own objects shared between threads, or the check of the C API version.
-/

set_option autoImplicit false

universe u v

namespace Rasterm.Bindings

open Capi

/-! ### Messages -/

/-- `read_error`, and `error_message`: the size is asked for, then the text. -/
def readError (query : Option Nat → ErrorCopy) : List UInt8 :=
  let required := (query none).requiredSize
  if required = 0 then messageBytes "rasterm reported an error without a diagnostic"
  else ((query (some required)).written.getD (List.replicate required 0)).takeWhile (· ≠ 0)

/-- Both queries together give the text before its first zero byte. -/
theorem readError_copyError (text : List UInt8) :
    readError (copyError text) = text.takeWhile (· ≠ 0) := by
  have asked : (copyError text none).requiredSize = text.length + 1 := rfl
  unfold readError
  rw [asked, if_neg (Nat.succ_ne_zero _), ← asked, copyError_requiredSize]
  dsimp only
  rw [Option.getD_some, List.takeWhile_append]
  split_ifs with whole
  · have all : text.takeWhile (· ≠ 0) = text := (List.takeWhile_prefix _).eq_of_length whole
    rw [all]
    simp
  · rfl

theorem takeWhile_of_errorText {message : String} (empty : errorText message = []) :
    (messageBytes message).takeWhile (· ≠ 0) = [] := by
  unfold errorText CString.cut at empty
  cases bytes : messageBytes message with
  | nil => rfl
  | cons first rest =>
      rw [bytes, show errorCapacity - 1 = 510 + 1 from rfl, List.take_succ_cons] at empty
      by_cases zero : first = 0
      · simp [zero]
      · simp [zero] at empty

theorem takeWhile_errorText (message : String) :
    (errorText message).takeWhile (· ≠ 0) = errorText message := by
  unfold errorText CString.cut
  rw [List.takeWhile_takeWhile]
  simp

/-! ### What a call leaves -/

/-- If a call failed without a message for its thread, its handle has none either. -/
def Explained (answer : Answer) (own : List UInt8) : Prop :=
  answer.code ≠ .success → errorText answer.globalLastError = [] → own.takeWhile (· ≠ 0) = []

theorem explained_succeeded (own : List UInt8) : Explained succeeded own :=
  fun failed => absurd rfl failed

theorem explained_failure {message : String} (said : errorText message ≠ []) (code : RastermResult)
    (own : List UInt8) : Explained (failure code message) own :=
  fun _ empty => absurd empty said

theorem explained_same (code : RastermResult) (message : String) :
    Explained (failure code message) (messageBytes message) :=
  fun _ empty => takeWhile_of_errorText empty

theorem explained_concluded (code : RastermResult) (message : String) :
    Explained (concluded code message) (messageBytes message) := by
  unfold concluded
  split_ifs
  · exact explained_succeeded _
  · exact explained_same code message

theorem explained_thrown {outOfMemory unexpected : String} (saidMemory : errorText outOfMemory ≠ [])
    (said : errorText unexpected ≠ []) (code : RastermResult) (thrown : Thrown)
    (own : List UInt8) : Explained (thrown.answer outOfMemory (failure code unexpected)) own := by
  cases thrown with
  | badAlloc => exact explained_failure saidMemory _ own
  | other => exact explained_failure said code own

section Calls

variable {Device : Type u} {Input : Type v}

theorem explained_staged {object : EngineObject Device Input} {around : Circumstances Input}
    {engine : RastermEngine Device} {frame : Rasterm.Frame} {caught : Thrown → Answer}
    (explains : ∀ thrown own, Explained (caught thrown) own) :
    Explained (renderStaged object around engine frame caught).2
      (messageBytes (renderStaged object around engine frame caught).1.lastError) := by
  unfold renderStaged
  cases around.thrown with
  | some thrown => exact explains thrown _
  | none =>
      dsimp only
      split_ifs
      · exact explained_succeeded _
      · exact explains .badAlloc _
      · exact explained_concluded _ _

theorem explained_render {object : EngineObject Device Input} {around : Circumstances Input}
    {engine : RastermEngine Device} (frame : Option RastermFrame) (stats : Option Nat) :
    Explained (rastermEngineRender object around engine frame stats).2
      (messageBytes (rastermEngineRender object around engine frame stats).1.lastError) := by
  have explains : ∀ thrown own, Explained (Thrown.answer
      "rasterm could not allocate packed-frame resources."
      (failure .renderingException "Unexpected exception while rendering a packed frame.")
      thrown) own :=
    explained_thrown (by decide) (by decide) _
  unfold rastermEngineRender
  cases frame with
  | none => exact explained_failure (by decide) _ _
  | some frame =>
      dsimp only
      split_ifs
      · exact explained_failure (by decide) _ _
      · exact explained_failure (by decide) _ _
      · split
        · exact explained_failure (by decide) _ _
        · exact explains .badAlloc _
        · exact explained_staged explains

theorem explained_renderIndexed {object : EngineObject Device Input}
    {around : Circumstances Input} {engine : RastermEngine Device}
    (frame : Option RastermIndexedFrame) (stats : Option Nat) :
    Explained (rastermEngineRenderIndexed object around engine frame stats).2
      (messageBytes (rastermEngineRenderIndexed object around engine frame stats).1.lastError) := by
  have explains : ∀ thrown own, Explained (Thrown.answer
      "rasterm could not allocate indexed frame resources."
      (failure .renderingException "Unexpected exception while rendering an indexed frame.")
      thrown) own :=
    explained_thrown (by decide) (by decide) _
  unfold rastermEngineRenderIndexed
  cases frame with
  | none => exact explained_failure (by decide) _ _
  | some frame =>
      dsimp only
      split_ifs
      · exact explained_failure (by decide) _ _
      · exact explained_failure (by decide) _ _
      · split
        · exact explained_failure (by decide) _ _
        · exact explains .badAlloc _
        · exact explains .badAlloc _
      · split
        · exact explained_failure (by decide) _ _
        · exact explains .badAlloc _
        · exact explained_staged explains

theorem explained_engine {object : EngineObject Device Input} {around : Circumstances Input}
    {engine : RastermEngine Device} (call : EngineCall) :
    Explained (call.perform object around engine).2
      (messageBytes (call.perform object around engine).1.lastError) := by
  cases call with
  | render frame stats => exact explained_render frame stats
  | renderIndexed frame stats => exact explained_renderIndexed frame stats
  | clear =>
      change Explained (rastermEngineClear object around engine).2
        (messageBytes (rastermEngineClear object around engine).1.lastError)
      unfold rastermEngineClear
      cases around.thrown with
      | some thrown => exact explained_thrown (by decide) (by decide) _ thrown _
      | none =>
          dsimp only
          split_ifs
          · exact explained_failure (by decide) _ _
          · exact explained_concluded _ _
  | reset =>
      change Explained (rastermEngineReset object around engine).2
        (messageBytes (rastermEngineReset object around engine).1.lastError)
      unfold rastermEngineReset
      cases around.thrown with
      | some thrown => exact explained_thrown (by decide) (by decide) _ thrown _
      | none => exact explained_succeeded _
  | getStats stats =>
      change Explained (rastermEngineGetStats stats) _
      unfold rastermEngineGetStats
      cases stats with
      | none => exact explained_failure (by decide) _ _
      | some structSize =>
          dsimp only
          split_ifs
          · exact explained_failure (by decide) _ _
          · exact explained_succeeded _
  | getCapabilities capabilities =>
      change Explained (rastermEngineGetCapabilities capabilities) _
      unfold rastermEngineGetCapabilities
      cases capabilities with
      | none => exact explained_failure (by decide) _ _
      | some structSize =>
          dsimp only
          split_ifs
          · exact explained_failure (by decide) _ _
          · exact explained_succeeded _

/-- The message of a Presenter handle, without that of the thread. -/
def presenterMessage (handle : RastermPresenter Device) : List UInt8 :=
  messageBytes (if handle.lastError.isEmpty then handle.presenter.presenter.latestStatus.message
    else handle.lastError)

/-- Where the message of the handle is empty, so is the Presenter's. -/
theorem explained_own {handle : RastermPresenter Device} {code : RastermResult} {message : String}
    (kept : handle.lastError = message)
    (own : message.isEmpty = true → handle.presenter.presenter.latestStatus.message = message) :
    Explained (failure code message) (presenterMessage handle) := by
  unfold presenterMessage
  rw [kept]
  split_ifs with empty
  · rw [own empty]
    exact explained_same code _
  · exact explained_same code _

theorem isEmpty_unexplained (frame : CallFrame) : frame.unexplained.isEmpty = false := by
  have packed : String.isEmpty "The Presenter rejected an invalid frame or is not running." =
      false := by
    decide +kernel
  have indexed :
      String.isEmpty "The Presenter rejected an invalid indexed frame or is not running." =
        false := by
    decide +kernel
  cases frame with
  | packed frame => exact packed
  | indexed frame => exact indexed

theorem explained_conclude (handle : RastermPresenter Device) (frame : CallFrame)
    (accepted : Bool) :
    Explained (conclude handle frame accepted).2
      (presenterMessage (conclude handle frame accepted).1) := by
  unfold conclude
  by_cases refused : (!accepted) = true
  · rw [if_pos refused]
    refine explained_own rfl fun empty => ?_
    dsimp only at empty ⊢
    split_ifs at empty ⊢ with silent
    · rw [isEmpty_unexplained] at empty
      cases empty
    · rfl
  · rw [if_neg refused]
    exact explained_succeeded _

theorem explained_reportDone (around : Circumstances Input) (handle : RastermPresenter Device)
    (done : Bool) {unexpected : Answer} (explains : ∀ own, Explained unexpected own) :
    Explained (reportDone around handle done unexpected).2
      (presenterMessage (reportDone around handle done unexpected).1) := by
  unfold reportDone
  dsimp only
  split_ifs
  · exact explained_succeeded _
  · exact explains _
  · exact explained_own rfl fun _ => rfl

theorem explained_check {request : Request} {answer : Answer}
    (refused : request.check = .error answer) (own : List UInt8) : Explained answer own := by
  cases request with
  | packed frame =>
      unfold Request.check checkFrame at refused
      cases frame with
      | none =>
          cases refused
          exact explained_failure (by decide) _ own
      | some frame =>
          dsimp only at refused
          split_ifs at refused
          · cases refused
            exact explained_failure (by decide) _ own
          · cases refused
            exact explained_failure (by decide) _ own
          · cases refused
  | indexed frame =>
      unfold Request.check checkIndexedFrame at refused
      cases frame with
      | none =>
          cases refused
          exact explained_failure (by decide) _ own
      | some frame =>
          dsimp only at refused
          split_ifs at refused
          · cases refused
            exact explained_failure (by decide) _ own
          · cases refused
            exact explained_failure (by decide) _ own
          · cases refused

theorem explained_begin {handle : RastermPresenter Device} {full : Bool} {frame : CallFrame}
    {answer : Answer} (returned : (begin handle full frame).2 = .returned answer)
    (own : List UInt8) : Explained answer own := by
  unfold begin at returned
  dsimp only at returned
  split at returned
  · cases returned
    cases frame <;> exact explained_failure (by decide) _ own
  · cases returned
    cases frame <;> exact explained_failure (by decide) _ own
  · cases returned

theorem explained_copies {around : Circumstances Input} {handle : RastermPresenter Device}
    {frame : CallFrame} {answer : Answer}
    (returned : (copies around handle frame).2 = .returned answer) (own : List UInt8) :
    Explained answer own := by
  unfold copies at returned
  dsimp only at returned
  split at returned
  · dsimp only at returned
    split_ifs at returned
    cases returned
    exact explained_failure (by decide) _ own
  · exact explained_begin returned own

theorem explained_submitStaged {object : EngineObject Device Input} {around : Circumstances Input}
    {handle : RastermPresenter Device} {frame : CallFrame} {passed : Submission}
    {done : RastermPresenter Device × Answer}
    (taken : submitStaged object around handle frame passed = some done) :
    Explained done.2 (presenterMessage done.1) := by
  have full : ∀ own, Explained frame.outOfMemory own := by
    intro own
    cases frame <;> exact explained_failure (by decide) _ own
  unfold submitStaged at taken
  split at taken
  · cases taken
    exact full _
  · cases taken
    cases frame <;> exact explained_failure (by decide) _ _
  · obtain ⟨entered, -, taken⟩ := Option.bind_eq_some_iff.mp taken
    obtain ⟨later, -, taken⟩ := Option.bind_eq_some_iff.mp taken
    split_ifs at taken
    · cases taken
      exact full _
    · cases taken
      exact explained_conclude _ _ _

theorem explained_submit {object : EngineObject Device Input} {around : Circumstances Input}
    {handle : RastermPresenter Device} {request : Request}
    {done : RastermPresenter Device × Answer}
    (taken : rastermPresenterSubmit object around handle request = some done) :
    Explained done.2 (presenterMessage done.1) := by
  unfold rastermPresenterSubmit at taken
  split at taken
  next answer refused =>
    cases taken
    exact explained_check refused _
  next frame accepted =>
    split at taken
    next staged answer isCopied =>
      cases taken
      exact explained_copies (congrArg Prod.snd isCopied) _
    next staged stage _ isCopied =>
      obtain ⟨⟨called, passed⟩, -, taken⟩ := Option.bind_eq_some_iff.mp taken
      exact explained_submitStaged taken

theorem explained_presenter {object : EngineObject Device Input} {around : Circumstances Input}
    {handle : RastermPresenter Device} {call : PresenterCall}
    {done : RastermPresenter Device × Answer}
    (taken : call.perform object around handle = some done) :
    Explained done.2 (presenterMessage done.1) := by
  cases call with
  | waitUntilIdle timeout =>
      change rastermPresenterWaitUntilIdle object around handle timeout = some done at taken
      unfold rastermPresenterWaitUntilIdle at taken
      dsimp only at taken
      split at taken
      · cases taken
        exact explained_failure (by decide) _ _
      · obtain ⟨entered, -, taken⟩ := Option.bind_eq_some_iff.mp taken
        split_ifs at taken
        · obtain ⟨later, -, taken⟩ := Option.bind_eq_some_iff.mp taken
          cases taken
          exact explained_reportDone _ _ _ fun own =>
            explained_failure (by decide) _ own
        · obtain ⟨waited, -, taken⟩ := Option.bind_eq_some_iff.mp taken
          obtain ⟨ended, -, taken⟩ := Option.bind_eq_some_iff.mp taken
          obtain ⟨later, -, taken⟩ := Option.bind_eq_some_iff.mp taken
          cases taken
          exact explained_reportDone _ _ _ fun own =>
            explained_failure (by decide) _ own
  | invalidate =>
      change rastermPresenterInvalidate object around handle = some done at taken
      unfold rastermPresenterInvalidate at taken
      dsimp only at taken
      split at taken
      · cases taken
        exact explained_failure (by decide) _ _
      · obtain ⟨entered, -, taken⟩ := Option.bind_eq_some_iff.mp taken
        obtain ⟨later, -, taken⟩ := Option.bind_eq_some_iff.mp taken
        cases taken
        exact explained_reportDone _ _ _ fun own => explained_failure (by decide) _ own
  | submit request => exact explained_submit taken
  | getStats stats =>
      cases taken
      change Explained (rastermPresenterGetStats stats) _
      unfold rastermPresenterGetStats
      split
      · exact explained_failure (by decide) _ _
      · split_ifs
        · exact explained_failure (by decide) _ _
        · exact explained_succeeded _

theorem explained_engineCreate {object : EngineObject Device Input} {around : Circumstances Input}
    {requested : Option RastermEngineOptions} {given : Bool} {engine : RastermEngine Device}
    {answer : Answer}
    (made : rastermEngineCreate object around requested given = (some engine, answer)) :
    Explained answer (messageBytes engine.lastError) := by
  unfold rastermEngineCreate at made
  dsimp only at made
  split_ifs at made
  · cases made
  · split at made
    · cases made
    · split at made
      · cases made
      · split_ifs at made
        · cases made
        · cases made
          exact explained_concluded _ _

theorem latestStatus_initializeWith (presenter : Presenter) (options : PresenterOptions)
    (engineStatus threadStatus : Status) :
    (presenter.initializeWith options engineStatus threadStatus).1.latestStatus =
      (presenter.initializeWith options engineStatus threadStatus).2 := by
  unfold Presenter.initializeWith
  split_ifs <;> rfl

theorem explained_presenterCreate {object : EngineObject Device Input}
    {around : Circumstances Input} {requested : Option RastermPresenterOptions} {given : Bool}
    {handle : RastermPresenter Device} {answer : Answer}
    (made : rastermPresenterCreate object around requested given = (some handle, answer)) :
    Explained answer (presenterMessage handle) := by
  unfold rastermPresenterCreate at made
  dsimp only at made
  split_ifs at made
  · cases made
  · split at made
    · cases made
    · split at made
      · cases made
      · split_ifs at made
        · cases made
        all_goals
          cases made
          unfold concluded
          split_ifs
          · exact explained_succeeded _
          · exact explained_own rfl fun _ =>
              congrArg Status.message (latestStatus_initializeWith _ _ _ _)

end Calls

/-! ### Programs -/

inductive Language where
  | rust
  | python
deriving DecidableEq, Repr

inductive Kind where
  | engine
  | presenter
deriving DecidableEq, Repr

/-- An `Engine` or a `Presenter`, with its `raw` or `_handle`. -/
structure Wrapper where
  kind : Kind
  handle : Option Nat
deriving DecidableEq, Repr

/-- `Error`, and `RastermError`. -/
structure Error where
  code : RastermResult
  message : List UInt8
deriving DecidableEq

inductive Outcome where
  | returned
  | failed (error : Error)
  /-- The `RuntimeError` of `_require_open`. -/
  | closed (message : String)
deriving DecidableEq

inductive Operation (Input : Type v) where
  | newEngine (around : Circumstances Input) (options : RastermEngineOptions)
  | newPresenter (around : Circumstances Input) (options : RastermPresenterOptions)
  | callEngine (object : Nat) (around : Circumstances Input) (call : EngineCall)
  | callPresenter (object : Nat) (around : Circumstances Input) (call : PresenterCall)
  /-- `drop`, `close`, `__exit__` and `__del__`. -/
  | close (object : Nat)
  /-- A Presenter goes on. -/
  | work (object : Nat) (label : Rasterm.Label Input)

structure Program (Device : Type u) where
  caller : Caller Device := {}
  /-- Every object that was ever made. -/
  objects : List Wrapper := []

namespace Kind

/-- `rasterm_engine_destroy` or `rasterm_presenter_destroy`. -/
def destroy {Input : Type v} (kind : Kind) (handle : Nat) : Capi.Call Input :=
  match kind with
  | engine => .engineDestroy (some handle)
  | presenter => .presenterDestroy (some handle)

/-- The text of the Python binding for a creation that left no handle. -/
def notCreated : Kind → String
  | engine => "rasterm could not create an engine"
  | presenter => "rasterm could not create a presenter"

/-- The text of the Rust binding for a creation that left no handle and no error. -/
def nullHandle : Kind → String
  | engine => "engine creation returned a null handle"
  | presenter => "presenter creation returned a null handle"

/-- The text of `_require_open`. -/
def isClosed : Kind → String
  | engine => "rasterm Engine is closed"
  | presenter => "rasterm Presenter is closed"

end Kind

namespace Program

variable {Device : Type u} {Input : Type v}

/-- `engine_error`, `presenter_error` and `_error_message`, of a live handle. -/
def errorOf (caller : Caller Device) (handle : Nat) : Option (List UInt8) :=
  (caller.diagnostic handle).map fun shown => readError (copyError shown.text)

/-- The text for a creation that left no handle. -/
def withoutHandle (language : Language) (kind : Kind) (caller : Caller Device) : List UInt8 :=
  match language with
  | .rust => readError (rastermLastError caller.globalLastError)
  | .python => messageBytes kind.notCreated

/-- After a constructor that raised, Python still has an object to delete. -/
def raised (language : Language) (kind : Kind) (objects : List Wrapper) : List Wrapper :=
  match language with
  | .rust => objects
  | .python => objects ++ [⟨kind, none⟩]

/-- `new` and `__init__`, once the C call has returned. `made` is its answer, with the handle. -/
def constructed (language : Language) (object : EngineObject Device Input) (kind : Kind)
    (objects : List Wrapper) (created : Caller Device) (made : Capi.Written) :
    Option (Program Device × Outcome) :=
  let code := made.answer.code
  if code = .success then
    if language = .rust ∧ made.handle = none then
      some
        (⟨created, objects⟩, .failed ⟨.invalidArgument, messageBytes kind.nullHandle⟩)
    else some (⟨created, objects ++ [⟨kind, made.handle⟩]⟩, .returned)
  else
    let objects := raised language kind objects
    match made.handle with
    | none => some (⟨created, objects⟩, .failed ⟨code, withoutHandle language kind created⟩)
    | some handle =>
        (errorOf created handle).bind fun message =>
          (Caller.step object (kind.destroy handle) created).map fun destroyed =>
            (⟨destroyed, objects⟩, .failed ⟨code, message⟩)

def construct (language : Language) (object : EngineObject Device Input) (kind : Kind)
    (call : Capi.Call Input) (program : Program Device) : Option (Program Device × Outcome) :=
  (Caller.step object call program.caller).bind fun created =>
    created.log.head?.bind fun made =>
      constructed language object kind program.objects created made

/-- `checked` and `_check`. -/
def checked (handle : Nat) (objects : List Wrapper) (called : Caller Device) (newest : Capi.Written) :
    Option (Program Device × Outcome) :=
  if newest.answer.code = .success then some (⟨called, objects⟩, .returned)
  else
    (errorOf called handle).map fun message =>
      (⟨called, objects⟩, .failed ⟨newest.answer.code, message⟩)

/-- Any other method. Rust has no object that is closed. -/
def perform (language : Language) (object : EngineObject Device Input) (kind : Kind)
    (call : Nat → Capi.Call Input) (index : Nat) (program : Program Device) :
    Option (Program Device × Outcome) :=
  match program.objects[index]? with
  | some ⟨found, handle⟩ =>
      if found ≠ kind then none
      else
        match handle, language with
        | none, .rust => none
        | none, .python => some (program, .closed kind.isClosed)
        | some handle, _ =>
            (Caller.step object (call handle) program.caller).bind fun called =>
              called.log.head?.bind fun newest =>
                checked handle program.objects called newest
  | none => none

/-- `drop` and `close`. -/
def close (language : Language) (object : EngineObject Device Input) (index : Nat)
    (program : Program Device) : Option (Program Device × Outcome) :=
  match program.objects[index]? with
  | some ⟨kind, some handle⟩ =>
      (Caller.step object (kind.destroy handle) program.caller).map fun destroyed =>
        (⟨destroyed, program.objects.set index ⟨kind, none⟩⟩, .returned)
  | some ⟨_, none⟩ => if language = .rust then none else some (program, .returned)
  | none => none

def work (object : EngineObject Device Input) (index : Nat) (label : Rasterm.Label Input)
    (program : Program Device) : Option (Program Device × Outcome) :=
  match program.objects[index]? with
  | some ⟨_, some handle⟩ =>
      (Caller.step object (.work handle label) program.caller).map fun later =>
        ({ program with caller := later }, .returned)
  | _ => none

def run (language : Language) (object : EngineObject Device Input)
    (operation : Operation Input) (program : Program Device) :
    Option (Program Device × Outcome) :=
  match operation with
  | .newEngine around options =>
      construct language object .engine (.engineCreate around (some options) true) program
  | .newPresenter around options =>
      construct language object .presenter (.presenterCreate around (some options) true) program
  | .callEngine index around call =>
      perform language object .engine (fun handle => .engine (some handle) around call) index
        program
  | .callPresenter index around call =>
      perform language object .presenter (fun handle => .presenter (some handle) around call)
        index program
  | .close index => close language object index program
  | .work index label => work object index label program

/-- One operation, whatever it answers. -/
def step (language : Language) (object : EngineObject Device Input)
    (operation : Operation Input) (program : Program Device) : Option (Program Device) :=
  (program.run language object operation).map Prod.fst

end Program

/-! ### Live handles -/

section Live

variable {Device : Type u} {Input : Type v}

/-- What a handle points to, if it is live. -/
def ofObject : Capi.Object Device → Option Kind
  | .engine _ => some .engine
  | .presenter _ => some .presenter
  | .destroyed => none

def kindOf (caller : Caller Device) (handle : Nat) : Option Kind :=
  caller.slots[handle]?.bind fun slot => ofObject slot.object

/-- The message a handle shows while that of the thread is empty. -/
def ownMessage : Capi.Object Device → List UInt8
  | .engine engine => messageBytes engine.lastError
  | .presenter presenter => presenterMessage presenter
  | .destroyed => []

variable {caller : Caller Device} {handle : Nat} {kind : Kind}

theorem lt_of_kindOf (live : kindOf caller handle = some kind) :
    handle < caller.slots.length := by
  obtain ⟨slot, found, -⟩ := Option.bind_eq_some_iff.mp live
  exact (List.getElem?_eq_some_iff.mp found).1

theorem kindOf_updated (live : handle < caller.slots.length) (object : Capi.Object Device) :
    kindOf (caller.updated handle object) = Function.update (kindOf caller) handle
      (ofObject object) := by
  funext other
  unfold kindOf Caller.updated
  by_cases same : other = handle
  · rw [same, Function.update_self, List.getElem?_set_self live]
    rfl
  · rw [Function.update_of_ne same, List.getElem?_set_ne (Ne.symm same)]

theorem kindOf_opened (caller : Caller Device) (object : Capi.Object Device) :
    kindOf (caller.opened object) = Function.update (kindOf caller) caller.slots.length
      (ofObject object) := by
  funext other
  unfold kindOf Caller.opened
  by_cases same : other = caller.slots.length
  · rw [same, Function.update_self, List.getElem?_concat_length]
    rfl
  · rw [Function.update_of_ne same]
    dsimp only
    rcases Nat.lt_or_ge other caller.slots.length with older | newer
    · rw [List.getElem?_append_left older]
    · rw [List.getElem?_eq_none (by simp; omega), List.getElem?_eq_none newer]

theorem kindOf_length (caller : Caller Device) : kindOf caller caller.slots.length = none := by
  unfold kindOf
  rw [List.getElem?_eq_none le_rfl]
  rfl

/-- A destruction takes a live handle of its kind, and that only. -/
theorem step_destroy (object : EngineObject Device Input) (kind : Kind) (handle : Nat)
    (caller : Caller Device) :
    Caller.step object (kind.destroy handle) caller =
      if kindOf caller handle = some kind then some (caller.updated handle .destroyed)
      else none := by
  unfold kindOf
  cases kind with
  | engine =>
      change (caller.engine? handle).map _ = _
      unfold Caller.engine?
      rcases caller.slots[handle]? with _ | ⟨_ | _ | _, origin⟩ <;> simp [ofObject]
  | presenter =>
      change (caller.presenter? handle).map _ = _
      unfold Caller.presenter?
      rcases caller.slots[handle]? with _ | ⟨_ | _ | _, origin⟩ <;> simp [ofObject]

/-! ### What the operations call -/

/-- A call on a live handle of the kind, which keeps its handle. -/
def Performs (object : EngineObject Device Input) (kind : Kind)
    (call : Nat → Capi.Call Input) : Prop :=
  ∀ handle caller called, Caller.step object (call handle) caller = some called →
    kindOf caller handle = some kind ∧
      ∃ target answer, ofObject target = some kind ∧ Explained answer (ownMessage target) ∧
        called = (caller.updated handle target).answered (some handle) answer

theorem performs_engine (object : EngineObject Device Input) (around : Circumstances Input)
    (call : EngineCall) :
    Performs object .engine fun handle => .engine (some handle) around call := by
  intro handle caller called taken
  obtain ⟨engine, found, rfl⟩ := Option.map_eq_some_iff.mp taken
  refine ⟨?_, _, _, rfl, explained_engine call, rfl⟩
  unfold Caller.engine? at found
  split at found
  next engine origin slot =>
    unfold kindOf
    rw [slot]
    rfl
  next => cases found

theorem performs_presenter (object : EngineObject Device Input) (around : Circumstances Input)
    (call : PresenterCall) :
    Performs object .presenter fun handle => .presenter (some handle) around call := by
  intro handle caller called taken
  obtain ⟨presenter, found, performed⟩ := Option.bind_eq_some_iff.mp taken
  obtain ⟨done, isDone, rfl⟩ := Option.map_eq_some_iff.mp performed
  refine ⟨?_, _, _, rfl, explained_presenter isDone, rfl⟩
  unfold Caller.presenter? at found
  split at found
  next presenter origin slot =>
    unfold kindOf
    rw [slot]
    rfl
  next => cases found

/-- A creation, which leaves a handle of the kind wherever it succeeds. -/
def Creates (object : EngineObject Device Input) (kind : Kind) (call : Capi.Call Input) : Prop :=
  ∀ caller created, Caller.step object call caller = some created →
    ∃ target answer, created = caller.created target answer ∧
      (answer.code = .success → target ≠ none) ∧
      ∀ made, target = some made → ofObject made = some kind ∧ Explained answer (ownMessage made)

theorem success_engineCreate {object : EngineObject Device Input} {around : Circumstances Input}
    {requested : Option RastermEngineOptions} {answer : Answer}
    (made : rastermEngineCreate object around requested true = (none, answer)) :
    answer.code ≠ .success := by
  unfold rastermEngineCreate at made
  simp only [Bool.not_true, Bool.false_eq_true, if_false] at made
  split at made
  next refused =>
    cases made
    unfold checkEngineOptions at refused
    dsimp only at refused
    split_ifs at refused <;> (cases refused; decide)
  · split at made
    next thrown _ =>
      cases made
      cases thrown <;> decide
    · split_ifs at made
      · cases made
        decide
      · cases made

theorem success_presenterCreate {object : EngineObject Device Input}
    {around : Circumstances Input} {requested : Option RastermPresenterOptions} {answer : Answer}
    (made : rastermPresenterCreate object around requested true = (none, answer)) :
    answer.code ≠ .success := by
  unfold rastermPresenterCreate at made
  simp only [Bool.not_true, Bool.false_eq_true, if_false] at made
  split at made
  next refused =>
    cases made
    unfold checkPresenterOptions at refused
    dsimp only at refused
    split_ifs at refused <;> (cases refused; decide)
  · split at made
    next thrown _ =>
      cases made
      cases thrown <;> decide
    · split_ifs at made
      all_goals
        cases made
        try decide

theorem creates_engine (object : EngineObject Device Input) (around : Circumstances Input)
    (options : RastermEngineOptions) :
    Creates object .engine (.engineCreate around (some options) true) := by
  intro caller created taken
  cases taken
  cases made : rastermEngineCreate object around (some options) true with
  | mk target answer =>
      refine ⟨_, _, rfl, ?_, ?_⟩
      · intro succeeds absent
        rw [Option.map_eq_none_iff] at absent
        dsimp only at absent
        rw [absent] at made
        exact success_engineCreate made succeeds
      · intro reached isReached
        obtain ⟨engine, isEngine, rfl⟩ := Option.map_eq_some_iff.mp isReached
        dsimp only at isEngine
        rw [isEngine] at made
        exact ⟨rfl, explained_engineCreate made⟩

theorem creates_presenter (object : EngineObject Device Input) (around : Circumstances Input)
    (options : RastermPresenterOptions) :
    Creates object .presenter (.presenterCreate around (some options) true) := by
  intro caller created taken
  cases taken
  cases made : rastermPresenterCreate object around (some options) true with
  | mk target answer =>
      refine ⟨_, _, rfl, ?_, ?_⟩
      · intro succeeds absent
        rw [Option.map_eq_none_iff] at absent
        dsimp only at absent
        rw [absent] at made
        exact success_presenterCreate made succeeds
      · intro reached isReached
        obtain ⟨presenter, isPresenter, rfl⟩ := Option.map_eq_some_iff.mp isReached
        dsimp only at isPresenter
        rw [isPresenter] at made
        exact ⟨rfl, explained_presenterCreate made⟩

/-- The message of the thread, or else of the handle. -/
theorem readError_shown {buffer : ErrorBuffer} {answer : Answer} {own : List UInt8}
    (text : buffer.text = errorText answer.globalLastError) (explained : Explained answer own)
    (failed : answer.code ≠ .success) :
    readError (copyError (if !buffer.isEmpty then buffer.text else own)) =
      errorText answer.globalLastError := by
  have isEmpty := CString.isEmpty_iff buffer
  rw [text] at isEmpty
  rw [readError_copyError, text]
  by_cases empty : buffer.isEmpty = true
  · have silent := isEmpty.mp empty
    rw [silent, ← explained failed silent, empty]
    rfl
  · rw [if_pos (by simpa using empty)]
    exact takeWhile_errorText _

/-- An error read from the handle right after its call is that of the call. -/
theorem errorOf_answered {target : Capi.Object Device} {origin : Nat} {written : Option Nat}
    {answer : Answer} (found : caller.slots[handle]? = some ⟨target, origin⟩)
    (live : ofObject target ≠ none) (explained : Explained answer (ownMessage target))
    (failed : answer.code ≠ .success) :
    Program.errorOf (caller.answered written answer) handle =
      some (errorText answer.globalLastError) := by
  have text : (caller.answered written answer).globalLastError.text =
      errorText answer.globalLastError := text_setGlobalError _ _
  have shown := readError_shown text explained failed
  unfold Program.errorOf Caller.diagnostic
  change Option.map _ (caller.slots[handle]?.bind _) = _
  rw [found, Option.bind_some, Option.map_map]
  cases target with
  | engine engine => exact congrArg some shown
  | presenter presenter => exact congrArg some shown
  | destroyed => exact absurd rfl live

end Live

/-! ### Whose handles they are -/

/-- Each live handle is one object's, which is of its kind. -/
structure Owned (kinds : Nat → Option Kind) (objects : List Wrapper) : Prop where
  live : ∀ (index : Nat) (kind : Kind) (handle : Nat), objects[index]? = some ⟨kind, some handle⟩ →
    kinds handle = some kind
  apart : ∀ (index other : Nat) (kind otherKind : Kind) (handle : Nat),
    objects[index]? = some ⟨kind, some handle⟩ → objects[other]? = some ⟨otherKind, some handle⟩ → index = other
  kept : ∀ handle kind, kinds handle = some kind →
    ∃ index : Nat, objects[index]? = some ⟨kind, some handle⟩

namespace Owned

variable {kinds : Nat → Option Kind} {objects : List Wrapper}

/-- Of an extended list, an older object or the new one. -/
theorem getElem?_append_cases {wrapper found : Wrapper} {index : Nat}
    (isFound : (objects ++ [wrapper])[index]? = some found) :
    objects[index]? = some found ∨ index = objects.length ∧ found = wrapper := by
  rcases Nat.lt_or_ge index objects.length with older | newer
  · rw [List.getElem?_append_left older] at isFound
    exact .inl isFound
  · rw [List.getElem?_append_right newer, List.getElem?_singleton] at isFound
    split_ifs at isFound with first
    cases isFound
    exact .inr ⟨by omega, rfl⟩

theorem getElem?_append_of {wrapper found : Wrapper} {index : Nat}
    (isFound : objects[index]? = some found) : (objects ++ [wrapper])[index]? = some found := by
  rw [List.getElem?_append_left (List.getElem?_eq_some_iff.mp isFound).1, isFound]

/-- An object without a handle comes. -/
theorem without (owned : Owned kinds objects) (kind : Kind) :
    Owned kinds (objects ++ [⟨kind, none⟩]) where
  live := by
    intro index found handle isFound
    rcases getElem?_append_cases isFound with older | ⟨-, isNew⟩
    · exact owned.live index found handle older
    · cases isNew
  apart := by
    intro index other found otherFound handle isFound isOther
    rcases getElem?_append_cases isFound with older | ⟨-, isNew⟩
    · rcases getElem?_append_cases isOther with otherOlder | ⟨-, isNew⟩
      · exact owned.apart index other found otherFound handle older otherOlder
      · cases isNew
    · cases isNew
  kept := by
    intro handle found live
    obtain ⟨index, isFound⟩ := owned.kept handle found live
    exact ⟨index, getElem?_append_of isFound⟩

/-- An object with a new handle comes. -/
theorem opened (owned : Owned kinds objects) {handle : Nat} (fresh : kinds handle = none)
    (kind : Kind) :
    Owned (Function.update kinds handle (some kind)) (objects ++ [⟨kind, some handle⟩]) where
  live := by
    intro index found other isFound
    rcases getElem?_append_cases isFound with older | ⟨-, isNew⟩
    · have live := owned.live index found other older
      have different : other ≠ handle := by
        rintro rfl
        rw [fresh] at live
        cases live
      rw [Function.update_of_ne different, live]
    · cases isNew
      rw [Function.update_self]
  apart := by
    intro index other found otherFound shared isFound isOther
    rcases getElem?_append_cases isFound with older | ⟨isLast, isNew⟩
    · rcases getElem?_append_cases isOther with otherOlder | ⟨-, isNew⟩
      · exact owned.apart index other found otherFound shared older otherOlder
      · cases isNew
        have live := owned.live index found handle older
        rw [fresh] at live
        cases live
    · cases isNew
      rcases getElem?_append_cases isOther with otherOlder | ⟨isLastToo, -⟩
      · have live := owned.live other otherFound handle otherOlder
        rw [fresh] at live
        cases live
      · rw [isLast, isLastToo]
  kept := by
    intro other found live
    by_cases same : other = handle
    · rw [same, Function.update_self] at live
      cases live
      rw [same]
      exact ⟨objects.length, List.getElem?_concat_length⟩
    · rw [Function.update_of_ne same] at live
      obtain ⟨index, isFound⟩ := owned.kept other found live
      exact ⟨index, getElem?_append_of isFound⟩

theorem getElem?_set_none {index other shared : Nat} {kind found : Kind}
    (isFound : (objects.set index ⟨kind, none⟩)[other]? = some ⟨found, some shared⟩) :
    index ≠ other ∧ objects[other]? = some ⟨found, some shared⟩ := by
  rw [List.getElem?_set] at isFound
  split_ifs at isFound with same
  · cases isFound
  · exact ⟨same, isFound⟩

/-- An object gives its handle up. -/
theorem closed (owned : Owned kinds objects) {index handle : Nat} {kind : Kind}
    (isOpen : objects[index]? = some ⟨kind, some handle⟩) :
    Owned (Function.update kinds handle none) (objects.set index ⟨kind, none⟩) where
  live := by
    intro other found shared isFound
    obtain ⟨apart, stillFound⟩ := getElem?_set_none isFound
    have different : shared ≠ handle := by
      rintro rfl
      exact apart (owned.apart index other kind found shared isOpen stillFound)
    rw [Function.update_of_ne different]
    exact owned.live other found shared stillFound
  apart := by
    intro first second found otherFound shared isFound isOther
    exact owned.apart first second found otherFound shared (getElem?_set_none isFound).2
      (getElem?_set_none isOther).2
  kept := by
    intro other found live
    by_cases same : other = handle
    · rw [same, Function.update_self] at live
      cases live
    · rw [Function.update_of_ne same] at live
      obtain ⟨place, isFound⟩ := owned.kept other found live
      refine ⟨place, ?_⟩
      have different : index ≠ place := by
        rintro rfl
        rw [isOpen] at isFound
        cases isFound
        exact same rfl
      rw [List.getElem?_set_ne different, isFound]

end Owned

namespace Program

variable {Device : Type u} {Input : Type v} {language : Language}
  {object : EngineObject Device Input} {kind : Kind} {program next : Program Device}
  {outcome : Outcome}

/-- The handles of the C interface are those of the objects. -/
def Sound (program : Program Device) : Prop := Owned (kindOf program.caller) program.objects

/-- The error is that of the newest C call that left a message, which is this one. Without a handle
Python has a text of its own. -/
def OwnError (language : Language) (before after : Caller Device) (error : Error) : Prop :=
  ∃ newest, after.log = newest :: before.log ∧ newest.answer.code ≠ .success ∧
    error.code = newest.answer.code ∧
      (error.message = errorText newest.answer.globalLastError ∨
        language = .python ∧ newest.handle = none ∧
          ∃ kind : Kind, error.message = messageBytes kind.notCreated)

theorem raised_sound {kinds : Nat → Option Kind} {objects : List Wrapper}
    (owned : Owned kinds objects) (language : Language) (kind : Kind) :
    Owned kinds (raised language kind objects) := by
  cases language with
  | rust => exact owned
  | python => exact owned.without kind

/-- A creation that left no handle. -/
theorem constructed_without (sound : program.Sound) {answer : Answer}
    (failed : answer.code ≠ .success)
    (taken : constructed language object kind program.objects (program.caller.answered none answer)
      ⟨none, answer⟩ = some (next, outcome)) :
    next.Sound ∧ ∀ error, outcome = .failed error →
      OwnError language program.caller next.caller error := by
  unfold constructed at taken
  dsimp only at taken
  rw [if_neg failed] at taken
  cases taken
  refine ⟨raised_sound sound language kind, ?_⟩
  intro error isError
  cases isError
  refine ⟨_, rfl, failed, rfl, ?_⟩
  cases language with
  | rust =>
      left
      unfold withoutHandle rastermLastError
      dsimp only
      rw [readError_copyError]
      exact (congrArg (List.takeWhile (· ≠ 0)) (text_setGlobalError _ _)).trans
        (takeWhile_errorText _)
  | python => exact .inr ⟨rfl, rfl, kind, rfl⟩

/-- A creation that left a handle, which an error gives back at once. -/
theorem constructed_with (sound : program.Sound) {target : Capi.Object Device} {answer : Answer}
    (isKind : ofObject target = some kind) (explained : Explained answer (ownMessage target))
    (taken : constructed language object kind program.objects
      ((program.caller.opened target).answered (some program.caller.slots.length) answer)
      ⟨some program.caller.slots.length, answer⟩ = some (next, outcome)) :
    next.Sound ∧ ∀ error, outcome = .failed error →
      OwnError language program.caller next.caller error := by
  have fresh := kindOf_length program.caller
  have kinds : kindOf ((program.caller.opened target).answered (some program.caller.slots.length)
      answer) = Function.update (kindOf program.caller) program.caller.slots.length (some kind) := by
    rw [← isKind]
    exact kindOf_opened program.caller target
  unfold constructed at taken
  dsimp only at taken
  by_cases succeeds : answer.code = .success
  · rw [if_pos succeeds, if_neg (fun null => Option.some_ne_none _ null.2)] at taken
    cases taken
    refine ⟨?_, fun error isError => by cases isError⟩
    unfold Sound
    dsimp only
    rw [kinds]
    exact sound.opened fresh kind
  · have slot : (program.caller.opened target).slots[program.caller.slots.length]? =
        some ⟨target, program.caller.slots.length⟩ :=
      List.getElem?_concat_length
    have live : ofObject target ≠ none := by
      rw [isKind]
      exact Option.some_ne_none _
    have opened := congrFun kinds program.caller.slots.length
    rw [Function.update_self] at opened
    rw [if_neg succeeds, errorOf_answered slot live explained succeeds, Option.bind_some,
      step_destroy, if_pos opened] at taken
    cases taken
    refine ⟨?_, ?_⟩
    · unfold Sound
      dsimp only
      rw [kindOf_updated (lt_of_kindOf opened), kinds, Function.update_idem]
      have same : Function.update (kindOf program.caller) program.caller.slots.length
          (ofObject (Capi.Object.destroyed : Capi.Object Device)) = kindOf program.caller := by
        rw [Function.update_eq_self_iff]
        exact fresh.symm
      rw [same]
      exact raised_sound sound language kind
    · intro error isError
      cases isError
      exact ⟨_, rfl, succeeds, rfl, .inl rfl⟩

theorem construct_spec (sound : program.Sound) {call : Capi.Call Input}
    (creates : Creates object kind call)
    (taken : program.construct language object kind call = some (next, outcome)) :
    next.Sound ∧ ∀ error, outcome = .failed error →
      OwnError language program.caller next.caller error := by
  obtain ⟨created, isCreated, taken⟩ := Option.bind_eq_some_iff.mp taken
  obtain ⟨made, isMade, taken⟩ := Option.bind_eq_some_iff.mp taken
  obtain ⟨target, answer, rfl, reached, targets⟩ := creates _ _ isCreated
  cases target with
  | none =>
      cases isMade
      exact constructed_without sound (fun succeeds => reached succeeds rfl) taken
  | some target =>
      cases isMade
      obtain ⟨isKind, explained⟩ := targets target rfl
      exact constructed_with sound isKind explained taken

/-- A call on a handle, which keeps it. -/
theorem checked_spec (sound : program.Sound) {handle : Nat} {target : Capi.Object Device}
    {answer : Answer} (live : kindOf program.caller handle = some kind)
    (isKind : ofObject target = some kind) (explained : Explained answer (ownMessage target))
    (taken : checked handle program.objects
      ((program.caller.updated handle target).answered (some handle) answer)
      ⟨some handle, answer⟩ = some (next, outcome)) :
    next.Sound ∧ ∀ error, outcome = .failed error →
      OwnError language program.caller next.caller error := by
  have inside := lt_of_kindOf live
  have kinds : kindOf ((program.caller.updated handle target).answered (some handle) answer) =
      kindOf program.caller := by
    refine (kindOf_updated inside target).trans ?_
    rw [Function.update_eq_self_iff, isKind, live]
  have keeps : Owned (kindOf ((program.caller.updated handle target).answered (some handle)
      answer)) program.objects := by
    rw [kinds]
    exact sound
  unfold checked at taken
  dsimp only at taken
  by_cases succeeds : answer.code = .success
  · rw [if_pos succeeds] at taken
    cases taken
    exact ⟨keeps, fun error isError => by cases isError⟩
  · have slot : (program.caller.updated handle target).slots[handle]? =
        some ⟨target, handle⟩ :=
      List.getElem?_set_self inside
    have reached : ofObject target ≠ none := by
      rw [isKind]
      exact Option.some_ne_none _
    rw [if_neg succeeds, errorOf_answered slot reached explained succeeds] at taken
    cases taken
    refine ⟨keeps, ?_⟩
    intro error isError
    cases isError
    exact ⟨_, rfl, succeeds, rfl, .inl rfl⟩

theorem perform_spec (sound : program.Sound) {call : Nat → Capi.Call Input}
    (performs : Performs object kind call) {index : Nat}
    (taken : program.perform language object kind call index = some (next, outcome)) :
    next.Sound ∧ ∀ error, outcome = .failed error →
      OwnError language program.caller next.caller error := by
  unfold perform at taken
  split at taken
  next found handle isFound =>
    split_ifs at taken
    split at taken
    · cases taken
    · cases taken
      exact ⟨sound, fun error isError => by cases isError⟩
    next handle language =>
      obtain ⟨called, isCalled, taken⟩ := Option.bind_eq_some_iff.mp taken
      obtain ⟨newest, isNewest, taken⟩ := Option.bind_eq_some_iff.mp taken
      obtain ⟨live, target, answer, isKind, explained, rfl⟩ := performs _ _ _ isCalled
      cases isNewest
      exact checked_spec sound live isKind explained taken
  next => cases taken

theorem close_of_open (sound : program.Sound) {index handle : Nat}
    (isOpen : program.objects[index]? = some ⟨kind, some handle⟩) :
    program.close language object index =
      some (⟨program.caller.updated handle .destroyed, program.objects.set index ⟨kind, none⟩⟩,
        .returned) := by
  unfold close
  rw [isOpen]
  dsimp only
  rw [step_destroy, if_pos (sound.live index kind handle isOpen)]
  rfl

theorem close_spec (sound : program.Sound) {index : Nat}
    (taken : program.close language object index = some (next, outcome)) :
    next.Sound ∧ ∀ error, outcome = .failed error →
      OwnError language program.caller next.caller error := by
  cases isFound : program.objects[index]? with
  | none =>
      unfold close at taken
      rw [isFound] at taken
      cases taken
  | some wrapper =>
      obtain ⟨kind, handle⟩ := wrapper
      cases handle with
      | none =>
          unfold close at taken
          rw [isFound] at taken
          dsimp only at taken
          split_ifs at taken
          cases taken
          exact ⟨sound, fun error isError => by cases isError⟩
      | some handle =>
          rw [close_of_open sound isFound] at taken
          cases taken
          refine ⟨?_, fun error isError => by cases isError⟩
          unfold Sound
          dsimp only
          rw [kindOf_updated (lt_of_kindOf (sound.live index kind handle isFound))]
          exact sound.closed isFound

theorem work_spec (sound : program.Sound) {index : Nat} {label : Rasterm.Label Input}
    (taken : program.work object index label = some (next, outcome)) :
    next.Sound ∧ ∀ error, outcome = .failed error →
      OwnError language program.caller next.caller error := by
  unfold work at taken
  split at taken
  next kind handle isFound =>
    obtain ⟨later, worked, isNext⟩ := Option.map_eq_some_iff.mp taken
    cases isNext
    refine ⟨?_, fun error isError => by cases isError⟩
    obtain ⟨presenter, found, entered⟩ := Option.bind_eq_some_iff.mp worked
    obtain ⟨advanced, -, rfl⟩ := Option.map_eq_some_iff.mp entered
    have live : kindOf program.caller handle = some .presenter := by
      unfold Caller.presenter? at found
      split at found
      next presenter origin slot =>
        unfold kindOf
        rw [slot]
        rfl
      next => cases found
    have kinds : kindOf (program.caller.updated handle (.presenter advanced)) =
        kindOf program.caller := by
      rw [kindOf_updated (lt_of_kindOf live), Function.update_eq_self_iff, live]
      rfl
    unfold Sound
    dsimp only
    rw [kinds]
    exact sound
  next => cases taken

theorem run_spec (sound : program.Sound) {operation : Operation Input}
    (taken : program.run language object operation = some (next, outcome)) :
    next.Sound ∧ ∀ error, outcome = .failed error →
      OwnError language program.caller next.caller error := by
  cases operation with
  | newEngine around options => exact construct_spec sound (creates_engine _ around options) taken
  | newPresenter around options =>
      exact construct_spec sound (creates_presenter _ around options) taken
  | callEngine index around call =>
      exact perform_spec sound (performs_engine _ around call) taken
  | callPresenter index around call =>
      exact perform_spec sound (performs_presenter _ around call) taken
  | close index => exact close_spec sound taken
  | work index label => exact work_spec sound taken

/-- A method of an open engine always answers: its handle is live. -/
theorem callEngine_of_open (sound : program.Sound) {index handle : Nat}
    (isOpen : program.objects[index]? = some ⟨.engine, some handle⟩)
    (around : Circumstances Input) (call : EngineCall) :
    ∃ after, program.run language object (.callEngine index around call) = some after := by
  have live := sound.live index .engine handle isOpen
  obtain ⟨engine, found⟩ : ∃ engine, program.caller.engine? handle = some engine := by
    obtain ⟨⟨target, origin⟩, slot, isKind⟩ := Option.bind_eq_some_iff.mp live
    cases target with
    | engine engine =>
        refine ⟨engine, ?_⟩
        unfold Caller.engine?
        rw [slot]
    | presenter presenter => cases isKind
    | destroyed => cases isKind
  have called : Caller.step object (.engine (some handle) around call) program.caller =
      some ((program.caller.updated handle (.engine (call.perform object around engine).1)).answered
        (some handle) (call.perform object around engine).2) := by
    change (program.caller.engine? handle).map _ = _
    rw [found]
    rfl
  change ∃ after, perform language object .engine _ index program = some after
  unfold perform
  rw [isOpen]
  dsimp only
  rw [if_neg (fun different => different rfl), called, Option.bind_some]
  change ∃ after, checked handle program.objects _ _ = some after
  unfold checked
  by_cases succeeds : (call.perform object around engine).2.code = .success
  · exact ⟨_, if_pos succeeds⟩
  · have slot : (program.caller.updated handle
        (.engine (call.perform object around engine).1)).slots[handle]? =
          some ⟨.engine (call.perform object around engine).1, handle⟩ :=
      List.getElem?_set_self (lt_of_kindOf live)
    rw [if_neg succeeds, errorOf_answered slot (by unfold ofObject; simp) (explained_engine call)
      succeeds]
    exact ⟨_, rfl⟩

theorem sound_of_run {operations : List (Operation Input)}
    (runs : Transition.Run (step language object) {} operations program) : program.Sound := by
  refine runs.invariant ?_ ?_
  · intro operation before after taken sound
    obtain ⟨⟨reached, outcome⟩, isReached, rfl⟩ := Option.map_eq_some_iff.mp taken
    exact (run_spec sound isReached).1
  · exact ⟨fun index kind handle found => by simp at found,
      fun index other kind otherKind handle found => by simp at found,
      fun handle kind live => by simp [kindOf] at live⟩

/-- Whatever a program of either binding does with its objects, in any order and however calls
fail: the live handles are those of the objects that are open, one each, of the object's kind; an
open object can be closed, which destroys its handle, and an open engine answers every call; and an
error has the code of the call that failed and its text, whatever the thread has called before,
but for a creation in Python that gives no handle, which is reported with a text of its own. -/
theorem handles_and_errors {operations : List (Operation Input)}
    (runs : Transition.Run (step language object) {} operations program) :
    (∀ handle kind, kindOf program.caller handle = some kind ↔
      ∃ index : Nat, program.objects[index]? = some ⟨kind, some handle⟩) ∧
    (∀ (index other : Nat) (kind otherKind : Kind) (handle : Nat),
      program.objects[index]? = some ⟨kind, some handle⟩ →
      program.objects[other]? = some ⟨otherKind, some handle⟩ → index = other) ∧
    (∀ (index : Nat) (kind : Kind) (handle : Nat),
      program.objects[index]? = some ⟨kind, some handle⟩ →
        ∃ after, program.run language object (.close index) = some (after, .returned) ∧
          kindOf after.caller = Function.update (kindOf program.caller) handle none) ∧
    (∀ (index handle : Nat), program.objects[index]? = some ⟨.engine, some handle⟩ →
      ∀ around call, ∃ after,
        program.run language object (.callEngine index around call) = some after) ∧
    ∀ operation after error,
      program.run language object operation = some (after, .failed error) →
        OwnError language program.caller after.caller error := by
  have sound := sound_of_run runs
  refine ⟨?_, sound.apart, ?_, fun _ _ isOpen => callEngine_of_open sound isOpen, ?_⟩
  · intro handle kind
    refine ⟨sound.kept handle kind, ?_⟩
    rintro ⟨index, found⟩
    exact sound.live index kind handle found
  · intro index kind handle found
    exact ⟨_, close_of_open sound found,
      kindOf_updated (lt_of_kindOf (sound.live index kind handle found)) _⟩
  · intro operation after error taken
    exact (run_spec sound taken).2 error rfl

/-- Two engines of a Python program: the first is given a frame without a stride, and is closed
twice; the second is asked afterwards. -/
def twoEngines : List (Operation TerminalGeometry) :=
  [.newEngine { input := {} } { write := true, flush := true },
    .newEngine { input := {} } { write := true, flush := true },
    .callEngine 0 { input := {} } (.render (some {}) none), .close 0, .close 0,
    .callEngine 0 { input := {} } .reset]

theorem handles_and_errors_twoEngines :
    ∃ program : Program Engine, program.objects = [⟨.engine, none⟩, ⟨.engine, some 1⟩] ∧
      kindOf program.caller 0 = none ∧ ∀ after error,
        program.run .python Caller.callbackEngine
            (.callEngine 1 { input := {} } (.render (some {}) none)) =
          some (after, .failed error) →
        OwnError .python program.caller after.caller error := by
  have ends : ((Transition.exec (step .python Caller.callbackEngine) twoEngines {}).map
      fun program => program.objects) = some [⟨.engine, none⟩, ⟨.engine, some 1⟩] := by
    decide +kernel
  obtain ⟨program, executed, objects⟩ := Option.map_eq_some_iff.mp ends
  have spec := handles_and_errors (Transition.run_iff_exec.mpr executed)
  refine ⟨program, objects, ?_, spec.2.2.2.2 _⟩
  cases live : kindOf program.caller 0 with
  | none => rfl
  | some kind =>
      obtain ⟨index, found⟩ := (spec.1 0 kind).mp live
      rw [objects] at found
      rcases index with _ | _ | index
      · cases found
      · cases found
      · cases found

end Program

end Rasterm.Bindings
