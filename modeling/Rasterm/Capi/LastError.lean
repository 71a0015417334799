import Rasterm.Capi.PresenterCalls
import Rasterm.Presenter.Invalidation

/-!
Contract: whose message a handle shows. One thread makes any calls, on any number of Engine
and Presenter handles; its message is common to them all.

Owns the thread with its handles and its message, a tag on each message for the handle
whose call left it, everything a call can do to these, and which messages of other handles
a handle can show.

Does not own calls from inside callbacks. A handle that is not live, or of the other kind,
is not passed.
-/

set_option autoImplicit false

universe u v

namespace Rasterm.Capi

/-- What a handle points to. -/
inductive Object (Device : Type u) where
  | engine (engine : RastermEngine Device)
  | presenter (presenter : RastermPresenter Device)
  | destroyed

structure Slot (Device : Type u) where
  object : Object Device
  /-- The handle whose call left the messages of the object. -/
  origin : Nat

/-- A call that set or cleared the message of the thread; `none` for a call on no handle. -/
structure Written where
  handle : Option Nat
  answer : Answer

/-- A thread that calls. Handles are numbered as they are made. -/
structure Caller (Device : Type u) where
  slots : List (Slot Device) := []
  globalLastError : ErrorBuffer := .empty _
  /-- The handle of the call that left this message. -/
  writer : Option Nat := none
  /-- Newest first. -/
  log : List Written := []

inductive Call (Input : Type v) where
  | engineCreate (around : Circumstances Input) (requested : Option RastermEngineOptions)
      (given : Bool)
  | engine (handle : Option Nat) (around : Circumstances Input) (call : EngineCall)
  | engineLastError (handle : Option Nat) (capacity : Option Nat)
  | engineDestroy (handle : Option Nat)
  | presenterCreate (around : Circumstances Input) (requested : Option RastermPresenterOptions)
      (given : Bool)
  | presenter (handle : Option Nat) (around : Circumstances Input) (call : PresenterCall)
  | presenterLastError (handle : Option Nat) (capacity : Option Nat)
  | presenterDestroy (handle : Option Nat)
  | lastError (capacity : Option Nat)
  /-- A Presenter goes on between two calls. -/
  | work (handle : Nat) (label : Rasterm.Label Input)

/-- The handle that is passed. -/
def Call.handle {Input : Type v} : Call Input → Option Nat
  | engine handle _ _ => handle
  | engineLastError handle _ => handle
  | engineDestroy handle => handle
  | presenter handle _ _ => handle
  | presenterLastError handle _ => handle
  | presenterDestroy handle => handle
  | work handle _ => some handle
  | engineCreate _ _ _ => none
  | presenterCreate _ _ _ => none
  | lastError _ => none

namespace Caller

variable {Device : Type u} {Input : Type v}

def engine? (caller : Caller Device) (handle : Nat) : Option (RastermEngine Device) :=
  match caller.slots[handle]? with
  | some ⟨.engine engine, _⟩ => some engine
  | _ => none

def presenter? (caller : Caller Device) (handle : Nat) : Option (RastermPresenter Device) :=
  match caller.slots[handle]? with
  | some ⟨.presenter presenter, _⟩ => some presenter
  | _ => none

/-- A call returns. -/
def answered (caller : Caller Device) (handle : Option Nat) (answer : Answer) : Caller Device :=
  { caller with
    globalLastError := setGlobalError caller.globalLastError answer.globalLastError
    writer := handle
    log := ⟨handle, answer⟩ :: caller.log }

def opened (caller : Caller Device) (object : Object Device) : Caller Device :=
  { caller with slots := caller.slots ++ [⟨object, caller.slots.length⟩] }

def updated (caller : Caller Device) (handle : Nat) (object : Object Device) : Caller Device :=
  { caller with slots := caller.slots.set handle ⟨object, handle⟩ }

/-- The end of a creation, with a handle or without one. -/
def created (caller : Caller Device) (object : Option (Object Device)) (answer : Answer) :
    Caller Device :=
  match object with
  | some object => (caller.opened object).answered (some caller.slots.length) answer
  | none => caller.answered none answer

def step (object : EngineObject Device Input) (call : Call Input) (caller : Caller Device) :
    Option (Caller Device) :=
  match call with
  | .engineCreate around requested given =>
      let made := rastermEngineCreate object around requested given
      some (caller.created (made.1.map .engine) made.2)
  | .engine none _ call => some (caller.answered none call.onNull)
  | .engine (some handle) around call =>
      (caller.engine? handle).map fun engine =>
        let done := call.perform object around engine
        (caller.updated handle (.engine done.1)).answered (some handle) done.2
  | .engineLastError none _ =>
      some (caller.answered none (failure .invalidArgument "engine must not be null."))
  | .engineLastError (some handle) _ => (caller.engine? handle).map fun _ => caller
  | .engineDestroy none => some caller
  | .engineDestroy (some handle) =>
      (caller.engine? handle).map fun _ => caller.updated handle .destroyed
  | .presenterCreate around requested given =>
      let made := rastermPresenterCreate object around requested given
      some (caller.created (made.1.map .presenter) made.2)
  | .presenter none _ call => some (caller.answered none call.onNull)
  | .presenter (some handle) around call =>
      (caller.presenter? handle).bind fun presenter =>
        (call.perform object around presenter).map fun done =>
          (caller.updated handle (.presenter done.1)).answered (some handle) done.2
  | .presenterLastError none _ =>
      some (caller.answered none (failure .invalidArgument "presenter must not be null."))
  | .presenterLastError (some handle) _ => (caller.presenter? handle).map fun _ => caller
  | .presenterDestroy none => some caller
  | .presenterDestroy (some handle) =>
      (caller.presenter? handle).map fun _ => caller.updated handle .destroyed
  | .lastError _ => some caller
  | .work handle label =>
      (caller.presenter? handle).bind fun presenter =>
        (presenter.enter object label).map fun next => caller.updated handle (.presenter next)

end Caller

/-! ### What a handle shows -/

/-- A text with the handle whose call produced it; `none` for a call on no handle. -/
structure Diagnostic where
  text : List UInt8
  producer : Option Nat
deriving DecidableEq

/-- Another handle's. -/
def Diagnostic.Foreign (diagnostic : Diagnostic) (handle : Nat) : Prop :=
  ∃ other, diagnostic.producer = some other ∧ other ≠ handle

namespace Caller

variable {Device : Type u} {Input : Type v}

/-- The text of a query on a live handle of either kind. -/
def lastMessage (caller : Caller Device) : Object Device → Option (List UInt8)
  | .engine engine => some (engine.lastMessage caller.globalLastError)
  | .presenter presenter => some (presenter.lastMessage caller.globalLastError)
  | .destroyed => none

/-- The text of a query on a handle, with its producer. -/
def diagnostic (caller : Caller Device) (handle : Nat) : Option Diagnostic :=
  caller.slots[handle]?.bind fun slot =>
    (caller.lastMessage slot.object).map fun text =>
      ⟨text, if !caller.globalLastError.isEmpty then caller.writer else some slot.origin⟩

/-- `rasterm_engine_last_error` and `rasterm_presenter_last_error`. -/
def handleLastError (caller : Caller Device) (handle : Nat) (capacity : Option Nat) :
    Option ErrorCopy :=
  (caller.diagnostic handle).map fun diagnostic => copyError diagnostic.text capacity

/-- The newest call that set or cleared the message of the thread has set it, on this
handle. -/
def NewestErrorOf (caller : Caller Device) (handle : Nat) : Prop :=
  ∃ newest older, caller.log = newest :: older ∧ newest.handle = some handle ∧
    errorText newest.answer.globalLastError ≠ []

/-! ### What a call can do -/

/-- Everything a call can do, by the handle it is on: to that handle, to the message, or to
both. -/
inductive Move (caller : Caller Device) : Option Nat → Caller Device → Prop where
  | same (handle : Option Nat) : Move caller handle caller
  | answered (handle : Option Nat) (answer : Answer) :
      Move caller handle (caller.answered handle answer)
  | opened (object : Object Device) (answer : Answer) :
      Move caller none ((caller.opened object).answered (some caller.slots.length) answer)
  | updated (handle : Nat) (object : Object Device) :
      Move caller (some handle) (caller.updated handle object)
  | performed (handle : Nat) (object : Object Device) (answer : Answer) :
      Move caller (some handle) ((caller.updated handle object).answered (some handle) answer)

theorem move_created (caller : Caller Device) (object : Option (Object Device))
    (answer : Answer) : caller.Move none (caller.created object answer) := by
  cases object with
  | none => exact .answered none answer
  | some object => exact .opened object answer

theorem move_of_step {object : EngineObject Device Input} {call : Call Input}
    {caller next : Caller Device} (taken : step object call caller = some next) :
    caller.Move call.handle next := by
  cases call with
  | engineCreate around requested given =>
      cases taken
      exact move_created ..
  | engine handle around call =>
      cases handle with
      | none =>
          cases taken
          exact .answered none call.onNull
      | some handle =>
          obtain ⟨engine, -, rfl⟩ := Option.map_eq_some_iff.mp taken
          exact .performed handle _ _
  | engineLastError handle capacity =>
      cases handle with
      | none =>
          cases taken
          exact .answered none _
      | some handle =>
          obtain ⟨engine, -, rfl⟩ := Option.map_eq_some_iff.mp taken
          exact .same _
  | engineDestroy handle =>
      cases handle with
      | none =>
          cases taken
          exact .same none
      | some handle =>
          obtain ⟨engine, -, rfl⟩ := Option.map_eq_some_iff.mp taken
          exact .updated handle .destroyed
  | presenterCreate around requested given =>
      cases taken
      exact move_created ..
  | presenter handle around call =>
      cases handle with
      | none =>
          cases taken
          exact .answered none call.onNull
      | some handle =>
          obtain ⟨presenter, -, performed⟩ := Option.bind_eq_some_iff.mp taken
          obtain ⟨done, -, rfl⟩ := Option.map_eq_some_iff.mp performed
          exact .performed handle _ _
  | presenterLastError handle capacity =>
      cases handle with
      | none =>
          cases taken
          exact .answered none _
      | some handle =>
          obtain ⟨presenter, -, rfl⟩ := Option.map_eq_some_iff.mp taken
          exact .same _
  | presenterDestroy handle =>
      cases handle with
      | none =>
          cases taken
          exact .same none
      | some handle =>
          obtain ⟨presenter, -, rfl⟩ := Option.map_eq_some_iff.mp taken
          exact .updated handle .destroyed
  | lastError capacity =>
      cases taken
      exact .same none
  | work handle label =>
      obtain ⟨presenter, -, entered⟩ := Option.bind_eq_some_iff.mp taken
      obtain ⟨next, -, rfl⟩ := Option.map_eq_some_iff.mp entered
      exact .updated handle _

/-! ### The invariant -/

/-- Each handle has its own messages; that of the thread is what the newest call left. -/
structure Traced (caller : Caller Device) : Prop where
  origin : ∀ (handle : Nat) (slot : Slot Device), caller.slots[handle]? = some slot →
    slot.origin = handle
  writer : caller.writer = caller.log.head?.bind Written.handle
  text : caller.globalLastError.text =
    caller.log.head?.elim [] fun newest => errorText newest.answer.globalLastError

theorem traced_initial : ({} : Caller Device).Traced where
  origin := fun _ _ found => by simp at found
  writer := rfl
  text := CString.text_empty

theorem Traced.answered {caller : Caller Device} (traced : caller.Traced) (handle : Option Nat)
    (answer : Answer) : (caller.answered handle answer).Traced where
  origin := traced.origin
  writer := rfl
  text := text_setGlobalError _ _

theorem Traced.opened {caller : Caller Device} (traced : caller.Traced) (object : Object Device) :
    (caller.opened object).Traced where
  origin := by
    intro handle slot found
    simp only [Caller.opened, List.getElem?_append] at found
    split_ifs at found with older
    · exact traced.origin handle slot found
    · rw [List.getElem?_singleton] at found
      split_ifs at found with first
      cases found
      exact Nat.le_antisymm (Nat.le_of_not_lt older) (Nat.sub_eq_zero_iff_le.mp first)
  writer := traced.writer
  text := traced.text

theorem Traced.updated {caller : Caller Device} (traced : caller.Traced) (handle : Nat)
    (object : Object Device) : (caller.updated handle object).Traced where
  origin := by
    intro other slot found
    simp only [Caller.updated, List.getElem?_set] at found
    split_ifs at found with same live
    · cases found
      exact same
    · exact traced.origin other slot found
  writer := traced.writer
  text := traced.text

theorem Traced.move {caller next : Caller Device} (traced : caller.Traced)
    {passed : Option Nat} (move : caller.Move passed next) : next.Traced := by
  cases move with
  | same => exact traced
  | answered _ answer => exact traced.answered passed answer
  | opened object answer => exact (traced.opened object).answered _ answer
  | updated handle object => exact traced.updated handle object
  | performed handle object answer => exact (traced.updated handle object).answered _ answer

theorem traced_run {object : EngineObject Device Input} {labels : List (Call Input)}
    {final : Caller Device} (run : Transition.Run (step object) {} labels final) : final.Traced :=
  run.invariant (fun _ _ _ taken traced => traced.move (move_of_step taken)) traced_initial

/-! ### Queries -/

section Queries

variable {caller : Caller Device} {handle : Nat} {diagnostic : Diagnostic}

/-- A handle shows its own messages, or that of the thread. -/
theorem diagnostic_cases (shown : caller.diagnostic handle = some diagnostic) :
    (caller.globalLastError.text = [] ∧
        ∃ slot, caller.slots[handle]? = some slot ∧ diagnostic.producer = some slot.origin) ∨
      (caller.globalLastError.text ≠ [] ∧ diagnostic.text = caller.globalLastError.text ∧
        diagnostic.producer = caller.writer) := by
  obtain ⟨slot, found, shown⟩ := Option.bind_eq_some_iff.mp shown
  obtain ⟨text, message, rfl⟩ := Option.map_eq_some_iff.mp shown
  by_cases empty : caller.globalLastError.isEmpty = true
  · exact Or.inl ⟨(CString.isEmpty_iff _).mp empty, slot, found, by simp [empty]⟩
  · refine Or.inr ⟨fun none => empty ((CString.isEmpty_iff _).mpr none), ?_, by simp [empty]⟩
    cases live : slot.object with
    | engine engine =>
        simp only [live, lastMessage, RastermEngine.lastMessage, empty,
          Option.some.injEq] at message
        exact message.symm
    | presenter presenter =>
        simp only [live, lastMessage, RastermPresenter.lastMessage, empty,
          Option.some.injEq] at message
        exact message.symm
    | destroyed => simp [live, lastMessage] at message

/-- A message of the thread hides that of every handle. -/
theorem text_of_error (shown : caller.diagnostic handle = some diagnostic)
    (error : caller.globalLastError.text ≠ []) :
    diagnostic.text = caller.globalLastError.text ∧ diagnostic.producer = caller.writer := by
  rcases diagnostic_cases shown with ⟨empty, -⟩ | ⟨-, thread⟩
  · exact absurd empty error
  · exact thread

/-- Without one a handle shows its own. -/
theorem Traced.own_of_empty (traced : caller.Traced)
    (shown : caller.diagnostic handle = some diagnostic)
    (empty : caller.globalLastError.text = []) : diagnostic.producer = some handle := by
  rcases diagnostic_cases shown with ⟨-, slot, found, own⟩ | ⟨error, -⟩
  · rw [own, traced.origin handle slot found]
  · exact absurd empty error

theorem Traced.newestErrorOf_iff (traced : caller.Traced) (other : Nat) :
    caller.NewestErrorOf other ↔
      caller.globalLastError.text ≠ [] ∧ caller.writer = some other := by
  obtain ⟨-, writer, text⟩ := traced
  rw [writer, text]
  unfold NewestErrorOf
  cases log : caller.log with
  | nil => simp
  | cons newest older =>
      constructor
      · rintro ⟨first, rest, split, named, message⟩
        cases split
        exact ⟨message, named⟩
      · rintro ⟨message, named⟩
        exact ⟨newest, older, rfl, named, message⟩

theorem Traced.foreign_iff (traced : caller.Traced)
    (shown : caller.diagnostic handle = some diagnostic) :
    diagnostic.Foreign handle ↔ ∃ other, other ≠ handle ∧ caller.NewestErrorOf other := by
  constructor
  · rintro ⟨other, produced, different⟩
    have error : caller.globalLastError.text ≠ [] := by
      intro empty
      rw [traced.own_of_empty shown empty, Option.some.injEq] at produced
      exact different produced.symm
    refine ⟨other, different, (traced.newestErrorOf_iff other).mpr ⟨error, ?_⟩⟩
    rw [← (text_of_error shown error).2, produced]
  · rintro ⟨other, different, newest⟩
    obtain ⟨error, written⟩ := (traced.newestErrorOf_iff other).mp newest
    exact ⟨other, (text_of_error shown error).2.trans written, different⟩

/-! ### Runs -/

/-- After any calls: a handle shows a message of another one exactly when the newest call
that set or cleared the message of the thread has set it, on that other handle. What is
shown then is what `rasterm_last_error` gives. -/
theorem foreign_diagnostic_iff {object : EngineObject Device Input} {labels : List (Call Input)}
    (run : Transition.Run (step object) {} labels caller)
    (shown : caller.diagnostic handle = some diagnostic) :
    (diagnostic.Foreign handle ↔ ∃ other, other ≠ handle ∧ caller.NewestErrorOf other) ∧
      (diagnostic.Foreign handle → ∀ capacity, caller.handleLastError handle capacity =
        some (rastermLastError caller.globalLastError capacity)) := by
  have traced := traced_run run
  refine ⟨traced.foreign_iff shown, fun foreign capacity => ?_⟩
  obtain ⟨other, different, newest⟩ := (traced.foreign_iff shown).mp foreign
  have error := ((traced.newestErrorOf_iff other).mp newest).1
  rw [handleLastError, shown, Option.map_some, (text_of_error shown error).1, rastermLastError]

end Queries

/-- An engine on the callbacks of its caller, which take everything. -/
def callbackEngine : EngineObject Engine TerminalGeometry :=
  { Engine.calls Host.plain with
    start := fun _ options =>
      ({ options := { customOutput := options.write }
         renderer := Renderer.create Host.plain {} {} { responses := fun _ => true } }, {})
    clear := Engine.clear
    unwound := id }

def openEngine : Call TerminalGeometry :=
  .engineCreate { input := {} } (some { write := true, flush := true }) true

/-- Two engines; the first one is given a frame without a stride. -/
def strideRefused : List (Call TerminalGeometry) :=
  [openEngine, openEngine, .engine (some 0) { input := {} } (.render (some {}) none)]

def afterStrideRefused : Caller Engine :=
  (Transition.exec (step callbackEngine) strideRefused {}).get (by decide +kernel)

theorem run_strideRefused :
    Transition.Run (step callbackEngine) {} strideRefused afterStrideRefused :=
  Transition.run_iff_exec.mpr (Option.some_get _).symm

/-- What the second engine shows then. -/
def shownBySecond : Diagnostic where
  text := messageBytes "Packed frame format or stride is invalid."
  producer := some 0

theorem diagnostic_strideRefused : afterStrideRefused.diagnostic 1 = some shownBySecond := by
  decide +kernel

theorem foreign_diagnostic_strideRefused :
    (shownBySecond.Foreign 1 ↔
        ∃ other, other ≠ 1 ∧ afterStrideRefused.NewestErrorOf other) ∧
      (shownBySecond.Foreign 1 → ∀ capacity, afterStrideRefused.handleLastError 1 capacity =
        some (rastermLastError afterStrideRefused.globalLastError capacity)) :=
  foreign_diagnostic_iff run_strideRefused diagnostic_strideRefused

/-- The second engine shows the diagnostic of a call on the first. -/
theorem foreign_diagnostic_shown :
    ¬ ∀ (labels : List (Call TerminalGeometry)) (final : Caller Engine),
      Transition.Run (step callbackEngine) {} labels final →
        ∀ handle diagnostic, final.diagnostic handle = some diagnostic →
          ¬ diagnostic.Foreign handle := by
  intro own
  exact own strideRefused afterStrideRefused run_strideRefused 1 shownBySecond
    diagnostic_strideRefused ⟨0, rfl, by decide⟩

end Caller

end Rasterm.Capi
