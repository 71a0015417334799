import Rasterm.Library.Vt

/-!
Contract: error codes and the output sink.

A sink takes all bytes of a write or none. It is an oracle for the outcome of
every call together with the log of the calls so far; the log also says why a
call was made, which the sink never looks at.
-/

set_option autoImplicit false

namespace Rasterm

inductive ErrorCode where
  | none
  | invalidArgument
  | invalidOutputHandle
  | outputIsNotConsole
  | consoleModeQueryFailed
  | consoleModeEnableFailed
  | terminalDimensionsUnavailable
  | unsupportedTerminal
  | stdoutModeFailed
  | controlHandlerRegistrationFailed
  | diagnosticOpenFailed
  | outputWriteFailed
  | outputFlushFailed
  | outputBufferLimitExceeded
  | presenterThreadStartFailed
  | initializationException
  | renderingException
  | bufferTooSmall
  | apiVersionMismatch
  | outOfMemory
  | presenterStopped
  | timedOut
deriving DecidableEq, Repr

/-- First attempts of ordinary output and of recovery sequences, and the second
attempt of a refused recovery sequence. -/
inductive CallPurpose where
  | ordinary | recovery | retry
deriving DecidableEq, Repr

inductive SinkCall where
  | write (purpose : CallPurpose) (bytes : List UInt8) (accepted : Bool)
  | flush (purpose : CallPurpose) (succeeded : Bool)
deriving DecidableEq, Repr

/-- The bytes a call delivered. -/
def SinkCall.delivered : SinkCall → List UInt8
  | write _ bytes true => bytes
  | _ => []

/-- A recovery sequence refused on both attempts. -/
def SinkCall.lostRecovery : SinkCall → Bool
  | write .retry _ false => true
  | _ => false

structure OutputSink where
  /-- The outcome of the n-th call. -/
  responses : Nat → Bool
  calls : List SinkCall := []

namespace OutputSink

def write (sink : OutputSink) (purpose : CallPurpose) (bytes : List UInt8) : OutputSink × Bool :=
  let accepted := sink.responses sink.calls.length
  ({ sink with calls := sink.calls ++ [.write purpose bytes accepted] }, accepted)

def flush (sink : OutputSink) (purpose : CallPurpose) : OutputSink × Bool :=
  let succeeded := sink.responses sink.calls.length
  ({ sink with calls := sink.calls ++ [.flush purpose succeeded] }, succeeded)

/-- Everything the sink has accepted. -/
def accepted (sink : OutputSink) : List UInt8 := sink.calls.flatMap SinkCall.delivered

/-- No recovery sequence was refused on both attempts. -/
def Restores (sink : OutputSink) : Prop := ∀ call ∈ sink.calls, call.lostRecovery = false

instance (sink : OutputSink) : Decidable sink.Restores := by
  unfold Restores
  infer_instance

/-- From here on everything is accepted. -/
def Accepting (sink : OutputSink) : Prop := ∀ call ≥ sink.calls.length, sink.responses call = true

theorem accepted_write (sink : OutputSink) (purpose : CallPurpose) (bytes : List UInt8) :
    (sink.write purpose bytes).1.accepted =
      sink.accepted ++ if (sink.write purpose bytes).2 then bytes else [] := by
  unfold write accepted
  cases response : sink.responses sink.calls.length <;> simp [SinkCall.delivered]

@[simp] theorem accepted_flush (sink : OutputSink) (purpose : CallPurpose) :
    (sink.flush purpose).1.accepted = sink.accepted := by
  simp [flush, accepted, SinkCall.delivered]

/-- A retry that is not lost was accepted. -/
theorem accepted_of_restores {sink : OutputSink} {bytes : List UInt8}
    (restores : (sink.write .retry bytes).1.Restores) : (sink.write .retry bytes).2 = true := by
  have kept := restores (.write .retry bytes (sink.write .retry bytes).2) (by simp [write])
  cases accepted : (sink.write .retry bytes).2 with
  | true => rfl
  | false => simp [accepted, SinkCall.lostRecovery] at kept

theorem Restores.of_part {before after : OutputSink} (restores : after.Restores)
    (part : before.calls <+: after.calls) : before.Restores :=
  fun call member => restores call (part.subset member)

end OutputSink

end Rasterm
