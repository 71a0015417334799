import Rasterm.Engine.Exclusive
import Rasterm.Library.Ranking
import Rasterm.Library.RingBuffer

/-!
Contract: what an engine reports about the time its presentations took.

Owns the ring of write samples with its two percentiles and the count of slow presentations,
beside every command on any number of engines, and what the numbers of a report are.

Does not own the clock: how long a presentation took is part of the command, and so is the
conversion of a count of microseconds to milliseconds. Frame rates are left out.
-/

set_option autoImplicit false

universe u

namespace Rasterm

/-- `value > threshold`. -/
def FloatValue.isExceededBy (value : Rat) : FloatValue → Bool
  | .finite threshold => decide (threshold < value)
  | .infinite negative => negative
  | .nan => false

/-- The fields of `RenderStats` about presentation times. -/
structure WriteStats where
  terminalWriteP95Milliseconds : Rat := 0
  terminalWriteP99Milliseconds : Rat := 0
  backpressureEvents : Nat := 0
deriving DecidableEq, Repr

structure WriteStatistics where
  /-- With `writeSampleCursor` and `writeSampleCount`. -/
  terminalWriteSamples : RingBuffer Rat 256
  backpressureEvents : Nat

namespace WriteStatistics

def fresh : WriteStatistics := ⟨.make (by decide) 0, 0⟩

/-- The end of a successful `initialize`. -/
def restart (statistics : WriteStatistics) : WriteStatistics :=
  ⟨statistics.terminalWriteSamples.restart, 0⟩

/-- `percentile * (writeSampleCount - 1)` without its fraction; for at most 256 samples the
product of doubles rounds to no other whole number. -/
def percentileIndex (percent writeSampleCount : Nat) : Nat :=
  min (percent * (writeSampleCount - 1) / 100) (writeSampleCount - 1)

def writePercentiles (statistics : WriteStatistics) : Rat × Rat :=
  let samples := statistics.terminalWriteSamples
  if samples.count = 0 then (0, 0)
  else
    let sorted := samples.filled.insertionSort (· ≤ ·) ++ samples.cells.drop samples.count
    let valueAt := fun percent => sorted.getD (percentileIndex percent samples.count) 0
    (valueAt 95, valueAt 99)

/-- `record`, as far as it is about presentation times. -/
def record (milliseconds : Nat → Rat) (threshold : FloatValue) (statistics : WriteStatistics)
    (presentDuration : Nat) : WriteStatistics × WriteStats :=
  let recorded : WriteStatistics :=
    { terminalWriteSamples :=
        if presentDuration > 0 then
          statistics.terminalWriteSamples.push (milliseconds presentDuration)
        else statistics.terminalWriteSamples
      backpressureEvents :=
        if threshold.isExceededBy (milliseconds presentDuration) then
          statistics.backpressureEvents + 1
        else statistics.backpressureEvents }
  let percentiles := recorded.writePercentiles
  (recorded, ⟨percentiles.1, percentiles.2, recorded.backpressureEvents⟩)

end WriteStatistics

/-! ### What a report should say -/

/-- The positive ones of these times, in milliseconds. -/
def writeSamples (milliseconds : Nat → Rat) (presented : List Nat) : List Rat :=
  (presented.filter (0 < ·)).map milliseconds

/-- The percentiles are those of the newest 256 samples, and every presentation that took longer
than the threshold is counted; `presented` are the presentation times, newest first. -/
structure WriteStats.Reports (milliseconds : Nat → Rat) (threshold : FloatValue)
    (presented : List Nat) (stats : WriteStats) : Prop where
  none : writeSamples milliseconds presented = [] →
    stats.terminalWriteP95Milliseconds = 0 ∧ stats.terminalWriteP99Milliseconds = 0
  p95 : writeSamples milliseconds presented ≠ [] →
    Ranking.OrderStatistic ((writeSamples milliseconds presented).take 256)
      (95 * (min (writeSamples milliseconds presented).length 256 - 1) / 100)
      stats.terminalWriteP95Milliseconds
  p99 : writeSamples milliseconds presented ≠ [] →
    Ranking.OrderStatistic ((writeSamples milliseconds presented).take 256)
      (99 * (min (writeSamples milliseconds presented).length 256 - 1) / 100)
      stats.terminalWriteP99Milliseconds
  backpressureEvents : stats.backpressureEvents =
    presented.countP fun duration => threshold.isExceededBy (milliseconds duration)

namespace WriteStatistics

variable {milliseconds : Nat → Rat} {threshold : FloatValue} {statistics : WriteStatistics}
  {presented : List Nat}

/-- The ring holds the newest samples, and slow presentations have been counted. -/
structure Keeps (milliseconds : Nat → Rat) (threshold : FloatValue) (presented : List Nat)
    (statistics : WriteStatistics) : Prop where
  samples : statistics.terminalWriteSamples.Holds (writeSamples milliseconds presented)
  backpressureEvents : statistics.backpressureEvents =
    presented.countP fun duration => threshold.isExceededBy (milliseconds duration)

/-- A rank below the number of samples is found among those that were sorted. -/
theorem orderStatistic_valueAt {pushed : List Rat}
    (holds : statistics.terminalWriteSamples.Holds pushed) (some : pushed ≠ []) (percent : Nat)
    (share : percent ≤ 100) :
    let samples := statistics.terminalWriteSamples
    Ranking.OrderStatistic (pushed.take 256) (percent * (min pushed.length 256 - 1) / 100)
      ((samples.filled.insertionSort (· ≤ ·) ++ samples.cells.drop samples.count).getD
        (percentileIndex percent samples.count) 0) := by
  intro samples
  have positive := List.length_pos_iff.mpr some
  have counted := holds.count
  have rank : percent * (min pushed.length 256 - 1) / 100 ≤ min pushed.length 256 - 1 := by
    apply Nat.div_le_of_le_mul
    exact Nat.mul_le_mul_right _ share
  have index : percentileIndex percent samples.count =
      percent * (min pushed.length 256 - 1) / 100 := by
    rw [percentileIndex, counted]
    exact Nat.min_eq_left rank
  have sorted : (samples.filled.insertionSort (· ≤ ·)).length = min pushed.length 256 := by
    rw [List.length_insertionSort, RingBuffer.length_filled]
    exact counted
  have inside : percent * (min pushed.length 256 - 1) / 100 <
      (samples.filled.insertionSort (· ≤ ·)).length := by
    rw [sorted]
    omega
  rw [index, List.getD_append _ _ _ _ inside]
  apply (Ranking.orderStatistic_insertionSort _).perm holds.perm_filled
  rw [List.getD_eq_getElem _ _ inside]
  exact List.getElem?_eq_getElem inside

/-- What is kept is reported. -/
theorem Keeps.reports (keeps : Keeps milliseconds threshold presented statistics) :
    WriteStats.Reports milliseconds threshold presented
      ⟨statistics.writePercentiles.1, statistics.writePercentiles.2,
        statistics.backpressureEvents⟩ := by
  have counted := keeps.samples.count
  constructor
  · intro empty
    rw [empty] at counted
    have nothing : statistics.terminalWriteSamples.count = 0 := counted
    simp only [writePercentiles, if_pos nothing, and_self]
  · intro some
    have positive := List.length_pos_iff.mpr some
    simp only [writePercentiles, if_neg (by omega : ¬ statistics.terminalWriteSamples.count = 0)]
    exact orderStatistic_valueAt keeps.samples some 95 (by decide)
  · intro some
    have positive := List.length_pos_iff.mpr some
    simp only [writePercentiles, if_neg (by omega : ¬ statistics.terminalWriteSamples.count = 0)]
    exact orderStatistic_valueAt keeps.samples some 99 (by decide)
  · exact keeps.backpressureEvents

theorem keeps_fresh : Keeps milliseconds threshold [] fresh := ⟨RingBuffer.holds_make _ _, rfl⟩

theorem keeps_restart : Keeps milliseconds threshold [] statistics.restart :=
  ⟨RingBuffer.holds_restart _, rfl⟩

theorem Keeps.record (keeps : Keeps milliseconds threshold presented statistics)
    (presentDuration : Nat) :
    Keeps milliseconds threshold (presentDuration :: presented)
      (statistics.record milliseconds threshold presentDuration).1 where
  samples := by
    by_cases positive : presentDuration > 0
    · have newest : writeSamples milliseconds (presentDuration :: presented) =
          milliseconds presentDuration :: writeSamples milliseconds presented := by
        rw [writeSamples, List.filter_cons_of_pos (by exact decide_eq_true positive),
          List.map_cons, writeSamples]
      rw [newest]
      simp only [WriteStatistics.record, if_pos positive]
      exact keeps.samples.push _
    · have same : writeSamples milliseconds (presentDuration :: presented) =
          writeSamples milliseconds presented := by
        rw [writeSamples, List.filter_cons_of_neg (by simpa using positive), writeSamples]
      rw [same]
      simp only [WriteStatistics.record, if_neg positive]
      exact keeps.samples
  backpressureEvents := by
    rw [List.countP_cons, ← keeps.backpressureEvents]
    simp only [WriteStatistics.record]
    split_ifs <;> rfl

end WriteStatistics

/-! ### Beside the commands on engines -/

inductive MeterEntry (Id : Type u) where
  /-- The engine was constructed or initialized. -/
  | begun (self : Id)
  | presented (self : Id) (presentDuration : Nat)
  /-- The engine was reset, or refused a frame. -/
  | emptied (self : Id)

/-- The times of an engine's presentations since it was initialized last, newest first. -/
def presentationTimes {Id : Type u} [DecidableEq Id] (self : Id) : List (MeterEntry Id) → List Nat
  | [] => []
  | .begun other :: older => if other = self then [] else presentationTimes self older
  | .presented other presentDuration :: older =>
      if other = self then presentDuration :: presentationTimes self older
      else presentationTimes self older
  | .emptied _ :: older => presentationTimes self older

/-- What happened to an engine last is that it recorded a frame. -/
def recordedLast {Id : Type u} [DecidableEq Id] (self : Id) : List (MeterEntry Id) → Bool
  | [] => false
  | .begun other :: older => if other = self then false else recordedLast self older
  | .presented other _ :: older => if other = self then true else recordedLast self older
  | .emptied other :: older => if other = self then false else recordedLast self older

/-- The engines of a process with their statistics of presentation times. -/
structure Metered (Id : Type u) where
  program : Program Id
  statistics : Id → WriteStatistics := fun _ => .fresh
  /-- In `latestStats`. -/
  latestStats : Id → WriteStats := fun _ => {}
  /-- Newest first; the code does not have it. -/
  log : List (MeterEntry Id) := []

namespace Metered

variable {Id : Type u} [DecidableEq Id]

/-- A frame that reaches `record`. -/
def records (program : Program Id) (self : Id) (frame : Frame) : Bool :=
  (program.engines self).initialized && (program.engines self).renderer.isSome &&
    Engine.accepts frame

def perform (host : Host) (milliseconds : Nat → Rat) (metered : Metered Id)
    (command : Program.Command Id × Nat) : Metered Id :=
  let next := metered.program.perform host command.1
  match command.1 with
  | .initializeEngine self requested around =>
      if (metered.program.initializeEngine host self requested around).2.code = .none then
        { program := next
          statistics := Function.update metered.statistics self (metered.statistics self).restart
          latestStats := Function.update metered.latestStats self {}
          log := .begun self :: metered.log }
      else { metered with program := next }
  | .render self _ _ frame =>
      if records metered.program self frame then
        let threshold := (metered.program.engines self).options.backpressureThresholdMilliseconds
        let recorded := (metered.statistics self).record milliseconds threshold command.2
        { program := next
          statistics := Function.update metered.statistics self recorded.1
          latestStats := Function.update metered.latestStats self recorded.2
          log := .presented self command.2 :: metered.log }
      else
        { metered with
          program := next
          latestStats := Function.update metered.latestStats self {}
          log := .emptied self :: metered.log }
  | .reset self =>
      { metered with
        program := next
        latestStats := Function.update metered.latestStats self {}
        log := .emptied self :: metered.log }
  | .discard self =>
      { program := next
        statistics := Function.update metered.statistics self .fresh
        latestStats := Function.update metered.latestStats self {}
        log := .begun self :: metered.log }
  | _ => { metered with program := next }

def run (host : Host) (milliseconds : Nat → Rat) (metered : Metered Id)
    (commands : List (Program.Command Id × Nat)) : Metered Id :=
  commands.foldl (perform host milliseconds) metered

/-! ### What a command leaves -/

variable {host : Host} {milliseconds : Nat → Rat} {metered : Metered Id} {self other : Id}
  {base : List ControlHandler}

theorem program_perform (command : Program.Command Id × Nat) :
    (metered.perform host milliseconds command).program =
      metered.program.perform host command.1 := by
  obtain ⟨command, presentDuration⟩ := command
  cases command with
  | initializeEngine self requested around =>
      simp only [perform]
      split_ifs <;> rfl
  | render self window fontSize frame =>
      simp only [perform]
      split_ifs <;> rfl
  | _ => rfl

/-- Nothing is noted about an engine that a command is not about. -/
theorem perform_other (command : Program.Command Id × Nat)
    (distinct : command.1.engine ≠ some self) :
    (metered.perform host milliseconds command).statistics self = metered.statistics self ∧
      (metered.perform host milliseconds command).latestStats self = metered.latestStats self ∧
      presentationTimes self (metered.perform host milliseconds command).log =
        presentationTimes self metered.log ∧
      recordedLast self (metered.perform host milliseconds command).log =
        recordedLast self metered.log := by
  obtain ⟨command, presentDuration⟩ := command
  have apart : ∀ named : Id, some named ≠ some self → self ≠ named ∧ named ≠ self :=
    fun named differs => ⟨fun same => differs (by rw [same]), fun same => differs (by rw [same])⟩
  cases command with
  | initializeEngine named requested around =>
      obtain ⟨left, right⟩ := apart named distinct
      simp only [perform]
      split_ifs
      · exact ⟨Function.update_of_ne left .., Function.update_of_ne left .., if_neg right,
          if_neg right⟩
      · exact ⟨rfl, rfl, rfl, rfl⟩
  | render named window fontSize frame =>
      obtain ⟨left, right⟩ := apart named distinct
      simp only [perform]
      split_ifs
      · exact ⟨Function.update_of_ne left .., Function.update_of_ne left .., if_neg right,
          if_neg right⟩
      · exact ⟨rfl, Function.update_of_ne left .., rfl, if_neg right⟩
  | reset named =>
      obtain ⟨left, right⟩ := apart named distinct
      exact ⟨rfl, Function.update_of_ne left .., rfl, if_neg right⟩
  | discard named =>
      obtain ⟨left, right⟩ := apart named distinct
      exact ⟨Function.update_of_ne left .., Function.update_of_ne left .., if_neg right,
        if_neg right⟩
  | shutdown named => exact ⟨rfl, rfl, rfl, rfl⟩
  | clear named => exact ⟨rfl, rfl, rfl, rfl⟩
  | controlEvent event => exact ⟨rfl, rfl, rfl, rfl⟩
  | setModes outputMode stdoutMode => exact ⟨rfl, rfl, rfl, rfl⟩

/-- The request that an engine runs under. -/
structure SameRequest (before after : EngineImpl) : Prop where
  options : after.options = before.options
  initialized : after.initialized = before.initialized

theorem sameRequest_renderFrame (program : Program Id) (self : Id)
    (window : Option ConsoleWindow) (fontSize : Option (Int × Int)) (frame : Frame) :
    SameRequest (program.engines self)
      ((program.renderFrame host self window fontSize frame).1.engines self) := by
  unfold Program.renderFrame
  split
  · dsimp only
    rw [Program.engines_update_self, Program.engines_send, Program.engines_observe]
    exact ⟨EngineImpl.options_reportFailure _ _, EngineImpl.initialized_reportFailure _ _⟩
  · dsimp only
    rw [Program.engines_update_self]
    exact ⟨rfl, rfl⟩

theorem sameRequest_clear (program : Program Id) (self : Id) :
    SameRequest (program.engines self) ((program.clear self).1.engines self) := by
  unfold Program.clear
  split
  · dsimp only
    rw [Program.engines_update_self, Program.engines_send]
    exact ⟨EngineImpl.options_reportFailure _ _, EngineImpl.initialized_reportFailure _ _⟩
  · dsimp only [Program.fail]
    rw [Program.engines_update_self]
    exact ⟨rfl, rfl⟩

theorem sameRequest_reset (program : Program Id) (self : Id) :
    SameRequest (program.engines self) ((program.reset self).engines self) := by
  unfold Program.reset
  rw [Program.engines_update_self]
  exact ⟨rfl, rfl⟩

/-! ### The invariant -/

/-- The threshold an engine compares presentation times with. -/
def threshold (metered : Metered Id) (self : Id) : FloatValue :=
  (metered.program.engines self).options.backpressureThresholdMilliseconds

/-- What is known of one engine's statistics; without `initialize` nobody asks for them under
another request. -/
structure Exact (milliseconds : Nat → Rat) (metered : Metered Id) (own : Id) : Prop where
  keeps : ∃ threshold,
    WriteStatistics.Keeps milliseconds threshold (presentationTimes own metered.log)
      (metered.statistics own) ∧
    ((metered.program.engines own).initialized = true → threshold = metered.threshold own)
  reports : (metered.program.engines own).initialized = true →
    recordedLast own metered.log = true →
      WriteStats.Reports milliseconds (metered.threshold own)
        (presentationTimes own metered.log) (metered.latestStats own)
  empty : (metered.program.engines own).initialized = true →
    recordedLast own metered.log = false → metered.latestStats own = {}

/-- Only what is read of an engine matters. -/
theorem Exact.congr {next : Metered Id} (exact : Exact milliseconds metered self)
    (statistics : next.statistics self = metered.statistics self)
    (latestStats : next.latestStats self = metered.latestStats self)
    (times : presentationTimes self next.log = presentationTimes self metered.log)
    (last : recordedLast self next.log = recordedLast self metered.log)
    (same : SameRequest (metered.program.engines self) (next.program.engines self)) :
    Exact milliseconds next self := by
  have sameThreshold : next.threshold self = metered.threshold self := by
    rw [threshold, threshold, same.options]
  obtain ⟨limit, keeps, current⟩ := exact.keeps
  constructor
  · refine ⟨limit, ?_, fun initialized => ?_⟩
    · rw [times, statistics]
      exact keeps
    · rw [sameThreshold]
      exact current (same.initialized.symm.trans initialized)
  · intro initialized recorded
    rw [latestStats, sameThreshold, times]
    exact exact.reports (same.initialized.symm.trans initialized) (last.symm.trans recorded)
  · intro initialized nothing
    rw [latestStats]
    exact exact.empty (same.initialized.symm.trans initialized) (last.symm.trans nothing)

/-- An engine that is not initialized reports nothing new. -/
theorem Exact.down {next : Metered Id} (exact : Exact milliseconds metered self)
    (statistics : next.statistics self = metered.statistics self)
    (times : presentationTimes self next.log = presentationTimes self metered.log)
    (down : (next.program.engines self).initialized = false) :
    Exact milliseconds next self := by
  obtain ⟨limit, keeps, -⟩ := exact.keeps
  constructor
  · refine ⟨limit, ?_, fun initialized => absurd (down.symm.trans initialized) (by decide)⟩
    rw [times, statistics]
    exact keeps
  · exact fun initialized => absurd (down.symm.trans initialized) (by decide)
  · exact fun initialized => absurd (down.symm.trans initialized) (by decide)

/-- Statistics that begin. -/
theorem exact_of_begun {next : Metered Id} {limit : FloatValue}
    (keeps : WriteStatistics.Keeps milliseconds limit [] (next.statistics self))
    (latestStats : next.latestStats self = {}) (times : presentationTimes self next.log = [])
    (last : recordedLast self next.log = false) : Exact milliseconds next self := by
  refine ⟨⟨next.threshold self, ?_, fun _ => rfl⟩,
    fun _ recorded => absurd (last.symm.trans recorded) (by decide), fun _ _ => latestStats⟩
  rw [times]
  exact ⟨keeps.samples, keeps.backpressureEvents⟩

/-- A render of an initialized engine is recorded and reported. -/
theorem reports_render (exact : Exact milliseconds metered self) {frame : Frame}
    (recorded : records metered.program self frame = true) (window : Option ConsoleWindow)
    (fontSize : Option (Int × Int)) (presentDuration : Nat) :
    let next := metered.perform host milliseconds
      (.render self window fontSize frame, presentDuration)
    WriteStatistics.Keeps milliseconds (metered.threshold self)
        (presentDuration :: presentationTimes self metered.log) (next.statistics self) ∧
      WriteStats.Reports milliseconds (metered.threshold self)
        (presentDuration :: presentationTimes self metered.log) (next.latestStats self) := by
  intro next
  have initialized : (metered.program.engines self).initialized = true := by
    simp only [records, Bool.and_eq_true] at recorded
    exact recorded.1.1
  obtain ⟨limit, keeps, current⟩ := exact.keeps
  rw [current initialized] at keeps
  have after := keeps.record presentDuration
  have statistics : next.statistics self = ((metered.statistics self).record milliseconds
      (metered.threshold self) presentDuration).1 := by
    simp only [next, perform, if_pos recorded, Function.update_self, threshold]
  have latest : next.latestStats self = ((metered.statistics self).record milliseconds
      (metered.threshold self) presentDuration).2 := by
    simp only [next, perform, if_pos recorded, Function.update_self, threshold]
  rw [statistics, latest]
  exact ⟨after, after.reports⟩

/-- A frame that is not recorded empties the report. -/
theorem latestStats_of_refused {frame : Frame}
    (refused : records metered.program self frame = false) (window : Option ConsoleWindow)
    (fontSize : Option (Int × Int)) (presentDuration : Nat) :
    (metered.perform host milliseconds
      (.render self window fontSize frame, presentDuration)).latestStats self = {} := by
  simp only [perform, if_neg (ne_true_of_eq_false refused), Function.update_self]

theorem exact_render (exact : Exact milliseconds metered self) (window : Option ConsoleWindow)
    (fontSize : Option (Int × Int)) (frame : Frame) (presentDuration : Nat) :
    Exact milliseconds
      (metered.perform host milliseconds (.render self window fontSize frame, presentDuration))
      self := by
  have same := @sameRequest_renderFrame Id _ host metered.program self window fontSize frame
  have program := @program_perform Id _ host milliseconds metered
    (.render self window fontSize frame, presentDuration)
  have sameThreshold : (metered.perform host milliseconds
      (.render self window fontSize frame, presentDuration)).threshold self =
        metered.threshold self := by
    rw [threshold, program]
    exact congrArg _ same.options
  by_cases recorded : records metered.program self frame = true
  · obtain ⟨keeps, reports⟩ := @reports_render Id _ host milliseconds metered self exact frame
      recorded window fontSize presentDuration
    have times : presentationTimes self (metered.perform host milliseconds
        (.render self window fontSize frame, presentDuration)).log =
          presentDuration :: presentationTimes self metered.log := by
      simp only [perform, if_pos recorded, presentationTimes, if_pos]
    have last : recordedLast self (metered.perform host milliseconds
        (.render self window fontSize frame, presentDuration)).log = true := by
      simp only [perform, if_pos recorded, recordedLast, if_pos]
    constructor
    · rw [times]
      exact ⟨metered.threshold self, keeps, fun _ => sameThreshold.symm⟩
    · intro _ _
      rw [times, sameThreshold]
      exact reports
    · exact fun _ nothing => absurd (last.symm.trans nothing) (by decide)
  · obtain ⟨limit, keeps, current⟩ := exact.keeps
    have last : recordedLast self (metered.perform host milliseconds
        (.render self window fontSize frame, presentDuration)).log = false := by
      simp only [perform, if_neg recorded, recordedLast, if_pos]
    constructor
    · refine ⟨limit, ?_, fun initialized => ?_⟩
      · simp only [perform, if_neg recorded]
        exact keeps
      · rw [program] at initialized
        rw [sameThreshold]
        exact current (same.initialized.symm.trans initialized)
    · exact fun _ reported => absurd (last.symm.trans reported) (by decide)
    · exact fun _ _ => latestStats_of_refused (eq_false_of_ne_true recorded) window fontSize
        presentDuration

/-- A command on the engine itself. -/
theorem exact_perform (exact : Exact milliseconds metered self)
    (sound : metered.program.process.Sound base) (command : Program.Command Id × Nat)
    (named : command.1.engine = some self) :
    Exact milliseconds (metered.perform host milliseconds command) self := by
  have program := @program_perform Id _ host milliseconds metered command
  obtain ⟨command, presentDuration⟩ := command
  cases command with
  | initializeEngine own requested around =>
      obtain rfl : own = self := Option.some.inj named
      have ends := @Program.ends_initializeEngine Id _ host metered.program own requested around
        base sound
      by_cases code :
          (metered.program.initializeEngine host own requested around).2.code = .none
      · obtain ⟨limit, -, -⟩ := exact.keeps
        apply @exact_of_begun Id _ milliseconds own _ limit
        · simp only [perform, if_pos code, Function.update_self]
          exact WriteStatistics.keeps_restart
        · simp only [perform, if_pos code, Function.update_self]
        · simp only [perform, if_pos code, presentationTimes, if_pos]
        · simp only [perform, if_pos code, recordedLast, if_pos]
      · apply exact.down
        · simp only [perform, if_neg code]
        · simp only [perform, if_neg code]
        · rw [program]
          exact (ends.failed code).1.initialized
  | shutdown own =>
      obtain rfl : own = self := Option.some.inj named
      refine @Exact.down Id _ milliseconds metered own _ exact rfl rfl ?_
      rw [program]
      exact (Program.down_shutdown metered.program own).initialized
  | render own window fontSize frame =>
      obtain rfl : own = self := Option.some.inj named
      exact exact_render exact window fontSize frame presentDuration
  | clear own =>
      obtain rfl : own = self := Option.some.inj named
      exact exact.congr rfl rfl rfl rfl (sameRequest_clear metered.program own)
  | reset own =>
      obtain rfl : own = self := Option.some.inj named
      have last : recordedLast own (.emptied own :: metered.log) = false := if_pos rfl
      have emptied : Exact milliseconds
          { metered with
            latestStats := Function.update metered.latestStats own {}
            log := .emptied own :: metered.log } own :=
        ⟨exact.keeps, fun _ recorded => absurd (last.symm.trans recorded) (by decide),
          fun _ _ => Function.update_self ..⟩
      exact emptied.congr rfl rfl rfl rfl (sameRequest_reset metered.program own)
  | discard own =>
      obtain rfl : own = self := Option.some.inj named
      obtain ⟨limit, -, -⟩ := exact.keeps
      apply @exact_of_begun Id _ milliseconds own _ limit
      · simp only [perform, Function.update_self]
        exact WriteStatistics.keeps_fresh
      · simp only [perform, Function.update_self]
      · simp only [perform, presentationTimes, if_pos]
      · simp only [perform, recordedLast, if_pos]
  | controlEvent event => cases named
  | setModes outputMode stdoutMode => cases named

/-! ### Runs -/

/-- A command changes no engine but its own. -/
theorem engines_perform_other {program : Program Id} (sound : Program.Sound base none program)
    (command : Program.Command Id) (apart : command.engine ≠ some self) :
    (program.perform host command).engines self = program.engines self := by
  cases engine : command.engine with
  | some other =>
      have course : Program.Course host other program (program.perform host command) :=
        Program.course_perform program sound.process command engine
      apply (course.chain.localStep (sound.enter other)).engines
      intro same
      exact apart (by rw [engine, same])
  | none =>
      cases command with
      | controlEvent event => rfl
      | setModes outputMode stdoutMode => rfl
      | _ => cases engine

structure Sound (base : List ControlHandler) (milliseconds : Nat → Rat) (metered : Metered Id) :
    Prop where
  program : Program.Sound base none metered.program
  exact : ∀ own, Exact milliseconds metered own

theorem Sound.perform (sound : Sound base milliseconds metered)
    (command : Program.Command Id × Nat) :
    Sound base milliseconds (metered.perform host milliseconds command) := by
  have program := @program_perform Id _ host milliseconds metered command
  refine ⟨?_, fun own => ?_⟩
  · rw [program]
    exact sound.program.perform command.1
  by_cases named : command.1.engine = some own
  · exact exact_perform (sound.exact own) sound.program.process command named
  · obtain ⟨statistics, latestStats, times, last⟩ :=
      @perform_other Id _ host milliseconds metered own command named
    apply (sound.exact own).congr statistics latestStats times last
    have untouched : (metered.program.perform host command.1).engines own =
        metered.program.engines own := engines_perform_other sound.program command.1 named
    rw [program, untouched]
    exact ⟨rfl, rfl⟩

theorem Sound.run (sound : Sound base milliseconds metered)
    (commands : List (Program.Command Id × Nat)) :
    Sound base milliseconds (metered.run host milliseconds commands) := by
  induction commands generalizing metered with
  | nil => exact sound
  | cons command rest inductionHypothesis => exact inductionHypothesis (sound.perform command)

/-- No engine has been initialized. -/
def initial (outputMode : UInt32) (stdoutMode : TranslationMode)
    (handlers : List ControlHandler) : Metered Id where
  program := .initial outputMode stdoutMode handlers

theorem sound_initial (outputMode : UInt32) (stdoutMode : TranslationMode)
    (handlers : List ControlHandler) :
    Sound handlers milliseconds (initial outputMode stdoutMode handlers : Metered Id) where
  program := Program.sound_initial outputMode stdoutMode handlers
  exact := fun _ =>
    @exact_of_begun Id _ milliseconds _ _ .nan WriteStatistics.keeps_fresh rfl rfl rfl

/-- Whatever is called on however many engines, and however long each presentation takes: a frame
that an engine records is reported with the percentiles of its newest 256 positive presentation
times and with the number of its slow presentations, this one included, since it was initialized
last; a frame it refuses and a reset empty the report; and between the calls an initialized engine
answers with the report of the frame it recorded last, unless the report has been emptied since. -/
theorem write_statistics_exact (host : Host) (milliseconds : Nat → Rat) (outputMode : UInt32)
    (stdoutMode : TranslationMode) (handlers : List ControlHandler)
    (commands : List (Program.Command Id × Nat)) (self : Id) :
    let metered := (initial outputMode stdoutMode handlers).run host milliseconds commands
    (∀ (window : Option ConsoleWindow) (fontSize : Option (Int × Int)) (frame : Frame)
        (presentDuration : Nat),
      let next := metered.perform host milliseconds
        (.render self window fontSize frame, presentDuration)
      (records metered.program self frame = true →
        WriteStats.Reports milliseconds (metered.threshold self)
          (presentDuration :: presentationTimes self metered.log) (next.latestStats self)) ∧
        (records metered.program self frame = false → next.latestStats self = {})) ∧
      (∀ presentDuration,
        let next := metered.perform host milliseconds (.reset self, presentDuration)
        next.latestStats self = {} ∧
          presentationTimes self next.log = presentationTimes self metered.log) ∧
      ((metered.program.engines self).initialized = true →
        (recordedLast self metered.log = true →
          WriteStats.Reports milliseconds (metered.threshold self)
            (presentationTimes self metered.log) (metered.latestStats self)) ∧
          (recordedLast self metered.log = false → metered.latestStats self = {})) := by
  intro metered
  have sound : Sound handlers milliseconds metered :=
    (sound_initial outputMode stdoutMode handlers).run commands
  have exact := sound.exact self
  refine ⟨fun window fontSize frame presentDuration => ⟨fun recorded => ?_, fun refused => ?_⟩,
    fun _ => ⟨Function.update_self .., rfl⟩,
    fun initialized => ⟨exact.reports initialized, exact.empty initialized⟩⟩
  · exact (reports_render exact recorded window fontSize presentDuration).2
  · exact latestStats_of_refused refused window fontSize presentDuration

/-- An engine renders three times and is cleared and reset in between; the other one is refused. -/
def threeRenders : List (Program.Command Bool × Nat) :=
  let around : Surroundings := { console := Process.obliging, responses := fun _ => true }
  [(.initializeEngine true { customOutput := true } around, 0),
    (.render true none none (.indexed .stripes), 1000),
    (.clear true, 0),
    (.render false none none (.indexed .stripes), 0),
    (.render true none none (.indexed .stripes), 20000),
    (.reset true, 0),
    (.render true none none (.indexed .stripes), 0)]

theorem write_statistics_exact_threeRenders :
    let milliseconds : Nat → Rat := fun count => count / 1000
    let metered := (initial 3 .text [] : Metered Bool).run Host.plain milliseconds threeRenders
    WriteStats.Reports milliseconds (.finite 12) [5000, 0, 20000, 1000]
      ((metered.perform Host.plain milliseconds
        (.render true none none (.indexed .stripes), 5000)).latestStats true) := by
  intro milliseconds metered
  have times : presentationTimes true metered.log = [0, 20000, 1000] := by decide +kernel
  have threshold : metered.threshold true = .finite 12 := by decide +kernel
  rw [← threshold, ← times]
  exact ((write_statistics_exact Host.plain milliseconds 3 .text [] threeRenders true).1 none none
    (.indexed .stripes) 5000).1 (by decide +kernel)

end Metered

end Rasterm
