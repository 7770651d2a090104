/-
A live session, call by call.

The owner of a runner starts it, feeds it ticks and stops it, in any order and any
number of times.  The calls before the first stop decide which bars are processed.  A
run of calls ends with the first exception.
-/

import TradingEngine.LiveData.CandleCompleteness
import TradingEngine.Paper.DriverAgreement

namespace TradingEngine.Paper

open Backtest BucketSeries Domain LiveData RoundLoop

/-- The runner with its candle builder; `stopped` is the stop event. -/
structure TickState (σ : Type) where
  builder : CandleBuilder
  runner : RunnerState σ
  stopped : Bool

inductive SessionCall where
  | start
  | onTick (tick : LiveTick)
  | stop

def SessionCall.isStop : SessionCall → Bool
  | .stop => true
  | _ => false

def ticksHeard : List SessionCall → List LiveTick
  | [] => []
  | .start :: rest => ticksHeard rest
  | .onTick tick :: rest => tick :: ticksHeard rest
  | .stop :: _rest => []

namespace PaperLiveRunner

variable {σ κ : Type} (runner : PaperLiveRunner σ κ)

def onTick (tick : LiveTick) (state : TickState σ) : Except EngineError (TickState σ) :=
  if state.stopped then .ok state
  else
    let (bar, builder) := state.builder.addTick tick
    match bar with
    | none => .ok { state with builder := builder }
    | some bar =>
        match runner.processBar bar state.runner with
        | .error raised => .error raised
        | .ok processed => .ok { state with builder := builder, runner := processed }

/-- `stop`; no strategy overrides `on_stop`. -/
def stop (state : TickState σ) : Except EngineError (TickState σ) :=
  let (bars, builder) := state.builder.flush
  match runner.processBars bars state.runner with
  | .error raised => .error raised
  | .ok processed => .ok { builder := builder, runner := processed, stopped := true }

def call (state : TickState σ) : SessionCall → Except EngineError (TickState σ)
  | .start =>
      match runner.start state.runner with
      | .error raised => .error raised
      | .ok started => .ok { state with runner := started }
  | .onTick tick => runner.onTick tick state
  | .stop => runner.stop state

def calls : List SessionCall → TickState σ → Except EngineError (TickState σ)
  | [], state => .ok state
  | next :: rest, state =>
      match runner.call state next with
      | .error raised => .error raised
      | .ok state => calls rest state

def liveSession (builder : CandleBuilder) (later : List SessionCall) :
    Except EngineError (TickState σ) :=
  runner.calls (.start :: later) { builder := builder, runner := runner.new, stopped := false }

/-! ### The bars of a session -/

/-- The bars that the calls complete: those of the ticks heard, then at the first stop the
open candles. -/
def barsOf (builder : CandleBuilder) (later : List SessionCall) : List Domain.Bar :=
  let added := builder.addTicks (ticksHeard later)
  added.1 ++ if later.any SessionCall.isStop then added.2.flush.1 else []

theorem barsOf_onTick (builder : CandleBuilder) (tick : LiveTick) (rest : List SessionCall) :
    barsOf builder (.onTick tick :: rest) =
      (builder.addTick tick).1.toList ++ barsOf (builder.addTick tick).2 rest :=
  List.append_assoc _ _ _

variable {runner}

def SameStarted (before after : RunnerState σ) : Prop :=
  after.started = before.started

theorem SameStarted.refl (state : RunnerState σ) : SameStarted state state :=
  rfl

theorem SameStarted.trans (first second third : RunnerState σ)
    (earlier : SameStarted first second) (later : SameStarted second third) :
    SameStarted first third :=
  Eq.trans later earlier

theorem started_processBars {bars : List Domain.Bar} {state state' : RunnerState σ}
    (processed : runner.processBars bars state = .ok state') :
    state'.started = state.started := by
  rw [processBars_eq] at processed
  change SameStarted state state'
  refine run_rel SameStarted.refl SameStarted.trans ?_ processed
  intro bar _member state state' stepped
  refine step_rel SameStarted.refl SameStarted.trans ?_ ?_ ?_ stepped
  · intro state handed state' entered
    change runner.onBar bar state = _ at entered
    unfold onBar at entered
    split at entered
    · cases entered
    · cases entered
      exact SameStarted.refl state
  · intro intent state state' handled
    change runner.handleIntent bar intent state = _ at handled
    unfold handleIntent at handled
    split at handled
    · cases handled
    · cases handled
      unfold SameStarted
      dsimp only
      split
      · rfl
      · split_ifs <;> rfl
  · intro state
    exact SameStarted.refl state

theorem processBars_append (first second : List Domain.Bar) (state : RunnerState σ) :
    runner.processBars (first ++ second) state =
      match runner.processBars first state with
      | .error raised => .error raised
      | .ok processed => runner.processBars second processed := by
  induction first generalizing state with
  | nil => rfl
  | cons bar rest ih =>
      change (match runner.processBar bar state with
        | .error raised => Except.error raised
        | .ok state => runner.processBars (rest ++ second) state) =
          (match (match runner.processBar bar state with
              | .error raised => Except.error raised
              | .ok state => runner.processBars rest state) with
            | .error raised => .error raised
            | .ok processed => runner.processBars second processed)
      cases runner.processBar bar state with
      | error raised => rfl
      | ok processed => exact ih processed

theorem onTick_running {state : TickState σ} (running : state.stopped = false) (tick : LiveTick) :
    runner.onTick tick state =
      (runner.processBars (state.builder.addTick tick).1.toList state.runner).map
        (fun processed =>
          { builder := (state.builder.addTick tick).2
            runner := processed
            stopped := false }) := by
  obtain ⟨builder, kept, stopped⟩ := state
  cases running
  unfold onTick
  rw [if_neg Bool.false_ne_true]
  dsimp only
  cases (builder.addTick tick).1 with
  | none => rfl
  | some bar =>
      dsimp only [Option.toList_some]
      unfold processBars
      cases runner.processBar bar kept with
      | error raised => rfl
      | ok processed => rfl

theorem started_start {state : RunnerState σ} (started : state.started = true) :
    runner.start state = .ok state :=
  if_pos started

theorem calls_stopped {state : TickState σ} (later : List SessionCall)
    (stopped : state.stopped = true) (started : state.runner.started = true)
    (flushed : state.builder.openCandles = OrderedDict.empty) :
    runner.calls later state = .ok state := by
  have unchanged : ∀ next, runner.call state next = .ok state := by
    intro next
    cases next with
    | start =>
        unfold call
        rw [started_start started]
    | onTick tick => exact if_pos stopped
    | stop =>
        obtain ⟨⟨interval, candles, positive⟩, kept, signal⟩ := state
        cases stopped
        cases flushed
        rfl
  induction later with
  | nil => rfl
  | cons next rest ih =>
      unfold calls
      rw [unchanged next]
      exact ih

theorem calls_eq {state : TickState σ} (later : List SessionCall)
    (running : state.stopped = false) (started : state.runner.started = true) :
    (runner.calls later state).map TickState.runner =
      runner.processBars (barsOf state.builder later) state.runner := by
  induction later generalizing state with
  | nil => rfl
  | cons next rest ih =>
      cases next with
      | start =>
          unfold calls call
          rw [started_start started]
          exact ih running started
      | onTick tick =>
          unfold calls call
          dsimp only
          rw [barsOf_onTick, onTick_running running, processBars_append]
          cases processed : runner.processBars (state.builder.addTick tick).1.toList
              state.runner with
          | error raised => rfl
          | ok kept => exact ih rfl ((started_processBars processed).trans started)
      | stop =>
          unfold calls call stop
          change _ = runner.processBars state.builder.flush.1 state.runner
          dsimp only
          cases processed : runner.processBars state.builder.flush.1 state.runner with
          | error raised => rfl
          | ok kept =>
              dsimp only
              rw [calls_stopped rest rfl ((started_processBars processed).trans started) rfl]
              rfl

theorem liveSession_eq (builder : CandleBuilder) (later : List SessionCall) :
    (runner.liveSession builder later).map TickState.runner =
      runner.session (barsOf builder later) := by
  unfold liveSession calls call session
  dsimp only
  cases opened : runner.start runner.new with
  | error raised => rfl
  | ok started =>
      refine calls_eq later rfl ?_
      unfold start at opened
      rw [if_neg (show ¬ runner.new.started = true from Bool.false_ne_true)] at opened
      split at opened
      · cases opened
      · cases opened
        rfl

/-! ### The backtest of a session -/

theorem Shadows.outcome {shadow : Session σ} {state : RunnerState σ}
    (shadows : Shadows shadow state) : shadow.outcome = state.outcome := by
  unfold Session.outcome RunnerState.outcome
  rw [shadows.fills, shadows.rejected, shadows.portfolio]

theorem barsFor_eq_of_forall_key {intervalSeconds : ℕ} (interval_pos : 0 < intervalSeconds)
    {ticks : List LiveTick} {symbol : String} (own : ∀ tick ∈ ticks, tick.key = symbol) :
    (CandleBuilder.new intervalSeconds interval_pos).barsFor ticks symbol =
      ((CandleBuilder.new intervalSeconds interval_pos).addTicks ticks).1 ++
        ((CandleBuilder.new intervalSeconds interval_pos).addTicks ticks).2.flush.1 := by
  refine List.filter_eq_self.mpr ?_
  intro bar member
  have present : bar ∈ (CandleBuilder.new intervalSeconds interval_pos).barsFor ticks bar.symbol :=
    List.mem_filter.mpr ⟨member, decide_eq_true rfl⟩
  refine decide_eq_true ?_
  by_contra other
  have none : ticks.filter (fun tick => tick.key = bar.symbol) = [] := by
    refine List.filter_eq_nil_iff.mpr ?_
    intro tick heard same
    exact other ((of_decide_eq_true same).symm.trans (own tick heard))
  rw [CandleBuilder.barsFor_eq, none] at present
  cases present

end PaperLiveRunner

/-! ### One symbol, stopped twice -/

/-- A tick between the two stops comes too late. -/
def stoppedTwice : List SessionCall :=
  [.onTick (sampleTick "INFY" 1 100 (by norm_num)), .start,
    .onTick (sampleTick "INFY" 61 102 (by norm_num)), .stop,
    .onTick (sampleTick "INFY" 121 90 (by norm_num)), .stop]

end TradingEngine.Paper
