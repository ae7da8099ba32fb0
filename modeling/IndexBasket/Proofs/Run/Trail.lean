import IndexBasket.Proofs.Run.Course
import IndexBasket.Proofs.Run.Machine
import IndexBasket.Proofs.Scenario.Setup

namespace IndexBasket

open IndexBasket.Action

/-- The event of the engine that a line tells of. -/
def AuditLine.event? : AuditLine → Option Event
  | .event recorded _ => some recorded
  | _ => none

namespace Session

open IndexBasket.Engine (Command)

/-- The events of the engine that stand in the trail. -/
def told (session : Session) : List Event := session.trail.filterMap AuditLine.event?

/-- How often something of a name is told of, in the trail or by an event that is still to
be told. -/
def tally (session : Session) (name : String) : Nat :=
  (session.trail.map AuditLine.name).count name + (session.engine.events.map Event.name).count name

variable {keeper : Keeper} {start session after : Session} {made calls : List (CallContext × Command)}

/-- Lines for the terminal are no lines of the trail. -/
theorem trail_printed (session : Session) (lines : List String) :
    (session.outputs ++ lines.map Output.printed).filterMap Output.written? = session.trail := by
  have none : (lines.map Output.printed).filterMap Output.written? = [] := by
    rw [List.filterMap_map]
    exact List.filterMap_eq_nil_iff.mpr fun _ _ => rfl
  rw [List.filterMap_append, none, List.append_nil]
  rfl

theorem trail_written (session : Session) (lines : List AuditLine) :
    (session.outputs ++ lines.map Output.written).filterMap Output.written? = session.trail ++ lines := by
  rw [List.filterMap_append, List.filterMap_map]
  exact congrArg (session.trail ++ ·) List.filterMap_some

theorem told_of_trail (same : after.trail = session.trail) : after.told = session.told :=
  congrArg (List.filterMap AuditLine.event?) same

theorem told_untold {line : AuditLine} (written : after.trail = session.trail ++ [line]) (other : line.event? = none) :
    after.told = session.told := by
  rw [told, written, List.filterMap_append, List.filterMap_cons_none other, List.filterMap_nil, List.append_nil]
  rfl

theorem told_refused (session : Session) (operation : Operation) (component : Option Address) (cause : EngineError) :
    (session.refused operation component cause).told = session.told := by
  unfold refused
  split
  · rfl
  · exact told_untold (trail_written session [_]) rfl

theorem trail_flushed : session.flushed.trail =
    session.trail ++ session.engine.events.map (AuditLine.event · session.clock) :=
  trail_written session _

theorem told_flushed (session : Session) : session.flushed.told = session.told ++ session.engine.events := by
  have events : ∀ events : List Event,
      (events.map (AuditLine.event · session.clock)).filterMap AuditLine.event? = events := by
    intro events
    rw [List.filterMap_map]
    exact List.filterMap_some
  rw [told, trail_flushed, List.filterMap_append, events]
  rfl

/-- A turn does to the engine what its calls do to one from which no event is ever taken. -/
theorem Turn.replays (turn : Turn keeper session made after) :
    after.engine.withEarlier after.told = finalAll Command.made made (session.engine.withEarlier session.told) := by
  have replayed : ∀ {call : CallContext × Command} {after : Session}, after.told = session.told →
      (Command.made call).final session.engine = after.engine →
      after.engine.withEarlier after.told = finalAll Command.made [call] (session.engine.withEarlier session.told) := by
    intro call after same made
    rw [same, ← made]
    exact ((Engine.commutes_perform call.1 call.2).final session.engine).symm
  cases turn with
  | print lines => exact congrArg (Engine.withEarlier · session.engine) (told_of_trail (trail_printed session lines))
  | opening | wait => rfl
  | notice notice =>
    refine congrArg (Engine.withEarlier · session.engine) ?_
    cases notice <;> exact told_untold (trail_written session [_]) rfl
  | trade trades run => exact replayed (told_of_trail (trail_printed session [_])) (final_of_ok run)
  | raise left run =>
    exact replayed (told_of_trail (trail_printed session [_])) (final_of_ok (map_eq_ok.mpr ⟨_, run, rfl⟩))
  | refusal asks stopped =>
    refine replayed (told_refused session _ _ _) ?_
    rw [engine_refused]
    exact final_of_error stopped
  | flush =>
    rw [told_flushed, ← Engine.withEarlier_withEarlier]
    refine congrArg (Engine.withEarlier session.told) ?_
    rw [Engine.withEarlier, flushed, List.append_nil]

theorem Course.replays (course : Course keeper start calls session) :
    session.engine.withEarlier session.told = finalAll Command.made calls (start.engine.withEarlier start.told) := by
  induction course with
  | start => rfl
  | next _ turn ih => rw [finalAll_append, ← ih, turn.replays]

/-- What has been counted is told of as often. -/
structure Tallied (session : Session) : Prop where
  trades : session.tally "trade_executed" = session.trades
  raises : session.tally "asset_targets_raised" = session.raises
  failures : session.tally "call_failed" = session.failures

theorem tally_event {event : Event} (recorded : after.engine.events = session.engine.events ++ [event])
    (trail : after.trail = session.trail) (name : String) :
    after.tally name = session.tally name + if event.name = name then 1 else 0 := by
  unfold tally
  rw [trail, recorded, List.map_append, List.count_append, List.map_singleton, List.count_singleton, Nat.add_assoc]
  simp only [beq_iff_eq]

theorem tally_line {line : AuditLine} (written : after.trail = session.trail ++ [line])
    (engine : after.engine = session.engine) (name : String) :
    after.tally name = session.tally name + if line.name = name then 1 else 0 := by
  unfold tally
  rw [written, engine, List.map_append, List.count_append, List.map_singleton, List.count_singleton,
    Nat.add_right_comm]
  simp only [beq_iff_eq]

/-- To move events to the trail changes no tally. -/
theorem tally_flushed (session : Session) (name : String) : session.flushed.tally name = session.tally name := by
  unfold tally
  rw [trail_flushed, List.map_append, List.map_map, List.count_append]
  rfl

/-- Something is told of once more, and counted if it is one of the things that are. -/
theorem Tallied.add {name : String} (tallied : session.Tallied)
    (tally : ∀ other, after.tally other = session.tally other + if name = other then 1 else 0)
    (trades : after.trades = session.trades + if name = "trade_executed" then 1 else 0)
    (raises : after.raises = session.raises + if name = "asset_targets_raised" then 1 else 0)
    (failures : after.failures = session.failures + if name = "call_failed" then 1 else 0) : after.Tallied :=
  ⟨by rw [tally, tallied.trades, trades], by rw [tally, tallied.raises, raises],
    by rw [tally, tallied.failures, failures]⟩

theorem Tallied.still (tallied : session.Tallied) (trail : after.trail = session.trail)
    (engine : after.engine = session.engine) (trades : after.trades = session.trades)
    (raises : after.raises = session.raises) (failures : after.failures = session.failures) : after.Tallied := by
  have same : ∀ name, after.tally name = session.tally name := fun name => by rw [tally, tally, trail, engine]
  exact ⟨by rw [same, trades, tallied.trades], by rw [same, raises, tallied.raises],
    by rw [same, failures, tallied.failures]⟩

theorem Turn.tallied (turn : Turn keeper session made after) (tallied : session.Tallied) : after.Tallied := by
  cases turn with
  | print lines => exact tallied.still (trail_printed session lines) rfl rfl rfl rfl
  | opening | wait => exact ⟨tallied.trades, tallied.raises, tallied.failures⟩
  | notice notice => cases notice <;> exact tallied.add (tally_line (trail_written session [_]) rfl) rfl rfl rfl
  | trade traded run =>
    exact tallied.add (tally_event (traded.events run).1 (trail_printed session [_])) rfl rfl rfl
  | raise left run =>
    exact tallied.add (tally_event (Engine.raiseAssetTargets_events run) (trail_printed session [_])) rfl rfl rfl
  | refusal asks stopped =>
    unfold refused
    split
    · exact tallied
    · exact tallied.add (tally_line (trail_written session [_]) rfl) rfl rfl rfl
  | flush =>
    exact ⟨(tally_flushed _ _).trans tallied.trades, (tally_flushed _ _).trans tallied.raises,
      (tally_flushed _ _).trans tallied.failures⟩

/-- A trade is told of at the time at which it was made. -/
structure Stamped (session : Session) : Prop where
  untold : ∀ trade, .tradeExecuted trade ∈ session.engine.events → trade.timestamp = session.clock
  told : ∀ line ∈ session.trail, line.name = "trade_executed" →
    ∃ trade, line = .event (.tradeExecuted trade) trade.timestamp

theorem Stamped.line {line : AuditLine} (stamped : session.Stamped) (written : after.trail = session.trail ++ [line])
    (other : line.name ≠ "trade_executed") (engine : after.engine = session.engine)
    (clock : after.clock = session.clock) : after.Stamped := by
  refine ⟨fun trade member => ?_, fun told member named => ?_⟩
  · rw [clock]
    exact stamped.untold trade (engine ▸ member)
  · rw [written] at member
    rcases List.mem_append.mp member with before | now
    · exact stamped.told told before named
    · rw [List.mem_singleton.mp now] at named
      exact absurd named other

theorem Stamped.event {event : Event} (stamped : session.Stamped)
    (recorded : after.engine.events = session.engine.events ++ [event]) (clock : after.clock = session.clock)
    (trail : after.trail = session.trail)
    (now : ∀ trade, event = .tradeExecuted trade → trade.timestamp = session.clock) : after.Stamped := by
  refine ⟨fun trade member => ?_, trail ▸ stamped.told⟩
  rw [clock]
  rw [recorded] at member
  rcases List.mem_append.mp member with before | new
  · exact stamped.untold trade before
  · exact now trade (List.mem_singleton.mp new).symm

theorem Turn.stamped (turn : Turn keeper session made after) (stamped : session.Stamped) : after.Stamped := by
  cases turn with
  | print lines =>
    refine ⟨stamped.untold, fun line member => stamped.told line ?_⟩
    rw [← trail_printed session lines]
    exact member
  | opening => exact ⟨stamped.untold, stamped.told⟩
  | notice notice => cases notice <;> exact stamped.line (trail_written session [_]) (by simp [AuditLine.name]) rfl rfl
  | trade traded run =>
    obtain ⟨recorded, time⟩ := traded.events run
    refine stamped.event recorded rfl (trail_printed session [_]) fun trade same => ?_
    cases same
    exact time
  | raise left run =>
    refine stamped.event (Engine.raiseAssetTargets_events run) rfl (trail_printed session [_]) fun trade same => ?_
    cases same
  | refusal asks stopped =>
    unfold refused
    split
    · exact stamped
    · exact stamped.line (trail_written session [_]) (by simp [AuditLine.name]) rfl rfl
  | flush =>
    refine ⟨fun _ untold => absurd untold List.not_mem_nil, fun line member named => ?_⟩
    rw [trail_flushed] at member
    rcases List.mem_append.mp member with before | new
    · exact stamped.told line before named
    · obtain ⟨event, untold, rfl⟩ := List.mem_map.mp new
      cases event with
      | tradeExecuted trade =>
        refine ⟨trade, ?_⟩
        rw [stamped.untold trade untold]
      | _ => simp [AuditLine.name, Event.name] at named
  | wait told next =>
    -- The clock only moves while no event waits to be told.
    refine ⟨fun trade member => ?_, stamped.told⟩
    rw [told] at member
    cases member

/-- As many rounds and raises as the keeper allows. -/
structure Bounded (keeper : Keeper) (session : Session) : Prop where
  rounds : session.rounds ≤ keeper.maxRounds
  raises : session.raises ≤ keeper.maxRaises

theorem Turn.bounded (turn : Turn keeper session made after) (bounded : session.Bounded keeper) :
    after.Bounded keeper := by
  cases turn with
  | opening left => exact ⟨left, bounded.raises⟩
  | raise left => exact ⟨bounded.rounds, left⟩
  | refusal =>
    unfold refused
    split
    · exact bounded
    · exact ⟨bounded.rounds, bounded.raises⟩
  | _ => exact ⟨bounded.rounds, bounded.raises⟩

/-- What every turn keeps, a course keeps. -/
theorem Course.keeps {p : Session → Prop} (course : Course keeper start calls session)
    (each : ∀ {session after made}, Turn keeper session made after → p session → p after) (initial : p start) :
    p session := by
  induction course with
  | start => exact initial
  | next _ turn ih => exact each turn ih

/-- Nothing that is counted is told of by how a rebalance has been set up. -/
theorem count_name_eq_zero {engine : Engine} (untraded : engine.Untraded) {name : String}
    (counted : name ∈ ["trade_executed", "asset_targets_raised", "call_failed"]) :
    (engine.events.map Event.name).count name = 0 := by
  rw [List.count_eq_zero, List.mem_map]
  rintro ⟨event, member, rfl⟩
  have setsUp := untraded event member
  cases event with
  | tradeExecuted | assetTargetsRaised => exact setsUp
  | _ => simp [Event.name] at counted

theorem tallied_start {engine : Engine} (untraded : engine.Untraded) (clock : Timestamp) :
    (Session.start engine clock).Tallied := by
  refine ⟨?_, ?_, ?_⟩
  all_goals exact (Nat.zero_add _).trans (count_name_eq_zero untraded (by decide))

theorem stamped_start {engine : Engine} (untraded : engine.Untraded) (clock : Timestamp) :
    (Session.start engine clock).Stamped :=
  ⟨fun _ untold => (untraded _ untold).elim, fun _ written => absurd written List.not_mem_nil⟩

/-! A summary is taken from the session, and what is written and printed after it changes
nothing that it speaks of. -/

def SameSummary (before after : Session) : Prop := after.summary = before.summary

instance : IsTrans Session SameSummary := ⟨fun _ _ _ first second => Eq.trans second first⟩

theorem moves_put (outputs : List Output) : Moves SameSummary (put outputs) := moves_modify fun _ => rfl

theorem moves_printing (report : Report.Printing Unit) : Moves SameSummary (printing report) :=
  moves_within (Q := fun _ _ => True) (fun _ => trivial) fun _ _ _ => rfl

theorem run_summary {summary : RunSummary} (run : keeper.run start = .ok summary after) :
    ∃ met, after.summary met = summary := by
  simp only [Keeper.run, bind_eq_ok, get_eq_ok, lift_eq_ok, pure_eq_ok] at run
  obtain ⟨_, _, _, _, _, ⟨rfl, rfl⟩, met, _, ⟨_, rfl⟩, summarized, rfl⟩ := run
  exact ⟨met, summarized⟩

theorem rehearse_summary {summary : RunSummary} (run : rehearse start = .ok summary after) :
    ∃ met, after.summary met = summary := by
  simp only [rehearse, bind_eq_ok, get_eq_ok, pure_eq_ok] at run
  obtain ⟨_, _, _, _, _, ⟨rfl, rfl⟩, met, _, found, summarized, rfl⟩ := run
  have same := (moves_step (moves_lift _) : Moves Eq _).of_ok found
  subst same
  exact ⟨met, summarized⟩

theorem conduct_summary {config : Config} {options : RunOptions} {summary : RunSummary}
    (run : conduct config options start = .ok summary after) : ∃ met, after.summary met = summary := by
  obtain ⟨counted, between, ran, run⟩ := bind_eq_ok.mp run
  rw [step, mapError, within_eq_ok] at ran
  obtain ⟨_, ran, rfl⟩ := ran
  obtain ⟨met, rfl⟩ := run_summary ran
  simp only [bind_eq_ok, get_eq_ok, pure_eq_ok] at run
  obtain ⟨_, _, noted, _, _, printed, _, _, ⟨rfl, rfl⟩, _, _, tabled, rfl, rfl⟩ := run
  have same := IsTrans.trans _ _ _ ((moves_step (moves_put _)).of_ok noted)
    (IsTrans.trans _ _ _ ((moves_step (moves_put _)).of_ok printed) ((moves_step (moves_printing _)).of_ok tabled))
  exact ⟨met, congrFun same met⟩

theorem answered_summary {config : Config} {scenario : Scenario} {options : RunOptions} {answer : Except String Bool}
    {summary : RunSummary} (run : answered config scenario options answer start = .ok summary after) :
    ∃ met, after.summary met = summary := by
  obtain ⟨_, _, _, run⟩ := bind_eq_ok.mp run
  split at run
  · exact rehearse_summary run
  · split at run
    · exact conduct_summary run
    · obtain ⟨_, _, _, run⟩ := bind_eq_ok.mp run
      exact conduct_summary run

end Session

/-- What a summary counts stands in the trail. -/
structure RunSummary.BorneOut (summary : RunSummary) (trail : List AuditLine) : Prop where
  trades : summary.trades = (trail.map AuditLine.name).count "trade_executed"
  raises : summary.raises = (trail.map AuditLine.name).count "asset_targets_raised"
  failures : summary.failures = (trail.map AuditLine.name).count "call_failed"

theorem Session.Tallied.borneOut {session : Session} (tallied : session.Tallied)
    (told : session.engine.events = []) (met : Bool) : (session.summary met).BorneOut session.trail := by
  have tally : ∀ name, session.tally name = (session.trail.map AuditLine.name).count name := by
    intro name
    rw [Session.tally, told]
    rfl
  exact ⟨tallied.trades.symm.trans (tally _), tallied.raises.symm.trans (tally _),
    tallied.failures.symm.trans (tally _)⟩

namespace Scenario

open IndexBasket.Engine (Command)

variable {scenario : Scenario} {config : Config} {engine : Engine} {opened : Files}

/-- A run on a machine is the run on the session, with all that it puts out printed or
written. -/
theorem run_told (options : RunOptions) {machine : Machine} (built : scenario.build config = .ok engine)
    (log : Files.openLog config.auditPath machine.files = .ok () opened) :
    let act := Session.answered config scenario options machine.answer
    let start := Session.start engine scenario.startTime
    ∃ place, opened.placeToWrite config.auditPath = .ok place ∧
      (scenario.run config options : StateM Machine (Except RunError RunSummary)) machine =
        ((act.ending start).1, ({ machine with files := opened } : Machine).told place (act.final start).printed
          (act.final start).trail) := by
  intro act start
  obtain ⟨place, found⟩ := Files.placeToWrite_openLog log
  refine ⟨place, found, ?_⟩
  let ready : Machine := { machine with files := opened }
  have opens : (Disk.openLog config.auditPath : StateM Machine (Except FileError Unit)) machine = (.ok (), ready) := by
    change (let (answer, files) := (Files.openLog config.auditPath).ending machine.files
      (answer, { machine with files }) : Except FileError Unit × Machine) = _
    rw [ending_of_ok log]
  have executed := (Session.execute_told ready config scenario options start found).trans
    (Session.carryOut_told ready found act start)
  rw [show start.outputs = [] from rfl, List.length_nil, List.drop_zero] at executed
  rw [run_apply built, opens]
  dsimp only
  rw [executed]
  cases (act.ending start).1 <;> rfl

/-- The trail tells of every event that the engine has committed since it was created,
in their order and once each, also where the run ends with a failure: in the end the
engine stands as after the same calls with no event ever taken from it, and the events
that it would hold then are those of the trail. What the summary of a run counts is
what the trail tells of, within the rounds and raises that are allowed, and a trade is
written down at the time at which it was made. -/
theorem run_tells_all (options : RunOptions) {machine : Machine} (built : scenario.build config = .ok engine)
    (log : Files.openLog config.auditPath machine.files = .ok () opened) :
    let act := Session.answered config scenario options machine.answer
    let start := Session.start engine scenario.startTime
    let session := act.final start
    (∃ place, opened.placeToWrite config.auditPath = .ok place ∧
        (scenario.run config options : StateM Machine (Except RunError RunSummary)) machine =
          ((act.ending start).1, ({ machine with files := opened } : Machine).told place session.printed session.trail)) ∧
      session.engine.events = [] ∧
      (∃ registry basket balances venues,
        let created := Engine.create registry config.settings basket balances venues
        ∃ setUp made : List (CallContext × Command),
          (∀ call ∈ setUp, call.2.SetsUp) ∧ finalAll Command.made setUp created = engine ∧
          Session.Course (Session.keeper config options) start made session ∧
          finalAll Command.made (setUp ++ made) created =
            { session.engine with events := session.trail.filterMap AuditLine.event? }) ∧
      (∀ line ∈ session.trail, line.name = "trade_executed" →
        ∃ trade, line = .event (.tradeExecuted trade) trade.timestamp) ∧
      ∀ summary, (act.ending start).1 = .ok summary →
        summary.BorneOut session.trail ∧ summary.rounds ≤ options.maxRounds.getD config.maxRounds ∧
          summary.raises ≤ config.maxRaises := by
  intro act start session
  obtain ⟨registry, basket, balances, venues, _, _, _, managed⟩ := build_eq_ok built
  have untraded : engine.Untraded := managed.untraded fun _ => nofun
  obtain ⟨⟨made, course⟩, told, _⟩ :=
    Session.ends_answered config scenario options machine.answer (rfl : start.rounds = 0)
  obtain ⟨setUp, setsUp, reached⟩ := managed.calls
  have replayed : session.engine.withEarlier session.told = finalAll Command.made made engine := course.replays
  have tallied := course.keeps Session.Turn.tallied (Session.tallied_start untraded _)
  have stamped := course.keeps Session.Turn.stamped (Session.stamped_start untraded _)
  have bounded := course.keeps Session.Turn.bounded ⟨Nat.zero_le _, Nat.zero_le _⟩
  refine ⟨run_told options built log, told,
    ⟨registry, basket, balances, venues, setUp, made, setsUp, reached, course, ?_⟩, stamped.told, ?_⟩
  · rw [finalAll_append, reached, ← replayed, Engine.withEarlier, told, List.append_nil]
    rfl
  · intro summary done
    obtain ⟨after, run⟩ := ending_eq_ok.mp done
    have same : after = session := (final_of_ok run).symm
    subst same
    obtain ⟨met, rfl⟩ := Session.answered_summary run
    exact ⟨tallied.borneOut told met, bounded.rounds, bounded.raises⟩

/-- A sale and a raise, in one round, after the question has been answered. -/
theorem run_tells_all_market :
    let scenario : Scenario :=
      { Engine.Market.scenario with venues := [(.uniswap, .pair [⟨"dai", "1000000", "weth", "500", 30⟩])] }
    let config : Config := { Engine.Market.config with auditFile := "audit.jsonl" }
    let options : RunOptions := { dryRun := false, force := false, scenarioFile := "market.toml", maxRounds := none }
    let machine : Machine := { files := Files.empty, answer := .ok true }
    ∃ engine opened place summary, scenario.build config = .ok engine ∧
      Files.openLog config.auditPath machine.files = .ok () opened ∧
      let start := Session.start engine scenario.startTime
      let session := (Session.answered config scenario options machine.answer).final start
      (scenario.run config options : StateM Machine (Except RunError RunSummary)) machine =
          (.ok summary, ({ machine with files := opened } : Machine).told place session.printed session.trail) ∧
        summary.BorneOut session.trail ∧ summary.trades = 1 ∧ summary.raises = 1 ∧
        ∃ created calls, created.events = [] ∧
          (finalAll Command.made calls created).events = session.trail.filterMap AuditLine.event? := by
  intro scenario config options machine
  have opens : (Files.openLog config.auditPath).succeeds (fun _ _ => true) machine.files = true := by decide +kernel
  have runs : (match scenario.build config with
      | .ok engine => (Session.answered config scenario options machine.answer).succeeds
          (fun summary _ => summary.trades = 1 ∧ summary.raises = 1) (Session.start engine scenario.startTime)
      | .error _ => false) = true := by decide +kernel
  obtain ⟨_, opened, log, _⟩ := succeeds_iff.mp opens
  cases built : scenario.build config with
  | error cause =>
    rw [built] at runs
    cases runs
  | ok engine =>
    rw [built] at runs
    obtain ⟨summary, after, run, counted⟩ := succeeds_iff.mp runs
    obtain ⟨trades, raises⟩ := of_decide_eq_true counted
    obtain ⟨⟨place, _, ran⟩, _, ⟨_, _, _, _, _, _, _, _, _, replayed⟩, _, sums⟩ := run_tells_all options built log
    have done := ending_eq_ok.mpr ⟨after, run⟩
    rw [done] at ran
    exact ⟨engine, opened, place, summary, rfl, log, ran, (sums summary done).1, trades, raises, _, _, rfl,
      congrArg Engine.events replayed⟩

end Scenario

end IndexBasket
