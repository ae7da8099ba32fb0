import IndexBasket.Proofs.Run.Course
import IndexBasket.Proofs.Run.TradeOrder

namespace IndexBasket

open IndexBasket.Action

namespace Engine

/-- A routed component that is sized for a trade and has to wait for the end of its cool-off. -/
structure Blocked (engine : Engine) (component : Address) (now : Timestamp) : Prop where
  listed : component ∈ engine.rebalanceComponents
  routed : (engine.info component).exchange ≠ .unset
  sized : ∃ order, engine.tradeSize component = .ok order
  waiting : (engine.info component).coolOffElapsed now = false

variable {engine : Engine} {component : Address} {now time : Timestamp}

theorem blocked_iff :
    engine.Blocked component now ↔
      component ∈ engine.tradeOrder ∧ now < (engine.info component).nextTradeTime := by
  have waiting : (engine.info component).coolOffElapsed now = false ↔
      now < (engine.info component).nextTradeTime := by
    rw [AssetInfo.coolOffElapsed, decide_eq_false_iff_not, UInt64.not_le]
  rw [mem_tradeOrder, ← waiting]
  constructor
  · rintro ⟨listed, routed, sized, waiting⟩
    exact ⟨⟨listed, routed, sized⟩, waiting⟩
  · rintro ⟨⟨listed, routed, sized⟩, waiting⟩
    exact ⟨listed, routed, sized, waiting⟩

/-- The next time to wake up is the first at which a component that is blocked now is
blocked no longer. -/
theorem nextWakeup_spec (next : engine.nextWakeup now = some time) :
    now < time ∧
      (∃ component, engine.Blocked component now ∧ (engine.info component).coolOffElapsed time = true) ∧
      ∀ component, engine.Blocked component now → ∀ earlier < time,
        (engine.info component).coolOffElapsed earlier = false := by
  obtain ⟨listed, least⟩ := List.min?_eq_some_iff.mp next
  obtain ⟨scheduled, later⟩ := List.mem_filter.mp listed
  obtain ⟨component, traded, rfl⟩ := List.mem_map.mp scheduled
  have later := of_decide_eq_true later
  refine ⟨later, ⟨component, blocked_iff.mpr ⟨traded, later⟩, decide_eq_true (UInt64.le_refl _)⟩, ?_⟩
  intro other blocked earlier before
  obtain ⟨traded', waits⟩ := blocked_iff.mp blocked
  have first := least _ (List.mem_filter.mpr ⟨List.mem_map_of_mem traded', decide_eq_true waits⟩)
  exact decide_eq_false (UInt64.not_le.mpr (UInt64.lt_of_lt_of_le before first))

end Engine

namespace Session

open IndexBasket.Engine (Command)

/-- Whether a call goes through that a keeper makes. -/
def grants (keeper : Keeper) (session : Session) (command : Command) : Bool :=
  (command.perform (session.context keeper)).succeeds (fun _ _ => true) session.engine

/-- Calls that a keeper makes one after the other, each with whether it goes through. In
between, events may be told. -/
inductive Calls (keeper : Keeper) : Session → List (Command × Bool) → Session → Prop
  | done (session : Session) : Calls keeper session [] session
  | flush {session after : Session} {calls : List (Command × Bool)}
      (later : Calls keeper session.flushed calls after) : Calls keeper session calls after
  | call {session middle after : Session} {command : Command} {calls : List (Command × Bool)}
      (turn : Turn keeper session [(session.context keeper, command)] middle)
      (later : Calls keeper middle calls after) :
      Calls keeper session ((command, session.grants keeper command) :: calls) after

/-- The components for which a trade is asked. -/
def tried (calls : List (Command × Bool)) : List Address :=
  calls.filterMap fun
    | (.trade component, _) => some component
    | _ => none

def Refused (calls : List (Command × Bool)) : Prop := ∀ call ∈ calls, call.2 = false

variable {keeper : Keeper} {session middle after : Session} {command : Command} {calls later : List (Command × Bool)}
  {components : List Address} {α β : Type}

theorem tried_append (calls later : List (Command × Bool)) : tried (calls ++ later) = tried calls ++ tried later :=
  List.filterMap_append

theorem clock_refused (session : Session) (operation : Operation) (component : Option Address)
    (cause : EngineError) : (session.refused operation component cause).clock = session.clock := by
  unfold refused
  split <;> rfl

/-- A call takes no time, and leaves what it makes of the engine, refused or not. -/
theorem Turn.called (turn : Turn keeper session [(session.context keeper, command)] after) :
    after.clock = session.clock ∧ after.engine = (command.perform (session.context keeper)).final session.engine := by
  cases turn with
  | trade trades run => exact ⟨rfl, (final_of_ok run).symm⟩
  | raise left run => exact ⟨rfl, (final_of_ok (map_eq_ok.mpr ⟨_, run, rfl⟩)).symm⟩
  | refusal asks stopped =>
    rw [engine_refused, clock_refused]
    exact ⟨rfl, (final_of_error stopped).symm⟩

theorem flushed_engine (told : session.engine.events = []) : session.flushed.engine = session.engine := by
  rw [flushed, ← told]

namespace Calls

theorem trans (first : Calls keeper session calls middle) (second : Calls keeper middle later after) :
    Calls keeper session (calls ++ later) after := by
  induction first with
  | done => exact second
  | flush _ ih => exact .flush (ih second)
  | call turn _ ih => exact .call turn (ih second)

theorem flushed (made : Calls keeper session calls after) : Calls keeper session calls after.flushed := by
  have told := made.trans (.flush (.done after.flushed))
  rwa [List.append_nil] at told

theorem clock (made : Calls keeper session calls after) : after.clock = session.clock := by
  induction made with
  | done => rfl
  | flush _ ih => exact ih
  | call turn _ ih => exact ih.trans turn.called.1

theorem reachable (made : Calls keeper session calls after) (reached : session.engine.Reachable) :
    after.engine.Reachable := by
  induction made with
  | done => exact reached
  | flush _ ih => exact ih (reached.step .takeEvents)
  | call turn _ ih =>
    refine ih ?_
    rw [turn.called.2]
    exact reached.step (.call _ _)

/-- As long as every call is refused, the engine stays what it is. -/
theorem engine_of_refused (made : Calls keeper session calls after) (told : session.engine.events = [])
    (refused : Refused calls) : after.engine = session.engine := by
  induction made with
  | done => rfl
  | flush _ ih => exact (ih rfl refused).trans (flushed_engine told)
  | @call session _ _ command _ turn _ ih =>
    obtain ⟨stopped, refused⟩ := List.forall_mem_cons.mp refused
    have same := turn.called.2.trans ((Engine.failsInPlace_perform _ command).final_of_refused stopped)
    rw [← same] at told ⊢
    exact ih told refused

end Calls

theorem Calls.refusal {operation : Operation} {component : Option Address} {cause : EngineError}
    (made : Calls keeper (session.refused operation component cause) calls after)
    (asks : asked command = some (operation, component))
    (stopped : command.perform (session.context keeper) session.engine = .error cause session.engine) :
    Calls keeper session ((command, false) :: calls) after := by
  have denied : session.grants keeper command = false := by
    rw [grants, Action.succeeds, stopped]
  have called := Calls.call (.refusal asks stopped) made
  rwa [denied] at called

/-- What comes of a part of a round in which trades of some components are asked. It says
that nothing was done only if every call in it is refused. -/
inductive Asked (keeper : Keeper) (components : List Address) (session : Session) :
    EStateM.Result EngineError Session Bool → Prop
  | answer {calls : List (Command × Bool)} {after : Session} {progressed : Bool}
      (made : Calls keeper session calls after) (traded : tried calls = components) (refused : progressed = false → Refused calls) :
      Asked keeper components session (.ok progressed after)
  | failure {calls : List (Command × Bool)} {after : Session} {cause : EngineError}
      (made : Calls keeper session calls after) (traded : tried calls = components) :
      Asked keeper components session (.error cause after)

theorem asked_nothing (answer : Bool) : Asked keeper [] session (.ok answer session) :=
  .answer (.done session) rfl fun _ => List.forall_mem_nil _

/-- Each of the components is asked for once, in order. -/
theorem asked_tradeAll (keeper : Keeper) (components : List Address) (session : Session) :
    Asked keeper components session (keeper.tradeAll components session) := by
  induction components generalizing session with
  | nil => exact asked_nothing false
  | cons component rest ih =>
    refine result_call (fun _ => failsInPlace_atomically _) (fun {trade engine} run => ?_) fun {cause} stopped => ?_
    · let settled : Session :=
        { session with
          engine, outputs := session.outputs ++ [.printed (Report.tradeLine trade)], trades := session.trades + 1 }
      have turn : Turn keeper session _ settled := .trade .trade (map_eq_ok.mpr ⟨trade, run, rfl⟩)
      obtain ⟨progressed, after, more⟩ := total_tradeAll keeper rest settled
      have others := ih settled
      rw [more] at others
      obtain ⟨made, tried, _⟩ | _ := others
      change Asked keeper (component :: rest) session ((keeper.tradeAll rest >>= fun _ => pure true) settled)
      rw [bind_of_ok more]
      exact .answer (.call turn made) (congrArg (component :: ·) tried) nofun
    · obtain ⟨progressed, after, more⟩ := total_tradeAll keeper rest (session.refused .trade (some component) cause)
      have others := ih (session.refused .trade (some component) cause)
      rw [more] at others
      obtain ⟨made, tried, refused⟩ | _ := others
      dsimp only
      rw [bind_of_ok (refuse_eq_ok _ _ _), more]
      have calls := made.refusal (rfl : asked (.trade component) = _) (map_eq_error.mpr stopped)
      exact .answer calls (congrArg (component :: ·) tried) fun idle => List.forall_mem_cons.mpr ⟨rfl, refused idle⟩

theorem asked_sweepReserve (keeper : Keeper) (session : Session) :
    Asked keeper [] session (keeper.sweepReserve session) := by
  unfold Keeper.sweepReserve
  cases keeper.sweep with
  | none => exact asked_nothing false
  | some component =>
    change Asked keeper [] session ((if _ then _ else _ : Step Bool) session)
    split
    · exact asked_nothing false
    cases sold : session.engine.noTokensToSell with
    | error cause => exact .failure (.done session) rfl
    | ok nothing =>
      rw [bind_of_ok (lift_eq_ok.mpr ⟨rfl, rfl⟩)]
      split
      · exact asked_nothing false
      refine result_call (fun _ => failsInPlace_atomically _) (fun {trade engine} run => ?_) fun {cause} stopped => ?_
      · have turn : Turn keeper session _ _ := .trade .tradeRemainingReserve (map_eq_ok.mpr ⟨trade, run, rfl⟩)
        exact .answer (.call turn (.flush (.done _))) rfl nofun
      · dsimp only
        rw [bind_of_ok (refuse_eq_ok _ _ _)]
        have calls := (Calls.done (session.refused _ _ cause)).flushed.refusal
          (rfl : asked (.tradeRemainingReserve component) = _) (map_eq_error.mpr stopped)
        exact .answer calls rfl fun _ => List.forall_mem_singleton.mpr rfl

theorem asked_raiseTargets (keeper : Keeper) (session : Session) :
    Asked keeper [] session (keeper.raiseTargets session) := by
  change Asked keeper [] session ((if _ then _ else _ : Step Bool) session)
  split
  · exact asked_nothing false
  · rename_i ready
    simp only [Bool.or_eq_true, decide_eq_true_iff, not_or, Nat.not_le] at ready
    refine result_call (fun _ => failsInPlace_atomically _) (fun {snapshot engine} run => ?_) fun {cause} stopped => ?_
    · have turn : Turn keeper session _ _ := .raise ready.1 run
      exact .answer (.call turn (.flush (.done _))) rfl nofun
    · dsimp only
      rw [bind_of_ok (refuse_eq_ok _ _ _)]
      have calls := (Calls.done (session.refused _ _ cause)).refusal (rfl : asked .raiseAssetTargets = _)
        (map_eq_error.mpr stopped)
      exact .answer calls rfl fun _ => List.forall_mem_singleton.mpr rfl

end Session

open Session

/-- A round of a run: the session that it begins with, the calls that are made in it, and
the time at its end. -/
structure Round (keeper : Keeper) where
  before : Session
  calls : List (Engine.Command × Bool)
  closed : Session
  made : Calls keeper { before with rounds := before.rounds + 1 } calls closed
  time : Timestamp

namespace Round

variable {keeper : Keeper}

/-- The session that the next round begins with. -/
def after (round : Round keeper) : Session := { round.closed with clock := round.time }

/-- A round without success that ends with a wait, for the first end of a cool-off that a
component waits for. -/
structure Waits (round : Round keeper) : Prop where
  refused : Refused round.calls
  unmet : round.after.engine.allTargetsMet = .ok false
  later : round.before.clock < round.time
  released : ∃ component, round.after.engine.Blocked component round.before.clock ∧
    (round.after.engine.info component).coolOffElapsed round.time = true
  earliest : ∀ component, round.after.engine.Blocked component round.before.clock → ∀ time < round.time,
    (round.after.engine.info component).coolOffElapsed time = false

/-- A round that tries the components to sell as they are when it begins, and then those to
buy, and takes no time but for a wait. -/
structure Regular (round : Round keeper) : Prop where
  tried : tried round.calls = round.before.engine.tradable .sell ++ round.before.engine.tradable .buy
  still : round.closed.clock = round.before.clock
  waits : round.time = round.before.clock ∨ round.Waits

end Round

/-- Rounds of a run, each from where the one before it ends. -/
inductive Rounds (keeper : Keeper) : Session → List (Round keeper) → Session → Prop
  | stop (session : Session) : Rounds keeper session [] session
  | next (round : Round keeper) {rounds : List (Round keeper)} {after : Session}
      (later : Rounds keeper round.after rounds after) : Rounds keeper round.before (round :: rounds) after

namespace Keeper

variable {keeper : Keeper} {session between : Session} {progressed : Bool}

/-- What is left of a round when its trades are made. -/
def ending (keeper : Keeper) (progressed : Bool) : Step Bool := do
  if ← (← get).engine.allTargetsMet then
    if ← keeper.raiseTargets then return true
    let _ ← keeper.sweepReserve
    return false
  if progressed then return true
  if ← keeper.sweepReserve then return true
  wait

theorem final_round (run : keeper.tradeAll session.engine.tradeOrder { session with rounds := session.rounds + 1 } =
    .ok progressed between) : keeper.round.final session = (keeper.ending progressed).final between.flushed := by
  change (keeper.tradeAll session.engine.tradeOrder >>= fun progressed => flush >>= fun _ =>
    keeper.ending progressed).final { session with rounds := session.rounds + 1 } = _
  rw [final_bind_of_ok run]
  rfl

/-- How a round ends that has made its trades. It asks for no other trade of a component by
itself. It waits only if nothing was done and the targets are not met. -/
inductive Ended (keeper : Keeper) (progressed : Bool) (session : Session) : Session → Prop
  | done {calls : List (Engine.Command × Bool)} {after : Session} (made : Calls keeper session calls after)
      (none : tried calls = []) : Ended keeper progressed session after
  | waiting {calls : List (Engine.Command × Bool)} {after : Session} {time : Timestamp} (idle : progressed = false)
      (made : Calls keeper session calls after) (none : tried calls = []) (refused : Refused calls)
      (unmet : session.engine.allTargetsMet = .ok false) (next : after.engine.nextWakeup after.clock = some time) :
      Ended keeper progressed session { after with clock := time }

/-- A part of the end, after others that have asked for no trade. -/
theorem ended_bind {calls : List (Engine.Command × Bool)} {act : Step Bool} {next : Bool → Step Bool}
    (made : Calls keeper session calls between) (none : tried calls = [])
    (asked : Asked keeper [] between (act between))
    (rest : ∀ {answer : Bool} {later : List (Engine.Command × Bool)} {after : Session},
      Calls keeper session (calls ++ later) after → tried (calls ++ later) = [] →
      (answer = false → Refused later) → Ended keeper progressed session ((next answer).final after)) :
    Ended keeper progressed session ((act >>= next).final between) := by
  have untried : ∀ {later}, tried later = [] → tried (calls ++ later) = [] := by
    intro later empty
    rw [tried_append, none, empty, List.append_nil]
  cases run : act between with
  | ok answer after =>
    rw [run] at asked
    obtain ⟨more, empty, refused⟩ | _ := asked
    rw [final_bind_of_ok run]
    exact rest (made.trans more) (untried empty) refused
  | error cause after =>
    rw [run] at asked
    obtain _ | ⟨more, empty⟩ := asked
    rw [final_of_error (bind_of_error run next)]
    exact .done (made.trans more) (untried empty)

theorem ended_ending (keeper : Keeper) (progressed : Bool) (session : Session) :
    Ended keeper progressed session ((keeper.ending progressed).final session) := by
  unfold ending
  rw [final_get_bind]
  cases checked : session.engine.allTargetsMet with
  | error cause => exact .done (.done session) rfl
  | ok met =>
    rw [final_bind_of_ok (lift_eq_ok.mpr ⟨rfl, rfl⟩)]
    cases met with
    | true =>
      refine ended_bind (.done session) rfl (asked_raiseTargets keeper session) fun {raised _ after} made none _ => ?_
      cases raised with
      | true => exact .done made none
      | false => exact ended_bind made none (asked_sweepReserve keeper after) fun made none _ => .done made none
    | false =>
      cases progressed with
      | true => exact .done (.done session) rfl
      | false =>
        have asked := asked_sweepReserve keeper session
        refine ended_bind (.done session) rfl asked fun {swept _ after} made none refused => ?_
        cases swept with
        | true => exact .done made none
        | false =>
          change Ended keeper false session (wait.final after)
          rw [wait, final_get_bind]
          cases next : after.engine.nextWakeup after.clock with
          | some time => exact .waiting rfl made none (refused rfl) checked next
          | none => exact .done made none

/-- A round is regular however it ends, with a failure too. -/
theorem regular_round (keeper : Keeper) (session : Session) :
    ∃ round : Round keeper, round.before = session ∧ round.after = keeper.round.final session ∧ round.Regular := by
  have asked := asked_tradeAll keeper session.engine.tradeOrder { session with rounds := session.rounds + 1 }
  obtain ⟨progressed, between, run⟩ :=
    total_tradeAll keeper session.engine.tradeOrder { session with rounds := session.rounds + 1 }
  rw [run] at asked
  obtain @⟨first, _, _, traded, order, idle⟩ | _ := asked
  have tries : ∀ {later}, tried later = [] →
      tried (first ++ later) = session.engine.tradable .sell ++ session.engine.tradable .buy := by
    intro later none
    rw [tried_append, order, none, List.append_nil]
    rfl
  rw [final_round run]
  have ended := keeper.ended_ending progressed between.flushed
  generalize (keeper.ending progressed).final between.flushed = last at ended ⊢
  cases ended with
  | done more none =>
    have made := traded.flushed.trans more
    exact ⟨⟨session, _, _, made, _⟩, rfl, rfl, tries none, made.clock, Or.inl made.clock⟩
  | waiting still more none refused unmet next =>
    have made := traded.flushed.trans more
    rw [made.clock] at next
    obtain ⟨later, released, earliest⟩ := Engine.nextWakeup_spec next
    have calls := List.forall_mem_append.mpr ⟨idle still, refused⟩
    -- No call went through since the targets were looked at.
    have same := more.engine_of_refused rfl refused
    refine ⟨⟨session, _, _, made, _⟩, rfl, rfl, tries none, made.clock, Or.inr ?_⟩
    exact ⟨calls, same ▸ unmet, later, released, earliest⟩

/-- A run is one regular round after the other, up to the largest number of them. -/
theorem regular_rounds (keeper : Keeper) (most : Nat) (start : Session) :
    ∃ rounds, Rounds keeper start rounds ((keeper.rounds most).final start) ∧ rounds.length ≤ most ∧
      ∀ round ∈ rounds, round.Regular := by
  induction most generalizing start with
  | zero => exact ⟨[], .stop start, le_rfl, List.forall_mem_nil _⟩
  | succ most ih =>
    obtain ⟨round, rfl, last, regular⟩ := keeper.regular_round start
    have alone : ∃ rounds, Rounds keeper round.before rounds round.after ∧ rounds.length ≤ most + 1 ∧
        ∀ round ∈ rounds, round.Regular :=
      ⟨[round], .next round (.stop _), Nat.le_add_left 1 most, List.forall_mem_singleton.mpr regular⟩
    unfold rounds
    cases run : keeper.round round.before with
    | error cause after =>
      rw [final_of_error run] at last
      rw [final_of_error (bind_of_error run _), ← last]
      exact alone
    | ok more after =>
      rw [final_of_ok run] at last
      rw [final_bind_of_ok run, ← last]
      cases more with
      | false => exact alone
      | true =>
        obtain ⟨later, made, length, each⟩ := ih round.after
        exact ⟨round :: later, .next round made, Nat.succ_le_succ length, List.forall_mem_cons.mpr ⟨regular, each⟩⟩

/-- The summary of a run changes nothing. -/
theorem final_run (keeper : Keeper) (start : Session) :
    keeper.run.final start = (keeper.rounds keeper.maxRounds).final start := by
  unfold run
  cases run : keeper.rounds keeper.maxRounds start with
  | error cause after => rw [final_of_error run, final_of_error (bind_of_error run _)]
  | ok done after =>
    have still : Moves Eq (do
        let session ← get
        return session.summary (← session.engine.allTargetsMet) : Step RunSummary) :=
      moves_bind moves_get fun _ => moves_bind (moves_lift _) fun _ => moves_pure _
    rw [final_of_ok run, final_bind_of_ok run]
    exact (still after).symm

end Keeper

theorem Rounds.reachable {keeper : Keeper} {start last : Session} {rounds : List (Round keeper)}
    (run : Rounds keeper start rounds last) (reached : start.engine.Reachable) :
    ∀ round ∈ rounds, round.before.engine.Reachable := by
  induction run with
  | stop => exact List.forall_mem_nil _
  | next round _ ih => exact List.forall_mem_cons.mpr ⟨reached, ih (round.made.reachable reached)⟩

theorem Rounds.exists_moved {keeper : Keeper} {start last : Session} {rounds : List (Round keeper)}
    (run : Rounds keeper start rounds last) (moved : last.clock ≠ start.clock) :
    ∃ round ∈ rounds, round.time ≠ round.before.clock := by
  induction run with
  | stop => exact absurd rfl moved
  | next round _ ih =>
    by_cases still : round.time = round.before.clock
    · obtain ⟨other, member, waits⟩ := ih fun same => moved (same.trans still)
      exact ⟨other, List.mem_cons_of_mem _ member, waits⟩
    · exact ⟨round, List.mem_cons_self, still⟩

/-! A keeper that waits for a component before it is traded and after. -/

namespace Engine.Market

def target : Fixed := Fixed.clamp 1_500_000_000_000_000_000

def cooling : Engine :=
  ((Command.setCoolOffPeriods [dai] [100]).perform (call 0)).final (engine Fixed.one target Amount.one)

theorem reachable_cooling : cooling.Reachable := by
  have opened : (engine Fixed.one target Amount.one).Reachable := reachable _ _ _
  exact opened.step (.call (call 0) (.setCoolOffPeriods [dai] [100]))

def opening : Session := { engine := cooling, clock := 1 }

def keeper : Keeper := ⟨manager, none, 3, 0⟩

end Engine.Market

/-- What a keeper does is a list of rounds. In each, it asks for at most one trade of a
component, for those to sell as the round begins before those to buy. The clock moves only
at the end of a round in which no call went through and the targets are not met, and then
to the first time at which a component that could be traded is done with its cool-off. -/
theorem Keeper.run_paced (keeper : Keeper) {start : Session} (reached : start.engine.Reachable) :
    ∃ rounds : List (Round keeper), Rounds keeper start rounds (keeper.run.final start) ∧
      rounds.length ≤ keeper.maxRounds ∧
      ∀ round ∈ rounds, round.Regular ∧ (tried round.calls).Nodup ∧ round.before.clock ≤ round.after.clock := by
  obtain ⟨rounds, made, length, regular⟩ := keeper.regular_rounds keeper.maxRounds start
  rw [← keeper.final_run] at made
  refine ⟨rounds, made, length, fun round member => ⟨regular round member, ?_, ?_⟩⟩
  · rw [(regular round member).tried]
    exact (made.reachable reached round member).wellPosed.nodup_tradeOrder
  · rcases (regular round member).waits with still | waits
    · exact UInt64.le_of_eq still.symm
    · exact UInt64.le_of_lt waits.later

open Engine.Market in
theorem Keeper.run_paced_waits :
    opening.engine.Reachable ∧ (keeper.run.final opening).clock = 200 ∧
      ∃ rounds, Rounds keeper opening rounds (keeper.run.final opening) ∧ rounds.length ≤ 3 ∧
        (∀ round ∈ rounds, round.Regular) ∧ ∃ round ∈ rounds, round.Waits := by
  have last : (keeper.run.final opening).clock = 200 := by decide +kernel
  have later : (keeper.run.final opening).clock ≠ opening.clock := by decide +kernel
  have reached : opening.engine.Reachable := reachable_cooling
  obtain ⟨rounds, run, length, regular⟩ := keeper.run_paced reached
  obtain ⟨round, member, moved⟩ := run.exists_moved later
  refine ⟨reached, last, rounds, run, length, fun round member => (regular round member).1, round, member, ?_⟩
  exact (regular round member).1.waits.resolve_left moved

end IndexBasket
