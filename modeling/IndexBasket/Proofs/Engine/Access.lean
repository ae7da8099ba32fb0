import IndexBasket.Proofs.Engine.Guards
import IndexBasket.Proofs.Engine.Reachable

namespace IndexBasket

namespace Engine

open IndexBasket.Action

/-- A caller who has been given no right: neither the manager nor on the list of
traders. -/
structure Outsider (engine : Engine) (caller : Address) : Prop where
  notManager : caller ≠ engine.basket.manager
  notTrader : engine.isTrader caller = false

/-- What a call is refused with when its caller has no right to make it. -/
def Command.refusal : Command → EngineError
  | .trade _ | .tradeRemainingReserve _ | .raiseAssetTargets => .notPermittedTrader
  | _ => .onlyManager

/-- A call of a given caller at a given time, made. -/
def Command.made (call : CallContext × Command) : Call Reply :=
  call.2.perform call.1

variable {engine after : Engine} {context : CallContext} {command : Command} {reply : Reply} {done : Unit}

theorem requireManagerCaller_refuses (outside : context.caller ≠ engine.basket.manager) :
    requireManagerCaller context engine = .error .onlyManager engine := by
  rw [requireManagerCaller, get_bind, if_pos outside]
  rfl

theorem requireManager_refuses (outside : context.caller ≠ engine.basket.manager) :
    requireManager context engine = .error .onlyManager engine :=
  bind_of_error (requireManagerCaller_refuses outside) _

theorem requireAllowedTrader_refuses (closed : engine.anyoneTrade = false)
    (outside : engine.isTrader context.caller = false) :
    requireAllowedTrader context engine = .error .notPermittedTrader engine := by
  rw [requireAllowedTrader, get_bind, closed, outside]
  rfl

/-- The first thing that every call asks is whether its caller may make it. -/
theorem refused_perform (closed : engine.anyoneTrade = false) (outsider : engine.Outsider context.caller)
    (command : Command) : command.perform context engine = .error command.refusal engine := by
  have refused : ∀ {α : Type} {guard : Call Unit} {failure : EngineError} (next : Unit → Call α) (answer : α → Reply),
      guard engine = .error failure engine →
      (answer <$> atomically (guard >>= next)) engine = .error failure engine := by
    intro α guard failure next answer stopped
    exact map_of_error (atomically_eq_error.mpr ⟨⟨engine, bind_of_error stopped next⟩, rfl⟩) answer
  cases command with
  | trade | tradeRemainingReserve | raiseAssetTargets =>
    exact refused _ _ (requireAllowedTrader_refuses closed outsider.notTrader)
  | activate => exact refused _ _ (requireManagerCaller_refuses outsider.notManager)
  | _ => exact refused _ _ (requireManager_refuses outsider.notManager)

/-- The engine's basket is registered, and its module runs on it. -/
structure Installed (engine : Engine) : Prop where
  registered : engine.registry.isValidBasket engine.basket.address = true
  initialized : engine.basket.isInitializedModule engine.settings.module = true

theorem installed_of_requireManager (run : requireManager context engine = .ok done after) : engine.Installed := by
  obtain ⟨_, _, called, valid⟩ := bind_eq_ok.mp run
  have same := (moves_requireManagerCaller context).of_ok called
  subst same
  obtain ⟨⟨registered, initialized⟩, _⟩ := requireValidBasket_eq_ok.mp valid
  exact ⟨registered, initialized⟩

/-- A trade that goes through has passed every check on its caller and its component. -/
theorem Command.Trades.permits {component : Address} (trades : command.Trades component)
    (run : command.perform context engine = .ok reply after) : engine.Permits context component := by
  cases trades
  all_goals
    simp only [Command.perform, map_eq_ok] at run
    obtain ⟨_, run, _⟩ := run
    exact (guarded_eq_ok.mp (atomically_eq_ok.mp run)).1

/-- Every call but the one that puts the engine to work asks for this, after the right
of its caller. -/
theorem installed_of_perform (running : command ≠ .activate)
    (run : command.perform context engine = .ok reply after) : engine.Installed := by
  have passed : ∀ {α : Type} (next : Unit → Call α) (answer : α → Reply),
      (answer <$> atomically (requireManager context >>= next)) engine = .ok reply after → engine.Installed := by
    intro α next answer run
    obtain ⟨_, run, _⟩ := map_eq_ok.mp run
    obtain ⟨_, _, managed, _⟩ := bind_eq_ok.mp (atomically_eq_ok.mp run)
    exact installed_of_requireManager managed
  cases command with
  | activate => exact absurd rfl running
  | trade component =>
    have permits := Command.Trades.trade.permits run
    exact ⟨permits.registered, permits.initialized⟩
  | tradeRemainingReserve component =>
    have permits := Command.Trades.tradeRemainingReserve.permits run
    exact ⟨permits.registered, permits.initialized⟩
  | raiseAssetTargets =>
    simp only [Command.perform, raiseAssetTargets, map_eq_ok, atomically_eq_ok, bind_eq_ok] at run
    obtain ⟨_, ⟨_, _, allowed, _, _, valid, _⟩, _⟩ := run
    obtain ⟨_, rfl⟩ := requireAllowedTrader_eq_ok.mp allowed
    obtain ⟨⟨registered, initialized⟩, _⟩ := requireValidBasket_eq_ok.mp valid
    exact ⟨registered, initialized⟩
  | _ => exact passed _ _ run

/-- Callers without any right get nothing done, however often and in whatever order they
call: while not everyone may trade, each of their calls is refused and the engine stays
as it is. And whoever calls, a contract cannot trade, and nothing but putting the engine
to work goes through unless its basket is registered and its module runs there. -/
theorem access_guarded (engine : Engine) :
    (engine.anyoneTrade = false → ∀ calls : List (CallContext × Command),
      (∀ call ∈ calls, engine.Outsider call.1.caller) →
      finalAll Command.made calls engine = engine ∧
        ∀ earlier call later, calls = earlier ++ call :: later →
          Command.made call (finalAll Command.made earlier engine) = .error call.2.refusal engine) ∧
    ∀ (context : CallContext) (command : Command) (reply : Reply) (after : Engine),
      command.perform context engine = .ok reply after →
        (¬command.Manages → context.kind ≠ .contract) ∧ (command ≠ .activate → engine.Installed) := by
  constructor
  · intro closed calls outsiders
    have untouched : ∀ some : List (CallContext × Command), (∀ call ∈ some, call ∈ calls) →
        finalAll Command.made some engine = engine := by
      intro some among
      refine finalAll_eq_self fun call member => ?_
      exact final_of_error (refused_perform closed (outsiders call (among call member)) call.2)
    refine ⟨untouched calls fun _ => id, ?_⟩
    rintro earlier call later rfl
    rw [untouched earlier fun call member => List.mem_append_left _ member]
    exact refused_perform closed (outsiders call (by simp)) call.2
  · intro context command reply after run
    refine ⟨fun trades isContract => ?_, fun running => installed_of_perform running run⟩
    obtain ⟨_, trades⟩ := Command.exists_trades trades
    cases (trades.permits run).externallyOwned.symm.trans isContract

theorem access_guarded_closed :
    let shared := Market.engine Fixed.one (Fixed.ofInt 1_500_000_000_000_000_000)
      (Amount.ofNat 1_000_000_000_000_000_000)
    let engine := finalAll Command.made
      [(Market.call 0, .updateTraderStatus [Market.manager] [true]), (Market.call 0, .updateAnyoneTrade false)] shared
    let earlier : List (CallContext × Command) :=
      [(⟨Market.treasury, .externallyOwned, 1⟩, .updateAnyoneTrade true), (⟨Market.treasury, .contract, 5⟩, .activate)]
    let call : CallContext × Command := (⟨Market.treasury, .externallyOwned, 3⟩, .trade Market.dai)
    engine.anyoneTrade = false ∧ engine.Outsider Market.treasury ∧
      finalAll Command.made (earlier ++ [call]) engine = engine ∧
      Command.made call (finalAll Command.made earlier engine) =
        .error .notPermittedTrader engine ∧
      ∃ trade after, (Command.trade Market.dai).perform (Market.call 3) engine = .ok (.traded trade) after ∧
        (Market.call 3).kind ≠ .contract ∧ engine.Installed := by
  intro shared engine earlier call
  have closed : engine.anyoneTrade = false := by decide +kernel
  have outsider : engine.Outsider Market.treasury := ⟨by decide +kernel, by decide +kernel⟩
  have callers : ∀ made ∈ earlier ++ [call], made.1.caller = Market.treasury := by simp [earlier, call]
  obtain ⟨guarded, passed⟩ := access_guarded engine
  obtain ⟨untouched, refused⟩ := guarded closed (earlier ++ [call]) fun made member => callers made member ▸ outsider
  have traded : (Engine.trade (Market.call 3) Market.dai).succeeds (fun _ _ => true) engine = true := by
    decide +kernel
  obtain ⟨trade, after, run, _⟩ := succeeds_iff.mp traded
  have performed : (Command.trade Market.dai).perform (Market.call 3) engine = .ok (.traded trade) after :=
    map_eq_ok.mpr ⟨trade, run, rfl⟩
  obtain ⟨owned, installed⟩ := passed (Market.call 3) (.trade Market.dai) (.traded trade) after performed
  exact ⟨closed, outsider, untouched, refused earlier call [] rfl, trade, after, performed, owned id,
    installed (by decide)⟩

end Engine

end IndexBasket
