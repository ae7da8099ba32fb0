import IndexBasket.Proofs.Balances
import IndexBasket.Proofs.Engine.Access
import IndexBasket.Proofs.Engine.Recording
import IndexBasket.Proofs.Ledger.Readback
import IndexBasket.Scenario.Build
import Mathlib.Logic.Relation

namespace IndexBasket

open IndexBasket.Action

/-- A loop that credits one holder item by item leaves the sum of what the items give of
an asset. -/
theorem Balances.balanceOf_forM {α : Type} {f : α → Action RunError Balances PUnit} (holder : Address)
    (asset : α → Address) (amount : α → Nat)
    (each : ∀ item {start after : Balances} {done : PUnit}, f item start = .ok done after → ∀ other,
      (after.balanceOf holder other).toNat =
        (start.balanceOf holder other).toNat + if asset item = other then amount item else 0)
    {items : List α} {start after : Balances} {done : PUnit} (run : items.forM f start = .ok done after)
    (other : Address) :
    (after.balanceOf holder other).toNat =
      (start.balanceOf holder other).toNat + ((items.filter (asset · = other)).map amount).sum := by
  induction items generalizing start with
  | nil =>
    obtain ⟨_, rfl⟩ := pure_eq_ok.mp run
    rfl
  | cons item rest ih =>
    obtain ⟨_, between, first, later⟩ := bind_eq_ok.mp run
    rw [ih later, each item first, Nat.add_assoc]
    by_cases same : asset item = other
    · rw [if_pos same, List.filter_cons_of_pos (by simpa using same), List.map_cons, List.sum_cons]
    · rw [if_neg same, List.filter_cons_of_neg (by simpa using same), Nat.zero_add]

namespace Scenario

/-- One call of the manager after another. -/
abbrev Managed : Engine → Engine → Prop :=
  Relation.ReflTransGen fun before after =>
    ∃ context command, Engine.Command.SetsUp command ∧ after = (command.perform context).final before

theorem moves_onEngine {call : Engine.Call Unit} {context : CallContext} (command : Engine.Command)
    (setsUp : command.SetsUp) (performed : command.perform context = (fun _ => .done) <$> call) :
    Moves Managed (onEngine call) := by
  intro start
  rw [onEngine, mapError, final_within]
  refine Relation.ReflTransGen.single ⟨context, command, setsUp, ?_⟩
  rw [performed, final_map]
  rfl

theorem moves_applySettings (context : CallContext) (settings : AssetSettings) :
    Moves Managed (applySettings context settings) := by
  refine moves_when ?_ fun _ => moves_when ?_ fun _ => moves_ite ?_ (moves_pure _)
  · exact moves_onEngine (.setExchanges _ _) trivial rfl
  · exact moves_onEngine (.setTradeMaximums _ _) trivial rfl
  · exact moves_onEngine (.setCoolOffPeriods _ _) trivial rfl

/-- The manager opens a rebalance by calls that trade nothing. -/
theorem moves_setUp (scenario : Scenario) : Moves Managed scenario.setUp := by
  refine moves_bind (moves_onEngine .activate trivial rfl) fun _ => moves_bind (moves_lift _) fun traders => ?_
  refine moves_when (moves_onEngine (.updateTraderStatus _ _) trivial rfl) fun _ => ?_
  refine moves_when (moves_onEngine (.updateAnyoneTrade _) trivial rfl) fun _ => ?_
  refine moves_bind (moves_lift _) fun _ => moves_bind (moves_applySettings _ _) fun _ => ?_
  refine moves_bind moves_get fun engine => moves_bind (moves_lift _) fun oldTargets => ?_
  cases scenario.multiplier with
  | some text =>
    exact moves_bind (moves_lift _) fun _ => moves_onEngine (.startRebalance _ _ _ _) trivial rfl
  | none =>
    exact moves_bind (moves_pure _) fun _ => moves_onEngine (.startRebalance _ _ _ _) trivial rfl

theorem Managed.sameHoldings {before after : Engine} (managed : Managed before after) :
    Engine.SameHoldings before after := by
  induction managed with
  | refl => exact Std.Refl.refl _
  | tail _ step ih =>
    obtain ⟨context, command, setsUp, rfl⟩ := step
    exact IsTrans.trans _ _ _ ih (Engine.moves_manages context setsUp.manages _)

theorem Managed.reachable {before after : Engine} (managed : Managed before after)
    (reached : before.Reachable) : after.Reachable := by
  induction managed with
  | refl => exact reached
  | tail _ step ih =>
    obtain ⟨context, command, _, rfl⟩ := step
    exact ih.step (.call context command)

/-- The calls behind it, as data. -/
theorem Managed.calls {before after : Engine} (managed : Managed before after) :
    ∃ calls : List (CallContext × Engine.Command),
      (∀ call ∈ calls, call.2.SetsUp) ∧ finalAll Engine.Command.made calls before = after := by
  induction managed with
  | refl => exact ⟨[], fun _ => nofun, rfl⟩
  | tail _ step ih =>
    obtain ⟨calls, setUp, rfl⟩ := ih
    obtain ⟨context, command, setsUp, rfl⟩ := step
    refine ⟨calls ++ [(context, command)], fun call member => ?_, finalAll_append _ _ _ _⟩
    rcases List.mem_append.mp member with before | now
    · exact setUp call before
    · rw [List.mem_singleton.mp now]
      exact setsUp

theorem Managed.untraded {before after : Engine} (managed : Managed before after) (untraded : before.Untraded) :
    after.Untraded := by
  induction managed with
  | refl => exact untraded
  | tail _ step ih =>
    obtain ⟨context, command, setsUp, rfl⟩ := step
    exact Engine.moves_setsUp_untraded context setsUp _ ih

theorem addModule_eq_ok {registry : Registry} {caller module : Address} {basket after : Basket} {done : Unit}
    (run : Basket.addModule registry caller module basket = .ok done after) :
    after = { basket with modules := basket.modules.insert module .pending } := by
  simp only [Basket.addModule, bind_eq_ok, get_eq_ok, guard_bind_eq_ok, modify_eq_ok] at run
  obtain ⟨_, _, managed, _, _, ⟨rfl, rfl⟩, _, _, rfl⟩ := run
  have same := (Basket.moves_requireManager caller).of_ok managed
  subst same
  rfl

variable {scenario : Scenario} {config : Config}

theorem registry_built {registry : Registry} (run : scenario.registry config = .ok registry) :
    registry.Built := by
  obtain ⟨_, charged⟩ := stateAfter_eq_ok.mp run
  exact (((Registry.Built.create config.feeRecipient).basket scenario.basket).module config.settings.module).fee
    _ _ _ charged

/-- The basket of a scenario, whose ledger is opened with the listed units. -/
theorem basketOn_eq_ok {registry : Registry} {basket : Basket}
    (run : scenario.basketOn config registry = .ok basket) :
    basket.Built ∧ basket.address = scenario.basket ∧ basket.totalSupply = scenario.totalSupply ∧
      Ledger.ofPositions scenario.positions = .ok basket.ledger := by
  obtain ⟨created, opened, added⟩ := Except.bind_eq_ok.mp run
  obtain ⟨_, added⟩ := stateAfter_eq_ok.mp added
  have built := (Basket.Built.create _ _ _ _ opened).edit registry
    (.addModule scenario.manager config.settings.module)
  rw [show (Basket.Edit.addModule scenario.manager config.settings.module).apply registry =
    Basket.addModule registry scenario.manager config.settings.module from rfl, final_of_ok added] at built
  have waiting := addModule_eq_ok added
  obtain ⟨ledger, positions, done⟩ := Except.bind_eq_ok.mp opened
  cases done
  subst waiting
  exact ⟨built, rfl, rfl, positions⟩

/-- All excess entries of an asset together. -/
def excessOf (scenario : Scenario) (asset : Address) : Nat :=
  ((scenario.excess.filter (·.1 = asset)).map (·.2.toNat)).sum

/-- A funded basket has what its supply holds of the listed units, and the excess. -/
theorem balanceOf_fund {balances after : Balances} {done : Unit} (run : scenario.fund balances = .ok done after)
    (asset : Address) :
    (after.balanceOf scenario.basket asset).toNat =
      (balances.balanceOf scenario.basket asset).toNat +
        ((scenario.positions.filter (·.1 = asset)).map fun position =>
          position.2.toInt.toNat * scenario.totalSupply.toNat / 10 ^ 18).sum + scenario.excessOf asset := by
  simp only [fund, bind_eq_ok] at run
  obtain ⟨_, positioned, positions, excess⟩ := run
  have held := Balances.balanceOf_forM scenario.basket Prod.fst
    (fun position : Address × Fixed => position.2.toInt.toNat * scenario.totalSupply.toNat / 10 ^ 18)
    (fun position {start after done} run other => by
      simp only [bind_eq_ok, Action.demand_eq_ok, Fixed.notionalFloor_eq_some, mapError, within_eq_ok, id_eq] at run
      obtain ⟨notional, _, ⟨value, rfl⟩, credited, added, rfl⟩ := run
      have sum := Balances.balanceOf_credit added scenario.basket other
      simp only [true_and] at sum
      rw [sum, value]) positions asset
  have extra := Balances.balanceOf_forM scenario.basket Prod.fst (fun balance : Address × Amount => balance.2.toNat)
    (fun balance {start after done} run other => by
      simp only [mapError, within_eq_ok, id_eq] at run
      obtain ⟨credited, added, rfl⟩ := run
      have sum := Balances.balanceOf_credit added scenario.basket other
      simpa only [true_and] using sum) excess asset
  rw [extra, held]
  rfl

theorem fund_eq_ok {balances after : Balances} {done : Unit} (run : scenario.fund balances = .ok done after)
    {asset : Address} {unit : Fixed} (listed : (asset, unit) ∈ scenario.positions) :
    unit.toInt.toNat * scenario.totalSupply.toNat / 10 ^ 18 ≤
      (after.balanceOf scenario.basket asset).toNat := by
  have owned := balanceOf_fund run asset
  have kept : (asset, unit) ∈ scenario.positions.filter (·.1 = asset) :=
    List.mem_filter.mpr ⟨listed, decide_eq_true rfl⟩
  have part : unit.toInt.toNat * scenario.totalSupply.toNat / 10 ^ 18 ≤
      ((scenario.positions.filter (·.1 = asset)).map fun position =>
        position.2.toInt.toNat * scenario.totalSupply.toNat / 10 ^ 18).sum :=
    List.le_sum_of_mem (List.mem_map.mpr ⟨_, kept, rfl⟩)
  omega

/-- An engine is built part by part, and the manager sets it up at the end. -/
theorem parts_of_build {engine : Engine} (run : scenario.build config = .ok engine) :
    ∃ registry basket balances venues,
      scenario.registry config = .ok registry ∧ scenario.basketOn config registry = .ok basket ∧
      scenario.fund Balances.empty = .ok () balances ∧ scenario.openVenues {} = .ok () venues ∧
      scenario.setUp (Engine.create registry config.settings basket balances venues) = .ok () engine := by
  simp only [build, Except.bind_eq_ok, Except.mapError_eq_ok, stateAfter_eq_ok] at run
  obtain ⟨registry, registered, basket, opened, balances, ⟨_, funded⟩, venues, ⟨_, listed⟩, _, prepared⟩ := run
  exact ⟨registry, basket, balances, venues, registered, opened, funded, listed, prepared⟩

/-- What stands behind an engine that has been built. -/
theorem build_eq_ok {engine : Engine} (run : scenario.build config = .ok engine) :
    ∃ registry basket balances venues,
      registry.Built ∧ scenario.basketOn config registry = .ok basket ∧
      scenario.fund Balances.empty = .ok () balances ∧
      Managed (Engine.create registry config.settings basket balances venues) engine := by
  obtain ⟨registry, basket, balances, venues, registered, opened, funded, _, prepared⟩ := parts_of_build run
  exact ⟨registry, basket, balances, venues, registry_built registered, opened, funded,
    (moves_setUp scenario).of_ok prepared⟩

theorem reachable_build {engine : Engine} (run : scenario.build config = .ok engine) : engine.Reachable := by
  obtain ⟨registry, basket, balances, venues, registered, opened, _, managed⟩ := build_eq_ok run
  exact managed.reachable (.create registered config.settings (basketOn_eq_ok opened).1 balances venues)

end Scenario

namespace Engine.Market

/-- Two fifths of a position are to be sold, on a venue of two pools. -/
def scenario : Scenario where
  basket := index
  manager := manager
  totalSupply := Amount.ofNat 10_000_000_000_000_000_000
  startTime := 1000
  positions := [(dai, Fixed.ofInt 100_000_000_000_000_000_000), (weth, Fixed.ofInt 50_000_000_000_000_000)]
  excess := []
  venues := [(.uniswap, .split [⟨"dai", "1000000", "weth", "500", 30⟩, ⟨"dai", "4000000", "weth", "2000", 5⟩])]
  assets := [⟨"dai", some "uniswap", some "1000", none⟩]
  traders := []
  anyoneTrade := true
  targets := [(dai, Fixed.ofInt 60_000_000_000_000_000_000)]
  newComponents := []
  multiplier := none

def config : Config where
  settings := settings
  feeRecipient := treasury
  protocolFee := Amount.ofNat 5_000_000_000_000_000
  trader := manager
  sweep := none
  maxRounds := 1
  maxRaises := 1
  logDirectory := ""
  auditFile := ""

end Engine.Market

end IndexBasket
