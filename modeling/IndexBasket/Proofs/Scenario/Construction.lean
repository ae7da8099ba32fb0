import IndexBasket.Proofs.Engine.Coverage
import IndexBasket.Proofs.Engine.Opening
import IndexBasket.Proofs.Ledger.Consistency
import IndexBasket.Proofs.Scenario.Checked
import IndexBasket.Proofs.Scenario.Setup
import IndexBasket.Proofs.Scenario.Targets

/-!
What an engine that has been built starts from: its components and their targets, and what
the basket owns, all of it as the scenario lists it.
-/

namespace IndexBasket

open IndexBasket.Action

/-- A ledger is opened with a component for every unit that is not zero, in the order in
which the units are listed. -/
theorem Ledger.components_openPositions {ledger after : Ledger} {positions : List (Address × Fixed)} {done : Unit}
    (run : openPositions positions ledger = .ok done after) :
    after.components = ledger.components ++ (positions.filter (·.2 ≠ Fixed.zero)).map Prod.fst := by
  induction positions generalizing ledger with
  | nil =>
    obtain ⟨_, rfl⟩ := pure_eq_ok.mp run
    exact (List.append_nil _).symm
  | cons position rest ih =>
    obtain ⟨component, unit⟩ := position
    simp only [openPositions, get_bind, guard_bind_eq_ok] at run
    obtain ⟨_, run⟩ := run
    split at run
    · rename_i listed
      simp only [bind_eq_ok, addComponent_eq_ok, setDefaultUnit_eq_ok] at run
      obtain ⟨_, _, ⟨_, rfl⟩, _, _, ⟨virtualUnit, _, rfl⟩, run⟩ := run
      rw [ih run, components_withDefault, List.filter_cons_of_pos (by simpa using listed), List.map_cons,
        List.append_assoc, List.singleton_append]
    · rename_i skipped
      rw [ih run, List.filter_cons_of_neg (by simpa using skipped)]

namespace Scenario

variable {scenario : Scenario} {config : Config}

/-- What the supply of the basket holds of an asset by the listed unit, rounded down. An
asset that is no position has none. -/
def notional (scenario : Scenario) (asset : Address) : Nat :=
  (scenario.positions.lookup asset).elim 0 fun unit => unit.toInt.toNat * scenario.totalSupply.toNat / 10 ^ 18

/-- Every position becomes a component, since its unit is positive. -/
theorem components_basketOn (positive : ∀ position ∈ scenario.positions, Fixed.zero < position.2)
    {registry : Registry} {basket : Basket} (run : scenario.basketOn config registry = .ok basket) :
    basket.ledger.components = scenario.positions.map Prod.fst := by
  obtain ⟨_, _, _, opened⟩ := basketOn_eq_ok run
  have all : scenario.positions.filter (·.2 ≠ Fixed.zero) = scenario.positions := by
    refine List.filter_eq_self.mpr fun position member => decide_eq_true fun zero => ?_
    have above := positive position member
    rw [zero] at above
    exact absurd above (by decide)
  rw [Ledger.components_openPositions (Ledger.ofPositions_eq_ok.mp opened), all]
  rfl

/-- The rebalance is opened after the other calls of the manager, with the targets of the
components that the basket holds by then. -/
theorem setUp_eq_ok {engine after : Engine} {done : Unit} (run : scenario.setUp engine = .ok done after) :
    ∃ between units context multiplier, Managed engine between ∧
      heldTargets scenario.targets (between.basket.ledger.components.filter (· ≠ between.reserve)) = .ok units ∧
      Engine.startRebalance context (scenario.newComponents.map Prod.fst) (scenario.newComponents.map Prod.snd)
        units multiplier between = .ok () after := by
  obtain ⟨_, activated, activate, run⟩ := bind_eq_ok.mp run
  obtain ⟨traders, _, named, run⟩ := bind_eq_ok.mp run
  obtain ⟨_, rfl⟩ := ofExcept_eq_ok.mp named
  obtain ⟨allowed, allow, run⟩ := when_bind_eq_ok.mp run
  obtain ⟨opened, openAll, run⟩ := when_bind_eq_ok.mp run
  obtain ⟨settings, _, grouped, run⟩ := bind_eq_ok.mp run
  obtain ⟨_, rfl⟩ := ofExcept_eq_ok.mp grouped
  obtain ⟨_, between, apply, run⟩ := bind_eq_ok.mp run
  have managed : Managed engine between := by
    have first : Managed engine activated := (moves_onEngine .activate trivial rfl).of_ok activate
    have second : Managed activated allowed := (moves_onEngine (.updateTraderStatus _ _) trivial rfl).of_when allow
    have third : Managed allowed opened := (moves_onEngine (.updateAnyoneTrade _) trivial rfl).of_when openAll
    exact ((first.trans second).trans third).trans ((moves_applySettings _ settings).of_ok apply)
  rw [get_bind] at run
  obtain ⟨units, _, found, run⟩ := bind_eq_ok.mp run
  obtain ⟨held, rfl⟩ := ofExcept_eq_ok.mp found
  have opening : ∃ context multiplier, onEngine (Engine.startRebalance context (scenario.newComponents.map Prod.fst)
      (scenario.newComponents.map Prod.snd) units multiplier) between = .ok () after := by
    generalize scenario.multiplier = given at run
    cases given with
    | some text =>
      obtain ⟨multiplier, _, read, run⟩ := bind_eq_ok.mp run
      obtain ⟨_, rfl⟩ := ofExcept_eq_ok.mp read
      exact ⟨_, multiplier, run⟩
    | none =>
      exact ⟨_, _, run⟩
  obtain ⟨context, multiplier, opening⟩ := opening
  rw [onEngine, mapError, within_eq_ok] at opening
  obtain ⟨_, opening, rfl⟩ := opening
  exact ⟨between, units, context, multiplier, managed, Except.mapError_eq_ok.mp held, opening⟩

theorem setUp_of_perm {targets : List (Address × Fixed)} (order : targets.Perm scenario.targets)
    (distinct : (scenario.targets.map Prod.fst).Nodup) : setUp { scenario with targets } = scenario.setUp := by
  have same : ∀ components, heldTargets targets components = heldTargets scenario.targets components :=
    fun components => (heldTargets_of_perm order.symm distinct components).symm
  simp only [setUp, same]

theorem build_of_perm {targets : List (Address × Fixed)} (order : targets.Perm scenario.targets)
    (distinct : (scenario.targets.map Prod.fst).Nodup) (config : Config) :
    build { scenario with targets } config = scenario.build config := by
  have same := setUp_of_perm order distinct
  simp only [build, same]
  rfl

/-- What the basket owns when the engine has been built. -/
theorem custody_build (distinct : (scenario.positions.map Prod.fst).Nodup) {engine : Engine}
    (run : scenario.build config = .ok engine) (asset : Address) :
    (engine.custody asset).toNat = scenario.notional asset + scenario.excessOf asset := by
  obtain ⟨registry, basket, balances, venues, _, opened, funded, managed⟩ := build_eq_ok run
  obtain ⟨_, address, _⟩ := basketOn_eq_ok opened
  have owned := balanceOf_fund funded asset
  have before : (Balances.empty.balanceOf scenario.basket asset).toNat = 0 := rfl
  have position : ((scenario.positions.filter (·.1 = asset)).map fun position =>
      position.2.toInt.toNat * scenario.totalSupply.toNat / 10 ^ 18).sum = scenario.notional asset := by
    rw [filter_key_eq_lookup distinct, notional]
    cases scenario.positions.lookup asset <;> rfl
  rw [before, Nat.zero_add, position, ← address] at owned
  rw [managed.sameHoldings.custody]
  exact owned

/-- The listed targets, brought into the order of the positions, belong to the components
that are rebalanced first. The new components come after them. -/
theorem targets_build (positive : ∀ position ∈ scenario.positions, Fixed.zero < position.2)
    (distinct : (scenario.targets.map Prod.fst).Nodup) {engine : Engine} (run : scenario.build config = .ok engine) :
    ∃ olds : List (Address × Fixed), olds.Perm scenario.targets ∧
      olds.map Prod.fst = (scenario.positions.map Prod.fst).filter (· ≠ config.settings.reserveAsset) ∧
      engine.rebalanceComponents = (olds ++ scenario.newComponents).map Prod.fst ∧
      ∀ target ∈ olds ++ scenario.newComponents, (engine.info target.1).targetUnit = target.2 := by
  obtain ⟨registry, basket, balances, venues, _, opened, _, _, prepared⟩ := parts_of_build run
  obtain ⟨between, units, context, multiplier, managed, held, started⟩ := setUp_eq_ok prepared
  have same := managed.sameHoldings
  have current : between.basket.ledger.components.filter (· ≠ between.reserve) =
      (scenario.positions.map Prod.fst).filter (· ≠ config.settings.reserveAsset) := by
    rw [same.ledger, same.reserve, ← components_basketOn positive opened]
    rfl
  have news : (scenario.newComponents.map Prod.fst).zip (scenario.newComponents.map Prod.snd) =
      scenario.newComponents := (List.zip_of_prod rfl rfl).symm
  obtain ⟨_, length, order, stored⟩ := Engine.startRebalance_eq_ok started
  rw [current] at held length order stored
  rw [news] at stored
  have keys := List.map_fst_zip length.le
  refine ⟨_, ((heldTargets_eq_ok distinct).mp held).2, keys, ?_, stored⟩
  rw [order, List.map_append, keys]

/-- An engine that is built from a scenario starts from what the scenario lists. Its
components are the positions without the reserve, in their order, and then the new ones, and
with their stored targets they are the listed targets, each of them once. Nothing but a
position is listed under the targets, and never the reserve. The basket owns what its supply
holds of each position and the excess. The order in which targets are listed makes no
difference to the engine, nor to the error if there is none. -/
theorem built_as_listed {draft : ScenarioDraft} (checked : draft.check = .ok scenario) (config : Config) :
    draft.Lists scenario ∧
    (∀ engine, scenario.build config = .ok engine →
      engine.rebalanceComponents =
          (scenario.positions.map Prod.fst).filter (· ≠ config.settings.reserveAsset) ++
            scenario.newComponents.map Prod.fst ∧
        (engine.rebalanceComponents.map fun component => (component, (engine.info component).targetUnit)).Perm
          (scenario.targets ++ scenario.newComponents) ∧
        (∀ target ∈ scenario.targets,
          target.1 ≠ config.settings.reserveAsset ∧ target.1 ∈ scenario.positions.map Prod.fst) ∧
        ∀ asset, (engine.custody asset).toNat = scenario.notional asset + scenario.excessOf asset) ∧
    ∀ targets : List QuantityDraft, targets.Perm draft.targets →
      (ScenarioDraft.check { draft with targets } >>= (·.build config)) = scenario.build config := by
  obtain ⟨lists, distinct, positive, apart⟩ := ScenarioDraft.lists_of_check checked
  refine ⟨lists, fun engine run => ?_, fun targets order => ?_⟩
  · obtain ⟨olds, listed, held, components, stored⟩ := targets_build positive apart run
    refine ⟨?_, ?_, fun target member => ?_, custody_build distinct run⟩
    · rw [components, List.map_append, held]
    · have paired : ((olds ++ scenario.newComponents).map Prod.fst).map
          (fun component => (component, (engine.info component).targetUnit)) = olds ++ scenario.newComponents := by
        rw [List.map_map]
        refine (List.map_congr_left fun target member => ?_).trans (List.map_id _)
        exact Prod.ext rfl (stored target member)
      rw [components, paired]
      exact listed.append_right _
    · have named : target.1 ∈ olds.map Prod.fst := List.mem_map_of_mem (listed.mem_iff.mpr member)
      rw [held, List.mem_filter, decide_eq_true_eq] at named
      exact named.symm
  · obtain ⟨targets', order', checked'⟩ := ScenarioDraft.check_of_perm checked order
    rw [checked']
    exact build_of_perm order' apart config

/-- Two targets that are listed against the order of the positions, a new component, and
excess of one asset in two entries. -/
theorem built_as_listed_reordered :
    let usdc : Address := ⟨"usdc", by decide, by decide⟩
    let wbtc : Address := ⟨"wbtc", by decide, by decide⟩
    let draft : ScenarioDraft :=
      { basket := "index"
        manager := "manager"
        totalSupply := "0.5"
        startTime := 1000
        positions := [⟨"dai", "100.5"⟩, ⟨"weth", "0.05"⟩, ⟨"usdc", "0.000000000000000003"⟩]
        excess := [⟨"dai", "1"⟩, ⟨"weth", "2"⟩, ⟨"dai", "0.5"⟩]
        venues := []
        assets := []
        traders := []
        anyoneTrade := true
        targets := [⟨"usdc", "7"⟩, ⟨"dai", "60"⟩]
        newComponents := [⟨"wbtc", "0.25"⟩]
        multiplier := none }
    ∃ scenario engine, draft.check = .ok scenario ∧ scenario.build Engine.Market.config = .ok engine ∧
      engine.rebalanceComponents = [Engine.Market.dai, usdc, wbtc] ∧
      (engine.info Engine.Market.dai).targetUnit = Fixed.ofInt 60_000_000_000_000_000_000 ∧
      (engine.custody Engine.Market.dai).toNat = 51_750_000_000_000_000_000 ∧ (engine.custody usdc).toNat = 1 ∧
      (ScenarioDraft.check { draft with targets := draft.targets.reverse } >>= (·.build Engine.Market.config)) =
        .ok engine := by
  intro usdc wbtc draft
  have runs : (match draft.check with
      | .ok scenario => (scenario.build Engine.Market.config).isOk &&
          scenario.positions.map Prod.fst = [Engine.Market.dai, Engine.Market.weth, usdc] &&
          scenario.targets = [(usdc, Fixed.ofInt 7_000_000_000_000_000_000),
            (Engine.Market.dai, Fixed.ofInt 60_000_000_000_000_000_000)] &&
          scenario.newComponents = [(wbtc, Fixed.ofInt 250_000_000_000_000_000)] &&
          scenario.notional Engine.Market.dai + scenario.excessOf Engine.Market.dai = 51_750_000_000_000_000_000 &&
          scenario.notional usdc + scenario.excessOf usdc = 1
      | .error _ => false) = true := by decide +kernel
  cases checked : draft.check with
  | error cause =>
    rw [checked] at runs
    cases runs
  | ok scenario =>
    rw [checked] at runs
    simp only [Bool.and_eq_true, decide_eq_true_eq] at runs
    obtain ⟨⟨⟨⟨⟨built, positions⟩, targets⟩, news⟩, dai⟩, rest⟩ := runs
    cases run : scenario.build Engine.Market.config with
    | error cause =>
      rw [run] at built
      cases built
    | ok engine =>
      obtain ⟨_, opened, permuted⟩ := built_as_listed checked Engine.Market.config
      obtain ⟨components, paired, _, owned⟩ := opened engine run
      rw [positions, news] at components
      rw [components, targets, news] at paired
      have stored := paired.mem_iff.mp List.mem_cons_self
      have other : Engine.Market.dai ≠ usdc ∧ Engine.Market.dai ≠ wbtc := by decide
      simp only [List.cons_append, List.nil_append, List.mem_cons, Prod.mk.injEq, other.1, other.2, false_and,
        true_and, false_or, or_false, List.not_mem_nil] at stored
      exact ⟨scenario, engine, rfl, run, components, stored, (owned _).trans dai, (owned _).trans rest,
        (permuted _ (List.reverse_perm _)).trans run⟩

end Scenario

end IndexBasket
