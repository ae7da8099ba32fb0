import IndexBasket.Proofs.Engine.Coverage
import IndexBasket.Proofs.Scenario.Setup

namespace IndexBasket

open IndexBasket.Action

/-- An engine that has been built for a run is covered: its basket is funded by
the units that its positions list, each rounded down to what they are tracked at. -/
theorem Scenario.covered_build {scenario : Scenario} {config : Config} {engine : Engine}
    (run : scenario.build config = .ok engine) (asset : Address) : engine.Covered asset := by
  obtain ⟨registry, basket, balances, venues, _, opened, funded, managed⟩ := build_eq_ok run
  obtain ⟨_, address, supply, positions⟩ := basketOn_eq_ok opened
  have same := managed.sameHoldings
  unfold Engine.Covered
  rw [same.custody, same.tracked]
  change (basket.ledger.defaultRealUnit asset).toInt.toNat * basket.totalSupply.toNat / 10 ^ 18 ≤
    (balances.balanceOf basket.address asset).toNat
  rw [address, supply]
  rcases Ledger.defaultRealUnit_ofPositions positions asset with none | listed
  · rw [none, show Fixed.zero.toInt.toNat = 0 from rfl, Nat.zero_mul, Nat.zero_div]
    exact Nat.zero_le _
  · exact fund_eq_ok funded listed

/-- A basket never claims more than it has: a state in which every asset is
covered is followed by such states only, whatever is called. No call takes from
what there is beyond the claim, except one that spends the reserve to the end. -/
theorem Engine.covered_perform :
    (∀ {engine : Engine}, engine.Reachable → (∀ asset, engine.Covered asset) →
      ∀ (context : CallContext) (command : Command) (asset : Address),
        ((command.perform context).final engine).Covered asset ∧
          (engine.surplus asset ≤ ((command.perform context).final engine).surplus asset ∨
            asset = engine.reserve ∧ engine.custody asset ≠ Amount.zero ∧
              ((command.perform context).final engine).custody asset = Amount.zero)) ∧
    ∀ {scenario : Scenario} {config : Config} {engine : Engine}, scenario.build config = .ok engine →
      ∀ asset, engine.Covered asset :=
  ⟨fun reached covered context command asset =>
    moves_perform_backs context command _ reached.sound asset (covered asset), Scenario.covered_build⟩

/-- A sale of 400 dai, out of a custody that was covered and is covered after it. -/
theorem Engine.covered_perform_sale :
    ∃ engine trade after, Market.scenario.build Market.config = .ok engine ∧
      (Command.trade Market.dai).perform (Market.call 1000) engine = .ok (.traded trade) after ∧
      trade.direction = .sell ∧ trade.amountSold = Amount.ofNat 400_000_000_000_000_000_000 ∧
      (engine.custody Market.dai).toNat = (after.custody Market.dai).toNat + trade.amountSold.toNat ∧
      ∀ asset, engine.Covered asset ∧ after.Covered asset := by
  have sells : (match Market.scenario.build Market.config with
      | .ok engine => ((Command.trade Market.dai).perform (Market.call 1000)).succeeds (fun reply after =>
          match reply with
          | .traded trade => trade.direction = .sell ∧ trade.amountSold = Amount.ofNat 400_000_000_000_000_000_000 ∧
              (engine.custody Market.dai).toNat = (after.custody Market.dai).toNat + trade.amountSold.toNat
          | _ => false) engine
      | .error _ => false) = true := by decide +kernel
  cases run : Market.scenario.build Market.config with
  | error failure =>
    rw [run] at sells
    cases sells
  | ok engine =>
    rw [run] at sells
    obtain ⟨reply, after, traded, moved⟩ := succeeds_iff.mp sells
    have covered := covered_perform.2 run
    have kept := covered_perform.1 (Scenario.reachable_build run) covered (Market.call 1000) (.trade Market.dai)
    rw [final_of_ok traded] at kept
    cases reply with
    | traded trade =>
      obtain ⟨direction, sold, left⟩ := of_decide_eq_true moved
      exact ⟨engine, trade, after, rfl, traded, direction, sold, left, fun asset => ⟨covered asset, (kept asset).1⟩⟩
    | done | raised snapshot => cases moved

end IndexBasket
