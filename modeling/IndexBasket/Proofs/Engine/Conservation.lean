import IndexBasket.Proofs.Engine.Settlement
import IndexBasket.Proofs.Venue.Reserves

namespace IndexBasket

namespace Engine

open IndexBasket.Action

/-- How much of an asset there is: what all holders own of it, and what all pools
of all venues hold. -/
def circulating (engine : Engine) (asset : Address) : Nat :=
  engine.balances.total asset + engine.venues.reserves asset

/-- A call that makes no asset and loses none, if all venues pay out of pools. -/
def Conserves (before after : Engine) : Prop :=
  before.Sound → before.venues.Pooled → ∀ asset, after.circulating asset = before.circulating asset

instance : Std.Refl Conserves := ⟨fun _ _ _ _ => rfl⟩

theorem SameHoldings.conserves {before after : Engine} (same : SameHoldings before after) :
    Conserves before after := by
  intro _ _ asset
  unfold circulating
  rw [same.balances, same.venues]

/-- The pools take what the basket pays and pay what it receives. The fee only
changes hands. -/
theorem Settled.conserves {engine after : Engine} {component : Address} {direction : TradeDirection}
    {exchange : Exchange} {order : SwapOrder} {bound : Amount} {fill : Fill} {trade : Trade}
    (sound : engine.Sound) (pooled : engine.venues.Pooled) (listed : component ∈ engine.rebalanceComponents)
    (sold : order.assetIn = engine.soldAsset component direction)
    (bought : order.assetOut = engine.boughtAsset component direction)
    (swapped : Venues.execute exchange order bound engine.venues = .ok fill after.venues)
    (settled : Settled engine component direction fill trade after) (asset : Address) :
    after.circulating asset = engine.circulating asset := by
  have distinct := sound.component_ne_reserve listed
  have different : order.assetIn ≠ order.assetOut := by
    rw [sold, bought]
    cases direction with
    | buy => exact distinct.symm
    | sell => exact distinct
  have pools := Venues.reserves_execute pooled different swapped asset
  have owned := settled.total asset
  rw [sold, bought] at pools
  unfold circulating
  omega

theorem moves_trade_conserves (context : CallContext) (component : Address) :
    Moves Conserves (Engine.trade context component) := by
  refine moves_atomically_of_ok fun run sound pooled asset => ?_
  obtain ⟨direction, quantity, exchange, bound, fill, listed, _, swapped, settled⟩ :=
    trade_eq_ok sound (atomically_eq_ok.mpr run)
  exact settled.conserves sound pooled listed (swapOrder_assetIn _ _ _ _) (swapOrder_assetOut _ _ _ _) swapped asset

theorem moves_tradeRemainingReserve_conserves (context : CallContext) (component : Address) :
    Moves Conserves (Engine.tradeRemainingReserve context component) := by
  refine moves_atomically_of_ok fun run sound pooled asset => ?_
  obtain ⟨exchange, bound, fill, listed, swapped, settled⟩ :=
    tradeRemainingReserve_eq_ok sound (atomically_eq_ok.mpr run)
  exact settled.conserves sound pooled listed rfl rfl swapped asset

theorem moves_perform_conserves (context : CallContext) (command : Command) :
    Moves Conserves (command.perform context) :=
  moves_perform_of SameHoldings.conserves moves_trade_conserves moves_tradeRemainingReserve_conserves
    context command

/-- Whatever is called, by whomever and with whatever outcome: of every asset
there is as much after the call as before it. -/
theorem circulating_perform {engine : Engine} (reached : engine.Reachable) (pooled : engine.venues.Pooled)
    (context : CallContext) (command : Command) (asset : Address) :
    ((command.perform context).final engine).circulating asset = engine.circulating asset :=
  moves_perform_conserves context command engine reached.sound pooled asset

theorem circulating_perform_trade :
    let engine := Market.engine Fixed.one (Fixed.ofInt 500_000_000_000_000_000)
      (Amount.ofNat 1_000_000_000_000_000_000_000)
    let after := ((Command.trade Market.dai).perform (Market.call 1)).final engine
    engine.Reachable ∧ engine.venues.Pooled ∧ after.custody Market.dai ≠ engine.custody Market.dai ∧
      after.circulating Market.dai = engine.circulating Market.dai := by
  intro engine after
  have reached : engine.Reachable := Market.reachable _ _ _
  have pooled : engine.venues.Pooled := by
    have same : engine.venues = Market.venues := by decide +kernel
    intro exchange venue found
    rw [same, Market.venues, Std.ExtTreeMap.getElem?_insert] at found
    split at found
    · cases found
      trivial
    · simp at found
  exact ⟨reached, pooled, by decide +kernel, circulating_perform reached pooled _ _ _⟩

end Engine

end IndexBasket
