import IndexBasket.Proofs.Engine.Footprint

namespace IndexBasket

open IndexBasket.Action

theorem hasDuplicate_eq_false {α : Type} [DecidableEq α] {items : List α} :
    hasDuplicate items = false ↔ items.Nodup := by
  induction items with
  | nil => simp [hasDuplicate]
  | cons item rest ih => simp [hasDuplicate, ih]

namespace Engine

/-- What sizing and swaps rely on without looking at it: targets can be scaled, no
component is traded twice in a rebalance, and every route leads to a venue. -/
structure WellPosed (engine : Engine) : Prop where
  scalable : 0 < engine.snapshot.toInt
  distinct : engine.rebalanceComponents.Nodup
  registered : ∀ asset, (engine.info asset).exchange = .unset ∨
    engine.venues.contains (engine.info asset).exchange = true

variable {engine after : Engine} {context : CallContext} {component : Address} {failure : EngineError}

theorem raisedSnapshot_pos {snapshot raised : Fixed} {percentage : Amount}
    (run : raisedSnapshot snapshot percentage = .ok raised) : 0 < raised.toInt := by
  simp only [raisedSnapshot, Except.bind_eq_ok, demand_eq_ok, Option.filter_eq_some_iff] at run
  obtain ⟨_, _, _, _, _, positive⟩ := run
  exact of_decide_eq_true positive

/-- A change that keeps the route of an asset, or leads it to a venue. -/
theorem WellPosed.updateInfo (posed : engine.WellPosed) (asset : Address) {change : AssetInfo → AssetInfo}
    (routed : (change (engine.info asset)).exchange = (engine.info asset).exchange ∨
      (change (engine.info asset)).exchange = .unset ∨
      engine.venues.contains (change (engine.info asset)).exchange = true) :
    (engine.updateInfo asset change).WellPosed := by
  refine ⟨posed.scalable, posed.distinct, fun other => ?_⟩
  rw [info_updateInfo_ite]
  split
  · rename_i same
    subst same
    rcases routed with kept | led
    · rw [kept]
      exact posed.registered asset
    · exact led
  · exact posed.registered other

theorem WellPosed.record (posed : engine.WellPosed) (event : Event) : (engine.record event).WellPosed :=
  ⟨posed.scalable, posed.distinct, posed.registered⟩

theorem Amends.wellPosed (amends : Amends engine after) (posed : engine.WellPosed) : after.WellPosed := by
  rcases amends with @⟨_, step⟩ | ⟨snapshot, run⟩
  · cases step with
    | target asset | tradeMaximum asset | coolOffPeriod asset => exact (posed.updateInfo asset (Or.inl rfl)).record _
    | exchange asset exchange registered => exact (posed.updateInfo asset (Or.inr registered)).record _
    | opening components snapshot positive distinct =>
      exact ⟨positive, hasDuplicate_eq_false.mp distinct, posed.registered⟩
    | raisePercentage | trader | anyoneTrade => exact ⟨posed.scalable, posed.distinct, posed.registered⟩
  · exact ⟨raisedSnapshot_pos run, posed.distinct, posed.registered⟩

theorem Amended.wellPosed (amended : Amended engine after) (posed : engine.WellPosed) : after.WellPosed := by
  induction amended with
  | refl => exact posed
  | tail _ step ih => exact step.wellPosed ih

theorem moves_activate_wellPosed (context : CallContext) : Moves (Preserves WellPosed) (activate context) :=
  moves_activate_of (fun _ _ posed => posed.updateInfo _ (Or.inl rfl))
    (fun _ _ posed => ⟨posed.scalable, posed.distinct, posed.registered⟩) context

/-- A trade leaves every route where it was, and every venue registered. -/
theorem TradeFootprint.wellPosed {trade : Trade} (footprint : engine.TradeFootprint context component trade after)
    (posed : engine.WellPosed) : after.WellPosed := by
  have kept := footprint.elsewhere
  refine ⟨?_, ?_, fun asset => ?_⟩
  · rw [kept]
    exact posed.scalable
  · rw [kept]
    exact posed.distinct
  · have contains : ∀ exchange, engine.venues.contains exchange = true → after.venues.contains exchange = true := by
      intro exchange present
      unfold Venues.contains at present ⊢
      rw [Std.ExtTreeMap.contains_eq_isSome_getElem?] at present ⊢
      by_cases here : exchange = (engine.info component).exchange
      · obtain ⟨_, left, _, found, _⟩ := footprint.venue
        rw [here, found]
        rfl
      · rwa [footprint.exchanges exchange here]
    rw [footprint.info asset]
    exact (posed.registered asset).imp_right (contains _)

theorem moves_perform_wellPosed (context : CallContext) (command : Command) :
    Moves (Preserves WellPosed) (command.perform context) := by
  by_cases manages : command.Manages
  · by_cases activates : command = .activate
    · subst activates
      exact moves_map _ (moves_activate_wellPosed context)
    · exact fun start => (moves_amends context manages activates start).wellPosed
  · obtain ⟨component, trades⟩ := Command.exists_trades manages
    refine (failsInPlace_perform context command).moves fun {engine after reply} run => ?_
    obtain ⟨trade, _, _, _, _, rfl, _⟩ := trades.settles run
    exact (trades.footprint run).wellPosed

theorem Step.wellPosed (step : Step engine after) (posed : engine.WellPosed) : after.WellPosed := by
  cases step with
  | call context command => exact moves_perform_wellPosed context command engine posed
  | editBasket | editBalances | replaceBasket | replaceBalances | takeEvents =>
    exact ⟨posed.scalable, posed.distinct, posed.registered⟩

theorem Reachable.wellPosed (reached : engine.Reachable) : engine.WellPosed := by
  induction reached with
  | create =>
    refine ⟨(by decide : 0 < Fixed.one.toInt), List.nodup_nil, fun asset => Or.inl ?_⟩
    rw [info, Engine.create, Std.ExtTreeMap.getD_empty]
  | step _ step ih => exact step.wellPosed ih

/-- A target is scaled wherever the result is within the range. -/
theorem WellPosed.targetUnit_eq_ok (posed : engine.WellPosed) {unit : Fixed} :
    engine.targetUnit component = .ok unit ↔
      unit.toInt = (engine.info component).targetUnit.toInt * engine.basket.ledger.multiplier.toInt /
        engine.snapshot.toInt := by
  rw [targetUnit, demand_eq_ok, Fixed.mulDivFloor_eq_some, Int.fdiv_eq_ediv_of_nonneg _ posed.scalable.le]
  exact and_iff_right posed.scalable.ne'

/-- What no call of a well-posed engine fails with. -/
inductive IllPosed : EngineError → Prop
  | notRegistered (exchange : Exchange) : IllPosed (.venue (.notRegistered exchange))
  | reserveAsComponent : IllPosed .reserveAsComponent

theorem WellPosed.not_illPosed_of_unquoted (posed : engine.WellPosed)
    (routed : (engine.info component).exchange ≠ .unset)
    (unquoted : Unquoted engine (engine.info component).exchange failure) : ¬IllPosed failure := by
  have registered := (posed.registered component).resolve_left routed
  cases unquoted with
  | unpriced unpriced =>
    rintro ⟨⟩
    cases unpriced
  | notRegistered absent => exact absurd registered (Bool.eq_false_iff.mp absent)

theorem WellPosed.not_illPosed_of_swap (posed : engine.WellPosed) (routed : (engine.info component).exchange ≠ .unset)
    {order : SwapOrder} {bound : Amount}
    (stopped : Engine.swap (engine.info component).exchange order bound engine = .error failure after) :
    ¬IllPosed failure := by
  have registered := (posed.registered component).resolve_left routed
  obtain ⟨_, absent⟩ | ⟨cause, venue, _, rfl, _, refused⟩ := swap_eq_error stopped
  · exact absurd registered (Bool.eq_false_iff.mp absent)
  · rintro ⟨⟩
    obtain unpriced | ⟨_, rejected⟩ | ⟨fill, beyond, _⟩ := Venue.execute_eq_error refused
    · cases unpriced
    · cases rejected
    · unfold checkBound at beyond
      split at beyond <;> split at beyond <;> cases beyond

theorem WellPosed.not_illPosed_of_planTrade (posed : engine.WellPosed)
    (stopped : engine.planTrade component = .error failure) : ¬IllPosed failure := by
  obtain rfl | unsized | ⟨routed, unquoted⟩ := planTrade_eq_error stopped
  · rintro ⟨⟩
  · cases unsized <;> rintro ⟨⟩
  · exact posed.not_illPosed_of_unquoted routed unquoted

theorem WellPosed.not_illPosed_of_trade (posed : engine.WellPosed)
    (stopped : Engine.trade context component engine = .error failure after) : ¬IllPosed failure := by
  obtain refused | unplanned | ⟨_, plan, planned, stopped⟩ := trade_eq_error stopped
  · cases refused <;> rintro ⟨⟩
  · exact posed.not_illPosed_of_planTrade unplanned
  obtain ⟨_, exchange, routed, _⟩ := planTrade_iff.mp planned
  rw [exchange] at routed
  obtain unbounded | ⟨_, _, ⟨_, refused⟩ | ⟨_, _, _, _, unbooked⟩⟩ := stopped
  · cases engine.failsWith_slippageBound _ _ _ unbounded <;> rintro ⟨⟩
  · rw [exchange] at refused
    exact posed.not_illPosed_of_swap routed refused
  · cases stopsWith_settle _ _ _ _ _ _ unbooked <;> rintro ⟨⟩

theorem WellPosed.not_illPosed_of_tradeRemainingReserve (posed : engine.WellPosed)
    (absent : engine.reserve ∉ engine.rebalanceComponents)
    (stopped : Engine.tradeRemainingReserve context component engine = .error failure after) :
    ¬IllPosed failure := by
  obtain refused | unsure | rfl | ⟨_, permits, rfl⟩ | ⟨_, tradable, stopped⟩ :=
    tradeRemainingReserve_eq_error stopped
  · cases refused <;> rintro ⟨⟩
  · cases engine.failsWith_nothingToSell _ unsure <;> rintro ⟨⟩
  · rintro ⟨⟩
  · exact absurd permits.listed absent
  obtain rfl | rfl | unquoted | ⟨_, _, unbounded | ⟨_, _, ⟨_, refused⟩ | ⟨_, _, _, _, unbooked⟩⟩⟩ := stopped
  · rintro ⟨⟩
  · rintro ⟨⟩
  · exact posed.not_illPosed_of_unquoted tradable.routed (engine.failsWith_quote _ _ unquoted)
  · cases engine.failsWith_slippageBound _ _ _ unbounded <;> rintro ⟨⟩
  · exact posed.not_illPosed_of_swap tradable.routed refused
  · cases stopsWith_settle _ _ _ _ _ _ unbooked <;> rintro ⟨⟩

/-- Every engine that is reached is well posed, and its reserve is no component: what a
target is scaled by is never zero, no plan and no trade asks a venue that is not
registered, and the reserve is never asked to be bought for itself. -/
theorem reached_wellPosed (reached : engine.Reachable) :
    0 < engine.snapshot.toInt ∧ engine.rebalanceComponents.Nodup ∧ engine.reserve ∉ engine.rebalanceComponents ∧
    (∀ asset, (engine.info asset).exchange = .unset ∨ engine.venues.contains (engine.info asset).exchange = true) ∧
    (∀ component unit, engine.targetUnit component = .ok unit ↔
      unit.toInt = (engine.info component).targetUnit.toInt * engine.basket.ledger.multiplier.toInt /
        engine.snapshot.toInt) ∧
    (∀ component exchange, engine.planTrade component ≠ .error (.venue (.notRegistered exchange))) ∧
    ∀ context component exchange after,
      Engine.trade context component engine ≠ .error (.venue (.notRegistered exchange)) after ∧
      Engine.tradeRemainingReserve context component engine ≠ .error (.venue (.notRegistered exchange)) after ∧
      Engine.tradeRemainingReserve context component engine ≠ .error .reserveAsComponent after := by
  have posed := reached.wellPosed
  have absent := reached.sound.reserve_not_component
  refine ⟨posed.scalable, posed.distinct, absent, posed.registered, fun _ _ => posed.targetUnit_eq_ok,
    fun component exchange stopped => ?_, fun context component exchange after =>
      ⟨fun stopped => ?_, fun stopped => ?_, fun stopped => ?_⟩⟩
  · exact posed.not_illPosed_of_planTrade stopped (.notRegistered exchange)
  · exact posed.not_illPosed_of_trade stopped (.notRegistered exchange)
  · exact posed.not_illPosed_of_tradeRemainingReserve absent stopped (.notRegistered exchange)
  · exact posed.not_illPosed_of_tradeRemainingReserve absent stopped .reserveAsComponent

/-- A rebalance with a component that is sold. -/
theorem reached_wellPosed_market :
    let engine := Market.engine Fixed.one (Fixed.ofInt 500_000_000_000_000_000)
      (Amount.ofNat 1_000_000_000_000_000_000_000)
    engine.Reachable ∧ engine.rebalanceComponents = [Market.dai] ∧ (engine.info Market.dai).exchange = .uniswap ∧
      engine.venues.contains .uniswap = true ∧
      engine.targetUnit Market.dai = .ok (Fixed.ofInt 500_000_000_000_000_000) := by
  intro engine
  have reached : engine.Reachable := Market.reachable _ _ _
  obtain ⟨_, _, _, registered, scaled, _⟩ := reached_wellPosed reached
  have routed : (engine.info Market.dai).exchange = .uniswap := by decide +kernel
  have led := registered Market.dai
  rw [routed] at led
  exact ⟨reached, by decide +kernel, routed, led.resolve_left nofun, (scaled _ _).mpr (by decide +kernel)⟩

end Engine

end IndexBasket
