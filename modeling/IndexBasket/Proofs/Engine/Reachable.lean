import IndexBasket.Proofs.Engine.Management
import IndexBasket.Proofs.Ledger.Rescaling

namespace IndexBasket

open IndexBasket.Action

/-- The registries that can be set up. Fees have to pass the check of their setter. -/
inductive Registry.Built : Registry → Prop
  | create (feeRecipient : Address) : Built { feeRecipient }
  | basket {registry : Registry} (built : Built registry) (basket : Address) : Built (registry.withBasket basket)
  | module {registry : Registry} (built : Built registry) (module : Address) : Built (registry.withModule module)
  | fee {registry after : Registry} {done : Unit} (built : Built registry) (module : Address) (index : UInt64)
      (percentage : Amount) (run : setModuleFee module index percentage registry = .ok done after) : Built after

theorem Registry.moduleFee_eq_getD (registry : Registry) (module : Address) (index : UInt64) :
    registry.moduleFee module index = (registry.moduleFees.getD module ∅).getD index Amount.zero := by
  have read : registry.moduleFees.getD module ∅ = registry.moduleFees[module]?.getD ∅ :=
    Std.ExtTreeMap.getD_eq_getD_getElem?
  rw [moduleFee, read]
  cases registry.moduleFees[module]? with
  | none => rfl
  | some => rfl

theorem Registry.moduleFee_setModuleFee {registry after : Registry} {module : Address} {index : UInt64}
    {percentage : Amount} {done : Unit} (run : setModuleFee module index percentage registry = .ok done after)
    (module' : Address) (index' : UInt64) :
    after.moduleFee module' index' = registry.moduleFee module' index' ∨
      after.moduleFee module' index' = percentage ∧ percentage.toNat ≤ 10 ^ 18 := by
  simp only [setModuleFee, guard_bind_eq_ok, modify_eq_ok] at run
  obtain ⟨within, rfl⟩ := run
  have small : percentage.toNat ≤ 10 ^ 18 := Nat.not_lt.mp within
  rw [moduleFee_eq_getD, moduleFee_eq_getD, Std.ExtTreeMap.getD_insert]
  by_cases sameModule : module = module'
  · subst sameModule
    rw [if_pos (Std.LawfulEqCmp.compare_eq_iff_eq.mpr rfl), Std.ExtTreeMap.getD_insert]
    split
    · exact Or.inr ⟨rfl, small⟩
    · exact Or.inl rfl
  · rw [if_neg fun same => sameModule (Std.LawfulEqCmp.compare_eq_iff_eq.mp same)]
    exact Or.inl rfl

/-- No fee is more than the whole. -/
theorem Registry.Built.moduleFee_le {registry : Registry} (built : registry.Built) (module : Address)
    (index : UInt64) : (registry.moduleFee module index).toNat ≤ 10 ^ 18 := by
  induction built with
  | create =>
    rw [moduleFee_eq_getD, Std.ExtTreeMap.getD_empty, Std.ExtTreeMap.getD_empty]
    decide
  | basket _ _ ih => exact ih
  | module _ _ ih => exact ih
  | fee _ _ _ _ run ih =>
    rcases moduleFee_setModuleFee run module index with same | ⟨changed, small⟩
    · rw [same]
      exact ih
    · rw [changed]
      exact small

/-- The baskets that can be made: opened with positions, and edited since. An
edit may look modules up in any registry. -/
inductive Basket.Built : Basket → Prop
  | create {basket : Basket} (address manager : Address) (positions : List (Address × Fixed))
      (totalSupply : Amount) (run : Basket.create address manager positions totalSupply = .ok basket) :
      Built basket
  | edit {basket : Basket} (built : Built basket) (registry : Registry) (edit : Edit) :
      Built ((edit.apply registry).final basket)

theorem Basket.moves_requireManager (caller : Address) : Moves Eq (requireManager caller) :=
  moves_bind moves_get fun _ => moves_ite (moves_throw _) (moves_pure _)

section Ledger

variable {kept : Ledger → Prop}

theorem Basket.moves_onLedger {update : Ledger.Update} (moves : Moves (Preserves kept) update) :
    Moves (Preserves fun basket : Basket => kept basket.ledger) (onLedger update) :=
  moves_within moves fun _ _ => id

variable (each : ∀ edit : Ledger.Edit, Moves (Preserves kept) edit.apply)

include each

/-- What every edit of a ledger keeps, every edit of a basket keeps. -/
theorem Basket.moves_edit (registry : Registry) (edit : Edit) :
    Moves (Preserves fun basket : Basket => kept basket.ledger) (edit.apply registry) := by
  cases edit with
  | addModule caller module =>
    refine moves_bind (moves_of_still (moves_requireManager caller)) fun _ => moves_bind moves_get fun _ => moves_guard ?_
    exact moves_guard (moves_modify fun _ => id)
  | initializeModule module => exact moves_bind moves_get fun _ => moves_guard (moves_modify fun _ => id)
  | removeModule caller module =>
    refine moves_bind (moves_of_still (moves_requireManager caller)) fun _ => moves_bind moves_get fun _ => ?_
    exact moves_guard (moves_modify fun _ => id)
  | setManager caller manager =>
    exact moves_bind (moves_of_still (moves_requireManager caller)) fun _ => moves_modify fun _ => id
  | setTotalSupply totalSupply => exact moves_modify fun _ => id
  | ledger edit => exact moves_onLedger (each edit)

theorem Basket.Built.keeps
    (opened : ∀ {positions : List (Address × Fixed)} {ledger : Ledger}, Ledger.ofPositions positions = .ok ledger →
      kept ledger)
    {basket : Basket} (built : basket.Built) : kept basket.ledger := by
  induction built with
  | create address manager positions totalSupply run =>
    obtain ⟨ledger, run', done⟩ := Except.bind_eq_ok.mp run
    cases done
    exact opened run'
  | edit _ registry edit ih => exact moves_edit each registry edit _ ih

end Ledger

theorem Basket.Built.readable {basket : Basket} (built : basket.Built) : basket.ledger.Readable :=
  built.keeps Ledger.moves_edit Ledger.readable_ofPositions

namespace Engine

/-- What can happen to an engine: a call, whether it fails or not, or an edit
that somebody else makes. Of a failing edit, what it wrote before stays. Its
basket and its balances may also be put in place as a whole. -/
inductive Step (engine : Engine) : Engine → Prop
  | call (context : CallContext) (command : Command) : Step engine ((command.perform context).final engine)
  | editBasket (registry : Registry) (edit : Basket.Edit) :
      Step engine { engine with basket := (edit.apply registry).final engine.basket }
  | editBalances (edit : Balances.Edit) :
      Step engine { engine with balances := edit.apply.final engine.balances }
  | replaceBasket {basket : Basket} (built : basket.Built) : Step engine { engine with basket }
  | replaceBalances (balances : Balances) : Step engine { engine with balances }
  | takeEvents : Step engine (takeEvents.final engine)

/-- The states of an engine that is created over a basket, with any settings,
balances and venues. -/
inductive Reachable : Engine → Prop
  | create {registry : Registry} {basket : Basket} (registered : registry.Built) (settings : EngineSettings)
      (built : basket.Built) (balances : Balances) (venues : Venues) :
      Reachable (Engine.create registry settings basket balances venues)
  | step {engine after : Engine} (reached : Reachable engine) (step : Step engine after) : Reachable after

/-- The invariant of the reachable states. -/
structure Sound (engine : Engine) : Prop where
  readable : engine.basket.ledger.Readable
  fee_le : ∀ module index, (engine.registry.moduleFee module index).toNat ≤ 10 ^ 18
  reserve_not_component : engine.reserve ∉ engine.rebalanceComponents

theorem Sound.component_ne_reserve {engine : Engine} (sound : engine.Sound) {component : Address}
    (listed : component ∈ engine.rebalanceComponents) : component ≠ engine.reserve :=
  fun same => sound.reserve_not_component (same ▸ listed)

theorem Sound.withVenues {engine : Engine} (sound : engine.Sound) (venues : Venues) :
    Sound { engine with venues } :=
  ⟨sound.readable, sound.fee_le, sound.reserve_not_component⟩

theorem Sound.of_sameHoldings {before after : Engine} (sound : before.Sound) (same : SameHoldings before after) :
    after.Sound := by
  refine ⟨?_, fun module index => ?_, same.reserve_not_component sound.reserve_not_component⟩
  · rw [same.ledger]
    exact sound.readable
  · rw [same.registry]
    exact sound.fee_le module index

theorem moves_onBalances (update : Balances.Update) : Moves (Preserves Sound) (onBalances update) := by
  refine moves_within (Q := fun _ _ => True) (fun _ => trivial) fun whole new _ sound => ?_
  exact ⟨sound.readable, sound.fee_le, sound.reserve_not_component⟩

theorem moves_swap (exchange : Exchange) (order : SwapOrder) (bound : Amount) :
    Moves (Preserves Sound) (swap exchange order bound) := by
  exact moves_within (Q := fun _ _ => True) (fun _ => trivial) fun whole new _ sound => sound.withVenues new

theorem moves_updatePosition (asset : Address) (before : Amount) :
    Moves (Preserves Sound) (updatePosition asset before) := by
  refine moves_bind moves_get fun engine => moves_bind (moves_lift _) fun unit => ?_
  have stored := Basket.moves_onLedger (Ledger.moves_edit (.defaultPosition asset unit))
  refine moves_bind (moves_within stored fun whole new moved sound => ?_) fun _ => moves_pure _
  exact ⟨moved sound.readable, sound.fee_le, sound.reserve_not_component⟩

theorem moves_settle (context : CallContext) (component : Address) (direction : TradeDirection)
    (exchange : Exchange) (fill : Fill) (before : PreTrade) :
    Moves (Preserves Sound) (settle context component direction exchange fill before) := by
  refine moves_bind moves_get fun _ => moves_bind (moves_onBalances _) fun _ => ?_
  refine moves_bind (moves_onBalances _) fun _ => moves_bind (moves_lift _) fun fee => ?_
  refine moves_when (moves_onBalances _) fun _ => ?_
  refine moves_bind (moves_updatePosition _ _) fun _ => moves_bind (moves_updatePosition _ _) fun _ => ?_
  refine moves_bind (moves_modify fun engine sound => ?_) fun _ =>
    moves_bind (moves_modify fun engine sound => ?_) fun _ => moves_pure _
  all_goals exact ⟨sound.readable, sound.fee_le, sound.reserve_not_component⟩

theorem moves_trade (context : CallContext) (component : Address) :
    Moves (Preserves Sound) (trade context component) := by
  refine moves_atomically (moves_bind (moves_of_still (moves_requireAllowedTrader context)) fun _ => ?_)
  refine moves_bind (moves_of_still (moves_requireExternallyOwned context)) fun _ => ?_
  refine moves_bind (moves_of_still moves_requireValidBasket) fun _ => ?_
  refine moves_bind (moves_of_still (moves_requireInRebalance component)) fun _ => ?_
  refine moves_bind (moves_of_still (moves_requireTradable component context.timestamp)) fun _ => ?_
  refine moves_bind moves_get fun _ => moves_bind (moves_lift _) fun _ => moves_bind (moves_lift _) fun _ => ?_
  exact moves_bind (moves_swap _ _ _) fun _ => moves_settle _ _ _ _ _ _

theorem moves_tradeRemainingReserve (context : CallContext) (component : Address) :
    Moves (Preserves Sound) (tradeRemainingReserve context component) := by
  refine moves_atomically (moves_bind (moves_of_still (moves_requireAllowedTrader context)) fun _ => ?_)
  refine moves_bind (moves_of_still (moves_requireExternallyOwned context)) fun _ => ?_
  refine moves_bind (moves_of_still moves_requireValidBasket) fun _ => ?_
  refine moves_bind (moves_of_still (moves_requireInRebalance component)) fun _ => ?_
  refine moves_bind moves_get fun _ => moves_bind (moves_lift _) fun _ => moves_guard (moves_guard ?_)
  refine moves_bind (moves_of_still (moves_requireTradable component context.timestamp)) fun _ => ?_
  refine moves_guard (moves_bind (moves_lift _) fun _ => moves_guard (moves_bind (moves_lift _) fun _ => ?_))
  exact moves_bind (moves_swap _ _ _) fun _ => moves_guard (moves_settle _ _ _ _ _ _)

/-- No call breaks the invariant: one that trades keeps the multiplier, the
registry and the components, and any other one all that is held. -/
theorem moves_perform (context : CallContext) (command : Command) :
    Moves (Preserves Sound) (command.perform context) :=
  moves_perform_of (fun same sound => sound.of_sameHoldings same) moves_trade moves_tradeRemainingReserve
    context command

theorem Step.sound {engine after : Engine} (step : Step engine after) (sound : engine.Sound) : after.Sound := by
  cases step with
  | call context command => exact moves_perform context command engine sound
  | editBasket registry edit =>
    exact ⟨Basket.moves_edit Ledger.moves_edit registry edit _ sound.readable, sound.fee_le, sound.reserve_not_component⟩
  | editBalances edit => exact ⟨sound.readable, sound.fee_le, sound.reserve_not_component⟩
  | replaceBasket built => exact ⟨built.readable, sound.fee_le, sound.reserve_not_component⟩
  | replaceBalances balances => exact ⟨sound.readable, sound.fee_le, sound.reserve_not_component⟩
  | takeEvents => exact ⟨sound.readable, sound.fee_le, sound.reserve_not_component⟩

theorem Reachable.sound {engine : Engine} (reached : engine.Reachable) : engine.Sound := by
  induction reached with
  | create registered settings built balances venues =>
    exact ⟨built.readable, registered.moduleFee_le, List.not_mem_nil⟩
  | step _ step ih => exact step.sound ih

/-- An engine over an edited basket, after some calls. -/
def launch (registry : Registry) (settings : EngineSettings) (basket : Basket) (edits : List Basket.Edit)
    (balances : Balances) (venues : Venues) (calls : List (CallContext × Command)) : Engine :=
  calls.foldl (fun engine call => (call.2.perform call.1).final engine)
    (Engine.create registry settings (edits.foldl (fun basket edit => (edit.apply registry).final basket) basket)
      balances venues)

theorem reachable_launch {registry : Registry} {basket : Basket} (registered : registry.Built)
    (built : basket.Built) (settings : EngineSettings) (edits : List Basket.Edit) (balances : Balances)
    (venues : Venues) (calls : List (CallContext × Command)) :
    (launch registry settings basket edits balances venues calls).Reachable := by
  have edited : (edits.foldl (fun basket edit => (edit.apply registry).final basket) basket).Built := by
    induction edits generalizing basket with
    | nil => exact built
    | cons edit rest ih => exact ih (built.edit registry edit)
  have created := Reachable.create registered settings edited balances venues
  unfold launch
  generalize Engine.create registry settings _ balances venues = engine at created ⊢
  induction calls generalizing engine with
  | nil => exact created
  | cons call rest ih => exact ih _ (created.step (.call call.1 call.2))

/-! A market of two assets in one pool, and a basket that holds a thousand of each. -/

namespace Market

def dai : Address := ⟨"dai", by decide, by decide⟩

def weth : Address := ⟨"weth", by decide, by decide⟩

def index : Address := ⟨"index", by decide, by decide⟩

def manager : Address := ⟨"manager", by decide, by decide⟩

def treasury : Address := ⟨"treasury", by decide, by decide⟩

def rebalancer : Address := ⟨"rebalancer", by decide, by decide⟩

def registry : Registry := (({ feeRecipient := treasury } : Registry).withBasket index).withModule rebalancer

def basket : Basket where
  address := index
  manager := manager
  ledger :=
    { components := [dai, weth]
      defaultUnits := ((∅ : AddressMap Fixed).insert dai (Fixed.ofInt 1_000_000_000_000_000_002)).insert weth
        Fixed.one }
  totalSupply := Amount.ofNat 100_000_000_000_000_000_000

theorem basket_built : basket.Built :=
  .create index manager
    [(dai, Fixed.ofInt 1_000_000_000_000_000_002), (weth, Fixed.one)]
    (Amount.ofNat 100_000_000_000_000_000_000) (by decide +kernel)

def balances : Balances :=
  ⟨(∅ : AddressMap (AddressMap Amount)).insert index
    (((∅ : AddressMap Amount).insert dai (Amount.ofNat 1_000_000_000_000_000_000_000)).insert weth
      (Amount.ofNat 1_000_000_000_000_000_000_000))⟩

def venues : Venues :=
  ⟨(∅ : Std.ExtTreeMap Exchange Venue).insert .uniswap (.pair (({} : PairRouter).addPool
    (Pool.create dai (Amount.ofNat 1_000_000_000_000_000_000_000_000) weth
      (Amount.ofNat 1_000_000_000_000_000_000_000_000) 30)))⟩

def settings : EngineSettings := { module := rebalancer, reserveAsset := weth }

/-- A call that an account of the manager makes. -/
def call (timestamp : Timestamp) : CallContext := ⟨manager, .externallyOwned, timestamp⟩

/-- A rebalance of one component, at a live multiplier that is its snapshot. -/
def engine (multiplier target : Fixed) (limit : Amount) : Engine :=
  launch registry settings basket
    [.ledger (.rescale multiplier), .addModule manager rebalancer] balances venues
    [(call 0, .activate), (call 0, .startRebalance [] [] [target] multiplier), (call 0, .setExchanges [dai] [.uniswap]),
      (call 0, .setTradeMaximums [dai] [limit]), (call 0, .updateAnyoneTrade true)]

theorem reachable (multiplier target : Fixed) (limit : Amount) : (engine multiplier target limit).Reachable :=
  reachable_launch (.module (.basket (.create treasury) index) rebalancer) basket_built _ _ _ _ _

end Market

end Engine

end IndexBasket
