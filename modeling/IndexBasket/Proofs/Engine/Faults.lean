import IndexBasket.Proofs.Engine.Sizing
import IndexBasket.Proofs.Venue.QuotedFill
import IndexBasket.Proofs.Venue.Slices

namespace IndexBasket

open IndexBasket.Action

theorem Amount.clamp_of_toNat (a : Amount) : clamp a.toNat = a := by
  have size := a.toNat_lt
  exact Amount.ext (SplitRouter.clamp_toNat size)

namespace SplitRouter

/-! The router once more, with every operation that has no answer of its own for what it
cannot do: a division by zero, a number outside its range, an index beyond the end of a
list. Where one of them is met, nothing comes of the whole computation. -/

namespace Registers

variable {α β γ : Type} {order : SwapOrder} {pools : List Pool}

/-- The answer of a venue, unless it comes to a fault. -/
abbrev Checked := ExceptT VenueError Option

/-- An operation that has no answer of its own for what it cannot do. -/
def unguarded (result : Option α) : Checked α := ExceptT.lift result

def div? (a b : Amount) : Option Amount :=
  if b = Amount.zero then none else Amount.ofNat? (a.toNat / b.toNat)

/-- Gives out slices, of which the first one takes the remainder. -/
def fill (order : SwapOrder) (slice : Amount) :
    Nat → Amount → List Pool → List Amount → Checked (List Amount)
  | 0, _, _, shares => pure shares
  | left + 1, remainder, pools, shares => do
    let size ← unguarded (slice.add? remainder)
    let leg ← demand .insufficientLiquidity (bestOffer pools { order with amount := size })
    let pool ← unguarded pools[leg.pool]?
    let filled ← pool.exchange order.assetIn order.assetOut leg.swap
    let share ← unguarded shares[leg.pool]?
    let grown ← unguarded (share.add? size)
    fill order slice left Amount.zero (pools.set leg.pool filled) (shares.set leg.pool grown)

def allocate (pools : List Pool) (order : SwapOrder) : Checked (List Amount) := do
  let slices := min (Amount.ofNat 64) order.amount
  let slice ← unguarded (div? order.amount slices)
  let taken ← unguarded (slice.mul? slices)
  let remainder ← unguarded (order.amount.sub? taken)
  fill order slice slices.toNat remainder pools (pools.map fun _ => Amount.zero)

def addLeg (order : SwapOrder) (pools : List Pool) (split : SplitQuote) (share : Amount) (index : Nat) :
    Checked SplitQuote := do
  if share = Amount.zero then return split
  let pool ← unguarded pools[index]?
  let swap ← pool.price { order with amount := share }
  let totalIn ← demand .overflow (split.totalIn.add? swap.amountIn)
  let totalOut ← demand .overflow (split.totalOut.add? swap.amountOut)
  return { legs := split.legs ++ [⟨index, swap⟩], totalIn, totalOut }

def quoteSplit (router : SplitRouter) (order : SwapOrder) : Checked SplitQuote := do
  if order.amount = Amount.zero then throw .zeroAmount
  let pools := router.poolsFor order.assetIn order.assetOut
  if pools.isEmpty then throw (.unknownPair order.assetIn order.assetOut)
  let shares ← allocate pools order
  shares.zipIdx.foldlM (fun split (share, index) => addLeg order pools split share index) {}

def exchangeLegs (order : SwapOrder) (legs : List SplitLeg) (pools : List Pool) : Checked (List Pool) :=
  legs.foldlM (fun pools leg => do
    let pool ← unguarded pools[leg.pool]?
    return pools.set leg.pool (← pool.exchange order.assetIn order.assetOut leg.swap)) pools

/-- A swap, with the router that it leaves. -/
def execute (order : SwapOrder) (bound : Amount) (router : SplitRouter) : Checked (Fill × SplitRouter) := do
  let plan ← quoteSplit router order
  checkBound order.kind plan.quote bound
  let pools ← demand (.unknownPair order.assetIn order.assetOut)
    router.pools[AssetPair.unordered order.assetIn order.assetOut]?
  let filled ← exchangeLegs order plan.legs pools
  return (plan.quote, ⟨router.pools.insert (.unordered order.assetIn order.assetOut) filled⟩)

/-! What a computation comes to, step by step. -/

theorem run_unguarded_bind {result : Option α} {value : α} (found : result = some value) (next : α → Checked β) :
    (unguarded result >>= next).run = (next value).run := by
  rw [found]
  rfl

theorem run_bind_map {act : Checked γ} {plain : Except VenueError α} {next : γ → Checked β}
    {next' : α → Except VenueError β} (form : α → γ) (first : act.run = some (form <$> plain))
    (rest : ∀ value, plain = .ok value → (next (form value)).run = some (next' value)) :
    (act >>= next).run = some (plain >>= next') := by
  rw [ExceptT.run_bind, first]
  cases plain with
  | ok value => exact rest value rfl
  | error failure => rfl

theorem run_bind {act : Checked α} {plain : Except VenueError α} {next : α → Checked β}
    {next' : α → Except VenueError β} (first : act.run = some plain)
    (rest : ∀ value, plain = .ok value → (next value).run = some (next' value)) :
    (act >>= next).run = some (plain >>= next') :=
  run_bind_map id (by rw [first, id_map]) rest

theorem run_answer (answer : Except VenueError α) : (liftM answer : Checked α).run = some answer := rfl

theorem run_demand (failure : VenueError) (result : Option α) :
    (demand failure result : Checked α).run = some (demand failure result) := by
  cases result with
  | none => rfl
  | some value => rfl

/-! The operations where they have no fault. -/

theorem add?_of_lt {a b : Amount} (fits : a.toNat + b.toNat < 2 ^ 128) :
    ∃ sum, a.add? b = some sum ∧ sum.toNat = a.toNat + b.toNat :=
  ⟨⟨_, fits⟩, Amount.ofNat?_eq_some.mpr rfl, rfl⟩

theorem mul?_of_lt {a b : Amount} (fits : a.toNat * b.toNat < 2 ^ 128) :
    ∃ product, a.mul? b = some product ∧ product.toNat = a.toNat * b.toNat :=
  ⟨⟨_, fits⟩, Amount.ofNat?_eq_some.mpr rfl, rfl⟩

theorem sub?_of_le {a b : Amount} (within : b.toNat ≤ a.toNat) : a.sub? b = some (a.monus b) :=
  Amount.sub?_eq_some.mpr (Nat.sub_add_cancel within).symm

theorem div?_of_ne {a b : Amount} (nonzero : b ≠ Amount.zero) :
    ∃ quotient, div? a b = some quotient ∧ quotient.toNat = a.toNat / b.toNat := by
  have fits : a.toNat / b.toNat < 2 ^ 128 := (Nat.div_le_self _ _).trans_lt a.toNat_lt
  exact ⟨⟨_, fits⟩, (if_neg nonzero).trans (Amount.ofNat?_eq_some.mpr rfl), rfl⟩

/-! The slices. -/

/-- The sizes of the slices that are left. -/
def sizes (slice remainder : Nat) : Nat → List Nat
  | 0 => []
  | left + 1 => (slice + remainder) :: List.replicate left slice

theorem sizes_zero (slice left : Nat) : sizes slice 0 left = List.replicate left slice := by
  cases left with
  | zero => rfl
  | succ left => rfl

/-- A share that grows in a register grows as a number. -/
theorem map_toNat_grown {shares : List Amount} {index : Nat} {share size grown : Amount}
    (held : shares[index]? = some share) (more : grown.toNat = share.toNat + size.toNat) :
    (shares.set index grown).map Amount.toNat = (shares.map Amount.toNat).modify index (· + size.toNat) := by
  rw [List.modify_eq_set_getElem?, List.getElem?_map, held, List.map_set, more]
  rfl

/-- A share grows in the list of all shares, by induction on the slices that are left: all
that is given out is part of one amount, and the best offer comes from one of the pools. -/
theorem fill_eq {slice remainder : Amount} {left : Nat} {pools : List Pool} {shares : List Amount}
    (aligned : shares.length = pools.length)
    (fits : (shares.map Amount.toNat).sum + (sizes slice.toNat remainder.toNat left).sum < 2 ^ 128) :
    (fill order slice left remainder pools shares).run =
      some (List.map Amount.clamp <$>
        assign order (sizes slice.toNat remainder.toNat left) pools (shares.map Amount.toNat)) := by
  induction left generalizing remainder pools shares with
  | zero =>
    have same : (shares.map Amount.toNat).map Amount.clamp = shares := by
      rw [List.map_map, List.map_congr_left fun share _ => share.clamp_of_toNat, List.map_id']
    exact congrArg (fun shares => some (Except.ok shares)) same.symm
  | succ left ih =>
    rw [sizes, List.sum_cons] at fits
    obtain ⟨size, whole, sum⟩ := add?_of_lt (a := slice) (b := remainder) (by omega)
    rw [fill, run_unguarded_bind whole, sizes, assign, ← sum, size.clamp_of_toNat]
    rw [← sum] at fits
    simp only [map_bind]
    refine run_bind (run_demand _ _) fun leg offered => ?_
    obtain ⟨⟨pool, found, _⟩, _⟩ := bestOffer_eq_some (demand_eq_ok.mp offered)
    obtain ⟨within, _⟩ := List.getElem?_eq_some_iff.mp found
    rw [run_unguarded_bind found, found, demand, pure_bind]
    refine run_bind (run_answer (pool.exchange order.assetIn order.assetOut leg.swap)) fun filled _ => ?_
    have share := List.getElem?_eq_getElem (aligned ▸ within : leg.pool < shares.length)
    have part : (shares[leg.pool]).toNat ≤ (shares.map Amount.toNat).sum :=
      List.le_sum_of_mem (List.mem_map_of_mem (List.getElem_mem _))
    obtain ⟨grown, added, more⟩ := add?_of_lt (a := shares[leg.pool]) (b := size) (by omega)
    rw [run_unguarded_bind share, run_unguarded_bind added]
    have sum := sum_map_set Amount.toNat grown share
    rw [← map_toNat_grown share more, ← sizes_zero]
    refine ih (by rw [List.length_set, List.length_set, aligned]) ?_
    change _ + (sizes slice.toNat 0 left).sum < _
    rw [sizes_zero]
    omega

theorem sizes_eq_sliceSizes {amount slices : Nat} (count : slices = min 64 amount) :
    sizes (amount / slices) (amount % slices) slices = sliceSizes amount := by
  subst count
  unfold sliceSizes
  cases min 64 amount with
  | zero => rfl
  | succ count => rfl

theorem share_lt {shares : List Nat} {share : Nat} (allocated : SplitRouter.allocate pools order = .ok shares)
    (member : share ∈ shares) : share < 2 ^ 128 := by
  obtain ⟨_, total⟩ := sum_assign allocated (List.length_map ..)
  have none : (pools.map fun _ => 0).sum = 0 := by simp
  rw [sum_sliceSizes, none, Nat.zero_add] at total
  exact (List.le_sum_of_mem member).trans_lt (total ▸ order.amount.toNat_lt)

/-- The loop gives out the slices into which the amount is cut, at most 64 and each of
something: what the division leaves over is less than there are slices. -/
theorem allocate_eq (positive : order.amount ≠ Amount.zero) :
    (allocate pools order).run = some (List.map Amount.clamp <$> SplitRouter.allocate pools order) := by
  have size := order.amount.toNat_lt
  have nonzero : order.amount.toNat ≠ 0 := fun none => positive (Amount.ext none)
  rw [allocate]
  generalize count : min (Amount.ofNat 64) order.amount = slices
  have count : slices.toNat = min 64 order.amount.toNat := by
    rw [← count, Amount.toNat_min]
    rfl
  have some : slices ≠ Amount.zero := fun none => by
    have zero : slices.toNat = 0 := congrArg Amount.toNat none
    omega
  obtain ⟨slice, divided, quotient⟩ := div?_of_ne (a := order.amount) some
  have division := Nat.div_add_mod' order.amount.toNat slices.toNat
  rw [← quotient] at division
  obtain ⟨taken, multiplied, product⟩ := mul?_of_lt (a := slice) (b := slices) (by omega)
  rw [← product] at division
  have within : taken.toNat ≤ order.amount.toNat := by omega
  have rest : (order.amount.monus taken).toNat = order.amount.toNat % slices.toNat := by
    rw [Amount.toNat_monus]
    omega
  have cut := sizes_eq_sliceSizes count
  rw [← quotient, ← rest] at cut
  have none : (pools.map fun _ => Amount.zero).map Amount.toNat = pools.map fun _ => 0 := List.map_map
  have nothing : (pools.map fun _ => 0).sum = 0 := by simp
  rw [run_unguarded_bind divided, run_unguarded_bind multiplied, run_unguarded_bind (sub?_of_le within),
    fill_eq (List.length_map ..) (by rwa [none, nothing, Nat.zero_add, cut, sum_sliceSizes]), none, cut]
  rfl

/-- As numbers, the shares are those of the allocation. Without an amount there are no
slices to divide it by. -/
theorem toNat_allocate (pools : List Pool) (order : SwapOrder) :
    (List.map Amount.toNat <$> allocate pools order).run =
      if order.amount = Amount.zero then none else some (SplitRouter.allocate pools order) := by
  rw [ExceptT.run_map]
  split
  · rename_i nothing
    rw [allocate, nothing]
    rfl
  · rename_i positive
    rw [allocate_eq positive]
    cases allocated : SplitRouter.allocate pools order with
    | error failure => rfl
    | ok shares =>
      have same : (shares.map Amount.clamp).map Amount.toNat = shares := by
        rw [List.map_map, List.map_congr_left fun share member => ?_, List.map_id']
        exact clamp_toNat (share_lt allocated member)
      exact congrArg (fun shares => some (Except.ok shares)) same

/-! The legs. -/

theorem addLeg_eq {split : SplitQuote} {pool : Pool} {index share : Nat} (found : pools[index]? = some pool)
    (fits : share < 2 ^ 128) :
    (addLeg order pools split (Amount.clamp share) index).run =
      some (SplitRouter.addLeg order split pool index share) := by
  unfold addLeg SplitRouter.addLeg
  by_cases nothing : share = 0
  · rw [if_pos nothing, if_pos (by rw [nothing]; rfl)]
    rfl
  · have positive : Amount.clamp share ≠ Amount.zero := fun zero => nothing (by
      rw [← clamp_toNat fits, zero]
      rfl)
    rw [if_neg nothing, if_neg positive, run_unguarded_bind found]
    refine run_bind (run_answer _) fun swap _ => run_bind (run_demand _ _) fun totalIn _ => ?_
    exact run_bind (run_demand _ _) fun totalOut _ => rfl

/-- A share in a register, with the place of its pool. -/
def placed (item : (Pool × Nat) × Nat) : Amount × Nat := (Amount.clamp item.1.2, item.2)

theorem addLegs_eq {items : List ((Pool × Nat) × Nat)} {split : SplitQuote}
    (listed : ∀ item ∈ items, pools[item.2]? = some item.1.1 ∧ item.1.2 < 2 ^ 128) :
    ((items.map placed).foldlM
      (fun split (share, index) => addLeg order pools split share index) split).run =
      some (items.foldlM (fun split ((pool, share), index) => SplitRouter.addLeg order split pool index share)
        split) := by
  induction items generalizing split with
  | nil => rfl
  | cons item rest ih =>
    obtain ⟨⟨found, fits⟩, others⟩ := List.forall_mem_cons.mp listed
    rw [List.map_cons, List.foldlM_cons, List.foldlM_cons]
    exact run_bind (addLeg_eq found fits) fun split _ => ih others

/-- Every share has its pool, at its own place in the list. -/
theorem quoteSplit_eq (router : SplitRouter) (order : SwapOrder) :
    (quoteSplit router order).run = some (router.quoteSplit order) := by
  unfold quoteSplit SplitRouter.quoteSplit
  by_cases nothing : order.amount = Amount.zero
  · rw [if_pos nothing, if_pos nothing]
    rfl
  rw [if_neg nothing, if_neg nothing]
  dsimp only
  generalize router.poolsFor order.assetIn order.assetOut = pools
  by_cases empty : pools.isEmpty = true
  · rw [if_pos empty, if_pos empty]
    rfl
  rw [if_neg empty, if_neg empty]
  refine run_bind_map _ (allocate_eq nothing) fun shares allocated => ?_
  obtain ⟨aligned, _⟩ := sum_assign allocated (List.length_map ..)
  have places : (shares.map Amount.clamp).zipIdx =
      (pools.zip shares).zipIdx.map placed := by
    conv => lhs; rw [← List.map_snd_zip (Nat.le_of_eq aligned), List.map_map, List.zipIdx_map]
    rfl
  rw [places]
  refine addLegs_eq fun item member => ?_
  obtain ⟨listed, held⟩ := List.getElem?_zip_eq_some.mp (List.mem_zipIdx_iff_getElem?.mp member)
  exact ⟨listed, share_lt allocated (List.mem_of_getElem? held)⟩

theorem exchangeLegs_eq {legs : List SplitLeg} (within : ∀ leg ∈ legs, leg.pool < pools.length) :
    (exchangeLegs order legs pools).run = some (SplitRouter.exchangeLegs order legs pools) := by
  induction legs generalizing pools with
  | nil => rfl
  | cons leg rest ih =>
    obtain ⟨placed, others⟩ := List.forall_mem_cons.mp within
    have found := List.getElem?_eq_getElem placed
    rw [exchangeLegs_cons rest found, exchangeLegs, List.foldlM_cons, bind_assoc, run_unguarded_bind found, bind_assoc]
    refine run_bind (run_answer (pools[leg.pool].exchange order.assetIn order.assetOut leg.swap)) fun filled _ => ?_
    exact ih (by rwa [List.length_set])

theorem outcome_lift {ε σ : Type} (act : Except ε α) (start : σ) :
    (liftM act : Action ε σ α).outcome start = (·, start) <$> act := by
  cases act with
  | ok value => rfl
  | error failure => rfl

/-- What has been priced has pools. -/
theorem pools_of_quoteSplit {router : SplitRouter} {split : SplitQuote} (run : router.quoteSplit order = .ok split) :
    router.pools[AssetPair.unordered order.assetIn order.assetOut]? =
      some (router.poolsFor order.assetIn order.assetOut) := by
  simp only [SplitRouter.quoteSplit, Except.guard_bind_eq_ok] at run
  obtain ⟨_, present, _⟩ := run
  unfold poolsFor at present ⊢
  rw [Std.ExtTreeMap.getD_eq_getD_getElem?] at present ⊢
  cases found : router.pools[AssetPair.unordered order.assetIn order.assetOut]? with
  | none =>
    rw [found] at present
    exact absurd rfl present
  | some pools => rfl

/-- The pools that a split order was priced with are those that it is filled with. -/
theorem execute_eq (order : SwapOrder) (bound : Amount) (router : SplitRouter) :
    (execute order bound router).run = some ((SplitRouter.execute order bound).outcome router) := by
  have opened : (SplitRouter.execute order bound).outcome router =
      (do
        let plan ← router.quoteSplit order
        let _ ← checkBound order.kind plan.quote bound
        let filled ← SplitRouter.exchangeLegs order plan.legs (router.poolsFor order.assetIn order.assetOut)
        return (plan.quote, ⟨router.pools.insert (.unordered order.assetIn order.assetOut) filled⟩)) := by
    unfold SplitRouter.execute
    rw [outcome_bind]
    simp only [outcome_bind, outcome_lift, bind_map_left]
    rfl
  rw [opened]
  refine run_bind (quoteSplit_eq router order) fun plan planned => run_bind (run_answer _) fun _ _ => ?_
  obtain ⟨_, priced⟩ := quoteSplit_priced planned
  have within : ∀ leg ∈ plan.legs, leg.pool < (router.poolsFor order.assetIn order.assetOut).length := by
    intro leg member
    obtain ⟨_, _, found, _⟩ := priced leg member
    exact (List.getElem?_eq_some_iff.mp found).1
  rw [pools_of_quoteSplit planned, demand, pure_bind]
  exact run_bind (exchangeLegs_eq within) fun filled _ => rfl

end Registers

end SplitRouter

/-- A fee of at most the whole leaves no quantity without a fee amount. -/
theorem Registry.feeAmount_of_le {registry : Registry} {module : Address} {index : UInt64}
    (bounded : (registry.moduleFee module index).toNat ≤ 10 ^ 18) (quantity : Amount) :
    ∃ fee, registry.feeAmount module index quantity = .ok fee ∧ fee.toNat ≤ quantity.toNat := by
  have within : quantity.toNat * (registry.moduleFee module index).toNat / 10 ^ 18 ≤ quantity.toNat :=
    Nat.div_le_of_le_mul ((Nat.mul_le_mul_left _ bounded).trans (Nat.mul_comm _ _).le)
  have charged : quantity.preciseMul (registry.moduleFee module index) =
      some ⟨_, within.trans_lt quantity.toNat_lt⟩ := Amount.mulDivFloor_eq_some.mpr ⟨by decide, rfl⟩
  exact ⟨_, demand_eq_ok.mpr charged, within⟩

namespace Engine

/-- Nothing in a trade that is left unchecked can come to a fault. A fee is part of what
it is taken from, so that a settlement has something to take it off; an amount is cut into
slices that are there, and its shares add up to it; and a share, as a leg, has its pool. -/
theorem faultless :
    (∀ {registry : Registry}, registry.Built → ∀ module index quantity, ∃ fee,
      registry.feeAmount module index quantity = .ok fee ∧ fee.toNat ≤ quantity.toNat) ∧
    (∀ {engine : Engine}, engine.Reachable → ∀ fill : Fill, ∃ fee,
      engine.registry.feeAmount engine.settings.module tradeFeeIndex fill.amountOut = .ok fee ∧
      fill.amountOut.sub? fee = some (fill.amountOut.monus fee) ∧
      ∀ {context component direction exchange before venues trade after},
        settle context component direction exchange fill before { engine with venues } = .ok trade after →
          trade.protocolFee = fee ∧ fill.amountOut.sub? fee = some trade.amountBought) ∧
    (∀ pools order, (List.map Amount.toNat <$> SplitRouter.Registers.allocate pools order).run =
      if order.amount = Amount.zero then none else some (SplitRouter.allocate pools order)) ∧
    (∀ router order, (SplitRouter.Registers.quoteSplit router order).run = some (router.quoteSplit order)) ∧
    ∀ router order bound, (SplitRouter.Registers.execute order bound router).run =
      some ((SplitRouter.execute order bound).outcome router) := by
  refine ⟨fun built module index => Registry.feeAmount_of_le (built.moduleFee_le module index),
    fun {engine} reached fill => ?_, SplitRouter.Registers.toNat_allocate, SplitRouter.Registers.quoteSplit_eq,
    fun router order bound => SplitRouter.Registers.execute_eq order bound router⟩
  obtain ⟨fee, charged, within⟩ :=
    Registry.feeAmount_of_le (reached.sound.fee_le engine.settings.module tradeFeeIndex) fill.amountOut
  have taken := SplitRouter.Registers.sub?_of_le within
  refine ⟨fee, charged, taken, fun {_ _ _ _ _ venues trade after} run => ?_⟩
  obtain ⟨_, _, fee', _, _, _, _, _, _, _, charged', _, _, _, _, _, booked, _⟩ := settle_eq_ok.mp run
  cases charged.symm.trans charged'
  rw [booked]
  exact ⟨rfl, taken⟩

/-- Where the whole is charged as fee, nothing is left, and also of the largest quantity
nothing more is taken. -/
theorem faultless_whole_fee :
    let registry := (Registry.setModuleFee Market.rebalancer tradeFeeIndex Amount.one).final Market.registry
    let engine := Engine.create registry Market.settings Market.basket Market.balances Market.venues
    let largest := Amount.ofNat 340_282_366_920_938_463_463_374_607_431_768_211_455
    registry.Built ∧ engine.Reachable ∧ registry.feeAmount Market.rebalancer tradeFeeIndex largest = .ok largest ∧
      largest.sub? largest = some Amount.zero ∧
      ∃ fee, registry.feeAmount Market.rebalancer tradeFeeIndex largest = .ok fee ∧ fee.toNat ≤ largest.toNat := by
  intro registry engine largest
  have charging : Registry.setModuleFee Market.rebalancer tradeFeeIndex Amount.one Market.registry = .ok () registry :=
    rfl
  have built : registry.Built :=
    .fee (.module (.basket (.create Market.treasury) Market.index) Market.rebalancer) _ _ _ charging
  have reached : engine.Reachable := .create built Market.settings Market.basket_built Market.balances Market.venues
  have charged : registry.feeAmount Market.rebalancer tradeFeeIndex largest = .ok largest := by decide +kernel
  obtain ⟨fee, charged', taken, _⟩ := faultless.2.1 reached ⟨Amount.zero, largest⟩
  have whole : largest = fee := Except.ok.inj (charged.symm.trans charged')
  have nothing : largest.monus largest = Amount.zero := Amount.ext (Nat.sub_self _)
  rw [← whole, nothing] at taken
  exact ⟨built, reached, charged, taken, faultless.1 built Market.rebalancer tradeFeeIndex largest⟩

end Engine

end IndexBasket
