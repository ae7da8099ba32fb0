import IndexBasket.Proofs.Venue.Legs
import Mathlib.Algebra.BigOperators.Group.Finset.Piecewise
import Mathlib.Algebra.Order.BigOperators.Group.Finset

namespace IndexBasket

section Pricing

variable {reserveIn left input input' output output' kept whole : Nat}

/-- Two inputs that follow each other are paid no more than both of them at once. -/
theorem paid_together (fee : kept ≤ whole)
    (first : output * (reserveIn * whole + input * kept) ≤ input * kept * (left + output))
    (second : output' * ((reserveIn + input) * whole + input' * kept) ≤ input' * kept * left) :
    (output + output') * (reserveIn * whole + (input + input') * kept) ≤ (input + input') * kept * (left + output) := by
  have charged : output' * (input * kept) ≤ output' * (input * whole) :=
    Nat.mul_le_mul_left _ (Nat.mul_le_mul_left _ fee)
  have first' : output * (reserveIn * whole) ≤ input * kept * left := by
    rw [Nat.mul_add, Nat.mul_add, Nat.mul_comm output (input * kept)] at first
    omega
  calc (output + output') * (reserveIn * whole + (input + input') * kept)
      = output * (reserveIn * whole) + (output' * (reserveIn * whole + input' * kept) + output' * (input * kept)) +
          (input + input') * kept * output := by ring
    _ ≤ input * kept * left + (output' * (reserveIn * whole + input' * kept) + output' * (input * whole)) +
          (input + input') * kept * output := by omega
    _ = input * kept * left + output' * ((reserveIn + input) * whole + input' * kept) +
          (input + input') * kept * output := by ring
    _ ≤ input * kept * left + input' * kept * left + (input + input') * kept * output := by omega
    _ = (input + input') * kept * (left + output) := by ring

/-- Two outputs that follow each other cost no less than both of them at once. -/
theorem charged_together (fee : kept ≤ whole)
    (first : reserveIn * (output * whole) < input * ((left + output') * kept))
    (second : (reserveIn + input) * (output' * whole) < input' * (left * kept)) :
    reserveIn * ((output + output') * whole) < (input + input') * (left * kept) := by
  have charged : input * (output' * kept) ≤ input * (output' * whole) :=
    Nat.mul_le_mul_left _ (Nat.mul_le_mul_left _ fee)
  have first' : reserveIn * (output * whole) < input * (left * kept) + input * (output' * kept) := by
    rwa [← Nat.mul_add, ← Nat.add_mul]
  have second' : reserveIn * (output' * whole) + input * (output' * whole) < input' * (left * kept) := by
    rwa [← Nat.add_mul]
  rw [Nat.add_mul output, Nat.mul_add, Nat.add_mul]
  omega

end Pricing

namespace SwapKind

/-- The side of a swap that the venue has answered. -/
def openSide (kind : SwapKind) (swap : Quote) : Nat :=
  match kind with
  | .exactInput => swap.amountOut.toNat
  | .exactOutput => swap.amountIn.toNat

/-- An answer is at least as good as another: no smaller output, or no larger input. -/
def NoWorse (kind : SwapKind) (answer other : Nat) : Prop :=
  match kind with
  | .exactInput => other ≤ answer
  | .exactOutput => answer ≤ other

variable {kind : SwapKind} {first second third fourth : Nat} {offer best : Quote}

theorem noWorse_refl (kind : SwapKind) (answer : Nat) : kind.NoWorse answer answer := by
  cases kind <;> exact Nat.le_refl answer

theorem NoWorse.trans (left : kind.NoWorse first second) (right : kind.NoWorse second third) :
    kind.NoWorse first third := by
  cases kind with
  | exactInput => exact Nat.le_trans right left
  | exactOutput => exact Nat.le_trans left right

theorem NoWorse.add (left : kind.NoWorse first second) (right : kind.NoWorse third fourth) :
    kind.NoWorse (first + third) (second + fourth) := by
  cases kind <;> exact Nat.add_le_add left right

theorem noWorse_of_isBetter (better : SplitRouter.isBetter kind offer best = true) :
    kind.NoWorse (kind.openSide offer) (kind.openSide best) := by
  cases kind <;> exact (of_decide_eq_true better : _ < _).le

theorem noWorse_of_not_isBetter (better : ¬SplitRouter.isBetter kind offer best = true) :
    kind.NoWorse (kind.openSide best) (kind.openSide offer) := by
  cases kind <;> exact Nat.not_lt.mp fun less => better (decide_eq_true less)

end SwapKind

namespace SwapOrder

/-- How much of an order a swap fills. -/
def fills (order : SwapOrder) (swap : Quote) : Nat := (order.fixedSide swap).toNat

/-- The part of an order that a swap fills. -/
def part (order : SwapOrder) (swap : Quote) : SwapOrder := { order with amount := order.fixedSide swap }

variable {swap : Quote}

theorem part_sale (order : SwapOrder) (kind : order.kind = .exactInput) : (order.part swap).amount = swap.amountIn := by
  simp only [part, fixedSide, kind]

theorem part_purchase (order : SwapOrder) (kind : order.kind = .exactOutput) :
    (order.part swap).amount = swap.amountOut := by
  simp only [part, fixedSide, kind]

end SwapOrder

namespace SplitRouter

variable {order : SwapOrder} {pools : List Pool} {pool : Pool} {leg : SplitLeg} {legs : List SplitLeg}
  {reserveIn reserveOut : Amount} {index : Nat}

/-! The choice of a pool for one slice. -/

/-- By induction on the pools that have not been asked yet: whatever comes later, the
best offer so far is only given up for a better one. -/
theorem foldl_bestOffer {items : List (Pool × Nat)} {best : Option SplitLeg}
    (found : items.foldl (fun best (pool, index) =>
      match pool.price order, best with
      | .error _, _ => best
      | .ok offer, none => some ⟨index, offer⟩
      | .ok offer, some leg => if isBetter order.kind offer leg.swap then some ⟨index, offer⟩ else best) best =
        some leg) :
    (best = some leg ∨ ∃ pool, (pool, leg.pool) ∈ items ∧ pool.price order = .ok leg.swap) ∧
      (∀ prior, best = some prior →
        order.kind.NoWorse (order.kind.openSide leg.swap) (order.kind.openSide prior.swap)) ∧
      ∀ item ∈ items, ∀ offer, item.1.price order = .ok offer →
        order.kind.NoWorse (order.kind.openSide leg.swap) (order.kind.openSide offer) := by
  induction items generalizing best with
  | nil =>
    simp only [List.foldl_nil] at found
    subst found
    exact ⟨Or.inl rfl, fun prior same => Option.some.inj same ▸ SwapKind.noWorse_refl _ _, nofun⟩
  | cons item rest ih =>
    obtain ⟨pool, index⟩ := item
    -- Where the offer of the first pool is taken up, the rest is held against it.
    have taken : ∀ {offer : Quote}, pool.price order = .ok offer →
        (some ⟨index, offer⟩ = some leg ∨ ∃ pool, (pool, leg.pool) ∈ rest ∧ pool.price order = .ok leg.swap) →
        ∃ pool', (pool', leg.pool) ∈ (pool, index) :: rest ∧ pool'.price order = .ok leg.swap := by
      rintro offer price (same | ⟨pool', member, price'⟩)
      · cases same
        exact ⟨pool, List.mem_cons_self .., price⟩
      · exact ⟨pool', List.mem_cons_of_mem _ member, price'⟩
    cases price : pool.price order with
    | error failure =>
      simp only [List.foldl_cons, price] at found
      obtain ⟨chosen, kept, offered⟩ := ih found
      refine ⟨chosen.imp_right fun ⟨pool', member, price'⟩ => ⟨pool', List.mem_cons_of_mem _ member, price'⟩, kept, ?_⟩
      exact List.forall_mem_cons.mpr ⟨fun offer priced => (nomatch price.symm.trans priced), offered⟩
    | ok offer =>
      cases best with
      | none =>
        simp only [List.foldl_cons, price] at found
        obtain ⟨chosen, kept, offered⟩ := ih found
        refine ⟨Or.inr (taken price chosen), nofun, List.forall_mem_cons.mpr ⟨fun offer' priced => ?_, offered⟩⟩
        cases price.symm.trans priced
        exact kept _ rfl
      | some prior =>
        simp only [List.foldl_cons, price] at found
        split at found
        · rename_i better
          obtain ⟨chosen, kept, offered⟩ := ih found
          refine ⟨Or.inr (taken price chosen), fun prior' same => ?_,
            List.forall_mem_cons.mpr ⟨fun offer' priced => ?_, offered⟩⟩
          · cases same
            exact (kept _ rfl).trans (SwapKind.noWorse_of_isBetter better)
          · cases price.symm.trans priced
            exact kept _ rfl
        · rename_i notBetter
          obtain ⟨chosen, kept, offered⟩ := ih found
          refine ⟨chosen.imp_right fun ⟨pool', member, price'⟩ => ⟨pool', List.mem_cons_of_mem _ member, price'⟩, kept,
            List.forall_mem_cons.mpr ⟨fun offer' priced => ?_, offered⟩⟩
          cases price.symm.trans priced
          exact (kept prior rfl).trans (SwapKind.noWorse_of_not_isBetter notBetter)

/-- No pool that can price the order has a better price for it. -/
def Unbeaten (pools : List Pool) (order : SwapOrder) (swap : Quote) : Prop :=
  ∀ pool ∈ pools, ∀ offer, pool.price order = .ok offer →
    order.kind.NoWorse (order.kind.openSide swap) (order.kind.openSide offer)

/-- The best offer is the price of its own pool, and no pool has a better one. -/
theorem bestOffer_eq_some (found : bestOffer pools order = some leg) :
    (∃ pool, pools[leg.pool]? = some pool ∧ pool.price order = .ok leg.swap) ∧ Unbeaten pools order leg.swap := by
  obtain ⟨chosen, _, offered⟩ := foldl_bestOffer found
  obtain ⟨pool, member, price⟩ := chosen.resolve_left nofun
  refine ⟨⟨pool, List.mem_zipIdx_iff_getElem?.mp member, price⟩, fun other listed offer priced => ?_⟩
  obtain ⟨index, placed⟩ := List.mem_iff_getElem?.mp listed
  exact offered (other, index) (List.mem_zipIdx_iff_getElem?.mpr placed) offer priced

/-! The slices of an order, one after the other. -/

/-- What the legs with one pool come to. -/
def tally (count : Quote → Nat) (index : Nat) (legs : List SplitLeg) : Nat :=
  (legs.map fun leg => if leg.pool = index then count leg.swap else 0).sum

theorem tally_cons (count : Quote → Nat) (index : Nat) (leg : SplitLeg) (legs : List SplitLeg) :
    tally count index (leg :: legs) = (if leg.pool = index then count leg.swap else 0) + tally count index legs := by
  rw [tally, List.map_cons, List.sum_cons]
  rfl

theorem tally_eq_zero_iff {count : Quote → Nat} :
    tally count index legs = 0 ↔ ∀ leg ∈ legs, leg.pool = index → count leg.swap = 0 := by
  rw [tally, List.sum_eq_zero_iff, List.forall_mem_map]
  exact forall₂_congr fun leg _ => ite_eq_right_iff

theorem tally_of_absent (count : Quote → Nat) (absent : ∀ leg ∈ legs, leg.pool ≠ index) :
    tally count index legs = 0 :=
  tally_eq_zero_iff.mpr fun leg member own => absurd own (absent leg member)

/-- Every leg is with one of the pools. -/
theorem sum_tally (count : Quote → Nat) {size : Nat} (within : ∀ leg ∈ legs, leg.pool < size) :
    ((List.range size).map fun index => tally count index legs).sum = (legs.map fun leg => count leg.swap).sum := by
  change ∑ index ∈ Finset.range size, tally count index legs = _
  induction legs with
  | nil => exact Finset.sum_const_zero
  | cons leg rest ih =>
    obtain ⟨first, others⟩ := List.forall_mem_cons.mp within
    simp only [tally_cons, Finset.sum_add_distrib, Finset.sum_ite_eq, Finset.mem_range, if_pos first, ih others,
      List.map_cons, List.sum_cons]

theorem sum_zipIdx {α : Type} (items : List α) (f : Nat → Nat) :
    (items.zipIdx.map fun item => f item.2).sum = ((List.range items.length).map f).sum := by
  rw [List.range_eq_range', ← List.zipIdx_map_snd 0 items, List.map_map]
  rfl

/-- A course of slices through the pools. Each is a swap with a pool as the slices before
have left it, and no pool offers a better price for it at that point. -/
inductive Sliced (order : SwapOrder) : List Pool → List SplitLeg → Prop
  | done (pools : List Pool) : Sliced order pools []
  | slice {pools : List Pool} {leg : SplitLeg} {legs : List SplitLeg} {pool filled : Pool}
      (found : pools[leg.pool]? = some pool) (priced : pool.price (order.part leg.swap) = .ok leg.swap)
      (best : Unbeaten pools (order.part leg.swap) leg.swap)
      (exchanged : pool.exchange order.assetIn order.assetOut leg.swap = .ok filled)
      (rest : Sliced order (pools.set leg.pool filled) legs) : Sliced order pools (leg :: legs)

theorem Sliced.within (sliced : Sliced order pools legs) : ∀ leg ∈ legs, leg.pool < pools.length := by
  induction sliced with
  | done => exact nofun
  | slice found _ _ _ _ ih =>
    rw [List.length_set] at ih
    exact List.forall_mem_cons.mpr ⟨(List.getElem?_eq_some_iff.mp found).1, ih⟩

theorem Sliced.positive (sliced : Sliced order pools legs) : ∀ leg ∈ legs, 0 < order.fills leg.swap := by
  induction sliced with
  | done => exact nofun
  | slice _ priced _ _ _ ih => exact List.forall_mem_cons.mpr ⟨Pool.price_pos priced, ih⟩

/-- A pool that has been given nothing has no slices. -/
theorem Sliced.absent_of_tally (sliced : Sliced order pools legs)
    (nothing : tally order.fills index legs = 0) : ∀ leg ∈ legs, leg.pool ≠ index := by
  intro leg member own
  exact (sliced.positive leg member).ne' (tally_eq_zero_iff.mp nothing leg member own)

/-- The allocation goes through such a course, slice by slice, and gives every pool what
its slices come to. -/
theorem sliced_assign {sizes shares final : List Nat} (run : assign order sizes pools shares = .ok final)
    (fits : sizes.sum < 2 ^ 128) :
    ∃ legs, Sliced order pools legs ∧ (legs.map fun leg => order.fills leg.swap) = sizes ∧
      ∀ index, final[index]? =
        shares[index]?.map (· + tally order.fills index legs) := by
  induction sizes generalizing pools shares with
  | nil =>
    cases run
    exact ⟨[], .done pools, rfl, fun index => Option.map_id'.symm⟩
  | cons size rest ih =>
    rw [List.sum_cons] at fits
    simp only [assign, Except.bind_eq_ok, demand_eq_ok] at run
    obtain ⟨leg, offered, pool, found, filled, exchanged, run⟩ := run
    obtain ⟨⟨pool', found', priced⟩, best⟩ := bestOffer_eq_some offered
    cases found.symm.trans found'
    have given : order.fixedSide leg.swap = Amount.clamp size := pool.price_fixedSide priced
    have whole : order.fills leg.swap = size := by rw [SwapOrder.fills, given, clamp_toNat (by omega)]
    obtain ⟨legs, sliced, sizes, shared⟩ := ih run (by omega)
    have part : order.part leg.swap = { order with amount := Amount.clamp size } := by rw [SwapOrder.part, given]
    refine ⟨leg :: legs, .slice found (part ▸ priced) (part ▸ best) exchanged sliced, ?_, fun index => ?_⟩
    · rw [List.map_cons, sizes, whole]
    · rw [shared, List.getElem?_modify, tally_cons, whole]
      split
      · rw [Option.map_eq_map, Option.map_map]
        exact Option.map_congr fun share _ => Nat.add_assoc ..
      · simp only [Option.map_eq_map, Option.map_id', Nat.zero_add]

theorem getElem?_set_of_some {α : Type} {items : List α} {index : Nat} {old : α} (new : α)
    (found : items[index]? = some old) : (items.set index new)[index]? = some new :=
  List.getElem?_set_self (List.getElem?_eq_some_iff.mp found).1

/-! Every share as one swap with its pool. -/

/-- The slices of a sale that go to one pool are paid no more than the exact price of
their sum at the pool as it stood before all of them. -/
theorem Sliced.paid (sliced : Sliced order pools legs) (kind : order.kind = .exactInput)
    (listed : pools[index]? = some pool)
    (found : pool.reservesFor order.assetIn order.assetOut = .ok (reserveIn, reserveOut)) :
    tally (·.amountOut.toNat) index legs *
        (reserveIn.toNat * 10000 + tally (·.amountIn.toNat) index legs * pool.keptBps.toNat) ≤
      tally (·.amountIn.toNat) index legs * pool.keptBps.toNat * reserveOut.toNat := by
  induction sliced generalizing pool reserveIn reserveOut with
  | done => simp [tally]
  | @slice pools leg legs chosen filled chosenAt priced _ exchanged _ ih =>
    rw [tally_cons, tally_cons]
    by_cases own : leg.pool = index
    · rw [if_pos own, if_pos own]
      subst own
      cases chosenAt.symm.trans listed
      have sale : (order.part leg.swap).kind = .exactInput := kind
      obtain ⟨given, paid⟩ := (Pool.price_exactInput sale).mp priced
      rw [← given] at paid
      obtain ⟨first, _⟩ := Pool.amountOut_between found paid
      obtain ⟨newIn, newOut, refound, grown, shrunk, kept⟩ := Pool.reservesFor_exchange found priced exchanged
      have later := ih (getElem?_set_of_some filled chosenAt) refound
      rw [kept, grown] at later
      rw [shrunk] at first ⊢
      exact paid_together chosen.keptBps_le first later
    · rw [if_neg own, if_neg own, Nat.zero_add, Nat.zero_add]
      exact ih (by rwa [List.getElem?_set_ne own]) found

/-- The slices of a purchase that go to one pool cost more than the exact price of their
sum at the pool as it stood before all of them, unless there are none. -/
theorem Sliced.charged (sliced : Sliced order pools legs) (kind : order.kind = .exactOutput)
    (listed : pools[index]? = some pool)
    (found : pool.reservesFor order.assetIn order.assetOut = .ok (reserveIn, reserveOut)) :
    (∀ leg ∈ legs, leg.pool ≠ index) ∨
      ∃ left, reserveOut.toNat = left + tally (·.amountOut.toNat) index legs ∧
        reserveIn.toNat * (tally (·.amountOut.toNat) index legs * 10000) <
          tally (·.amountIn.toNat) index legs * (left * pool.keptBps.toNat) := by
  induction sliced generalizing pool reserveIn reserveOut with
  | done => exact Or.inl nofun
  | @slice pools leg legs chosen filled chosenAt priced _ exchanged _ ih =>
    rw [tally_cons, tally_cons]
    by_cases own : leg.pool = index
    · rw [if_pos own, if_pos own]
      subst own
      cases chosenAt.symm.trans listed
      have purchase : (order.part leg.swap).kind = .exactOutput := kind
      obtain ⟨given, asked⟩ := (Pool.price_exactOutput purchase).mp priced
      rw [← given] at asked
      obtain ⟨_, first⟩ := Pool.amountIn_exceeds found asked
      obtain ⟨newIn, newOut, refound, grown, shrunk, kept⟩ := Pool.reservesFor_exchange found priced exchanged
      rw [shrunk, Nat.add_sub_cancel] at first
      rcases ih (getElem?_set_of_some filled chosenAt) refound with absent | ⟨left, rest, later⟩
      · rw [tally_of_absent _ absent, tally_of_absent _ absent, Nat.add_zero, Nat.add_zero]
        exact Or.inr ⟨newOut.toNat, shrunk, first⟩
      · rw [rest] at first shrunk
        rw [kept, grown] at later
        exact Or.inr ⟨left, by omega, charged_together chosen.keptBps_le first later⟩
    · rw [if_neg own, if_neg own, Nat.zero_add, Nat.zero_add]
      refine (ih (by rwa [List.getElem?_set_ne own]) found).imp_left fun absent => ?_
      exact List.forall_mem_cons.mpr ⟨own, absent⟩

/-- What a pool asks for all its slices as one swap is no worse than what it has asked
for them one after the other. -/
theorem Sliced.repriced (sliced : Sliced order pools legs) (listed : pools[index]? = some pool)
    {amount : Amount} {swap : Quote} (priced : pool.price { order with amount } = .ok swap)
    (given : amount.toNat = tally order.fills index legs) :
    order.kind.NoWorse (order.kind.openSide swap) (tally order.kind.openSide index legs) := by
  unfold SwapOrder.fills SwapOrder.fixedSide at given
  unfold SwapKind.openSide SwapKind.NoWorse
  cases kind : order.kind with
  | exactInput =>
    have sale : ({ order with amount } : SwapOrder).kind = .exactInput := kind
    obtain ⟨_, paid⟩ := (Pool.price_exactInput sale).mp priced
    obtain ⟨reserveIn, reserveOut, found, value⟩ := Pool.amountOut_eq_ok paid
    obtain ⟨_, _, filled, _⟩ := Pool.reservesFor_eq_ok found
    simp only [kind] at given ⊢
    rw [value, given, Nat.le_div_iff_mul_le (Nat.add_pos_left (Nat.mul_pos filled (by decide)) _)]
    exact sliced.paid kind listed found
  | exactOutput =>
    have purchase : ({ order with amount } : SwapOrder).kind = .exactOutput := kind
    obtain ⟨_, asked⟩ := (Pool.price_exactOutput purchase).mp priced
    obtain ⟨reserveIn, reserveOut, found, below, keeps, value⟩ := Pool.amountIn_eq_ok asked
    have positive : 0 < amount.toNat := Pool.price_pos priced
    have stocked : amount.toNat < reserveOut.toNat := below
    simp only [kind] at given ⊢
    rcases sliced.charged kind listed found with absent | ⟨left, rest, charged⟩
    · rw [tally_of_absent _ absent] at given
      omega
    · have kept : reserveOut.toNat - amount.toNat = left := by omega
      dsimp only at value
      rw [value, kept, given, Nat.succ_le_iff, Nat.div_lt_iff_lt_mul (Nat.mul_pos (by omega) keeps)]
      exact charged

/-- The totals are no worse than the slices if this is so of every share. -/
theorem addLegs_noWorse {items : List ((Pool × Nat) × Nat)} {split after : SplitQuote} (slices : Nat → Nat)
    (run : items.foldlM (fun split ((pool, share), index) => addLeg order split pool index share) split = .ok after)
    (each : ∀ item ∈ items, (item.1.2 = 0 → slices item.2 = 0) ∧
      ∀ swap, item.1.1.price { order with amount := Amount.clamp item.1.2 } = .ok swap →
        order.kind.NoWorse (order.kind.openSide swap) (slices item.2)) :
    order.kind.NoWorse (order.kind.openSide after.quote)
      (order.kind.openSide split.quote + (items.map (slices ·.2)).sum) := by
  induction items generalizing split with
  | nil =>
    cases run
    exact SwapKind.noWorse_refl _ _
  | cons item rest ih =>
    obtain ⟨⟨pool, share⟩, index⟩ := item
    obtain ⟨⟨nothing, repriced⟩, others⟩ := List.forall_mem_cons.mp each
    rw [List.foldlM_cons, Except.bind_eq_ok] at run
    obtain ⟨middle, first, run⟩ := run
    have later := ih run others
    rw [List.map_cons, List.sum_cons]
    rcases addLeg_eq_ok first with ⟨zero, rfl⟩ | ⟨swap, price, _, sumIn, sumOut⟩
    · rwa [nothing zero, Nat.zero_add]
    · have grown : order.kind.openSide middle.quote =
          order.kind.openSide split.quote + order.kind.openSide swap := by
        unfold SwapKind.openSide SplitQuote.quote
        cases order.kind with
        | exactInput => exact sumOut
        | exactOutput => exact sumIn
      rw [grown] at later
      refine later.trans ?_
      rw [← Nat.add_assoc]
      exact ((SwapKind.noWorse_refl _ _).add (repriced swap price)).add (SwapKind.noWorse_refl _ _)

theorem length_sliceSizes (amount : Nat) : (sliceSizes amount).length = min 64 amount := by
  unfold sliceSizes
  split
  · rename_i none
    rw [none, List.length_nil]
  · rename_i count some
    rw [some, List.length_cons, List.length_replicate]

/-- Behind a split order stands a course of slices for the amount, at most 64 of them,
and the order asks for no worse than the slices together. -/
theorem quoteSplit_sliced {router : SplitRouter} {split : SplitQuote} (run : router.quoteSplit order = .ok split) :
    ∃ legs, Sliced order (router.poolsFor order.assetIn order.assetOut) legs ∧
      (legs.map fun leg => order.fills leg.swap).sum = order.amount.toNat ∧
      legs.length = min 64 order.amount.toNat ∧
      order.kind.NoWorse (order.kind.openSide split.quote)
        (legs.map fun leg => order.kind.openSide leg.swap).sum := by
  simp only [quoteSplit, Except.guard_bind_eq_ok, Except.bind_eq_ok] at run
  obtain ⟨_, _, shares, allocated, run⟩ := run
  have size := order.amount.toNat_lt
  obtain ⟨aligned, total⟩ := sum_assign allocated (List.length_map ..)
  obtain ⟨legs, sliced, sizes, shared⟩ := sliced_assign allocated (by rwa [sum_sliceSizes])
  generalize router.poolsFor order.assetIn order.assetOut = pools at *
  have none : (pools.map fun _ => 0).sum = 0 := by simp
  rw [sum_sliceSizes, none, Nat.zero_add] at total
  have each : ∀ item ∈ (pools.zip shares).zipIdx,
      (item.1.2 = 0 → tally order.kind.openSide item.2 legs = 0) ∧
      ∀ swap, item.1.1.price { order with amount := Amount.clamp item.1.2 } = .ok swap →
        order.kind.NoWorse (order.kind.openSide swap) (tally order.kind.openSide item.2 legs) := by
    rintro ⟨⟨pool, share⟩, index⟩ member
    obtain ⟨listed, held⟩ := List.getElem?_zip_eq_some.mp (List.mem_zipIdx_iff_getElem?.mp member)
    dsimp only at listed held ⊢
    have fits := (List.le_sum_of_mem (List.mem_of_getElem? held)).trans_lt (total ▸ size)
    have given : share = tally order.fills index legs := by
      rw [shared, List.getElem?_map, listed] at held
      simpa using held.symm
    refine ⟨fun zero => tally_of_absent _ (sliced.absent_of_tally (given.symm.trans zero)), fun swap priced => ?_⟩
    exact sliced.repriced listed priced ((clamp_toNat fits).trans given)
  have improved := addLegs_noWorse (fun index => tally order.kind.openSide index legs) run each
  rw [sum_zipIdx (pools.zip shares) fun index => tally order.kind.openSide index legs, List.length_zip, aligned,
    Nat.min_self, sum_tally _ sliced.within] at improved
  refine ⟨legs, sliced, by rw [sizes, sum_sliceSizes], ?_, ?_⟩
  · rw [← length_sliceSizes, ← sizes, List.length_map]
  · have start : order.kind.openSide ({} : SplitQuote).quote = 0 := by cases order.kind <;> rfl
    rwa [start, Nat.zero_add] at improved

end SplitRouter

end IndexBasket
