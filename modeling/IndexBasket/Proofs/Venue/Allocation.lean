import IndexBasket.Proofs.Venue.Slices
import Mathlib.Analysis.Convex.SpecificFunctions.Basic

namespace IndexBasket

section Sale

variable {reserveIn left input inputs output outputs slices kept whole : Nat}

/-- The first slice of a sale is paid at least what a pool offers for it, and the others
are held against the pool as it stands. One unit is lost to the rounding of the offer. -/
theorem sold_elsewhere (fee : kept ≤ whole)
    (offered : input * kept * left < (output + 1) * (reserveIn * whole + input * kept))
    (later : inputs * kept * left + slices ≤ (outputs + slices) * ((reserveIn + inputs) * whole)) :
    (input + inputs) * kept * left + (slices + 1) ≤
      (output + outputs + (slices + 1)) * ((reserveIn + (input + inputs)) * whole) := by
  have charged : input * kept ≤ input * whole := Nat.mul_le_mul_left _ fee
  have first : input * kept * left + 1 ≤ (output + 1) * ((reserveIn + (input + inputs)) * whole) := by
    refine offered.trans_le (Nat.mul_le_mul_left _ ?_)
    rw [Nat.add_mul, Nat.add_mul]
    omega
  have rest : inputs * kept * left + slices ≤ (outputs + slices) * ((reserveIn + (input + inputs)) * whole) := by
    refine later.trans (Nat.mul_le_mul_left _ (Nat.mul_le_mul_right _ ?_))
    omega
  calc (input + inputs) * kept * left + (slices + 1)
      = (input * kept * left + 1) + (inputs * kept * left + slices) := by ring
    _ ≤ (output + 1) * ((reserveIn + (input + inputs)) * whole) +
          (outputs + slices) * ((reserveIn + (input + inputs)) * whole) := Nat.add_le_add first rest
    _ = (output + outputs + (slices + 1)) * ((reserveIn + (input + inputs)) * whole) := by ring

/-- So it is if the first slice is sold to the pool itself. What it has paid is missing
from its reserve for the others, and its input is there for them. -/
theorem sold_here (fee : kept ≤ whole)
    (offered : input * kept * (left + output) < (output + 1) * (reserveIn * whole + input * kept))
    (later : inputs * kept * left + slices ≤ (outputs + slices) * ((reserveIn + input + inputs) * whole)) :
    (input + inputs) * kept * (left + output) + (slices + 1) ≤
      (output + outputs + (slices + 1)) * ((reserveIn + (input + inputs)) * whole) := by
  have charged : input * kept ≤ input * whole := Nat.mul_le_mul_left _ fee
  have first : input * kept * (left + output) + 1 ≤ (output + 1) * ((reserveIn + input) * whole) := by
    refine offered.trans_le (Nat.mul_le_mul_left _ ?_)
    rw [Nat.add_mul]
    omega
  have missing : inputs * kept * output ≤ (output + 1) * (inputs * whole) := by
    rw [Nat.mul_comm]
    exact Nat.mul_le_mul (Nat.le_succ output) (Nat.mul_le_mul_left _ fee)
  rw [Nat.add_assoc reserveIn] at later
  calc (input + inputs) * kept * (left + output) + (slices + 1)
      = (input * kept * (left + output) + 1) + inputs * kept * output + (inputs * kept * left + slices) := by ring
    _ ≤ (output + 1) * ((reserveIn + input) * whole) + (output + 1) * (inputs * whole) +
          (outputs + slices) * ((reserveIn + (input + inputs)) * whole) :=
        Nat.add_le_add (Nat.add_le_add first missing) later
    _ = (output + outputs + (slices + 1)) * ((reserveIn + (input + inputs)) * whole) := by ring

end Sale

section Purchase

variable {reserve input inputs output left rest slices ratio : ℝ}

/-- Bernoulli's inequality for what a reserve has lost. -/
theorem growth_le (convex : 1 ≤ ratio) (positive : 0 < rest) (nonneg : 0 ≤ output) :
    1 + ratio * (output / rest) ≤ ((rest + output) / rest) ^ ratio := by
  rw [add_div, div_self positive.ne']
  exact one_add_mul_self_le_rpow_one_add ((by norm_num : (-1 : ℝ) ≤ 0).trans (div_nonneg nonneg positive.le)) convex

/-- The first slice of a purchase costs no more than a pool asks for it, and the others
are held against the pool as it stands, with that slice less to be taken out of it. -/
theorem bought_elsewhere (convex : 1 ≤ ratio) (stocked : 0 < left) (nonneg : 0 ≤ output) (filled : 0 ≤ reserve)
    (counted : 0 ≤ slices) (within : left ≤ rest)
    (asked : input ≤ 1 + reserve * (ratio * (output / rest)))
    (later : reserve + inputs ≤ (reserve + slices) * ((rest + output) / (left + output)) ^ ratio) :
    reserve + (input + inputs) ≤ (reserve + (slices + 1)) * ((rest + output) / left) ^ ratio := by
  have positive : 0 < left + output := by linarith
  have filledOut : 0 ≤ rest + output := by linarith
  have grown : 1 ≤ ((rest + output) / (left + output)) ^ ratio := by
    refine Real.one_le_rpow ?_ (by linarith)
    rw [one_le_div positive]
    linarith
  have dearer : ratio * (output / rest) ≤ ratio * (output / left) :=
    mul_le_mul_of_nonneg_left (div_le_div_of_nonneg_left nonneg stocked within) (by linarith)
  have whole : ((rest + output) / (left + output)) ^ ratio * (1 + ratio * (output / rest)) ≤
      ((rest + output) / left) ^ ratio := by
    calc ((rest + output) / (left + output)) ^ ratio * (1 + ratio * (output / rest))
        ≤ ((rest + output) / (left + output)) ^ ratio * ((left + output) / left) ^ ratio := by
          refine mul_le_mul_of_nonneg_left ?_ (by linarith)
          linarith [growth_le convex stocked nonneg]
      _ = ((rest + output) / left) ^ ratio := by
          rw [← Real.mul_rpow (by positivity) (by positivity), div_mul_div_cancel₀ positive.ne']
  have risen : 0 ≤ ratio * (output / rest) := mul_nonneg (by linarith) (div_nonneg nonneg (stocked.le.trans within))
  generalize ((rest + output) / (left + output)) ^ ratio = before at *
  generalize ratio * (output / rest) = markup at *
  have kept : 0 ≤ reserve * markup * (before - 1) := mul_nonneg (mul_nonneg filled risen) (by linarith)
  have taken : 0 ≤ (slices + 1) * (before * markup) :=
    mul_nonneg (by linarith) (mul_nonneg (by linarith) risen)
  calc reserve + (input + inputs) ≤ (1 + reserve * markup) + (reserve + slices) * before := by linarith
    _ ≤ (reserve + (slices + 1)) * (before * (1 + markup)) := by linarith
    _ ≤ (reserve + (slices + 1)) * ((rest + output) / left) ^ ratio :=
      mul_le_mul_of_nonneg_left whole (by linarith)

/-- So it is if the first slice is bought from the pool itself: its input is there when
the others are asked for. -/
theorem bought_here (convex : 1 ≤ ratio) (stocked : 0 < left) (nonneg : 0 ≤ output) (filled : 0 ≤ reserve)
    (counted : 0 ≤ slices) (within : left ≤ rest)
    (asked : input ≤ 1 + reserve * (ratio * (output / rest)))
    (later : reserve + input + inputs ≤ (reserve + input + slices) * (rest / left) ^ ratio) :
    reserve + (input + inputs) ≤ (reserve + (slices + 1)) * ((rest + output) / left) ^ ratio := by
  have positive : 0 < rest := stocked.trans_le within
  have markup : 0 ≤ ratio * (output / rest) := mul_nonneg (by linarith) (div_nonneg nonneg positive.le)
  have whole : (1 + ratio * (output / rest)) * (rest / left) ^ ratio ≤ ((rest + output) / left) ^ ratio := by
    calc (1 + ratio * (output / rest)) * (rest / left) ^ ratio
        ≤ ((rest + output) / rest) ^ ratio * (rest / left) ^ ratio :=
          mul_le_mul_of_nonneg_right (growth_le convex positive nonneg) (by positivity)
      _ = ((rest + output) / left) ^ ratio := by
          rw [← Real.mul_rpow (by positivity) (by positivity), div_mul_div_cancel₀ positive.ne']
  have paid : reserve + input + slices ≤ (reserve + (slices + 1)) * (1 + ratio * (output / rest)) := by nlinarith
  calc reserve + (input + inputs) = reserve + input + inputs := by ring
    _ ≤ (reserve + input + slices) * (rest / left) ^ ratio := later
    _ ≤ (reserve + (slices + 1)) * (1 + ratio * (output / rest)) * (rest / left) ^ ratio :=
      mul_le_mul_of_nonneg_right paid (by positivity)
    _ = (reserve + (slices + 1)) * ((1 + ratio * (output / rest)) * (rest / left) ^ ratio) := mul_assoc ..
    _ ≤ (reserve + (slices + 1)) * ((rest + output) / left) ^ ratio :=
      mul_le_mul_of_nonneg_left whole (by linarith)

/-- A charge in terms of the rate at which the reserves stand. -/
theorem charge_le {charge reserve output rest kept whole : ℕ} (stocked : 0 < rest) (keeps : 0 < kept)
    (asked : charge * (rest * kept) ≤ reserve * (output * whole) + rest * kept) :
    (charge : ℝ) ≤ 1 + reserve * ((whole : ℝ) / kept * (output / rest)) := by
  have divisor : (0 : ℝ) < rest * kept := mul_pos (Nat.cast_pos.mpr stocked) (Nat.cast_pos.mpr keeps)
  have cleared : (charge : ℝ) * (rest * kept) ≤ reserve * (output * whole) + rest * kept := by exact_mod_cast asked
  have rate : 1 + reserve * ((whole : ℝ) / kept * (output / rest)) =
      (reserve * (output * whole) + rest * kept) / (rest * kept) := by
    have left := Nat.cast_ne_zero (R := ℝ).mpr stocked.ne'
    have right := Nat.cast_ne_zero (R := ℝ).mpr keeps.ne'
    field_simp
    ring
  rw [rate, le_div_iff₀ divisor]
  exact cleared

end Purchase

namespace SplitRouter

variable {order : SwapOrder} {pools : List Pool} {legs : List SplitLeg} {pool : Pool} {reserveIn reserveOut : Amount}
  {index : Nat}

/-! The price of a slice, against a pool that it need not go to. -/

/-- A slice is paid at least what any pool offers for it, so that it is short of the exact
price there by less than a unit. -/
theorem Unbeaten.sale {swap : Quote} (best : Unbeaten pools (order.part swap) swap) (kind : order.kind = .exactInput)
    (member : pool ∈ pools)
    (found : pool.reservesFor order.assetIn order.assetOut = .ok (reserveIn, reserveOut))
    (positive : 0 < swap.amountIn.toNat)
    (fits : reserveIn.toNat * 10000 + swap.amountIn.toNat * pool.keptBps.toNat < 2 ^ 128) :
    swap.amountIn.toNat * pool.keptBps.toNat * reserveOut.toNat <
      (swap.amountOut.toNat + 1) * (reserveIn.toNat * 10000 + swap.amountIn.toNat * pool.keptBps.toNat) := by
  have sale : (order.part swap).kind = .exactInput := kind
  have given : swap.amountIn = (order.part swap).amount := (order.part_sale kind).symm
  obtain ⟨offer, offered⟩ := Pool.amountOut_of_fits found positive fits
  have atLeast : offer.toNat ≤ swap.amountOut.toNat := by
    have unbeaten := best pool member ⟨swap.amountIn, offer⟩
      ((Pool.price_exactInput sale).mpr ⟨given, given ▸ offered⟩)
    rwa [sale] at unbeaten
  exact (Pool.amountOut_between found offered).2.trans_le (Nat.mul_le_mul_right _ (Nat.succ_le_succ atLeast))

/-- A slice costs no more than any pool asks for it, so that it is beyond the exact price
there by one unit at most. -/
theorem Unbeaten.purchase {swap : Quote} (best : Unbeaten pools (order.part swap) swap)
    (kind : order.kind = .exactOutput) (member : pool ∈ pools)
    (found : pool.reservesFor order.assetIn order.assetOut = .ok (reserveIn, reserveOut))
    (positive : 0 < swap.amountOut.toNat) (below : swap.amountOut.toNat < reserveOut.toNat)
    (keeps : 0 < pool.keptBps.toNat) (room : reserveOut.toNat * 10000 < 2 ^ 128) :
    swap.amountIn.toNat * ((reserveOut.toNat - swap.amountOut.toNat) * pool.keptBps.toNat) ≤
      reserveIn.toNat * (swap.amountOut.toNat * 10000) +
        (reserveOut.toNat - swap.amountOut.toNat) * pool.keptBps.toNat := by
  have purchase : (order.part swap).kind = .exactOutput := kind
  have given : swap.amountOut = (order.part swap).amount := (order.part_purchase kind).symm
  refine Pool.le_charged found positive below keeps room fun input offered => ?_
  have unbeaten := best pool member ⟨input, swap.amountOut⟩
    ((Pool.price_exactOutput purchase).mpr ⟨given, given ▸ offered⟩)
  rwa [purchase] at unbeaten

/-- The slices of a sale together are paid what any pool would pay for their sum if the fee
on it counted in the reserve, less a unit for each of them. By induction on the slices:
each is paid no less than this pool offers for it, wherever it goes. -/
theorem Sliced.sold (sliced : Sliced order pools legs) (kind : order.kind = .exactInput)
    (listed : pools[index]? = some pool)
    (found : pool.reservesFor order.assetIn order.assetOut = .ok (reserveIn, reserveOut))
    (room : (reserveIn.toNat + (legs.map (·.swap.amountIn.toNat)).sum) * 10000 < 2 ^ 128) :
    (legs.map (·.swap.amountIn.toNat)).sum * pool.keptBps.toNat * reserveOut.toNat + legs.length ≤
      ((legs.map (·.swap.amountOut.toNat)).sum + legs.length) *
        ((reserveIn.toNat + (legs.map (·.swap.amountIn.toNat)).sum) * 10000) := by
  induction sliced generalizing pool reserveIn reserveOut with
  | done => simp
  | @slice pools leg legs chosen filled chosenAt priced best exchanged _ ih =>
    simp only [List.map_cons, List.sum_cons, List.length_cons] at room ⊢
    have positive : 0 < leg.swap.amountIn.toNat := order.part_sale kind ▸ Pool.price_pos priced
    have fits : reserveIn.toNat * 10000 + leg.swap.amountIn.toNat * pool.keptBps.toNat < 2 ^ 128 := by
      refine lt_of_le_of_lt ?_ room
      rw [Nat.add_mul, Nat.add_mul]
      exact Nat.add_le_add_left ((Nat.mul_le_mul_left _ pool.keptBps_le).trans (Nat.le_add_right _ _)) _
    have bound := best.sale kind (List.mem_of_getElem? listed) found positive fits
    by_cases own : leg.pool = index
    · subst own
      cases chosenAt.symm.trans listed
      obtain ⟨newIn, newOut, refound, grown, shrunk, kept⟩ := Pool.reservesFor_exchange found priced exchanged
      rw [← Nat.add_assoc, ← grown] at room
      have later := ih (getElem?_set_of_some filled chosenAt) refound room
      rw [kept, grown] at later
      rw [shrunk] at bound ⊢
      exact sold_here chosen.keptBps_le bound later
    · have roomLeft := (Nat.mul_le_mul_right 10000 (Nat.add_le_add_left (Nat.le_add_left ..) _)).trans_lt room
      exact sold_elsewhere pool.keptBps_le bound (ih (by rwa [List.getElem?_set_ne own]) found roomLeft)

/-- The slices of a purchase together cost no more than would raise the reserve of any pool,
with a unit for each of them in it, by the power that the price follows in ever smaller
slices. By induction on the slices, of which each costs no more than this pool asks for it. -/
theorem Sliced.bought (sliced : Sliced order pools legs) (kind : order.kind = .exactOutput)
    (listed : pools[index]? = some pool)
    (found : pool.reservesFor order.assetIn order.assetOut = .ok (reserveIn, reserveOut))
    (keeps : 0 < pool.keptBps.toNat) (room : reserveOut.toNat * 10000 < 2 ^ 128) {left : Nat} (stocked : 0 < left)
    (taken : reserveOut.toNat = left + (legs.map (·.swap.amountOut.toNat)).sum) :
    (reserveIn.toNat + (legs.map (·.swap.amountIn.toNat)).sum : ℝ) ≤
      (reserveIn.toNat + legs.length) * ((reserveOut.toNat : ℝ) / left) ^ ((10000 : ℝ) / pool.keptBps.toNat) := by
  induction sliced generalizing pool reserveIn reserveOut left with
  | done =>
    have positive : (left : ℝ) ≠ 0 := Nat.cast_ne_zero.mpr stocked.ne'
    simp only [List.map_nil, List.sum_nil, Nat.add_zero] at taken
    rw [taken, div_self positive, Real.one_rpow]
    simp
  | @slice pools leg legs chosen filled chosenAt priced best exchanged _ ih =>
    simp only [List.map_cons, List.sum_cons, List.length_cons] at taken ⊢
    have positive : 0 < leg.swap.amountOut.toNat := order.part_purchase kind ▸ Pool.price_pos priced
    have asked := best.purchase kind (List.mem_of_getElem? listed) found positive (by omega) keeps room
    generalize (legs.map (·.swap.amountIn.toNat)).sum = inputs at *
    generalize (legs.map (·.swap.amountOut.toNat)).sum = outputs at *
    have restEq : reserveOut.toNat = left + outputs + leg.swap.amountOut.toNat := by omega
    rw [restEq, Nat.add_sub_cancel] at asked
    have markup := charge_le (Nat.add_pos_left stocked outputs) keeps asked
    have convex : 1 ≤ ((10000 : ℕ) : ℝ) / pool.keptBps.toNat := by
      rw [one_le_div (Nat.cast_pos.mpr keeps)]
      exact_mod_cast pool.keptBps_le
    have within : (left : ℝ) ≤ (left + outputs : ℕ) := by exact_mod_cast Nat.le_add_right left outputs
    rw [restEq]
    push_cast at markup within convex ⊢
    by_cases own : leg.pool = index
    · subst own
      cases chosenAt.symm.trans listed
      obtain ⟨newIn, newOut, refound, grown, shrunk, kept⟩ := Pool.reservesFor_exchange found priced exchanged
      have newRoom : newOut.toNat * 10000 < 2 ^ 128 := (Nat.mul_le_mul_right 10000 (by omega)).trans_lt room
      have newRest : newOut.toNat = left + outputs := by omega
      have later := ih (getElem?_set_of_some filled chosenAt) refound (kept ▸ keeps) newRoom stocked newRest
      rw [kept, grown, newRest] at later
      push_cast at later
      exact bought_here convex (Nat.cast_pos.mpr stocked) (Nat.cast_nonneg _) (Nat.cast_nonneg _) (Nat.cast_nonneg _)
        within markup later
    · have later := ih (by rwa [List.getElem?_set_ne own]) found keeps room
        (Nat.add_pos_left stocked leg.swap.amountOut.toNat) (by omega)
      rw [restEq] at later
      push_cast at later
      exact bought_elsewhere convex (Nat.cast_pos.mpr stocked) (Nat.cast_nonneg _) (Nat.cast_nonneg _)
        (Nat.cast_nonneg _) within markup later

variable {router : SplitRouter} {split : SplitQuote}

section NearBest

variable (run : router.quoteSplit order = .ok split)
  (listed : pool ∈ router.poolsFor order.assetIn order.assetOut)
  (found : pool.reservesFor order.assetIn order.assetOut = .ok (reserveIn, reserveOut))

include run listed found

theorem sale_near_best (kind : order.kind = .exactInput)
    (room : (reserveIn.toNat + order.amount.toNat) * 10000 < 2 ^ 128) {output : Amount}
    (paid : pool.amountOut order.assetIn order.assetOut order.amount = .ok output) :
    output.toNat * (reserveIn.toNat * 10000 + order.amount.toNat * pool.keptBps.toNat) <
      (split.totalOut.toNat + min 64 order.amount.toNat) * ((reserveIn.toNat + order.amount.toNat) * 10000) := by
  obtain ⟨legs, sliced, total, count, improved⟩ := quoteSplit_sliced run
  obtain ⟨index, placed⟩ := List.mem_iff_getElem?.mp listed
  unfold SwapOrder.fills SwapOrder.fixedSide at total
  unfold SwapKind.NoWorse SwapKind.openSide at improved
  simp only [kind] at total improved
  have priced : pool.price order = .ok ⟨order.amount, output⟩ := (Pool.price_exactInput kind).mpr ⟨rfl, paid⟩
  have positive := Pool.price_pos priced
  have bound := sliced.sold kind placed found (total ▸ room)
  rw [total, count] at bound
  calc output.toNat * (reserveIn.toNat * 10000 + order.amount.toNat * pool.keptBps.toNat)
      ≤ order.amount.toNat * pool.keptBps.toNat * reserveOut.toNat := (Pool.amountOut_between found paid).1
    _ < order.amount.toNat * pool.keptBps.toNat * reserveOut.toNat + min 64 order.amount.toNat := by omega
    _ ≤ _ := bound
    _ ≤ (split.totalOut.toNat + min 64 order.amount.toNat) * ((reserveIn.toNat + order.amount.toNat) * 10000) :=
      Nat.mul_le_mul_right _ (Nat.add_le_add_right improved _)

theorem purchase_near_best (kind : order.kind = .exactOutput) (room : reserveOut.toNat * 10000 < 2 ^ 128)
    {input : Amount} (charged : pool.amountIn order.assetIn order.assetOut order.amount = .ok input) :
    (reserveIn.toNat + split.totalIn.toNat : ℝ) ≤ (reserveIn.toNat + min 64 order.amount.toNat : ℕ) *
      ((reserveOut.toNat : ℝ) / (reserveOut.toNat - order.amount.toNat)) ^ ((10000 : ℝ) / pool.keptBps.toNat) := by
  obtain ⟨legs, sliced, total, count, improved⟩ := quoteSplit_sliced run
  obtain ⟨index, placed⟩ := List.mem_iff_getElem?.mp listed
  unfold SwapOrder.fills SwapOrder.fixedSide at total
  unfold SwapKind.NoWorse SwapKind.openSide at improved
  simp only [kind] at total improved
  obtain ⟨_, _, found', below, keeps, _⟩ := Pool.amountIn_eq_ok charged
  cases found.symm.trans found'
  have bound := sliced.bought kind placed found keeps room (Nat.sub_pos_of_lt below)
    (by rw [total, Nat.sub_add_cancel below.le])
  rw [count, Nat.cast_sub below.le] at bound
  refine le_trans ?_ (by exact_mod_cast bound)
  exact_mod_cast Nat.add_le_add_left improved reserveIn.toNat

end NearBest

/-- A bound on what a split order loses to one pool alone. Offers are held against each
other after they have been rounded, so that every slice may go a unit wrong, and the fee
that a slice leaves in a reserve weighs on the slices after it. A sale brings more than the
pool alone would pay, but for a unit for each slice and for the part that the fee on the
amount has in the reserve with the amount. A purchase raises the reserve of the pool, with
a unit for each slice in it, no further than the price of the pool would raise it in ever
smaller slices. Without a fee only the units are left of both. -/
theorem quoteSplit_near_best (run : router.quoteSplit order = .ok split)
    (listed : pool ∈ router.poolsFor order.assetIn order.assetOut)
    (found : pool.reservesFor order.assetIn order.assetOut = .ok (reserveIn, reserveOut)) :
    (order.kind = .exactInput → (reserveIn.toNat + order.amount.toNat) * 10000 < 2 ^ 128 →
      ∀ output, pool.amountOut order.assetIn order.assetOut order.amount = .ok output →
        output.toNat * (reserveIn.toNat * 10000 + order.amount.toNat * pool.keptBps.toNat) <
            (split.totalOut.toNat + min 64 order.amount.toNat) * ((reserveIn.toNat + order.amount.toNat) * 10000) ∧
          (pool.feeBps = 0 → output.toNat < split.totalOut.toNat + min 64 order.amount.toNat)) ∧
    (order.kind = .exactOutput → reserveOut.toNat * 10000 < 2 ^ 128 →
      ∀ input, pool.amountIn order.assetIn order.assetOut order.amount = .ok input →
        (reserveIn.toNat + split.totalIn.toNat : ℝ) ≤ (reserveIn.toNat + min 64 order.amount.toNat : ℕ) *
            ((reserveOut.toNat : ℝ) / (reserveOut.toNat - order.amount.toNat)) ^ ((10000 : ℝ) / pool.keptBps.toNat) ∧
          (pool.feeBps = 0 → split.totalIn.toNat * (reserveOut.toNat - order.amount.toNat) <
            input.toNat * (reserveOut.toNat - order.amount.toNat) + min 64 order.amount.toNat * reserveOut.toNat)) := by
  refine ⟨fun kind room output paid => ?_, fun kind room input charged => ?_⟩
  · have bound := sale_near_best run listed found kind room paid
    refine ⟨bound, fun free => ?_⟩
    rw [Pool.keptBps_of_free free, ← Nat.add_mul] at bound
    exact Nat.lt_of_mul_lt_mul_right bound
  · have bound := purchase_near_best run listed found kind room charged
    refine ⟨bound, fun free => ?_⟩
    obtain ⟨below, exceeds⟩ := Pool.amountIn_exceeds found charged
    have positive : (0 : ℝ) < reserveOut.toNat - order.amount.toNat := sub_pos.mpr (Nat.cast_lt.mpr below)
    rw [Pool.keptBps_of_free free, ← Nat.mul_assoc, ← Nat.mul_assoc] at exceeds
    have cleared := Nat.lt_of_mul_lt_mul_right exceeds
    rw [Pool.keptBps_of_free free, Nat.cast_ofNat, div_self (by norm_num), Real.rpow_one, ← mul_div_assoc,
      le_div_iff₀ positive, ← Nat.cast_sub below.le] at bound
    have bound' : (reserveIn.toNat + split.totalIn.toNat) * (reserveOut.toNat - order.amount.toNat) ≤
        (reserveIn.toNat + min 64 order.amount.toNat) * reserveOut.toNat := by exact_mod_cast bound
    have taken : reserveIn.toNat * reserveOut.toNat =
        reserveIn.toNat * (reserveOut.toNat - order.amount.toNat) + reserveIn.toNat * order.amount.toNat := by
      rw [← Nat.mul_add, Nat.sub_add_cancel below.le]
    rw [Nat.add_mul, Nat.add_mul] at bound'
    omega

/-- Three pools without fees, of which a sale of 64 goes to the first and a purchase of 64
too, while the second would pay twice as much and the third would ask for next to nothing. -/
theorem quoteSplit_near_best_free :
    let dai : Address := ⟨"dai", by decide, by decide⟩
    let weth : Address := ⟨"weth", by decide, by decide⟩
    let sale : SwapOrder := ⟨dai, weth, Amount.ofNat 64, .exactInput⟩
    let purchase : SwapOrder := ⟨weth, dai, Amount.ofNat 64, .exactOutput⟩
    let second := Pool.create dai (Amount.ofNat 1_000_000) weth (Amount.ofNat 1_000_000) 0
    let third := Pool.create dai (Amount.ofNat 1_000_000) weth (Amount.ofNat 1000) 0
    let router : SplitRouter := ⟨(∅ : PairMap (List Pool)).insert (.unordered dai weth)
      [Pool.create dai (Amount.ofNat 1_000_000) weth (Amount.ofNat 500_000) 0, second, third]⟩
    second.amountOut dai weth sale.amount = .ok (Amount.ofNat 63) ∧
      third.amountIn weth dai purchase.amount = .ok (Amount.ofNat 1) ∧
      (∃ sold, router.quoteSplit sale = .ok sold ∧ sold.totalOut = Amount.ofNat 31 ∧ 63 < sold.totalOut.toNat + 64) ∧
      ∃ bought, router.quoteSplit purchase = .ok bought ∧ bought.totalIn = Amount.ofNat 33 ∧
        bought.totalIn.toNat * (1_000_000 - 64) < 1 * (1_000_000 - 64) + 64 * 1_000_000 := by
  intro dai weth sale purchase second third router
  have paid : second.amountOut dai weth sale.amount = .ok (Amount.ofNat 63) := by decide +kernel
  have charged : third.amountIn weth dai purchase.amount = .ok (Amount.ofNat 1) := by decide +kernel
  have planned : (·.totalOut) <$> router.quoteSplit sale = .ok (Amount.ofNat 31) := by decide +kernel
  have planned' : (·.totalIn) <$> router.quoteSplit purchase = .ok (Amount.ofNat 33) := by decide +kernel
  obtain ⟨sold, runSale, total⟩ := Except.map_eq_ok.mp planned
  obtain ⟨bought, runPurchase, total'⟩ := Except.map_eq_ok.mp planned'
  have secondListed : second ∈ router.poolsFor dai weth := by decide +kernel
  have thirdListed : third ∈ router.poolsFor weth dai := by decide +kernel
  have secondFound : second.reservesFor dai weth = .ok (Amount.ofNat 1_000_000, Amount.ofNat 1_000_000) := by
    decide +kernel
  have thirdFound : third.reservesFor weth dai = .ok (Amount.ofNat 1000, Amount.ofNat 1_000_000) := by decide +kernel
  have saleBound := (quoteSplit_near_best runSale secondListed secondFound).1 rfl (by decide +kernel) _ paid
  have purchaseBound := (quoteSplit_near_best runPurchase thirdListed thirdFound).2 rfl (by decide +kernel) _ charged
  exact ⟨paid, charged, ⟨sold, runSale, total, saleBound.2 rfl⟩, bought, runPurchase, total', purchaseBound.2 rfl⟩

/-- A single unit is paid nothing by any of three pools, and the first asks for one as the
third does, so that all slices go to the first. The second alone would pay twice as much
for the whole sale, and the third alone would still ask for one for the whole purchase. -/
theorem single_pool_beats_split :
    ¬((∀ (router : SplitRouter) (order : SwapOrder) (split : SplitQuote), order.kind = .exactInput →
          router.quoteSplit order = .ok split → ∀ pool ∈ router.poolsFor order.assetIn order.assetOut, ∀ output,
            pool.amountOut order.assetIn order.assetOut order.amount = .ok output → output ≤ split.totalOut) ∨
        ∀ (router : SplitRouter) (order : SwapOrder) (split : SplitQuote), order.kind = .exactOutput →
          router.quoteSplit order = .ok split → ∀ pool ∈ router.poolsFor order.assetIn order.assetOut, ∀ input,
            pool.amountIn order.assetIn order.assetOut order.amount = .ok input → split.totalIn ≤ input) := by
  let dai : Address := ⟨"dai", by decide, by decide⟩
  let weth : Address := ⟨"weth", by decide, by decide⟩
  let second := Pool.create dai (Amount.ofNat 1_000_000) weth (Amount.ofNat 1_000_000) 30
  let third := Pool.create dai (Amount.ofNat 1_000_000) weth (Amount.ofNat 1000) 30
  let router : SplitRouter := ⟨(∅ : PairMap (List Pool)).insert (.unordered dai weth)
    [Pool.create dai (Amount.ofNat 1_000_000) weth (Amount.ofNat 500_000) 30, second, third]⟩
  rintro (sells | buys)
  · let sale : SwapOrder := ⟨dai, weth, Amount.ofNat 64, .exactInput⟩
    have planned : (·.totalOut) <$> router.quoteSplit sale = .ok (Amount.ofNat 31) := by decide +kernel
    have paid : second.amountOut dai weth sale.amount = .ok (Amount.ofNat 63) := by decide +kernel
    obtain ⟨sold, run, total⟩ := Except.map_eq_ok.mp planned
    have atLeast := sells router sale sold rfl run second (by decide +kernel) _ paid
    rw [total] at atLeast
    exact absurd atLeast (by decide)
  · let purchase : SwapOrder := ⟨weth, dai, Amount.ofNat 64, .exactOutput⟩
    have planned : (·.totalIn) <$> router.quoteSplit purchase = .ok (Amount.ofNat 33) := by decide +kernel
    have charged : third.amountIn weth dai purchase.amount = .ok (Amount.ofNat 1) := by decide +kernel
    obtain ⟨bought, run, total⟩ := Except.map_eq_ok.mp planned
    have atMost := buys router purchase bought rfl run third (by decide +kernel) _ charged
    rw [total] at atMost
    exact absurd atMost (by decide)

end SplitRouter

end IndexBasket
