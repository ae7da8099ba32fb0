import IndexBasket.Proofs.Venue.Product

namespace IndexBasket

section Pricing

variable {reserveIn reserveOut input charge want kept whole : Nat}

/-- An input pays for an output where it is worth the part of the incoming reserve
that the output takes from what is left of the other one. -/
theorem le_paid_iff (filled : 0 < reserveIn * whole) (below : want ≤ reserveOut) :
    want ≤ input * kept * reserveOut / (reserveIn * whole + input * kept) ↔
      reserveIn * (want * whole) ≤ input * ((reserveOut - want) * kept) := by
  obtain ⟨left, rfl⟩ := Nat.exists_eq_add_of_le below
  have taken : want * (reserveIn * whole + input * kept) = reserveIn * (want * whole) + input * kept * want := by ring
  have given : input * kept * (want + left) = input * (left * kept) + input * kept * want := by ring
  rw [Nat.add_sub_cancel_left, Nat.le_div_iff_mul_le (by omega), taken, given, Nat.add_le_add_iff_right]

/-- What is charged is beyond the exact price, and what is two less is below it. -/
theorem charged_between (positive : 0 < (reserveOut - want) * kept)
    (charged : charge = reserveIn * (want * whole) / ((reserveOut - want) * kept) + 1) :
    (∀ input, charge ≤ input → reserveIn * (want * whole) < input * ((reserveOut - want) * kept)) ∧
      ∀ input, input + 2 ≤ charge → input * ((reserveOut - want) * kept) < reserveIn * (want * whole) := by
  refine ⟨fun input enough => ?_, fun input short => ?_⟩
  · rw [← Nat.div_lt_iff_lt_mul positive]
    omega
  · have next : (input + 1) * ((reserveOut - want) * kept) ≤ reserveIn * (want * whole) := by
      rw [← Nat.le_div_iff_mul_le positive]
      omega
    rw [Nat.add_mul, Nat.one_mul] at next
    omega

end Pricing

theorem Amount.ne_zero_of_pos {amount : Amount} (positive : 0 < amount.toNat) : amount ≠ Amount.zero := by
  rintro rfl
  exact Nat.lt_irrefl 0 positive

namespace Pool

variable {pool filled : Pool} {order : SwapOrder} {swap : Quote} {assetIn assetOut : Address}
  {reserveIn reserveOut input output want : Amount}

theorem keptBps_of_free (free : pool.feeBps = 0) : pool.keptBps.toNat = 10000 := by
  change 10000 - pool.feeBps = 10000
  rw [free]

/-! A price, by the side that is given. -/

theorem price_exactInput (kind : order.kind = .exactInput) :
    pool.price order = .ok swap ↔ swap.amountIn = order.amount ∧
      pool.amountOut order.assetIn order.assetOut order.amount = .ok swap.amountOut := by
  unfold price
  simp only [kind, Except.bind_eq_ok]
  constructor
  · rintro ⟨output, paid, ⟨⟩⟩
    exact ⟨rfl, paid⟩
  · rintro ⟨given, paid⟩
    exact ⟨swap.amountOut, paid, by rw [← given]; rfl⟩

theorem price_exactOutput (kind : order.kind = .exactOutput) :
    pool.price order = .ok swap ↔ swap.amountOut = order.amount ∧
      pool.amountIn order.assetIn order.assetOut order.amount = .ok swap.amountIn := by
  unfold price
  simp only [kind, Except.bind_eq_ok]
  constructor
  · rintro ⟨input, charged, ⟨⟩⟩
    exact ⟨rfl, charged⟩
  · rintro ⟨given, charged⟩
    exact ⟨swap.amountIn, charged, by rw [← given]; rfl⟩

/-- Nothing has a price for nothing. -/
theorem price_pos (run : pool.price order = .ok swap) : 0 < order.amount.toNat := by
  refine Nat.pos_of_ne_zero fun zero => ?_
  have nothing : order.amount = Amount.zero := Amount.ext zero
  cases kind : order.kind with
  | exactInput =>
    obtain ⟨_, paid⟩ := (price_exactInput kind).mp run
    exact (Except.guard_bind_eq_ok.mp paid).1 nothing
  | exactOutput =>
    obtain ⟨_, charged⟩ := (price_exactOutput kind).mp run
    exact (Except.guard_bind_eq_ok.mp charged).1 nothing

/-! Which amounts have a price. -/

/-- A pool that trades the pair prices every input for which its numbers have room. -/
theorem amountOut_of_fits (found : pool.reservesFor assetIn assetOut = .ok (reserveIn, reserveOut))
    (positive : 0 < input.toNat) (fits : reserveIn.toNat * 10000 + input.toNat * pool.keptBps.toNat < 2 ^ 128) :
    ∃ output, pool.amountOut assetIn assetOut input = .ok output := by
  obtain ⟨_, _, filled, stocked⟩ := reservesFor_eq_ok found
  have divisor : 0 < reserveIn.toNat * 10000 := Nat.mul_pos filled (by decide)
  have paid : input.toNat * pool.keptBps.toNat * reserveOut.toNat /
      (reserveIn.toNat * 10000 + input.toNat * pool.keptBps.toNat) < 2 ^ 128 :=
    (paid_within_product pool.keptBps_le filled (by decide) stocked rfl).1.trans reserveOut.toNat_lt
  simp only [amountOut, Except.guard_bind_eq_ok, Except.bind_eq_ok, demand_eq_ok, Amount.mul?, Amount.add?,
    Amount.ofNat?_eq_some, Amount.mulDivFloor_eq_some]
  refine ⟨⟨_, paid⟩, Amount.ne_zero_of_pos positive, _, found, ⟨_, ?_⟩, rfl, ⟨_, ?_⟩, rfl, ⟨_, fits⟩, rfl, ?_, rfl⟩
  · exact (Nat.le_add_left _ _).trans_lt fits
  · exact (Nat.le_add_right _ _).trans_lt fits
  · exact Nat.add_pos_left divisor _

/-- It asks for every output that leaves something in its reserve, unless it keeps nothing
of an input or the charge does not fit. -/
theorem amountIn_of_fits (found : pool.reservesFor assetIn assetOut = .ok (reserveIn, reserveOut))
    (positive : 0 < want.toNat) (below : want.toNat < reserveOut.toNat) (keeps : 0 < pool.keptBps.toNat)
    (room : reserveOut.toNat * 10000 < 2 ^ 128)
    (fits : reserveIn.toNat * (want.toNat * 10000) / ((reserveOut.toNat - want.toNat) * pool.keptBps.toNat) + 1 <
      2 ^ 128) :
    pool.amountIn assetIn assetOut want = .ok ⟨_, fits⟩ := by
  have divisor : 0 < (reserveOut.toNat - want.toNat) * pool.keptBps.toNat := Nat.mul_pos (by omega) keeps
  have scaledFits : want.toNat * 10000 < 2 ^ 128 := (Nat.mul_le_mul_right _ below.le).trans_lt room
  have divisorFits : (reserveOut.toNat - want.toNat) * pool.keptBps.toNat < 2 ^ 128 :=
    (Nat.mul_le_mul (Nat.sub_le ..) pool.keptBps_le).trans_lt room
  simp only [amountIn, Except.guard_bind_eq_ok, Except.bind_eq_ok, demand_eq_ok, Amount.mul?, Amount.add?,
    Amount.ofNat?_eq_some, Amount.mulDivFloor_eq_some]
  exact ⟨Amount.ne_zero_of_pos positive, _, found, Nat.not_le.mpr below, ⟨_, scaledFits⟩, rfl, ⟨_, divisorFits⟩, rfl,
    Amount.ne_zero_of_pos divisor, ⟨_, Nat.lt_of_succ_lt fits⟩, ⟨divisor, rfl⟩, rfl⟩

theorem amountOut_eq_error (found : pool.reservesFor assetIn assetOut = .ok (reserveIn, reserveOut))
    (positive : 0 < input.toNat) {failure : VenueError}
    (stopped : pool.amountOut assetIn assetOut input = .error failure) : failure = .overflow := by
  simp only [amountOut, Except.guard_bind_eq_error, Except.bind_eq_error, demand_eq_error, found, reduceCtorEq,
    false_or, Except.ok.injEq, exists_eq_left'] at stopped
  obtain ⟨zero, _⟩ | ⟨_, stopped⟩ := stopped
  · exact absurd zero (Amount.ne_zero_of_pos positive)
  · obtain ⟨_, rfl⟩ | ⟨_, _, ⟨_, rfl⟩ | ⟨_, _, ⟨_, rfl⟩ | ⟨_, _, _, rfl⟩⟩⟩ := stopped
    all_goals rfl

/-! What the rounding of a price leaves of the exact one. -/

theorem amountOut_between (found : pool.reservesFor assetIn assetOut = .ok (reserveIn, reserveOut))
    (paid : pool.amountOut assetIn assetOut input = .ok output) :
    output.toNat * (reserveIn.toNat * 10000 + input.toNat * pool.keptBps.toNat) ≤
        input.toNat * pool.keptBps.toNat * reserveOut.toNat ∧
      input.toNat * pool.keptBps.toNat * reserveOut.toNat <
        (output.toNat + 1) * (reserveIn.toNat * 10000 + input.toNat * pool.keptBps.toNat) := by
  obtain ⟨_, _, found', value⟩ := amountOut_eq_ok paid
  cases found.symm.trans found'
  obtain ⟨_, _, filled, _⟩ := reservesFor_eq_ok found
  dsimp only at filled
  rw [value, Nat.mul_comm (_ + 1)]
  exact ⟨Nat.div_mul_le_self _ _, Nat.lt_mul_div_succ _ (by omega)⟩

theorem amountIn_exceeds (found : pool.reservesFor assetIn assetOut = .ok (reserveIn, reserveOut))
    (charged : pool.amountIn assetIn assetOut want = .ok input) :
    want.toNat < reserveOut.toNat ∧ reserveIn.toNat * (want.toNat * 10000) <
      input.toNat * ((reserveOut.toNat - want.toNat) * pool.keptBps.toNat) := by
  obtain ⟨_, _, found', below, keeps, value⟩ := amountIn_eq_ok charged
  cases found.symm.trans found'
  exact ⟨below, (charged_between (Nat.mul_pos (by omega) keeps) value).1 _ (Nat.le_refl _)⟩

/-- What is no more than a pool charges exceeds the exact price by one at most. A charge
that does not fit is more than anything. -/
theorem le_charged (found : pool.reservesFor assetIn assetOut = .ok (reserveIn, reserveOut)) (positive : 0 < want.toNat)
    (below : want.toNat < reserveOut.toNat) (keeps : 0 < pool.keptBps.toNat)
    (room : reserveOut.toNat * 10000 < 2 ^ 128) {charge : Amount}
    (cheapest : ∀ input, pool.amountIn assetIn assetOut want = .ok input → charge.toNat ≤ input.toNat) :
    charge.toNat * ((reserveOut.toNat - want.toNat) * pool.keptBps.toNat) ≤
      reserveIn.toNat * (want.toNat * 10000) + (reserveOut.toNat - want.toNat) * pool.keptBps.toNat := by
  have next : charge.toNat ≤
      reserveIn.toNat * (want.toNat * 10000) / ((reserveOut.toNat - want.toNat) * pool.keptBps.toNat) + 1 := by
    by_cases fits : reserveIn.toNat * (want.toNat * 10000) /
        ((reserveOut.toNat - want.toNat) * pool.keptBps.toNat) + 1 < 2 ^ 128
    · exact cheapest _ (amountIn_of_fits found positive below keeps room fits)
    · exact charge.toNat_lt.le.trans (Nat.not_lt.mp fits)
  refine (Nat.mul_le_mul_right _ next).trans ?_
  rw [Nat.add_mul, Nat.one_mul]
  exact Nat.add_le_add_right (Nat.div_mul_le_self _ _) _

/-- A pool that has been traded with at its price trades the same pair at the same fee. -/
theorem reservesFor_exchange (found : pool.reservesFor order.assetIn order.assetOut = .ok (reserveIn, reserveOut))
    {amount : Amount} (priced : pool.price { order with amount } = .ok swap)
    (exchanged : pool.exchange order.assetIn order.assetOut swap = .ok filled) :
    ∃ newIn newOut, filled.reservesFor order.assetIn order.assetOut = .ok (newIn, newOut) ∧
      newIn.toNat = reserveIn.toNat + swap.amountIn.toNat ∧
      reserveOut.toNat = newOut.toNat + swap.amountOut.toNat ∧ filled.keptBps = pool.keptBps := by
  obtain ⟨_, _, newIn, newOut, found', sumIn, sumOut, rfl⟩ := exchange_eq_ok exchanged
  cases found.symm.trans found'
  obtain ⟨_, _, found', below, _⟩ := price_eq_ok priced
  cases found.symm.trans found'
  obtain ⟨_, _, positive, _⟩ := reservesFor_eq_ok found
  dsimp only at positive
  have stocked : ¬(newIn = Amount.zero ∨ newOut = Amount.zero) := by
    rintro (rfl | rfl)
    · change 0 = reserveIn.toNat + _ at sumIn
      omega
    · change reserveOut.toNat = 0 + _ at sumOut
      omega
  simp only [reservesFor, Except.guard_bind_eq_ok] at found
  obtain ⟨trades, _⟩ := found
  refine ⟨newIn, newOut, ?_, sumIn, sumOut, by split <;> rfl⟩
  simp only [reservesFor, Except.guard_bind_eq_ok]
  split <;> exact ⟨trades, stocked, rfl⟩

/-- What a pool charges for an output always buys that much, and every input that is
at least two less buys less. An input that the pool has no room to price overflows. -/
theorem amountIn_suffices (charged : pool.amountIn assetIn assetOut want = .ok input) :
    (∀ offered : Amount, input ≤ offered →
      pool.amountOut assetIn assetOut offered = .error .overflow ∨
        ∃ output, pool.amountOut assetIn assetOut offered = .ok output ∧ want ≤ output) ∧
    ∀ offered : Amount, 1 ≤ offered.toNat → offered.toNat + 2 ≤ input.toNat →
      pool.amountOut assetIn assetOut offered = .error .overflow ∨
        ∃ output, pool.amountOut assetIn assetOut offered = .ok output ∧ output < want := by
  obtain ⟨reserveIn, reserveOut, found, below, keeps, value⟩ := amountIn_eq_ok charged
  obtain ⟨_, _, filled, _⟩ := reservesFor_eq_ok found
  have divisor : 0 < (reserveOut.toNat - want.toNat) * pool.keptBps.toNat := Nat.mul_pos (by omega) keeps
  obtain ⟨enough, short⟩ := charged_between divisor value
  have positiveInput : 0 < input.toNat := value ▸ Nat.succ_pos _
  -- What is paid for an input, in case it has a price, in terms of what it is worth.
  have priced : ∀ offered : Amount, 0 < offered.toNat →
      pool.amountOut assetIn assetOut offered = .error .overflow ∨
        ∃ output, pool.amountOut assetIn assetOut offered = .ok output ∧ (want.toNat ≤ output.toNat ↔
          reserveIn.toNat * (want.toNat * 10000) ≤
            offered.toNat * ((reserveOut.toNat - want.toNat) * pool.keptBps.toNat)) := by
    intro offered positive
    cases run : pool.amountOut assetIn assetOut offered with
    | error failure => exact Or.inl (congrArg _ (amountOut_eq_error found positive run))
    | ok output =>
      obtain ⟨_, _, found', paid⟩ := amountOut_eq_ok run
      cases found.symm.trans found'
      refine Or.inr ⟨output, rfl, ?_⟩
      rw [paid]
      exact le_paid_iff (Nat.mul_pos filled (by decide)) below.le
  refine ⟨fun offered atLeast => ?_, fun offered positive less => ?_⟩
  · rw [Amount.le_def] at atLeast
    refine (priced offered (by omega)).imp_right fun ⟨output, run, buys⟩ => ⟨output, run, ?_⟩
    exact buys.mpr (enough offered.toNat atLeast).le
  · refine (priced offered positive).imp_right fun ⟨output, run, buys⟩ => ⟨output, run, ?_⟩
    exact Nat.not_le.mp fun bought => absurd (buys.mp bought) (Nat.not_le.mpr (short offered.toNat less))

/-- Half of a reserve is worth the whole of the other one. One more is charged, and one
less does not buy it. -/
theorem amountIn_suffices_half :
    let dai : Address := ⟨"dai", by decide, by decide⟩
    let weth : Address := ⟨"weth", by decide, by decide⟩
    let pool := Pool.create dai (Amount.ofNat 1000) weth (Amount.ofNat 1000) 0
    pool.amountIn dai weth (Amount.ofNat 500) = .ok (Amount.ofNat 1001) ∧
      pool.amountOut dai weth (Amount.ofNat 1000) = .ok (Amount.ofNat 500) ∧
      (∃ output, pool.amountOut dai weth (Amount.ofNat 1001) = .ok output ∧ Amount.ofNat 500 ≤ output) ∧
      ∃ output, pool.amountOut dai weth (Amount.ofNat 999) = .ok output ∧ output < Amount.ofNat 500 := by
  intro dai weth pool
  have charged : pool.amountIn dai weth (Amount.ofNat 500) = .ok (Amount.ofNat 1001) := by decide +kernel
  obtain ⟨enough, short⟩ := amountIn_suffices charged
  refine ⟨charged, by decide +kernel, ?_, ?_⟩
  · exact (enough (Amount.ofNat 1001) (by decide)).resolve_left (by decide +kernel)
  · exact (short (Amount.ofNat 999) (by decide) (by decide)).resolve_left (by decide +kernel)

end Pool

end IndexBasket
