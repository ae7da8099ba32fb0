import IndexBasket.Proofs.Engine.Settlement

namespace IndexBasket

theorem Amount.toNat_monus (a b : Amount) : (a.monus b).toNat = a.toNat - b.toNat := rfl

theorem Amount.toNat_min (a b : Amount) : (min a b).toNat = min a.toNat b.toNat := by
  change (if a.toNat ≤ b.toNat then a else b).toNat = _
  split <;> omega

theorem Fixed.subClamped_mono {a b c d : Fixed} (le : a.toInt - b.toInt ≤ c.toInt - d.toInt) :
    a.subClamped b ≤ c.subClamped d := by
  change max (-2 ^ 127) (min (a.toInt - b.toInt) (2 ^ 127 - 1)) ≤
    max (-2 ^ 127) (min (c.toInt - d.toInt) (2 ^ 127 - 1))
  omega

namespace Engine

open IndexBasket.Action

variable {engine : Engine} {component : Address} {direction : TradeDirection} {current target : Fixed}
  {supply held quantity : Amount}

/-- A sale leaves what the target asks for, rounded up. -/
theorem sellQuantity_eq_ok (run : sellQuantity target supply held = .ok quantity) :
    quantity.toNat = held.toNat - (target.toInt.toNat * supply.toNat + (10 ^ 18 - 1)) / 10 ^ 18 := by
  simp only [sellQuantity, Except.bind_eq_ok, notionalCeil_eq_ok] at run
  obtain ⟨needed, value, done⟩ := run
  cases done
  rw [Amount.toNat_monus, value]

/-- A purchase goes up to what the target asks for, rounded up, unless that lands
farther above the target than the unit is below it. -/
theorem buyQuantity_eq_ok (run : buyQuantity current target supply held = .ok quantity) :
    ∃ landed : Fixed,
      landed.toInt = ((held.toNat + ((target.toInt.toNat * supply.toNat + (10 ^ 18 - 1)) / 10 ^ 18 - held.toNat)) *
        10 ^ 18 / supply.toNat : Nat) ∧
      if landed.subClamped target ≤ target.subClamped current then
        quantity.toNat = (target.toInt.toNat * supply.toNat + (10 ^ 18 - 1)) / 10 ^ 18 - held.toNat
      else quantity.toNat = target.toInt.toNat * supply.toNat / 10 ^ 18 - held.toNat := by
  simp only [buyQuantity, Except.bind_eq_ok, notionalCeil_eq_ok, demand_eq_ok, Amount.add?,
    Amount.ofNat?_eq_some, unitOfNotional_eq_ok] at run
  obtain ⟨up, above, reached, sum, landed, ⟨_, size⟩, run⟩ := run
  rw [Amount.toNat_monus] at sum
  refine ⟨landed, by rw [size, ← sum, above], ?_⟩
  split at run
  · rename_i near
    cases run
    rw [if_pos near, Amount.toNat_monus, above]
  · rename_i far
    simp only [Except.bind_eq_ok, notionalFloor_eq_ok] at run
    obtain ⟨down, below, done⟩ := run
    cases done
    rw [if_neg far, Amount.toNat_monus, below]

/-- A trade has a side because the unit is off its target, and a quantity within
the limit of the asset. -/
theorem tradeSize_eq_ok :
    engine.tradeSize component = .ok (direction, quantity) ↔
    ∃ target held delta,
      0 < engine.basket.totalSupply.toNat ∧ engine.targetUnit component = .ok target ∧
      held.toNat = engine.tracked component ∧ delta.toNat ≠ 0 ∧
      quantity = min delta (engine.info component).maxSize ∧
      (direction = .buy ∧ (engine.defaultRealUnit component).toInt < target.toInt ∧
          buyQuantity (engine.defaultRealUnit component) target engine.basket.totalSupply held = .ok delta ∨
        direction = .sell ∧ target.toInt < (engine.defaultRealUnit component).toInt ∧
          sellQuantity target engine.basket.totalSupply held = .ok delta) := by
  simp only [tradeSize, Except.guard_bind_eq_ok, Except.bind_eq_ok, notionalFloor_eq_ok]
  constructor
  · rintro ⟨supplied, target, scaled, off, held, value, run⟩
    have positive : 0 < engine.basket.totalSupply.toNat :=
      Nat.pos_of_ne_zero fun none => supplied (Amount.ext none)
    have different : (engine.defaultRealUnit component).toInt ≠ target.toInt := fun same => off (Fixed.ext same)
    by_cases below : engine.defaultRealUnit component < target
    · simp only [if_pos below, Except.bind_eq_ok, Except.guard_bind_eq_ok] at run
      obtain ⟨delta, bought, some, done⟩ := run
      cases done
      exact ⟨target, held, delta, positive, scaled, value, fun none => some (Amount.ext none), rfl,
        Or.inl ⟨rfl, below, bought⟩⟩
    · simp only [if_neg below, Except.bind_eq_ok, Except.guard_bind_eq_ok] at run
      obtain ⟨delta, sold, some, done⟩ := run
      cases done
      rw [Fixed.lt_def] at below
      exact ⟨target, held, delta, positive, scaled, value, fun none => some (Amount.ext none), rfl,
        Or.inr ⟨rfl, by omega, sold⟩⟩
  · rintro ⟨target, held, delta, positive, scaled, value, some, rfl, sides⟩
    refine ⟨fun none => positive.ne' (congrArg Amount.toNat none), target, scaled, ?_, held, value, ?_⟩
    · rintro rfl
      omega
    · rcases sides with ⟨rfl, below, bought⟩ | ⟨rfl, above, sold⟩
      · simp only [if_pos (Fixed.lt_def.mpr below), Except.bind_eq_ok, Except.guard_bind_eq_ok]
        exact ⟨delta, bought, fun none => some (congrArg Amount.toNat none), rfl⟩
      · simp only [if_neg fun below => (Fixed.lt_def.mp below).asymm above, Except.bind_eq_ok,
          Except.guard_bind_eq_ok]
        exact ⟨delta, sold, fun none => some (congrArg Amount.toNat none), rfl⟩

theorem tradeSize_le_maxSize (run : engine.tradeSize component = .ok (direction, quantity)) :
    quantity.toNat ≤ (engine.info component).maxSize.toNat := by
  obtain ⟨_, _, delta, _, _, _, _, size, _⟩ := tradeSize_eq_ok.mp run
  rw [size, Amount.toNat_min]
  exact Nat.min_le_right _ _

/-- No sale takes more than what is tracked. -/
theorem tradeSize_sell_le (run : engine.tradeSize component = .ok (.sell, quantity)) :
    quantity.toNat ≤ engine.tracked component := by
  obtain ⟨target, held, delta, _, _, value, _, size, ⟨buys, _⟩ | ⟨_, _, sold⟩⟩ := tradeSize_eq_ok.mp run
  · cases buys
  · have most := sellQuantity_eq_ok sold
    rw [size, Amount.toNat_min]
    omega

end Engine

end IndexBasket
