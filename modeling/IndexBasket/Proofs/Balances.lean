import IndexBasket.Balances
import IndexBasket.Proofs.Action
import Mathlib.Algebra.BigOperators.Group.Finset.Basic
import Mathlib.Algebra.Order.BigOperators.Group.Finset

namespace IndexBasket

/-- Two functions that differ at one key at most have sums that differ by what
they differ there, over whatever carriers hold all their nonzero values. -/
theorem sum_update {κ : Type} [DecidableEq κ] {f g : κ → Nat} {s t : Finset κ} (key : κ)
    (off : ∀ x, x ∉ s → f x = 0) (off' : ∀ x, x ∉ t → g x = 0) (same : ∀ x, x ≠ key → g x = f x) :
    ∑ x ∈ t, g x + f key = ∑ x ∈ s, f x + g key := by
  have widen : ∀ {h : κ → Nat} {u : Finset κ}, u ⊆ insert key (s ∪ t) → (∀ x, x ∉ u → h x = 0) →
      ∑ x ∈ u, h x = h key + ∑ x ∈ (insert key (s ∪ t)).erase key, h x := by
    intro h u within zero
    rw [Finset.add_sum_erase _ _ (Finset.mem_insert_self key _)]
    exact Finset.sum_subset within fun x _ outside => zero x outside
  rw [widen (fun x member => by simp [member]) off, widen (fun x member => by simp [member]) off']
  have rest : ∑ x ∈ (insert key (s ∪ t)).erase key, g x = ∑ x ∈ (insert key (s ∪ t)).erase key, f x :=
    Finset.sum_congr rfl fun x member => same x (Finset.ne_of_mem_erase member)
  omega

theorem Amount.sub?_eq_some {a b difference : Amount} :
    a.sub? b = some difference ↔ a.toNat = difference.toNat + b.toNat := by
  unfold Amount.sub?
  split
  · rename_i le
    rw [Amount.le_def] at le
    rw [Option.some.injEq, Amount.ext_iff]
    dsimp only
    omega
  · rename_i lt
    rw [Amount.le_def] at lt
    exact iff_of_false (by simp) (by omega)

theorem Amount.sub?_eq_none {a b : Amount} : a.sub? b = none ↔ a.toNat < b.toNat := by
  unfold Amount.sub?
  split
  · rename_i le
    exact iff_of_false (Option.some_ne_none _) (Nat.not_lt.mpr le)
  · rename_i lt
    exact iff_of_true rfl (Nat.not_le.mp lt)

namespace Balances

variable {balances after : Balances} {holder asset giver taker : Address} {amount : Amount} {done : Unit}

theorem balanceOf_eq_getD (balances : Balances) (holder asset : Address) :
    balances.balanceOf holder asset = (balances.byHolder.getD holder ∅).getD asset Amount.zero := by
  have read : balances.byHolder.getD holder ∅ = balances.byHolder[holder]?.getD ∅ :=
    Std.ExtTreeMap.getD_eq_getD_getElem?
  rw [balanceOf, read]
  cases balances.byHolder[holder]? with
  | none => rfl
  | some => rfl

/-- A write replaces the table of one holder. A table without entries is not
kept, but it is read as one that holds nothing. -/
theorem getD_withBalance (balances : Balances) (holder asset other : Address) (amount : Amount) :
    (balances.withBalance holder asset amount).byHolder.getD other ∅ =
      if holder = other then
        if amount = Amount.zero then (balances.byHolder.getD holder ∅).erase asset
        else (balances.byHolder.getD holder ∅).insert asset amount
      else balances.byHolder.getD other ∅ := by
  unfold withBalance
  by_cases zero : amount = Amount.zero
  · simp only [if_pos zero]
    have read : balances.byHolder.getD holder ∅ = balances.byHolder[holder]?.getD ∅ :=
      Std.ExtTreeMap.getD_eq_getD_getElem?
    cases found : balances.byHolder[holder]? with
    | none =>
      rw [found, Option.getD_none] at read
      by_cases same : holder = other
      · subst same
        simp only [if_true, read, Std.ExtTreeMap.erase_empty]
      · rw [if_neg same]
    | some assets =>
      rw [found, Option.getD_some] at read
      dsimp only
      split
      · rename_i emptied
        rw [Std.ExtTreeMap.isEmpty_iff] at emptied
        rw [Std.ExtTreeMap.getD_erase]
        simp only [Std.LawfulEqCmp.compare_eq_iff_eq, read, emptied]
      · rw [Std.ExtTreeMap.getD_insert]
        simp only [Std.LawfulEqCmp.compare_eq_iff_eq, read]
  · simp only [if_neg zero]
    rw [Std.ExtTreeMap.getD_insert]
    simp only [Std.LawfulEqCmp.compare_eq_iff_eq]

theorem balanceOf_withBalance (balances : Balances) (holder asset holder' asset' : Address) (amount : Amount) :
    (balances.withBalance holder asset amount).balanceOf holder' asset' =
      if holder = holder' ∧ asset = asset' then amount else balances.balanceOf holder' asset' := by
  rw [balanceOf_eq_getD, balanceOf_eq_getD, getD_withBalance]
  by_cases sameHolder : holder = holder'
  · subst sameHolder
    by_cases zero : amount = Amount.zero
    · rw [if_pos rfl, if_pos zero, Std.ExtTreeMap.getD_erase]
      simp only [Std.LawfulEqCmp.compare_eq_iff_eq, zero, true_and]
    · rw [if_pos rfl, if_neg zero, Std.ExtTreeMap.getD_insert]
      simp only [Std.LawfulEqCmp.compare_eq_iff_eq, true_and]
  · rw [if_neg sameHolder, if_neg fun same => sameHolder same.1]

/-- The holders with an entry. -/
def holders (balances : Balances) : Finset Address := balances.byHolder.keys.toFinset

/-- How much of an asset all holders own together. -/
def total (balances : Balances) (asset : Address) : Nat :=
  ∑ holder ∈ balances.holders, (balances.balanceOf holder asset).toNat

theorem balanceOf_of_not_mem (outside : holder ∉ balances.holders) (asset : Address) :
    balances.balanceOf holder asset = Amount.zero := by
  have absent : balances.byHolder[holder]? = none := by
    simpa [holders] using outside
  rw [balanceOf, absent]

theorem total_withBalance (balances : Balances) (holder asset other : Address) (amount : Amount) :
    (balances.withBalance holder asset amount).total other + (balances.balanceOf holder other).toNat =
      balances.total other + ((balances.withBalance holder asset amount).balanceOf holder other).toNat := by
  refine sum_update (f := fun h => (balances.balanceOf h other).toNat)
    (g := fun h => ((balances.withBalance holder asset amount).balanceOf h other).toNat) holder
    (fun x outside => ?_) (fun x outside => ?_) fun x different => ?_
  · simp only [balanceOf_of_not_mem outside]; rfl
  · simp only [balanceOf_of_not_mem outside]; rfl
  · simp only [balanceOf_withBalance, if_neg fun same : holder = x ∧ _ => different same.1.symm]

theorem credit_eq_ok :
    credit holder asset amount balances = .ok done after ↔
      ∃ updated : Amount, updated.toNat = (balances.balanceOf holder asset).toNat + amount.toNat ∧
        after = balances.withBalance holder asset updated := by
  unfold credit
  simp only [Action.bind_eq_ok, Action.get_eq_ok, Action.demand_eq_ok, Action.modify_eq_ok, Amount.add?,
    Amount.ofNat?_eq_some]
  constructor
  · rintro ⟨_, _, ⟨rfl, rfl⟩, updated, _, ⟨sum, rfl⟩, rfl⟩
    exact ⟨updated, sum.symm, rfl⟩
  · rintro ⟨updated, sum, rfl⟩
    exact ⟨_, _, ⟨rfl, rfl⟩, updated, _, ⟨sum.symm, rfl⟩, rfl⟩

theorem debit_eq_ok :
    debit holder asset amount balances = .ok done after ↔
      ∃ remaining : Amount, (balances.balanceOf holder asset).toNat = remaining.toNat + amount.toNat ∧
        after = balances.withBalance holder asset remaining := by
  unfold debit
  simp only [Action.bind_eq_ok, Action.get_eq_ok, Action.demand_eq_ok, Action.modify_eq_ok, Amount.sub?_eq_some]
  constructor
  · rintro ⟨_, _, ⟨rfl, rfl⟩, remaining, _, ⟨sum, rfl⟩, rfl⟩
    exact ⟨remaining, sum, rfl⟩
  · rintro ⟨remaining, sum, rfl⟩
    exact ⟨_, _, ⟨rfl, rfl⟩, remaining, _, ⟨sum, rfl⟩, rfl⟩

/-- What a credit adds is all that it changes. -/
theorem balanceOf_credit (run : credit holder asset amount balances = .ok done after)
    (holder' asset' : Address) :
    (after.balanceOf holder' asset').toNat =
      (balances.balanceOf holder' asset').toNat +
        if holder = holder' ∧ asset = asset' then amount.toNat else 0 := by
  obtain ⟨updated, sum, rfl⟩ := credit_eq_ok.mp run
  rw [balanceOf_withBalance]
  split
  · rename_i same
    rw [← same.1, ← same.2, sum]
  · rfl

theorem balanceOf_debit (run : debit holder asset amount balances = .ok done after)
    (holder' asset' : Address) :
    (balances.balanceOf holder' asset').toNat =
      (after.balanceOf holder' asset').toNat +
        if holder = holder' ∧ asset = asset' then amount.toNat else 0 := by
  obtain ⟨remaining, sum, rfl⟩ := debit_eq_ok.mp run
  rw [balanceOf_withBalance]
  split
  · rename_i same
    rw [← same.1, ← same.2, sum]
  · rfl

/-- A transfer between two holders is a debit and then a credit, one to oneself
only looks whether the amount is there. -/
theorem transfer_eq_ok :
    transfer asset giver taker amount balances = .ok done after ↔
      (giver = taker ∧ amount ≤ balances.balanceOf giver asset ∧ after = balances) ∨
        giver ≠ taker ∧ ∃ between, debit giver asset amount balances = .ok () between ∧
          credit taker asset amount between = .ok () after := by
  unfold transfer
  simp only [Action.bind_eq_ok, Action.get_eq_ok, Action.demand_eq_ok, Amount.sub?_eq_some]
  by_cases same : giver = taker
  · simp only [same, ne_eq, not_true, if_false, true_and, false_and, or_false, Action.pure_eq_ok]
    constructor
    · rintro ⟨_, _, ⟨rfl, rfl⟩, left, _, ⟨there, rfl⟩, rfl⟩
      exact ⟨Amount.le_def.mpr (by omega), rfl⟩
    · rintro ⟨there, rfl⟩
      have size := (after.balanceOf taker asset).lt_size
      refine ⟨_, _, ⟨rfl, rfl⟩, ⟨(after.balanceOf taker asset).toNat - amount.toNat, by omega⟩, _, ⟨?_, rfl⟩, rfl⟩
      exact (Nat.sub_add_cancel (Amount.le_def.mp there)).symm
  · have elsewhere : ∀ left : Amount, (balances.withBalance giver asset left).balanceOf taker asset =
        balances.balanceOf taker asset := by
      intro left
      rw [balanceOf_withBalance, if_neg fun both => same both.1]
    simp only [same, ne_eq, not_false_iff, if_true, false_and, false_or, true_and, Action.bind_eq_ok,
      Action.get_eq_ok, Action.demand_eq_ok, Action.modify_eq_ok, Amount.add?, Amount.ofNat?_eq_some,
      debit_eq_ok, credit_eq_ok]
    constructor
    · rintro ⟨_, _, ⟨rfl, rfl⟩, left, _, ⟨there, rfl⟩, _, _, ⟨rfl, rfl⟩, taken, _, ⟨sum, rfl⟩, _, _, rfl, rfl⟩
      exact ⟨_, ⟨left, there, rfl⟩, taken, by rw [elsewhere, sum], rfl⟩
    · rintro ⟨_, ⟨left, there, rfl⟩, taken, sum, rfl⟩
      rw [elsewhere] at sum
      exact ⟨_, _, ⟨rfl, rfl⟩, left, _, ⟨there, rfl⟩, _, _, ⟨rfl, rfl⟩, taken, _, ⟨sum.symm, rfl⟩, ⟨⟩, _, rfl, rfl⟩

theorem balanceOf_transfer (run : transfer asset giver taker amount balances = .ok done after)
    (holder' asset' : Address) :
    ((after.balanceOf holder' asset').toNat + if giver = holder' ∧ asset = asset' then amount.toNat else 0) =
      (balances.balanceOf holder' asset').toNat +
        if taker = holder' ∧ asset = asset' then amount.toNat else 0 := by
  rcases transfer_eq_ok.mp run with ⟨rfl, _, rfl⟩ | ⟨_, between, debited, credited⟩
  · rfl
  · have left := balanceOf_debit debited holder' asset'
    have taken := balanceOf_credit credited holder' asset'
    omega

theorem total_credit (run : credit holder asset amount balances = .ok done after) (other : Address) :
    after.total other = balances.total other + if asset = other then amount.toNat else 0 := by
  have changed := balanceOf_credit run holder other
  obtain ⟨updated, _, rfl⟩ := credit_eq_ok.mp run
  have sums := total_withBalance balances holder asset other updated
  simp only [true_and] at changed
  omega

theorem total_debit (run : debit holder asset amount balances = .ok done after) (other : Address) :
    balances.total other = after.total other + if asset = other then amount.toNat else 0 := by
  have changed := balanceOf_debit run holder other
  obtain ⟨remaining, _, rfl⟩ := debit_eq_ok.mp run
  have sums := total_withBalance balances holder asset other remaining
  simp only [true_and] at changed
  omega

theorem total_transfer (run : transfer asset giver taker amount balances = .ok done after)
    (other : Address) : after.total other = balances.total other := by
  rcases transfer_eq_ok.mp run with ⟨rfl, _, rfl⟩ | ⟨_, between, debited, credited⟩
  · rfl
  · have left := total_debit debited other
    have taken := total_credit credited other
    omega

/-- Balances of which one holder has an extra amount of every asset, and which are
the same otherwise. -/
def Exceeded (holder : Address) (extra : Address → Nat) (balances more : Balances) : Prop :=
  ∀ owner asset, (more.balanceOf owner asset).toNat =
    (balances.balanceOf owner asset).toNat + if holder = owner then extra asset else 0

section Exceeded

variable {more : Balances} {extra : Address → Nat} {owner : Address}

/-- A credit is an extra amount. -/
theorem exceeded_credited (run : Balances.credit holder asset amount balances = .ok done after) :
    Exceeded holder (fun other => if asset = other then amount.toNat else 0) balances after := by
  intro owner other
  rw [balanceOf_credit run owner other]
  by_cases same : holder = owner
  · simp only [same, true_and, if_true]
  · simp only [same, false_and, if_false]

theorem Exceeded.withBalance (exceeded : Exceeded holder extra balances more) {updated updated' : Amount}
    (value : updated'.toNat = updated.toNat + if holder = owner then extra asset else 0) :
    Exceeded holder extra (balances.withBalance owner asset updated) (more.withBalance owner asset updated') := by
  intro owner' asset'
  rw [balanceOf_withBalance, balanceOf_withBalance]
  split
  · rename_i same
    rw [value, ← same.1, ← same.2]
  · exact exceeded owner' asset'

/-- What can be taken without the extra amounts can be taken with them, and leaves
them there. -/
theorem Exceeded.debit (exceeded : Exceeded holder extra balances more)
    (run : Balances.debit owner asset amount balances = .ok done after) :
    ∃ more', Balances.debit owner asset amount more = .ok done more' ∧ Exceeded holder extra after more' := by
  obtain ⟨remaining, sum, rfl⟩ := debit_eq_ok.mp run
  have size := (more.balanceOf owner asset).lt_size
  have there := exceeded owner asset
  refine ⟨_, debit_eq_ok.mpr ⟨⟨(more.balanceOf owner asset).toNat - amount.toNat, by omega⟩, ?_, rfl⟩,
    exceeded.withBalance ?_⟩
  · exact (Nat.sub_add_cancel (by omega)).symm
  · change (more.balanceOf owner asset).toNat - amount.toNat = _
    omega

theorem Exceeded.credit (exceeded : Exceeded holder extra balances more)
    (run : Balances.credit owner asset amount balances = .ok done after)
    (fits : holder = owner → (more.balanceOf owner asset).toNat + amount.toNat < 2 ^ 128) :
    ∃ more', Balances.credit owner asset amount more = .ok done more' ∧ Exceeded holder extra after more' := by
  obtain ⟨updated, sum, rfl⟩ := credit_eq_ok.mp run
  have size := updated.lt_size
  have there := exceeded owner asset
  have room : (more.balanceOf owner asset).toNat + amount.toNat < 2 ^ 128 := by
    by_cases same : holder = owner
    · exact fits same
    · rw [if_neg same] at there
      omega
  refine ⟨_, credit_eq_ok.mpr ⟨⟨_, room⟩, rfl, rfl⟩, exceeded.withBalance ?_⟩
  change (more.balanceOf owner asset).toNat + amount.toNat = _
  omega

/-- A transfer away from the holder of the extra amounts needs no room for them. -/
theorem Exceeded.transfer (exceeded : Exceeded holder extra balances more)
    (run : Balances.transfer asset holder taker amount balances = .ok done after) :
    ∃ more', Balances.transfer asset holder taker amount more = .ok done more' ∧
      Exceeded holder extra after more' := by
  rcases transfer_eq_ok.mp run with ⟨rfl, there, rfl⟩ | ⟨apart, between, debited, credited⟩
  · have held := exceeded holder asset
    rw [if_pos rfl] at held
    rw [Amount.le_def] at there
    exact ⟨more, transfer_eq_ok.mpr (Or.inl ⟨rfl, Amount.le_def.mpr (by omega), rfl⟩), exceeded⟩
  · obtain ⟨between', debited', exceeded'⟩ := exceeded.debit debited
    obtain ⟨after', credited', exceeded''⟩ := exceeded'.credit credited fun same => absurd same apart
    exact ⟨after', transfer_eq_ok.mpr (Or.inr ⟨apart, between', debited', credited'⟩), exceeded''⟩

end Exceeded

end Balances

end IndexBasket
