import IndexBasket.Proofs.Balances
import IndexBasket.Proofs.Engine.Footprint
import IndexBasket.Proofs.RefusedEdit

namespace IndexBasket

namespace Balances

open IndexBasket.Action

variable {balances after other : Balances} {holder asset giver taker : Address} {amount : Amount} {edit : Edit}
  {assets : AddressMap Amount} {done : Unit}

/-! The one form of a book. -/

/-- Nothing is kept for what is not owned: no balance of zero, and no table without
balances. -/
structure Canonical (balances : Balances) : Prop where
  nonempty : ∀ (holder : Address) (assets : AddressMap Amount), balances.byHolder[holder]? = some assets → assets ≠ ∅
  nonzero : ∀ (holder : Address) (assets : AddressMap Amount), balances.byHolder[holder]? = some assets →
    ∀ asset : Address, assets[asset]? ≠ some Amount.zero

theorem canonical_empty : Canonical empty := by
  have absent : ∀ {holder : Address} {assets : AddressMap Amount}, empty.byHolder[holder]? ≠ some assets := by
    intro holder assets found
    rw [empty, Std.ExtTreeMap.getElem?_empty] at found
    cases found
  exact ⟨fun _ _ found => absurd found absent, fun _ _ found => absurd found absent⟩

theorem Canonical.getD_ne_zero (canonical : balances.Canonical) (holder asset : Address) :
    (balances.byHolder.getD holder ∅)[asset]? ≠ some Amount.zero := by
  rw [Std.ExtTreeMap.getD_eq_getD_getElem?]
  cases found : balances.byHolder[holder]? with
  | none => exact fun held => nomatch (Std.ExtTreeMap.getElem?_empty.symm.trans held)
  | some assets => exact canonical.nonzero holder assets found asset

/-- The table that a write leaves its holder, if it leaves one: not an empty one, and with
the new amount unless that is zero. -/
theorem getElem?_withBalance_self
    (found : (balances.withBalance holder asset amount).byHolder[holder]? = some assets) :
    assets ≠ ∅ ∧ ∀ other : Address, assets[other]? =
      if asset = other then if amount = Amount.zero then none else some amount
      else (balances.byHolder.getD holder ∅)[other]? := by
  have read : balances.byHolder.getD holder ∅ = balances.byHolder[holder]?.getD ∅ :=
    Std.ExtTreeMap.getD_eq_getD_getElem?
  by_cases zero : amount = Amount.zero
  · rw [withBalance, if_pos zero] at found
    cases table : balances.byHolder[holder]? with
    | none =>
      simp only [table] at found
      cases found
    | some before =>
      simp only [table] at found
      split at found
      · rw [Std.ExtTreeMap.getElem?_erase_self] at found
        cases found
      · rename_i filled
        rw [Std.ExtTreeMap.getElem?_insert_self] at found
        cases found
        refine ⟨fun emptied => filled (Std.ExtTreeMap.isEmpty_iff.mpr emptied), fun other => ?_⟩
        rw [Std.ExtTreeMap.getElem?_erase, read, table, if_pos zero]
        simp only [Std.LawfulEqCmp.compare_eq_iff_eq, Option.getD_some]
  · rw [withBalance, if_neg zero, Std.ExtTreeMap.getElem?_insert_self] at found
    cases found
    refine ⟨Std.ExtTreeMap.insert_ne_empty, fun other => ?_⟩
    rw [Std.ExtTreeMap.getElem?_insert, if_neg zero]
    simp only [Std.LawfulEqCmp.compare_eq_iff_eq]

theorem Canonical.withBalance (canonical : balances.Canonical) (holder asset : Address) (amount : Amount) :
    (balances.withBalance holder asset amount).Canonical := by
  refine ⟨fun owner assets found => ?_, fun owner assets found other held => ?_⟩
  · by_cases same : holder = owner
    · subst same
      exact (getElem?_withBalance_self found).1
    · rw [getElem?_withBalance_ne same] at found
      exact canonical.nonempty owner assets found
  · by_cases same : holder = owner
    · subst same
      rw [(getElem?_withBalance_self found).2 other] at held
      split at held
      · split at held
        · cases held
        · rename_i nonzero
          exact nonzero (Option.some.inj held)
      · exact canonical.getD_ne_zero holder other held
    · rw [getElem?_withBalance_ne same] at found
      exact canonical.nonzero owner assets found other held

theorem Canonical.credit (canonical : balances.Canonical)
    (run : Balances.credit holder asset amount balances = .ok done after) : after.Canonical := by
  obtain ⟨updated, _, rfl⟩ := credit_eq_ok.mp run
  exact canonical.withBalance holder asset updated

theorem Canonical.debit (canonical : balances.Canonical)
    (run : Balances.debit holder asset amount balances = .ok done after) : after.Canonical := by
  obtain ⟨remaining, _, rfl⟩ := debit_eq_ok.mp run
  exact canonical.withBalance holder asset remaining

theorem Canonical.transfer (canonical : balances.Canonical)
    (run : Balances.transfer asset giver taker amount balances = .ok done after) : after.Canonical := by
  rcases transfer_eq_ok.mp run with ⟨_, _, rfl⟩ | ⟨_, between, debited, credited⟩
  · exact canonical
  · exact (canonical.debit debited).credit credited

theorem moves_edit_canonical (edit : Edit) : Moves (Preserves Canonical) edit.apply := by
  refine (failsInPlace_edit edit).moves fun run canonical => ?_
  cases edit with
  | credit holder asset amount => exact canonical.credit run
  | debit holder asset amount => exact canonical.debit run
  | transfer asset giver taker amount => exact canonical.transfer run

theorem canonical_run (edits : List Edit) : (finalAll Edit.apply edits empty).Canonical :=
  moved_finalAll moves_edit_canonical edits empty canonical_empty

/-- A table has what the balances say, and nothing where they say zero. -/
theorem Canonical.getElem?_getD (canonical : balances.Canonical) (holder asset : Address) :
    (balances.byHolder.getD holder ∅)[asset]? =
      if balances.balanceOf holder asset = Amount.zero then none else some (balances.balanceOf holder asset) := by
  rw [balanceOf_eq_getD, Std.ExtTreeMap.getD_eq_getD_getElem? (a := asset)]
  cases held : (balances.byHolder.getD holder ∅)[asset]? with
  | none => exact (if_pos rfl).symm
  | some amount =>
    refine (if_neg fun zero => ?_).symm
    rw [Option.getD_some] at zero
    exact canonical.getD_ne_zero holder asset (held.trans (congrArg some zero))

theorem Canonical.getElem?_byHolder (canonical : balances.Canonical) (holder : Address) :
    balances.byHolder[holder]? =
      if balances.byHolder.getD holder ∅ = ∅ then none else some (balances.byHolder.getD holder ∅) := by
  rw [Std.ExtTreeMap.getD_eq_getD_getElem?]
  cases found : balances.byHolder[holder]? with
  | none => exact (if_pos rfl).symm
  | some assets => exact (if_neg (canonical.nonempty holder assets found)).symm

/-- The balances alone tell a book from every other one. -/
theorem Canonical.ext (canonical : balances.Canonical) (canonical' : other.Canonical)
    (same : ∀ holder asset, balances.balanceOf holder asset = other.balanceOf holder asset) : balances = other := by
  have tables : ∀ holder, balances.byHolder.getD holder ∅ = other.byHolder.getD holder ∅ := by
    intro holder
    refine Std.ExtTreeMap.ext_getElem? fun asset => ?_
    rw [canonical.getElem?_getD, canonical'.getElem?_getD, same]
  have books : balances.byHolder = other.byHolder := by
    refine Std.ExtTreeMap.ext_getElem? fun holder => ?_
    rw [canonical.getElem?_byHolder, canonical'.getElem?_byHolder, tables]
  cases balances
  cases other
  exact congrArg Balances.mk books

/-! What a run of edits moves. -/

/-- How much of an asset an edit brings into the book. -/
def Edit.deposit (asset : Address) : Edit → Nat
  | .credit _ credited amount => if credited = asset then amount.toNat else 0
  | .debit .. => 0
  | .transfer .. => 0

/-- How much of an asset an edit takes out of the book. -/
def Edit.withdrawal (asset : Address) : Edit → Nat
  | .credit .. => 0
  | .debit _ debited amount => if debited = asset then amount.toNat else 0
  | .transfer .. => 0

/-- How much of an asset an edit gives to a holder, which is none unless it names both. -/
def Edit.received (holder asset : Address) : Edit → Nat
  | .credit taker credited amount => if taker = holder ∧ credited = asset then amount.toNat else 0
  | .debit .. => 0
  | .transfer moved _ taker amount => if taker = holder ∧ moved = asset then amount.toNat else 0

/-- How much of an asset an edit takes from a holder, which is none unless it names both. -/
def Edit.given (holder asset : Address) : Edit → Nat
  | .credit .. => 0
  | .debit giver debited amount => if giver = holder ∧ debited = asset then amount.toNat else 0
  | .transfer moved giver _ amount => if giver = holder ∧ moved = asset then amount.toNat else 0

theorem total_edit (run : edit.apply balances = .ok done after) (asset : Address) :
    after.total asset + edit.withdrawal asset = balances.total asset + edit.deposit asset := by
  cases edit with
  | credit holder credited amount => exact total_credit run asset
  | debit holder debited amount => exact (total_debit run asset).symm
  | transfer moved giver taker amount => exact total_transfer run asset

theorem balanceOf_edit (run : edit.apply balances = .ok done after) (holder asset : Address) :
    (after.balanceOf holder asset).toNat + edit.given holder asset =
      (balances.balanceOf holder asset).toNat + edit.received holder asset := by
  cases edit with
  | credit taker credited amount => exact balanceOf_credit run holder asset
  | debit giver debited amount => exact (balanceOf_debit run holder asset).symm
  | transfer moved giver taker amount => exact balanceOf_transfer run holder asset

/-- What the edits of a run come to by some measure of each. Those that are refused do
not count. -/
def amounted (measure : Edit → Nat) : List Edit → Balances → Nat
  | [], _ => 0
  | edit :: rest, balances =>
    match edit.apply balances with
    | .ok _ after => measure edit + amounted measure rest after
    | .error _ after => amounted measure rest after

/-- What balances for every edit that goes through balances for a run. -/
theorem amounted_balance (measure : Balances → Nat) {lost gained : Edit → Nat}
    (step : ∀ {edit : Edit} {balances after : Balances}, edit.apply balances = .ok () after →
      measure after + lost edit = measure balances + gained edit) (edits : List Edit) (balances : Balances) :
    measure (finalAll Edit.apply edits balances) + amounted lost edits balances =
      measure balances + amounted gained edits balances := by
  induction edits generalizing balances with
  | nil => rfl
  | cons edit rest ih =>
    change measure (finalAll Edit.apply rest (edit.apply.final balances)) + _ = _
    unfold amounted
    cases run : edit.apply balances with
    | ok done after =>
      have balanced := step run
      have later := ih after
      rw [final_of_ok run]
      dsimp only
      omega
    | error failure after =>
      obtain rfl : after = balances := failsInPlace_edit edit run
      rw [final_of_error run]
      exact ih after

/-- A book that starts empty keeps nothing for what is not owned, whatever is credited,
debited and transferred in it and refused, so it is one with any other book of the same
balances. The holders have together of each asset what has been credited less what has been
debited, and each has what he was given less what was taken from him. -/
theorem books_balance (edits : List Edit) :
    let book := finalAll Edit.apply edits empty
    book.Canonical ∧
    (∀ edits' : List Edit, (∀ holder asset,
        book.balanceOf holder asset = (finalAll Edit.apply edits' empty).balanceOf holder asset) →
      book = finalAll Edit.apply edits' empty) ∧
    (∀ asset, book.total asset + amounted (Edit.withdrawal asset) edits empty =
      amounted (Edit.deposit asset) edits empty) ∧
    (∀ holder asset, (book.balanceOf holder asset).toNat + amounted (Edit.given holder asset) edits empty =
      amounted (Edit.received holder asset) edits empty) ∧
    ∀ (edit : Edit) (after : Balances),
      (∀ failure, edit.apply book = .error failure after → after = book) ∧
      (edit.apply book = .ok () after →
        (∀ asset, after.total asset + edit.withdrawal asset = book.total asset + edit.deposit asset) ∧
        ∀ holder asset, (after.balanceOf holder asset).toNat + edit.given holder asset =
          (book.balanceOf holder asset).toNat + edit.received holder asset) := by
  intro book
  refine ⟨canonical_run edits, fun edits' same => (canonical_run edits).ext (canonical_run edits') same,
    fun asset => ?_, fun holder asset => ?_, fun edit after => ⟨fun failure refused => ?_, fun run => ?_⟩⟩
  · have balanced := amounted_balance (·.total asset) (fun run => total_edit run asset) edits empty
    exact balanced.trans (Nat.zero_add _)
  · have balanced := amounted_balance (fun book => (book.balanceOf holder asset).toNat)
      (fun run => balanceOf_edit run holder asset) edits empty
    exact balanced.trans (Nat.zero_add _)
  · exact failsInPlace_edit edit refused
  · exact ⟨total_edit run, balanceOf_edit run⟩

open IndexBasket.Engine.Market

/-- An asset is credited, transferred to its holder, asked for in excess and debited again.
Its holder has no table then, and gets none by a credit of nothing. -/
theorem books_balance_pruned :
    let edits : List Edit :=
      [.credit index dai (Amount.ofNat 5), .credit treasury dai (Amount.ofNat 3),
        .transfer dai index index (Amount.ofNat 5), .transfer dai index treasury (Amount.ofNat 9),
        .debit index dai (Amount.ofNat 5)]
    let book := finalAll Edit.apply edits empty
    book.byHolder[index]? = none ∧ book.total dai + 5 = 8 ∧
      finalAll Edit.apply (edits ++ [.credit index weth Amount.zero]) empty = book := by
  intro edits book
  obtain ⟨_, unique, totals, _, each⟩ := books_balance edits
  have credits : (Edit.credit index weth Amount.zero).apply.succeeds (fun _ _ => true) book = true := by decide +kernel
  obtain ⟨_, after, run, _⟩ := succeeds_iff.mp credits
  have reached : finalAll Edit.apply (edits ++ [.credit index weth Amount.zero]) empty = after := by
    rw [finalAll_append]
    exact final_of_ok run
  have same : ∀ holder asset, book.balanceOf holder asset = after.balanceOf holder asset := by
    intro holder asset
    have kept := ((each _ after).2 run).2 holder asset
    rw [Edit.given, Edit.received, show Amount.zero.toNat = 0 from rfl, ite_self] at kept
    exact Amount.ext kept.symm
  have again := unique (edits ++ [.credit index weth Amount.zero])
  rw [reached] at again
  have counted := totals dai
  rw [show amounted (Edit.withdrawal dai) edits empty = 5 by decide +kernel,
    show amounted (Edit.deposit dai) edits empty = 8 by decide +kernel] at counted
  exact ⟨by decide +kernel, counted, reached.trans (again same).symm⟩

end Balances

end IndexBasket
