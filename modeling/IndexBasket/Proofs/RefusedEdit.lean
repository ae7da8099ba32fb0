import IndexBasket.Proofs.Engine.Reachable
import IndexBasket.Proofs.Ledger.Edit

namespace IndexBasket

open IndexBasket.Action

namespace Balances

theorem failsInPlace_credit (holder asset : Address) (amount : Amount) : FailsInPlace (credit holder asset amount) := by
  refine failsInPlace_bind moves_get fun _ => failsInPlace_bind (moves_demand _ _) fun _ => ?_
  exact (total_modify _).failsInPlace

theorem failsInPlace_debit (holder asset : Address) (amount : Amount) : FailsInPlace (debit holder asset amount) := by
  refine failsInPlace_bind moves_get fun _ => failsInPlace_bind (moves_demand _ _) fun _ => ?_
  exact (total_modify _).failsInPlace

/-- Both balances are known before either is written. -/
theorem failsInPlace_transfer (asset giver taker : Address) (amount : Amount) :
    FailsInPlace (transfer asset giver taker amount) := by
  refine failsInPlace_bind moves_get fun _ => failsInPlace_bind (moves_demand _ _) fun left => ?_
  refine failsInPlace_ite ?_ (total_pure _).failsInPlace
  refine failsInPlace_bind moves_get fun _ => failsInPlace_bind (moves_demand _ _) fun taken => ?_
  exact (total_bind (total_modify _) fun _ => total_modify _).failsInPlace

theorem failsInPlace_edit (edit : Edit) : FailsInPlace edit.apply := by
  cases edit with
  | credit holder asset amount => exact failsInPlace_credit holder asset amount
  | debit holder asset amount => exact failsInPlace_debit holder asset amount
  | transfer asset giver taker amount => exact failsInPlace_transfer asset giver taker amount

end Balances

namespace Basket

variable (registry : Registry) (caller module : Address)

/-- What a manager asks for is refused before anything is looked at. -/
theorem failsInPlace_managed {next : Unit → Update} (inPlace : ∀ done, FailsInPlace (next done)) :
    FailsInPlace (requireManager caller >>= next) :=
  failsInPlace_bind (moves_requireManager caller) inPlace

theorem failsInPlace_addModule : FailsInPlace (addModule registry caller module) := by
  refine failsInPlace_managed caller fun _ => failsInPlace_bind moves_get fun _ => failsInPlace_guard ?_
  exact failsInPlace_guard (total_modify _).failsInPlace

theorem failsInPlace_initializeModule : FailsInPlace (initializeModule module) :=
  failsInPlace_bind moves_get fun _ => failsInPlace_guard (total_modify _).failsInPlace

theorem failsInPlace_removeModule : FailsInPlace (removeModule caller module) := by
  refine failsInPlace_managed caller fun _ => failsInPlace_bind moves_get fun _ => failsInPlace_guard ?_
  exact (total_modify _).failsInPlace

theorem failsInPlace_setManager (manager : Address) : FailsInPlace (setManager caller manager) :=
  failsInPlace_managed caller fun _ => (total_modify _).failsInPlace

/-- A ledger that is as it was is put back into the basket. -/
theorem failsInPlace_onLedger {update : Ledger.Update} (inPlace : FailsInPlace update) :
    FailsInPlace (onLedger update) := by
  intro basket after failure stopped
  obtain ⟨cause, ledger, refused, rfl, rfl⟩ := within_eq_error.mp stopped
  have same : ledger = basket.ledger := inPlace refused
  rw [same]

theorem failsInPlace_edit (edit : Edit) : FailsInPlace (edit.apply registry) := by
  cases edit with
  | addModule caller module => exact failsInPlace_addModule registry caller module
  | initializeModule module => exact failsInPlace_initializeModule module
  | removeModule caller module => exact failsInPlace_removeModule caller module
  | setManager caller manager => exact failsInPlace_setManager caller manager
  | setTotalSupply totalSupply => exact (total_modify _).failsInPlace
  | ledger edit => exact failsInPlace_onLedger (Ledger.failsInPlace_edit edit)

end Basket

/-- An edit that is refused leaves the ledger, the basket or the balances as they were,
whatever they hold: nothing that it has written by then is new. -/
theorem refused_edit_unchanged :
    (∀ (edit : Ledger.Edit) (ledger after : Ledger) (cause : LedgerError),
      edit.apply ledger = .error cause after → after = ledger) ∧
    (∀ (registry : Registry) (edit : Basket.Edit) (basket after : Basket) (cause : LedgerError),
      edit.apply registry basket = .error cause after → after = basket) ∧
    ∀ (edit : Balances.Edit) (balances after : Balances) (cause : LedgerError),
      edit.apply balances = .error cause after → after = balances := by
  refine ⟨?_, ?_, ?_⟩
  · intro edit ledger after cause refused
    exact Ledger.failsInPlace_edit edit refused
  · intro registry edit basket after cause refused
    exact Basket.failsInPlace_edit registry edit refused
  · intro edit balances after cause refused
    exact Balances.failsInPlace_edit edit refused

open IndexBasket.Engine IndexBasket.Engine.Market

/-- An attribution and a module that are there already, and a transfer that the giver could
make but the taker has no room for. -/
theorem refused_edit_unchanged_late :
    let ledger : Ledger := { Market.basket.ledger with
      external := (∅ : AddressMap Attributions).insert dai
        ⟨[rebalancer], (∅ : AddressMap Attribution).insert rebalancer {}⟩ }
    let basket : Basket := { Market.basket with
      modules := (∅ : AddressMap ModuleState).insert rebalancer .initialized }
    let balances := Market.balances.withBalance treasury dai (Amount.clamp (2 ^ 128))
    (∃ after, (Ledger.Edit.addAttribution dai rebalancer).apply ledger =
      .error (.moduleAlreadyAttributed dai rebalancer) after ∧ after = ledger) ∧
    (∃ after, (Basket.Edit.addModule manager rebalancer).apply registry basket =
      .error (.moduleAlreadyAdded rebalancer) after ∧ after = basket) ∧
    ∃ after, (Balances.Edit.transfer dai index treasury Amount.one).apply balances = .error .overflow after ∧
      after = balances := by
  intro ledger basket balances
  have attributed : (Ledger.Edit.addAttribution dai rebalancer).apply.fails
      (fun cause _ => cause = .moduleAlreadyAttributed dai rebalancer) ledger = true := by decide +kernel
  have added : ((Basket.Edit.addModule manager rebalancer).apply registry).fails
      (fun cause _ => cause = .moduleAlreadyAdded rebalancer) basket = true := by decide +kernel
  have full : (Balances.Edit.transfer dai index treasury Amount.one).apply.fails
      (fun cause _ => cause = .overflow) balances = true := by decide +kernel
  obtain ⟨_, ledgerAfter, attributing, attributed⟩ := fails_iff.mp attributed
  obtain ⟨_, basketAfter, adding, added⟩ := fails_iff.mp added
  obtain ⟨_, balancesAfter, moving, full⟩ := fails_iff.mp full
  rw [of_decide_eq_true attributed] at attributing
  rw [of_decide_eq_true added] at adding
  rw [of_decide_eq_true full] at moving
  obtain ⟨ledgers, baskets, books⟩ := refused_edit_unchanged
  exact ⟨⟨ledgerAfter, attributing, ledgers _ _ _ _ attributing⟩, ⟨basketAfter, adding, baskets _ _ _ _ _ adding⟩,
    ⟨balancesAfter, moving, books _ _ _ _ moving⟩⟩

end IndexBasket
