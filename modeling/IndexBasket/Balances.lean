import IndexBasket.Ledger.Error
import IndexBasket.Action
import IndexBasket.Number.Amount

namespace IndexBasket

/-- How much of each asset every holder owns. A balance of zero has no entry,
and a holder without balances has no table. -/
structure Balances where
  byHolder : AddressMap (AddressMap Amount) := ∅
deriving DecidableEq

namespace Balances

def empty : Balances := {}

def balanceOf (balances : Balances) (holder asset : Address) : Amount :=
  match balances.byHolder[holder]? with
  | some assets => assets.getD asset Amount.zero
  | none => Amount.zero

def withBalance (balances : Balances) (holder asset : Address) (amount : Amount) : Balances :=
  if amount = Amount.zero then
    match balances.byHolder[holder]? with
    | some assets =>
      let rest := assets.erase asset
      if rest.isEmpty then ⟨balances.byHolder.erase holder⟩ else ⟨balances.byHolder.insert holder rest⟩
    | none => balances
  else ⟨balances.byHolder.insert holder ((balances.byHolder.getD holder ∅).insert asset amount)⟩

abbrev Update := Action LedgerError Balances Unit

def credit (holder asset : Address) (amount : Amount) : Update := do
  let updated ← demand .overflow (((← get).balanceOf holder asset).add? amount)
  modify (·.withBalance holder asset updated)

def debit (holder asset : Address) (amount : Amount) : Update := do
  let remaining ← demand (.insufficientBalance holder asset) (((← get).balanceOf holder asset).sub? amount)
  modify (·.withBalance holder asset remaining)

/-- Moves an amount between holders. To oneself it changes nothing, but the
amount has to be there. -/
def transfer (asset giver taker : Address) (amount : Amount) : Update := do
  let left ← demand (.insufficientBalance giver asset) (((← get).balanceOf giver asset).sub? amount)
  if giver ≠ taker then
    let taken ← demand .overflow (((← get).balanceOf taker asset).add? amount)
    modify (·.withBalance giver asset left)
    modify (·.withBalance taker asset taken)

inductive Edit
  | credit (holder asset : Address) (amount : Amount)
  | debit (holder asset : Address) (amount : Amount)
  | transfer (asset giver taker : Address) (amount : Amount)
deriving DecidableEq

def Edit.apply : Edit → Update
  | .credit holder asset amount => Balances.credit holder asset amount
  | .debit holder asset amount => Balances.debit holder asset amount
  | .transfer asset giver taker amount => Balances.transfer asset giver taker amount

end Balances

end IndexBasket
