import IndexBasket.Venue.Error

namespace IndexBasket

/-- Which side of a swap is given. The other side is the venue's answer. -/
inductive SwapKind
  | exactInput
  | exactOutput
deriving DecidableEq

structure Quote where
  amountIn : Amount
  amountOut : Amount
deriving DecidableEq

abbrev Fill := Quote

structure SwapOrder where
  assetIn : Address
  assetOut : Address
  amount : Amount
  kind : SwapKind
deriving DecidableEq

/-- Holds the open side of a swap against the least output or the greatest input
that is accepted. -/
def checkBound (kind : SwapKind) (quote : Quote) (bound : Amount) : Except VenueError Unit :=
  match kind with
  | .exactInput =>
    if quote.amountOut < bound then .error (.slippageExceeded bound quote.amountOut) else .ok ()
  | .exactOutput =>
    if bound < quote.amountIn then .error (.slippageExceeded bound quote.amountIn) else .ok ()

structure AssetPair where
  first : Address
  second : Address
deriving DecidableEq

namespace AssetPair

instance : Ord AssetPair := ⟨compareLex (compareOn first) (compareOn second)⟩

instance : Std.TransOrd AssetPair :=
  inferInstanceAs (Std.TransCmp (compareLex (compareOn first) (compareOn second)))

instance : Std.LawfulEqOrd AssetPair where
  compare_self := Std.ReflCmp.compare_self
  eq_of_compare {a b} same := by
    obtain ⟨first, second⟩ := Ordering.then_eq_eq.mp same
    cases a; cases b
    cases Std.LawfulEqOrd.eq_of_compare first
    cases Std.LawfulEqOrd.eq_of_compare second
    rfl

/-- The pair with its smaller asset first, which is the same for both orders. -/
def unordered (a b : Address) : AssetPair :=
  if (compare a b).isLE then ⟨a, b⟩ else ⟨b, a⟩

theorem unordered_comm (a b : Address) : unordered a b = unordered b a := by
  unfold unordered
  have swapped : compare b a = (compare a b).swap := Std.OrientedCmp.eq_swap
  rw [swapped]
  cases order : compare a b with
  | lt => rfl
  | eq =>
    cases Std.LawfulEqCmp.eq_of_compare order
    rfl
  | gt => rfl

end AssetPair

abbrev PairMap (β : Type) := Std.ExtTreeMap AssetPair β

end IndexBasket
