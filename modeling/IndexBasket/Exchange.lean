namespace IndexBasket

/-- The venues an asset can be routed to. An asset without a route has the exchange `unset`. -/
inductive Exchange
  | unset
  | uniswap
  | sushiswap
  | balancer
deriving DecidableEq

namespace Exchange

instance : Inhabited Exchange := ⟨unset⟩

def number : Exchange → Nat
  | unset => 0
  | uniswap => 1
  | sushiswap => 2
  | balancer => 3

def name : Exchange → String
  | unset => "none"
  | uniswap => "uniswap"
  | sushiswap => "sushiswap"
  | balancer => "balancer"

instance : ToString Exchange := ⟨name⟩

instance : Ord Exchange := ⟨fun a b => compare a.number b.number⟩

theorem eq_of_number_eq {a b : Exchange} (same : a.number = b.number) : a = b := by
  cases a <;> cases b <;> first | rfl | cases same

instance : Std.TransOrd Exchange where
  eq_swap {a b} := Std.OrientedOrd.eq_swap (a := a.number) (b := b.number)
  isLE_trans {a b c} := Std.TransOrd.isLE_trans (a := a.number) (b := b.number) (c := c.number)

instance : Std.LawfulEqOrd Exchange where
  compare_self {a} := Std.ReflOrd.compare_self (a := a.number)
  eq_of_compare {_ _} same := eq_of_number_eq (Std.LawfulEqOrd.eq_of_compare same)

end Exchange

end IndexBasket
