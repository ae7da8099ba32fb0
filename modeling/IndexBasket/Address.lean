import IndexBasket.Text.Aligned
import Std.Data.ExtTreeMap
import Std.Data.ExtTreeSet

namespace IndexBasket

/-- The name of an account, an asset or a module: 1 to 24 bytes of UTF-8. -/
structure Address where
  name : String
  nonempty : 0 < name.utf8ByteSize
  short : name.utf8ByteSize ≤ 24
deriving DecidableEq

namespace Address

def ofString? (s : String) : Option Address :=
  if fits : 0 < s.utf8ByteSize ∧ s.utf8ByteSize ≤ 24 then some ⟨s, fits.1, fits.2⟩ else none

/-- What is said of a name that is no address, the empty one included. -/
def refusal (s : String) : String :=
  "address '" ++ s ++ "' exceeds 24 bytes"

instance : ToString Address := ⟨Address.name⟩

def debugText (a : Address) : String := "Address(" ++ a.name ++ ")"

instance : Ord Address := ⟨fun a b => compare a.name b.name⟩

instance : Std.TransOrd Address where
  eq_swap {a b} := Std.OrientedOrd.eq_swap (a := a.name) (b := b.name)
  isLE_trans {a b c} := Std.TransOrd.isLE_trans (a := a.name) (b := b.name) (c := c.name)

theorem eq_of_name_eq {a b : Address} (same : a.name = b.name) : a = b := by
  cases a; cases b; cases same; rfl

instance : Std.LawfulEqOrd Address where
  compare_self {a} := Std.ReflOrd.compare_self (a := a.name)
  eq_of_compare {_ _} same := eq_of_name_eq (Std.LawfulEqOrd.eq_of_compare same)

instance : Min Address := ⟨fun a b => if (compare a b).isLE then a else b⟩

def room : Nat := 24

/-- The name in a field of fixed size, filled up with zero bytes. -/
def padded (a : Address) : List UInt8 :=
  a.name.toUTF8.toList ++ List.replicate (room - a.name.utf8ByteSize) 0

end Address

abbrev AddressMap (β : Type) := Std.ExtTreeMap Address β

abbrev AddressSet := Std.ExtTreeSet Address

def hasDuplicate {α : Type} [DecidableEq α] : List α → Bool
  | [] => false
  | item :: rest => rest.contains item || hasDuplicate rest

end IndexBasket
