namespace IndexBasket

/-- An unsigned quantity of 128 bits: token amounts, supplies, rates and
percentages. The bound travels with the value, so whoever adds or multiplies
has to say what happens when the result leaves the range. -/
@[ext]
structure Amount where
  toNat : Nat
  lt_size : toNat < 0x1_00000000_00000000_00000000_00000000
deriving DecidableEq

namespace Amount

/-- A quantity written down in the program itself. -/
def ofNat (n : Nat) (fits : n < 0x1_00000000_00000000_00000000_00000000 := by decide) : Amount :=
  ⟨n, fits⟩

/-- The exact number if it fits, which is how every sum and product that must
not wrap is taken back into the range. -/
def ofNat? (n : Nat) : Option Amount :=
  if fits : n < 0x1_00000000_00000000_00000000_00000000 then some ⟨n, fits⟩ else none

/-- What a register of 128 bits keeps of a number. -/
def wrap (n : Nat) : Amount :=
  ⟨n % 0x1_00000000_00000000_00000000_00000000, Nat.mod_lt n (by decide)⟩

/-- The nearest quantity: a number beyond the range becomes the largest one. -/
def clamp (n : Nat) : Amount :=
  ⟨min n 0xFFFFFFFF_FFFFFFFF_FFFFFFFF_FFFFFFFF, by omega⟩

def zero : Amount := ofNat 0

instance : Inhabited Amount := ⟨zero⟩

def baseUnit : Amount := ofNat 1

def wholeBps : Amount := ofNat 10_000

def one : Amount := ofNat 1_000_000_000_000_000_000

instance : LE Amount := ⟨fun a b => a.toNat ≤ b.toNat⟩

instance : LT Amount := ⟨fun a b => a.toNat < b.toNat⟩

instance (a b : Amount) : Decidable (a ≤ b) := inferInstanceAs (Decidable (a.toNat ≤ b.toNat))

instance (a b : Amount) : Decidable (a < b) := inferInstanceAs (Decidable (a.toNat < b.toNat))

theorem le_def {a b : Amount} : a ≤ b ↔ a.toNat ≤ b.toNat := Iff.rfl

theorem lt_def {a b : Amount} : a < b ↔ a.toNat < b.toNat := Iff.rfl

instance : Min Amount := ⟨fun a b => if a ≤ b then a else b⟩

instance : Max Amount := ⟨fun a b => if a ≤ b then b else a⟩

def add? (a b : Amount) : Option Amount := ofNat? (a.toNat + b.toNat)

def mul? (a b : Amount) : Option Amount := ofNat? (a.toNat * b.toNat)

def sub? (a b : Amount) : Option Amount :=
  if b ≤ a then some ⟨a.toNat - b.toNat, by have := a.lt_size; omega⟩ else none

/-- The difference where the first quantity is the larger one, and zero elsewhere. -/
def monus (a b : Amount) : Amount :=
  ⟨a.toNat - b.toNat, by have := a.lt_size; omega⟩

theorem ofNat?_eq_some {n : Nat} {a : Amount} : ofNat? n = some a ↔ n = a.toNat := by
  unfold ofNat?
  constructor
  · intro found
    split at found
    · cases found; rfl
    · cases found
  · rintro rfl
    exact dif_pos a.lt_size

theorem ofNat?_eq_none {n : Nat} : ofNat? n = none ↔ 0x1_00000000_00000000_00000000_00000000 ≤ n := by
  unfold ofNat?
  split <;> simp <;> omega

end Amount

end IndexBasket
