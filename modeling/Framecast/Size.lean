set_option autoImplicit false

namespace Framecast.Size

def limit : Nat := UInt64.size - 1

def pieceLimit : Nat := UInt64.size / 2 - 1

/-- A product that stays at the largest size instead of wrapping past it. -/
def mul (a b : Nat) : Nat := min (a * b) limit

theorem mul_of_le {a b : Nat} (h : a * b ≤ limit) : mul a b = a * b := Nat.min_eq_left h

@[simp] theorem mul_eq_zero (a b : Nat) : mul a b = 0 ↔ a = 0 ∨ b = 0 := by
  simp only [mul, limit, UInt64.size]
  constructor
  · intro h
    exact Nat.mul_eq_zero.1 (by omega)
  · intro h
    rw [Nat.mul_eq_zero.2 h]
    omega

end Framecast.Size
