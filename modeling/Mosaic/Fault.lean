/-!
# Faults

A fault ends the running operation at once, wherever it happens. It is kept
apart from the failures that an operation reports to its caller: no caller
handles it, and only what had been done before it remains.
-/

set_option autoImplicit false

namespace Mosaic

/-- Why an operation broke off. -/
inductive Fault where
  /-- A sum left the range of its type. -/
  | addOverflow
  /-- A product left the range of its type. -/
  | multiplyOverflow
  /-- A buffer larger than any that can be addressed was asked for. -/
  | capacityOverflow
  /-- A region lock was taken by the one who already holds it. -/
  | deadlock
deriving DecidableEq, Repr

/-- The line shown for a fault. -/
def Fault.message : Fault → String
  | addOverflow => "attempt to add with overflow"
  | multiplyOverflow => "attempt to multiply with overflow"
  | capacityOverflow => "capacity overflow"
  | deadlock => "deadlock detected"

/-- The sum of two words, or a fault if it is no word. -/
def addWords (a b : UInt32) : Except Fault UInt32 :=
  if a.toNat + b.toNat < 0x100000000 then .ok (a + b) else .error .addOverflow

theorem addWords_eq_ok_iff {a b c : UInt32} :
    addWords a b = .ok c ↔ c.toNat = a.toNat + b.toNat := by
  unfold addWords
  split
  · rename_i h
    constructor
    · rintro ⟨⟩; rw [UInt32.toNat_add, Nat.mod_eq_of_lt h]
    · intro e
      congr 1
      apply UInt32.toNat_inj.mp
      rw [UInt32.toNat_add, Nat.mod_eq_of_lt h, e]
  · rename_i h
    constructor
    · nofun
    · intro e; have := c.toNat_lt; omega

end Mosaic
