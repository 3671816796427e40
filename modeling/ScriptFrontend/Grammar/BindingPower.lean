/-
This file orders the operators of the language by how tightly they bind.
-/

namespace ScriptFrontend

/-- The powers are listed from the loosest to the tightest. -/
inductive BindingPower where
  | lowest
  | equality
  | comparison
  | sum
  | product
  | unary
  | call
  deriving DecidableEq

namespace BindingPower

def rank : BindingPower → Nat
  | lowest => 0
  | equality => 1
  | comparison => 2
  | sum => 3
  | product => 4
  | unary => 5
  | call => 6

instance : LT BindingPower where
  lt first second := first.rank < second.rank

instance (first second : BindingPower) : Decidable (first < second) :=
  inferInstanceAs (Decidable (first.rank < second.rank))

theorem lt_iff_rank {first second : BindingPower} : first < second ↔ first.rank < second.rank :=
  Iff.rfl

theorem not_lt_lowest (power : BindingPower) : ¬ power < lowest :=
  Nat.not_lt_zero _

end BindingPower

end ScriptFrontend
