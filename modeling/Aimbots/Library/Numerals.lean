import Mathlib.Algebra.GroupWithZero.Nat
import Mathlib.Data.Nat.Cast.Defs

/-!
# Numerals

A numeral of a field needs a proof that it is at least two, and one of `Fin n` that `n` is not zero.
These are such proofs by name, for the numerals that several modules use in their definitions.  They
are instances where `Numerals` is open, so that a definition refers to them and carries no proof of
its own.
-/

namespace Aimbots.Numerals

scoped instance two : Nat.AtLeastTwo 2 := ⟨by decide⟩

scoped instance three : Nat.AtLeastTwo 3 := ⟨by decide⟩

scoped instance four : Nat.AtLeastTwo 4 := ⟨by decide⟩

scoped instance six : Nat.AtLeastTwo 6 := ⟨by decide⟩

scoped instance thirty : Nat.AtLeastTwo 30 := ⟨by decide⟩

scoped instance oneEighty : Nat.AtLeastTwo 180 := ⟨by decide⟩

scoped instance thousand : Nat.AtLeastTwo 1000 := ⟨by decide⟩

scoped instance neZero_two : NeZero 2 := ⟨by decide⟩

scoped instance neZero_three : NeZero 3 := ⟨by decide⟩

scoped instance neZero_four : NeZero 4 := ⟨by decide⟩

scoped instance neZero_six : NeZero 6 := ⟨by decide⟩

scoped instance neZero_eight : NeZero 8 := ⟨by decide⟩

end Aimbots.Numerals
