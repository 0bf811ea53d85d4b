/-!
# Conditions

A computation that can fail states what it relies on with `require`: the condition holds from there
on, or the computation ends with the error that is given for it.
-/

namespace Raster

variable {ε α : Type}

/-- Fails with an error unless a condition holds. -/
def require (p : Prop) [Decidable p] (e : ε) : Except ε Unit := if p then .ok () else .error e

variable {p : Prop} [Decidable p] {e e' : ε} {f : Unit → Except ε α}

@[simp] theorem require_eq_ok_iff {u : Unit} : require p e = .ok u ↔ p := by
  unfold require
  split <;> simp_all

@[simp] theorem require_eq_error_iff : require p e = .error e' ↔ ¬ p ∧ e = e' := by
  unfold require
  split <;> simp_all

/-- A condition that holds leaves the computation as it is. -/
theorem require_bind (hp : p) : (require p e >>= f) = f () := by
  simp [require, hp, bind, Except.bind]

/-- A condition that does not hold ends the computation. -/
theorem require_bind_of_not (hp : ¬ p) : (require p e >>= f) = .error e := by
  simp [require, hp, bind, Except.bind]

end Raster
