import Mathlib.Tactic.Common

/-!
Outcomes of steps that may fail.

Two steps in sequence succeed exactly if both of them do, and then with the value of the second;
they fail of the first one that fails.
-/

namespace Podkeeper

variable {ε α β : Type}

/-- A step that succeeds is followed by the next one. -/
theorem ok_bind (a : α) (next : α → Except ε β) : (.ok a >>= next) = next a := rfl

theorem bind_eq_ok {first : Except ε α} {next : α → Except ε β} {b : β} :
    (first >>= next) = .ok b ↔ ∃ a, first = .ok a ∧ next a = .ok b := by
  cases first with
  | error e => simp [bind, Except.bind]
  | ok a => simp [ok_bind]

theorem bind_eq_error {first : Except ε α} {next : α → Except ε β} {e : ε} :
    (first >>= next) = .error e ↔ first = .error e ∨ ∃ a, first = .ok a ∧ next a = .error e := by
  cases first with
  | error e' => simp [bind, Except.bind]
  | ok a => simp [ok_bind]

end Podkeeper
