/-
Interactions.

An interaction asks for one thing after the other, and each answer decides how it goes on, until
it ends with a value. What can be asked for and which answers there are is a parameter. Nothing
is said about who answers: a statement about all answers is a statement about every partner.
-/

namespace Podkeeper

/-- An interaction that ends with a value. -/
inductive Interaction {E : Type} (Answer : E → Type) (α : Type) where
  | done (a : α)
  | perform (e : E) (next : Answer e → Interaction Answer α)

namespace Interaction

variable {E : Type} {Answer : E → Type} {α β : Type}

def bind : Interaction Answer α → (α → Interaction Answer β) → Interaction Answer β
  | .done a, f => f a
  | .perform e next, f => .perform e fun answer => bind (next answer) f

instance : Monad (Interaction Answer) where
  pure := .done
  bind := .bind

def ask (e : E) : Interaction Answer (Answer e) := .perform e .done

/-- Runs an interaction with a partner who answers it all and may remember what happened. -/
def runWith {σ : Type} (partner : (e : E) → σ → Answer e × σ) : Interaction Answer α → σ → α × σ
  | .done a, s => (a, s)
  | .perform e next, s =>
    let (answer, s) := partner e s
    runWith partner (next answer) s

end Interaction

end Podkeeper
