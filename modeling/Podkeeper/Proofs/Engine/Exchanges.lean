import Podkeeper.Engine.Containers
import Podkeeper.Engine.Exchange

/-!
What is exchanged with an engine.

An engine answers every question somehow, and may be another one after it (`Engine.Partner`); a
statement about all partners is one about all that an engine can do. `Dialogue.exchanges` are the
questions of a dialogue with their answers, in order. Over a connection each of them travels as one
request (`converse_eq`). Where an attempt follows another one, so do the exchanges, unless the
first one fails (`Attempt.exchanges_bind_of_ok`, `Attempt.exchanges_bind_of_error`).
-/

namespace Podkeeper.Engine

/-- A question with its answer. -/
structure Exchange where
  ask : Ask
  answer : ask.Answer

/-- An engine, or a way to it: answers every question and goes on as it likes. -/
abbrev Partner (σ : Type) := (a : Ask) → σ → a.Answer × σ

variable {σ α β : Type}

namespace Dialogue

/-! ### Dialogues -/

/-- What is exchanged in a dialogue with an engine, in order. -/
def exchanges (engine : Partner σ) : Dialogue α → σ → List Exchange
  | .done _, _ => []
  | .perform a next, s =>
    ⟨a, (engine a s).1⟩ :: exchanges engine (next (engine a s).1) (engine a s).2

variable {engine : Partner σ} {s : σ}

theorem runWith_bind (d : Dialogue α) (f : α → Dialogue β) :
    (d >>= f).runWith engine s =
      (f (d.runWith engine s).1).runWith engine (d.runWith engine s).2 := by
  induction d generalizing s with
  | done a => rfl
  | perform a next ih => exact ih (engine a s).1

theorem exchanges_bind (d : Dialogue α) (f : α → Dialogue β) :
    exchanges engine (d >>= f) s = exchanges engine d s ++
      exchanges engine (f (d.runWith engine s).1) (d.runWith engine s).2 := by
  induction d generalizing s with
  | done a => rfl
  | perform a next ih => exact congrArg (_ :: ·) (ih (engine a s).1)

end Dialogue

/-! ### Connections -/

/-- The engine at the other end of a connection. -/
def answering (reply? : Request → Option Reply) : Partner Unit := fun a u =>
  (match reply? a.request with
    | some r => a.understand r
    | none => a.unanswered, u)

theorem runWith_recording (reply? : Request → Option Reply) (d : Dialogue α)
    (requests : List Request) :
    d.runWith (fun a requests => ((answering reply? a ()).1, a.request :: requests)) requests =
      ((d.runWith (answering reply?) ()).1,
        ((d.exchanges (answering reply?) ()).map (·.ask.request)).reverse ++ requests) := by
  induction d generalizing requests with
  | done a => rfl
  | perform a next ih =>
      refine (ih _ _).trans ?_
      rw [Dialogue.exchanges, List.map_cons, List.reverse_cons, List.append_assoc]
      rfl

/-- Each question is one request, and nothing else is sent. -/
theorem converse_eq (reply? : Request → Option Reply) (d : Dialogue α) :
    converse reply? d =
      ((d.runWith (answering reply?) ()).1,
        (d.exchanges (answering reply?) ()).map (·.ask.request)) := by
  have recorded := congrArg (fun held => (held.1, held.2.reverse)) (runWith_recording reply? d [])
  rw [List.append_nil, List.reverse_reverse] at recorded
  exact recorded

namespace Attempt

/-! ### Attempts -/

theorem ofAnswer_ok_bind {a : α} {f : α → Attempt β} : ofAnswer (.ok a) >>= f = f a := rfl

/-- What an attempt comes to with an engine. -/
def result (engine : Partner σ) (x : Attempt α) (s : σ) : Except RuntimeFailure α :=
  (x.run.runWith engine s).1

/-- The engine after an attempt. -/
def after (engine : Partner σ) (x : Attempt α) (s : σ) : σ := (x.run.runWith engine s).2

/-- What is exchanged in an attempt. -/
def exchanges (engine : Partner σ) (x : Attempt α) (s : σ) : List Exchange :=
  Dialogue.exchanges engine x.run s

variable {engine : Partner σ} {s : σ} {x : Attempt α} {f : α → Attempt β}

theorem exchanges_ask_bind {a : Ask} {f : a.Answer → Attempt β} :
    (ask a >>= f).exchanges engine s =
      ⟨a, (engine a s).1⟩ :: (f (engine a s).1).exchanges engine (engine a s).2 := rfl

theorem result_ask_bind {a : Ask} {f : a.Answer → Attempt β} :
    (ask a >>= f).result engine s = (f (engine a s).1).result engine (engine a s).2 := rfl

section

variable {a : α} (ok : x.result engine s = .ok a)
include ok

theorem exchanges_bind_of_ok : (x >>= f).exchanges engine s =
    x.exchanges engine s ++ (f a).exchanges engine (x.after engine s) := by
  rw [exchanges, ExceptT.run_bind, Dialogue.exchanges_bind]
  rw [result] at ok
  rw [ok]
  rfl

theorem result_bind_of_ok : (x >>= f).result engine s = (f a).result engine (x.after engine s) := by
  rw [result, ExceptT.run_bind, Dialogue.runWith_bind]
  rw [result] at ok
  rw [ok]
  rfl

end

section

variable {e : RuntimeFailure} (failed : x.result engine s = .error e)
include failed

theorem exchanges_bind_of_error : (x >>= f).exchanges engine s = x.exchanges engine s := by
  rw [exchanges, ExceptT.run_bind, Dialogue.exchanges_bind]
  rw [result] at failed
  rw [failed]
  exact List.append_nil _

theorem result_bind_of_error : (x >>= f).result engine s = .error e := by
  rw [result, ExceptT.run_bind, Dialogue.runWith_bind]
  rw [result] at failed
  rw [failed]
  rfl

end

end Attempt

end Podkeeper.Engine
