import Podkeeper.Lifecycle.Operations
import Podkeeper.Proofs.Interleaving.System

/-!
Traces of operations.

A trace is what a program performed, act by act. `Program.Reaches` says to what a program comes by
a trace and `Program.Yields` that it ends there; a trace of a sequence is one trace behind the
other (`Program.yields_bind`). So the traces of an operation are found along its definition, one
lemma for each loop, without a word about who answers.
-/

namespace Podkeeper

namespace Program

variable {α β : Type}

/-! ### Traces -/

/-- A program comes to another one by acts, answered as they say. -/
def Reaches : Program α → List Act → Program α → Prop
  | p, [], q => p = q
  | p, a :: acts, q => ∃ next, p = .perform a.effect next ∧ Reaches (next a.answer) acts q

/-- A program ends with a value after acts, answered as they say. -/
def Yields (p : Program α) (acts : List Act) (a : α) : Prop := Reaches p acts (.done a)

theorem reaches_append {p r : Program α} {acts acts' : List Act} :
    Reaches p (acts ++ acts') r ↔ ∃ q, Reaches p acts q ∧ Reaches q acts' r := by
  induction acts generalizing p with
  | nil => simp [Reaches]
  | cons a acts ih =>
      simp only [List.cons_append, Reaches, ih]
      constructor
      · rintro ⟨next, rfl, q, first, rest⟩
        exact ⟨q, ⟨next, rfl, first⟩, rest⟩
      · rintro ⟨q, ⟨next, rfl, first⟩, rest⟩
        exact ⟨next, rfl, q, first, rest⟩

theorem yields_done {a b : α} {acts : List Act} :
    Yields (.done a) acts b ↔ acts = [] ∧ b = a := by
  cases acts with
  | nil => simp [Yields, Reaches, eq_comm]
  | cons => simp [Yields, Reaches]

theorem yields_perform {e : Effect} {next : e.Answer → Program α} {acts : List Act} {b : α} :
    Yields (.perform e next) acts b ↔
      ∃ a rest, acts = ⟨e, a⟩ :: rest ∧ Yields (next a) rest b := by
  constructor
  · intro yields
    cases acts with
    | nil => cases yields
    | cons act rest =>
        obtain ⟨effect, answer⟩ := act
        obtain ⟨next', same, reached⟩ := yields
        cases same
        exact ⟨answer, rest, rfl, reached⟩
  · rintro ⟨a, rest, rfl, reached⟩
    exact ⟨next, rfl, reached⟩

theorem yields_effect {e : Effect} {acts : List Act} {a : e.Answer} :
    Yields (effect e) acts a ↔ acts = [⟨e, a⟩] := by
  rw [effect, Interaction.ask, yields_perform]
  simp only [yields_done]
  constructor
  · rintro ⟨b, rest, rfl, rfl, rfl⟩
    rfl
  · rintro rfl
    exact ⟨a, [], rfl, rfl, rfl⟩

theorem yields_bind {p : Program α} {f : α → Program β} {acts : List Act} {b : β} :
    Yields (p >>= f) acts b ↔
      ∃ first a rest, acts = first ++ rest ∧ Yields p first a ∧ Yields (f a) rest b := by
  induction p generalizing acts with
  | done a =>
      simp only [yields_done]
      constructor
      · intro yields
        exact ⟨[], a, acts, rfl, ⟨rfl, rfl⟩, yields⟩
      · rintro ⟨first, a', rest, rfl, ⟨rfl, rfl⟩, yields⟩
        exact yields
  | perform e next ih =>
      change Yields (.perform e fun answer => next answer >>= f) acts b ↔ _
      simp only [yields_perform, ih]
      constructor
      · rintro ⟨answer, _, rfl, first, a, rest, rfl, yields, yields'⟩
        exact ⟨⟨e, answer⟩ :: first, a, rest, rfl, ⟨answer, first, rfl, yields⟩, yields'⟩
      · rintro ⟨_, a, rest, rfl, ⟨answer, first, rfl, yields⟩, yields'⟩
        exact ⟨answer, first ++ rest, rfl, first, a, rest, rfl, yields, yields'⟩

/-- Every program comes to an end, for some answers. -/
theorem exists_yields (p : Program α) : ∃ acts a, Yields p acts a := by
  induction p with
  | done a => exact ⟨[], a, yields_done.2 ⟨rfl, rfl⟩⟩
  | perform e next ih =>
      obtain ⟨answer⟩ := e.nonempty_answer
      obtain ⟨acts, a, yields⟩ := ih answer
      exact ⟨⟨e, answer⟩ :: acts, a, yields_perform.2 ⟨answer, acts, rfl, yields⟩⟩

/-- What was performed so far is a front part of what is performed in the end. -/
theorem Reaches.exists_yields {p q : Program α} {acts : List Act} (reaches : Reaches p acts q) :
    ∃ more a, Yields q more a ∧ Yields p (acts ++ more) a := by
  obtain ⟨more, a, yields⟩ := Program.exists_yields q
  exact ⟨more, a, yields, reaches_append.2 ⟨q, reaches, yields⟩⟩

end Program

namespace Tracker

/-- A tracker gives the answers of acts, as far as it is asked. -/
def Answers (t : Tracker) : List Act → Prop
  | [] => True
  | a :: acts => (∀ b, t.reply? a.effect = some b → a.answer = b) ∧ (t.after a.effect).Answers acts

theorem answers_append {t : Tracker} {acts acts' : List Act} :
    t.Answers (acts ++ acts') ↔ t.Answers acts ∧ (t.afterAll acts).Answers acts' := by
  induction acts generalizing t with
  | nil => simp [Answers, afterAll]
  | cons a acts ih => simp [Answers, afterAll, ih, and_assoc]

end Tracker

namespace Program

variable {α : Type}

/-! ### Runs -/

/-- Answers for a tracker, as it is after all that happened since. Whoever else is asked answers as
he likes, and may know all that happened. -/
def partner (t : Tracker) (outside : List Act → (e : Effect) → e.Answer) (e : Effect)
    (past : List Act) : e.Answer × List Act :=
  let answer := ((t.afterAll past).reply? e).getD (outside past e)
  (answer, past ++ [⟨e, answer⟩])

/-- Runs a program from a tracker on; gives its value and its acts. -/
def play (p : Program α) (t : Tracker) (outside : List Act → (e : Effect) → e.Answer) :
    α × List Act :=
  p.runWith (partner t outside) []

/-- A run goes on from what happened before with a trace, as the tracker answers. -/
theorem exists_trace_of_runWith (p : Program α) (t : Tracker)
    (outside : List Act → (e : Effect) → e.Answer) (past : List Act) :
    ∃ acts, (p.runWith (partner t outside) past).2 = past ++ acts ∧
      Yields p acts (p.runWith (partner t outside) past).1 ∧ (t.afterAll past).Answers acts := by
  induction p generalizing past with
  | done a => exact ⟨[], (List.append_nil past).symm, yields_done.2 ⟨rfl, rfl⟩, trivial⟩
  | perform e next ih =>
      obtain ⟨acts, same, yields, told⟩ :=
        ih (partner t outside e past).1 (partner t outside e past).2
      refine ⟨⟨e, _⟩ :: acts, ?_, yields_perform.2 ⟨_, acts, rfl, yields⟩, fun b replied => ?_, ?_⟩
      · rw [Interaction.runWith, same, partner, List.append_assoc]
        rfl
      · change ((t.afterAll past).reply? e).getD (outside past e) = b
        rw [replied, Option.getD_some]
      · rw [partner, Tracker.afterAll_concat] at told
        exact told

/-- A run is a trace. -/
theorem yields_play (p : Program α) (t : Tracker)
    (outside : List Act → (e : Effect) → e.Answer) :
    Yields p (play p t outside).2 (play p t outside).1 := by
  obtain ⟨acts, same, yields, -⟩ := exists_trace_of_runWith p t outside []
  rw [play, same]
  exact yields

/-- In a run the tracker answers. -/
theorem answers_play (p : Program α) (t : Tracker)
    (outside : List Act → (e : Effect) → e.Answer) : t.Answers (play p t outside).2 := by
  obtain ⟨acts, same, -, told⟩ := exists_trace_of_runWith p t outside []
  rw [play, same]
  exact told

end Program

/-- Acts between the taking of a lock and its release. -/
def Acts.underLock (uid : String) (inner : List Act) : List Act :=
  ⟨.acquire uid, ()⟩ :: (inner ++ [⟨.release uid, ()⟩])

/-- The lock makes no change to the tracker. -/
theorem Tracker.afterAll_underLock (t : Tracker) (uid : String) (inner : List Act) :
    t.afterAll (Acts.underLock uid inner) = t.afterAll inner := by
  change t.afterAll (inner ++ [⟨.release uid, ()⟩]) = _
  rw [afterAll_concat]
  rfl

namespace Operation

open Program

variable {α β : Type} {acts : List Act}

/-! ### Traces of operations -/

theorem yields_pure {a : α} {r : Except Failure α} :
    Yields (pure a : Operation α).run acts r ↔ acts = [] ∧ r = .ok a := yields_done

theorem yields_throw {f : Failure} {r : Except Failure α} :
    Yields (throw f : Operation α).run acts r ↔ acts = [] ∧ r = .error f := yields_done

/-- What follows an operation goes on from its value, unless it failed. -/
theorem yields_bind {o : Operation α} {f : α → Operation β} {r : Except Failure β} :
    Yields (o >>= f).run acts r ↔
      (∃ e, r = .error e ∧ Yields o.run acts (.error e)) ∨
      ∃ first a rest, acts = first ++ rest ∧ Yields o.run first (.ok a) ∧
        Yields (f a).run rest r := by
  rw [ExceptT.run_bind, Program.yields_bind]
  constructor
  · rintro ⟨first, r', rest, rfl, yields, yields'⟩
    cases r' with
    | ok a => exact .inr ⟨first, a, rest, rfl, yields, yields'⟩
    | error e =>
        obtain ⟨rfl, rfl⟩ := yields_done.1 yields'
        exact .inl ⟨e, rfl, by rwa [List.append_nil]⟩
  · rintro (⟨e, rfl, yields⟩ | ⟨first, a, rest, rfl, yields, yields'⟩)
    · exact ⟨acts, .error e, [], (List.append_nil _).symm, yields, yields_done.2 ⟨rfl, rfl⟩⟩
    · exact ⟨first, .ok a, rest, rfl, yields, yields'⟩

/-- A reply to what an operation did is not an act. -/
theorem yields_reply {o : Operation α} {f : α → β} {r : Except Failure β} :
    Yields (do return f (← o) : Operation β).run acts r ↔
      ∃ r', r = r'.map f ∧ Yields o.run acts r' := by
  rw [yields_bind]
  constructor
  · rintro (⟨e, rfl, yields⟩ | ⟨first, a, rest, rfl, yields, ended⟩)
    · exact ⟨.error e, rfl, yields⟩
    · obtain ⟨rfl, rfl⟩ := yields_pure.1 ended
      exact ⟨.ok a, rfl, by rwa [List.append_nil]⟩
  · rintro ⟨r', rfl, yields⟩
    cases r' with
    | error e => exact .inl ⟨e, rfl, yields⟩
    | ok a =>
        exact .inr ⟨acts, a, [], (List.append_nil _).symm, yields, yields_pure.2 ⟨rfl, rfl⟩⟩

theorem yields_lift {p : Program α} {r : Except Failure α} :
    Yields (ExceptT.lift p : Operation α).run acts r ↔ ∃ a, r = .ok a ∧ Yields p acts a := by
  change Yields (p >>= fun a => .done (.ok a)) acts r ↔ _
  simp only [Program.yields_bind, yields_done]
  constructor
  · rintro ⟨first, a, rest, rfl, yields, rfl, rfl⟩
    exact ⟨a, rfl, by rwa [List.append_nil]⟩
  · rintro ⟨a, rfl, yields⟩
    exact ⟨acts, a, [], (List.append_nil _).symm, yields, rfl, rfl⟩

/-- After an effect an operation goes on from the answer. -/
theorem yields_effect_bind {e : Effect} {f : e.Answer → Operation β} {r : Except Failure β} :
    Yields (Operation.effect e >>= f).run acts r ↔
      ∃ a rest, acts = ⟨e, a⟩ :: rest ∧ Yields (f a).run rest r := yields_perform

theorem yields_ofExcept_bind {e : Except Failure α} {f : α → Operation β} {r : Except Failure β} :
    Yields (Operation.ofExcept e >>= f).run acts r ↔
      (∃ f, e = .error f ∧ acts = [] ∧ r = .error f) ∨
      ∃ a, e = .ok a ∧ Yields (f a).run acts r := by
  cases e with
  | ok a =>
      change Yields (f a).run acts r ↔ _
      simp
  | error e =>
      change Yields (.done (.error e)) acts r ↔ _
      simp [yields_done]

/-- The lock is the first that is taken and the last that is given back. -/
theorem yields_locked {uid : String} {body : Operation α} {r : Except Failure α} :
    Yields (locked uid body).run acts r ↔
      ∃ inner, acts = Acts.underLock uid inner ∧ Yields body.run inner r := by
  change Yields (.perform (.acquire uid) fun _ => body.run >>= fun r => do
    Program.effect (.release uid)
    return r) acts r ↔ _
  simp only [yields_perform, Program.yields_bind]
  constructor
  · rintro ⟨_, _, rfl, inner, r', _, rfl, yields, _, _, _, rfl, released, last⟩
    obtain ⟨rfl, rfl⟩ := yields_done.1 last
    rw [yields_effect.1 released]
    exact ⟨inner, rfl, yields⟩
  · rintro ⟨inner, rfl, yields⟩
    have released : Yields (Program.effect (.release uid)) [⟨.release uid, ()⟩] () :=
      yields_effect.2 rfl
    exact ⟨(), _, rfl, inner, r, _, rfl, yields, _, (), [], rfl, released,
      yields_done.2 ⟨rfl, rfl⟩⟩

end Operation

end Podkeeper
