import Mathlib.Data.List.Induction
import Podkeeper.Lifecycle.Shared
import Podkeeper.Proofs.Locks.Table

/-!
Tasks that take turns.

Calls come in at any time, and each becomes a task that has a program to perform. Between any two
effects of one task all others may go on: a system takes one move after the other, whichever they
are, and a move that is not possible changes nothing, so that a list of moves is any interleaving.
Locks move by their own atomic steps. What files and the engine answer is part of a move, and what
was performed is kept, so that a statement about all lists of moves is one about all answers, too.

A caller may drop a task while it waits for a lock or for an answer from outside, if its service
lets it. A dropped task performs nothing more; the lock that it has or waits for is given up.
-/

namespace Podkeeper

/-! ### Effects and answers -/

/-- An effect that was performed, with its answer. -/
structure Act where
  effect : Effect
  answer : effect.Answer

namespace Effect

/-- The effect is answered by files or by the engine, not by what operations share. -/
def isOutside : Effect → Bool
  | .file _ | .run _ | .remove _ _ | .inspect _ | .logs _ _ => true
  | _ => false

/-- Whoever performs the effect may have to wait for its answer. -/
def awaits : Effect → Bool
  | .acquire _ => true
  | e => e.isOutside

theorem nonempty_answer (e : Effect) : Nonempty e.Answer := by
  cases e with
  | acquire | release => exact ⟨()⟩
  | lookup | register | forget => exact ⟨none⟩
  | file | remove => exact ⟨.ok ()⟩
  | run => exact ⟨.ok ""⟩
  | inspect => exact ⟨.ok none⟩
  | logs => exact ⟨.ok []⟩

end Effect

namespace Tracker

/-- The tracker after an effect. -/
def after (t : Tracker) : Effect → Tracker
  | .register uid entry => t.register uid entry
  | .forget uid => t.forget uid
  | _ => t

/-- The tracker after acts in order. -/
def afterAll (t : Tracker) (acts : List Act) : Tracker := acts.foldl (fun t a => t.after a.effect) t

/-- The answer to an effect that nobody outside is asked about. -/
def reply? (t : Tracker) : (e : Effect) → Option e.Answer
  | .acquire _ | .release _ => some ()
  | .lookup uid | .register uid _ | .forget uid => some (t.lookup uid)
  | .file _ | .run _ | .remove _ _ | .inspect _ | .logs _ _ => none

theorem reply?_eq_none_iff {t : Tracker} {e : Effect} : t.reply? e = none ↔ e.isOutside := by
  cases e <;> simp [reply?, Effect.isOutside]

theorem after_of_isOutside {t : Tracker} {e : Effect} (outside : e.isOutside) : t.after e = t := by
  cases e <;> first | rfl | cases outside

@[simp] theorem afterAll_append (t : Tracker) (acts acts' : List Act) :
    t.afterAll (acts ++ acts') = (t.afterAll acts).afterAll acts' := List.foldl_append

theorem afterAll_concat (t : Tracker) (acts : List Act) (a : Act) :
    t.afterAll (acts ++ [a]) = (t.afterAll acts).after a.effect := afterAll_append t acts [a]

end Tracker

namespace Interleaving

/-! ### Systems -/

/-- What calls ask for, and whether those who called may drop them. -/
structure Service (ι α : Type) where
  program : ι → Program α
  droppable : ι → Bool

/-- What is left of a task: a program, or what it waited for when it was dropped. -/
inductive Rest (α : Type) where
  | going (p : Program α)
  | dropped (e : Effect)

/-- A call with what is left of it. -/
structure Task (ι α : Type) where
  call : ι
  rest : Rest α

/-- An act of the task of a call. -/
structure Event (ι : Type) where
  task : Nat
  call : ι
  act : Act

/-- What tasks share, the tasks in the order of their calls, and all that was performed. -/
structure System (ι α : Type) where
  shared : Shared
  tasks : List (Task ι α)
  past : List (Event ι)

/-- What may happen next. -/
inductive Move (ι : Type) where
  /-- A call comes in. -/
  | call (c : ι)
  /-- An atomic step of the locks. -/
  | lock (t : Locks.Step Nat)
  /-- A task performs its next effect; what it asks outside is answered as the move says. -/
  | perform (task : Nat) (outside : (e : Effect) → e.Answer)
  /-- Nobody waits for a task any more. -/
  | drop (task : Nat)

namespace System

variable {ι α : Type}

/-- Nobody has called yet. -/
def empty : System ι α := ⟨∅, [], []⟩

instance : EmptyCollection (System ι α) := ⟨empty⟩

/-- What the task waited for when it was dropped. -/
def waitedFor? (s : System ι α) (k : Nat) : Option Effect :=
  match s.tasks[k]? with
  | some ⟨_, .dropped e⟩ => some e
  | _ => none

/-- The task was dropped. -/
def isDropped (s : System ι α) (k : Nat) : Bool := (s.waitedFor? k).isSome

/-- The task is about to take the lock of a uid. -/
def isAcquiring (s : System ι α) (k : Nat) (uid : String) : Bool :=
  match s.tasks[k]? with
  | some ⟨_, .going (.perform e _)⟩ => e = .acquire uid
  | _ => false

/-- Tasks claim the lock that they are about to take. Only dropped tasks give up a lock otherwise
than by their program. -/
def permits (s : System ι α) : Locks.Step Nat → Bool
  | .enter k uid => s.isAcquiring k uid
  | .grant _ | .leave _ => true
  | .abandon k | .unlock k => s.isDropped k

/-- The task can perform an effect: it has the lock if it takes one, and otherwise no ticket that
it has yet to hand in. -/
def isReady (s : System ι α) (k : Nat) (e : Effect) : Bool :=
  match e with
  | .acquire _ => s.shared.locks.holds k
  | _ => !(s.shared.locks.claim? k).any fun c => c.phase = .leaving

/-- What a task has left to do. -/
def setRest (s : System ι α) (k : Nat) (rest : Rest α) : System ι α :=
  { s with tasks := s.tasks.modify k fun t => { t with rest := rest } }

/-- The locks after an effect of a task. -/
def locksAfter (s : System ι α) (k : Nat) : Effect → Locks Nat
  | .release _ => s.shared.locks.unlock k
  | _ => s.shared.locks

/-- The system after an effect of a task that got an answer. -/
def performed (s : System ι α) (k : Nat) (c : ι) (e : Effect) (a : e.Answer)
    (next : e.Answer → Program α) : System ι α :=
  { s.setRest k (.going (next a)) with
    shared := ⟨s.shared.tracker.after e, s.locksAfter k e⟩
    past := s.past ++ [⟨k, c, e, a⟩] }

/-- The system after a move. -/
def step (S : Service ι α) (s : System ι α) : Move ι → System ι α
  | .call c => { s with tasks := s.tasks ++ [⟨c, .going (S.program c)⟩] }
  | .lock t =>
    if s.permits t then { s with shared := { s.shared with locks := s.shared.locks.step t } } else s
  | .perform k outside =>
    match s.tasks[k]? with
    | some ⟨c, .going (.perform e next)⟩ =>
      if s.isReady k e then
        s.performed k c e ((s.shared.tracker.reply? e).getD (outside e)) next
      else s
    | _ => s
  | .drop k =>
    match s.tasks[k]? with
    | some ⟨c, .going (.perform e _)⟩ =>
      if S.droppable c && e.awaits then s.setRest k (.dropped e) else s
    | _ => s

/-- The system after moves in order, from the beginning. -/
def run (S : Service ι α) (moves : List (Move ι)) : System ι α := moves.foldl (step S) ∅

/-! ### What was performed -/

/-- The acts of all tasks, in order. -/
def acts (s : System ι α) : List Act := s.past.map (·.act)

/-- The events of a task, in order. -/
def eventsOf (s : System ι α) (k : Nat) : List (Event ι) := s.past.filter fun ev => ev.task = k

/-- The acts of a task, in order. -/
def block (s : System ι α) (k : Nat) : List Act := (s.eventsOf k).map (·.act)

/-- The call of a task. -/
def call? (s : System ι α) (k : Nat) : Option ι := s.tasks[k]?.map (·.call)

/-- The result of a task that has ended: nothing is left to do, and its ticket is handed in. -/
def result? (s : System ι α) (k : Nat) : Option α :=
  match s.tasks[k]? with
  | some ⟨_, .going (.done a)⟩ => if (s.shared.locks.claim? k).isNone then some a else none
  | _ => none

/-- The task has ended, or it was dropped. -/
def isOver (s : System ι α) (k : Nat) : Bool := (s.result? k).isSome || s.isDropped k

/-! ### What a move changes -/

theorem isAcquiring_iff {s : System ι α} {k : Nat} {uid : String} :
    s.isAcquiring k uid ↔
      ∃ c next, s.tasks[k]? = some ⟨c, .going (.perform (.acquire uid) next)⟩ := by
  unfold isAcquiring
  constructor
  · intro acquiring
    split at acquiring
    · rename_i c e next task
      cases of_decide_eq_true acquiring
      exact ⟨c, next, task⟩
    · cases acquiring
  · rintro ⟨c, next, task⟩
    simp [task]

variable {S : Service ι α} {s s' : System ι α}

/-- All that a move can do, with what it takes. -/
inductive Change (S : Service ι α) (s : System ι α) : System ι α → Prop where
  | idle : Change S s s
  | call (c : ι) : Change S s { s with tasks := s.tasks ++ [⟨c, .going (S.program c)⟩] }
  | lock (t : Locks.Step Nat) (permitted : s.permits t) :
      Change S s { s with shared := { s.shared with locks := s.shared.locks.step t } }
  | perform (k : Nat) (c : ι) (e : Effect) (next : e.Answer → Program α) (a : e.Answer)
      (found : s.tasks[k]? = some ⟨c, .going (.perform e next)⟩) (ready : s.isReady k e)
      (answered : ∀ b, s.shared.tracker.reply? e = some b → a = b) :
      Change S s (s.performed k c e a next)
  | drop (k : Nat) (c : ι) (e : Effect) (next : e.Answer → Program α)
      (found : s.tasks[k]? = some ⟨c, .going (.perform e next)⟩) (droppable : S.droppable c)
      (waits : e.awaits) : Change S s (s.setRest k (.dropped e))

theorem step_change (s : System ι α) (m : Move ι) : Change S s (s.step S m) := by
  cases m with
  | call c => exact .call c
  | lock t =>
      simp only [step]
      split
      · exact .lock t ‹_›
      · exact .idle
  | perform k outside =>
      simp only [step]
      split
      · rename_i c e next found
        split
        · refine .perform k c e next _ found ‹_› fun b replied => ?_
          rw [replied, Option.getD_some]
        · exact .idle
      · exact .idle
  | drop k =>
      simp only [step]
      split
      · rename_i c e next found
        split
        · rename_i may
          obtain ⟨droppable, waits⟩ := Bool.and_eq_true_iff.1 may
          exact .drop k c e next found droppable waits
        · exact .idle
      · exact .idle

/-- What holds at the beginning and is kept by all that a move can do holds after all moves. -/
theorem run_induction {P : System ι α → Prop} (start : P ∅)
    (change : ∀ s s', P s → Change S s s' → P s') (moves : List (Move ι)) : P (run S moves) := by
  induction moves using List.reverseRecOn with
  | nil => exact start
  | append_singleton moves m ih =>
      rw [run, List.foldl_concat]
      exact change _ _ ih (step_change _ m)

/-- Nothing that was performed is taken back. -/
theorem Change.past_prefix (h : Change S s s') : s.past <+: s'.past := by
  cases h with
  | perform => exact List.prefix_append _ _
  | _ => exact List.prefix_rfl

/-! ### Tasks and their acts -/

theorem getElem?_setRest {k : Nat} {c : ι} {r : Rest α}
    (found : s.tasks[k]? = some ⟨c, r⟩) (rest : Rest α) (j : Nat) :
    (s.setRest k rest).tasks[j]? = if j = k then some ⟨c, rest⟩ else s.tasks[j]? := by
  rw [setRest, List.getElem?_modify]
  by_cases same : j = k
  · subst same
    simp [found]
  · simp [same, Ne.symm same]

theorem getElem?_performed {k : Nat} {c : ι} {r : Rest α}
    (found : s.tasks[k]? = some ⟨c, r⟩) {e : Effect} (a : e.Answer)
    (next : e.Answer → Program α) (j : Nat) :
    (s.performed k c e a next).tasks[j]? =
      if j = k then some ⟨c, .going (next a)⟩ else s.tasks[j]? :=
  getElem?_setRest found _ j

theorem call?_setRest {k : Nat} {c : ι} {r : Rest α}
    (found : s.tasks[k]? = some ⟨c, r⟩) (rest : Rest α) (j : Nat) :
    (s.setRest k rest).call? j = s.call? j := by
  rw [call?, getElem?_setRest found]
  split
  · rename_i same
    rw [same, call?, found]
    rfl
  · rfl

theorem call?_performed {k : Nat} {c : ι} {r : Rest α}
    (found : s.tasks[k]? = some ⟨c, r⟩) {e : Effect} (a : e.Answer)
    (next : e.Answer → Program α) (j : Nat) :
    (s.performed k c e a next).call? j = s.call? j :=
  call?_setRest found _ j

theorem getElem?_called (s : System ι α) (t : Task ι α) (j : Nat) :
    (s.tasks ++ [t])[j]? = if j = s.tasks.length then some t else s.tasks[j]? := by
  rcases Nat.lt_trichotomy j s.tasks.length with below | same | above
  · rw [List.getElem?_append_left below, if_neg (Nat.ne_of_lt below)]
  · simp [same]
  · rw [if_neg (Nat.ne_of_gt above), List.getElem?_eq_none (Nat.le_of_lt above),
      List.getElem?_eq_none (by simpa using Nat.succ_le_of_lt above)]

theorem acts_performed {k : Nat} {c : ι} {e : Effect} (a : e.Answer)
    (next : e.Answer → Program α) : (s.performed k c e a next).acts = s.acts ++ [⟨e, a⟩] := by
  simp [acts, performed]

theorem eventsOf_performed {k : Nat} {c : ι} {e : Effect} (a : e.Answer)
    (next : e.Answer → Program α) (j : Nat) :
    (s.performed k c e a next).eventsOf j =
      if j = k then s.eventsOf k ++ [⟨k, c, e, a⟩] else s.eventsOf j := by
  by_cases same : j = k
  · subst same
    simp [eventsOf, performed]
  · simp [eventsOf, performed, same, Ne.symm same]

theorem block_performed {k : Nat} {c : ι} {e : Effect} (a : e.Answer)
    (next : e.Answer → Program α) (j : Nat) :
    (s.performed k c e a next).block j =
      if j = k then s.block k ++ [⟨e, a⟩] else s.block j := by
  rw [block, eventsOf_performed]
  split
  · rw [List.map_append]
    rfl
  · rfl

theorem mem_block {k : Nat} {a : Act} : a ∈ s.block k ↔ ∃ c, ⟨k, c, a⟩ ∈ s.past := by
  constructor
  · intro member
    obtain ⟨⟨j, c, _⟩, event, rfl⟩ := List.mem_map.1 member
    obtain ⟨event, task⟩ := List.mem_filter.1 event
    have same : j = k := of_decide_eq_true task
    exact ⟨c, same ▸ event⟩
  · rintro ⟨c, event⟩
    exact List.mem_map.2 ⟨_, List.mem_filter.2 ⟨event, decide_eq_true rfl⟩, rfl⟩

theorem result?_eq_some {k : Nat} {r : α} (result : s.result? k = some r) :
    ∃ c, s.tasks[k]? = some ⟨c, .going (.done r)⟩ := by
  unfold result? at result
  split at result
  · rename_i c a task
    split at result
    · cases Option.some.inj result
      exact ⟨c, task⟩
    · cases result
  · cases result

theorem waitedFor?_eq_some {k : Nat} {e : Effect} :
    s.waitedFor? k = some e ↔ ∃ c, s.tasks[k]? = some ⟨c, .dropped e⟩ := by
  unfold waitedFor?
  constructor
  · intro dropped
    split at dropped
    · rename_i c e' task
      cases dropped
      exact ⟨c, task⟩
    · cases dropped
  · rintro ⟨c, task⟩
    simp [task]

theorem isDropped_iff {k : Nat} :
    s.isDropped k ↔ ∃ c e, s.tasks[k]? = some ⟨c, .dropped e⟩ := by
  rw [isDropped, Option.isSome_iff_exists]
  constructor
  · rintro ⟨e, dropped⟩
    obtain ⟨c, task⟩ := waitedFor?_eq_some.1 dropped
    exact ⟨c, e, task⟩
  · rintro ⟨c, e, task⟩
    exact ⟨e, waitedFor?_eq_some.2 ⟨c, task⟩⟩

/-! ### What every system keeps -/

/-- What was performed, the tasks, the tracker and the locks fit together. -/
structure Coherent (s : System ι α) : Prop where
  calls : ∀ ev ∈ s.past, s.call? ev.task = some ev.call
  tracker : s.shared.tracker = Tracker.afterAll ∅ s.acts
  locks : s.shared.locks.Consistent

namespace Coherent

theorem empty : Coherent (∅ : System ι α) where
  calls _ member := absurd member List.not_mem_nil
  tracker := rfl
  locks := .empty

/-- A call keeps its task. -/
theorem call?_of_change (h : Change S s s') {k : Nat} {c : ι} (call : s.call? k = some c) :
    s'.call? k = some c := by
  cases h with
  | idle => exact call
  | call d =>
      obtain ⟨t, task, -⟩ := Option.map_eq_some_iff.1 call
      have present : k < s.tasks.length := (List.getElem?_eq_some_iff.1 task).1
      rw [System.call?, getElem?_called, if_neg (Nat.ne_of_lt present)]
      exact call
  | lock => exact call
  | perform j d e next a found => exact (call?_performed found a next k).trans call
  | drop j d e next found => exact (call?_setRest found _ k).trans call

theorem change (h : Coherent s) (move : Change S s s') : Coherent s' where
  calls ev member := by
    refine call?_of_change move ?_
    cases move with
    | perform k c e next a found =>
        rcases List.mem_append.1 member with old | new
        · exact h.calls ev old
        · rw [List.mem_singleton.1 new, System.call?, found]
          rfl
    | _ => exact h.calls ev member
  tracker := by
    cases move with
    | perform k c e next a found =>
        rw [acts_performed, Tracker.afterAll_concat, ← h.tracker]
        rfl
    | _ => exact h.tracker
  locks := by
    cases move with
    | lock t => exact h.locks.step t
    | perform k c e next a found =>
        cases e with
        | release uid => exact h.locks.unlock k
        | _ => exact h.locks
    | _ => exact h.locks

theorem run (moves : List (Move ι)) : Coherent (run S moves) :=
  run_induction .empty (fun _ _ h move => h.change move) moves

/-- A task that is not there yet has performed nothing. -/
theorem block_eq_nil (h : Coherent s) {k : Nat} (absent : s.tasks[k]? = none) : s.block k = [] := by
  refine List.map_eq_nil_iff.2 (List.filter_eq_nil_iff.2 fun ev member task => ?_)
  have call := h.calls ev member
  rw [of_decide_eq_true task, System.call?, absent] at call
  cases call

end Coherent

/-- How a task that goes on after a move came to what it has left: it was at that point before, or
its call came in just now, or it performed an effect. -/
theorem Change.left (h : Change S s s') (coherent : Coherent s) {k : Nat} {c : ι} {p : Program α}
    (task : s'.tasks[k]? = some ⟨c, .going p⟩) :
    (s.tasks[k]? = some ⟨c, .going p⟩ ∧ s'.block k = s.block k) ∨
      (p = S.program c ∧ s'.block k = []) ∨
      ∃ e next a, s.tasks[k]? = some ⟨c, .going (.perform e next)⟩ ∧ p = next a ∧
        s'.block k = s.block k ++ [⟨e, a⟩] ∧ ⟨k, c, e, a⟩ ∈ s'.past := by
  cases h with
  | idle => exact .inl ⟨task, rfl⟩
  | call d =>
      rw [getElem?_called] at task
      split at task
      · rename_i last
        cases Option.some.inj task
        exact .inr (.inl ⟨rfl, coherent.block_eq_nil (by simp [last])⟩)
      · exact .inl ⟨task, rfl⟩
  | lock => exact .inl ⟨task, rfl⟩
  | perform j d e next a found =>
      rw [getElem?_performed found] at task
      rw [block_performed]
      split at task
      · rename_i same
        subst same
        cases Option.some.inj task
        refine .inr (.inr ⟨e, next, a, found, rfl, if_pos rfl, ?_⟩)
        exact List.mem_append_right _ (List.mem_singleton_self _)
      · exact .inl ⟨task, by rw [if_neg ‹_›]⟩
  | drop j d e next found =>
      rw [getElem?_setRest found] at task
      split at task
      · cases Option.some.inj task
      · exact .inl ⟨task, rfl⟩

end System

end Interleaving

end Podkeeper
