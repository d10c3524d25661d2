import Podkeeper.Proofs.Interleaving.Turns

/-!
One call after the other.

The acts of all calls on a uid, in whatever order tasks took their turns, are blocks, one for each
call that took the lock of the uid, in the order in which they took it. A block is what the call
does when it runs alone from the entry that the blocks before left, with the answers that it got
from outside: nothing else in the history of other calls reaches it. A call that was dropped leaves
the block at the answer that nobody waited for.
-/

namespace Podkeeper

/-! ### Entries -/

namespace Tracker

variable {t t' : Tracker} {e : Effect} {uid : String}

/-- Answers about one entry depend on that entry only. -/
theorem reply?_congr (own : ∀ u, e.entry? = some u → u = uid)
    (same : t.lookup uid = t'.lookup uid) : t.reply? e = t'.reply? e := by
  cases e with
  | lookup u | register u _ | forget u =>
      cases own u rfl
      simp [reply?, same]
  | _ => rfl

theorem lookup_after_congr (same : t.lookup uid = t'.lookup uid) :
    (t.after e).lookup uid = (t'.after e).lookup uid := by
  cases e with
  | register u entry => simp only [after, lookup_register, same]
  | forget u => simp only [after, lookup_forget, same]
  | _ => exact same

/-- An entry after acts is the same without those that do not write it. -/
theorem lookup_afterAll_filter {ι : Type} {events : List (Interleaving.Event ι)}
    {keep : Interleaving.Event ι → Bool}
    (kept : ∀ ev ∈ events, ev.act.effect.writes? = some uid → keep ev)
    (same : t.lookup uid = t'.lookup uid) :
    (t.afterAll (events.map (·.act))).lookup uid =
      (t'.afterAll ((events.filter keep).map (·.act))).lookup uid := by
  induction events generalizing t t' with
  | nil => exact same
  | cons ev events ih =>
      obtain ⟨first, rest⟩ := List.forall_mem_cons.1 kept
      by_cases kept_first : keep ev
      · rw [List.filter_cons_of_pos kept_first]
        exact ih rest (lookup_after_congr same)
      · rw [List.filter_cons_of_neg kept_first]
        refine ih rest ?_
        rw [lookup_after_of_ne fun writes => kept_first (first writes)]
        exact same

end Tracker

/-! ### Calls that run alone -/

namespace Act

/-- The answer of an act, if it is one to this effect. -/
def answerTo? (a : Act) (e : Effect) : Option e.Answer :=
  if same : a.effect = e then some (same ▸ a.answer) else none

@[simp] theorem answerTo?_self (e : Effect) (a : e.Answer) : answerTo? ⟨e, a⟩ e = some a := by
  simp [answerTo?]

end Act

namespace Interleaving

variable {ι α : Type}

/-- The acts that were answered from outside. -/
def outside (acts : List Act) : List Act := acts.filter fun a => a.effect.isOutside

/-- What came of a program that ran alone: its acts, the tracker after them, and what is left. -/
structure Solo (α : Type) where
  acts : List Act
  tracker : Tracker
  rest : Program α

/-- What came of it, after acts that it performed before. -/
def Solo.prepend (acts : List Act) (s : Solo α) : Solo α := { s with acts := acts ++ s.acts }

theorem Solo.prepend_prepend (acts acts' : List Act) (s : Solo α) :
    (s.prepend acts').prepend acts = s.prepend (acts ++ acts') := by
  simp [prepend]

/-- Runs a program alone. Locks are free and the tracker answers at once; what is asked outside is
answered in turn, until there is no answer to what is asked. -/
def alone : Program α → Tracker → List Act → Solo α
  | .done a, t, _ => ⟨[], t, .done a⟩
  | .perform e next, t, answers =>
    match t.reply? e with
    | some a => (alone (next a) (t.after e) answers).prepend [⟨e, a⟩]
    | none =>
      match answers.head?.bind (·.answerTo? e) with
      | some a => (alone (next a) t answers.tail).prepend [⟨e, a⟩]
      | none => ⟨[], t, .perform e next⟩

/-- Calls one after the other, each alone from the tracker that those before left, with the answers
from outside that come with it; and the tracker after them. -/
def inTurn (S : Service ι α) (t : Tracker) : List (ι × List Act) → List (Solo α) × Tracker
  | [] => ([], t)
  | (c, answers) :: calls =>
    let solo := alone (S.program c) t answers
    let (solos, t') := inTurn S solo.tracker calls
    (solo :: solos, t')

theorem alone_of_reply {e : Effect} {next : e.Answer → Program α} {t : Tracker} {a : e.Answer}
    (reply : t.reply? e = some a) (answers : List Act) :
    alone (.perform e next) t answers = (alone (next a) (t.after e) answers).prepend [⟨e, a⟩] := by
  simp [alone, reply]

theorem alone_of_answer {e : Effect} (asked : e.isOutside) (next : e.Answer → Program α)
    (t : Tracker) (a : e.Answer) (answers : List Act) :
    alone (.perform e next) t (⟨e, a⟩ :: answers) =
      (alone (next a) t answers).prepend [⟨e, a⟩] := by
  simp [alone, Tracker.reply?_eq_none_iff.2 asked]

/-- Alone, a program waits where it gets no answer. -/
theorem alone_of_isOutside {e : Effect} (asked : e.isOutside) (next : e.Answer → Program α)
    (t : Tracker) : alone (.perform e next) t [] = ⟨[], t, .perform e next⟩ := by
  simp [alone, Tracker.reply?_eq_none_iff.2 asked]

/-- A program that performed acts has come to another: alone, it does the same with the same
answers. -/
def Follows (p : Program α) (t : Tracker) (acts : List Act) (q : Program α) : Prop :=
  ∀ more, alone p t (outside acts ++ more) = (alone q (t.afterAll acts) more).prepend acts

theorem Follows.nil (p : Program α) (t : Tracker) : Follows p t [] p := fun _ => rfl

/-- An act more, answered by the tracker if the tracker is asked. -/
theorem Follows.concat {p : Program α} {t : Tracker} {acts : List Act} {e : Effect}
    {next : e.Answer → Program α} {a : e.Answer} (h : Follows p t acts (.perform e next))
    (answered : ∀ b, (t.afterAll acts).reply? e = some b → a = b) :
    Follows p t (acts ++ [⟨e, a⟩]) (next a) := by
  intro more
  rw [Tracker.afterAll_concat, outside, List.filter_append, List.append_assoc,
    ← Solo.prepend_prepend]
  cases reply : (t.afterAll acts).reply? e with
  | some b =>
      cases answered b reply
      have inside : ¬e.isOutside := fun asked => by
        simp [Tracker.reply?_eq_none_iff.2 asked] at reply
      rw [List.filter_cons_of_neg (by simpa using inside), ← alone_of_reply reply]
      exact h more
  | none =>
      have asked := Tracker.reply?_eq_none_iff.1 reply
      rw [List.filter_cons_of_pos (by simpa using asked), Tracker.after_of_isOutside asked,
        ← alone_of_answer asked]
      exact h (⟨e, a⟩ :: more)

namespace System

variable {purpose : ι → Purpose} {succeeded : α → Prop} {S : Service ι α} {s s' : System ι α}
  {uid : String}

/-! ### The order of calls -/

/-- The tasks that took the lock of a uid, in the order in which they did. -/
def order (s : System ι α) (uid : String) : List Nat :=
  (s.past.filter fun ev => ev.act.effect = .acquire uid).map (·.task)

/-- What the calls on a uid performed, in order. -/
def eventsOn (purpose : ι → Purpose) (s : System ι α) (uid : String) : List (Event ι) :=
  s.past.filter fun ev => (purpose ev.call).uid? = some uid

theorem order_performed {k : Nat} {c : ι} {e : Effect} (a : e.Answer)
    (next : e.Answer → Program α) (uid : String) :
    (s.performed k c e a next).order uid =
      if e = .acquire uid then s.order uid ++ [k] else s.order uid := by
  by_cases taking : e = .acquire uid
  · simp [order, performed, taking]
  · simp [order, performed, taking]

theorem eventsOn_performed {k : Nat} {c : ι} {e : Effect} (a : e.Answer)
    (next : e.Answer → Program α) (uid : String) :
    (s.performed k c e a next).eventsOn purpose uid =
      if (purpose c).uid? = some uid then s.eventsOn purpose uid ++ [⟨k, c, e, a⟩]
      else s.eventsOn purpose uid := by
  by_cases own : (purpose c).uid? = some uid
  · simp [eventsOn, performed, own]
  · simp [eventsOn, performed, own]

/-- Whoever took a lock performed something. -/
theorem block_ne_nil_of_mem_order {k : Nat} (member : k ∈ s.order uid) : s.block k ≠ [] := by
  obtain ⟨ev, event, rfl⟩ := List.mem_map.1 member
  exact List.ne_nil_of_mem (mem_block.2 ⟨ev.call, List.mem_of_mem_filter event⟩)

/-! ### Tasks that are served in turn -/

/-- A task did what its call does alone from a tracker on. A dropped one did so up to the answer
from outside that it waited for. -/
def Served (S : Service ι α) (s : System ι α) (t : Tracker) (k : Nat) : Prop :=
  ∃ c p, Follows (S.program c) t (s.block k) p ∧
    (s.tasks[k]? = some ⟨c, .going p⟩ ∨
      ∃ e, s.tasks[k]? = some ⟨c, .dropped e⟩ ∧ e.isOutside ∧ ∃ next, p = .perform e next)

/-- Tasks were served one after the other from a tracker on. -/
def ServedInTurn (S : Service ι α) (s : System ι α) : Tracker → List Nat → Prop
  | _, [] => True
  | t, k :: ks => Served S s t k ∧ ServedInTurn S s (t.afterAll (s.block k)) ks

theorem servedInTurn_append {t : Tracker} {ks ks' : List Nat} :
    ServedInTurn S s t (ks ++ ks') ↔
      ServedInTurn S s t ks ∧ ServedInTurn S s (t.afterAll (ks.flatMap s.block)) ks' := by
  induction ks generalizing t with
  | nil => simp [ServedInTurn, Tracker.afterAll]
  | cons k ks ih => simp [ServedInTurn, ih, and_assoc]

theorem ServedInTurn.imp {t : Tracker} {ks : List Nat} (h : ServedInTurn S s t ks)
    (blocks : ∀ k ∈ ks, s'.block k = s.block k)
    (served : ∀ k ∈ ks, ∀ t, Served S s t k → Served S s' t k) : ServedInTurn S s' t ks := by
  induction ks generalizing t with
  | nil => trivial
  | cons k ks ih =>
      obtain ⟨block, blocks⟩ := List.forall_mem_cons.1 blocks
      obtain ⟨first, served⟩ := List.forall_mem_cons.1 served
      refine ⟨first t h.1, ?_⟩
      rw [block]
      exact ih h.2 blocks served

/-- An act of a task more, answered as if the task were alone. -/
theorem Served.performed {t : Tracker} {k : Nat} {c : ι} {e : Effect} {next : e.Answer → Program α}
    (h : Served S s t k) (task : s.tasks[k]? = some ⟨c, .going (.perform e next)⟩) {a : e.Answer}
    (answered : ∀ b, (t.afterAll (s.block k)).reply? e = some b → a = b) :
    Served S (s.performed k c e a next) t k := by
  obtain ⟨c', p, follows, left | ⟨e', dropped, -⟩⟩ := h
  · cases Option.some.inj (task.symm.trans left)
    refine ⟨c, next a, ?_, .inl ?_⟩
    · rw [block_performed, if_pos rfl]
      exact follows.concat answered
    · rw [getElem?_performed task, if_pos rfl]
  · cases Option.some.inj (task.symm.trans dropped)

/-! ### Every step keeps the turns -/

/-- The calls on a uid took turns: what they performed are blocks, one after the other, in the
order in which they took the lock. -/
structure TurnsOn (S : Service ι α) (purpose : ι → Purpose) (s : System ι α) (uid : String) :
    Prop where
  own : ∀ k ∈ s.order uid, ∃ c, s.call? k = some c ∧ (purpose c).uid? = some uid
  once : (s.order uid).Nodup
  blocks : s.eventsOn purpose uid = (s.order uid).flatMap s.eventsOf
  /-- Whoever has work open took the lock last. -/
  last : ∀ k, OpenOn purpose s k uid → (s.order uid).getLast? = some k
  served : ServedInTurn S s ∅ (s.order uid)

namespace TurnsOn

/-- A move that performs nothing ends no turn. -/
theorem of_past_eq (h : TurnsOn S purpose s uid) (past : s'.past = s.past)
    (calls : ∀ k c, s.call? k = some c → s'.call? k = some c)
    (opens : ∀ k, OpenOn purpose s' k uid → OpenOn purpose s k uid)
    (served : ∀ k ∈ s.order uid, ∀ t, Served S s t k → Served S s' t k) :
    TurnsOn S purpose s' uid := by
  have order_eq : s'.order uid = s.order uid := by rw [order, past, order]
  have eventsOf_eq : s'.eventsOf = s.eventsOf := by
    funext k
    rw [eventsOf, past, eventsOf]
  refine ⟨fun k member => ?_, order_eq ▸ h.once, ?_, fun k working => ?_, ?_⟩
  · obtain ⟨c, call, own⟩ := h.own k (order_eq ▸ member)
    exact ⟨c, calls k c call, own⟩
  · rw [order_eq, eventsOf_eq, ← h.blocks, eventsOn, past, eventsOn]
  · rw [order_eq]
    exact h.last k (opens k working)
  · rw [order_eq]
    refine h.served.imp (fun k _ => ?_) served
    rw [block, eventsOf_eq, block]

/-- The entry of a uid is what the blocks of its calls left. -/
theorem entry_eq (h : TurnsOn S purpose s uid) (orderly : Orderly purpose succeeded s) :
    s.shared.tracker.lookup uid =
      (Tracker.afterAll ∅ ((s.order uid).flatMap s.block)).lookup uid := by
  have blocks : (s.eventsOn purpose uid).map (·.act) = (s.order uid).flatMap s.block := by
    rw [h.blocks, List.map_flatMap]
    rfl
  rw [orderly.tracker, ← blocks]
  refine Tracker.lookup_afterAll_filter (fun ev member writes => ?_) rfl
  simpa using orderly.writes ev member uid writes

variable {k : Nat} {c : ι} {e : Effect} {next : e.Answer → Program α} {a : e.Answer}

/-- A task that performs an act leaves the blocks of all others as they are. -/
theorem others_performed {ks : List Nat} {t : Tracker} (absent : k ∉ ks)
    (task : s.tasks[k]? = some ⟨c, .going (.perform e next)⟩) (served : ServedInTurn S s t ks) :
    ks.flatMap (s.performed k c e a next).eventsOf = ks.flatMap s.eventsOf ∧
      ks.flatMap (s.performed k c e a next).block = ks.flatMap s.block ∧
      ServedInTurn S (s.performed k c e a next) t ks := by
  have other : ∀ j ∈ ks, j ≠ k := fun j member same => absent (same ▸ member)
  have blocks : ∀ j ∈ ks, (s.performed k c e a next).block j = s.block j := fun j member => by
    rw [block_performed, if_neg (other j member)]
  refine ⟨List.flatMap_congr fun j member => ?_, List.flatMap_congr blocks, served.imp blocks ?_⟩
  · rw [eventsOf_performed, if_neg (other j member)]
  · rintro j member t ⟨d, p, follows, rest⟩
    refine ⟨d, p, ?_, ?_⟩
    · rw [blocks j member]
      exact follows
    · rw [getElem?_performed task, if_neg (other j member)]
      exact rest

/-- An act for another uid. -/
theorem performed_other (h : TurnsOn S purpose s uid) (orderly : Orderly purpose succeeded s)
    (task : s.tasks[k]? = some ⟨c, .going (.perform e next)⟩)
    (other : (purpose c).uid? ≠ some uid) : TurnsOn S purpose (s.performed k c e a next) uid := by
  have absent : k ∉ s.order uid := fun member => by
    obtain ⟨d, call, own⟩ := h.own k member
    rw [System.call?, task] at call
    cases call
    exact other own
  have order_eq : (s.performed k c e a next).order uid = s.order uid := by
    rw [order_performed, if_neg]
    rintro rfl
    exact other (Purpose.acquire_allowed (orderly.allowed task)).2
  obtain ⟨events, -, served⟩ := others_performed (a := a) absent task h.served
  refine ⟨fun j member => ?_, order_eq ▸ h.once, ?_, fun j working => ?_, order_eq ▸ served⟩
  · rw [call?_performed task]
    exact h.own j (order_eq ▸ member)
  · rw [eventsOn_performed, if_neg other, order_eq, events, h.blocks]
  · obtain ⟨d, working, own⟩ := working
    rcases (working_performed task).1 working with ⟨-, rfl, -⟩ | ⟨-, before⟩
    · exact absurd own other
    · rw [order_eq]
      exact h.last j ⟨d, before, own⟩

/-- A call takes the lock: its block begins. -/
theorem performed_acquire {next : Unit → Program α} (h : TurnsOn S purpose s uid)
    (orderly : Orderly purpose succeeded s)
    (task : s.tasks[k]? = some ⟨c, .going (.perform (.acquire uid) next)⟩)
    (fresh : .perform (.acquire uid) next = S.program c)
    (ready : s.isReady k (.acquire uid)) :
    TurnsOn S purpose (s.performed k c (.acquire uid) () next) uid := by
  obtain ⟨first, own⟩ := Purpose.acquire_allowed (orderly.allowed task)
  have absent : k ∉ s.order uid := fun member => block_ne_nil_of_mem_order member first
  have order_eq : (s.performed k c (.acquire uid) () next).order uid = s.order uid ++ [k] := by
    rw [order_performed, if_pos rfl]
  obtain ⟨events, blocks, served⟩ := others_performed (a := ()) absent task h.served
  refine ⟨fun j member => ?_, ?_, ?_, fun j working => ?_, ?_⟩
  · rw [call?_performed task]
    rw [order_eq] at member
    rcases List.mem_append.1 member with old | new
    · exact h.own j old
    · rw [List.mem_singleton.1 new, System.call?, task]
      exact ⟨c, rfl, own⟩
  · rw [order_eq]
    exact List.nodup_append.2 ⟨h.once, List.nodup_singleton k, fun i old j new same =>
      absent (List.mem_singleton.1 new ▸ same ▸ old)⟩
  · rw [eventsOn_performed, if_pos own, order_eq, List.flatMap_append, events, h.blocks,
      List.flatMap_singleton, eventsOf_performed, if_pos rfl, List.map_eq_nil_iff.1 first]
    rfl
  · rw [order_eq, List.getLast?_concat]
    obtain ⟨d, working, own⟩ := working
    rcases (working_performed task).1 working with ⟨same, -⟩ | ⟨-, before⟩
    · rw [same]
    · exact absurd ⟨d, before, own⟩ (orderly.none_open_of_ready task ready)
  · rw [order_eq]
    refine servedInTurn_append.2 ⟨served, Served.performed ⟨c, _, ?_, .inl task⟩ task ?_, trivial⟩
    · rw [first, ← fresh]
      exact .nil _ _
    · exact fun _ _ => rfl

/-- A call goes on with its block, which is the last. -/
theorem performed_inside (h : TurnsOn S purpose s uid) (orderly : Orderly purpose succeeded s)
    (task : s.tasks[k]? = some ⟨c, .going (.perform e next)⟩)
    (own : (purpose c).uid? = some uid) (other : ∀ u, e ≠ .acquire u)
    (answered : ∀ b, s.shared.tracker.reply? e = some b → a = b) :
    TurnsOn S purpose (s.performed k c e a next) uid := by
  have working : OpenOn purpose s k uid := ⟨c, orderly.working task own other, own⟩
  obtain ⟨before, last⟩ := List.getLast?_eq_some_iff.1 (h.last k working)
  have order_eq : (s.performed k c e a next).order uid = s.order uid := by
    rw [order_performed, if_neg (other uid)]
  have absent : k ∉ before := fun member => by
    have once := h.once
    rw [last] at once
    exact (List.nodup_append.1 once).2.2 k member k (List.mem_singleton_self k) rfl
  have in_turn := h.served
  rw [last, servedInTurn_append] at in_turn
  obtain ⟨events, blocks, served⟩ := others_performed (a := a) absent task in_turn.1
  refine ⟨fun j member => ?_, order_eq ▸ h.once, ?_, fun j opened => ?_, ?_⟩
  · rw [call?_performed task]
    exact h.own j (order_eq ▸ member)
  · rw [eventsOn_performed, if_pos own, h.blocks, order_eq, last, List.flatMap_append,
      List.flatMap_append, events, List.flatMap_singleton, List.flatMap_singleton,
      eventsOf_performed, if_pos rfl, List.append_assoc]
  · rw [order_eq]
    obtain ⟨d, opened, own⟩ := opened
    rcases (working_performed task).1 opened with ⟨rfl, -⟩ | ⟨-, before⟩
    · exact h.last j working
    · exact h.last j ⟨d, before, own⟩
  · rw [order_eq, last]
    refine servedInTurn_append.2 ⟨served, ?_, trivial⟩
    rw [blocks]
    refine in_turn.2.1.performed task fun b reply => answered b (reply ▸ ?_)
    -- The entry that the task sees is the one that its predecessors and it itself left.
    refine Tracker.reply?_congr (fun u => Purpose.entry_allowed own (orderly.allowed task)) ?_
    rw [h.entry_eq orderly, last, List.flatMap_append, List.flatMap_singleton,
      Tracker.afterAll_append]

end TurnsOn

/-- The calls on every uid take turns. -/
structure Turns (S : Service ι α) (purpose : ι → Purpose) (succeeded : α → Prop)
    (s : System ι α) : Prop extends Orderly purpose succeeded s where
  fresh : ∀ k c p, s.tasks[k]? = some ⟨c, .going p⟩ → s.block k = [] → p = S.program c
  turns : ∀ uid, TurnsOn S purpose s uid

namespace Turns

theorem empty : Turns S purpose succeeded (∅ : System ι α) where
  toOrderly := .empty
  fresh _ _ _ task := by cases task
  turns uid :=
    { own := fun _ member => absurd member List.not_mem_nil
      once := List.nodup_nil
      blocks := rfl
      last := fun k working => by
        obtain ⟨c, ⟨p, task, -⟩, -⟩ := working
        cases task
      served := trivial }

theorem change (service : S.Conducted purpose succeeded) (h : Turns S purpose succeeded s)
    (move : Change S s s') : Turns S purpose succeeded s' where
  toOrderly := h.toOrderly.change service move
  fresh k c p task nothing := by
    rcases move.left h.toCoherent task with ⟨before, block⟩ | ⟨rfl, -⟩ | acted
    · exact h.fresh k c p before (block ▸ nothing)
    · rfl
    · obtain ⟨e, next, a, -, -, block, -⟩ := acted
      rw [block] at nothing
      simp at nothing
  turns uid := by
    have calls : ∀ k c, s.call? k = some c → s'.call? k = some c :=
      fun k c => Coherent.call?_of_change move
    cases move with
    | idle => exact h.turns uid
    | call d =>
        refine (h.turns uid).of_past_eq rfl calls
          (fun k ⟨c, working, own⟩ => ⟨c, h.working_called working, own⟩) ?_
        rintro k member t ⟨c, p, follows, rest⟩
        have present : k ≠ s.tasks.length := fun last =>
          block_ne_nil_of_mem_order member (h.block_eq_nil (by simp [last]))
        refine ⟨c, p, follows, ?_⟩
        rw [getElem?_called, if_neg present]
        exact rest
    | lock => exact (h.turns uid).of_past_eq rfl calls (fun _ => id) fun _ _ _ => id
    | perform k c e next a task ready answered =>
        by_cases own : (purpose c).uid? = some uid
        · by_cases taking : ∃ u, e = .acquire u
          · obtain ⟨u, rfl⟩ := taking
            obtain ⟨first, own'⟩ := Purpose.acquire_allowed (h.allowed task)
            cases own.symm.trans own'
            exact (h.turns uid).performed_acquire h.toOrderly task (h.fresh k c _ task first) ready
          · exact (h.turns uid).performed_inside h.toOrderly task own
              (fun u same => taking ⟨u, same⟩) answered
        · exact (h.turns uid).performed_other h.toOrderly task own
    | drop k c e next task _ waits =>
        refine (h.turns uid).of_past_eq rfl calls
          (fun j ⟨d, working, own⟩ => ⟨d, working_dropped task working, own⟩) ?_
        rintro j member t ⟨d, p, follows, rest⟩
        refine ⟨d, p, follows, ?_⟩
        rw [getElem?_setRest task]
        split
        · rename_i same
          subst same
          rcases rest with left | ⟨e', dropped, -⟩
          · cases Option.some.inj (task.symm.trans left)
            refine .inr ⟨e, rfl, ?_, next, rfl⟩
            -- Who waits for a lock has not begun its block.
            cases e with
            | acquire u =>
                have first := (Purpose.acquire_allowed (h.allowed task)).1
                exact absurd first (block_ne_nil_of_mem_order member)
            | _ => exact waits
          · cases Option.some.inj (task.symm.trans dropped)
        · exact rest

theorem run (service : S.Conducted purpose succeeded) (moves : List (Move ι)) :
    Turns S purpose succeeded (run S moves) :=
  run_induction .empty (fun _ _ h move => h.change service move) moves

end Turns

/-! ### Serial histories -/

/-- What a task performed is what its call does alone from a tracker on, with the same answers: a
front part of it at any time, all of it in the end, and all up to what it waited for if it was
dropped. -/
structure AsAlone (S : Service ι α) (s : System ι α) (t : Tracker) (k : Nat) (c : ι) : Prop where
  going : ∀ more, s.block k <+: (alone (S.program c) t (outside (s.block k) ++ more)).acts
  ended : ∀ r, s.result? k = some r →
    alone (S.program c) t (outside (s.block k)) =
      ⟨s.block k, t.afterAll (s.block k), .done r⟩
  dropped : ∀ e, s.waitedFor? k = some e → ∃ next,
    alone (S.program c) t (outside (s.block k)) =
      ⟨s.block k, t.afterAll (s.block k), .perform e next⟩

/-- The calls on a uid were served one at a time in the order in which they took its lock. -/
structure Serialized (S : Service ι α) (purpose : ι → Purpose) (s : System ι α) (uid : String) :
    Prop where
  own : ∀ k ∈ s.order uid, ∃ c, s.call? k = some c ∧ (purpose c).uid? = some uid
  once : (s.order uid).Nodup
  /-- What the calls performed are blocks, one for each call that took the lock. -/
  blocks : s.eventsOn purpose uid = (s.order uid).flatMap s.eventsOf
  /-- Whoever is in the middle of a block holds the lock. -/
  guarded : ∀ k, OpenOn purpose s k uid → s.shared.locks.holds k
  /-- Each block is that of a call alone, from the entry that the blocks before left. -/
  each : ∀ before k after c, s.order uid = before ++ k :: after → s.call? k = some c →
    AsAlone S s (Tracker.afterAll ∅ (before.flatMap s.block)) k c
  /-- Calls that took no lock did nothing. -/
  skipped : ∀ k c, s.call? k = some c → (purpose c).uid? = some uid → k ∉ s.order uid →
    s.block k = [] ∧ ∀ r, s.result? k = some r → S.program c = .done r
  entry : s.shared.tracker.lookup uid =
    (Tracker.afterAll ∅ ((s.order uid).flatMap s.block)).lookup uid
  /-- When all calls on the uid are over, their results and the entry are those of the same calls
  one after the other. -/
  serial : (∀ k c, s.call? k = some c → (purpose c).uid? = some uid → s.isOver k) →
    let calls := (s.order uid).filterMap fun k => (s.call? k).map (·, outside (s.block k))
    let (solos, tracker) := inTurn S ∅ calls
    s.shared.tracker.lookup uid = tracker.lookup uid ∧
      List.Forall₂ (fun k solo => solo.acts = s.block k ∧
        ∀ r, s.result? k = some r → solo.rest = .done r) (s.order uid) solos

/-- A task that was served performed what its call does alone. -/
theorem Served.asAlone {t : Tracker} {k : Nat} {c : ι} (h : Served S s t k)
    (call : s.call? k = some c) : AsAlone S s t k c := by
  obtain ⟨c', p, follows, rest⟩ := h
  have same : c' = c := by
    rcases rest with left | ⟨e, left, -⟩
    · simpa [System.call?, left] using call
    · simpa [System.call?, left] using call
  subst same
  have whole := follows []
  rw [List.append_nil] at whole
  refine ⟨fun more => ?_, fun r result => ?_, fun e dropped => ?_⟩
  · rw [follows more]
    exact List.prefix_append _ _
  · obtain ⟨d, task⟩ := result?_eq_some result
    rcases rest with left | ⟨e, left, -⟩
    · cases Option.some.inj (task.symm.trans left)
      rw [whole]
      simp [alone, Solo.prepend]
    · cases Option.some.inj (task.symm.trans left)
  · obtain ⟨d, task⟩ := waitedFor?_eq_some.1 dropped
    rcases rest with left | ⟨e', left, asked, next, rfl⟩
    · cases Option.some.inj (task.symm.trans left)
    · cases Option.some.inj (task.symm.trans left)
      refine ⟨next, ?_⟩
      rw [whole, alone_of_isOutside asked]
      simp [Solo.prepend]

/-- Tasks that were served in turn and are over did what their calls do one after the other. -/
theorem ServedInTurn.serial {t : Tracker} {ks : List Nat} (h : ServedInTurn S s t ks)
    (ended : ∀ k ∈ ks, s.isOver k) :
    let calls := ks.filterMap fun k => (s.call? k).map (·, outside (s.block k))
    (inTurn S t calls).2 = t.afterAll (ks.flatMap s.block) ∧
      List.Forall₂ (fun k solo => solo.acts = s.block k ∧
        ∀ r, s.result? k = some r → solo.rest = .done r) ks (inTurn S t calls).1 := by
  induction ks generalizing t with
  | nil => exact ⟨rfl, .nil⟩
  | cons k ks ih =>
      obtain ⟨first, rest⟩ := h
      obtain ⟨ended_first, ended_rest⟩ := List.forall_mem_cons.1 ended
      obtain ⟨c, call⟩ : ∃ c, s.call? k = some c := by
        obtain ⟨c, p, -, left | ⟨e, left, -⟩⟩ := first
        · exact ⟨c, by rw [System.call?, left]; rfl⟩
        · exact ⟨c, by rw [System.call?, left]; rfl⟩
      have alone_first := first.asAlone call
      obtain ⟨p, solo, result⟩ : ∃ p,
          alone (S.program c) t (outside (s.block k)) =
            ⟨s.block k, t.afterAll (s.block k), p⟩ ∧ ∀ r, s.result? k = some r → p = .done r := by
        rcases Option.eq_none_or_eq_some (s.result? k) with none | ⟨r, some⟩
        · have dropped : s.isDropped k := by simpa [isOver, none] using ended_first
          obtain ⟨e, waited⟩ := Option.isSome_iff_exists.1 dropped
          obtain ⟨next, solo⟩ := alone_first.dropped e waited
          exact ⟨.perform e next, solo, fun r result => by simp [none] at result⟩
        · refine ⟨.done r, alone_first.ended r some, fun r' result => ?_⟩
          rw [Option.some.inj (some.symm.trans result)]
      obtain ⟨tracker, solos⟩ := ih rest ended_rest
      simp only [List.filterMap_cons, call, Option.map_some, inTurn, solo]
      refine ⟨?_, .cons ⟨rfl, result⟩ solos⟩
      rw [tracker, List.flatMap_cons, Tracker.afterAll_append]

/-- A service whose calls keep the rules of their purposes serves the calls on a uid one at a
time. -/
theorem Turns.toSerialized (h : Turns S purpose succeeded s) (uid : String) :
    Serialized S purpose s uid where
  own := (h.turns uid).own
  once := (h.turns uid).once
  blocks := (h.turns uid).blocks
  guarded k working := by
    obtain ⟨d, member, rfl, holding⟩ := h.holds k uid working
    simp [Locks.holds, h.locks.claim?_eq member, holding]
  each before k after c split call := by
    have served := (h.turns uid).served
    rw [split, servedInTurn_append] at served
    exact served.2.1.asAlone call
  skipped k c call own absent := by
    have nothing : s.block k = [] := by
      refine List.eq_nil_iff_forall_not_mem.2 fun a member => absent ?_
      obtain ⟨d, event⟩ := mem_block.1 member
      cases Option.some.inj ((h.calls _ event).symm.trans call)
      have among : ⟨k, d, a⟩ ∈ s.eventsOn purpose uid :=
        List.mem_filter.2 ⟨event, decide_eq_true own⟩
      rw [(h.turns uid).blocks] at among
      obtain ⟨j, first, event_of⟩ := List.mem_flatMap.1 among
      have same : k = j := of_decide_eq_true (List.mem_filter.1 event_of).2
      exact same ▸ first
    refine ⟨nothing, fun r result => ?_⟩
    obtain ⟨d, task⟩ := result?_eq_some result
    have same : d = c := by simpa [System.call?, task] using call
    exact same ▸ (h.fresh k d _ task nothing).symm
  entry := (h.turns uid).entry_eq h.toOrderly
  serial ended := by
    have ended' : ∀ k ∈ s.order uid, s.isOver k := fun k member => by
      obtain ⟨c, call, own⟩ := (h.turns uid).own k member
      exact ended k c call own
    obtain ⟨tracker, solos⟩ := (h.turns uid).served.serial ended'
    exact ⟨by rw [tracker]; exact (h.turns uid).entry_eq h.toOrderly, solos⟩

end System

/-! ### Creating and deleting -/

/-- A call that creates or deletes a pod. -/
inductive PodCall where
  | create (request : CreateRequest)
  | delete (uid : String)

namespace PodCall

def purpose : PodCall → Purpose
  | .create request => .create request.pod.uid
  | .delete uid => .delete uid

/-- What a call performs. -/
def program (site : Site) : PodCall → Program (Except Failure Unit)
  | .create request => (site.create request).run
  | .delete uid => (Site.delete uid).run

/-- Calls that anyone may drop while they wait. -/
def service (site : Site) : Service PodCall (Except Failure Unit) := ⟨program site, fun _ => true⟩

theorem conducted (site : Site) : (service site).Conducted purpose (· = .ok ()) := by
  intro c
  cases c with
  | create request => exact site.keeps_create request
  | delete uid => exact Site.keeps_delete uid

end PodCall

/-- Whatever calls create and delete pods, in whatever order they take their steps, whatever they
are answered and whichever of them are dropped: those on one uid are served one at a time. -/
theorem create_delete_serialized (site : Site) (moves : List (Move PodCall)) (uid : String) :
    System.Serialized (PodCall.service site) PodCall.purpose (.run (PodCall.service site) moves)
      uid :=
  (System.Turns.run (PodCall.conducted site) moves).toSerialized uid

end Interleaving

end Podkeeper
