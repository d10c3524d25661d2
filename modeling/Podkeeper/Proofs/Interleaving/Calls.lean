import Podkeeper.Proofs.Interleaving.Serial
import Podkeeper.Proofs.Lifecycle.Traces

/-!
What a call performs among others.

The block of a call that took its lock is a trace of its program, whatever other calls do in the
meantime, and the entry of its uid is at each point of the block the one that the calls before and
the block so far left (`System.Turns.entry_before`). So what is known of the traces of an operation
is known of every call of it in every history.
-/

namespace Podkeeper

namespace Interleaving

open Program

variable {ι α : Type}

/-! ### Traces of programs alone -/

/-- Alone, a program performs one of its traces with the answers of the tracker, and waits for
nobody but those outside. -/
theorem alone_traced (p : Program α) (t : Tracker) (answers : List Act) :
    Reaches p (alone p t answers).acts (alone p t answers).rest ∧
      t.Answers (alone p t answers).acts ∧
      ∀ e next, (alone p t answers).rest = .perform e next → e.isOutside := by
  induction p generalizing t answers with
  | done a => exact ⟨rfl, trivial, nofun⟩
  | perform e next ih =>
      cases reply : t.reply? e with
      | some a =>
          rw [alone_of_reply reply]
          obtain ⟨reaches, told, waits⟩ := ih a (t.after e) answers
          refine ⟨⟨next, rfl, reaches⟩, ⟨fun b replied => ?_, told⟩, waits⟩
          exact Option.some.inj (reply.symm.trans replied)
      | none =>
          have asked := Tracker.reply?_eq_none_iff.1 reply
          cases given : answers.head?.bind (·.answerTo? e) with
          | some a =>
              have step : alone (.perform e next) t answers =
                  (alone (next a) t answers.tail).prepend [⟨e, a⟩] := by
                rw [alone, reply]
                simp only [given]
              rw [step]
              obtain ⟨reaches, told, waits⟩ := ih a t answers.tail
              refine ⟨⟨next, rfl, reaches⟩, ⟨fun b replied => ?_, ?_⟩, waits⟩
              · simp [reply] at replied
              · rw [Tracker.after_of_isOutside asked]
                exact told
          | none =>
              have stuck : alone (.perform e next) t answers = ⟨[], t, .perform e next⟩ := by
                rw [alone, reply]
                simp only [given]
              rw [stuck]
              refine ⟨rfl, trivial, fun e' next' same => ?_⟩
              cases same
              exact asked

namespace System

variable {purpose : ι → Purpose} {succeeded : α → Prop} {S : Service ι α} {s : System ι α}
  {t : Tracker} {k : Nat} {c : ι} {uid : String}

namespace AsAlone

theorem exists_reaches (h : AsAlone S s t k c) : ∃ q, Reaches (S.program c) (s.block k) q := by
  obtain ⟨more, whole⟩ := h.going []
  have reaches := (alone_traced (S.program c) t (outside (s.block k) ++ [])).1
  rw [← whole] at reaches
  obtain ⟨q, first, -⟩ := reaches_append.1 reaches
  exact ⟨q, first⟩

theorem yields (h : AsAlone S s t k c) {r : α} (result : s.result? k = some r) :
    Yields (S.program c) (s.block k) r ∧ t.Answers (s.block k) := by
  obtain ⟨reaches, told, -⟩ := alone_traced (S.program c) t (outside (s.block k))
  rw [h.ended r result] at reaches told
  exact ⟨reaches, told⟩

theorem exists_waits (h : AsAlone S s t k c) {e : Effect} (dropped : s.waitedFor? k = some e) :
    ∃ next, Reaches (S.program c) (s.block k) (.perform e next) ∧ e.isOutside := by
  obtain ⟨reaches, -, waits⟩ := alone_traced (S.program c) t (outside (s.block k))
  obtain ⟨next, solo⟩ := h.dropped e dropped
  rw [solo] at reaches waits
  exact ⟨next, reaches, waits e next rfl⟩

end AsAlone

/-- The block of a call that takes a lock is a trace of its program, whether or not it came to take
the lock. -/
theorem Turns.exists_reaches (h : Turns S purpose succeeded s) (call : s.call? k = some c)
    (own : (purpose c).uid? = some uid) :
    (∃ q, Reaches (S.program c) (s.block k) q) ∧
      ∀ r, s.result? k = some r → Yields (S.program c) (s.block k) r := by
  by_cases member : k ∈ s.order uid
  · obtain ⟨earlier, later, order⟩ := List.append_of_mem member
    have solo := (h.toSerialized uid).each earlier k later c order call
    exact ⟨solo.exists_reaches, fun r result => (solo.yields result).1⟩
  · obtain ⟨nothing, ended⟩ := (h.toSerialized uid).skipped k c call own member
    rw [nothing]
    exact ⟨⟨_, rfl⟩, fun r result => ended r result⟩

/-- What was performed was allowed. -/
theorem exists_rules (service : S.Conducted purpose succeeded) (moves : List (Move ι)) :
    ∀ ev ∈ (run S moves).past, ∃ acts, (purpose ev.call).rules acts ev.act.effect := by
  refine (run_induction (P := fun s : System ι α => Orderly purpose succeeded s ∧
    ∀ ev ∈ s.past, ∃ acts, (purpose ev.call).rules acts ev.act.effect) ?_ ?_ moves).2
  · exact ⟨.empty, fun _ member => absurd member List.not_mem_nil⟩
  rintro s s' ⟨orderly, allowed⟩ move
  refine ⟨orderly.change service move, ?_⟩
  cases move with
  | perform j d e next a found =>
      intro ev member
      rcases List.mem_append.1 member with old | new
      · exact allowed ev old
      · rw [List.mem_singleton.1 new]
        exact ⟨_, orderly.allowed found⟩
  | _ => exact allowed

/-! ### Entries within a block -/

/-- An act of a task is an event, behind those of the acts before it. -/
theorem exists_event {events : List (Event ι)} {front back : List Act} {a : Act}
    (acts : (events.filter fun ev => ev.task = k).map (·.act) = front ++ a :: back) :
    ∃ before c since, events = before ++ ⟨k, c, a⟩ :: since ∧
      (before.filter fun ev => ev.task = k).map (·.act) = front := by
  obtain ⟨_, rest, split, rfl, tail⟩ := List.map_eq_append_iff.1 acts
  obtain ⟨ev, rest, rfl, rfl, -⟩ := List.map_eq_cons_iff.1 tail
  obtain ⟨before, since, past, rfl, tail⟩ := List.filter_eq_append_iff.1 split
  obtain ⟨between, since, rfl, none_of, own, -⟩ := List.filter_eq_cons_iff.1 tail
  have same : ev.task = k := of_decide_eq_true own
  refine ⟨before ++ between, ev.call, since, ?_, ?_⟩
  · rw [past, ← same, List.append_assoc]
  · rw [List.filter_append, List.filter_eq_nil_iff.2 none_of, List.append_nil]

/-- A task whose block is work under a lock begins it by taking the lock and ends it by giving the
lock back. -/
theorem Coherent.exists_frame (h : Coherent s) (call : s.call? k = some c) {inner : List Act}
    (block : s.block k = Acts.underLock uid inner) :
    ∃ before since after,
      s.past = before ++ ⟨k, c, .acquire uid, ()⟩ :: since ++ ⟨k, c, .release uid, ()⟩ :: after ∧
      (before.filter fun ev => ev.task = k) = [] ∧
      (since.filter fun ev => ev.task = k).map (·.act) = inner := by
  have framed : (s.past.filter fun ev => ev.task = k).map (·.act) =
      (⟨.acquire uid, ()⟩ :: inner) ++ ⟨.release uid, ()⟩ :: [] := block
  obtain ⟨front, d, after, past, acts⟩ := exists_event framed
  have opened : (front.filter fun ev => ev.task = k).map (·.act) =
      [] ++ ⟨.acquire uid, ()⟩ :: inner := acts
  obtain ⟨before, d', since, rfl, nothing⟩ := exists_event opened
  have known : ∀ d a, (⟨k, d, a⟩ : Event ι) ∈ s.past → d = c := fun d a member =>
    Option.some.inj ((h.calls _ member).symm.trans call)
  obtain rfl := known d ⟨.release uid, ()⟩ (by simp [past])
  obtain rfl := known d' ⟨.acquire uid, ()⟩ (by simp [past])
  refine ⟨before, since, after, past, List.map_eq_nil_iff.1 nothing, ?_⟩
  rw [List.filter_append, List.map_append, nothing, List.filter_cons_of_pos (by simp)] at acts
  exact (List.cons.inj acts).2

/-- Lists are cut alike at an element if as many of its kind come before it. -/
theorem eq_of_append_cons_eq {β : Type} (kind : β → Bool) {x x' y y' : List β} {b : β}
    (own : kind b) (same : x ++ b :: y = x' ++ b :: y')
    (count : (x.filter kind).length = (x'.filter kind).length) : x = x' := by
  rcases List.append_eq_append_iff.1 same with ⟨more, longer, tail⟩ | ⟨more, longer, tail⟩
  · cases more with
    | nil => simpa using longer.symm
    | cons d more =>
        rw [List.cons_append, List.cons.injEq] at tail
        rw [longer, ← tail.1, List.filter_append, List.filter_cons_of_pos own] at count
        simp at count
  · cases more with
    | nil => simpa using longer
    | cons d more =>
        rw [List.cons_append, List.cons.injEq] at tail
        rw [longer, ← tail.1, List.filter_append, List.filter_cons_of_pos own] at count
        simp at count

/-- At each act of its block the entry of a call's uid is the one that the calls before it and the
block so far left. -/
theorem Turns.entry_before (h : Turns S purpose succeeded s) {earlier later : List Nat}
    (order : s.order uid = earlier ++ k :: later) {before since : List (Event ι)} {a : Act}
    (past : s.past = before ++ ⟨k, c, a⟩ :: since) :
    (Tracker.afterAll ∅ (before.map (·.act))).lookup uid =
      ((Tracker.afterAll ∅ (earlier.flatMap s.block)).afterAll
        ((before.filter fun ev => ev.task = k).map (·.act))).lookup uid := by
  have turns := h.turns uid
  have own : ∀ ev ∈ s.past, ev.task = k → (purpose ev.call).uid? = some uid := by
    intro ev member task
    obtain ⟨d, call, own⟩ := turns.own k (by simp [order])
    have known := h.calls ev member
    rw [task, call] at known
    cases known
    exact own
  have apart : k ∉ earlier := by
    have once := turns.once
    rw [order, List.nodup_append] at once
    exact fun member => once.2.2 k member k List.mem_cons_self rfl
  have event : (⟨k, c, a⟩ : Event ι) ∈ s.past := by simp [past]
  have onUid : s.eventsOn purpose uid =
      (before.filter fun ev => (purpose ev.call).uid? = some uid) ++ ⟨k, c, a⟩ ::
        since.filter fun ev => (purpose ev.call).uid? = some uid := by
    rw [eventsOn, past, List.filter_append, List.filter_cons_of_pos]
    exact decide_eq_true (own _ event rfl)
  have ofTask : s.eventsOf k =
      (before.filter fun ev => ev.task = k) ++ ⟨k, c, a⟩ ::
        since.filter fun ev => ev.task = k := by
    rw [eventsOf, past, List.filter_append, List.filter_cons_of_pos]
    exact decide_eq_true rfl
  -- The events of the uid before the act are those of the earlier blocks and of the block so far.
  have front : (before.filter fun ev => (purpose ev.call).uid? = some uid) =
      earlier.flatMap s.eventsOf ++ before.filter fun ev => ev.task = k := by
    have whole : (before.filter fun ev => (purpose ev.call).uid? = some uid) ++ ⟨k, c, a⟩ ::
          (since.filter fun ev => (purpose ev.call).uid? = some uid) =
        (earlier.flatMap s.eventsOf ++ before.filter fun ev => ev.task = k) ++ ⟨k, c, a⟩ ::
          ((since.filter fun ev => ev.task = k) ++ later.flatMap s.eventsOf) := by
      rw [← onUid, turns.blocks, order, List.flatMap_append, List.flatMap_cons, ofTask]
      simp
    refine eq_of_append_cons_eq (fun ev => ev.task = k) (decide_eq_true rfl) whole ?_
    have others : (earlier.flatMap s.eventsOf).filter (fun ev => ev.task = k) = [] := by
      refine List.filter_eq_nil_iff.2 fun ev member task => ?_
      obtain ⟨j, among, listed⟩ := List.mem_flatMap.1 member
      have mine : ev.task = j := of_decide_eq_true (List.mem_filter.1 listed).2
      exact apart (mine.symm.trans (of_decide_eq_true task) ▸ among)
    rw [List.filter_append, others, List.filter_filter, List.filter_filter]
    refine congrArg List.length (List.filter_congr fun ev member => ?_)
    by_cases task : ev.task = k
    · have among : ev ∈ s.past := by
        rw [past]
        exact List.mem_append_left _ member
      simp [task, own ev among task]
    · simp [task]
  have blocks : (earlier.flatMap s.eventsOf).map (·.act) = earlier.flatMap s.block := by
    rw [List.map_flatMap]
    rfl
  rw [← Tracker.afterAll_append, ← blocks, ← List.map_append, ← front]
  refine Tracker.lookup_afterAll_filter (fun ev member writes => ?_) rfl
  have among : ev ∈ s.past := by
    rw [past]
    exact List.mem_append_left _ member
  simpa using h.writes ev among uid writes

end System

/-! ### Calls -/

/-- Something that a site is asked to do. -/
inductive Call where
  | create (request : CreateRequest)
  | delete (uid : String)
  | status (r : PodRef)
  | logs (r : LogRequest)
deriving DecidableEq

/-- The reply to a call that succeeded. -/
inductive Reply where
  | done
  | status (s : PodStatus)
  | log (text : Bytes)
deriving DecidableEq

namespace Call

def purpose : Call → Purpose
  | .create request => .create request.pod.uid
  | .delete uid => .delete uid
  | .status _ | .logs _ => .read

def operation (site : Site) : Call → Operation Reply
  | .create request => do
    site.create request
    return .done
  | .delete uid => do
    Site.delete uid
    return .done
  | .status r => do return .status (← Site.status r)
  | .logs r => do return .log (← Site.logs r)

/-- The calls of a site, of which some may be dropped while they wait. -/
def service (site : Site) (droppable : Call → Bool) : Service Call (Except Failure Reply) :=
  ⟨fun c => (c.operation site).run, droppable⟩

variable {site : Site} {droppable : Call → Bool} {acts : List Act} {r : Except Failure Reply}

theorem yields_create {request : CreateRequest} :
    Yields ((service site droppable).program (.create request)) acts r ↔
      ∃ r', r = r'.map (fun _ => .done) ∧ Yields (site.create request).run acts r' :=
  Operation.yields_reply (f := fun _ => Reply.done)

theorem yields_delete {uid : String} :
    Yields ((service site droppable).program (.delete uid)) acts r ↔
      ∃ r', r = r'.map (fun _ => .done) ∧ Yields (Site.delete uid).run acts r' :=
  Operation.yields_reply (f := fun _ => Reply.done)

theorem conducted (site : Site) (droppable : Call → Bool) :
    (service site droppable).Conducted purpose fun r => ∃ reply, r = .ok reply := by
  intro c
  cases c with
  | create request =>
      exact Operation.keeps_bind (site.keeps_create request) (fun _ _ ended => ended)
        fun _ _ ended => ended
  | delete uid =>
      refine Operation.keeps_bind (Site.keeps_delete uid) (fun past u ended => ?_)
        fun past f ended => ⟨ended.1, nofun⟩
      exact ⟨ended.1, fun _ => ended.2 rfl⟩
  | status r =>
      exact Operation.keeps_bind (Site.keeps_status r) (fun _ _ _ => trivial) fun _ _ _ => trivial
  | logs r =>
      exact Operation.keeps_bind (Site.keeps_logs r) (fun _ _ _ => trivial) fun _ _ _ => trivial

/-- A history of calls in which those on one uid take turns. -/
abbrev Orderly (site : Site) (droppable : Call → Bool) (s : System Call (Except Failure Reply)) :
    Prop :=
  System.Turns (service site droppable) purpose (fun r => ∃ reply, r = .ok reply) s

theorem Orderly.run (site : Site) (droppable : Call → Bool) (moves : List (Move Call)) :
    Orderly site droppable (.run (service site droppable) moves) :=
  System.Turns.run (conducted site droppable) moves

end Call

end Interleaving

end Podkeeper
