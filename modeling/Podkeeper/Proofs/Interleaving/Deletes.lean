import Podkeeper.Proofs.Interleaving.Calls
import Podkeeper.Proofs.Interleaving.Requests
import Podkeeper.Proofs.Lifecycle.Deleting
import Podkeeper.Proofs.Pods.Volumes

/-!
Deletes among other calls.

Under the lock of its uid a delete finds what the calls before it left, and nobody changes it until
the lock is given back. So it tries to remove each container that is noted when it takes the lock,
drops the note exactly if all are gone, and otherwise leaves it as it was; and as long as deletes
fail, the next one finds the same containers.
-/

namespace Podkeeper

namespace Interleaving

open Program

variable {ι : Type}

/-- What is noted of a uid after events. -/
def noted (events : List (Event ι)) (uid : String) : Option (List Tracked) :=
  (Tracker.afterAll ∅ (events.map (·.act))).lookup uid

/-- The tasks that took the lock of a uid, in order. -/
def takers (events : List (Event ι)) (uid : String) : List Nat :=
  (events.filter fun ev => ev.act.effect = .acquire uid).map (·.task)

theorem takers_append (events events' : List (Event ι)) (uid : String) :
    takers (events ++ events') uid = takers events uid ++ takers events' uid := by
  simp [takers]

theorem takers_cons {ev : Event ι} {uid : String} (taking : ev.act.effect = .acquire uid)
    (events : List (Event ι)) : takers (ev :: events) uid = ev.task :: takers events uid := by
  simp [takers, taking]

/-- The turn of a task: the note that it finds when it takes the lock is what the tasks before it
left, and when it gives the lock back its block is done. -/
theorem exists_turn {α : Type} {S : Service ι α} {purpose : ι → Purpose} {succeeded : α → Prop}
    {s : System ι α} (h : System.Turns S purpose succeeded s) {k : Nat} {c : ι} {uid : String}
    {earlier later : List Nat} (order : s.order uid = earlier ++ k :: later)
    (call : s.call? k = some c) {inner : List Act} (block : s.block k = Acts.underLock uid inner) :
    ∃ before since after,
      s.past = before ++ ⟨k, c, .acquire uid, ()⟩ :: since ++ ⟨k, c, .release uid, ()⟩ :: after ∧
      (since.filter fun ev => ev.task = k).map (·.act) = inner ∧
      noted before uid = (Tracker.afterAll ∅ (earlier.flatMap s.block)).lookup uid ∧
      noted (before ++ ⟨k, c, .acquire uid, ()⟩ :: since) uid =
        ((Tracker.afterAll ∅ (earlier.flatMap s.block)).afterAll (s.block k)).lookup uid := by
  obtain ⟨before, since, after, past, nothing, acts⟩ := h.exists_frame call block
  refine ⟨before, since, after, past, acts, ?_, ?_⟩
  · rw [noted, h.entry_before order (by rw [past, List.append_assoc]; rfl), nothing]
    rfl
  · rw [noted, h.entry_before order past, List.filter_append, nothing, List.nil_append,
      List.filter_cons_of_pos (by simp), List.map_cons, acts, block, Tracker.afterAll_underLock]
    rfl

namespace Call

variable {site : Site} {droppable : Call → Bool} {s : System Call (Except Failure Reply)}
  {k : Nat} {uid : String} {r : Except Failure Reply} {earlier later : List Nat}

/-- A delete that has ended took the lock. -/
theorem mem_order_of_result (h : Orderly site droppable s) (call : s.call? k = some (.delete uid))
    (result : s.result? k = some r) : k ∈ s.order uid := by
  by_contra absent
  have nothing := ((h.toSerialized uid).skipped k _ call rfl absent).2 r result
  cases nothing

/-- What a delete does after the calls before it. -/
theorem deletion_of_result (h : Orderly site droppable s) (call : s.call? k = some (.delete uid))
    (result : s.result? k = some r) (order : s.order uid = earlier ++ k :: later) :
    ∃ r' : Except Failure Unit, r = r'.map (fun _ => .done) ∧
      Site.Deletion uid ((Tracker.afterAll ∅ (earlier.flatMap s.block)).lookup uid) (s.block k) r'
        (((Tracker.afterAll ∅ (earlier.flatMap s.block)).afterAll (s.block k)).lookup uid) := by
  have solo := (h.toSerialized uid).each earlier k later _ order call
  obtain ⟨yields, told⟩ := solo.yields result
  obtain ⟨r', same, yields⟩ := yields_delete.1 yields
  exact ⟨r', same, Site.deletion_of_yields yields told⟩

/-- A delete that failed or was dropped leaves what is noted. -/
theorem lookup_of_failed (h : Orderly site droppable s) (call : s.call? k = some (.delete uid))
    (failed : s.isDropped k ∨ ∃ f, s.result? k = some (.error f))
    (order : s.order uid = earlier ++ k :: later) :
    ((Tracker.afterAll ∅ (earlier.flatMap s.block)).afterAll (s.block k)).lookup uid =
      (Tracker.afterAll ∅ (earlier.flatMap s.block)).lookup uid := by
  rcases failed with dropped | ⟨f, result⟩
  · have solo := (h.toSerialized uid).each earlier k later _ order call
    obtain ⟨e, waited⟩ := Option.isSome_iff_exists.1 dropped
    obtain ⟨next, reaches, outside⟩ := solo.exists_waits waited
    obtain ⟨more, r, rest, whole⟩ := reaches.exists_yields
    obtain ⟨answer, more, rfl, -⟩ := yields_perform.1 rest
    obtain ⟨r', -, yields⟩ := yields_delete.1 whole
    rw [Tracker.afterAll_of_unwritten (Site.unwritten_of_yields yields outside)]
  · obtain ⟨r', same, deletion⟩ := deletion_of_result h call result order
    cases r' with
    | ok => cases same
    | error f => exact deletion.left_of_error

/-- So do any number of them. -/
theorem lookup_of_all_failed (h : Orderly site droppable s) {js : List Nat}
    (deletes : ∀ j ∈ js, s.call? j = some (.delete uid))
    (failed : ∀ j ∈ js, s.isDropped j ∨ ∃ f, s.result? j = some (.error f))
    (order : s.order uid = earlier ++ (js ++ later)) :
    (Tracker.afterAll ∅ ((earlier ++ js).flatMap s.block)).lookup uid =
      (Tracker.afterAll ∅ (earlier.flatMap s.block)).lookup uid := by
  induction js generalizing earlier with
  | nil => rw [List.append_nil]
  | cons j js ih =>
      obtain ⟨delete, deletes⟩ := List.forall_mem_cons.1 deletes
      obtain ⟨first, failed⟩ := List.forall_mem_cons.1 failed
      have kept := lookup_of_failed h delete first order
      have next : s.order uid = (earlier ++ [j]) ++ (js ++ later) := by simpa using order
      have rest := ih deletes failed next
      rw [List.append_cons, rest, List.flatMap_append, Tracker.afterAll_append,
        List.flatMap_singleton]
      exact kept

/-- The first act of a delete takes the lock. -/
theorem notMem_before_taking (h : Orderly site droppable s)
    (call : s.call? k = some (.delete uid)) (order : s.order uid = earlier ++ k :: later)
    {before since : List (Event Call)} (past : s.past = before ++ since)
    (apart : k ∉ takers before uid) : (before.filter fun ev => ev.task = k) = [] := by
  cases first : before.filter fun ev => ev.task = k with
  | nil => rfl
  | cons ev events =>
      exfalso
      obtain ⟨q, reaches⟩ := ((h.toSerialized uid).each earlier k later _ order call).exists_reaches
      have block : s.block k = ev.act :: (events.map (·.act) ++
          (since.filter fun ev => ev.task = k).map (·.act)) := by
        rw [System.block, System.eventsOf, past, List.filter_append, first]
        simp
      rw [block] at reaches
      obtain ⟨next, begins, -⟩ := reaches
      have taking : ev.act.effect = .acquire uid := (Interaction.perform.inj begins).1.symm
      obtain ⟨member, own⟩ := List.mem_filter.1 (first ▸ List.mem_cons_self (a := ev))
      refine apart (List.mem_map.2 ⟨ev, List.mem_filter.2 ⟨member, decide_eq_true taking⟩, ?_⟩)
      exact of_decide_eq_true own

/-- A delete that ended: the note that it found when it took the lock, what it did, and the note
that it left when it gave the lock back. -/
theorem exists_deletion (h : Orderly site droppable s) (call : s.call? k = some (.delete uid))
    (result : s.result? k = some r) :
    ∃ (r' : Except Failure Unit) (before since after : List (Event Call)),
      s.past = before ++ ⟨k, .delete uid, .acquire uid, ()⟩ :: since ++
        ⟨k, .delete uid, .release uid, ()⟩ :: after ∧
      r = r'.map (fun _ => .done) ∧
      Site.Deletion uid (noted before uid) (s.block k) r'
        (noted (before ++ ⟨k, .delete uid, .acquire uid, ()⟩ :: since) uid) := by
  obtain ⟨earlier, later, order⟩ := List.append_of_mem (mem_order_of_result h call result)
  obtain ⟨r', same, deletion⟩ := deletion_of_result h call result order
  obtain ⟨inner, block⟩ := deletion.exists_inner
  obtain ⟨before, since, after, past, -, found, left⟩ := exists_turn h order call block
  refine ⟨r', before, since, after, past, same, ?_⟩
  rw [found, left]
  exact deletion

end Call

/-- Deletes of a uid. Whatever it is answered, a delete comes to an end, of one of three kinds. In
any history of calls, each that has ended came to such an end with the note that it found when it
took the lock, and left when it gave the lock back. And after any number of deletes that failed, or
that nobody waited for any more, one whose removals all succeed succeeds itself and has removed all
that was noted before the first of them. -/
theorem delete_retryable (site : Site) (droppable : Call → Bool) (moves : List (Move Call))
    (uid : String) :
    let s := System.run (Call.service site droppable) moves
    (∀ (t : Tracker) (outside : List Act → (e : Effect) → e.Answer),
      Site.Deletion uid (t.lookup uid) (play (Site.delete uid).run t outside).2
        (play (Site.delete uid).run t outside).1
        ((t.afterAll (play (Site.delete uid).run t outside).2).lookup uid)) ∧
    (∀ k r, s.call? k = some (.delete uid) → s.result? k = some r →
      ∃ (r' : Except Failure Unit) (before since after : List (Event Call)),
        s.past = before ++ ⟨k, .delete uid, .acquire uid, ()⟩ :: since ++
          ⟨k, .delete uid, .release uid, ()⟩ :: after ∧
        r = r'.map (fun _ => .done) ∧
        Site.Deletion uid (noted before uid) (s.block k) r'
          (noted (before ++ ⟨k, .delete uid, .acquire uid, ()⟩ :: since) uid)) ∧
    ∀ before first since js k later entry r,
      s.past = before ++ first :: since → first.act.effect = .acquire uid →
      takers (first :: since) uid = js ++ k :: later →
      (∀ j ∈ js, s.call? j = some (.delete uid)) →
      (∀ j ∈ js, s.isDropped j ∨ ∃ f, s.result? j = some (.error f)) →
      s.call? k = some (.delete uid) → s.result? k = some r →
      (∀ a ∈ s.block k, ¬a.isFailedRemoval) →
      noted before uid = some entry →
      r = .ok .done ∧ ∀ t ∈ entry, (⟨.remove t.handle true, .ok ()⟩ : Act) ∈ s.block k := by
  intro s
  have h : Call.Orderly site droppable s := .run site droppable moves
  refine ⟨fun t outside => ?_, fun k r call result => Call.exists_deletion h call result, ?_⟩
  · exact Site.deletion_of_yields (yields_play _ t outside) (answers_play _ t outside)
  intro before first since js k later entry r past taking order deletes failed call result fine
    found
  have whole : s.order uid = takers before uid ++ (js ++ k :: later) := by
    rw [← order, ← takers_append, ← past]
    rfl
  rw [takers_cons taking] at order
  have delete : s.call? first.task = some (.delete uid) := by
    cases js with
    | nil => exact (List.cons.inj order).1 ▸ call
    | cons j js => exact (List.cons.inj order).1 ▸ deletes j List.mem_cons_self
  have start : noted before uid =
      (Tracker.afterAll ∅ ((takers before uid).flatMap s.block)).lookup uid := by
    rw [← order] at whole
    have apart : first.task ∉ takers before uid := fun member => by
      have once := (h.turns uid).once
      rw [whole, List.nodup_append] at once
      exact once.2.2 _ member _ List.mem_cons_self rfl
    have nothing := Call.notMem_before_taking h delete whole past apart
    rw [noted, h.entry_before whole past, nothing]
    rfl
  have kept := Call.lookup_of_all_failed h deletes failed whole
  have turn : s.order uid = (takers before uid ++ js) ++ k :: later := by simpa using whole
  obtain ⟨r', rfl, deletion⟩ := Call.deletion_of_result h call result turn
  rw [kept, ← start, found] at deletion
  obtain ⟨rfl, removed⟩ := deletion.removed_of_fine fine
  exact ⟨rfl, removed⟩

/-- A task takes the lock of a uid, performs so many effects and hands its ticket in. -/
def wholeTurn (k : Nat) (uid : String) (effects : Nat) (answers : (e : Effect) → e.Answer) :
    List (Move Call) :=
  [.lock (.enter k uid), .lock (.grant k)] ++ List.replicate effects (.perform k answers) ++
    [.lock (.leave k)]

/-- A pod that is created, a delete whose removal fails, and another one. -/
def retried : List (Move Call) :=
  let p := Pod.mountingConfig "b" "b"
  let busy : (e : Effect) → e.Answer
    | .remove _ _ => .error (.failed "remove" "a-uid-1" "device busy")
    | e => Http.obliging e
  [.call (.create ⟨p, []⟩), .call (.delete p.uid), .call (.delete p.uid)] ++
    wholeTurn 0 p.uid 4 Http.obliging ++ wholeTurn 1 p.uid 4 busy ++
      wholeTurn 2 p.uid 5 Http.obliging

theorem delete_retried :
    let s := System.run (Call.service ⟨"/data", true⟩ fun _ => false) retried
    (∃ f, s.result? 1 = some (.error f)) ∧ s.result? 2 = some (.ok .done) ∧
      (⟨.remove "a-uid-1" true, .ok ()⟩ : Act) ∈ s.block 2 := by
  intro s
  have history : (s.past[4]?.map fun ev => ev.act.effect) = some (.acquire "uid-1") ∧
      takers (s.past.drop 4) "uid-1" = [1, 2] ∧ s.call? 1 = some (.delete "uid-1") ∧
      s.call? 2 = some (.delete "uid-1") ∧
      s.result? 1 = some (.error (.runtime (.failed "remove" "a-uid-1" "device busy"))) ∧
      s.result? 2 = some (.ok .done) ∧ (∀ a ∈ s.block 2, ¬a.isFailedRemoval) ∧
      noted (s.past.take 4) "uid-1" = some [⟨"a", "a-uid-1"⟩] := by decide +kernel
  obtain ⟨first, order, call, call', failed, done, fine, found⟩ := history
  obtain ⟨_, event, taking⟩ := Option.map_eq_some_iff.1 first
  obtain ⟨long, rfl⟩ := List.getElem?_eq_some_iff.1 event
  rw [List.drop_eq_getElem_cons long] at order
  have split : s.past = s.past.take 4 ++ s.past[4] :: s.past.drop 5 := by
    rw [← List.drop_eq_getElem_cons, List.take_append_drop]
  have fails : ∃ f, s.result? 1 = some (.error f) := ⟨_, failed⟩
  obtain ⟨-, removed⟩ := (delete_retryable _ _ _ "uid-1").2.2 _ _ _ [1] 2 [] _ _ split taking order
    (fun j member => List.mem_singleton.1 member ▸ call)
    (fun j member => .inr (List.mem_singleton.1 member ▸ fails)) call' done fine found
  exact ⟨fails, done, removed _ (List.mem_singleton_self _)⟩

end Interleaving

end Podkeeper
