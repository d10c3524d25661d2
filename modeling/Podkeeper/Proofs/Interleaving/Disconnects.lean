import Podkeeper.Proofs.Interleaving.Clients

/-!
Histories in which clients stay.

Whichever clients go away, there is a history of some of the same clients in which nobody does, and
that ends alike (`Front.exists_undisturbed`): clients whose tasks were not begun do not come, and
all others stay. Requests that create or delete are done either not at all or to their ends
(`Http.disconnect_all_or_nothing`).
-/

namespace Podkeeper

namespace Interleaving

namespace Front

variable {ι α : Type} {S : Service ι α} {purpose : ι → Purpose} {succeeded : α → Prop}
  {f g : Front ι α}

/-! ### Histories in which clients stay -/

theorem attended_step (service : S.Conducted purpose succeeded)
    (h : System.Attended S purpose succeeded f.system) (m : ClientMove ι) :
    System.Attended S purpose succeeded (f.step S m).system := by
  have step := step_change (S := S) f m
  generalize f.step S m = f' at step
  cases step with
  | idle | arrive | abandon => exact h
  | read key r => exact h.step service (.call r)
  | leave key r k => exact h.step service (.drop k)
  | lock t => exact h.step service (.lock t)
  | perform k outside => exact h.step service (.perform k outside)

/-- One front is as another one would be if all clients had stayed whose tasks were begun, and no
other ones went away. -/
structure Stayed (S : Service ι α) (purpose : ι → Purpose) (succeeded : α → Prop)
    (f g : Front ι α) : Prop where
  exchanges : ∀ key, g.exchanges key = (f.exchanges key).map (·.stayed)
  system : System.Undropped purpose f.system g.system
  ordered : System.Attended S purpose succeeded f.system
  ordered' : System.Attended S purpose succeeded g.system

namespace Stayed

theorem exchange (h : Stayed S purpose succeeded f g) {x : Option (Exchange ι)}
    (found : f.exchanges key = x) : g.exchanges key = x.map (·.stayed) := by
  rw [h.exchanges, found]

theorem put (h : Stayed S purpose succeeded f g) {x y : Exchange ι} (same : y = x.stayed)
    {s s' : System ι α} (key other : Nat) :
    (g.put key y s').exchanges other = ((f.put key x s).exchanges other).map (·.stayed) := by
  rw [exchanges_put, exchanges_put, same]
  split
  · rfl
  · exact h.exchanges other

/-- A client that goes away is left there. -/
theorem leave (h : Stayed S purpose succeeded f g) (key : Nat)
    (begun : ∀ r, f.exchanges key ≠ some (.waiting r)) :
    (∀ other, g.exchanges other = ((f.step S (.leave key)).exchanges other).map (·.stayed)) ∧
      System.Undropped purpose (f.step S (.leave key)).system g.system := by
  simp only [Front.step]
  split
  · rename_i r found
    exact absurd found (begun r)
  · rename_i r k found
    refine ⟨fun other => ?_, h.system.drop k⟩
    rw [exchanges_put]
    split
    · rename_i same
      rw [same, h.exchange found]
      rfl
    · exact h.exchanges other
  · exact ⟨h.exchanges, h.system⟩

/-- All other moves are made in both. -/
theorem both (patient : ∀ c, S.droppable c → (purpose c).uid? = none)
    (h : Stayed S purpose succeeded f g) {m : ClientMove ι} (stays : m.isLeave = false) :
    (∀ other, (g.step S m).exchanges other = ((f.step S m).exchanges other).map (·.stayed)) ∧
      System.Undropped purpose (f.step S m).system (g.step S m).system := by
  cases m with
  | leave => cases stays
  | lock t => exact ⟨h.exchanges, h.system.lock patient h.ordered h.ordered' t⟩
  | perform k outside => exact ⟨h.exchanges, h.system.perform patient h.ordered h.ordered' k⟩
  | arrive key r =>
      cases found : f.exchanges key with
      | none =>
          have new : g.exchanges key = none := h.exchange found
          simp only [Front.step, found, new]
          refine ⟨h.put ?_ key, h.system⟩
          rfl
      | some x =>
          have old : g.exchanges key = some x.stayed := h.exchange found
          simp only [Front.step, found, old]
          exact ⟨h.exchanges, h.system⟩
  | read key =>
      cases found : f.exchanges key with
      | none =>
          have new : g.exchanges key = none := h.exchange found
          simp only [Front.step, found, new]
          exact ⟨h.exchanges, h.system⟩
      | some x =>
          have old : g.exchanges key = some x.stayed := h.exchange found
          cases x with
          | waiting r =>
              have waits : g.exchanges key = some (.waiting r) := old
              simp only [Front.step, found, waits]
              refine ⟨h.put ?_ key, h.system.call r⟩
              rw [h.system.length]
              rfl
          | abandoned r =>
              have waits : g.exchanges key = some (.abandoned r) := old
              simp only [Front.step, found, waits]
              exact ⟨h.exchanges, h.system⟩
          | begun r k | left r k =>
              have begun : g.exchanges key = some (.begun r k) := old
              simp only [Front.step, found, begun]
              exact ⟨h.exchanges, h.system⟩

theorem step (service : S.Conducted purpose succeeded)
    (patient : ∀ c, S.droppable c → (purpose c).uid? = none)
    (h : Stayed S purpose succeeded f g) {m : ClientMove ι}
    (begun : ∀ key r, (f.step S m).exchanges key ≠ some (.abandoned r)) :
    Stayed S purpose succeeded (f.step S m) (if !m.isLeave then g.step S m else g) := by
  have ordered := attended_step service h.ordered m
  cases leaves : m.isLeave with
  | false =>
      obtain ⟨exchanges, system⟩ := h.both patient leaves
      exact ⟨exchanges, system, ordered, attended_step service h.ordered' m⟩
  | true =>
      cases m with
      | leave key =>
          obtain ⟨exchanges, system⟩ := h.leave (S := S) key fun r waits => by
            refine begun key r ?_
            simp [Front.step, waits, exchanges_put]
          exact ⟨exchanges, system, ordered, h.ordered'⟩
      | arrive | read | lock | perform => cases leaves

end Stayed

/-- Where all tasks of clients were begun, the clients could as well have stayed. -/
theorem stayed_run (service : S.Conducted purpose succeeded)
    (patient : ∀ c, S.droppable c → (purpose c).uid? = none) (moves : List (ClientMove ι))
    (begun : ∀ key r, (run S moves).exchanges key ≠ some (.abandoned r)) :
    Stayed S purpose succeeded (run S moves) (run S (moves.filter fun m => !m.isLeave)) := by
  have start : Stayed S purpose succeeded (∅ : Front ι α) ∅ :=
    ⟨fun _ => rfl, .empty, .empty, .empty⟩
  refine run_filter_induction start moves fun before m g front h => ?_
  rw [run_concat]
  refine h.step service patient fun key r found => ?_
  rw [← run_concat] at found
  obtain ⟨later, rfl⟩ := front
  refine begun key r ?_
  rw [run_append]
  exact exchanges_after_of_gone found rfl later

/-! ### All that clients come to -/

/-- One history ends as another one does from which clients went away. All clients are there whose
tasks were begun and no others, and all have or get their results; what is shared, all that those
did who create and delete, what runs and all files are the same. -/
structure Undisturbed (purpose : ι → Purpose) (f g : Front ι α) : Prop where
  exchanges : ∀ key, g.exchanges key = (f.exchanges key).bind (·.served?)
  shared : g.system.shared = f.system.shared
  effective : System.effective purpose g.system = System.effective purpose f.system
  live : Acts.live g.system.acts = Acts.live f.system.acts
  files : ∀ (root : String) (t : Tree),
    (t.Answers root g.system.acts ↔ t.Answers root f.system.acts) ∧
      t.afterActs root g.system.acts = t.afterActs root f.system.acts
  results : ∀ k, f.system.isDropped k = false → g.system.result? k = f.system.result? k
  ended : ∀ k, f.system.isDropped k → (g.system.result? k).isSome

theorem Undisturbed.of_undropped (service : S.Conducted purpose succeeded)
    {moves kept : List (ClientMove ι)}
    (exchanges : ∀ key, (run S kept).exchanges key =
      ((run S moves).exchanges key).bind (·.served?))
    (undropped : System.Undropped purpose (run S moves).system (run S kept).system)
    (ended : ∀ k, (run S moves).system.isDropped k → ((run S kept).system.result? k).isSome) :
    Undisturbed purpose (run S moves) (run S kept) := by
  obtain ⟨inner, run⟩ := exists_run (S := S) moves
  obtain ⟨inner', run'⟩ := exists_run (S := S) kept
  refine ⟨exchanges, undropped.shared, undropped.effective, ?_, fun root t => ?_,
    fun k going => undropped.result? going, ended⟩
  · have same := undropped.effective
    rw [run, run'] at same ⊢
    rw [← System.live_effective service inner, ← System.live_effective service inner', same]
  · have same := undropped.effective
    rw [run, run'] at same ⊢
    obtain ⟨told, tree⟩ := System.tree_effective service inner root t
    obtain ⟨told', tree'⟩ := System.tree_effective service inner' root t
    rw [← told, ← told', ← tree, ← tree', same]
    exact ⟨Iff.rfl, rfl⟩

/-- Where all are over, all have their results, and no lock is left. -/
theorem Undisturbed.all_ended (patient : ∀ c, S.droppable c → (purpose c).uid? = none)
    (h : Undisturbed purpose f g) (ordered : System.Attended S purpose succeeded f.system)
    (length : g.system.tasks.length = f.system.tasks.length)
    (none_left : System.unfinished f.system = ∅) :
    (∀ k c, g.system.call? k = some c → (g.system.result? k).isSome) ∧
      g.system.shared.locks.size = 0 := by
  refine ⟨fun k c call => ?_, ?_⟩
  · obtain ⟨t, task, -⟩ := Option.map_eq_some_iff.1 call
    have below : k < f.system.tasks.length := length ▸ (List.getElem?_eq_some_iff.1 task).1
    have call' : f.system.call? k = some (f.system.tasks[k]).call := by
      rw [System.call?, List.getElem?_eq_getElem below]
      rfl
    have ended := System.isOver_of_call? none_left call'
    cases dropped : f.system.isDropped k with
    | true => exact h.ended k dropped
    | false =>
        rw [h.results k dropped]
        rwa [System.isOver, dropped, Bool.or_false] at ended
  · rw [h.shared]
    exact ordered.size_eq_zero patient none_left

/-- Whoever goes away, there is a history of some of the same clients in which nobody does and that
ends alike; when all tasks are over, all have results there, and no lock is left. -/
theorem exists_undisturbed (service : S.Conducted purpose succeeded)
    (patient : ∀ c, S.droppable c → (purpose c).uid? = none) (moves : List (ClientMove ι)) :
    ∃ kept : List (ClientMove ι), (∀ m ∈ kept, m.isLeave = false) ∧
      (kept.filterMap (·.arrival?)).Sublist (moves.filterMap (·.arrival?)) ∧
      Undisturbed purpose (run S moves) (run S kept) ∧
      (System.unfinished (run S moves).system = ∅ →
        (∀ k c, (run S kept).system.call? k = some c → ((run S kept).system.result? k).isSome) ∧
          (run S kept).system.shared.locks.size = 0) := by
  -- Clients to whom no task was begun do not come at all.
  let keep (key : Nat) : Bool := ((run S moves).task? key).isSome
  let came := moves.filter fun m => m.key?.all keep
  have without : Without keep (run S moves) (run S came) :=
    without_run keep moves fun key out => by simpa [keep] using out
  have begun : ∀ key r, (run S came).exchanges key ≠ some (.abandoned r) := by
    intro key r found
    rw [without.exchanges] at found
    split at found
    · rename_i kept
      simp [keep, task?, found, Exchange.task?] at kept
    · cases found
  -- All others stay.
  have stayed := stayed_run service patient came begun
  -- Those who were dropped come to their ends, too.
  let outside (e : Effect) : e.Answer := e.nonempty_answer.some
  obtain ⟨more, inner, undropped, ended⟩ := stayed.system.exists_ended service patient outside
    stayed.ordered stayed.ordered' (run S came).system.tasks.length
  obtain ⟨rest, own, after⟩ :=
    exists_inner (f := run S (came.filter fun m => !m.isLeave)) (S := S) more inner
  have all : run S (came.filter (fun m => !m.isLeave) ++ rest) = _ :=
    (run_append _ rest).trans after
  rw [without.system] at undropped ended
  have exchanges : ∀ key, (run S (came.filter (fun m => !m.isLeave) ++ rest)).exchanges key =
      ((run S moves).exchanges key).bind (·.served?) := by
    intro key
    rw [all, stayed.exchanges, without.exchanges]
    cases found : (run S moves).exchanges key with
    | none => simp
    | some x => cases x <;> simp [keep, task?, found, Exchange.task?, Exchange.served?,
        Exchange.stayed]
  have undisturbed : Undisturbed purpose (run S moves)
      (run S (came.filter (fun m => !m.isLeave) ++ rest)) := by
    refine .of_undropped service exchanges (by rw [all]; exact undropped) fun k dropped => ?_
    obtain ⟨c, e, task⟩ := System.isDropped_iff.1 dropped
    rw [all]
    exact ended k (List.getElem?_eq_some_iff.1 task).1 dropped
  refine ⟨came.filter (fun m => !m.isLeave) ++ rest, fun m member => ?_, ?_, undisturbed,
    undisturbed.all_ended patient (without.system ▸ stayed.ordered) ?_⟩
  · rcases List.mem_append.1 member with old | new
    · simpa using (List.mem_filter.1 old).2
    · have part := own m new
      cases m <;> first | rfl | cases part
  · have none : rest.filterMap (·.arrival?) = [] := by
      refine List.filterMap_eq_nil_iff.2 fun m member => ?_
      have part := own m member
      cases m <;> first | rfl | cases part
    rw [List.filterMap_append, none, List.append_nil]
    exact (List.filter_sublist.trans List.filter_sublist).filterMap _
  · rw [all]
    exact undropped.length

end Front

end Interleaving

namespace Http

open Interleaving

/-- A route by which something is created or deleted refuses a body at once, or goes on when the
client goes away. -/
theorem Route.detached_or_answered (site : Site) (body : Bytes) {route : Route}
    (changes : route = .create ∨ route = .delete) :
    (route.handle site body).isDetached ∨
      ∃ response, route.handle site body = .answered response := by
  rcases changes with rfl | rfl <;>
    · rw [Route.handle, decoded]
      split
      · exact .inl rfl
      · exact .inr ⟨_, rfl⟩

/-- So nobody can drop a request that creates or deletes. -/
theorem lasts (site : Site) (r : Request)
    (route : Route.ofPath? (pathOf r.target) = some .create ∨
      Route.ofPath? (pathOf r.target) = some .delete) : (requests site).Lasts r := by
  obtain ⟨route, found, changes⟩ : ∃ route, Route.ofPath? (pathOf r.target) = some route ∧
      (route = .create ∨ route = .delete) := by
    rcases route with create | delete
    · exact ⟨_, create, .inl rfl⟩
    · exact ⟨_, delete, .inr rfl⟩
  have handled : (handle site r).isDetached ∨ ∃ response, handle site r = .answered response := by
    rw [handle, found]
    by_cases taken : route.methods.contains r.method
    · have bodied : r.method ≠ "HEAD" := by
        intro bodiless
        rw [bodiless] at taken
        rcases changes with rfl | rfl <;> simp [Route.methods] at taken
      simp only [taken, bodied, Bool.not_true, Bool.false_eq_true, if_false]
      split
      · exact .inr ⟨_, rfl⟩
      · exact Route.detached_or_answered site r.body changes
    · simp only [taken, Bool.not_false, if_true]
      exact .inr ⟨_, rfl⟩
  rcases handled with detached | ⟨response, answered⟩
  · exact .inl (by simp [requests, detached])
  · exact .inr ⟨response, by simp [requests, answered, Handling.program]⟩

/-- Clients may go away at any point of any history. A request to create or delete of which the
client goes away before it is read in full leaves the system as if it had never come, for good. If
the client goes away later, the system is at each point as if it had stayed; the request is not
dropped, and comes to its end whatever it is answered. So for all histories there is one of some of
the same clients, of whom none goes away, that ends alike. -/
theorem disconnect_all_or_nothing (site : Site) (moves : List (ClientMove Request)) :
    let S := requests site
    let f := Front.run S moves
    (∀ before after key r, moves = before ++ .leave key :: after →
      (Route.ofPath? (pathOf r.target) = some .create ∨
        Route.ofPath? (pathOf r.target) = some .delete) →
      ((Front.run S before).exchanges key = some (.waiting r) →
        f.exchanges key = some (.abandoned r) ∧
          f.system = (Front.run S ((before ++ after).filter fun m => m.key? ≠ some key)).system) ∧
      ∀ k, (Front.run S before).exchanges key = some (.begun r k) →
        f.exchanges key = some (.left r k) ∧
          (let g := Front.run S (before ++ after.filter fun m => !m.isLeaveOf key);
            g.exchanges key = some (.begun r k) ∧ f.system = g.system) ∧
          f.system.isDropped k = false ∧
          ∀ outside : (e : Effect) → e.Answer, ∃ more : List (ClientMove Request),
            (∀ m ∈ more, m.IsInner outside) ∧
              ((Front.run S (moves ++ more)).system.result? k).isSome) ∧
      ∃ kept : List (ClientMove Request), (∀ m ∈ kept, m.isLeave = false) ∧
        (kept.filterMap (·.arrival?)).Sublist (moves.filterMap (·.arrival?)) ∧
        Front.Undisturbed purpose f (Front.run S kept) ∧
        (System.unfinished f.system = ∅ →
          (∀ k r, (Front.run S kept).system.call? k = some r →
            ((Front.run S kept).system.result? k).isSome) ∧
            (Front.run S kept).system.shared.locks.size = 0) := by
  have reads (r : Request) : (requests site).droppable r → (purpose r).uid? = none := patient site r
  refine ⟨fun before after key r split route => ?_,
    Front.exists_undisturbed (conducted site) reads moves⟩
  subst split
  refine ⟨fun waits => Front.system_of_abandoned before after waits, fun k begun => ?_⟩
  have gone := Front.leftBy_of_begun before after (lasts site r route) begun
  have call := Front.call?_of_begun _ gone.begun
  rw [gone.system] at call
  have ends (outside : (e : Effect) → e.Answer) :=
    Front.exists_ended_of_lasts (conducted site) reads outside (before ++ .leave key :: after)
      (lasts site r route) call
  exact ⟨gone.left, ⟨gone.begun, gone.system.symm⟩, (ends obliging).1, fun outside =>
    (ends outside).2⟩

/-- A request to create a pod with one container. -/
def creationRequest : Request :=
  ⟨"POST", "/create", Utf8.ofString ("[\x7b\"pod\": \x7b\"metadata\": " ++
    "\x7b\"name\": \"w\", \"namespace\": \"n\", \"uid\": \"u\"\x7d, " ++
    "\"spec\": \x7b\"containers\": [\x7b\"name\": \"a\", \"image\": \"i\"\x7d]\x7d\x7d\x7d]")⟩

/-- A request to delete it. -/
def deletionRequest : Request :=
  ⟨"POST", "/delete",
    Utf8.ofString "\x7b\"name\": \"w\", \"namespace\": \"n\", \"uid\": \"u\"\x7d"⟩

/-- The pod's lock is taken, and another client comes. -/
def twoClients : List (ClientMove Request) :=
  [.arrive 0 creationRequest, .read 0, .lock (.enter 0 "u"), .lock (.grant 0),
    .perform 0 obliging, .arrive 1 deletionRequest]

/-- The pod is created to the end. -/
def abandonedCreation : List (ClientMove Request) :=
  List.replicate 3 (.perform 0 obliging) ++ [.lock (.leave 0)]

theorem abandoned_create_completes :
    let S := requests ⟨"/data", true⟩
    let f := Front.run S (twoClients ++ .leave 1 :: .leave 0 :: abandonedCreation)
    f.exchanges 0 = some (.left creationRequest 0) ∧
      f.exchanges 1 = some (.abandoned deletionRequest) ∧
      Acts.live f.system.acts = ["a-u"] ∧
      f.system.shared.tracker.lookup "u" = some [⟨"a", "a-u"⟩] ∧
      (Front.run S (twoClients ++ .leave 1 :: abandonedCreation)).system = f.system ∧
      ∃ kept : List (ClientMove Request), (∀ m ∈ kept, m.isLeave = false) ∧
        Acts.live (Front.run S kept).system.acts = ["a-u"] ∧
        (Front.run S kept).system.shared.locks.size = 0 := by
  intro S f
  let after : List (ClientMove Request) := .leave 0 :: abandonedCreation
  have history : Acts.live f.system.acts = ["a-u"] ∧
      f.system.shared.tracker.lookup "u" = some [⟨"a", "a-u"⟩] ∧
      System.unfinished f.system = ∅ ∧
      (Front.run S twoClients).exchanges 1 = some (.waiting deletionRequest) ∧
      (Front.run S (twoClients ++ [.leave 1])).exchanges 0 =
        some (.begun creationRequest 0) ∧
      Route.ofPath? (pathOf creationRequest.target) = some .create ∧
      Route.ofPath? (pathOf deletionRequest.target) = some .delete := by decide +kernel
  obtain ⟨live, noted, none_left, waits, begun, create, delete⟩ := history
  obtain ⟨disconnects, kept, stay, -, same, ended⟩ := disconnect_all_or_nothing ⟨"/data", true⟩
    (twoClients ++ .leave 1 :: .leave 0 :: abandonedCreation)
  have first := (disconnects (twoClients ++ [.leave 1]) abandonedCreation 0 creationRequest
    (by rw [List.append_assoc]; rfl) (.inl create)).2 0 begun
  have second := (disconnects twoClients after 1 deletionRequest rfl (.inr delete)).1 waits
  refine ⟨first.1, second.1, live, noted, ?_, kept, stay, same.live.trans live, (ended none_left).2⟩
  have whole : (twoClients ++ [.leave 1]) ++
      abandonedCreation.filter (fun m => !m.isLeaveOf 0) =
        twoClients ++ .leave 1 :: abandonedCreation := rfl
  rw [first.2.1.2, whole]

end Http

end Podkeeper
