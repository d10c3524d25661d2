import Podkeeper.Proofs.Interleaving.Dropping

/-!
Clients that go away.

A client's request is read in full before a task is begun for it, and a client may go away at any
point. If no task was begun, it is as if the client had never come (`Front.system_of_abandoned`). If
one was that nobody can drop, it is as if the client had stayed (`Front.leftBy_of_begun`), and the
task comes to its end (`Front.exists_ended_of_lasts`).
-/

namespace Podkeeper

namespace Interleaving

variable {ι α : Type}

/-! ### Clients -/

/-- How far a client has come with its request. -/
inductive Exchange (ι : Type) where
  /-- The request is not read in full. -/
  | waiting (r : ι)
  /-- The client went away before it was. -/
  | abandoned (r : ι)
  /-- A task was begun for the request. -/
  | begun (r : ι) (task : Nat)
  /-- The client went away after that. -/
  | left (r : ι) (task : Nat)
deriving DecidableEq

namespace Exchange

/-- The task that was begun. -/
def task? : Exchange ι → Option Nat
  | .waiting _ | .abandoned _ => none
  | .begun _ k | .left _ k => some k

/-- The client went away. -/
def isGone : Exchange ι → Bool
  | .waiting _ | .begun _ _ => false
  | .abandoned _ | .left _ _ => true

/-- What it is if the client stays, and comes only if its task is begun. -/
def served? : Exchange ι → Option (Exchange ι)
  | .waiting _ | .abandoned _ => none
  | .begun r k | .left r k => some (.begun r k)

/-- The client that went away would still be there. -/
def stayed : Exchange ι → Exchange ι
  | .left r k => .begun r k
  | x => x

end Exchange

/-- Clients by their keys, and the system behind them. -/
structure Front (ι α : Type) where
  exchanges : Nat → Option (Exchange ι)
  system : System ι α

/-- What may happen next where there are clients. -/
inductive ClientMove (ι : Type) where
  /-- A client comes with a request. -/
  | arrive (key : Nat) (r : ι)
  /-- Its request is read in full, and a task is begun. -/
  | read (key : Nat)
  /-- It goes away. -/
  | leave (key : Nat)
  /-- An atomic step of the locks. -/
  | lock (t : Locks.Step Nat)
  /-- A task performs its next effect; what it asks outside is answered as the move says. -/
  | perform (task : Nat) (outside : (e : Effect) → e.Answer)

namespace ClientMove

/-- The client whose move it is. -/
def key? : ClientMove ι → Option Nat
  | .arrive key _ | .read key | .leave key => some key
  | .lock _ | .perform _ _ => none

/-- A client goes away. -/
def isLeave : ClientMove ι → Bool
  | .leave _ => true
  | _ => false

/-- One client goes away. -/
def isLeaveOf (key : Nat) : ClientMove ι → Bool
  | .leave key' => key' = key
  | _ => false

/-- The client that comes, with its request. -/
def arrival? : ClientMove ι → Option (Nat × ι)
  | .arrive key r => some (key, r)
  | _ => none

/-- No client has part in it; tasks that go on are answered by `outside`. -/
def IsInner (outside : (e : Effect) → e.Answer) : ClientMove ι → Prop
  | .lock _ => True
  | .perform _ answers => answers = outside
  | _ => False

end ClientMove

namespace Front

def empty : Front ι α := ⟨fun _ => none, ∅⟩

instance : EmptyCollection (Front ι α) := ⟨empty⟩

def put (f : Front ι α) (key : Nat) (x : Exchange ι) (s : System ι α) : Front ι α :=
  ⟨Function.update f.exchanges key (some x), s⟩

/-- The front after a move. A client that goes away drops its task, if it can be dropped. -/
def step (S : Service ι α) (f : Front ι α) : ClientMove ι → Front ι α
  | .arrive key r =>
    match f.exchanges key with
    | none => f.put key (.waiting r) f.system
    | some _ => f
  | .read key =>
    match f.exchanges key with
    | some (.waiting r) =>
      f.put key (.begun r f.system.tasks.length) (f.system.step S (.call r))
    | _ => f
  | .leave key =>
    match f.exchanges key with
    | some (.waiting r) => f.put key (.abandoned r) f.system
    | some (.begun r k) => f.put key (.left r k) (f.system.step S (.drop k))
    | _ => f
  | .lock t => { f with system := f.system.step S (.lock t) }
  | .perform k outside => { f with system := f.system.step S (.perform k outside) }

/-- The front after more moves. -/
def after (S : Service ι α) (f : Front ι α) (moves : List (ClientMove ι)) : Front ι α :=
  moves.foldl (step S) f

/-- The front after moves in order, from the beginning. -/
def run (S : Service ι α) (moves : List (ClientMove ι)) : Front ι α := after S ∅ moves

variable {S : Service ι α} {f g : Front ι α} {key : Nat} {r : ι} {k : Nat}

theorem run_append (moves more : List (ClientMove ι)) :
    run S (moves ++ more) = (run S moves).after S more := List.foldl_append

theorem run_concat (moves : List (ClientMove ι)) (m : ClientMove ι) :
    run S (moves ++ [m]) = (run S moves).step S m := run_append moves [m]

theorem exchanges_put (f : Front ι α) (key other : Nat) (x : Exchange ι) (s : System ι α) :
    (f.put key x s).exchanges other = if other = key then some x else f.exchanges other :=
  Function.update_apply f.exchanges key (some x) other

/-- The task that was begun for a client. -/
def task? (f : Front ι α) (key : Nat) : Option Nat := (f.exchanges key).bind (·.task?)

theorem task?_put (f : Front ι α) (key other : Nat) (x : Exchange ι) (s : System ι α) :
    (f.put key x s).task? other = if other = key then x.task? else f.task? other := by
  rw [task?, exchanges_put]
  split <;> rfl

/-- All that a move can do, with what it takes. -/
inductive Change (S : Service ι α) (f : Front ι α) : ClientMove ι → Front ι α → Prop where
  | idle (m : ClientMove ι) (key : Nat) (own : m.key? = some key) : Change S f m f
  | arrive (key : Nat) (r : ι) (new : f.exchanges key = none) :
      Change S f (.arrive key r) (f.put key (.waiting r) f.system)
  | read (key : Nat) (r : ι) (waits : f.exchanges key = some (.waiting r)) :
      Change S f (.read key)
        (f.put key (.begun r f.system.tasks.length) (f.system.step S (.call r)))
  | abandon (key : Nat) (r : ι) (waits : f.exchanges key = some (.waiting r)) :
      Change S f (.leave key) (f.put key (.abandoned r) f.system)
  | leave (key : Nat) (r : ι) (k : Nat) (begun : f.exchanges key = some (.begun r k)) :
      Change S f (.leave key) (f.put key (.left r k) (f.system.step S (.drop k)))
  | lock (t : Locks.Step Nat) :
      Change S f (.lock t) { f with system := f.system.step S (.lock t) }
  | perform (k : Nat) (outside : (e : Effect) → e.Answer) :
      Change S f (.perform k outside) { f with system := f.system.step S (.perform k outside) }

theorem step_change (f : Front ι α) (m : ClientMove ι) : Change S f m (f.step S m) := by
  cases m with
  | arrive key r =>
      simp only [step]
      split
      · exact .arrive key r ‹_›
      · exact .idle _ key rfl
  | read key =>
      simp only [step]
      split
      · exact .read key _ ‹_›
      · exact .idle _ key rfl
  | leave key =>
      simp only [step]
      split
      · exact .abandon key _ ‹_›
      · exact .leave key _ _ ‹_›
      · exact .idle _ key rfl
  | lock t => exact .lock t
  | perform k outside => exact .perform k outside

theorem exchanges_step_of_ne {m : ClientMove ι} (other : m.key? ≠ some key) :
    (f.step S m).exchanges key = f.exchanges key := by
  have step := step_change (S := S) f m
  generalize f.step S m = f' at step
  have apart (key' : Nat) (own : m.key? = some key') : key ≠ key' :=
    fun same => other (same ▸ own)
  cases step with
  | idle | lock | perform => rfl
  | arrive key' | abandon key' | read key' | leave key' =>
      rw [exchanges_put, if_neg (apart key' rfl)]

/-- A move does the same where the system and the client whose move it is are the same. -/
theorem step_congr {m : ClientMove ι} (system : g.system = f.system)
    (same : ∀ key, m.key? = some key → g.exchanges key = f.exchanges key) :
    (g.step S m).system = (f.step S m).system ∧
      ∀ key, g.exchanges key = f.exchanges key →
        (g.step S m).exchanges key = (f.step S m).exchanges key := by
  cases m with
  | lock | perform => exact ⟨by simp only [step, system], fun _ same => same⟩
  | arrive key' | read key' | leave key' =>
      have own := same key' rfl
      simp only [step, own, system]
      split <;> refine ⟨by simp only [put, system], fun key same => ?_⟩ <;>
        simp only [exchanges_put, same]

/-- A client that comes to no task does nothing. -/
theorem system_step_of_unbegun {m : ClientMove ι} (own : m.key? = some key)
    (unbegun : (f.step S m).task? key = none) : (f.step S m).system = f.system := by
  have step := step_change (S := S) f m
  generalize f.step S m = f' at step unbegun
  cases step with
  | idle | arrive | abandon => rfl
  | read | leave =>
      cases own
      rw [task?_put, if_pos rfl] at unbegun
      cases unbegun
  | lock | perform => cases own

/-- A client keeps the task that was begun. -/
theorem task?_step (task : f.task? key = some k) (m : ClientMove ι) :
    (f.step S m).task? key = some k := by
  have step := step_change (S := S) f m
  generalize f.step S m = f' at step
  have known {x : Exchange ι} (found : f.exchanges key = some x) : x.task? = some k := by
    simpa [task?, found] using task
  cases step with
  | idle | lock | perform => exact task
  | arrive key' r new =>
      rw [task?_put]
      split
      · rename_i same
        rw [task?, same, new] at task
        cases task
      · exact task
  | read key' r found | abandon key' r found =>
      rw [task?_put]
      split
      · rename_i same
        cases known (same ▸ found)
      · exact task
  | leave key' r k' found =>
      rw [task?_put]
      split
      · rename_i same
        have begun := known (same ▸ found)
        exact begun
      · exact task

/-- Who went away does not come back. -/
theorem exchanges_step_of_gone {x : Exchange ι} (found : f.exchanges key = some x)
    (gone : x.isGone) (m : ClientMove ι) : (f.step S m).exchanges key = some x := by
  by_cases own : m.key? = some key
  · cases x with
    | waiting | begun => cases gone
    | abandoned | left =>
        cases m with
        | lock | perform => exact found
        | arrive | read | leave =>
            cases own
            simp only [step, found]
  · rw [exchanges_step_of_ne own, found]

theorem exchanges_after_of_gone {x : Exchange ι} (found : f.exchanges key = some x)
    (gone : x.isGone) (moves : List (ClientMove ι)) :
    (f.after S moves).exchanges key = some x := by
  induction moves generalizing f with
  | nil => exact found
  | cons m moves ih => exact ih (exchanges_step_of_gone found gone m)

/-- A front is a system behind clients: what the system does there is some run of it. -/
theorem exists_run (moves : List (ClientMove ι)) :
    ∃ inner, (run S moves).system = System.run S inner := by
  induction moves using List.reverseRecOn with
  | nil => exact ⟨[], rfl⟩
  | append_singleton moves m ih =>
      obtain ⟨inner, same⟩ := ih
      have one (m : Move ι) : (run S moves).system.step S m = System.run S (inner ++ [m]) := by
        rw [same, System.run_append]
        rfl
      rw [run_concat]
      have step := step_change (S := S) (run S moves) m
      generalize (run S moves).step S m = f' at step
      cases step with
      | idle | arrive | abandon => exact ⟨inner, same⟩
      | read key r => exact ⟨_, one (.call r)⟩
      | leave key r k => exact ⟨_, one (.drop k)⟩
      | lock t => exact ⟨_, one (.lock t)⟩
      | perform k outside => exact ⟨_, one (.perform k outside)⟩

/-- What holds of two fronts at the beginning, and is kept where moves are left out of one of them,
holds in the end. -/
theorem run_filter_induction {R : Front ι α → Front ι α → Prop} {keep : ClientMove ι → Bool}
    (start : R ∅ ∅) (moves : List (ClientMove ι))
    (step : ∀ before m g, before ++ [m] <+: moves → R (run S before) g →
      R (run S (before ++ [m])) (if keep m then g.step S m else g)) :
    R (run S moves) (run S (moves.filter keep)) := by
  induction moves using List.reverseRecOn with
  | nil => exact start
  | append_singleton moves m ih =>
      have earlier := ih fun before m g front =>
        step before m g (front.trans (List.prefix_append ..))
      have last := step moves m _ List.prefix_rfl earlier
      rw [List.filter_append]
      split at last
      · rename_i kept
        rw [List.filter_cons_of_pos kept, List.filter_nil, run_concat (moves.filter keep)]
        exact last
      · rename_i left_out
        rw [List.filter_cons_of_neg left_out, List.filter_nil, List.append_nil]
        exact last

/-! ### Clients without a task -/

/-- Two fronts are the same but for some clients, who are not there in one of them. -/
structure Without (keep : Nat → Bool) (f g : Front ι α) : Prop where
  system : g.system = f.system
  exchanges : ∀ key, g.exchanges key = if keep key then f.exchanges key else none

theorem Without.step {keep : Nat → Bool} (h : Without keep f g) {m : ClientMove ι}
    (unbegun : ∀ key, keep key = false → (f.step S m).task? key = none) :
    Without keep (f.step S m) (if m.key?.all keep then g.step S m else g) := by
  by_cases kept : m.key?.all keep
  · rw [if_pos kept]
    obtain ⟨system, same⟩ := step_congr (S := S) (m := m) h.system fun key own => by
      rw [own] at kept
      exact (h.exchanges key).trans (if_pos kept)
    refine ⟨system, fun key => ?_⟩
    cases among : keep key with
    | true => exact same key (by rw [h.exchanges, among]; rfl)
    | false =>
        have other : m.key? ≠ some key := fun own => by simp [own, among] at kept
        rw [exchanges_step_of_ne other, h.exchanges, among]
        rfl
  · rw [if_neg kept]
    obtain ⟨key', own, out⟩ : ∃ key, m.key? = some key ∧ keep key = false := by
      cases own : m.key? with
      | none => simp [own] at kept
      | some key => exact ⟨key, rfl, by simpa [own] using kept⟩
    refine ⟨h.system.trans (system_step_of_unbegun own (unbegun key' out)).symm, fun key => ?_⟩
    rw [h.exchanges]
    split
    · rename_i among
      have other : m.key? ≠ some key := by
        rw [own]
        rintro same
        cases same
        cases out.symm.trans among
      rw [exchanges_step_of_ne other]
    · rfl

theorem task?_of_prefix {before moves : List (ClientMove ι)} (front : before <+: moves)
    (unbegun : (run S moves).task? key = none) : (run S before).task? key = none := by
  obtain ⟨later, rfl⟩ := front
  induction later using List.reverseRecOn with
  | nil => rwa [List.append_nil] at unbegun
  | append_singleton later m ih =>
      refine ih ?_
      by_contra some
      obtain ⟨k, task⟩ := Option.ne_none_iff_exists'.1 some
      rw [← List.append_assoc, run_concat, task?_step task m] at unbegun
      cases unbegun

/-- Where the tasks of clients were not begun it is as if they had never come. -/
theorem without_run (keep : Nat → Bool) (moves : List (ClientMove ι))
    (unbegun : ∀ key, keep key = false → (run S moves).task? key = none) :
    Without keep (run S moves) (run S (moves.filter fun m => m.key?.all keep)) := by
  refine run_filter_induction ⟨rfl, fun key => by split <;> rfl⟩ moves fun before m g front h => ?_
  rw [run_concat]
  refine h.step fun key other => ?_
  rw [← run_concat]
  exact task?_of_prefix front (unbegun key other)

/-! ### Clients with a task -/

/-- Two fronts are the same but for one client whose task was begun, who went away in one of
them. -/
structure LeftBy (key : Nat) (r : ι) (k : Nat) (f g : Front ι α) : Prop where
  system : g.system = f.system
  left : f.exchanges key = some (.left r k)
  begun : g.exchanges key = some (.begun r k)
  others : ∀ other, other ≠ key → g.exchanges other = f.exchanges other

theorem LeftBy.step (h : LeftBy key r k f g) (m : ClientMove ι) :
    LeftBy key r k (f.step S m) (if !m.isLeaveOf key then g.step S m else g) := by
  by_cases own : m.key? = some key
  · have idle : f.step S m = f ∧ (if !m.isLeaveOf key then g.step S m else g) = g := by
      cases m with
      | lock | perform => cases own
      | arrive | read | leave =>
          cases own
          simp [Front.step, ClientMove.isLeaveOf, h.left, h.begun]
    rw [idle.1, idle.2]
    exact h
  · have stays : m.isLeaveOf key = false := by
      cases m with
      | leave => simpa [ClientMove.isLeaveOf, ClientMove.key?] using own
      | _ => rfl
    obtain ⟨system, same⟩ := step_congr (S := S) (m := m) h.system fun other mine =>
      h.others other fun equal => own (equal ▸ mine)
    simp only [stays, Bool.not_false, if_true]
    refine ⟨system, ?_, ?_, fun other differs => same other (h.others other differs)⟩
    · exact (exchanges_step_of_ne own).trans h.left
    · exact (exchanges_step_of_ne own).trans h.begun

/-- So they stay, whatever happens. -/
theorem LeftBy.after (h : LeftBy key r k f g) (moves : List (ClientMove ι)) :
    LeftBy key r k (f.after S moves) (g.after S (moves.filter fun m => !m.isLeaveOf key)) := by
  induction moves generalizing f g with
  | nil => exact h
  | cons m moves ih =>
      have next := ih (h.step (S := S) m)
      rw [List.filter_cons]
      split at next <;> rename_i leaves
      · rw [if_pos leaves]
        exact next
      · rw [if_neg leaves]
        exact next

/-! ### Requests that last -/

/-- The task that was begun for a client is that of its request. -/
theorem call?_of_begun (moves : List (ClientMove ι))
    (begun : (run S moves).exchanges key = some (.begun r k)) :
    (run S moves).system.call? k = some r := by
  induction moves using List.reverseRecOn with
  | nil => cases begun
  | append_singleton moves m ih =>
      rw [run_concat] at begun ⊢
      have step := step_change (S := S) (run S moves) m
      generalize (run S moves).step S m = f' at step begun
      cases step with
      | idle => exact ih begun
      | lock t => exact System.call?_step (S := S) (ih begun) (.lock t)
      | perform j outside => exact System.call?_step (S := S) (ih begun) (.perform j outside)
      | arrive | abandon =>
          rw [exchanges_put] at begun
          split at begun
          · cases Option.some.inj begun
          · exact ih begun
      | read key' r' =>
          rw [exchanges_put] at begun
          split at begun
          · cases Option.some.inj begun
            show (System.mk _ ((run S moves).system.tasks ++ [_]) _).call? _ = _
            rw [System.call?, System.getElem?_called, if_pos rfl]
            rfl
          · exact System.call?_step (ih begun) (.call r')
      | leave key' r' k' =>
          rw [exchanges_put] at begun
          split at begun
          · cases Option.some.inj begun
          · exact System.call?_step (ih begun) (.drop k')

end Front

/-- Nobody can drop the task of the call while anything is left of it. -/
def Service.Lasts (S : Service ι α) (c : ι) : Prop :=
  S.droppable c = false ∨ ∃ a, S.program c = .done a

namespace System

variable {S : Service ι α} {purpose : ι → Purpose} {succeeded : α → Prop} {c : ι} {k : Nat}

/-- A call that is answered at once never waits for anything. -/
theorem rest_of_done (moves : List (Move ι)) :
    ∀ (k : Nat) c rest a, (run S moves).tasks[k]? = some ⟨c, rest⟩ → S.program c = .done a →
      rest = .going (.done a) := by
  refine run_induction (P := fun s : System ι α => ∀ (k : Nat) c rest a,
    s.tasks[k]? = some ⟨c, rest⟩ → S.program c = .done a → rest = .going (.done a)) ?_ ?_ moves
  · exact fun _ _ _ _ task => by cases task
  intro s s' before move k c rest a task done
  cases move with
  | idle | lock => exact before k c rest a task done
  | call d =>
      rw [getElem?_called] at task
      split at task
      · cases Option.some.inj task
        rw [done]
      · exact before k c rest a task done
  | perform j d e next answer found =>
      rw [getElem?_performed found] at task
      split at task
      · cases Option.some.inj task
        cases before j c _ a found done
      · exact before k c rest a task done
  | drop j d e next found =>
      rw [getElem?_setRest found] at task
      split at task
      · cases Option.some.inj task
        cases before j c _ a found done
      · exact before k c rest a task done

theorem not_dropped_of_lasts (service : S.Conducted purpose succeeded) (moves : List (Move ι))
    (lasts : S.Lasts c) (call : (run S moves).call? k = some c) :
    (run S moves).isDropped k = false := by
  rw [← Bool.not_eq_true, isDropped_iff]
  rintro ⟨d, e, task⟩
  rw [call?, task] at call
  obtain rfl : d = c := Option.some.inj call
  rcases lasts with free | ⟨a, done⟩
  · cases free.symm.trans ((Attended.run service moves).droppable k d e task)
  · cases rest_of_done moves k d _ a task done

/-- So it makes no difference if somebody tries. -/
theorem step_drop_of_lasts (moves : List (Move ι)) (lasts : S.Lasts c)
    (call : (run S moves).call? k = some c) : (run S moves).step S (.drop k) = run S moves := by
  simp only [step]
  split
  · rename_i d e next task
    rw [call?, task] at call
    obtain rfl : d = c := Option.some.inj call
    rcases lasts with free | ⟨a, done⟩
    · simp [free]
    · cases rest_of_done moves k d _ a task done
  · rfl

end System

namespace Front

variable {S : Service ι α} {purpose : ι → Purpose} {succeeded : α → Prop} {f g : Front ι α}
  {key k : Nat} {r : ι}

/-! ### One client that goes away -/

/-- Who goes away before its request is read in full might as well not have come. -/
theorem system_of_abandoned (before after : List (ClientMove ι))
    (waits : (run S before).exchanges key = some (.waiting r)) :
    (run S (before ++ .leave key :: after)).exchanges key = some (.abandoned r) ∧
      (run S (before ++ .leave key :: after)).system =
        (run S ((before ++ after).filter fun m => m.key? ≠ some key)).system := by
  have gone : (run S (before ++ .leave key :: after)).exchanges key = some (.abandoned r) := by
    rw [run_append]
    refine exchanges_after_of_gone (f := (run S before).step S (.leave key)) ?_ rfl after
    simp only [step, waits, exchanges_put, if_true]
  have without := without_run (fun other => other ≠ key) (before ++ .leave key :: after)
    fun other same => by
      have same : other = key := by simpa using same
      rw [task?, same, gone]
      rfl
  refine ⟨gone, without.system.symm.trans (congrArg (fun moves => (run S moves).system) ?_)⟩
  rw [List.filter_append, List.filter_append,
    List.filter_cons_of_neg (by simp [ClientMove.key?])]
  refine congrArg₂ (· ++ ·) ?_ ?_ <;>
    exact List.filter_congr fun m _ => by cases m <;> simp [ClientMove.key?]

/-- Who goes away after that might as well have stayed, if its request lasts. -/
theorem leftBy_of_begun (before after : List (ClientMove ι)) (lasts : S.Lasts r)
    (begun : (run S before).exchanges key = some (.begun r k)) :
    LeftBy key r k (run S (before ++ .leave key :: after))
      (run S (before ++ after.filter fun m => !m.isLeaveOf key)) := by
  obtain ⟨inner, same⟩ := exists_run (S := S) before
  have call := call?_of_begun before begun
  rw [run_append, run_append]
  refine LeftBy.after (f := (run S before).step S (.leave key)) ?_ after
  have step : (run S before).step S (.leave key) =
      (run S before).put key (.left r k) (run S before).system := by
    simp only [Front.step, begun]
    rw [same] at call ⊢
    rw [System.step_drop_of_lasts inner lasts call]
  rw [step]
  refine ⟨rfl, ?_, begun, fun other differs => ?_⟩
  · rw [exchanges_put, if_pos rfl]
  · rw [exchanges_put, if_neg differs]

theorem exists_inner {outside : (e : Effect) → e.Answer} (more : List (Move ι))
    (inner : ∀ m ∈ more, m.IsInner outside) :
    ∃ moves : List (ClientMove ι), (∀ m ∈ moves, m.IsInner outside) ∧
      f.after S moves = ⟨f.exchanges, f.system.after S more⟩ := by
  induction more generalizing f with
  | nil => exact ⟨[], by simp, rfl⟩
  | cons m more ih =>
      obtain ⟨first, rest⟩ := List.forall_mem_cons.1 inner
      cases m with
      | call | drop => cases first
      | lock t =>
          obtain ⟨moves, own, same⟩ := ih (f := f.step S (.lock t)) rest
          exact ⟨.lock t :: moves, List.forall_mem_cons.2 ⟨trivial, own⟩, same⟩
      | perform k answers =>
          obtain ⟨moves, own, same⟩ := ih (f := f.step S (.perform k answers)) rest
          exact ⟨.perform k answers :: moves, List.forall_mem_cons.2 ⟨first, own⟩, same⟩

/-- A request that lasts comes to its end, whatever it is answered, if only all others that were
begun go on, too. -/
theorem exists_ended_of_lasts (service : S.Conducted purpose succeeded)
    (patient : ∀ c, S.droppable c → (purpose c).uid? = none) (outside : (e : Effect) → e.Answer)
    (moves : List (ClientMove ι)) (lasts : S.Lasts r)
    (call : (run S moves).system.call? k = some r) :
    (run S moves).system.isDropped k = false ∧
      ∃ more : List (ClientMove ι), (∀ m ∈ more, m.IsInner outside) ∧
        ((run S (moves ++ more)).system.result? k).isSome := by
  obtain ⟨inner, same⟩ := exists_run (S := S) moves
  rw [same] at call
  refine ⟨same ▸ System.not_dropped_of_lasts service inner lasts call, ?_⟩
  obtain ⟨more, own, none_left⟩ := System.exists_completion service patient outside inner
  obtain ⟨rest, own', after⟩ := exists_inner (f := run S moves) (S := S) more own
  refine ⟨rest, own', ?_⟩
  have system : (run S (moves ++ rest)).system = System.run S (inner ++ more) := by
    rw [run_append, after, System.run_append, same]
  have call' : (System.run S (inner ++ more)).call? k = some r := by
    rw [System.run_append]
    exact System.call?_after call more
  have ended := System.isOver_of_call? none_left call'
  rw [System.isOver, System.not_dropped_of_lasts service _ lasts call', Bool.or_false] at ended
  rw [system]
  exact ended

end Front

end Interleaving

end Podkeeper
