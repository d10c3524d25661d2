import Mathlib.Data.Finset.Card
import Podkeeper.Proofs.Interleaving.Turns

/-!
Histories that come to an end.

Nobody waits in a circle. Who waits for a lock waits for a task that has it, and who has a lock
waits for nobody: it can perform whatever it performs next until its program ends, and then hand
in its ticket (`Attended.exists_end`). So from every point all tasks that were not dropped can come
to their ends, one after the other, without any call that comes in (`exists_completion`). When all
are over, no lock is left (`Attended.size_eq_zero`).
-/

namespace Podkeeper

/-! ### Locks -/

namespace Locks

/-- Whose step it is. -/
def Step.owner {κ : Type} : Step κ → κ
  | .enter owner _ | .grant owner | .abandon owner | .unlock owner | .leave owner => owner

variable {κ : Type} [DecidableEq κ] {l : Locks κ} {owner other : κ} {uid : String}

theorem claim?_move_of_ne (apart : other ≠ owner) {before after : ClaimPhase} :
    (l.move owner before after).claim? other = l.claim? other := by
  rw [claim?, move, claim?]
  induction l.claims with
  | nil => rfl
  | cons c claims ih =>
      rw [List.map_cons, List.find?_cons, List.find?_cons, ih]
      by_cases own : c.owner = owner
      · have foreign : c.owner ≠ other := fun same => apart (same.symm.trans own)
        split_ifs <;> simp [foreign]
      · simp [own]

theorem move_eq_self (absent : l.claim? owner = none) {before after : ClaimPhase} :
    l.move owner before after = l := by
  have same : l.claims.map (fun c =>
      if c.owner = owner ∧ c.phase = before then { c with phase := after } else c) = l.claims := by
    refine (List.map_congr_left fun c member => if_neg ?_).trans (List.map_id _)
    exact fun own => claim?_eq_none.1 absent c member own.1
  rw [move, same]

/-- A step of one owner leaves the tickets of all others alone. -/
theorem claim?_step_of_ne {t : Step κ} (apart : other ≠ t.owner) :
    (l.step t).claim? other = l.claim? other := by
  cases t with
  | enter owner uid =>
      have foreign : owner ≠ other := fun same => apart same.symm
      simp only [step, enter]
      split
      · rfl
      · split <;> simp [claim?, foreign]
  | grant owner =>
      simp only [step, grant]
      split
      · split
        · exact claim?_move_of_ne apart
        · rfl
      · rfl
  | abandon owner => exact claim?_move_of_ne apart
  | unlock owner => exact claim?_move_of_ne apart
  | leave owner =>
      simp only [step, leave]
      split
      · split
        · rw [claim?, claim?, List.find?_filter]
          refine congrArg (List.find? · l.claims) (funext fun c => ?_)
          by_cases own : c.owner = other
          · have foreign : c.owner ≠ owner := fun same => apart (own.symm.trans same)
            simp [own ▸ foreign, own]
          · simp [own]
        · rfl
      · rfl

theorem holds_of_mem (h : Consistent l) {c : Claim κ} (member : c ∈ l.claims)
    (holding : c.phase = .holding) : l.holds c.owner := by
  rw [holds, h.claim?_eq member]
  simp [holding]

/-- A ticket for a uid is granted if nobody else has a guard of it. -/
theorem holds_grant (h : Consistent l) {c : Claim κ} (member : c ∈ l.claims)
    (stays : c.phase ≠ .leaving)
    (free : ∀ d ∈ l.claims, d.phase = .holding → d.uid = c.uid → d.owner = c.owner) :
    (l.grant c.owner).holds c.owner := by
  cases phase : c.phase with
  | leaving => exact absurd phase stays
  | holding =>
      have kept : c ∈ (l.step (.grant c.owner)).claims := guard_step h member phase nofun
      exact holds_of_mem (h.grant _) kept phase
  | waiting =>
      have unheld : l.isFree c.mutex := by
        refine List.all_eq_true.2 fun d among => ?_
        by_contra held
        have both : d.mutex = c.mutex ∧ d.phase = .holding := by simpa using held
        obtain ⟨mutex, holding⟩ := both
        have uids : d.uid = c.uid := (h.mutex_eq_iff among member).1 mutex
        have same : d = c := List.inj_on_of_nodup_map h.distinct among member
          (free d among holding uids)
        rw [same, phase] at holding
        cases holding
      have granted :
          (⟨c.owner, c.uid, c.mutex, .holding⟩ : Claim κ) ∈ (l.grant c.owner).claims := by
        rw [grant, h.claim?_eq member]
        simp only [unheld, if_true]
        exact List.mem_map.2 ⟨c, member, if_pos ⟨rfl, phase⟩⟩
      exact holds_of_mem (c := ⟨c.owner, c.uid, c.mutex, .holding⟩) (h.grant _) granted rfl

theorem mem_leave {c : Claim κ} (member : c ∈ (l.leave owner).claims) :
    c ∈ l.claims ∧ ∀ d, l.claim? owner = some d → d.phase = .leaving → c.owner ≠ owner := by
  simp only [leave] at member
  split at member
  · rename_i d found
    split at member
    · obtain ⟨old, foreign⟩ := List.mem_filter.1 member
      exact ⟨old, fun _ _ _ => of_decide_eq_true foreign⟩
    · rename_i stays
      refine ⟨member, fun d' found' leaving => absurd ?_ stays⟩
      rw [Option.some.inj (found.symm.trans found')]
      exact leaving
  · rename_i absent
    exact ⟨member, fun d found => absurd found (by simp [absent])⟩

/-- Who hands in an old ticket, takes a new one and asks for the mutex has it, if nobody else has a
guard of the uid. -/
theorem holds_of_free (h : Consistent l)
    (own : ∀ d ∈ l.claims, d.owner = owner → d.uid = uid)
    (free : ∀ d ∈ l.claims, d.phase = .holding → d.uid = uid → d.owner = owner) :
    (((l.step (.leave owner)).step (.enter owner uid)).step (.grant owner)).holds owner := by
  have handed : (l.leave owner).Consistent := h.leave owner
  show (((l.leave owner).step (.enter owner uid)).grant owner).holds owner
  cases found : (l.leave owner).claim? owner with
  | some c =>
      obtain ⟨member, rfl⟩ := claim?_mem found
      obtain ⟨old, kept⟩ := mem_leave member
      have entered : (l.leave c.owner).step (.enter c.owner uid) = l.leave c.owner := by
        simp [step, found]
      rw [entered]
      refine holds_grant handed member (fun leaving => ?_) fun d among holding same => ?_
      · exact kept c (h.claim?_eq old) leaving rfl
      · exact free d (mem_leave among).1 holding (same.trans (own c old rfl))
  | none =>
      obtain ⟨mutex, claims⟩ := exists_claims_enter (l.leave owner) owner uid
      have entered : (l.leave owner).step (.enter owner uid) = (l.leave owner).enter owner uid := by
        simp [step, found]
      rw [entered]
      refine holds_grant (c := ⟨owner, uid, mutex, .waiting⟩) (handed.enter found) ?_ (by simp) ?_
      · rw [claims]
        exact List.mem_append_right _ (List.mem_singleton_self _)
      · intro d among holding same
        rw [claims] at among
        rcases List.mem_append.1 among with old | new
        · exact free d (mem_leave old).1 holding same
        · rw [List.mem_singleton.1 new] at holding
          cases holding

/-- An old ticket stays one. -/
theorem leaving_step (h : Consistent l) {t : Step κ} {c d : Claim κ} (old : c ∈ l.claims)
    (leaving : c.phase = .leaving) (member : d ∈ (l.step t).claims) (same : d.owner = c.owner) :
    d.phase = .leaving := by
  have kept {d : Claim κ} (among : d ∈ l.claims) (same : d.owner = c.owner) : d = c :=
    List.inj_on_of_nodup_map h.distinct among old same
  have moved {owner : κ} {before after : ClaimPhase}
      (member : d ∈ (l.move owner before after).claims) (other : before ≠ .leaving) :
      d.phase = .leaving := by
    obtain ⟨c', among, own, -, -, rfl | ⟨-, phase, -⟩⟩ := Consistent.mem_move member
    · rw [kept among same, leaving]
    · rw [kept among (own.symm.trans same), leaving] at phase
      exact absurd phase.symm other
  cases t with
  | enter owner uid =>
      simp only [step] at member
      split at member
      · rw [kept member same, leaving]
      · rename_i absent
        obtain ⟨mutex, claims⟩ := exists_claims_enter l owner uid
        rw [claims] at member
        rcases List.mem_append.1 member with among | new
        · rw [kept among same, leaving]
        · rw [List.mem_singleton.1 new] at same
          have unclaimed := claim?_eq_none.1 (Option.not_isSome_iff_eq_none.1 absent) c old
          exact absurd same.symm unclaimed
  | grant owner =>
      simp only [step, grant] at member
      split at member
      · split at member
        · exact moved member (by decide)
        · rw [kept member same, leaving]
      · rw [kept member same, leaving]
  | abandon owner => exact moved member (by decide)
  | unlock owner => exact moved member (by decide)
  | leave owner => rw [kept (mem_leave member).1 same, leaving]

end Locks

namespace Interleaving

variable {ι α : Type}

/-! ### Tasks that go on alone -/

namespace Move

/-- The move is one of a task that goes on with the answers `outside`, or of its ticket. -/
def IsOf (outside : (e : Effect) → e.Answer) (k : Nat) : Move ι → Prop
  | .lock t => t.owner = k
  | .perform j answers => j = k ∧ answers = outside
  | .call _ | .drop _ => False

/-- No call comes in, and no task is dropped; those that go on are answered by `outside`. -/
def IsInner (outside : (e : Effect) → e.Answer) : Move ι → Prop
  | .lock _ => True
  | .perform _ answers => answers = outside
  | .call _ | .drop _ => False

theorem IsOf.isInner {outside : (e : Effect) → e.Answer} {k : Nat} {m : Move ι}
    (own : m.IsOf outside k) : m.IsInner outside := by
  cases m with
  | lock => trivial
  | perform => exact own.2
  | call | drop => cases own

theorem isOf_replicate {outside : (e : Effect) → e.Answer} (k n : Nat) :
    ∀ m ∈ List.replicate n (.perform k outside : Move ι), m.IsOf outside k := by
  intro m member
  rw [List.eq_of_mem_replicate member]
  exact ⟨rfl, rfl⟩

end Move

namespace System

variable {purpose : ι → Purpose} {succeeded : α → Prop} {S : Service ι α} {s s' s'' : System ι α}
  {outside : (e : Effect) → e.Answer} {j k : Nat} {c : ι}

/-- The system after more moves. -/
def after (S : Service ι α) (s : System ι α) (moves : List (Move ι)) : System ι α :=
  moves.foldl (step S) s

theorem run_append (moves more : List (Move ι)) :
    run S (moves ++ more) = (run S moves).after S more := List.foldl_append

theorem after_append (moves more : List (Move ι)) :
    s.after S (moves ++ more) = (s.after S moves).after S more := List.foldl_append

theorem call?_step (call : s.call? k = some c) (m : Move ι) : (s.step S m).call? k = some c :=
  Coherent.call?_of_change (step_change s m) call

theorem call?_after (call : s.call? k = some c) (moves : List (Move ι)) :
    (s.after S moves).call? k = some c := by
  induction moves generalizing s with
  | nil => exact call
  | cons m moves ih => exact ih (call?_step call m)

/-- All tasks but one are left as they were. -/
structure Beside (k : Nat) (s s' : System ι α) : Prop where
  length : s'.tasks.length = s.tasks.length
  tasks : ∀ j, j ≠ k → s'.tasks[j]? = s.tasks[j]?
  tickets : ∀ j, j ≠ k → s'.shared.locks.claim? j = s.shared.locks.claim? j

namespace Beside

theorem refl (k : Nat) (s : System ι α) : Beside k s s := ⟨rfl, fun _ _ => rfl, fun _ _ => rfl⟩

theorem trans (h : Beside k s s') (h' : Beside k s' s'') : Beside k s s'' where
  length := h'.length.trans h.length
  tasks j other := (h'.tasks j other).trans (h.tasks j other)
  tickets j other := (h'.tickets j other).trans (h.tickets j other)

theorem result? (h : Beside k s s') (other : j ≠ k) : s'.result? j = s.result? j := by
  simp only [System.result?, h.tasks j other, h.tickets j other]

theorem isOver (h : Beside k s s') (other : j ≠ k) : s'.isOver j = s.isOver j := by
  simp only [System.isOver, h.result? other, isDropped, waitedFor?, h.tasks j other]

theorem step {m : Move ι} (own : m.IsOf outside k) : Beside k s (s.step S m) := by
  cases m with
  | call | drop => cases own
  | lock t =>
      simp only [System.step]
      split
      · refine ⟨rfl, fun _ _ => rfl, fun j other => Locks.claim?_step_of_ne ?_⟩
        rwa [own]
      · exact refl k s
  | perform i =>
      obtain ⟨rfl, -⟩ := own
      simp only [System.step]
      split
      · rename_i c e next found
        split
        · refine ⟨List.length_modify .., fun j other => ?_, fun j other => ?_⟩
          · rw [getElem?_performed found, if_neg other]
          · cases e with
            | release => exact Locks.claim?_move_of_ne other
            | _ => rfl
        · exact refl i s
      · exact refl i s

theorem after {moves : List (Move ι)} (own : ∀ m ∈ moves, m.IsOf outside k) :
    Beside k s (s.after S moves) := by
  induction moves generalizing s with
  | nil => exact refl k s
  | cons m moves ih =>
      obtain ⟨first, rest⟩ := List.forall_mem_cons.1 own
      exact (step first).trans (ih rest)

end Beside

/-! ### Tickets of tasks -/

/-- Tickets that are not old ones are those of tasks that take a lock or have work open under it,
and only calls that can be dropped are. -/
structure Attended (S : Service ι α) (purpose : ι → Purpose) (succeeded : α → Prop)
    (s : System ι α) : Prop extends Orderly purpose succeeded s where
  droppable : ∀ (k : Nat) c e, s.tasks[k]? = some ⟨c, .dropped e⟩ → S.droppable c
  bound : ∀ d ∈ s.shared.locks.claims, ∀ c p, s.tasks[d.owner]? = some ⟨c, .going p⟩ →
    d.phase ≠ .leaving →
      (∃ uid next, p = .perform (.acquire uid) next) ∨ Acts.isOpen (s.block d.owner)

namespace Attended

theorem empty : Attended S purpose succeeded (∅ : System ι α) where
  toOrderly := .empty
  droppable _ _ _ task := by cases task
  bound _ member := absurd member List.not_mem_nil

theorem bound_lock (h : Attended S purpose succeeded s) {t : Locks.Step Nat}
    (permitted : s.permits t) {d : Claim Nat} (member : d ∈ (s.shared.locks.step t).claims)
    {p : Program α} (task : s.tasks[d.owner]? = some ⟨c, .going p⟩) (stays : d.phase ≠ .leaving) :
    (∃ uid next, p = .perform (.acquire uid) next) ∨ Acts.isOpen (s.block d.owner) := by
  rcases Locks.claims_step member with ⟨d', among, own, -⟩ | rfl
  · rw [own] at task ⊢
    refine h.bound d' among c p task fun leaving => stays ?_
    exact Locks.leaving_step h.locks among leaving member own
  · obtain ⟨c', next, task'⟩ := isAcquiring_iff.1 permitted
    cases task.symm.trans task'
    exact .inl ⟨_, next, rfl⟩

/-- Who gives a lock back leaves with an old ticket. -/
theorem leaving_of_release (h : Attended S purpose succeeded s) {uid : String}
    {next : Unit → Program α} (task : s.tasks[k]? = some ⟨c, .going (.perform (.release uid) next)⟩)
    {d : Claim Nat} (member : d ∈ (s.shared.locks.unlock k).claims) (own : d.owner = k) :
    d.phase = .leaving := by
  obtain ⟨d', among, rfl⟩ := List.mem_map.1 member
  have mine : d'.owner = k := by
    split at own <;> exact own
  obtain ⟨c', call, named⟩ := h.claimed d' among
  rw [mine, call?, task] at call
  cases call
  obtain ⟨g, guard, held, holding⟩ :=
    h.holds k d'.uid ⟨c, h.working task named (fun _ same => by cases same), named⟩
  have same : g = d' := List.inj_on_of_nodup_map h.locks.distinct guard among (held.trans mine.symm)
  rw [if_pos ⟨mine, same ▸ holding⟩]

theorem change (service : S.Conducted purpose succeeded) (h : Attended S purpose succeeded s)
    (move : Change S s s') : Attended S purpose succeeded s' where
  toOrderly := h.toOrderly.change service move
  droppable k c e task := by
    cases move with
    | idle | lock => exact h.droppable k c e task
    | call d =>
        rw [getElem?_called] at task
        split at task
        · cases Option.some.inj task
        · exact h.droppable k c e task
    | perform j d e' next a found =>
        rw [getElem?_performed found] at task
        split at task
        · cases Option.some.inj task
        · exact h.droppable k c e task
    | drop j d e' next found droppable =>
        rw [getElem?_setRest found] at task
        split at task
        · cases Option.some.inj task
          exact droppable
        · exact h.droppable k c e task
  bound d member c p task stays := by
    cases move with
    | idle => exact h.bound d member c p task stays
    | call d' =>
        rw [getElem?_called] at task
        split at task
        · rename_i last
          obtain ⟨c', call, -⟩ := h.claimed d member
          rw [call?, last] at call
          simp at call
        · exact h.bound d member c p task stays
    | lock t permitted => exact h.bound_lock permitted member task stays
    | perform j c' e next a found ready =>
        rw [getElem?_performed found] at task
        rw [block_performed]
        split at task
        · rename_i own
          rw [if_pos own, Acts.isOpen_concat]
          -- Whoever acts has work open after that, unless it gives its lock back.
          refine .inr ?_
          cases e with
          | release => exact absurd (h.leaving_of_release found member own) stays
          | _ => rfl
        · rename_i other
          rw [if_neg other]
          refine h.bound d ?_ c p task stays
          cases e with
          | release =>
              obtain ⟨d', among, own, -, -, rfl | ⟨own', -⟩⟩ := Locks.Consistent.mem_move member
              · exact among
              · exact absurd (own.trans own') other
          | _ => exact member
    | drop j c' e next found =>
        rw [getElem?_setRest found] at task
        split at task
        · cases Option.some.inj task
        · exact h.bound d member c p task stays

theorem run (service : S.Conducted purpose succeeded) (moves : List (Move ι)) :
    Attended S purpose succeeded (run S moves) :=
  run_induction .empty (fun _ _ h move => h.change service move) moves

theorem step (service : S.Conducted purpose succeeded) (h : Attended S purpose succeeded s)
    (m : Move ι) : Attended S purpose succeeded (s.step S m) :=
  h.change service (step_change s m)

/-- A task at the end of its program hands in what ticket it has and is over. -/
theorem result_of_done (h : Attended S purpose succeeded s) {a : α}
    (task : s.tasks[k]? = some ⟨c, .going (.done a)⟩) :
    (s.step S (.lock (.leave k))).result? k = some a := by
  have left : (s.shared.locks.leave k).claim? k = none := by
    refine Locks.claim?_eq_none.2 fun d member own => ?_
    obtain ⟨old, kept⟩ := Locks.mem_leave member
    obtain ⟨c', call, named⟩ := h.claimed d old
    rw [own, call?, task] at call
    cases call
    by_cases leaving : d.phase = .leaving
    · exact kept d (own ▸ h.locks.claim?_eq old) leaving own
    -- Any other ticket would be for work that is still open.
    · rcases h.bound d old c _ (own ▸ task) leaving with ⟨uid, next, same⟩ | opened
      · cases same
      · rw [own, Purpose.closed_of_ends named (h.keeps k c _ task)] at opened
        cases opened
  have locked : s.step S (.lock (.leave k)) =
      { s with shared := { s.shared with locks := s.shared.locks.leave k } } := rfl
  rw [locked, result?]
  simp only [task, left]
  rfl

theorem after (service : S.Conducted purpose succeeded) (h : Attended S purpose succeeded s)
    (moves : List (Move ι)) : Attended S purpose succeeded (s.after S moves) := by
  induction moves generalizing s with
  | nil => exact h
  | cons m moves ih => exact ih (h.step service m)

/-! ### Tasks that come to their ends -/

/-- A task that takes no lock, or has taken it, waits for nobody. -/
theorem isReady (h : Attended S purpose succeeded s) {e : Effect} {next : e.Answer → Program α}
    (task : s.tasks[k]? = some ⟨c, .going (.perform e next)⟩)
    (begun : (purpose c).uid? = none ∨ s.block k ≠ []) : s.isReady k e := by
  have later : ∀ uid, e ≠ .acquire uid := by
    rintro uid rfl
    obtain ⟨first, own⟩ := Purpose.acquire_allowed (h.allowed task)
    rcases begun with alone | begun
    · cases alone.symm.trans own
    · exact begun first
  have current : ∀ d, s.shared.locks.claim? k = some d → d.phase = .holding := by
    intro d found
    obtain ⟨member, rfl⟩ := Locks.claim?_mem found
    obtain ⟨c', call, named⟩ := h.claimed d member
    rw [call?, task] at call
    cases call
    obtain ⟨g, guard, held, holding⟩ :=
      h.holds d.owner d.uid ⟨c, h.working task named later, named⟩
    rw [← List.inj_on_of_nodup_map h.locks.distinct guard member held]
    exact holding
  cases e with
  | acquire uid => exact absurd rfl (later uid)
  | _ =>
      cases found : s.shared.locks.claim? k with
      | none => simp [System.isReady, found]
      | some d => simp [System.isReady, found, current d found]

/-- Such a task can perform all that is left to it, whatever it is answered. -/
theorem exists_performs (outside : (e : Effect) → e.Answer)
    (service : S.Conducted purpose succeeded)
    (h : Attended S purpose succeeded s) {p : Program α}
    (task : s.tasks[k]? = some ⟨c, .going p⟩)
    (begun : (purpose c).uid? = none ∨ s.block k ≠ []) :
    ∃ n a, (s.after S (List.replicate n (.perform k outside))).tasks[k]? =
      some ⟨c, .going (.done a)⟩ := by
  induction p generalizing s with
  | done a => exact ⟨0, a, task⟩
  | perform e next ih =>
      have performs : s.step S (.perform k outside) =
          s.performed k c e ((s.shared.tracker.reply? e).getD (outside e)) next := by
        simp only [System.step, task, h.isReady task begun, if_true]
      have stepped := h.step service (.perform k outside)
      rw [performs] at stepped
      obtain ⟨n, a, done⟩ := ih _ stepped ((getElem?_performed task _ _ k).trans (if_pos rfl))
        (.inr (by simp [block_performed]))
      refine ⟨n + 1, a, ?_⟩
      rw [List.replicate_succ, System.after, List.foldl_cons, performs]
      exact done

theorem exists_end_of_begun (service : S.Conducted purpose succeeded)
    (h : Attended S purpose succeeded s) {p : Program α}
    (task : s.tasks[k]? = some ⟨c, .going p⟩)
    (begun : (purpose c).uid? = none ∨ s.block k ≠ []) :
    ∃ more : List (Move ι), (∀ m ∈ more, m.IsOf outside k) ∧
      ((s.after S more).result? k).isSome := by
  obtain ⟨n, a, done⟩ := h.exists_performs outside service task begun
  refine ⟨List.replicate n (.perform k outside) ++ [.lock (.leave k)],
    List.forall_mem_append.2 ⟨Move.isOf_replicate k n, by simp [Move.IsOf, Locks.Step.owner]⟩, ?_⟩
  rw [after_append]
  exact Option.isSome_iff_exists.2 ⟨a, (h.after service _).result_of_done done⟩

/-- A task takes its lock if nobody else has it. -/
theorem exists_taken (h : Attended S purpose succeeded s) {uid : String} {next : Unit → Program α}
    (task : s.tasks[k]? = some ⟨c, .going (.perform (.acquire uid) next)⟩)
    (free : ∀ d ∈ s.shared.locks.claims, d.phase = .holding → d.uid = uid → d.owner = k) :
    ∃ takes : List (Move ι), (∀ m ∈ takes, m.IsOf outside k) ∧
      (s.after S takes).tasks[k]? = some ⟨c, .going (next ())⟩ ∧
      (s.after S takes).block k ≠ [] := by
  let asks : List (Move ι) := [.lock (.leave k), .lock (.enter k uid), .lock (.grant k)]
  have asked : s.after S asks = { s with shared := { s.shared with
      locks := ((s.shared.locks.step (.leave k)).step (.enter k uid)).step (.grant k) } } := by
    simp [asks, System.after, System.step, permits, System.isAcquiring, task]
  have holds : (s.after S asks).isReady k (.acquire uid) := by
    rw [asked]
    refine Locks.holds_of_free h.locks (fun d member mine => ?_) free
    exact h.uid_of_ticket member (mine ▸ task) (Purpose.acquire_allowed (h.allowed task)).2
  have waits : (s.after S asks).tasks[k]? = some ⟨c, .going (.perform (.acquire uid) next)⟩ := by
    rw [asked]
    exact task
  have takes : s.after S (asks ++ [.perform k outside]) =
      (s.after S asks).performed k c (.acquire uid) () next := by
    rw [after_append]
    simp only [System.after, List.foldl_cons, List.foldl_nil] at waits holds ⊢
    simp only [System.step, waits, holds, if_true]
  refine ⟨asks ++ [.perform k outside], ?_, ?_, ?_⟩
  · simp [asks, Move.IsOf, Locks.Step.owner]
  · rw [takes, getElem?_performed waits, if_pos rfl]
  · rw [takes, block_performed, if_pos rfl]
    exact List.append_ne_nil_of_right_ne_nil _ (List.cons_ne_nil _ _)

/-- A task comes to its end alone if nobody else has the lock that it takes. -/
theorem exists_end (outside : (e : Effect) → e.Answer) (service : S.Conducted purpose succeeded)
    (h : Attended S purpose succeeded s) {p : Program α} (task : s.tasks[k]? = some ⟨c, .going p⟩)
    (free : ∀ d ∈ s.shared.locks.claims, d.phase = .holding → (purpose c).uid? = some d.uid →
      d.owner = k) :
    ∃ more : List (Move ι), (∀ m ∈ more, m.IsOf outside k) ∧
      ((s.after S more).result? k).isSome := by
  by_cases begun : (purpose c).uid? = none ∨ s.block k ≠ []
  · exact h.exists_end_of_begun service task begun
  obtain ⟨named, idle⟩ := not_or.1 begun
  obtain ⟨uid, own⟩ := Option.ne_none_iff_exists'.1 named
  have first : s.block k = [] := not_not.1 idle
  cases p with
  | done a =>
      exact ⟨[.lock (.leave k)], by simp [Move.IsOf, Locks.Step.owner],
        Option.isSome_iff_exists.2 ⟨a, h.result_of_done task⟩⟩
  | perform e next =>
      by_cases taking : ∃ u, e = .acquire u
      · obtain ⟨u, rfl⟩ := taking
        have named := (Purpose.acquire_allowed (h.allowed task)).2
        obtain ⟨takes, ofTask, task, begun⟩ := h.exists_taken task fun d member held same =>
          free d member held (same ▸ named)
        obtain ⟨more, ofTask', ended⟩ :=
          (h.after service takes).exists_end_of_begun service task (.inr begun)
        refine ⟨takes ++ more, List.forall_mem_append.2 ⟨ofTask, ofTask'⟩, ?_⟩
        rw [after_append]
        exact ended
      · have opened :=
          Purpose.open_of_allowed own (h.allowed task) fun u same => taking ⟨u, same⟩
        rw [first] at opened
        cases opened

end Attended

/-! ### All tasks come to their ends -/

/-- The tasks that are not over. -/
def unfinished (s : System ι α) : Finset Nat :=
  (Finset.range s.tasks.length).filter fun k => s.isOver k = false

theorem mem_unfinished : k ∈ unfinished s ↔ k < s.tasks.length ∧ s.isOver k = false := by
  rw [unfinished, Finset.mem_filter, Finset.mem_range]

theorem isOver_of_call? (none_left : unfinished s = ∅) (call : s.call? k = some c) :
    s.isOver k := by
  obtain ⟨t, task, -⟩ := Option.map_eq_some_iff.1 call
  by_contra going
  have left : k ∈ unfinished s :=
    mem_unfinished.2 ⟨(List.getElem?_eq_some_iff.1 task).1, by simpa using going⟩
  rw [none_left] at left
  exact Finset.notMem_empty _ left

/-- Who has a ticket is not over. -/
theorem Attended.going_of_ticket (patient : ∀ c, S.droppable c → (purpose c).uid? = none)
    (h : Attended S purpose succeeded s) {d : Claim Nat} (member : d ∈ s.shared.locks.claims) :
    d.owner ∈ unfinished s ∧ ∃ c p, s.tasks[d.owner]? = some ⟨c, .going p⟩ ∧
      (purpose c).uid? = some d.uid := by
  obtain ⟨c, call, own⟩ := h.claimed d member
  obtain ⟨⟨c, rest⟩, task, rfl⟩ := Option.map_eq_some_iff.1 call
  cases rest with
  | dropped e => cases own.symm.trans (patient c (h.droppable d.owner c e task))
  | going p =>
      refine ⟨mem_unfinished.2 ⟨(List.getElem?_eq_some_iff.1 task).1, ?_⟩, c, p, task, own⟩
      have claimed := h.locks.claim?_eq member
      cases p <;> simp [isOver, result?, isDropped, waitedFor?, task, claimed]

theorem Attended.claim?_of_dropped (patient : ∀ c, S.droppable c → (purpose c).uid? = none)
    (h : Attended S purpose succeeded s) {e : Effect} (task : s.tasks[k]? = some ⟨c, .dropped e⟩) :
    s.shared.locks.claim? k = none := by
  refine Locks.claim?_eq_none.2 fun d member own => ?_
  obtain ⟨-, c', p, going, -⟩ := h.going_of_ticket patient member
  rw [own, task] at going
  cases going

/-- Some task can come to its end alone, if any is not over: one that has a lock, or one that needs
none that is held. -/
theorem Attended.exists_free (patient : ∀ c, S.droppable c → (purpose c).uid? = none)
    (h : Attended S purpose succeeded s) (member : k ∈ unfinished s) :
    ∃ j ∈ unfinished s, ∃ c p, s.tasks[j]? = some ⟨c, .going p⟩ ∧
      ∀ d ∈ s.shared.locks.claims, d.phase = .holding → (purpose c).uid? = some d.uid →
        d.owner = j := by
  obtain ⟨below, going⟩ := mem_unfinished.1 member
  obtain ⟨⟨c, rest⟩, task⟩ : ∃ t, s.tasks[k]? = some t := ⟨_, List.getElem?_eq_getElem below⟩
  cases rest with
  | dropped e => simp [isOver, isDropped, waitedFor?, task] at going
  | going p =>
      by_cases held : ∃ d ∈ s.shared.locks.claims, d.phase = .holding ∧
          (purpose c).uid? = some d.uid
      · obtain ⟨d, ticket, holding, -⟩ := held
        obtain ⟨unfinished, c', p', task', own⟩ := h.going_of_ticket patient ticket
        refine ⟨d.owner, unfinished, c', p', task', fun d' ticket' holding' own' => ?_⟩
        have uids : d'.uid = d.uid := Option.some.inj (own'.symm.trans own)
        rw [h.locks.guard_unique ticket' ticket uids holding' holding]
      · exact ⟨k, member, c, p, task, fun d ticket holding own =>
          absurd ⟨d, ticket, holding, own⟩ held⟩

/-- All tasks can come to their ends. -/
theorem Attended.exists_all_over (service : S.Conducted purpose succeeded)
    (patient : ∀ c, S.droppable c → (purpose c).uid? = none)
    (outside : (e : Effect) → e.Answer) (h : Attended S purpose succeeded s) :
    ∃ more : List (Move ι), (∀ m ∈ more, m.IsInner outside) ∧ unfinished (s.after S more) = ∅ := by
  -- by the number of tasks that are not over: one comes to its end, and no other is changed
  induction size : (unfinished s).card using Nat.strong_induction_on generalizing s with
  | _ n ih =>
    rcases (unfinished s).eq_empty_or_nonempty with none | ⟨k, member⟩
    · exact ⟨[], by simp, none⟩
    obtain ⟨j, among, c, p, task, free⟩ := h.exists_free patient member
    obtain ⟨more, own, ended⟩ := h.exists_end outside service task free
    have beside : Beside j s (s.after S more) := .after own
    have fewer : unfinished (s.after S more) ⊂ unfinished s := by
      refine (Finset.ssubset_iff_of_subset fun i left => ?_).2 ⟨j, among, fun left => ?_⟩
      · obtain ⟨below, going⟩ := mem_unfinished.1 left
        have other : i ≠ j := by
          rintro rfl
          simp [isOver, ended] at going
        rw [beside.length] at below
        rw [beside.isOver other] at going
        exact mem_unfinished.2 ⟨below, going⟩
      · have going := (mem_unfinished.1 left).2
        simp [isOver, ended] at going
    obtain ⟨more', inner, none⟩ :=
      ih _ (size ▸ Finset.card_lt_card fewer) (h.after service more) rfl
    have inner' : ∀ m ∈ more, m.IsInner outside := fun m first => (own m first).isInner
    refine ⟨more ++ more', List.forall_mem_append.2 ⟨inner', inner⟩, ?_⟩
    rw [after_append]
    exact none

/-- From every point all tasks can come to their ends, whatever they are answered, without any call
that comes in or is dropped. -/
theorem exists_completion (service : S.Conducted purpose succeeded)
    (patient : ∀ c, S.droppable c → (purpose c).uid? = none) (outside : (e : Effect) → e.Answer)
    (moves : List (Move ι)) :
    ∃ more : List (Move ι), (∀ m ∈ more, m.IsInner outside) ∧
      unfinished (run S (moves ++ more)) = ∅ := by
  obtain ⟨more, inner, none⟩ :=
    (Attended.run service moves).exists_all_over service patient outside
  exact ⟨more, inner, by rw [run_append, none]⟩

/-- When all are over, no lock is left. -/
theorem Attended.size_eq_zero (patient : ∀ c, S.droppable c → (purpose c).uid? = none)
    (h : Attended S purpose succeeded s) (none_left : unfinished s = ∅) :
    s.shared.locks.size = 0 := by
  have none : s.shared.locks.claims = [] := by
    refine List.eq_nil_iff_forall_not_mem.2 fun d member => ?_
    have left := (h.going_of_ticket patient member).1
    rw [none_left] at left
    exact Finset.notMem_empty _ left
  rw [h.locks.size_eq, none]
  rfl

end System

end Interleaving

end Podkeeper
