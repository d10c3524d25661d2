import Podkeeper.Proofs.Interleaving.Completion
import Podkeeper.Proofs.Interleaving.Files

/-!
Histories without drops.

Only calls that read may be dropped, and those who read leave no trace. So a history goes on alike
if nobody is dropped (`Undropped.step`, `Undropped.drop`): what is shared is the same at each point
and so is all that those who create and delete perform. Those who were dropped can come to their
ends there without anybody noticing (`Undropped.exists_ended`).
-/

namespace Podkeeper

/-! ### Acts that leave no trace -/

/-- The effect neither changes what is shared nor anything outside. -/
def Effect.isQuiet : Effect → Bool
  | .lookup _ | .inspect _ | .logs _ _ => true
  | _ => false

theorem Purpose.isQuiet_allowed {p : Purpose} {past : List Act} {e : Effect}
    (reads : p.uid? = none) (allowed : p.rules past e) : e.isQuiet := by
  cases p with
  | create | delete => cases reads
  | read => cases e <;> first | rfl | cases allowed

namespace Act

variable {a : Act}

theorem started?_of_isQuiet (quiet : a.effect.isQuiet) : a.started? = none := by
  obtain ⟨e, answer⟩ := a
  cases e <;> first | rfl | cases quiet

theorem removed?_of_isQuiet (quiet : a.effect.isQuiet) : a.removed? = none := by
  obtain ⟨e, answer⟩ := a
  cases e <;> first | rfl | cases quiet

theorem onTree_of_isQuiet (quiet : a.effect.isQuiet) (root : String) (t : Tree) :
    a.onTree root t = t := by
  obtain ⟨e, answer⟩ := a
  cases e <;> first | rfl | cases quiet

theorem isToldBy_of_isQuiet (quiet : a.effect.isQuiet) (root : String) (t : Tree) :
    a.IsToldBy root t := by
  obtain ⟨e, answer⟩ := a
  cases e <;> trivial

end Act

namespace Interleaving

variable {ι α : Type} {events : List (Event ι)} {keep : Event ι → Bool}

/-- What runs does not depend on acts that leave no trace. -/
theorem live_filter (quiet : ∀ ev ∈ events, keep ev = false → ev.act.effect.isQuiet) :
    Acts.live ((events.filter keep).map (·.act)) = Acts.live (events.map (·.act)) := by
  induction events using List.reverseRecOn with
  | nil => rfl
  | append_singleton events ev ih =>
      have before := ih fun ev member => quiet ev (List.mem_append_left _ member)
      cases kept : keep ev with
      | true =>
          rw [List.filter_append, List.filter_cons_of_pos kept, List.filter_nil, List.map_append,
            List.map_append, Acts.live, List.foldl_append, ← Acts.live, before, Acts.live,
            ← List.foldl_append, ← Acts.live]
      | false =>
          have silent := quiet ev (List.mem_append_right _ (List.mem_singleton_self ev)) kept
          rw [List.filter_append, List.filter_cons_of_neg (by simp [kept]), List.filter_nil,
            List.append_nil, before, List.map_append, Acts.live, Acts.live, List.foldl_append]
          simp [Act.removed?_of_isQuiet silent, Act.started?_of_isQuiet silent]

/-- Neither do files. -/
theorem tree_filter (quiet : ∀ ev ∈ events, keep ev = false → ev.act.effect.isQuiet)
    (root : String) (t : Tree) :
    (t.Answers root ((events.filter keep).map (·.act)) ↔ t.Answers root (events.map (·.act))) ∧
      t.afterActs root ((events.filter keep).map (·.act)) =
        t.afterActs root (events.map (·.act)) := by
  induction events using List.reverseRecOn with
  | nil => exact ⟨Iff.rfl, rfl⟩
  | append_singleton events ev ih =>
      obtain ⟨told, tree⟩ := ih fun ev member => quiet ev (List.mem_append_left _ member)
      cases kept : keep ev with
      | true =>
          rw [List.filter_append, List.filter_cons_of_pos kept, List.filter_nil, List.map_append,
            List.map_append, List.map_singleton, Tree.answers_concat, Tree.answers_concat,
            Tree.afterActs_concat, Tree.afterActs_concat, told, tree]
          exact ⟨Iff.rfl, rfl⟩
      | false =>
          have silent := quiet ev (List.mem_append_right _ (List.mem_singleton_self ev)) kept
          rw [List.filter_append, List.filter_cons_of_neg (by simp [kept]), List.filter_nil,
            List.append_nil, List.map_append, List.map_singleton, Tree.answers_concat,
            Tree.afterActs_concat, Act.onTree_of_isQuiet silent, told, tree]
          exact ⟨(and_iff_left (Act.isToldBy_of_isQuiet silent _ _)).symm, rfl⟩

namespace System

variable {purpose : ι → Purpose} {succeeded : α → Prop} {S : Service ι α} {s s' : System ι α}
  {outside : (e : Effect) → e.Answer} {k : Nat} {c : ι}

/-- What those performed who take locks. -/
def effective (purpose : ι → Purpose) (s : System ι α) : List (Event ι) :=
  s.past.filter fun ev => (purpose ev.call).uid?.isSome

/-- One system is as another one would be if nobody had been dropped. -/
structure Undropped (purpose : ι → Purpose) (s s' : System ι α) : Prop where
  shared : s'.shared = s.shared
  length : s'.tasks.length = s.tasks.length
  going : ∀ (k : Nat) c p, s.tasks[k]? = some ⟨c, .going p⟩ → s'.tasks[k]? = some ⟨c, .going p⟩
  dropped : ∀ (k : Nat) c e, s.tasks[k]? = some ⟨c, .dropped e⟩ →
    ∃ p, s'.tasks[k]? = some ⟨c, .going p⟩
  effective : effective purpose s' = effective purpose s

namespace Undropped

theorem empty : Undropped purpose (∅ : System ι α) ∅ where
  shared := rfl
  length := rfl
  going _ _ _ task := by cases task
  dropped _ _ _ task := by cases task
  effective := rfl

theorem isDropped (h : Undropped purpose s s') (k : Nat) : s'.isDropped k = false := by
  rw [← Bool.not_eq_true, isDropped_iff]
  rintro ⟨c, e, found⟩
  have present : k < s.tasks.length := h.length ▸ (List.getElem?_eq_some_iff.1 found).1
  obtain ⟨⟨d, rest⟩, task⟩ : ∃ t, s.tasks[k]? = some t := ⟨_, List.getElem?_eq_getElem present⟩
  cases rest with
  | going p => cases found.symm.trans (h.going k d p task)
  | dropped e' =>
      obtain ⟨p, task'⟩ := h.dropped k d e' task
      cases found.symm.trans task'

theorem call (h : Undropped purpose s s') (c : ι) :
    Undropped purpose (s.step S (.call c)) (s'.step S (.call c)) where
  shared := h.shared
  length := by
    show (s'.tasks ++ _).length = (s.tasks ++ _).length
    rw [List.length_append, List.length_append, h.length]
  going j d p task := by
    have task : (s.tasks ++ [⟨c, .going (S.program c)⟩])[j]? = _ := task
    show (s'.tasks ++ [⟨c, .going (S.program c)⟩])[j]? = _
    rw [getElem?_called] at task ⊢
    rw [h.length]
    split at task
    · rename_i last
      rw [if_pos last]
      exact task
    · rename_i earlier
      rw [if_neg earlier]
      exact h.going j d p task
  dropped j d e task := by
    have task : (s.tasks ++ [⟨c, .going (S.program c)⟩])[j]? = _ := task
    show ∃ p, (s'.tasks ++ [⟨c, .going (S.program c)⟩])[j]? = _
    rw [getElem?_called] at task ⊢
    rw [h.length]
    split at task
    · cases Option.some.inj task
    · rename_i earlier
      rw [if_neg earlier]
      exact h.dropped j d e task
  effective := h.effective

theorem lock_of_permits (h : Undropped purpose s s') {t : Locks.Step Nat}
    (same : s'.permits t = s.permits t) :
    Undropped purpose (s.step S (.lock t)) (s'.step S (.lock t)) := by
  simp only [System.step, same]
  split
  · exact ⟨by simp only [h.shared], h.length, h.going, h.dropped, h.effective⟩
  · exact h

/-- Who was dropped takes no lock where it was not. -/
theorem isAcquiring (patient : ∀ c, S.droppable c → (purpose c).uid? = none)
    (ordered : Attended S purpose succeeded s) (ordered' : Attended S purpose succeeded s')
    (h : Undropped purpose s s') (k : Nat) (uid : String) :
    s'.isAcquiring k uid = s.isAcquiring k uid := by
  rw [Bool.eq_iff_iff, isAcquiring_iff, isAcquiring_iff]
  constructor
  · rintro ⟨c, next, found⟩
    have present : k < s.tasks.length := h.length ▸ (List.getElem?_eq_some_iff.1 found).1
    obtain ⟨⟨d, rest⟩, task⟩ : ∃ t, s.tasks[k]? = some t := ⟨_, List.getElem?_eq_getElem present⟩
    cases rest with
    | going p =>
        cases found.symm.trans (h.going k d p task)
        exact ⟨_, _, task⟩
    | dropped e =>
        obtain ⟨p, found'⟩ := h.dropped k d e task
        cases found.symm.trans found'
        have reads := patient c (ordered.droppable k c e task)
        cases reads.symm.trans (Purpose.acquire_allowed (ordered'.allowed found)).2
  · rintro ⟨c, next, task⟩
    exact ⟨c, next, h.going k c _ task⟩

/-- Locks go on alike: who was dropped takes none and has none to give up. -/
theorem lock (patient : ∀ c, S.droppable c → (purpose c).uid? = none)
    (ordered : Attended S purpose succeeded s) (ordered' : Attended S purpose succeeded s')
    (h : Undropped purpose s s') (t : Locks.Step Nat) :
    Undropped purpose (s.step S (.lock t)) (s'.step S (.lock t)) := by
  have given (j : Nat) (before after : ClaimPhase)
      (step : Locks.Step Nat) (moves : ∀ l : Locks Nat, l.step step = l.move j before after)
      (permits : ∀ s : System ι α, s.permits step = s.isDropped j) :
      Undropped purpose (s.step S (.lock step)) (s'.step S (.lock step)) := by
    have idle' : s'.step S (.lock step) = s' := by
      simp only [System.step, permits, h.isDropped j, if_false, Bool.false_eq_true]
    have idle : s.step S (.lock step) = s := by
      simp only [System.step, permits]
      split
      -- Who was dropped has no ticket that it could give up.
      · rename_i dropped
        obtain ⟨c, e, task⟩ := isDropped_iff.1 dropped
        rw [moves, Locks.move_eq_self (ordered.claim?_of_dropped patient task)]
      · rfl
    rw [idle, idle']
    exact h
  cases t with
  | enter j uid => exact h.lock_of_permits (h.isAcquiring patient ordered ordered' j uid)
  | grant | leave => exact h.lock_of_permits rfl
  | abandon j => exact given j .waiting .leaving _ (fun _ => rfl) fun _ => rfl
  | unlock j => exact given j .holding .leaving _ (fun _ => rfl) fun _ => rfl

theorem act (h : Undropped purpose s s') {e : Effect} {next : e.Answer → Program α}
    (found : s.tasks[k]? = some ⟨c, .going (.perform e next)⟩) (a : e.Answer) :
    Undropped purpose (s.performed k c e a next) (s'.performed k c e a next) where
  shared := by
    simp only [System.performed, h.shared, locksAfter]
  length := by
    show (s'.tasks.modify ..).length = (s.tasks.modify ..).length
    rw [List.length_modify, List.length_modify, h.length]
  going j d p task := by
    rw [getElem?_performed found] at task
    rw [getElem?_performed (h.going k c _ found)]
    split at task
    · rename_i same
      rw [if_pos same]
      exact task
    · rename_i other
      rw [if_neg other]
      exact h.going j d p task
  dropped j d e' task := by
    rw [getElem?_performed found] at task
    rw [getElem?_performed (h.going k c _ found)]
    split at task
    · cases Option.some.inj task
    · rename_i other
      rw [if_neg other]
      exact h.dropped j d e' task
  effective := by
    have before := h.effective
    simp only [System.effective, System.performed, List.filter_append] at before ⊢
    rw [before]

/-- Who was not dropped has the same result. -/
theorem result? (h : Undropped purpose s s') (going : s.isDropped k = false) :
    s'.result? k = s.result? k := by
  have same : s'.tasks[k]? = s.tasks[k]? := by
    cases found : s.tasks[k]? with
    | none =>
        rw [List.getElem?_eq_none_iff, h.length]
        exact List.getElem?_eq_none_iff.1 found
    | some task =>
        obtain ⟨c, rest⟩ := task
        cases rest with
        | going p => exact h.going k c p found
        | dropped e => rw [isDropped_iff.2 ⟨c, e, found⟩] at going; cases going
  simp only [System.result?, same, h.shared]

/-- Whose drop is left out goes on. -/
theorem drop (h : Undropped purpose s s') (k : Nat) :
    Undropped purpose (s.step S (.drop k)) s' := by
  simp only [System.step]
  split
  · rename_i c e next found
    split
    · refine ⟨h.shared, ?_, fun j d p task => ?_, fun j d e' task => ?_, h.effective⟩
      · rw [h.length]
        exact (List.length_modify ..).symm
      · rw [getElem?_setRest found] at task
        split at task
        · cases Option.some.inj task
        · exact h.going j d p task
      · rw [getElem?_setRest found] at task
        split at task
        · rename_i same
          cases Option.some.inj task
          exact ⟨_, same ▸ h.going k c _ found⟩
        · exact h.dropped j d e' task
    · exact h
  · exact h

/-- Who was dropped may go on where it was not, and nobody notices. -/
theorem resume (patient : ∀ c, S.droppable c → (purpose c).uid? = none)
    (ordered : Attended S purpose succeeded s) (ordered' : Attended S purpose succeeded s')
    (h : Undropped purpose s s') {e : Effect} (task : s.tasks[k]? = some ⟨c, .dropped e⟩) :
    Undropped purpose s (s'.step S (.perform k outside)) := by
  obtain ⟨p, found⟩ := h.dropped k c e task
  have reads := patient c (ordered.droppable k c e task)
  cases p with
  | done a =>
      simp only [System.step, found]
      exact h
  | perform e' next =>
      simp only [System.step, found]
      split
      · have quiet := Purpose.isQuiet_allowed reads (ordered'.allowed found)
        refine ⟨?_, ?_, fun j d p task' => ?_, fun j d e' task' => ?_, ?_⟩
        · rw [← h.shared]
          cases e' <;> first | rfl | cases quiet
        · rw [← h.length]
          exact List.length_modify ..
        · rw [getElem?_performed found]
          split
          · rename_i same
            rw [same, task] at task'
            cases Option.some.inj task'
          · exact h.going j d p task'
        · rw [getElem?_performed found]
          split
          · rename_i same
            rw [same, task] at task'
            cases Option.some.inj task'
            exact ⟨_, rfl⟩
          · exact h.dropped j d e' task'
        · rw [← h.effective, System.effective, System.effective, performed, List.filter_append,
            List.filter_cons_of_neg (by simp [reads]), List.filter_nil, List.append_nil]
      · exact h

theorem perform (patient : ∀ c, S.droppable c → (purpose c).uid? = none)
    (ordered : Attended S purpose succeeded s) (ordered' : Attended S purpose succeeded s')
    (h : Undropped purpose s s') (k : Nat) :
    Undropped purpose (s.step S (.perform k outside)) (s'.step S (.perform k outside)) := by
  cases found : s.tasks[k]? with
  | none =>
      have absent : s'.tasks[k]? = none := by
        rw [List.getElem?_eq_none_iff, h.length]
        exact List.getElem?_eq_none_iff.1 found
      simp only [System.step, found, absent]
      exact h
  | some task =>
      obtain ⟨c, rest⟩ := task
      cases rest with
      | dropped e =>
          have idle : s.step S (.perform k outside) = s := by simp only [System.step, found]
          rw [idle]
          exact h.resume patient ordered ordered' found
      | going p =>
          have found' := h.going k c p found
          cases p with
          | done a =>
              simp only [System.step, found, found']
              exact h
          | perform e next =>
              have ready : s'.isReady k e = s.isReady k e := by
                simp only [System.isReady, h.shared]
              simp only [System.step, found, found', ready, h.shared]
              split
              · exact h.act found _
              · exact h

theorem resume_all (service : S.Conducted purpose succeeded)
    (patient : ∀ c, S.droppable c → (purpose c).uid? = none)
    (ordered : Attended S purpose succeeded s) (ordered' : Attended S purpose succeeded s')
    (h : Undropped purpose s s') {e : Effect} (task : s.tasks[k]? = some ⟨c, .dropped e⟩)
    (n : Nat) :
    Undropped purpose s (s'.after S (List.replicate n (.perform k outside))) := by
  induction n generalizing s' with
  | zero => exact h
  | succ n ih =>
      rw [List.replicate_succ]
      exact ih (ordered'.step service _) (h.resume patient ordered ordered' task)

/-- All that were dropped can come to their ends where they were not. -/
theorem exists_ended (service : S.Conducted purpose succeeded)
    (patient : ∀ c, S.droppable c → (purpose c).uid? = none) (outside : (e : Effect) → e.Answer)
    (ordered : Attended S purpose succeeded s) (ordered' : Attended S purpose succeeded s')
    (h : Undropped purpose s s') (n : Nat) :
    ∃ more : List (Move ι), (∀ m ∈ more, m.IsInner outside) ∧
      Undropped purpose s (s'.after S more) ∧
      ∀ k < n, s.isDropped k → ((s'.after S more).result? k).isSome := by
  -- One goes on after the other, and none changes the results of those before it.
  induction n with
  | zero => exact ⟨[], by simp, h, fun k below => absurd below (Nat.not_lt_zero k)⟩
  | succ n ih =>
      obtain ⟨more, inner, undropped, ended⟩ := ih
      by_cases dropped : s.isDropped n
      · obtain ⟨c, e, task⟩ := isDropped_iff.1 dropped
        obtain ⟨p, found⟩ := undropped.dropped n c e task
        have reads := patient c (ordered.droppable n c e task)
        have ordered'' := ordered'.after service more
        obtain ⟨times, a, done⟩ := ordered''.exists_performs outside service found (.inl reads)
        have whole : Undropped purpose s
            ((s'.after S more).after S (List.replicate times (.perform n outside))) :=
          undropped.resume_all service patient ordered ordered'' task times
        have own : ∀ m ∈ List.replicate times (.perform n outside : Move ι), m.IsOf outside n :=
          Move.isOf_replicate n times
        refine ⟨more ++ List.replicate times (.perform n outside),
          List.forall_mem_append.2 ⟨inner, fun m new => (own m new).isInner⟩, ?_, ?_⟩
        · rw [after_append]
          exact whole
        · intro k below earlier
          rw [after_append]
          rcases Nat.lt_succ_iff_lt_or_eq.1 below with before | rfl
          · rw [(Beside.after own).result? (Nat.ne_of_lt before)]
            exact ended k before earlier
          · have free := ordered.claim?_of_dropped patient task
            rw [← whole.shared] at free
            simp [System.result?, done, free]
      · refine ⟨more, inner, undropped, fun k below earlier => ?_⟩
        rcases Nat.lt_succ_iff_lt_or_eq.1 below with before | rfl
        · exact ended k before earlier
        · exact absurd earlier dropped

end Undropped

/-- Whoever takes no lock leaves no trace. -/
theorem isQuiet_of_run (service : S.Conducted purpose succeeded) (moves : List (Move ι)) :
    ∀ ev ∈ (run S moves).past, (purpose ev.call).uid?.isSome = false →
      ev.act.effect.isQuiet := by
  intro ev member reads
  obtain ⟨acts, allowed⟩ := exists_rules service moves ev member
  exact Purpose.isQuiet_allowed (by simpa using reads) allowed

/-- What runs is decided by those who take locks. -/
theorem live_effective (service : S.Conducted purpose succeeded) (moves : List (Move ι)) :
    Acts.live ((effective purpose (run S moves)).map (·.act)) = Acts.live (run S moves).acts :=
  live_filter (isQuiet_of_run service moves)

/-- So are files. -/
theorem tree_effective (service : S.Conducted purpose succeeded) (moves : List (Move ι))
    (root : String) (t : Tree) :
    (t.Answers root ((effective purpose (run S moves)).map (·.act)) ↔
      t.Answers root (run S moves).acts) ∧
      t.afterActs root ((effective purpose (run S moves)).map (·.act)) =
        t.afterActs root (run S moves).acts :=
  tree_filter (isQuiet_of_run service moves) root t

end System

end Interleaving

end Podkeeper
