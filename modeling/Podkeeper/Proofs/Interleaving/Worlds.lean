import Mathlib.Logic.Relation
import Podkeeper.Proofs.Interleaving.System
import Podkeeper.Simulation.World

/-!
Worlds are systems.

A world plays one history: it decides who takes a turn, keeps files in a tree and has its engine
scripted. A system allows every history. Whatever a world does, a system can do with the same
calls, so that what holds of all systems holds of every world (`Mirrored`): at each point there are
moves that lead to the same tracker, the same locks, and the same programs with the same rest.
-/

namespace Podkeeper

namespace Interleaving.System

variable {ι α : Type} {S : Service ι α} {s s' : System ι α}

/-! ### Moves for changes -/

/-- All that a move can do is done by some move. -/
theorem Change.exists_move (h : Change S s s') : ∃ m, s.step S m = s' := by
  cases h with
  | idle =>
      refine ⟨.drop s.tasks.length, ?_⟩
      simp [step]
  | call c => exact ⟨.call c, rfl⟩
  | lock t permitted => exact ⟨.lock t, if_pos permitted⟩
  | perform k c e next a found ready answered =>
      let outside (f : Effect) : f.Answer :=
        if same : e = f then same ▸ a else f.nonempty_answer.some
      have told : outside e = a := dif_pos rfl
      refine ⟨.perform k outside, ?_⟩
      have answer : (s.shared.tracker.reply? e).getD (outside e) = a := by
        cases reply : s.shared.tracker.reply? e with
        | none => exact told
        | some b => exact (answered b reply).symm
      simp only [step, found, ready, if_true, answer]
  | drop k c e next found droppable waits =>
      refine ⟨.drop k, ?_⟩
      simp [step, found, droppable, waits]

/-- One system comes after another. -/
abbrev Leads (S : Service ι α) : System ι α → System ι α → Prop :=
  Relation.ReflTransGen (Change S)

/-- Whatever comes after the beginning is reached by moves. -/
theorem exists_moves (h : Leads S ∅ s) : ∃ moves, run S moves = s := by
  induction h with
  | refl => exact ⟨[], rfl⟩
  | tail _ change ih =>
      obtain ⟨moves, rfl⟩ := ih
      obtain ⟨m, rfl⟩ := change.exists_move
      exact ⟨moves ++ [m], by rw [run, List.foldl_concat, run]⟩

theorem Coherent.leads (h : Coherent s) (leads : Leads S s s') : Coherent s' := by
  induction leads with
  | refl => exact h
  | tail _ change ih => exact ih.change change

/-! ### Locks that settle -/

/-- Other locks. -/
def withLocks (s : System ι α) (l : Locks Nat) : System ι α :=
  { s with shared := { s.shared with locks := l } }

theorem leads_grants (owners : List Nat) (l : Locks Nat) :
    Leads S (s.withLocks l) (s.withLocks (owners.foldl Locks.grant l)) := by
  induction owners generalizing l with
  | nil => exact .refl
  | cons k owners ih => exact .head (.lock (.grant k) rfl) (ih (l.grant k))

theorem leads_settle (l : Locks Nat) : Leads S (s.withLocks l) (s.withLocks l.settle) :=
  leads_grants _ l

end Interleaving.System

namespace Locks

variable {l : Locks Nat} {waits waits' : Nat → Prop}

/-- Nobody is leaving, and only certain owners wait. -/
def AtRest (l : Locks Nat) (waits : Nat → Prop) : Prop :=
  ∀ c ∈ l.claims, c.phase = .holding ∨ c.phase = .waiting ∧ waits c.owner

theorem AtRest.imp (h : AtRest l waits) (still : ∀ k, waits k → waits' k) : AtRest l waits' :=
  fun c member => (h c member).imp_right fun ⟨phase, waiting⟩ => ⟨phase, still c.owner waiting⟩

theorem AtRest.grant (h : AtRest l waits) (k : Nat) : AtRest (l.grant k) waits := by
  unfold Locks.grant
  split
  · split
    · intro d member
      obtain ⟨c, mem, owner, -, -, same | ⟨-, -, holding⟩⟩ := Consistent.mem_move member
      · exact same ▸ h c mem
      · exact .inl holding
    · exact h
  · exact h

theorem AtRest.settle (h : AtRest l waits) : AtRest l.settle waits := by
  have grants (owners : List Nat) :
      ∀ l, AtRest l waits → AtRest (owners.foldl Locks.grant l) waits := by
    induction owners with
    | nil => exact fun _ => id
    | cons k owners ih => exact fun l h => ih (l.grant k) (h.grant k)
  exact grants _ l h

theorem AtRest.enter (h : AtRest l waits) {k : Nat} (waiting : waits k) (uid : String) :
    AtRest (l.enter k uid) waits := by
  have joined (mutex : Nat) : ∀ c ∈ l.claims ++ [⟨k, uid, mutex, .waiting⟩],
      c.phase = .holding ∨ c.phase = .waiting ∧ waits c.owner := by
    intro c member
    rcases List.mem_append.1 member with old | new
    · exact h c old
    · rw [List.mem_singleton.1 new]
      exact .inr ⟨rfl, waiting⟩
  unfold Locks.enter
  split
  · exact joined _
  · exact joined _

/-- A claim that was given up is leaving, and all others are what they were. -/
theorem AtRest.mem_abandon_unlock (h : AtRest l waits) {k : Nat} {d : Claim Nat}
    (member : d ∈ ((l.unlock k).abandon k).claims) :
    d.owner = k ∧ d.phase = .leaving ∨ d.owner ≠ k ∧ d ∈ l.claims := by
  obtain ⟨c, mem, rfl⟩ := List.mem_map.1 member
  obtain ⟨b, old, rfl⟩ := List.mem_map.1 mem
  by_cases own : b.owner = k
  · rcases h b old with holding | ⟨waiting, -⟩
    · simp [own, holding]
    · simp [own, waiting]
  · simp [own, old]

/-- Whoever drops its claim waits no more. -/
theorem AtRest.drop (h : AtRest l waits) (k : Nat) :
    AtRest (l.drop k) fun j => waits j ∧ j ≠ k := by
  refine AtRest.settle fun d member => ?_
  have gone : d ∈ ((l.unlock k).abandon k).claims ∧ d.owner ≠ k := by
    unfold Locks.leave at member
    split at member
    · rename_i c found
      obtain ⟨mem, own⟩ := claim?_mem found
      have leaving : c.phase = .leaving := by
        rcases h.mem_abandon_unlock mem with ⟨-, leaving⟩ | ⟨other, -⟩
        · exact leaving
        · exact absurd own other
      rw [if_pos leaving] at member
      obtain ⟨mem, other⟩ := List.mem_filter.1 member
      exact ⟨mem, of_decide_eq_true other⟩
    · rename_i absent
      exact ⟨member, claim?_eq_none.1 absent d member⟩
  rcases h.mem_abandon_unlock gone.1 with ⟨own, -⟩ | ⟨other, old⟩
  · exact absurd own gone.2
  · exact (h d old).imp_right fun ⟨phase, waiting⟩ => ⟨phase, waiting, other⟩

/-- Whoever does not wait has nothing to abandon once the lock is given back. -/
theorem AtRest.abandon_unlock (h : AtRest l waits) {k : Nat} (going : ¬waits k) :
    (l.unlock k).abandon k = l.unlock k := by
  have same : ∀ c ∈ (l.unlock k).claims,
      (if c.owner = k ∧ c.phase = .waiting then { c with phase := .leaving } else c) = c := by
    intro c member
    refine if_neg fun ⟨own, waiting⟩ => ?_
    obtain ⟨b, old, -, -, -, rfl | ⟨-, -, leaving⟩⟩ := Consistent.mem_move member
    · rcases h c old with holding | ⟨-, waits⟩
      · rw [holding] at waiting
        cases waiting
      · exact going (own ▸ waits)
    · rw [leaving] at waiting
      cases waiting
  rw [Locks.abandon, Locks.move, List.map_congr_left same, List.map_id']

/-- Whoever holds a lock waits for none. -/
theorem AtRest.of_holds (h : AtRest l waits) (consistent : Consistent l) {k : Nat}
    (holds : l.holds k) : AtRest l fun j => waits j ∧ j ≠ k := by
  intro c member
  rcases h c member with holding | ⟨phase, waiting⟩
  · exact .inl holding
  · refine .inr ⟨phase, waiting, fun own => ?_⟩
    subst own
    rw [Locks.holds, consistent.claim?_eq member, Option.any_some, phase] at holds
    cases holds

end Locks

namespace Interleaving.System

variable {ι α : Type}

/-- The task waits for a lock, or is about to. -/
def WaitsForLock (s : System ι α) (k : Nat) : Prop := ∃ uid, s.isAcquiring k uid

theorem not_waitsForLock {s : System ι α} {k : Nat} {c : ι} {e : Effect}
    {next : e.Answer → Program α} (task : s.tasks[k]? = some ⟨c, .going (.perform e next)⟩)
    (other : ∀ u, e ≠ .acquire u) : ¬s.WaitsForLock k := by
  rintro ⟨uid, acquiring⟩
  obtain ⟨c', next', task'⟩ := isAcquiring_iff.1 acquiring
  rw [task] at task'
  cases task'
  exact other uid rfl

/-- Other tasks wait as before. -/
theorem WaitsForLock.performed {s : System ι α} {j k : Nat} {c : ι} {e : Effect}
    {next : e.Answer → Program α} (task : s.tasks[k]? = some ⟨c, .going (.perform e next)⟩)
    (a : e.Answer) (h : s.WaitsForLock j) (other : j ≠ k) :
    (s.performed k c e a next).WaitsForLock j := by
  obtain ⟨uid, acquiring⟩ := h
  obtain ⟨c', next', task'⟩ := isAcquiring_iff.1 acquiring
  refine ⟨uid, isAcquiring_iff.2 ⟨c', next', ?_⟩⟩
  rw [getElem?_performed task, if_neg other]
  exact task'

end Interleaving.System

/-! ### Mirrors -/

namespace Simulation.World

open Interleaving

variable {ι α : Type} {S : Service ι α} {w w' : World α} {s : System ι α}

/-- What a turn of one task leaves alone: tasks and results; and who is ready stays so. -/
structure Frame (w w' : World α) : Prop where
  tasks : w'.tasks = w.tasks
  finished : w'.finished = w.finished
  fresh : w'.fresh = w.fresh
  ready : w.ready <+: w'.ready

theorem Frame.refl (w : World α) : Frame w w := ⟨rfl, rfl, rfl, List.prefix_rfl⟩

theorem Frame.trans {w'' : World α} (h : Frame w w') (h' : Frame w' w'') : Frame w w'' :=
  ⟨h'.tasks.trans h.tasks, h'.finished.trans h.finished, h'.fresh.trans h.fresh,
    h.ready.trans h'.ready⟩

theorem frame_withShared (w : World α) (k : Nat) (shared : Shared) :
    Frame w (w.withShared k shared) :=
  ⟨rfl, rfl, rfl, List.prefix_append _ _⟩

theorem frame_answer (w : World α) (k : Nat) (e : Effect) : Frame w (w.answer k e).1 := by
  cases e with
  | acquire | release | lookup | register | forget => exact frame_withShared _ _ _
  | file | run | remove | inspect | logs => exact ⟨rfl, rfl, rfl, List.prefix_rfl⟩

/-- A system has the tasks of a world, and shares the same. The task that takes its turn may be
ahead of what the world has noted of it. -/
structure Mirrors (S : Service ι α) (busy : Option Nat) (w : World α) (s : System ι α) : Prop where
  coherent : s.Coherent
  shared : s.shared = w.shared
  atRest : s.shared.locks.AtRest s.WaitsForLock
  fresh : s.tasks.length = w.fresh
  going : ∀ t ∈ w.tasks, ∃ c p, s.tasks[t.key]? = some ⟨c, .going p⟩ ∧
    S.droppable c = !t.detached ∧ (some t.key ≠ busy → p = t.program)
  finished : ∀ f ∈ w.finished, ∃ c, s.tasks[f.1.key]? = some ⟨c, .going (.done f.2)⟩

variable {k : Nat} {c : ι}

namespace Mirrors

variable {e : Effect} {next : e.Answer → Program α}

/-- Locks that move change no task. -/
theorem withLocks (h : Mirrors S (some k) w s) (frame : Frame w w') {l : Locks Nat}
    (leads : System.Leads S s (s.withLocks l)) (shared : w'.shared = ⟨s.shared.tracker, l⟩)
    (atRest : l.AtRest s.WaitsForLock) : Mirrors S (some k) w' (s.withLocks l) where
  coherent := h.coherent.leads leads
  shared := shared.symm
  atRest := atRest
  fresh := h.fresh.trans frame.fresh.symm
  going := frame.tasks ▸ h.going
  finished := frame.finished ▸ h.finished

/-- The task that takes its turn performs an effect, and locks move after it. -/
theorem performed (h : Mirrors S (some k) w s)
    (task : s.tasks[k]? = some ⟨c, .going (.perform e next)⟩) (frame : Frame w w')
    (ready : s.isReady k e) {a : e.Answer}
    (answered : ∀ b, s.shared.tracker.reply? e = some b → a = b) {l : Locks Nat}
    (leads : System.Leads S (s.performed k c e a next) ((s.performed k c e a next).withLocks l))
    (shared : w'.shared = ⟨s.shared.tracker.after e, l⟩)
    (atRest : l.AtRest fun j => s.WaitsForLock j ∧ j ≠ k) :
    ∃ s', System.Leads S s s' ∧ Mirrors S (some k) w' s' ∧
      s'.tasks[k]? = some ⟨c, .going (next a)⟩ := by
  have reached : System.Leads S s ((s.performed k c e a next).withLocks l) :=
    .head (.perform k c e next a task ready answered) leads
  have tasks (j : Nat) : ((s.performed k c e a next).withLocks l).tasks[j]? =
      if j = k then some ⟨c, .going (next a)⟩ else s.tasks[j]? :=
    System.getElem?_performed task a next j
  refine ⟨_, reached, ⟨h.coherent.leads reached, shared.symm, ?_, ?_, ?_, ?_⟩, ?_⟩
  · exact atRest.imp fun j ⟨waits, other⟩ => waits.performed task a other
  · rw [frame.fresh, ← h.fresh]
    exact List.length_modify _ _ _
  · intro t member
    rw [frame.tasks] at member
    obtain ⟨d, p, found, same⟩ := h.going t member
    rw [tasks]
    split
    · rename_i own
      rw [own, task] at found
      cases found
      exact ⟨c, next a, rfl, same.1, fun other => absurd (congrArg some own) other⟩
    · exact ⟨d, p, found, same⟩
  · intro f member
    rw [frame.finished] at member
    obtain ⟨d, found⟩ := h.finished f member
    refine ⟨d, ?_⟩
    rw [tasks, if_neg]
    · exact found
    · intro own
      rw [own, task] at found
      cases found
  · rw [tasks, if_pos rfl]

/-- A task that is at rest may perform what takes no lock. -/
theorem isReady (h : Mirrors S (some k) w s)
    (task : s.tasks[k]? = some ⟨c, .going (.perform e next)⟩) (other : ∀ u, e ≠ .acquire u) :
    s.isReady k e := by
  have none_leaving : ¬(s.shared.locks.claim? k).any fun c => c.phase = .leaving := by
    intro leaving
    obtain ⟨d, found, phase⟩ := (Option.any_eq_true _ _).1 leaving
    have phase : d.phase = .leaving := of_decide_eq_true phase
    rcases h.atRest d (Locks.claim?_mem found).1 with holding | ⟨waiting, -⟩
    · rw [holding] at phase
      cases phase
    · rw [waiting] at phase
      cases phase
  cases e with
  | acquire u => exact absurd rfl (other u)
  | _ => simpa [System.isReady] using none_leaving

/-- An effect that neither takes a lock nor gives one back. -/
theorem performed_plain (h : Mirrors S (some k) w s)
    (task : s.tasks[k]? = some ⟨c, .going (.perform e next)⟩) (frame : Frame w w')
    (taking : ∀ u, e ≠ .acquire u) (giving : ∀ u, e ≠ .release u) {a : e.Answer}
    (answered : ∀ b, s.shared.tracker.reply? e = some b → a = b)
    (shared : w'.shared = ⟨s.shared.tracker.after e, s.shared.locks⟩) :
    ∃ s', System.Leads S s s' ∧ Mirrors S (some k) w' s' ∧
      s'.tasks[k]? = some ⟨c, .going (next a)⟩ := by
  have same : s.locksAfter k e = s.shared.locks := by
    cases e with
    | release u => exact absurd rfl (giving u)
    | _ => rfl
  refine h.performed task frame (h.isReady task taking) answered ?_ shared ?_
  · rw [← same]
    exact .refl
  · exact h.atRest.imp fun j waits =>
      ⟨waits, fun own => System.not_waitsForLock task taking (own ▸ waits)⟩

/-- The lock of the task goes to others. -/
theorem performed_release (h : Mirrors S (some k) w s) {uid : String} {next : Unit → Program α}
    (task : s.tasks[k]? = some ⟨c, .going (.perform (.release uid) next)⟩) :
    ∃ s', System.Leads S s s' ∧ Mirrors S (some k) (w.withShared k (w.shared.drop k)) s' ∧
      s'.tasks[k]? = some ⟨c, .going (next ())⟩ := by
  have going : ¬s.WaitsForLock k := System.not_waitsForLock task (by simp)
  have dropped : s.shared.locks.drop k = ((s.shared.locks.unlock k).leave k).settle := by
    rw [Locks.drop, h.atRest.abandon_unlock going]
  refine h.performed task (frame_withShared _ _ _) (h.isReady task (by simp)) (by simp) ?_ ?_
    (h.atRest.drop k)
  · rw [dropped]
    exact .head (.lock (.leave k) rfl) (System.leads_settle _)
  · rw [h.shared]
    rfl

/-- A claim is made, unless it was made before. -/
theorem claim (h : Mirrors S (some k) w s) {uid : String} {next : Unit → Program α}
    (task : s.tasks[k]? = some ⟨c, .going (.perform (.acquire uid) next)⟩) :
    ∃ l, System.Leads S s (s.withLocks l) ∧
      Mirrors S (some k) (w.withShared k (w.shared.claim k uid)) (s.withLocks l) := by
  have acquiring : s.isAcquiring k uid := System.isAcquiring_iff.2 ⟨c, next, task⟩
  by_cases claimed : (s.shared.locks.claim? k).isSome
  · refine ⟨s.shared.locks, .refl, h.withLocks (frame_withShared _ _ _) .refl ?_ h.atRest⟩
    show w.shared.claim k uid = _
    rw [Shared.claim, ← h.shared, if_pos claimed]
  · have leads : System.Leads S s (s.withLocks (s.shared.locks.lock k uid)) := by
      refine .head (.lock (.enter k uid) acquiring) ?_
      rw [Locks.step, if_neg claimed]
      exact System.leads_settle _
    refine ⟨_, leads, h.withLocks (frame_withShared _ _ _) leads ?_ ?_⟩
    · show w.shared.claim k uid = _
      rw [Shared.claim, ← h.shared, if_neg claimed]
    · exact (h.atRest.enter ⟨uid, acquiring⟩ uid).settle

/-- One effect of the task that takes its turn, if it is answered. -/
theorem answered (h : Mirrors S (some k) w s)
    (task : s.tasks[k]? = some ⟨c, .going (.perform e next)⟩) {a : e.Answer}
    (answer : w.answer k e = (w', some a)) :
    ∃ s', System.Leads S s s' ∧ Mirrors S (some k) w' s' ∧
      s'.tasks[k]? = some ⟨c, .going (next a)⟩ := by
  have frame : Frame w w' := by
    have frame := w.frame_answer k e
    rwa [answer] at frame
  have shared := h.shared
  cases e with
  | acquire uid =>
      obtain ⟨l, leads, mirrors⟩ := h.claim task
      simp only [World.answer, Shared.answer, Prod.mk.injEq] at answer
      obtain ⟨rfl, granted⟩ := answer
      have locks : l = (w.shared.claim k uid).locks := congrArg Shared.locks mirrors.shared
      have held : l.holds k := by
        split at granted
        · rename_i holds
          rwa [locks]
        · cases granted
      have atRest := mirrors.atRest.of_holds mirrors.coherent.locks held
      obtain ⟨s', reached, rest⟩ :=
        mirrors.performed (a := a) task (.refl _) held (fun _ _ => rfl) .refl mirrors.shared.symm
          atRest
      exact ⟨s', leads.trans reached, rest⟩
  | release uid =>
      cases answer
      exact h.performed_release task
  | lookup uid | register uid entry | forget uid =>
      cases answer
      exact h.performed_plain task frame (by simp) (by simp)
        (by simp [Tracker.reply?, shared]) (by rw [shared]; rfl)
  | file op =>
      cases answer
      exact h.performed_plain task frame (by simp) (by simp) (by simp [Tracker.reply?])
        (by rw [shared]; rfl)
  | run r =>
      simp only [World.answer, Prod.mk.injEq] at answer
      obtain ⟨rfl, -⟩ := answer
      exact h.performed_plain task frame (by simp) (by simp) (by simp [Tracker.reply?])
        (by rw [shared]; rfl)
  | remove handle force | inspect handle | logs handle options =>
      cases answer
      exact h.performed_plain task frame (by simp) (by simp) (by simp [Tracker.reply?])
        (by rw [shared]; rfl)

/-- One effect of the task that takes its turn, if it has to wait. -/
theorem waits (h : Mirrors S (some k) w s)
    (task : s.tasks[k]? = some ⟨c, .going (.perform e next)⟩)
    (answer : w.answer k e = (w', none)) :
    ∃ s', System.Leads S s s' ∧ Mirrors S (some k) w' s' ∧
      s'.tasks[k]? = some ⟨c, .going (.perform e next)⟩ := by
  have frame : Frame w w' := by
    have frame := w.frame_answer k e
    rwa [answer] at frame
  cases e with
  | acquire uid =>
      obtain ⟨l, leads, mirrors⟩ := h.claim task
      simp only [World.answer, Shared.answer, Prod.mk.injEq] at answer
      obtain ⟨rfl, -⟩ := answer
      exact ⟨_, leads, mirrors, task⟩
  | run r =>
      simp only [World.answer, Prod.mk.injEq] at answer
      obtain ⟨rfl, -⟩ := answer
      exact ⟨_, .refl, h.withLocks frame .refl h.shared.symm h.atRest, task⟩
  | _ => cases answer

/-- A task takes its turn: the system goes along. -/
theorem advance (h : Mirrors S (some k) w s) {p : Program α}
    (task : s.tasks[k]? = some ⟨c, .going p⟩) :
    ∃ s', System.Leads S s s' ∧ Mirrors S (some k) (World.advance k p w).1 s' ∧
      s'.tasks[k]? = some ⟨c, .going (World.advance k p w).2⟩ := by
  induction p generalizing w s with
  | done a => exact ⟨s, .refl, h, task⟩
  | perform e next ih =>
      rw [World.advance]
      split
      · rename_i w' a answer
        obtain ⟨s', leads, mirrors, task'⟩ := h.answered task answer
        obtain ⟨s'', leads', rest⟩ := ih a mirrors task'
        exact ⟨s'', leads.trans leads', rest⟩
      · rename_i w' answer
        exact h.waits task answer

end Mirrors

/-- The program has to wait. -/
def Waits (p : Program α) : Prop := ∃ e next, p = .perform e next ∧ e.awaits

theorem awaits_of_answer {k : Nat} {e : Effect} (answer : w.answer k e = (w', none)) :
    e.awaits := by
  cases e with
  | acquire | run => rfl
  | _ => cases answer

/-- A turn ends when the program has ended, or has to wait. -/
theorem advance_stops (k : Nat) (p : Program α) (w : World α) :
    (∃ a, (advance k p w).2 = .done a) ∨ Waits (advance k p w).2 := by
  induction p generalizing w with
  | done a => exact .inl ⟨a, rfl⟩
  | perform e next ih =>
      rw [advance]
      split
      · exact ih _ _
      · rename_i w' answer
        exact .inr ⟨e, next, rfl, awaits_of_answer answer⟩

theorem frame_advance (k : Nat) (p : Program α) (w : World α) : Frame w (advance k p w).1 := by
  induction p generalizing w with
  | done a => exact .refl w
  | perform e next ih =>
      rw [advance]
      have frame := w.frame_answer k e
      split
      · rename_i w' a answer
        rw [answer] at frame
        exact frame.trans (ih a w')
      · rename_i w' answer
        rw [answer] at frame
        exact frame

/-- A task may take its turn. -/
theorem Mirrors.busy (h : Mirrors S none w s) (k : Nat) : Mirrors S (some k) w s where
  coherent := h.coherent
  shared := h.shared
  atRest := h.atRest
  fresh := h.fresh
  going t member := by
    obtain ⟨c, p, task, droppable, same⟩ := h.going t member
    exact ⟨c, p, task, droppable, fun _ => same (by simp)⟩
  finished := h.finished

/-- A task that has ended leaves its result. -/
theorem Mirrors.finish (h : Mirrors S (some k) w s) {a : α}
    (task : s.tasks[k]? = some ⟨c, .going (.done a)⟩) {t : Task α} (own : t.key = k) :
    Mirrors S none
      { w with
        tasks := w.tasks.filter fun t => t.key ≠ k
        finished := w.finished ++ [(t, a)] } s where
  coherent := h.coherent
  shared := h.shared
  atRest := h.atRest
  fresh := h.fresh
  going u member := by
    obtain ⟨among, other⟩ := List.mem_filter.1 member
    obtain ⟨d, p, found, droppable, same⟩ := h.going u among
    exact ⟨d, p, found, droppable, fun _ => same (by simpa using other)⟩
  finished f member := by
    rcases List.mem_append.1 member with old | new
    · exact h.finished f old
    · rw [List.mem_singleton.1 new]
      exact ⟨c, by rw [own]; exact task⟩

/-- A task that has to wait keeps what is left to do. -/
theorem Mirrors.pause (h : Mirrors S (some k) w s) {p : Program α}
    (task : s.tasks[k]? = some ⟨c, .going p⟩) :
    Mirrors S none
      { w with
        tasks := w.tasks.map fun t => if t.key = k then { t with program := p } else t } s where
  coherent := h.coherent
  shared := h.shared
  atRest := h.atRest
  fresh := h.fresh
  going u member := by
    obtain ⟨t, among, rfl⟩ := List.mem_map.1 member
    obtain ⟨d, q, found, droppable, same⟩ := h.going t among
    split
    · rename_i own
      rw [own, task] at found
      cases found
      exact ⟨c, p, by rw [own]; exact task, droppable, fun _ => rfl⟩
    · rename_i other
      exact ⟨d, q, found, droppable, fun _ => same (by simpa using other)⟩
  finished := h.finished

/-- What a task does in its turn, the system can do. -/
theorem Mirrors.turn (h : Mirrors S none w s) (key : Nat) :
    ∃ s', System.Leads S s s' ∧ Mirrors S none (w.turn key) s' := by
  rw [World.turn]
  split
  · exact ⟨s, .refl, h⟩
  · rename_i t found
    have member := List.mem_of_find?_eq_some found
    have own : t.key = key := by simpa using List.find?_some found
    obtain ⟨c, p, task, droppable, same⟩ := h.going t member
    rw [same (by simp), own] at task
    obtain ⟨s', leads, mirrors, task'⟩ := (h.busy key).advance task
    refine ⟨s', leads, ?_⟩
    cases turned : World.advance key t.program w with
    | mk w' p' =>
        rw [turned] at mirrors task'
        cases p' with
        | done a => exact mirrors.finish task' own
        | perform e next => exact mirrors.pause task'

theorem Mirrors.turns (h : Mirrors S none w s) (n : Nat) :
    ∃ s', System.Leads S s s' ∧ Mirrors S none (turns n w) s' := by
  induction n generalizing w s with
  | zero => exact ⟨s, .refl, h⟩
  | succ n ih =>
      rw [World.turns]
      split
      · exact ⟨s, .refl, h⟩
      · rename_i key rest ready
        have next : Mirrors S none { w with ready := rest } s := { h with }
        obtain ⟨s', leads, mirrors⟩ := next.turn key
        obtain ⟨s'', leads', mirrors'⟩ := ih mirrors
        exact ⟨s'', leads.trans leads', mirrors'⟩

/-! ### All who can go on do -/

/-- Whoever is not among the first who are ready has to wait. -/
def Settled (n : Nat) (w : World α) : Prop :=
  ∀ t ∈ w.tasks, Waits t.program ∨ t.key ∈ w.ready.take n

/-- The first who is ready takes its turn, and waits or has ended after it. -/
theorem Settled.turn {n key : Nat} {rest : List Nat} (h : Settled (n + 1) w)
    (ready : w.ready = key :: rest) :
    Settled n (({ w with ready := rest } : World α).turn key) := by
  have others : ∀ t ∈ w.tasks, t.key ≠ key → Waits t.program ∨ t.key ∈ rest.take n := by
    intro t member other
    refine (h t member).imp_right fun among => ?_
    rw [ready, List.take_succ_cons, List.mem_cons] at among
    exact among.resolve_left other
  rw [World.turn]
  split
  · rename_i found
    intro t member
    refine others t member fun own => ?_
    have absent := List.find?_eq_none.1 found t member
    simp [own] at absent
  · rename_i t found
    have frame := frame_advance key t.program { w with ready := rest }
    have stops := advance_stops key t.program { w with ready := rest }
    cases turned : World.advance key t.program { w with ready := rest } with
    | mk w' p' =>
        rw [turned] at frame stops
        have still (u : Task α) (among : u ∈ w'.tasks) (other : u.key ≠ key) :
            Waits u.program ∨ u.key ∈ w'.ready.take n := by
          refine (others u (frame.tasks ▸ among) other).imp_right fun first => ?_
          obtain ⟨more, whole⟩ := frame.ready
          rw [← whole, List.take_append]
          exact List.mem_append_left _ first
        rcases stops with ⟨a, rfl⟩ | waits
        · intro u member
          obtain ⟨among, other⟩ := List.mem_filter.1 member
          exact still u among (by simpa using other)
        · cases p' with
          | done a =>
              obtain ⟨e, next, same, -⟩ := waits
              cases same
          | perform e next =>
              intro u member
              obtain ⟨t, among, rfl⟩ := List.mem_map.1 member
              split
              · exact .inl waits
              · exact still t among ‹_›

theorem Settled.turns {n : Nat} (h : Settled n w) : Settled 0 (turns n w) := by
  induction n generalizing w with
  | zero => exact h
  | succ n ih =>
      rw [World.turns]
      split
      · rename_i ready
        intro t member
        refine (h t member).imp_right fun among => ?_
        rw [ready] at among
        cases among
      · rename_i key rest ready
        exact ih (h.turn ready)

/-- Once all who are ready have taken their turns, everyone waits. -/
theorem Settled.settle {n : Nat} (h : Settled n w) (ready : n ≤ w.ready.length) :
    Settled 0 w.settle := by
  refine Settled.turns fun t member => (h t member).imp_right fun among => ?_
  exact List.take_subset_take_left _ (by omega) among

/-! ### Histories -/

/-- Some moves of a system lead to what a world has come to, in which everyone waits. -/
structure Mirrored (S : Service ι α) (w : World α) : Prop where
  settled : Settled 0 w
  reached : ∃ s, System.Leads S ∅ s ∧ Mirrors S none w s

theorem mirrored_start (root : String) (tree : Tree) : Mirrored S (World.start root tree) where
  settled t member := absurd member List.not_mem_nil
  reached := by
    refine ⟨∅, .refl, ?_⟩
    exact
      { coherent := .empty
        shared := rfl
        atRest := fun c member => absurd member List.not_mem_nil
        fresh := rfl
        going := fun t member => absurd member List.not_mem_nil
        finished := fun f member => absurd member List.not_mem_nil }

theorem Mirrors.settle (h : Mirrors S none w s) (leads : System.Leads S ∅ s) {n : Nat}
    (settled : Settled n w) (ready : n ≤ w.ready.length) : Mirrored S w.settle where
  settled := settled.settle ready
  reached := by
    obtain ⟨s', leads', mirrors⟩ := h.turns (w.ready.length + w.tasks.length + 1)
    exact ⟨s', leads.trans leads', mirrors⟩

namespace Mirrored

/-- What the world has come to, a system comes to by moves. -/
theorem exists_moves (h : Mirrored S w) : ∃ moves, Mirrors S none w (.run S moves) := by
  obtain ⟨s, leads, mirrors⟩ := h.reached
  obtain ⟨moves, rfl⟩ := System.exists_moves leads
  exact ⟨moves, mirrors⟩

/-- A call comes in. -/
theorem begin (h : Mirrored S w) (c : ι) (name : Option String) :
    Mirrored S (w.begin name (!S.droppable c) (S.program c)) := by
  obtain ⟨s, leads, mirrors⟩ := h.reached
  let s' : System ι α := { s with tasks := s.tasks ++ [⟨c, .going (S.program c)⟩] }
  have leads' : System.Leads S ∅ s' := leads.tail (.call c)
  have old {k : Nat} {t : Interleaving.Task ι α} (found : s.tasks[k]? = some t) :
      s'.tasks[k]? = some t := by
    have present : k < s.tasks.length := (List.getElem?_eq_some_iff.1 found).1
    rw [System.getElem?_called, if_neg (Nat.ne_of_lt present)]
    exact found
  refine Mirrors.settle (n := w.ready.length + 1) (s := s') ?_ leads' ?_ ?_
  · refine ⟨System.Coherent.empty.leads leads', mirrors.shared, ?_, ?_, ?_, ?_⟩
    · refine mirrors.atRest.imp fun k ⟨uid, acquiring⟩ => ⟨uid, ?_⟩
      obtain ⟨d, next, task⟩ := System.isAcquiring_iff.1 acquiring
      exact System.isAcquiring_iff.2 ⟨d, next, old task⟩
    · simp [s', mirrors.fresh]
    · intro t member
      rcases List.mem_append.1 member with before | new
      · obtain ⟨d, p, found, same⟩ := mirrors.going t before
        exact ⟨d, p, old found, same⟩
      · rw [List.mem_singleton.1 new]
        refine ⟨c, S.program c, ?_, by simp, fun _ => rfl⟩
        rw [System.getElem?_called, if_pos mirrors.fresh.symm]
    · intro f member
      obtain ⟨d, found⟩ := mirrors.finished f member
      exact ⟨d, old found⟩
  · intro t member
    rcases List.mem_append.1 member with before | new
    · exact .inl ((h.settled t before).resolve_right (by simp))
    · rw [List.mem_singleton.1 new]
      exact .inr (by simp [List.take_of_length_le])
  · simp

/-- A call that nobody interferes with; its result is handed out. -/
theorem call (h : Mirrored S w) (c : ι) (free : S.droppable c) :
    Mirrored S (w.call (S.program c)).1 := by
  have begun := h.begin c none
  rw [free] at begun
  obtain ⟨s, leads, mirrors⟩ := begun.reached
  refine ⟨begun.settled, s, leads, { mirrors with finished := ?_ }⟩
  exact fun f member => mirrors.finished f (List.mem_of_mem_filter member)

/-- Changes of files and of the engine are nothing to a system. -/
theorem release (h : Mirrored S w) (n : Nat) : Mirrored S (w.release n) := by
  obtain ⟨s, leads, mirrors⟩ := h.reached
  refine Mirrors.settle (n := 0) (s := s) { mirrors with } leads ?_ (Nat.zero_le _)
  exact fun t member => .inl ((h.settled t member).resolve_right (by simp))

/-- A task that may be dropped is dropped while it waits; its lock goes to the next. -/
theorem drop (h : Mirrored S w) {t : Task α} (member : t ∈ w.tasks)
    (attached : t.detached = false) : Mirrored S (w.drop t.key) := by
  obtain ⟨s, leads, mirrors⟩ := h.reached
  obtain ⟨e, next, program, awaits⟩ := (h.settled t member).resolve_right (by simp)
  obtain ⟨c, p, task, droppable, same⟩ := mirrors.going t member
  rw [same (by simp), program] at task
  rw [attached] at droppable
  let s' := s.setRest t.key (.dropped e)
  have tasks (j : Nat) : s'.tasks[j]? = if j = t.key then some ⟨c, .dropped e⟩ else s.tasks[j]? :=
    System.getElem?_setRest task _ j
  -- Whoever was dropped gives up what it had or waited for.
  have isDropped (l : Locks Nat) : (s'.withLocks l).isDropped t.key := by
    refine System.isDropped_iff.2 ⟨c, e, ?_⟩
    exact (tasks t.key).trans (if_pos rfl)
  have leads' : System.Leads S ∅ (s'.withLocks (s.shared.locks.drop t.key)) := by
    refine (leads.tail (.drop t.key c e next task droppable awaits)).trans ?_
    refine .head (.lock (.unlock t.key) (isDropped s.shared.locks)) ?_
    refine .head (.lock (.abandon t.key) (isDropped _)) ?_
    exact .head (.lock (.leave t.key) rfl) (System.leads_settle _)
  refine Mirrors.settle (n := 0) (s := s'.withLocks (s.shared.locks.drop t.key)) ?_ leads' ?_
    (Nat.zero_le _)
  · refine ⟨System.Coherent.empty.leads leads', ?_, ?_, ?_, fun u among => ?_, fun f among => ?_⟩
    · show Shared.drop s.shared t.key = w.shared.drop t.key
      rw [mirrors.shared]
    · refine (mirrors.atRest.drop t.key).imp fun j ⟨⟨uid, acquiring⟩, other⟩ => ⟨uid, ?_⟩
      obtain ⟨d, next', task'⟩ := System.isAcquiring_iff.1 acquiring
      refine System.isAcquiring_iff.2 ⟨d, next', ?_⟩
      exact (tasks j).trans ((if_neg other).trans task')
    · exact (List.length_modify _ _ _).trans mirrors.fresh
    · obtain ⟨among, other⟩ := List.mem_filter.1 among
      obtain ⟨d, p, found, rest⟩ := mirrors.going u among
      exact ⟨d, p, (tasks u.key).trans ((if_neg (by simpa using other)).trans found), rest⟩
    · obtain ⟨d, found⟩ := mirrors.finished f among
      refine ⟨d, (tasks f.1.key).trans ((if_neg fun own => ?_).trans found)⟩
      rw [own, task] at found
      cases found
  · intro u among
    exact .inl ((h.settled u (List.mem_of_mem_filter among)).resolve_right (by simp))

/-- Who waits for a result goes away. -/
theorem abort (h : Mirrored S w) (name : String) : Mirrored S (w.abort name) := by
  rw [World.abort]
  split
  · exact h
  · rename_i t found
    have member := List.mem_of_find?_eq_some found
    split
    · obtain ⟨s, leads, mirrors⟩ := h.reached
      refine ⟨fun u among => ?_, s, leads, { mirrors with going := fun u among => ?_ }⟩
      · obtain ⟨v, before, rfl⟩ := List.mem_map.1 among
        refine .inl ?_
        have waits := (h.settled v before).resolve_right (by simp)
        split
        · exact waits
        · exact waits
      · obtain ⟨v, before, rfl⟩ := List.mem_map.1 among
        have going := mirrors.going v before
        split
        · exact going
        · exact going
    · rename_i attached
      exact h.drop member (by simpa using attached)

/-- Results are taken out. -/
theorem collect (h : Mirrored S w) : Mirrored S w.collect.1 := by
  obtain ⟨s, leads, mirrors⟩ := h.reached
  refine ⟨h.settled, s, leads, { mirrors with finished := ?_ }⟩
  exact fun f member => absurd member List.not_mem_nil

/-- Files and the engine may change in any way between turns. -/
theorem told (h : Mirrored S w) (tree : Tree) (engine : Engine) :
    Mirrored S { w with tree := tree, engine := engine } := by
  obtain ⟨s, leads, mirrors⟩ := h.reached
  exact ⟨h.settled, s, leads, { mirrors with }⟩

/-- In every world between two turns the lock table is consistent, and nobody is leaving it. -/
theorem locks (h : Mirrored S w) :
    w.shared.locks.Consistent ∧ ∀ c ∈ w.shared.locks.claims, c.phase ≠ .leaving := by
  obtain ⟨s, -, mirrors⟩ := h.reached
  rw [← mirrors.shared]
  refine ⟨mirrors.coherent.locks, fun c member leaving => ?_⟩
  rcases mirrors.atRest c member with holding | ⟨waiting, -⟩
  · rw [holding] at leaving
    cases leaving
  · rw [waiting] at leaving
    cases leaving

end Mirrored

end Simulation.World

end Podkeeper
