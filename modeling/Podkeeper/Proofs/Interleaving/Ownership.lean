import Podkeeper.Proofs.Interleaving.Turns

/-!
What runs is accounted for.

Containers start and end in the engine, and are noted and forgotten in the tracker, at different
steps of different tasks. In every history in which the engine does what it says and clean-up
succeeds, a container that runs is either noted for its uid or owned by the one who creates that
uid at this moment: nobody else has work open under the lock of the uid, what is noted was owned
before, and nothing is forgotten that was not removed.
-/

namespace Podkeeper

/-! ### Containers that run -/

theorem Act.eq_run_of_started? {a : Act} {handle : String} (started : a.started? = some handle) :
    ∃ request, a = ⟨.run request, .ok handle⟩ := by
  unfold started? at started
  split at started
  · cases started
    exact ⟨_, rfl⟩
  · cases started

namespace Acts

/-- The handles of the containers that are live: those that were started and not removed since. -/
def live (acts : List Act) : List String :=
  acts.foldl (fun handles a => match a.removed? with
    | some handle => handles.filter (· ≠ handle)
    | none => handles ++ a.started?.toList) []

/-- The container was started for the uid. -/
def RanFor (acts : List Act) (handle uid : String) : Prop :=
  ∃ request, request.uid? = some uid ∧ ⟨.run request, .ok handle⟩ ∈ acts

variable {acts : List Act} {a : Act} {handle uid : String}

theorem mem_live_concat : handle ∈ live (acts ++ [a]) ↔
    a.started? = some handle ∨ handle ∈ live acts ∧ a.removed? ≠ some handle := by
  rw [live, List.foldl_concat, ← live]
  cases removed : a.removed? with
  | none =>
      rw [List.mem_append, Option.mem_toList, or_comm]
      exact or_congr_right ⟨fun old => ⟨old, nofun⟩, And.left⟩
  | some other =>
      have not_started : a.started? ≠ some handle := by
        intro started
        unfold Act.removed? at removed
        split at removed
        · cases started
        · cases removed
      rw [List.mem_filter]
      constructor
      · rintro ⟨old, differs⟩
        exact .inr ⟨old, fun same => of_decide_eq_true differs (Option.some.inj same).symm⟩
      · rintro (new | ⟨old, differs⟩)
        · exact absurd new not_started
        · exact ⟨old, decide_eq_true fun same => differs (same ▸ rfl)⟩

theorem started_of_ranFor (h : RanFor acts handle uid) : handle ∈ started acts := by
  obtain ⟨request, -, member⟩ := h
  exact List.mem_filterMap.2 ⟨_, member, rfl⟩

theorem ranFor_concat : RanFor (acts ++ [a]) handle uid ↔ RanFor acts handle uid ∨
    ∃ request, request.uid? = some uid ∧ a = ⟨.run request, .ok handle⟩ := by
  simp only [RanFor, List.mem_append, List.mem_singleton, and_or_left, exists_or, eq_comm]

/-- A container that ended does not run again. -/
theorem not_live_concat (fresh : (started (acts ++ [a])).Nodup) (before : handle ∈ started acts)
    (ended : handle ∉ live acts) : handle ∉ live (acts ++ [a]) := by
  intro member
  rcases mem_live_concat.1 member with new | ⟨old, -⟩
  · rw [started_concat] at fresh
    exact (List.nodup_append.1 fresh).2.2 handle before handle (Option.mem_toList.2 new) rfl
  · exact ended old

end Acts

/-- An entry that is there after an effect was there before or was put there. -/
theorem Tracker.lookup_after_eq_some {t : Tracker} {e : Effect} {uid : String}
    {entry : List Tracked} (there : (t.after e).lookup uid = some entry) :
    e = .register uid entry ∨ t.lookup uid = some entry ∧ e.writes? ≠ some uid := by
  cases e with
  | register u entry' =>
      rw [after, lookup_register] at there
      split at there
      · rename_i same
        rw [Option.some.inj there, same]
        exact .inl rfl
      · rename_i other
        exact .inr ⟨there, fun same => other (Option.some.inj same).symm⟩
  | forget u =>
      rw [after, lookup_forget] at there
      split at there
      · cases there
      · rename_i other
        exact .inr ⟨there, fun same => other (Option.some.inj same).symm⟩
  | _ => exact .inr ⟨there, (Option.some_ne_none uid).symm⟩

namespace Interleaving

variable {ι α : Type}

/-- A clean-up that failed: one who creates a pod could not remove a container. -/
def Event.isFailedCleanUp (purpose : ι → Purpose) (ev : Event ι) : Bool :=
  match purpose ev.call, ev.act with
  | .create _, ⟨.remove _ _, .error _⟩ => true
  | _, _ => false

/-- One who creates a pod takes its lock while it is tracked. -/
def Event.isRepeated (purpose : ι → Purpose) (t : Tracker) (ev : Event ι) : Bool :=
  match purpose ev.call, ev.act.effect with
  | .create _, .acquire uid => (t.lookup uid).isSome
  | _, _ => false

/-- What is taken for granted of a history: containers that start get handles that none had
before, no pod is created that is tracked when its lock is taken, and no clean-up fails. -/
structure Regular (purpose : ι → Purpose) (past : List (Event ι)) : Prop where
  fresh : (Acts.started (past.map (·.act))).Nodup
  untracked : ∀ before ev after, past = before ++ ev :: after →
    ev.isRepeated purpose (Tracker.afterAll ∅ (before.map (·.act))) = false
  cleaned : ∀ ev ∈ past, ev.isFailedCleanUp purpose = false

/-- No event of a history that goes on from a tracker is repeated. -/
def noneRepeated (purpose : ι → Purpose) (t : Tracker) : List (Event ι) → Bool
  | [] => true
  | ev :: past => !ev.isRepeated purpose t && noneRepeated purpose (t.after ev.act.effect) past

theorem noneRepeated_iff {purpose : ι → Purpose} {t : Tracker} {past : List (Event ι)} :
    noneRepeated purpose t past ↔ ∀ before ev after, past = before ++ ev :: after →
      ev.isRepeated purpose (t.afterAll (before.map (·.act))) = false := by
  induction past generalizing t with
  | nil => simp [noneRepeated]
  | cons ev past ih =>
      rw [noneRepeated, Bool.and_eq_true, Bool.not_eq_true', ih]
      constructor
      · rintro ⟨first, rest⟩ before ev' after split
        cases before with
        | nil =>
            cases split
            exact first
        | cons ev₁ before =>
            cases split
            exact rest before ev' after rfl
      · intro all
        exact ⟨all [] ev past rfl, fun before ev' after split =>
          all (ev :: before) ev' after (congrArg _ split)⟩

instance (purpose : ι → Purpose) (past : List (Event ι)) : Decidable (Regular purpose past) :=
  decidable_of_iff ((Acts.started (past.map (·.act))).Nodup ∧ noneRepeated purpose ∅ past ∧
      ∀ ev ∈ past, ev.isFailedCleanUp purpose = false)
    ⟨fun ⟨fresh, untracked, cleaned⟩ => ⟨fresh, noneRepeated_iff.1 untracked, cleaned⟩,
      fun h => ⟨h.fresh, noneRepeated_iff.2 h.untracked, h.cleaned⟩⟩

/-- What is taken for granted of a history is so of every earlier one. -/
theorem Regular.of_prefix {purpose : ι → Purpose} {past past' : List (Event ι)}
    (h : Regular purpose past') (earlier : past <+: past') : Regular purpose past := by
  obtain ⟨since, rfl⟩ := earlier
  refine ⟨?_, fun before ev after split => ?_, fun ev member => ?_⟩
  · have fresh := h.fresh
    rw [List.map_append, Acts.started, List.filterMap_append] at fresh
    exact (List.nodup_append.1 fresh).1
  · refine h.untracked before ev (after ++ since) ?_
    rw [split, List.append_assoc, List.cons_append]
  · exact h.cleaned ev (List.mem_append_left _ member)

namespace System

variable {purpose : ι → Purpose} {succeeded : α → Prop} {S : Service ι α} {s s' : System ι α}

/-! ### Who started what -/

theorem mem_started_block {k : Nat} {handle : String} :
    handle ∈ Acts.started (s.block k) ↔
      ∃ ev ∈ s.past, ev.task = k ∧ ev.act.started? = some handle := by
  rw [Acts.started, List.mem_filterMap]
  constructor
  · rintro ⟨a, member, started⟩
    obtain ⟨c, event⟩ := mem_block.1 member
    exact ⟨⟨k, c, a⟩, event, rfl, started⟩
  · rintro ⟨⟨j, c, a⟩, event, rfl, started⟩
    exact ⟨a, mem_block.2 ⟨c, event⟩, started⟩

theorem started_block_sublist (s : System ι α) (k : Nat) :
    (Acts.started (s.block k)).Sublist (Acts.started s.acts) :=
  (List.filter_sublist.map _).filterMap _

/-- A container was started by one task only. -/
theorem starter_unique (fresh : (Acts.started s.acts).Nodup) {j k : Nat} {handle : String}
    (left : handle ∈ Acts.started (s.block j)) (right : handle ∈ Acts.started (s.block k)) :
    j = k := by
  obtain ⟨ev, member, rfl, started⟩ := mem_started_block.1 left
  obtain ⟨ev', member', rfl, started'⟩ := mem_started_block.1 right
  rw [Acts.started, acts, List.filterMap_map, List.Nodup, List.pairwise_filterMap] at fresh
  have once : s.past.Pairwise fun ev ev' =>
      ev.act.started? = some handle → ev'.act.started? = some handle → ev.task = ev'.task :=
    fresh.imp fun differ first second => absurd rfl (differ handle first handle second)
  have flipped : s.past.Pairwise (flip fun ev ev' =>
      ev.act.started? = some handle → ev'.act.started? = some handle → ev.task = ev'.task) :=
    fresh.imp fun differ second first => absurd rfl (differ handle first handle second)
  exact once.forall_of_forall_of_flip (fun _ _ _ _ => rfl) flipped member member' started started'

/-! ### Who accounts for what -/

/-- The task creates the pod of a uid. -/
def Creates (purpose : ι → Purpose) (s : System ι α) (k : Nat) (uid : String) : Prop :=
  ∃ c, s.call? k = some c ∧ purpose c = .create uid

/-- The task has work open for a purpose. -/
def OpenFor (purpose : ι → Purpose) (s : System ι α) (k : Nat) (q : Purpose) : Prop :=
  ∃ c, Working s k c ∧ purpose c = q

/-- The handles of the containers that are noted for a uid. -/
def noted (s : System ι α) (uid : String) : List String :=
  ((s.shared.tracker.lookup uid).getD []).map (·.handle)

theorem mem_noted {handle uid : String} : handle ∈ s.noted uid ↔
    ∃ entry, s.shared.tracker.lookup uid = some entry ∧ ∃ t ∈ entry, t.handle = handle := by
  cases there : s.shared.tracker.lookup uid <;> simp [noted, there]

/-- Every container that runs is noted or owned, and what is forgotten does not run. -/
structure Accounted (purpose : ι → Purpose) (succeeded : α → Prop) (s : System ι α) : Prop
    extends Orderly purpose succeeded s where
  /-- Containers are started for uids by those who create them. -/
  runs : ∀ ev ∈ s.past, ∀ request, ev.act.effect = .run request →
    ∃ uid, request.uid? = some uid ∧ purpose ev.call = .create uid
  /-- Who owns containers has work open. -/
  owning : ∀ k uid, Creates purpose s k uid → Acts.owned (s.block k) ≠ [] → OpenOn purpose s k uid
  /-- A uid is not tracked until the one who creates it notes its containers. -/
  pending : ∀ k uid, OpenFor purpose s k (.create uid) → Acts.registered (s.block k) = false →
    s.shared.tracker.lookup uid = none
  /-- What is noted for a uid was started by one who created it. -/
  source : ∀ uid entry, s.shared.tracker.lookup uid = some entry →
    ∃ k, Creates purpose s k uid ∧
      (entry.map (·.handle)).Sublist (Acts.started (s.block k))
  live : ∀ handle ∈ Acts.live s.acts, ∃ k uid, Creates purpose s k uid ∧
    handle ∈ Acts.started (s.block k) ∧ (handle ∈ s.noted uid ∨ handle ∈ Acts.owned (s.block k))
  /-- What one who deletes a uid has found is what is tracked, and what it removed ended. -/
  found : ∀ k uid entry, OpenFor purpose s k (.delete uid) →
    Acts.found (s.block k) = some entry → s.shared.tracker.lookup uid = some entry ∧
      ∀ t ∈ entry, t.handle ∈ Acts.gone (s.block k) → t.handle ∉ Acts.live s.acts
  forgotten : ∀ k uid, OpenFor purpose s k (.delete uid) → Acts.forgot (s.block k) →
    ∀ handle, Acts.RanFor s.acts handle uid → handle ∉ Acts.live s.acts
  /-- After a uid was deleted nothing runs that ran for it, unless it is created again. -/
  deleted : ∀ before ev after uid, s.past = before ++ ev :: after → purpose ev.call = .delete uid →
    Acts.forgot (s.block ev.task) →
    (∀ later ∈ after, ∀ request, later.act.effect = .run request → request.uid? ≠ some uid) →
    ∀ handle, Acts.RanFor s.acts handle uid → handle ∉ Acts.live s.acts

theorem OpenFor.openOn {k : Nat} {q : Purpose} {uid : String} (h : OpenFor purpose s k q)
    (own : q.uid? = some uid) : OpenOn purpose s k uid := by
  obtain ⟨c, working, rfl⟩ := h
  exact ⟨c, working, own⟩

section performed

variable {k : Nat} {c : ι} {e : Effect} {next : e.Answer → Program α} {a : e.Answer}

theorem openFor_performed {j : Nat} {q : Purpose}
    (task : s.tasks[k]? = some ⟨c, .going (.perform e next)⟩)
    (working : OpenFor purpose (s.performed k c e a next) j q) :
    (j = k ∧ purpose c = q ∧ e.isRelease = false) ∨ (j ≠ k ∧ OpenFor purpose s j q) := by
  obtain ⟨d, working, own⟩ := working
  rcases (working_performed task).1 working with ⟨same, rfl, going⟩ | ⟨other, before⟩
  · exact .inl ⟨same, own, going⟩
  · exact .inr ⟨other, d, before, own⟩

theorem creates_performed {j : Nat} {uid : String}
    (task : s.tasks[k]? = some ⟨c, .going (.perform e next)⟩) :
    Creates purpose (s.performed k c e a next) j uid ↔ Creates purpose s j uid := by
  rw [Creates, call?_performed task, Creates]

end performed

namespace Orderly

variable {k : Nat} {c : ι} {e : Effect} {next : e.Answer → Program α} {uid : String}

theorem openFor (h : Orderly purpose succeeded s)
    (task : s.tasks[k]? = some ⟨c, .going (.perform e next)⟩) (own : (purpose c).uid? = some uid)
    (other : ∀ u, e ≠ .acquire u) : OpenFor purpose s k (purpose c) :=
  ⟨c, h.working task own other, rfl⟩

/-- Entries change only under the lock of their uid. -/
theorem openOn_of_writes (h : Orderly purpose succeeded s)
    (task : s.tasks[k]? = some ⟨c, .going (.perform e next)⟩) (writes : e.writes? = some uid) :
    OpenOn purpose s k uid := by
  have own := Purpose.writes_allowed (h.allowed task) writes
  refine (h.openFor task own fun u same => ?_).openOn own
  subst same
  cases writes

/-- An entry stays as it is while another has work open under the lock of its uid. -/
theorem entry_kept (h : Orderly purpose succeeded s)
    (task : s.tasks[k]? = some ⟨c, .going (.perform e next)⟩) {j : Nat}
    (working : OpenOn purpose s j uid) (other : j ≠ k) :
    (s.shared.tracker.after e).lookup uid = s.shared.tracker.lookup uid :=
  Tracker.lookup_after_of_ne fun writes =>
    other (h.open_unique working (h.openOn_of_writes task writes))

/-- A delete that succeeded has forgotten its uid. -/
theorem exists_forget (h : Orderly purpose succeeded s) {r : α} (call : s.call? k = some c)
    (deleting : purpose c = .delete uid) (result : s.result? k = some r)
    (success : succeeded r) : ∃ act ∈ s.block k, act.effect = .forget uid := by
  obtain ⟨d, task⟩ := result?_eq_some result
  have same : d = c := by simpa [System.call?, task] using call
  have ends := h.keeps k d _ task
  rw [Program.Keeps, same, deleting] at ends
  obtain ⟨act, member, forgets⟩ := List.any_eq_true.1 (ends.2 success)
  refine ⟨act, member, ?_⟩
  -- What it forgot is the uid that it deletes, for it changes no other entry.
  obtain ⟨c', event⟩ := mem_block.1 member
  cases Option.some.inj (call.symm.trans (h.calls _ event))
  cases effect : act.effect with
  | forget u =>
      have own := h.writes _ event u (by rw [effect]; rfl)
      rw [deleting] at own
      rw [Option.some.inj own]
  | _ =>
      rw [effect] at forgets
      cases forgets

end Orderly

/-! ### Every step keeps the account -/

namespace Accounted

section performed

variable {k : Nat} {c : ι} {e : Effect} {next : e.Answer → Program α} {a : e.Answer}

theorem block_sublist (s : System ι α) (k : Nat) (c : ι) (e : Effect) (a : e.Answer)
    (next : e.Answer → Program α) (j : Nat) :
    (s.block j).Sublist ((s.performed k c e a next).block j) := by
  rw [block_performed]
  split
  · rename_i same
    rw [same]
    exact List.sublist_append_left _ _
  · exact .refl _

theorem creates_of_task {uid : String} {r : Rest α} (task : s.tasks[k]? = some ⟨c, r⟩) :
    Creates purpose s k uid ↔ purpose c = .create uid := by
  simp [Creates, System.call?, task]

theorem runs_performed (h : Accounted purpose succeeded s)
    (task : s.tasks[k]? = some ⟨c, .going (.perform e next)⟩) :
    ∀ ev ∈ (s.performed k c e a next).past, ∀ request, ev.act.effect = .run request →
      ∃ uid, request.uid? = some uid ∧ purpose ev.call = .create uid := by
  intro ev member request runs
  rcases List.mem_append.1 member with old | new
  · exact h.runs ev old request runs
  · rw [List.mem_singleton.1 new] at runs ⊢
    have runs : e = .run request := runs
    subst runs
    obtain ⟨uid, creating, named, -⟩ := Purpose.run_allowed (h.allowed task)
    exact ⟨uid, named, creating⟩

theorem owning_performed (h : Accounted purpose succeeded s)
    (task : s.tasks[k]? = some ⟨c, .going (.perform e next)⟩) (j : Nat) (uid : String)
    (creates : Creates purpose (s.performed k c e a next) j uid)
    (owns : Acts.owned ((s.performed k c e a next).block j) ≠ []) :
    OpenOn purpose (s.performed k c e a next) j uid := by
  rw [creates_performed task] at creates
  rw [block_performed] at owns
  by_cases same : j = k
  · subst same
    have creating := (creates_of_task task).1 creates
    rw [if_pos rfl] at owns
    refine ⟨c, (working_performed task).2 (.inl ⟨rfl, rfl, ?_⟩), by rw [creating]; rfl⟩
    -- The lock is given back when nothing is owned.
    have allowed := h.allowed task
    rw [creating] at allowed
    cases e with
    | release u =>
        rw [Acts.owned_concat] at owns
        exact absurd allowed.2.2 owns
    | _ => rfl
  · rw [if_neg same] at owns
    obtain ⟨d, working, own⟩ := h.owning j uid creates owns
    exact ⟨d, (working_performed task).2 (.inr ⟨same, working⟩), own⟩

theorem pending_performed (h : Accounted purpose succeeded s)
    (task : s.tasks[k]? = some ⟨c, .going (.perform e next)⟩)
    (regular : Regular purpose (s.performed k c e a next).past) (j : Nat) (uid : String)
    (working : OpenFor purpose (s.performed k c e a next) j (.create uid))
    (unregistered : Acts.registered ((s.performed k c e a next).block j) = false) :
    (s.shared.tracker.after e).lookup uid = none := by
  rw [block_performed] at unregistered
  rcases openFor_performed task working with ⟨same, creating, -⟩ | ⟨other, before⟩
  · rw [if_pos same, Acts.registered_concat, Bool.or_eq_false_iff] at unregistered
    obtain ⟨unregistered, no_register⟩ := unregistered
    have allowed := h.allowed task
    by_cases taking : ∃ u, e = .acquire u
    · obtain ⟨u, rfl⟩ := taking
      rw [creating] at allowed
      have untracked := regular.untracked s.past _ [] rfl
      rw [Event.isRepeated, creating] at untracked
      rw [h.tracker, ← allowed.2]
      exact Option.isNone_iff_eq_none.1 (Option.isSome_eq_false_iff.1 untracked)
    · have working := h.openFor task (by rw [creating]; rfl) fun u same => taking ⟨u, same⟩
      rw [creating] at working allowed
      rw [Tracker.lookup_after_of_ne, h.pending k uid working unregistered]
      cases e with
      | register => cases no_register
      | forget => cases allowed
      | _ => nofun
  · rw [if_neg other] at unregistered
    rw [h.entry_kept task (before.openOn rfl) other]
    exact h.pending j uid before unregistered

theorem source_performed (h : Accounted purpose succeeded s)
    (task : s.tasks[k]? = some ⟨c, .going (.perform e next)⟩) (uid : String) (entry : List Tracked)
    (there : (s.shared.tracker.after e).lookup uid = some entry) :
    ∃ j, Creates purpose (s.performed k c e a next) j uid ∧
      (entry.map (·.handle)).Sublist (Acts.started ((s.performed k c e a next).block j)) := by
  rcases Tracker.lookup_after_eq_some there with rfl | ⟨old, -⟩
  · obtain ⟨creating, -, all⟩ := Purpose.register_allowed (h.allowed task)
    refine ⟨k, (creates_performed task).2 ((creates_of_task task).2 creating), ?_⟩
    rw [all]
    exact Acts.owned_sublist_started.trans ((block_sublist s k c _ a next k).filterMap _)
  · obtain ⟨j, creates, sublist⟩ := h.source uid entry old
    refine ⟨j, (creates_performed task).2 creates, ?_⟩
    exact sublist.trans ((block_sublist s k c _ a next j).filterMap _)

theorem live_performed (h : Accounted purpose succeeded s)
    (task : s.tasks[k]? = some ⟨c, .going (.perform e next)⟩)
    (regular : Regular purpose (s.performed k c e a next).past) :
    ∀ handle ∈ Acts.live (s.performed k c e a next).acts, ∃ j uid,
      Creates purpose (s.performed k c e a next) j uid ∧
        handle ∈ Acts.started ((s.performed k c e a next).block j) ∧
        (handle ∈ (s.performed k c e a next).noted uid ∨
          handle ∈ Acts.owned ((s.performed k c e a next).block j)) := by
  intro handle member
  rw [acts_performed] at member
  rcases Acts.mem_live_concat.1 member with new | ⟨old, kept⟩
  · obtain ⟨request, act⟩ := Act.eq_run_of_started? new
    cases act
    obtain ⟨uid, creating, -⟩ := Purpose.run_allowed (h.allowed task)
    refine ⟨k, uid, (creates_performed task).2 ((creates_of_task task).2 creating), ?_, .inr ?_⟩
    · simp [block_performed, Act.started?]
    · simp [block_performed, Act.owned]
  · obtain ⟨j, uid, creates, started, place⟩ := h.live handle old
    refine ⟨j, uid, (creates_performed task).2 creates,
      ((block_sublist s k c e a next j).filterMap _).subset started, ?_⟩
    rcases place with noted | owned
    · by_cases writes : e.writes? = some uid
      · obtain ⟨entry, there, t, among, rfl⟩ := mem_noted.1 noted
        cases e with
        | register u entry' =>
            -- Nothing was tracked before.
            cases writes
            obtain ⟨creating, unregistered, -⟩ := Purpose.register_allowed (h.allowed task)
            have working := h.openFor task (by rw [creating]; rfl) (by simp)
            rw [creating] at working
            rw [h.pending k uid working unregistered] at there
            cases there
        | forget u =>
            -- All that was tracked was removed.
            cases writes
            obtain ⟨deleting, entry', found, removed⟩ := Purpose.forget_allowed (h.allowed task)
            have working := h.openFor task (by rw [deleting]; rfl) (by simp)
            rw [deleting] at working
            obtain ⟨tracked, ended⟩ := h.found k uid entry' working found
            cases Option.some.inj (there.symm.trans tracked)
            exact absurd old (ended t among (removed t among))
        | _ => cases writes
      · left
        obtain ⟨entry, there, named⟩ := mem_noted.1 noted
        exact mem_noted.2 ⟨entry, (Tracker.lookup_after_of_ne writes).trans there, named⟩
    · rw [block_performed]
      by_cases same : j = k
      · rw [if_pos same, Acts.owned_concat]
        subst same
        have creating := (creates_of_task task).1 creates
        cases e with
        | register u entry =>
            left
            obtain ⟨creating', -, all⟩ := Purpose.register_allowed (h.allowed task)
            cases creating.symm.trans creating'
            refine mem_noted.2 ⟨entry, ?_, List.mem_map.1 (all ▸ owned)⟩
            exact (Tracker.lookup_register _ _ _ _).trans (if_pos rfl)
        | remove other force =>
            right
            cases a with
            | ok =>
                refine List.mem_filter.2 ⟨owned, decide_eq_true ?_⟩
                rintro rfl
                exact kept rfl
            | error failure =>
                have cleaned := regular.cleaned ⟨j, c, .remove other force, .error failure⟩
                  (List.mem_append_right s.past (List.mem_singleton_self _))
                rw [Event.isFailedCleanUp, creating] at cleaned
                cases cleaned
        | run request =>
            right
            cases a with
            | ok => exact List.mem_append_left _ owned
            | error => exact owned
        | _ => exact .inr owned
      · rw [if_neg same]
        exact .inr owned

/-- What is tracked was started. -/
theorem started_of_tracked (h : Accounted purpose succeeded s) {uid : String}
    {entry : List Tracked} (tracked : s.shared.tracker.lookup uid = some entry) {t : Tracked}
    (member : t ∈ entry) : t.handle ∈ Acts.started s.acts := by
  obtain ⟨j, -, sublist⟩ := h.source uid entry tracked
  exact (started_block_sublist s j).subset (sublist.subset (List.mem_map_of_mem member))

theorem fresh_acts (regular : Regular purpose (s.performed k c e a next).past) :
    (Acts.started (s.acts ++ [⟨e, a⟩])).Nodup := by
  rw [← acts_performed a next]
  exact regular.fresh

theorem found_performed (h : Accounted purpose succeeded s)
    (task : s.tasks[k]? = some ⟨c, .going (.perform e next)⟩)
    (answered : ∀ b, s.shared.tracker.reply? e = some b → a = b)
    (regular : Regular purpose (s.performed k c e a next).past) (j : Nat) (uid : String)
    (entry : List Tracked)
    (working : OpenFor purpose (s.performed k c e a next) j (.delete uid))
    (looked : Acts.found ((s.performed k c e a next).block j) = some entry) :
    (s.shared.tracker.after e).lookup uid = some entry ∧
      ∀ t ∈ entry, t.handle ∈ Acts.gone ((s.performed k c e a next).block j) →
        t.handle ∉ Acts.live (s.performed k c e a next).acts := by
  have fresh := fresh_acts regular
  rw [acts_performed]
  rw [block_performed] at looked ⊢
  rcases openFor_performed task working with ⟨same, deleting, going⟩ | ⟨other, before⟩
  · rw [if_pos same] at looked ⊢
    rw [Acts.found_concat] at looked
    have allowed := h.allowed task
    rw [deleting] at allowed
    cases e with
    | lookup u =>
        obtain ⟨-, rfl, nothing⟩ := allowed
        refine ⟨(answered _ rfl).symm.trans looked, fun t _ removed => ?_⟩
        rw [Acts.gone_concat, nothing] at removed
        cases removed
    | remove handle force =>
        have working := h.openFor task (by rw [deleting]; rfl) (by simp)
        rw [deleting] at working
        obtain ⟨tracked, ended⟩ := h.found k uid entry working looked
        refine ⟨tracked, fun t member removed => ?_⟩
        rw [Acts.gone_concat, List.mem_append, Option.mem_toList] at removed
        rcases removed with old | new
        · exact Acts.not_live_concat fresh (h.started_of_tracked tracked member)
            (ended t member old)
        · intro live
          rcases Acts.mem_live_concat.1 live with started | ⟨-, kept⟩
          · cases started
          · exact kept new
    | acquire u =>
        rw [allowed.1] at looked
        cases looked
    | release => cases going
    | forget => cases looked
    | _ => cases allowed
  · rw [if_neg other] at looked ⊢
    obtain ⟨tracked, ended⟩ := h.found j uid entry before looked
    refine ⟨(h.entry_kept task (before.openOn rfl) other).trans tracked, fun t member removed => ?_⟩
    exact Acts.not_live_concat fresh (h.started_of_tracked tracked member) (ended t member removed)

/-- What ran for a uid was started by one who created it. -/
theorem starter_of_ranFor (h : Accounted purpose succeeded s) {handle uid : String}
    (ran : Acts.RanFor s.acts handle uid) :
    ∃ j, Creates purpose s j uid ∧ handle ∈ Acts.started (s.block j) := by
  obtain ⟨request, named, member⟩ := ran
  obtain ⟨ev, event, act⟩ := List.mem_map.1 member
  obtain ⟨uid', named', creating⟩ := h.runs ev event request (by rw [act])
  cases named.symm.trans named'
  refine ⟨ev.task, ⟨ev.call, h.calls ev event, creating⟩, ?_⟩
  exact mem_started_block.2 ⟨ev, event, rfl, by rw [act]; rfl⟩

/-- Whatever runs that ran for a uid is noted for it or owned by one who creates it. -/
theorem place_of_live (h : Accounted purpose succeeded s)
    (fresh : (Acts.started s.acts).Nodup) {handle uid : String}
    (ran : Acts.RanFor s.acts handle uid) (live : handle ∈ Acts.live s.acts) :
    handle ∈ s.noted uid ∨ ∃ j, Creates purpose s j uid ∧ handle ∈ Acts.owned (s.block j) := by
  obtain ⟨j, uid', ⟨d, call, creating⟩, started, place⟩ := h.live handle live
  obtain ⟨i, creates, started'⟩ := h.starter_of_ranFor ran
  cases starter_unique fresh started started'
  obtain ⟨d', call', creating'⟩ := creates
  cases call.symm.trans call'
  cases creating.symm.trans creating'
  exact place.imp id fun owned => ⟨j, ⟨d, call, creating⟩, owned⟩

/-- When a uid is forgotten nothing runs that ran for it. -/
theorem none_live_of_forget (h : Accounted purpose succeeded s) {next : _ → Program α}
    {uid : String} (task : s.tasks[k]? = some ⟨c, .going (.perform (.forget uid) next)⟩)
    (fresh : (Acts.started s.acts).Nodup) {handle : String}
    (ran : Acts.RanFor s.acts handle uid) : handle ∉ Acts.live s.acts := by
  intro live
  obtain ⟨deleting, entry, found, removed⟩ := Purpose.forget_allowed (h.allowed task)
  have working := h.openFor task (by rw [deleting]; rfl) (by simp)
  rw [deleting] at working
  rcases h.place_of_live fresh ran live with noted | ⟨j, creates, owned⟩
  · obtain ⟨entry', there, t, among, rfl⟩ := mem_noted.1 noted
    obtain ⟨tracked, ended⟩ := h.found k uid entry working found
    cases Option.some.inj (there.symm.trans tracked)
    exact ended t among (removed t among) live
  · -- Two who have work open for one uid are one, who does not both create and delete.
    have other := h.owning j uid creates (List.ne_nil_of_mem owned)
    cases h.open_unique other (working.openOn rfl)
    cases deleting.symm.trans ((creates_of_task task).1 creates)

theorem forgotten_performed (h : Accounted purpose succeeded s)
    (task : s.tasks[k]? = some ⟨c, .going (.perform e next)⟩)
    (regular : Regular purpose (s.performed k c e a next).past) (j : Nat) (uid : String)
    (working : OpenFor purpose (s.performed k c e a next) j (.delete uid))
    (forgot : Acts.forgot ((s.performed k c e a next).block j)) (handle : String)
    (ran : Acts.RanFor (s.performed k c e a next).acts handle uid) :
    handle ∉ Acts.live (s.performed k c e a next).acts := by
  have fresh := fresh_acts regular
  have fresh_before : (Acts.started s.acts).Nodup :=
    (regular.of_prefix (List.prefix_append _ _)).fresh
  rw [acts_performed] at ran ⊢
  rw [block_performed] at forgot
  suffices earlier : Acts.RanFor s.acts handle uid ∧ handle ∉ Acts.live s.acts from
    Acts.not_live_concat fresh (Acts.started_of_ranFor earlier.1) earlier.2
  have allowed := h.allowed task
  rcases openFor_performed task working with ⟨same, deleting, going⟩ | ⟨other, before⟩
  · rw [if_pos same, Acts.forgot_concat] at forgot
    have before : Acts.RanFor s.acts handle uid := by
      rcases Acts.ranFor_concat.1 ran with old | ⟨request, -, act⟩
      · exact old
      · cases act
        rw [deleting] at allowed
        cases allowed
    refine ⟨before, ?_⟩
    cases e with
    | forget u =>
        rw [deleting] at allowed
        obtain ⟨-, rfl, -⟩ := allowed
        exact h.none_live_of_forget task fresh_before before
    | acquire u =>
        rw [(Purpose.acquire_allowed allowed).1] at forgot
        cases forgot
    | _ =>
        have working := h.openFor task (by rw [deleting]; rfl) (by simp)
        rw [deleting] at working
        exact h.forgotten k uid working (by simpa [Effect.isForget] using forgot) handle before
  · rw [if_neg other] at forgot
    have before_ran : Acts.RanFor s.acts handle uid := by
      rcases Acts.ranFor_concat.1 ran with old | ⟨request, named, act⟩
      · exact old
      · cases act
        obtain ⟨uid', creating, named', -⟩ := Purpose.run_allowed allowed
        cases named.symm.trans named'
        have working := h.openFor task (by rw [creating]; rfl) (by simp)
        rw [creating] at working
        exact absurd (h.open_unique (before.openOn rfl) (working.openOn rfl)) other
    exact ⟨before_ran, h.forgotten j uid before forgot handle before_ran⟩

theorem deleted_performed (h : Accounted purpose succeeded s)
    (task : s.tasks[k]? = some ⟨c, .going (.perform e next)⟩)
    (coherent : Coherent (s.performed k c e a next))
    (regular : Regular purpose (s.performed k c e a next).past)
    (before : List (Event ι)) (ev : Event ι) (after : List (Event ι)) (uid : String)
    (split : (s.performed k c e a next).past = before ++ ev :: after)
    (deleting : purpose ev.call = .delete uid)
    (forgot : Acts.forgot ((s.performed k c e a next).block ev.task))
    (quiet : ∀ later ∈ after, ∀ request, later.act.effect = .run request →
      request.uid? ≠ some uid)
    (handle : String) (ran : Acts.RanFor (s.performed k c e a next).acts handle uid) :
    handle ∉ Acts.live (s.performed k c e a next).acts := by
  have fresh := fresh_acts regular
  by_cases same : ev.task = k
  · have call := coherent.calls ev (split ▸ List.mem_append_right _ List.mem_cons_self)
    rw [call?_performed task, same, System.call?, task] at call
    have call : c = ev.call := Option.some.inj call
    rw [← call] at deleting
    rw [same] at forgot
    by_cases release : e.isRelease
    · have working := h.openFor task (by rw [deleting]; rfl) fun u acquire => by
        rw [acquire] at release
        cases release
      rw [deleting] at working
      cases e with
      | release u =>
          rw [block_performed, if_pos rfl, Acts.forgot_concat] at forgot
          rw [acts_performed] at ran ⊢
          have earlier : Acts.RanFor s.acts handle uid := by
            rcases Acts.ranFor_concat.1 ran with old | ⟨request, -, act⟩
            · exact old
            · cases act
          refine Acts.not_live_concat fresh (Acts.started_of_ranFor earlier) ?_
          exact h.forgotten k uid working (by simpa [Effect.isForget] using forgot) handle earlier
      | _ => cases release
    · have working : Working (s.performed k c e a next) k c :=
        (working_performed task).2 (.inl ⟨rfl, rfl, by simpa using release⟩)
      exact h.forgotten_performed task regular k uid ⟨c, working, deleting⟩ forgot handle ran
  · rw [block_performed, if_neg same] at forgot
    rcases List.eq_nil_or_concat after with rfl | ⟨earlier, last, rfl⟩
    · obtain ⟨-, new⟩ := List.append_inj' split rfl
      cases List.singleton_inj.1 new
      exact absurd rfl same
    · rw [List.concat_eq_append] at split quiet
      rw [← List.cons_append, ← List.append_assoc] at split
      obtain ⟨past, new⟩ := List.append_inj' split rfl
      cases List.singleton_inj.1 new
      have quiet_before : ∀ later ∈ earlier, ∀ request, later.act.effect = .run request →
          request.uid? ≠ some uid := fun later member => quiet later (List.mem_append_left _ member)
      have ended := h.deleted before ev earlier uid past deleting forgot quiet_before
      rw [acts_performed] at ran ⊢
      rcases Acts.ranFor_concat.1 ran with old | ⟨request, named, act⟩
      · exact Acts.not_live_concat fresh (Acts.started_of_ranFor old) (ended handle old)
      · cases act
        have last := quiet _ (List.mem_append_right _ (List.mem_singleton_self _))
        exact absurd named (last request rfl)

end performed

/-- A move that performs nothing, and drops only those who read, changes no account. -/
theorem of_past_eq (h : Accounted purpose succeeded s) (orderly : Orderly purpose succeeded s')
    (past : s'.past = s.past) (tracker : s'.shared.tracker = s.shared.tracker)
    (calls : ∀ k c, s.call? k = some c → s'.call? k = some c)
    (begun : ∀ k c, Working s' k c → Working s k c)
    (kept : ∀ k c, (purpose c).uid? ≠ none → Working s k c → Working s' k c) :
    Accounted purpose succeeded s' := by
  have acts_eq : s'.acts = s.acts := by rw [acts, past, acts]
  have block_eq (k : Nat) : s'.block k = s.block k := by
    rw [block, eventsOf, past, block, eventsOf]
  have creates {k : Nat} {uid : String} (creates : Creates purpose s k uid) :
      Creates purpose s' k uid := by
    obtain ⟨c, call, creating⟩ := creates
    exact ⟨c, calls k c call, creating⟩
  have opens {k : Nat} {q : Purpose} (working : OpenFor purpose s' k q) :
      OpenFor purpose s k q := by
    obtain ⟨c, working, own⟩ := working
    exact ⟨c, begun k c working, own⟩
  refine
    { toOrderly := orderly
      runs := past ▸ h.runs
      owning := fun k uid creates' owns => ?_
      pending := fun k uid working unregistered => ?_
      source := fun uid entry tracked => ?_
      live := fun handle member => ?_
      found := fun k uid entry working looked => ?_
      forgotten := fun k uid working forgot => ?_
      deleted := fun before ev after uid split deleting forgot => ?_ }
  · rw [block_eq] at owns
    obtain ⟨c, call', creating⟩ := creates'
    -- Who owns something has acted, so that its call is an old one.
    obtain ⟨handle, member⟩ := List.exists_mem_of_ne_nil _ owns
    obtain ⟨ev, event, rfl, -⟩ := mem_started_block.1 (Acts.owned_sublist_started.subset member)
    have call := h.calls ev event
    cases Option.some.inj (call'.symm.trans (calls _ _ call))
    obtain ⟨d, working, own⟩ := h.owning ev.task uid ⟨_, call, creating⟩ owns
    exact ⟨d, kept _ d (by rw [own]; exact Option.some_ne_none uid) working, own⟩
  · rw [tracker]
    exact h.pending k uid (opens working) (block_eq k ▸ unregistered)
  · obtain ⟨k, creating, sublist⟩ := h.source uid entry (tracker ▸ tracked)
    exact ⟨k, creates creating, block_eq k ▸ sublist⟩
  · obtain ⟨k, uid, creating, started, place⟩ := h.live handle (acts_eq ▸ member)
    refine ⟨k, uid, creates creating, block_eq k ▸ started, ?_⟩
    rw [block_eq, noted, tracker]
    exact place
  · rw [block_eq] at looked ⊢
    rw [tracker, acts_eq]
    exact h.found k uid entry (opens working) looked
  · rw [acts_eq]
    exact h.forgotten k uid (opens working) (block_eq k ▸ forgot)
  · rw [acts_eq]
    exact h.deleted before ev after uid (past ▸ split) deleting (block_eq _ ▸ forgot)

theorem empty : Accounted purpose succeeded (∅ : System ι α) where
  toOrderly := .empty
  runs _ member := absurd member List.not_mem_nil
  owning _ _ _ owns := absurd rfl owns
  pending _ _ _ _ := rfl
  source _ _ tracked := by cases tracked
  live _ member := absurd member List.not_mem_nil
  found _ _ _ _ looked := by cases looked
  forgotten _ _ _ forgot := by cases forgot
  deleted before _ _ _ split := by cases before <;> cases split

/-- Whatever a move does, the account is kept as long as the history is regular. -/
theorem change (service : S.Conducted purpose succeeded)
    (patient : ∀ c, S.droppable c → (purpose c).uid? = none) (h : Accounted purpose succeeded s)
    (move : Change S s s') (regular : Regular purpose s'.past) :
    Accounted purpose succeeded s' := by
  have orderly := h.toOrderly.change service move
  have calls : ∀ k c, s.call? k = some c → s'.call? k = some c :=
    fun k c => Coherent.call?_of_change move
  cases move with
  | idle => exact h
  | call d =>
      refine h.of_past_eq orderly rfl rfl calls (fun k c => h.working_called) ?_
      rintro k c - ⟨p, task, opened⟩
      refine ⟨p, ?_, opened⟩
      have present : k < s.tasks.length := (List.getElem?_eq_some_iff.1 task).1
      rw [getElem?_called, if_neg (Nat.ne_of_lt present)]
      exact task
  | lock => exact h.of_past_eq orderly rfl rfl calls (fun _ _ => id) fun _ _ _ => id
  | perform k c e next a task ready answered =>
      exact
        { toOrderly := orderly
          runs := h.runs_performed task
          owning := h.owning_performed task
          pending := h.pending_performed task regular
          source := h.source_performed task
          live := h.live_performed task regular
          found := h.found_performed task answered regular
          forgotten := h.forgotten_performed task regular
          deleted := h.deleted_performed task orderly.toCoherent regular }
  | drop k c e next task droppable =>
      refine h.of_past_eq orderly rfl rfl calls (fun j d => working_dropped task) ?_
      rintro j d own ⟨p, left, opened⟩
      refine ⟨p, ?_, opened⟩
      rw [getElem?_setRest task, if_neg]
      · exact left
      · rintro rfl
        cases Option.some.inj (task.symm.trans left)
        exact own (patient c droppable)

/-- In every regular history what runs is accounted for. -/
theorem run (service : S.Conducted purpose succeeded)
    (patient : ∀ c, S.droppable c → (purpose c).uid? = none) (moves : List (Move ι))
    (regular : Regular purpose (run S moves).past) : Accounted purpose succeeded (run S moves) := by
  refine run_induction (P := fun s => Regular purpose s.past → Accounted purpose succeeded s)
    (fun _ => .empty) (fun s s' h move regular => ?_) moves regular
  exact (h (regular.of_prefix move.past_prefix)).change service patient move regular

/-! ### What the account says -/

/-- Whatever runs was started for a uid. -/
theorem ranFor_of_live (h : Accounted purpose succeeded s) {handle : String}
    (live : handle ∈ Acts.live s.acts) : ∃ uid, Acts.RanFor s.acts handle uid := by
  obtain ⟨k, -, -, started, -⟩ := h.live handle live
  obtain ⟨ev, event, -, started⟩ := mem_started_block.1 started
  obtain ⟨request, act⟩ := Act.eq_run_of_started? started
  obtain ⟨uid, named, -⟩ := h.runs ev event request (by rw [act])
  exact ⟨uid, request, named, act ▸ List.mem_map_of_mem event⟩

/-- Who owns a container is not over. -/
theorem not_over_of_owned (h : Accounted purpose succeeded s) {k : Nat} {uid handle : String}
    (creates : Creates purpose s k uid) (owned : handle ∈ Acts.owned (s.block k)) :
    ¬s.isOver k := by
  obtain ⟨c, call, creating⟩ := creates
  have owns := List.ne_nil_of_mem owned
  obtain ⟨d, ⟨p, task, -⟩, -⟩ := h.owning k uid ⟨c, call, creating⟩ owns
  have same : d = c := by simpa [System.call?, task] using call
  subst same
  intro ended
  rcases Bool.or_eq_true_iff.1 ended with complete | dropped
  · obtain ⟨r, result⟩ := Option.isSome_iff_exists.1 complete
    obtain ⟨c', left⟩ := result?_eq_some result
    cases Option.some.inj (task.symm.trans left)
    have ends := h.keeps k _ _ task
    rw [Program.Keeps, creating] at ends
    exact owns ends.2
  · obtain ⟨c', e, left⟩ := isDropped_iff.1 dropped
    cases Option.some.inj (task.symm.trans left)

/-- No two entries of the tracker, nor one of them twice, have a handle. -/
theorem handles_nodup (h : Accounted purpose succeeded s) (fresh : (Acts.started s.acts).Nodup) :
    (s.shared.tracker.entries.entries.flatMap fun e => e.2.map (·.handle)).Nodup := by
  have source {e : String × List Tracked} (member : e ∈ s.shared.tracker.entries.entries) :=
    h.source e.1 e.2 (KeyMap.get?_eq_some_iff.2 member)
  refine List.nodup_flatMap.2 ⟨fun e member => ?_, ?_⟩
  · obtain ⟨k, -, sublist⟩ := source member
    exact (fresh.sublist (started_block_sublist s k)).sublist sublist
  · refine s.shared.tracker.entries.increasing.imp_of_mem fun {e e'} member member' below => ?_
    intro handle left right
    obtain ⟨k, ⟨c, call, creating⟩, sublist⟩ := source member
    obtain ⟨k', ⟨c', call', creating'⟩, sublist'⟩ := source member'
    cases starter_unique fresh (sublist.subset left) (sublist'.subset right)
    cases call.symm.trans call'
    have same : e.1 = e'.1 := Purpose.create.inj (creating.symm.trans creating')
    exact String.lt_irrefl _ (same ▸ below)

/-- After a delete that succeeded nothing runs that ran for its uid, as long as nothing is started
for the uid again. -/
theorem none_live_of_deleted (h : Accounted purpose succeeded s) {k : Nat} {c : ι} {uid : String}
    {r : α} (call : s.call? k = some c) (deleting : purpose c = .delete uid)
    (result : s.result? k = some r) (success : succeeded r) {before after : List (Event ι)}
    {ev : Event ι} (split : s.past = before ++ ev :: after) (own : ev.task = k)
    (quiet : ∀ later ∈ after, ∀ request, later.act.effect = .run request →
      request.uid? ≠ some uid) :
    ∀ handle, Acts.RanFor s.acts handle uid → handle ∉ Acts.live s.acts := by
  subst own
  have same : ev.call = c := by
    have called := h.calls ev (split ▸ List.mem_append_right _ List.mem_cons_self)
    exact Option.some.inj (called.symm.trans call)
  obtain ⟨act, member, forgets⟩ := h.exists_forget call deleting result success
  refine h.deleted before ev after uid split (same ▸ deleting) ?_ quiet
  exact List.any_eq_true.2 ⟨act, member, by rw [forgets]; rfl⟩

end Accounted

end System

end Interleaving

end Podkeeper
