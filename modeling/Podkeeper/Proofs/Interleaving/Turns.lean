import Podkeeper.Proofs.Interleaving.Conduct

/-!
One at a time under a lock.

Where all calls keep the rules of their purposes, whoever has work open under the lock of a uid
holds that lock (`Orderly.holds`), and so is the only one (`Orderly.open_unique`). A lock is given
up by a task only at the end of its program or after the task was dropped, and a dropped task has
no work open.
-/

namespace Podkeeper

/-! ### Locks -/

namespace Locks

variable {κ : Type} [DecidableEq κ] {l : Locks κ}

/-- A step issues at most one ticket, to the one who enters. -/
theorem claims_step {t : Step κ} {d : Claim κ} (member : d ∈ (l.step t).claims) :
    (∃ c ∈ l.claims, d.owner = c.owner ∧ d.uid = c.uid) ∨ t = .enter d.owner d.uid := by
  have moved {owner : κ} {before after : ClaimPhase}
      (member : d ∈ (l.move owner before after).claims) :
      ∃ c ∈ l.claims, d.owner = c.owner ∧ d.uid = c.uid := by
    obtain ⟨c, mem, owner, uid, -⟩ := Consistent.mem_move member
    exact ⟨c, mem, owner, uid⟩
  cases t with
  | enter owner uid =>
      simp only [step, enter] at member
      split at member
      · exact .inl ⟨d, member, rfl, rfl⟩
      · split at member <;>
          · rcases List.mem_append.1 member with old | new
            · exact .inl ⟨d, old, rfl, rfl⟩
            · rw [List.mem_singleton.1 new]
              exact .inr rfl
  | grant owner =>
      simp only [step, grant] at member
      split at member
      · split at member
        · exact .inl (moved member)
        · exact .inl ⟨d, member, rfl, rfl⟩
      · exact .inl ⟨d, member, rfl, rfl⟩
  | abandon owner => exact .inl (moved member)
  | unlock owner => exact .inl (moved member)
  | leave owner =>
      simp only [step, leave] at member
      split at member
      · split at member
        · exact .inl ⟨d, List.mem_of_mem_filter member, rfl, rfl⟩
        · exact .inl ⟨d, member, rfl, rfl⟩
      · exact .inl ⟨d, member, rfl, rfl⟩

theorem mem_move_of_ne {owner : κ} {before after : ClaimPhase} {c : Claim κ}
    (member : c ∈ l.claims) (other : c.owner = owner → c.phase ≠ before) :
    c ∈ (l.move owner before after).claims := by
  refine List.mem_map.2 ⟨c, member, if_neg ?_⟩
  rintro ⟨own, phase⟩
  exact other own phase

/-- A guard stays one until it gives its mutex back. -/
theorem guard_step (h : Consistent l) {t : Step κ} {c : Claim κ} (member : c ∈ l.claims)
    (holding : c.phase = .holding) (kept : t ≠ .unlock c.owner) : c ∈ (l.step t).claims := by
  have moved {owner : κ} {before after : ClaimPhase} (other : before ≠ .holding) :
      c ∈ (l.move owner before after).claims :=
    mem_move_of_ne member fun _ phase => other (phase.symm.trans holding)
  cases t with
  | enter owner uid =>
      simp only [step, enter]
      split
      · exact member
      · split <;> exact List.mem_append_left _ member
  | grant owner =>
      simp only [step, grant]
      split
      · split
        · exact moved (by decide)
        · exact member
      · exact member
  | abandon owner => exact moved (by decide)
  | unlock owner =>
      refine mem_move_of_ne member fun own => absurd ?_ kept
      rw [own]
  | leave owner =>
      simp only [step, leave]
      split
      · rename_i d found
        split
        · rename_i leaving
          refine List.mem_filter.2 ⟨member, decide_eq_true fun same => ?_⟩
          have looked_up : c = d := Option.some.inj ((same ▸ h.claim?_eq member).symm.trans found)
          rw [looked_up, leaving] at holding
          cases holding
        · exact member
      · exact member

end Locks

namespace Interleaving

variable {ι α : Type}

/-- The calls of a service keep the rules of their purposes. -/
def Service.Conducted (S : Service ι α) (purpose : ι → Purpose) (succeeded : α → Prop) : Prop :=
  ∀ c, Program.Keeps (purpose c).rules (fun past a => (purpose c).ends (succeeded a) past) []
    (S.program c)

namespace System

variable {purpose : ι → Purpose} {succeeded : α → Prop} {S : Service ι α} {s s' : System ι α}

/-! ### Orderly systems -/

/-- The task of a call goes on and has work open under a lock. -/
def Working (s : System ι α) (k : Nat) (c : ι) : Prop :=
  ∃ p, s.tasks[k]? = some ⟨c, .going p⟩ ∧ Acts.isOpen (s.block k)

/-- The task has work open under the lock of a uid. -/
def OpenOn (purpose : ι → Purpose) (s : System ι α) (k : Nat) (uid : String) : Prop :=
  ∃ c, Working s k c ∧ (purpose c).uid? = some uid

/-- Whose call came in just now has no work open. -/
theorem Coherent.working_called (h : Coherent s) {c d : ι} {k : Nat}
    (working : Working { s with tasks := s.tasks ++ [⟨d, .going (S.program d)⟩] } k c) :
    Working s k c := by
  obtain ⟨p, task, opened⟩ := working
  rw [getElem?_called] at task
  split at task
  · rename_i last
    have nothing : s.block k = [] := h.block_eq_nil (by simp [last])
    have opened : Acts.isOpen (s.block k) := opened
    rw [nothing] at opened
    cases opened
  · exact ⟨p, task, opened⟩

theorem working_dropped {j k : Nat} {c d : ι} {r : Rest α} {e : Effect}
    (found : s.tasks[k]? = some ⟨c, r⟩) (working : Working (s.setRest k (.dropped e)) j d) :
    Working s j d := by
  obtain ⟨p, task, opened⟩ := working
  rw [getElem?_setRest found] at task
  split at task
  · cases Option.some.inj task
  · exact ⟨p, task, opened⟩

/-- After an act its task has work open unless it gave the lock back. -/
theorem working_performed {j k : Nat} {c d : ι} {e : Effect} {next : e.Answer → Program α}
    {a : e.Answer} (task : s.tasks[k]? = some ⟨c, .going (.perform e next)⟩) :
    Working (s.performed k c e a next) j d ↔
      (j = k ∧ d = c ∧ e.isRelease = false) ∨ (j ≠ k ∧ Working s j d) := by
  rw [Working, getElem?_performed task, block_performed]
  by_cases same : j = k
  · subst same
    rw [if_pos rfl, if_pos rfl, Acts.isOpen_concat]
    constructor
    · rintro ⟨p, left, going⟩
      cases Option.some.inj left
      exact .inl ⟨rfl, rfl, by simpa using going⟩
    · rintro (⟨-, rfl, going⟩ | ⟨other, -⟩)
      · exact ⟨next a, rfl, by simpa using going⟩
      · exact absurd rfl other
  · simp [same, Working]

/-- Tasks keep the rules of their purposes, and those with work open under a lock hold it. -/
structure Orderly (purpose : ι → Purpose) (succeeded : α → Prop) (s : System ι α) : Prop
    extends Coherent s where
  keeps : ∀ k c p, s.tasks[k]? = some ⟨c, .going p⟩ →
    Program.Keeps (purpose c).rules (fun past a => (purpose c).ends (succeeded a) past)
      (s.block k) p
  /-- Tickets are for the uids of the calls. -/
  claimed : ∀ d ∈ s.shared.locks.claims, ∃ c, s.call? d.owner = some c ∧
    (purpose c).uid? = some d.uid
  holds : ∀ k uid, OpenOn purpose s k uid →
    ∃ d ∈ s.shared.locks.claims, d.owner = k ∧ d.phase = .holding
  /-- A call changes no other entry than that of its uid. -/
  writes : ∀ ev ∈ s.past, ∀ uid, ev.act.effect.writes? = some uid →
    (purpose ev.call).uid? = some uid

namespace Orderly

theorem empty : Orderly purpose succeeded (∅ : System ι α) where
  toCoherent := .empty
  keeps _ _ _ task := by cases task
  claimed _ member := absurd member List.not_mem_nil
  holds _ _ working := by
    obtain ⟨c, ⟨p, task, -⟩, -⟩ := working
    cases task
  writes _ member := absurd member List.not_mem_nil

/-- What a task performs next is allowed. -/
theorem allowed (h : Orderly purpose succeeded s) {k : Nat} {c : ι} {e : Effect}
    {next : e.Answer → Program α} (task : s.tasks[k]? = some ⟨c, .going (.perform e next)⟩) :
    (purpose c).rules (s.block k) e :=
  (h.keeps k c _ task).1

/-- Whoever is past taking its lock has work open. -/
theorem working (h : Orderly purpose succeeded s) {k : Nat} {c : ι} {e : Effect}
    {next : e.Answer → Program α} {uid : String}
    (task : s.tasks[k]? = some ⟨c, .going (.perform e next)⟩) (own : (purpose c).uid? = some uid)
    (other : ∀ u, e ≠ .acquire u) : Working s k c :=
  ⟨_, task, Purpose.open_of_allowed own (h.allowed task) other⟩

/-- A ticket of a task is for the uid of its call. -/
theorem uid_of_ticket (h : Orderly purpose succeeded s) {d : Claim Nat}
    (member : d ∈ s.shared.locks.claims) {c : ι} {r : Rest α} {uid : String}
    (task : s.tasks[d.owner]? = some ⟨c, r⟩) (own : (purpose c).uid? = some uid) : d.uid = uid := by
  obtain ⟨c', call, ticket⟩ := h.claimed d member
  rw [System.call?, task] at call
  cases call
  exact Option.some.inj (ticket.symm.trans own)

/-- Two tasks with work open under one lock are one. -/
theorem open_unique (h : Orderly purpose succeeded s) {j k : Nat} {uid : String}
    (left : OpenOn purpose s j uid) (right : OpenOn purpose s k uid) : j = k := by
  obtain ⟨d, member, rfl, holding⟩ := h.holds j uid left
  obtain ⟨d', member', rfl, holding'⟩ := h.holds k uid right
  obtain ⟨c, ⟨p, task, -⟩, own⟩ := left
  obtain ⟨c', ⟨p', task', -⟩, own'⟩ := right
  have same : d.uid = d'.uid :=
    (h.uid_of_ticket member task own).trans (h.uid_of_ticket member' task' own').symm
  rw [h.locks.guard_unique member member' same holding holding']

/-- Whatever a task of a uid can perform next, it holds a lock. -/
theorem guard_of_ready (h : Orderly purpose succeeded s) {k : Nat} {c : ι} {uid : String}
    {e : Effect} {next : e.Answer → Program α}
    (task : s.tasks[k]? = some ⟨c, .going (.perform e next)⟩) (ready : s.isReady k e)
    (own : (purpose c).uid? = some uid) :
    ∃ d ∈ s.shared.locks.claims, d.owner = k ∧ d.phase = .holding := by
  by_cases taking : ∃ u, e = .acquire u
  · obtain ⟨u, rfl⟩ := taking
    obtain ⟨d, found, holding⟩ := (Option.any_eq_true _ _).1 ready
    obtain ⟨member, own⟩ := Locks.claim?_mem found
    exact ⟨d, member, own, of_decide_eq_true holding⟩
  · exact h.holds k uid ⟨c, h.working task own fun u same => taking ⟨u, same⟩, own⟩

/-- Whoever can take a lock is the only one who holds it, and nobody has work open under it. -/
theorem none_open_of_ready (h : Orderly purpose succeeded s) {j k : Nat} {c : ι} {uid : String}
    {next : Unit → Program α} (task : s.tasks[k]? = some ⟨c, .going (.perform (.acquire uid) next)⟩)
    (ready : s.isReady k (.acquire uid)) : ¬OpenOn purpose s j uid := by
  intro working
  obtain ⟨first, own⟩ := Purpose.acquire_allowed (h.allowed task)
  obtain ⟨d, member, rfl, holding⟩ := h.guard_of_ready task ready own
  obtain ⟨d', member', rfl, holding'⟩ := h.holds j uid working
  obtain ⟨c', ⟨p, task', opened⟩, own'⟩ := working
  have same : d.uid = d'.uid :=
    (h.uid_of_ticket member task own).trans (h.uid_of_ticket member' task' own').symm
  rw [← h.locks.guard_unique member member' same holding holding', first] at opened
  cases opened

/-- Nobody who goes on is made to give up a guard. -/
theorem guard_of_permitted (h : Orderly purpose succeeded s) {t : Locks.Step Nat}
    (permitted : s.permits t) {d : Claim Nat} (member : d ∈ s.shared.locks.claims)
    (holding : d.phase = .holding) {c : ι} {p : Program α}
    (task : s.tasks[d.owner]? = some ⟨c, .going p⟩) : d ∈ (s.shared.locks.step t).claims := by
  refine Locks.guard_step h.locks member holding ?_
  rintro rfl
  simp [permits, isDropped, waitedFor?, task] at permitted

theorem change (service : S.Conducted purpose succeeded) (h : Orderly purpose succeeded s)
    (move : Change S s s') : Orderly purpose succeeded s' where
  toCoherent := h.toCoherent.change move
  keeps k c p task := by
    rcases move.left h.toCoherent task with ⟨before, block⟩ | ⟨rfl, block⟩ | acted
    · rw [block]
      exact h.keeps k c p before
    · rw [block]
      exact service c
    · obtain ⟨e, next, a, before, rfl, block, -⟩ := acted
      rw [block]
      exact (h.keeps k c _ before).2 a
  claimed d member := by
    suffices earlier : ∃ c, s.call? d.owner = some c ∧ (purpose c).uid? = some d.uid by
      obtain ⟨c, call, own⟩ := earlier
      exact ⟨c, Coherent.call?_of_change move call, own⟩
    cases move with
    | lock t permitted =>
        rcases Locks.claims_step member with ⟨c, mem, owner, uid⟩ | rfl
        · rw [owner, uid]
          exact h.claimed c mem
        · obtain ⟨c, next, task⟩ := isAcquiring_iff.1 permitted
          refine ⟨c, ?_, (Purpose.acquire_allowed (h.allowed task)).2⟩
          rw [System.call?, task]
          rfl
    | perform k c e next a found =>
        cases e with
        | release uid =>
          obtain ⟨c, mem, owner, uid, -⟩ := Locks.Consistent.mem_move member
          rw [owner, uid]
          exact h.claimed c mem
        | _ => exact h.claimed d member
    | _ => exact h.claimed d member
  holds k uid working := by
    obtain ⟨c, working, own⟩ := working
    cases move with
    | idle => exact h.holds k uid ⟨c, working, own⟩
    | call d => exact h.holds k uid ⟨c, h.working_called working, own⟩
    | lock t permitted =>
        obtain ⟨d, member, rfl, holding⟩ := h.holds k uid ⟨c, working, own⟩
        obtain ⟨p, task, -⟩ := working
        exact ⟨d, h.guard_of_permitted permitted member holding task, rfl, holding⟩
    | perform j c' e next a found ready =>
        rcases (working_performed found).1 working with ⟨rfl, rfl, going⟩ | ⟨other, before⟩
        · obtain ⟨d, member, mine, holding⟩ := h.guard_of_ready found ready own
          refine ⟨d, ?_, mine, holding⟩
          cases e with
          | release => cases going
          | _ => exact member
        · obtain ⟨d, member, rfl, holding⟩ := h.holds k uid ⟨c, before, own⟩
          refine ⟨d, ?_, rfl, holding⟩
          cases e with
          | release => exact Locks.mem_move_of_ne member fun same => absurd same other
          | _ => exact member
    | drop j c' e next found => exact h.holds k uid ⟨c, working_dropped found working, own⟩
  writes ev member := by
    cases move with
    | perform k c e next a found =>
        rcases List.mem_append.1 member with old | new
        · exact h.writes ev old
        · rw [List.mem_singleton.1 new]
          exact fun uid => Purpose.writes_allowed (h.allowed found)
    | _ => exact h.writes ev member

/-- Whatever happens, a service whose calls keep the rules of their purposes stays orderly. -/
theorem run (service : S.Conducted purpose succeeded) (moves : List (Move ι)) :
    Orderly purpose succeeded (run S moves) :=
  run_induction .empty (fun _ _ h move => h.change service move) moves

end Orderly

end System

end Interleaving

end Podkeeper
