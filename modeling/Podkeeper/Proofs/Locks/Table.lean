import Mathlib.Data.List.Dedup
import Mathlib.Data.List.Induction
import Podkeeper.Lifecycle.Locks

/-!
The lock table under every order of its atomic steps.

A ticket is an owner that has a claim. `Locks.Consistent` ties the table to the tickets that are
out: a uid has an entry exactly while it has a ticket, its users are its tickets, all of them use
the mutex of the entry, and a mutex is held once. Every step keeps this (`Consistent.step`), and
`lock_table` reads it off for whatever sequence of steps led to a table. Giving the mutex back and
handing the ticket in are two steps, so all that can happen between them is covered.
-/

namespace Podkeeper.Locks

variable {κ : Type}

/-! ### Tickets and entries -/

/-- The tickets for a uid. -/
def tickets (l : Locks κ) (uid : String) : List (Claim κ) := l.claims.filter fun c => c.uid = uid

/-- The guards of a uid: the tickets that hold its mutex. -/
def guards (l : Locks κ) (uid : String) : List (Claim κ) :=
  (l.tickets uid).filter fun c => c.phase = .holding

theorem mem_tickets {l : Locks κ} {uid : String} {c : Claim κ} :
    c ∈ l.tickets uid ↔ c ∈ l.claims ∧ c.uid = uid := by
  simp [tickets]

theorem mem_guards {l : Locks κ} {uid : String} {c : Claim κ} :
    c ∈ l.guards uid ↔ c ∈ l.claims ∧ c.uid = uid ∧ c.phase = .holding := by
  simp [guards, mem_tickets, and_assoc]

/-- What a table owes to the tickets that are out. -/
structure Consistent (l : Locks κ) : Prop where
  distinct : (l.claims.map (·.owner)).Nodup
  /-- An entry is there as long as there are tickets, and counts them. -/
  counted : ∀ uid, (l.entries.get? uid).map (·.users) =
    if (l.tickets uid).length = 0 then none else some (l.tickets uid).length
  /-- All tickets for a uid use the mutex of its entry. -/
  shared : ∀ c ∈ l.claims, ∀ e, l.entries.get? c.uid = some e → c.mutex = e.mutex
  separate : ∀ uid uid' e e', l.entries.get? uid = some e → l.entries.get? uid' = some e' →
    e.mutex = e'.mutex → uid = uid'
  used : ∀ uid e, l.entries.get? uid = some e → e.mutex < l.fresh
  /-- A mutex is held once. -/
  exclusive : ∀ c ∈ l.claims, ∀ d ∈ l.claims, c.phase = .holding → d.phase = .holding →
    c.mutex = d.mutex → c.owner = d.owner

namespace Consistent

variable {l : Locks κ}

/-- A ticket keeps its entry in the table. -/
theorem entry_of_mem (h : Consistent l) {c : Claim κ} (member : c ∈ l.claims) :
    ∃ e, l.entries.get? c.uid = some e ∧ e.mutex = c.mutex ∧
      e.users = (l.tickets c.uid).length := by
  have some_ticket : (l.tickets c.uid).length ≠ 0 := by
    intro none_left
    have empty := List.eq_nil_of_length_eq_zero none_left
    exact List.filter_eq_nil_iff.1 empty c member (by simp)
  have counted := h.counted c.uid
  rw [if_neg some_ticket] at counted
  obtain ⟨e, found, users⟩ := Option.map_eq_some_iff.1 counted
  exact ⟨e, found, (h.shared c member e found).symm, users⟩

/-- An entry has a ticket for each user, and at least one. -/
theorem users_of_get? (h : Consistent l) {uid : String} {e : LockEntry}
    (found : l.entries.get? uid = some e) :
    e.users = (l.tickets uid).length ∧ 0 < e.users := by
  have counted := h.counted uid
  rw [found, Option.map_some] at counted
  split at counted
  · simp at counted
  · rename_i some_ticket
    have users := Option.some.inj counted
    exact ⟨users, users ▸ Nat.pos_of_ne_zero some_ticket⟩

/-- No ticket for a uid without an entry. -/
theorem no_ticket (h : Consistent l) {uid : String} (absent : l.entries.get? uid = none) :
    l.tickets uid = [] := by
  have counted := h.counted uid
  rw [absent, Option.map_none] at counted
  split at counted
  · exact List.eq_nil_of_length_eq_zero ‹_›
  · simp at counted

/-- Tickets use one mutex exactly if they are for one uid. -/
theorem mutex_eq_iff (h : Consistent l) {c d : Claim κ} (memC : c ∈ l.claims)
    (memD : d ∈ l.claims) : c.mutex = d.mutex ↔ c.uid = d.uid := by
  obtain ⟨e, entry, mutex, -⟩ := h.entry_of_mem memC
  constructor
  · intro same
    obtain ⟨e', entry', mutex', -⟩ := h.entry_of_mem memD
    exact h.separate _ _ e e' entry entry' (mutex.trans (same.trans mutex'.symm))
  · intro same
    rw [← mutex, h.shared d memD e (same ▸ entry)]

/-- Two guards of one uid are one. -/
theorem guard_unique (h : Consistent l) {c d : Claim κ} (memC : c ∈ l.claims) (memD : d ∈ l.claims)
    (uid : c.uid = d.uid) (holdC : c.phase = .holding) (holdD : d.phase = .holding) : c = d := by
  have same : c.mutex = d.mutex := (h.mutex_eq_iff memC memD).2 uid
  exact List.inj_on_of_nodup_map h.distinct memC memD (h.exclusive c memC d memD holdC holdD same)

/-- At most one ticket for a uid is a guard. -/
theorem guards_le_one (h : Consistent l) (uid : String) : (l.guards uid).length ≤ 1 := by
  have apart : (l.guards uid).Nodup :=
    (h.distinct.of_map _).sublist (List.filter_sublist.trans List.filter_sublist)
  rcases eq : l.guards uid with _ | ⟨c, _ | ⟨d, rest⟩⟩
  · simp
  · simp
  · rw [eq] at apart
    obtain ⟨memC, rfl, holdC⟩ := mem_guards.1 (eq ▸ List.mem_cons_self : c ∈ l.guards uid)
    obtain ⟨memD, uidD, holdD⟩ :=
      mem_guards.1 (eq ▸ List.mem_cons_of_mem _ List.mem_cons_self : d ∈ l.guards c.uid)
    have equal : c = d := h.guard_unique memC memD uidD.symm holdC holdD
    simp [equal] at apart

/-- The size of a table is the number of uids with a ticket. -/
theorem size_eq (h : Consistent l) : l.size = (l.claims.map (·.uid)).dedup.length := by
  have keys : l.entries.keys.Perm (l.claims.map (·.uid)).dedup := by
    refine (List.perm_ext_iff_of_nodup l.entries.nodup_keys (List.nodup_dedup _)).2 fun uid => ?_
    rw [KeyMap.mem_keys_iff, List.mem_dedup, List.mem_map]
    constructor
    · intro entry
      obtain ⟨e, found⟩ := Option.isSome_iff_exists.1 entry
      obtain ⟨users, positive⟩ := h.users_of_get? found
      obtain ⟨c, member⟩ := List.exists_mem_of_length_pos (users ▸ positive)
      exact ⟨c, mem_tickets.1 member⟩
    · rintro ⟨c, member, rfl⟩
      obtain ⟨e, found, -⟩ := h.entry_of_mem member
      exact Option.isSome_iff_exists.2 ⟨e, found⟩
  rw [← keys.length_eq, KeyMap.keys, List.length_map, size, KeyMap.size]

theorem empty : Consistent (∅ : Locks κ) where
  distinct := List.nodup_nil
  counted _ := rfl
  shared _ member := absurd member List.not_mem_nil
  separate _ _ _ _ found := by cases found
  used _ _ found := by cases found
  exclusive _ member := absurd member List.not_mem_nil

end Consistent

variable [DecidableEq κ]

/-! ### Steps -/

/-- An atomic step of a table, by the owner of a ticket. -/
inductive Step (κ : Type) where
  | enter (owner : κ) (uid : String)
  | grant (owner : κ)
  | abandon (owner : κ)
  | unlock (owner : κ)
  | leave (owner : κ)
deriving DecidableEq, Repr

/-- The table after a step. A ticket that is out is not issued again. -/
def step (l : Locks κ) : Step κ → Locks κ
  | .enter owner uid => if (l.claim? owner).isSome then l else l.enter owner uid
  | .grant owner => l.grant owner
  | .abandon owner => l.abandon owner
  | .unlock owner => l.unlock owner
  | .leave owner => l.leave owner

/-- The table after steps that begin with an empty one. -/
def run (steps : List (Step κ)) : Locks κ := steps.foldl step ∅

/-! ### Every step keeps a table consistent -/

omit [DecidableEq κ] in
/-- A new ticket is a waiting one. -/
theorem exists_claims_enter (l : Locks κ) (owner : κ) (uid : String) :
    ∃ mutex, (l.enter owner uid).claims = l.claims ++ [⟨owner, uid, mutex, .waiting⟩] := by
  rw [enter]
  split <;> exact ⟨_, rfl⟩

theorem claim?_eq_none {l : Locks κ} {owner : κ} :
    l.claim? owner = none ↔ ∀ c ∈ l.claims, c.owner ≠ owner := by
  simp [claim?]

theorem claim?_mem {l : Locks κ} {owner : κ} {c : Claim κ} (found : l.claim? owner = some c) :
    c ∈ l.claims ∧ c.owner = owner :=
  ⟨List.mem_of_find?_eq_some found, by simpa using List.find?_some found⟩

/-- Owners have one ticket, which is the one that is looked up. -/
theorem Consistent.claim?_eq {l : Locks κ} (h : Consistent l) {c : Claim κ}
    (member : c ∈ l.claims) : l.claim? c.owner = some c := by
  cases found : l.claim? c.owner with
  | none => exact absurd rfl (claim?_eq_none.1 found c member)
  | some d =>
      obtain ⟨mem, own⟩ := claim?_mem found
      rw [List.inj_on_of_nodup_map h.distinct mem member own]

/-- The tickets of a table, one owner each, are those of an owner and the rest. -/
theorem perm_without {claims : List (Claim κ)} (distinct : (claims.map (·.owner)).Nodup)
    {c : Claim κ} (member : c ∈ claims) :
    claims.Perm (c :: claims.filter fun d => d.owner ≠ c.owner) := by
  induction claims with
  | nil => simp at member
  | cons d rest ih =>
      obtain ⟨other, distinct⟩ := List.nodup_cons.1 distinct
      rcases List.mem_cons.1 member with rfl | member
      · have kept : rest.filter (fun d => d.owner ≠ c.owner) = rest := by
          refine List.filter_eq_self.2 fun d mem => ?_
          have differs : d.owner ≠ c.owner := fun same =>
            other (List.mem_map.2 ⟨d, mem, same⟩)
          simpa using differs
        rw [List.filter_cons_of_neg (by simp), kept]
      · have differs : d.owner ≠ c.owner := fun same =>
          other (List.mem_map.2 ⟨c, member, same.symm⟩)
        rw [List.filter_cons_of_pos (by simpa using differs)]
        exact ((ih distinct member).cons d).trans (.swap c d _)

namespace Consistent

variable {l : Locks κ}

/-- A change of phase touches neither entries nor tickets. -/
theorem tickets_move (owner : κ) (before after : ClaimPhase) (uid : String) :
    ((l.move owner before after).tickets uid).length = (l.tickets uid).length := by
  simp only [tickets, move, List.filter_map, List.length_map]
  congr 2
  funext c
  simp only [Function.comp]
  split <;> rfl

theorem mem_move {owner : κ} {before after : ClaimPhase} {d : Claim κ}
    (member : d ∈ (l.move owner before after).claims) :
    ∃ c ∈ l.claims, d.owner = c.owner ∧ d.uid = c.uid ∧ d.mutex = c.mutex ∧
      (d = c ∨ c.owner = owner ∧ c.phase = before ∧ d.phase = after) := by
  obtain ⟨c, mem, rfl⟩ := List.mem_map.1 member
  refine ⟨c, mem, ?_⟩
  split
  · rename_i moved
    exact ⟨rfl, rfl, rfl, .inr ⟨moved.1, moved.2, rfl⟩⟩
  · exact ⟨rfl, rfl, rfl, .inl rfl⟩

theorem map_owner_move (owner : κ) (before after : ClaimPhase) :
    (l.move owner before after).claims.map (·.owner) = l.claims.map (·.owner) := by
  simp only [move, List.map_map]
  congr 1
  funext c
  simp only [Function.comp]
  split <;> rfl

/-- A change of phase keeps a table consistent if it hands out no mutex that is held. -/
theorem move (h : Consistent l) {owner : κ} {before after : ClaimPhase}
    (free : after = .holding → ∀ c ∈ l.claims, c.owner = owner → c.phase = before →
      ∀ d ∈ l.claims, d.phase = .holding → d.mutex ≠ c.mutex) :
    Consistent (l.move owner before after) where
  distinct := by rw [map_owner_move]; exact h.distinct
  counted uid := by rw [tickets_move]; exact h.counted uid
  shared d member e found := by
    obtain ⟨c, mem, -, uid, mutex, -⟩ := mem_move member
    exact mutex ▸ h.shared c mem e (uid ▸ found)
  separate := h.separate
  used := h.used
  exclusive d member d' member' holding holding' same := by
    obtain ⟨c, mem, owner_eq, -, mutex, moved⟩ := mem_move member
    obtain ⟨c', mem', owner_eq', -, mutex', moved'⟩ := mem_move member'
    rw [owner_eq, owner_eq']
    rcases moved with rfl | ⟨own, phase, new⟩ <;> rcases moved' with rfl | ⟨own', phase', new'⟩
    · exact h.exclusive d mem d' mem' holding holding' same
    · exact absurd (same.trans mutex') (free (new' ▸ holding') c' mem' own' phase' d mem holding)
    · exact absurd (same.symm.trans mutex) (free (new ▸ holding) c mem own phase d' mem' holding')
    · rw [own, own']

theorem grant (h : Consistent l) (owner : κ) : Consistent (l.grant owner) := by
  unfold Locks.grant
  split
  · rename_i c found
    split
    · rename_i isFree
      refine h.move fun _ c' member own _ d mem holding same => ?_
      have looked_up : c' = c := Option.some.inj ((own ▸ h.claim?_eq member).symm.trans found)
      have busy := List.all_eq_true.1 isFree d mem
      simp [holding, same, looked_up] at busy
    · exact h
  · exact h

theorem abandon (h : Consistent l) (owner : κ) : Consistent (l.abandon owner) :=
  h.move nofun

theorem unlock (h : Consistent l) (owner : κ) : Consistent (l.unlock owner) :=
  h.move nofun

/-- A ticket more: it waits, and its mutex is that of the entry, which counts it. -/
theorem issue (h : Consistent l) {owner : κ} {uid : String} {e : LockEntry} {fresh : Nat}
    (new : l.claim? owner = none) (users : e.users = (l.tickets uid).length + 1)
    (mutex : ∀ e', l.entries.get? uid = some e' → e.mutex = e'.mutex)
    (apart : ∀ uid' e', l.entries.get? uid' = some e' → e.mutex = e'.mutex → uid' = uid)
    (below : e.mutex < fresh) (grown : l.fresh ≤ fresh) :
    Consistent ⟨l.entries.insert uid e, l.claims ++ [⟨owner, uid, e.mutex, .waiting⟩], fresh⟩ where
  distinct := by
    rw [List.map_append, List.nodup_append]
    refine ⟨h.distinct, List.nodup_singleton _, fun a member b single same => ?_⟩
    obtain ⟨c, mem, rfl⟩ := List.mem_map.1 member
    exact claim?_eq_none.1 new c mem (same.trans (List.mem_singleton.1 single))
  counted uid' := by
    rw [KeyMap.get?_insert]
    by_cases same : uid' = uid
    · subst same
      simp [tickets, users]
    · have others := h.counted uid'
      simpa [tickets, same, Ne.symm same] using others
  shared c member e' found := by
    rw [KeyMap.get?_insert] at found
    rcases List.mem_append.1 member with old | single
    · split at found
      · rename_i same
        obtain ⟨e₀, found₀, mutex₀, -⟩ := h.entry_of_mem old
        rw [← Option.some.inj found, mutex e₀ (same ▸ found₀), mutex₀]
      · exact h.shared c old e' found
    · rw [List.mem_singleton.1 single] at found ⊢
      simp only [if_true] at found
      rw [Option.some.inj found]
  separate uid₁ uid₂ e₁ e₂ found₁ found₂ same := by
    rw [KeyMap.get?_insert] at found₁ found₂
    split at found₁ <;> split at found₂
    · simp_all
    · rename_i left right
      rw [left, apart uid₂ e₂ found₂ (Option.some.inj found₁ ▸ same)]
    · rename_i left right
      rw [right, apart uid₁ e₁ found₁ (Option.some.inj found₂ ▸ same.symm)]
    · exact h.separate uid₁ uid₂ e₁ e₂ found₁ found₂ same
  used uid' e' found := by
    rw [KeyMap.get?_insert] at found
    split at found
    · exact Option.some.inj found ▸ below
    · exact Nat.lt_of_lt_of_le (h.used uid' e' found) grown
  exclusive c member d member' holding holding' same := by
    have held {c : Claim κ} (holding : c.phase = .holding)
        (member : c ∈ l.claims ++ [⟨owner, uid, e.mutex, .waiting⟩]) : c ∈ l.claims := by
      rcases List.mem_append.1 member with old | single
      · exact old
      · rw [List.mem_singleton.1 single] at holding
        cases holding
    exact h.exclusive c (held holding member) d (held holding' member') holding holding' same

theorem enter (h : Consistent l) {owner : κ} {uid : String} (new : l.claim? owner = none) :
    Consistent (l.enter owner uid) := by
  unfold Locks.enter
  split
  · rename_i e found
    refine h.issue (e := { e with users := e.users + 1 }) new ?_ ?_ ?_ (h.used uid e found)
      (Nat.le_refl _)
    · simp [(h.users_of_get? found).1]
    · exact fun e' found' => congrArg (·.mutex) (Option.some.inj (found.symm.trans found'))
    · exact fun uid' e' found' same => (h.separate uid uid' e e' found found' same).symm
  · rename_i absent
    refine h.issue (e := ⟨l.fresh, 1⟩) new ?_ ?_ ?_ (Nat.lt_succ_self _) (Nat.le_succ _)
    · simp [h.no_ticket absent]
    · exact fun e' found => by simp [absent] at found
    · exact fun uid' e' found same => absurd (h.used uid' e' found) (by simp [← same])

/-- The last user takes the entry with it, any other counts it down. -/
theorem get?_releaseUser {entries : KeyMap LockEntry} {uid : String} {e : LockEntry}
    (entry : entries.get? uid = some e) (uid' : String) :
    (releaseUser entries uid).get? uid' =
      if uid' = uid then
        if e.users - 1 = 0 then none else some { e with users := e.users - 1 }
      else entries.get? uid' := by
  simp only [releaseUser, entry]
  split
  · rw [KeyMap.get?_erase]
  · rw [KeyMap.get?_insert]

/-- A ticket that is handed in is one ticket less for its uid, and for no other. -/
theorem tickets_without (h : Consistent l) {c : Claim κ} (member : c ∈ l.claims)
    (entries : KeyMap LockEntry) (uid : String) :
    (l.tickets uid).length = (if uid = c.uid then 1 else 0) +
      (Locks.tickets ⟨entries, l.claims.filter fun d => d.owner ≠ c.owner, l.fresh⟩
        uid).length := by
  rw [tickets, ((perm_without h.distinct member).filter _).length_eq, List.filter_cons]
  by_cases same : uid = c.uid
  · simp [tickets, same, Nat.add_comm]
  · simp [tickets, same, Ne.symm same]

theorem leave (h : Consistent l) (owner : κ) : Consistent (l.leave owner) := by
  unfold Locks.leave
  split
  case h_2 => exact h
  rename_i c found
  obtain ⟨member, rfl⟩ := claim?_mem found
  split
  case isFalse => exact h
  obtain ⟨e, entry, mutex, users⟩ := h.entry_of_mem member
  -- An entry that stays has the mutex that it had.
  have kept : ∀ uid e', (releaseUser l.entries c.uid).get? uid = some e' →
      ∃ e₀, l.entries.get? uid = some e₀ ∧ e'.mutex = e₀.mutex := by
    intro uid e' found
    rw [get?_releaseUser entry] at found
    split at found
    · rename_i same
      split at found
      · cases found
      · exact ⟨e, same ▸ entry, congrArg (·.mutex) (Option.some.inj found).symm⟩
    · exact ⟨e', found, rfl⟩
  refine ⟨h.distinct.sublist (List.filter_sublist.map _), fun uid => ?_, ?_, ?_, ?_, ?_⟩
  · have left := h.tickets_without member (releaseUser l.entries c.uid) uid
    rw [get?_releaseUser entry]
    split
    · rename_i same
      subst same
      rw [← users, if_pos rfl] at left
      rw [left, Nat.add_sub_cancel_left]
      split <;> rfl
    · rename_i other
      rw [if_neg other, Nat.zero_add] at left
      rw [← left]
      exact h.counted uid
  · intro d mem e' found
    obtain ⟨e₀, found₀, same⟩ := kept d.uid e' found
    exact same ▸ h.shared d (List.mem_of_mem_filter mem) e₀ found₀
  · intro uid uid' e₁ e₂ found₁ found₂ same
    obtain ⟨e₃, found₃, same₃⟩ := kept uid e₁ found₁
    obtain ⟨e₄, found₄, same₄⟩ := kept uid' e₂ found₂
    exact h.separate uid uid' e₃ e₄ found₃ found₄ (same₃ ▸ same₄ ▸ same)
  · intro uid e' found
    obtain ⟨e₀, found₀, same⟩ := kept uid e' found
    exact same ▸ h.used uid e₀ found₀
  · intro d mem d' mem'
    exact h.exclusive d (List.mem_of_mem_filter mem) d' (List.mem_of_mem_filter mem')

/-- Every atomic step keeps a table consistent. -/
theorem step (h : Consistent l) (t : Step κ) : Consistent (l.step t) := by
  cases t with
  | enter owner uid =>
      show Consistent (if (l.claim? owner).isSome then l else l.enter owner uid)
      split
      · exact h
      · rename_i new
        exact h.enter (Option.not_isSome_iff_eq_none.1 new)
  | grant owner => exact h.grant owner
  | abandon owner => exact h.abandon owner
  | unlock owner => exact h.unlock owner
  | leave owner => exact h.leave owner

end Consistent

/-- Every sequence of atomic steps leads to a consistent table. -/
theorem consistent_run (steps : List (Step κ)) : Consistent (run steps) := by
  induction steps using List.reverseRecOn with
  | nil => exact .empty
  | append_singleton steps t ih =>
      rw [run, List.foldl_concat]
      exact ih.step t

/-- Whatever sequence of atomic steps led to a table: a uid has an entry exactly while there is a
ticket for it; the entry counts these tickets, so that counting one down never stops at zero; all
of them use the mutex of the entry, and at most one holds it; the size of the table is the number
of uids with a ticket, and no ticket leaves an empty table. -/
theorem lock_table (steps : List (Step κ)) (uid : String) :
    let l := run steps
    ((l.entries.get? uid).isSome ↔ ∃ c ∈ l.claims, c.uid = uid) ∧
      (∀ e, l.entries.get? uid = some e → e.users = (l.tickets uid).length ∧ 0 < e.users) ∧
      (∀ c ∈ l.claims, c.uid = uid → (l.entries.get? uid).map (·.mutex) = some c.mutex) ∧
      (l.guards uid).length ≤ 1 ∧
      l.size = (l.claims.map (·.uid)).dedup.length ∧
      (l.size = 0 ↔ l.claims = []) := by
  intro l
  have h : Consistent l := consistent_run steps
  refine ⟨⟨fun entry => ?_, ?_⟩, fun e found => h.users_of_get? found, ?_, h.guards_le_one uid,
    h.size_eq, ?_⟩
  · obtain ⟨e, found⟩ := Option.isSome_iff_exists.1 entry
    obtain ⟨users, positive⟩ := h.users_of_get? found
    obtain ⟨c, member⟩ := List.exists_mem_of_length_pos (users ▸ positive)
    exact ⟨c, mem_tickets.1 member⟩
  · rintro ⟨c, member, rfl⟩
    obtain ⟨e, found, -⟩ := h.entry_of_mem member
    exact Option.isSome_iff_exists.2 ⟨e, found⟩
  · rintro c member rfl
    obtain ⟨e, found, mutex, -⟩ := h.entry_of_mem member
    rw [found, Option.map_some, mutex]
  · rw [h.size_eq, List.length_eq_zero_iff, List.dedup_eq_nil, List.map_eq_nil_iff]

end Podkeeper.Locks
