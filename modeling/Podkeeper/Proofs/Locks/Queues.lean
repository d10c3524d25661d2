import Podkeeper.Proofs.Locks.Table

/-!
The locks as queues.

Locks are started and dropped in any order, and after each of these events everyone who waits asks
for the mutex in turn. Then each uid has a queue of its own: whoever began first of those who are
still there holds the lock, and all others wait (`first_come_first_served`). No table is needed to
say who is in the queue, `line` reads it off the events, and events for other uids have no part in
it.

What carries the proof is that a table is `Settled` after each event: behind another ticket for its
uid a ticket waits, and where one waits another one holds. An event alone leaves less, `Fair`
tables, in which nobody holds who is not the first; `settle` goes through the tickets in their order
and gives the rest (`Fair.settle`).
-/

namespace Podkeeper.Locks

variable {κ : Type}

/-! ### Who holds and who waits -/

/-- The owners that hold the lock of a uid. -/
def holders (l : Locks κ) (uid : String) : List κ := (l.guards uid).map (·.owner)

/-- The owners that wait for the lock of a uid, in the order of their tickets. -/
def waiters (l : Locks κ) (uid : String) : List κ :=
  ((l.tickets uid).filter fun c => c.phase = .waiting).map (·.owner)

/-- The owners of the tickets for a uid, in their order. -/
def queue (l : Locks κ) (uid : String) : List κ := (l.tickets uid).map (·.owner)

/-- Somebody holds the lock of a uid. -/
def IsHeld (l : Locks κ) (uid : String) : Prop := ∃ c ∈ l.claims, c.uid = uid ∧ c.phase = .holding

/-- No ticket is about to be handed in, and nobody holds a lock who is behind another. -/
structure Fair (l : Locks κ) : Prop where
  consistent : Consistent l
  staying : ∀ c ∈ l.claims, c.phase ≠ .leaving
  behind : l.claims.Pairwise fun c d => c.uid = d.uid → d.phase = .waiting

/-- Nobody waits for a lock that is free, either. -/
structure Settled (l : Locks κ) : Prop extends Fair l where
  busy : ∀ c ∈ l.claims, l.IsHeld c.uid

/-- The first of a queue holds, and all others wait. -/
theorem Settled.served {l : Locks κ} (h : Settled l) (uid : String) :
    l.holders uid = (l.queue uid).take 1 ∧ l.waiters uid = (l.queue uid).drop 1 := by
  have behind : (l.tickets uid).Pairwise fun c d => c.uid = d.uid → d.phase = .waiting :=
    h.behind.sublist List.filter_sublist
  rw [holders, guards, waiters, queue, ← List.map_take, ← List.map_drop]
  cases tickets : l.tickets uid with
  | nil => exact ⟨rfl, rfl⟩
  | cons first others =>
      have mem (c : Claim κ) : c ∈ first :: others ↔ c ∈ l.claims ∧ c.uid = uid := by
        rw [← tickets, mem_tickets]
      obtain ⟨member, own⟩ := (mem first).1 List.mem_cons_self
      rw [tickets, List.pairwise_cons] at behind
      have waiting : ∀ c ∈ others, c.phase = .waiting := fun c among =>
        behind.1 c among (own.trans ((mem c).1 (List.mem_cons_of_mem _ among)).2.symm)
      have holding : first.phase = .holding := by
        obtain ⟨c, held, same, holding⟩ := h.busy first member
        rcases List.mem_cons.1 ((mem c).2 ⟨held, same.trans own⟩) with rfl | among
        · exact holding
        · rw [waiting c among] at holding
          cases holding
      have none_held : others.filter (fun c => decide (c.phase = .holding)) = [] :=
        List.filter_eq_nil_iff.2 fun c among => by simp [waiting c among]
      have all_wait : others.filter (fun c => decide (c.phase = .waiting)) = others :=
        List.filter_eq_self.2 fun c among => by simp [waiting c among]
      simp [holding, none_held, all_wait]

theorem settled_empty : Settled (∅ : Locks κ) where
  consistent := .empty
  staying _ member := absurd member List.not_mem_nil
  behind := .nil
  busy _ member := absurd member List.not_mem_nil

/-- A mutex that nobody holds is that of a uid that nobody holds. -/
theorem isFree_iff {l : Locks κ} (h : Consistent l) {c : Claim κ} (member : c ∈ l.claims) :
    l.isFree c.mutex = true ↔ ¬l.IsHeld c.uid := by
  rw [isFree, List.all_eq_true]
  constructor
  · rintro free ⟨d, among, same, holding⟩
    have unheld := free d among
    simp [(h.mutex_eq_iff among member).2 same, holding] at unheld
  · intro unheld d among
    by_contra held
    have both : d.mutex = c.mutex ∧ d.phase = .holding := by simpa using held
    exact unheld ⟨d, among, (h.mutex_eq_iff among member).1 both.1, both.2⟩

variable [DecidableEq κ]

/-! ### Granting in order -/

theorem queue_move (l : Locks κ) (owner : κ) (before after : ClaimPhase) (uid : String) :
    (l.move owner before after).queue uid = l.queue uid := by
  simp only [queue, tickets, move]
  induction l.claims with
  | nil => rfl
  | cons c claims ih =>
      have seat :
          (if c.owner = owner ∧ c.phase = before then { c with phase := after } else c).uid =
            c.uid ∧
          (if c.owner = owner ∧ c.phase = before then { c with phase := after } else c).owner =
            c.owner := by
        split <;> exact ⟨rfl, rfl⟩
      rw [List.map_cons, List.filter_cons, List.filter_cons, seat.1]
      split
      · rw [List.map_cons, List.map_cons, seat.2, ih]
      · exact ih

theorem queue_grant (l : Locks κ) (owner : κ) (uid : String) :
    (l.grant owner).queue uid = l.queue uid := by
  unfold grant
  split
  · split
    · exact queue_move l owner _ _ uid
    · rfl
  · rfl

theorem queue_settle (l : Locks κ) (uid : String) : l.settle.queue uid = l.queue uid := by
  have grants (owners : List κ) (l : Locks κ) : (owners.foldl grant l).queue uid = l.queue uid := by
    induction owners generalizing l with
    | nil => rfl
    | cons owner owners ih => rw [List.foldl_cons, ih, queue_grant]
  exact grants _ l

/-- Other tickets stay as they are where one owner's ticket moves. -/
theorem move_eq_of_split {l : Locks κ} (h : Consistent l) {before after : List (Claim κ)}
    {c : Claim κ} (split : l.claims = before ++ c :: after) (waiting : c.phase = .waiting) :
    (l.move c.owner .waiting .holding).claims =
      before ++ { c with phase := .holding } :: after := by
  have distinct := h.distinct
  rw [split, List.map_append, List.map_cons, List.nodup_append, List.nodup_cons] at distinct
  obtain ⟨-, ⟨notLater, -⟩, apart⟩ := distinct
  have others (claims : List (Claim κ)) (foreign : ∀ d ∈ claims, d.owner ≠ c.owner) :
      claims.map (fun d => if d.owner = c.owner ∧ d.phase = .waiting then
        { d with phase := .holding } else d) = claims := by
    conv_rhs => rw [← List.map_id claims]
    exact List.map_congr_left fun d among => if_neg fun own => foreign d among own.1
  rw [move]
  simp only [split, List.map_append, List.map_cons, waiting, and_self, if_true]
  rw [others before, others after]
  · exact fun d among own => notLater (own ▸ List.mem_map_of_mem among)
  · exact fun d among => apart d.owner (List.mem_map_of_mem among) c.owner List.mem_cons_self

/-- Asking for the mutex when all before have had it: then the uid is held, the order is kept, and
nothing else changes. -/
theorem Fair.grant_next {l : Locks κ} (h : Fair l) {before after : List (Claim κ)} {c : Claim κ}
    (split : l.claims = before ++ c :: after) (waiting : c.phase = .waiting)
    (ready : ∀ d ∈ before, l.IsHeld d.uid) :
    ∃ c', (l.grant c.owner).claims = before ++ c' :: after ∧ c'.uid = c.uid ∧
      Fair (l.grant c.owner) ∧ (l.grant c.owner).IsHeld c.uid := by
  have member : c ∈ l.claims := by simp [split]
  have consistent := h.consistent.grant c.owner
  by_cases held : l.IsHeld c.uid
  · have same : l.grant c.owner = l := by
      rw [grant, h.consistent.claim?_eq member]
      exact if_neg fun free => (isFree_iff h.consistent member).1 free held
    rw [same]
    exact ⟨c, split, rfl, h, held⟩
  · have granted : l.grant c.owner = l.move c.owner .waiting .holding := by
      rw [grant, h.consistent.claim?_eq member]
      exact if_pos ((isFree_iff h.consistent member).2 held)
    have claims := move_eq_of_split h.consistent split waiting
    rw [granted] at consistent ⊢
    refine ⟨{ c with phase := .holding }, claims, rfl, ⟨consistent, ?_, ?_⟩, ?_⟩
    · intro d among
      rw [claims, List.mem_append, List.mem_cons] at among
      rcases among with front | rfl | rear
      · exact h.staying d (by simp [split, front])
      · simp
      · exact h.staying d (by simp [split, rear])
    · have behind := h.behind
      rw [split, List.pairwise_append, List.pairwise_cons] at behind
      obtain ⟨front, ⟨first, rear⟩, across⟩ := behind
      rw [claims, List.pairwise_append, List.pairwise_cons]
      refine ⟨front, ⟨first, rear⟩, fun d among e later => ?_⟩
      rcases List.mem_cons.1 later with rfl | later
      · -- Nobody for the uid comes before, or it would be held.
        exact fun same => absurd (same ▸ ready d among) held
      · exact across d among e (List.mem_cons_of_mem _ later)
    · exact ⟨{ c with phase := .holding }, by simp [claims], rfl, rfl⟩

/-- Granting the tickets of a list in their order, when all before have had the mutex. -/
theorem Fair.grants {l : Locks κ} (h : Fair l) {before after : List (Claim κ)}
    (split : l.claims = before ++ after) (ready : ∀ d ∈ before, l.IsHeld d.uid) :
    Settled (((after.filter fun c => c.phase = .waiting).map (·.owner)).foldl grant l) := by
  induction after generalizing l before with
  | nil =>
      rw [List.append_nil] at split
      exact ⟨h, fun c member => ready c (split ▸ member)⟩
  | cons c after ih =>
      have whole : l.claims = before ++ [c] ++ after := by simp [split]
      cases phase : c.phase with
      | waiting =>
          obtain ⟨c', claims, same, fair, held⟩ := h.grant_next split phase ready
          rw [List.filter_cons_of_pos (by simp [phase]), List.map_cons, List.foldl_cons]
          have rest : (l.grant c.owner).claims = before ++ [c'] ++ after := by simp [claims]
          refine ih fair rest fun d among => ?_
          rcases List.mem_append.1 among with front | last
          · -- Whoever held the uid still does: only a ticket that waits has changed.
            obtain ⟨e, member, own, holding⟩ := ready d front
            refine ⟨e, ?_, own, holding⟩
            rw [split, List.mem_append, List.mem_cons] at member
            rw [claims, List.mem_append, List.mem_cons]
            rcases member with member | rfl | member
            · exact .inl member
            · rw [phase] at holding
              cases holding
            · exact .inr (.inr member)
          · rw [List.mem_singleton.1 last, same]
            exact held
      | holding =>
          rw [List.filter_cons_of_neg (by simp [phase])]
          refine ih h whole fun d among => ?_
          rcases List.mem_append.1 among with front | last
          · exact ready d front
          · rw [List.mem_singleton.1 last]
            exact ⟨c, by simp [split], rfl, phase⟩
      | leaving => exact absurd phase (h.staying c (by simp [split]))

/-- Where nobody overtakes, settling gives each lock to the first who wants it. -/
theorem Fair.settle {l : Locks κ} (h : Fair l) : Settled l.settle :=
  h.grants (List.nil_append _).symm fun _ member => absurd member List.not_mem_nil

/-! ### Starting and dropping -/

theorem Fair.enter {l : Locks κ} (h : Fair l) {owner : κ} (new : l.claim? owner = none)
    (uid : String) : Fair (l.enter owner uid) := by
  obtain ⟨mutex, claims⟩ := exists_claims_enter l owner uid
  refine ⟨h.consistent.enter new, fun c member => ?_, ?_⟩
  · rw [claims, List.mem_append, List.mem_singleton] at member
    rcases member with old | rfl
    · exact h.staying c old
    · simp
  · rw [claims, List.pairwise_append]
    refine ⟨h.behind, List.pairwise_singleton _ _, fun _ _ d last _ => ?_⟩
    rw [List.mem_singleton.1 last]

/-- Both ways to give a lock up mark the ticket, and then it is handed in. -/
theorem claims_handed_in {l : Locks κ} (h : Fair l) (owner : κ) :
    (((l.unlock owner).abandon owner).leave owner).claims =
      l.claims.filter fun c => c.owner ≠ owner := by
  have marked : ((l.unlock owner).abandon owner).claims =
      l.claims.map fun c => if c.owner = owner then { c with phase := .leaving } else c := by
    rw [abandon, unlock, move, move, List.map_map]
    refine List.map_congr_left fun c member => ?_
    by_cases own : c.owner = owner
    · cases phase : c.phase with
      | waiting => simp [own, phase]
      | holding => simp [own, phase]
      | leaving => exact absurd phase (h.staying c member)
    · simp [own]
  have left : ((l.unlock owner).abandon owner).claims.filter (fun c => c.owner ≠ owner) =
      l.claims.filter fun c => c.owner ≠ owner := by
    rw [marked]
    induction l.claims with
    | nil => rfl
    | cons c claims ih =>
        by_cases own : c.owner = owner
        · simpa [own] using ih
        · simpa [own] using ih
  unfold leave
  cases found : ((l.unlock owner).abandon owner).claim? owner with
  | none =>
      have foreign := claim?_eq_none.1 found
      rw [← left, List.filter_eq_self.2 fun c member => by simpa using foreign c member]
  | some c =>
      obtain ⟨member, own⟩ := claim?_mem found
      have leaving : c.phase = .leaving := by
        rw [marked, List.mem_map] at member
        obtain ⟨d, -, rfl⟩ := member
        split at own
        · rw [if_pos ‹_›]
        · exact absurd own ‹_›
      simpa [leaving] using left

theorem Fair.handed_in {l : Locks κ} (h : Fair l) (owner : κ) :
    Fair (((l.unlock owner).abandon owner).leave owner) := by
  have claims := claims_handed_in h owner
  refine ⟨((h.consistent.unlock owner).abandon owner).leave owner, fun c member => ?_, ?_⟩
  · rw [claims] at member
    exact h.staying c (List.mem_of_mem_filter member)
  · rw [claims]
    exact h.behind.sublist List.filter_sublist

/-- Whoever starts a lock is the last in the queue of the uid. -/
theorem queue_lock (l : Locks κ) (owner : κ) (uid uid' : String) :
    (l.lock owner uid).queue uid' = l.queue uid' ++ if uid = uid' then [owner] else [] := by
  obtain ⟨mutex, claims⟩ := exists_claims_enter l owner uid
  rw [lock, queue_settle, queue, tickets, claims, List.filter_append, List.map_append]
  by_cases same : uid = uid'
  · simp [queue, tickets, same]
  · simp [queue, tickets, same]

/-- Whoever drops a lock is in no queue any more. -/
theorem queue_drop {l : Locks κ} (h : Fair l) (owner : κ) (uid : String) :
    (l.drop owner).queue uid = (l.queue uid).filter (· ≠ owner) := by
  rw [drop, queue_settle, queue, tickets, claims_handed_in h owner, queue, tickets, List.filter_map,
    List.filter_filter, List.filter_filter]
  congr 2
  funext c
  exact Bool.and_comm _ _

/-! ### Histories -/

/-- What is done to the locks from outside. A lock that is dropped is given back, or no longer
waited for. -/
inductive Event (κ : Type) where
  | start (owner : κ) (uid : String)
  | drop (owner : κ)
deriving DecidableEq, Repr

namespace Event

def started? : Event κ → Option κ
  | .start owner _ => some owner
  | .drop _ => none

/-- The event is for a lock on a uid, which some of the given events started. -/
def isOn (events : List (Event κ)) (uid : String) : Event κ → Bool
  | .start _ uid' => uid' = uid
  | .drop owner => .start owner uid ∈ events

end Event

/-- Events in their order. Each lock that is started is one of its own, so its owner starts no
other. -/
structure History (κ : Type) where
  events : List (Event κ)
  apart : (events.filterMap Event.started?).Nodup

/-- The events for one uid alone. -/
def History.on (h : History κ) (uid : String) : History κ where
  events := h.events.filter (Event.isOn h.events uid)
  apart := h.apart.sublist (List.filter_sublist.filterMap _)

/-- After an event everyone who waits asks for the mutex in turn. -/
def handle (l : Locks κ) : Event κ → Locks κ
  | .start owner uid => l.lock owner uid
  | .drop owner => l.drop owner

/-- The table after events. -/
def serve (events : List (Event κ)) : Locks κ := events.foldl handle ∅

/-- Whoever started a lock on a uid and has not dropped it since, in the order in which they did. -/
def line (uid : String) : List (Event κ) → List κ
  | [] => []
  | .start owner uid' :: later =>
    if uid' = uid ∧ .drop owner ∉ later then owner :: line uid later else line uid later
  | .drop _ :: later => line uid later

section Lines

variable {uid : String} {events : List (Event κ)}

theorem mem_line {owner : κ} (member : owner ∈ line uid events) : .start owner uid ∈ events := by
  induction events with
  | nil => cases member
  | cons e later ih =>
      cases e with
      | drop other => exact List.mem_cons_of_mem _ (ih member)
      | start other uid' =>
          rw [line] at member
          split at member
          · rename_i first
            rcases List.mem_cons.1 member with rfl | member
            · rw [first.1]
              exact List.mem_cons_self
            · exact List.mem_cons_of_mem _ (ih member)
          · exact List.mem_cons_of_mem _ (ih member)

theorem line_concat_start (owner : κ) (uid' : String) :
    line uid (events ++ [.start owner uid']) =
      line uid events ++ if uid' = uid then [owner] else [] := by
  induction events with
  | nil => simp [line]
  | cons e later ih =>
      cases e with
      | drop other => exact ih
      | start other uid'' =>
          simp only [List.cons_append, line, ih, List.mem_append, List.mem_singleton, reduceCtorEq,
            or_false]
          split <;> rfl

theorem line_concat_drop (owner : κ) :
    line uid (events ++ [.drop owner]) = (line uid events).filter (· ≠ owner) := by
  induction events with
  | nil => rfl
  | cons e later ih =>
      cases e with
      | drop other => exact ih
      | start other uid' =>
          simp only [List.cons_append, line, ih, List.mem_append, List.mem_singleton,
            Event.drop.injEq, not_or]
          by_cases own : other = owner
          · by_cases first : uid' = uid ∧ .drop other ∉ later
            · simp [own ▸ first, own]
            · rw [if_neg first, if_neg fun both => first ⟨both.1, both.2.1⟩]
          · by_cases first : uid' = uid ∧ .drop other ∉ later
            · rw [if_pos first, if_pos ⟨first.1, first.2, own⟩, List.filter_cons_of_pos (by simpa)]
            · rw [if_neg first, if_neg fun both => first ⟨both.1, both.2.1⟩]

/-- Events that are left out change no line, if none of them is for a lock in it. -/
theorem line_filter {kept : Event κ → Bool}
    (starts : ∀ owner uid', kept (.start owner uid') = decide (uid' = uid))
    (drops : ∀ owner, .start owner uid ∈ events → kept (.drop owner) = true) :
    line uid (events.filter kept) = line uid events := by
  induction events with
  | nil => rfl
  | cons e later ih =>
      have ih := ih fun owner member => drops owner (List.mem_cons_of_mem _ member)
      cases e with
      | drop other =>
          rw [List.filter_cons]
          split
          · exact ih
          · exact ih
      | start other uid' =>
          by_cases same : uid' = uid
          · have dropped : .drop other ∈ later.filter kept ↔ .drop other ∈ later := by
              have keeps := drops other (same ▸ List.mem_cons_self)
              simp [List.mem_filter, keeps]
            rw [List.filter_cons_of_pos (by simp [starts, same])]
            simp only [line, dropped, ih]
          · rw [List.filter_cons_of_neg (by simp [starts, same])]
            rw [line, if_neg fun both => same both.1]
            exact ih

end Lines

/-- After any events the queues of the table are the lines of the events, and the table is
settled. -/
theorem settled_serve {events : List (Event κ)} (apart : (events.filterMap Event.started?).Nodup) :
    Settled (serve events) ∧ ∀ uid, (serve events).queue uid = line uid events := by
  induction events using List.reverseRecOn with
  | nil => exact ⟨settled_empty, fun _ => rfl⟩
  | append_singleton events e ih =>
      rw [List.filterMap_append, List.nodup_append] at apart
      obtain ⟨settled, queues⟩ := ih apart.1
      rw [serve, List.foldl_concat]
      cases e with
      | start owner uid =>
          have new : (serve events).claim? owner = none := by
            refine claim?_eq_none.2 fun c member own => ?_
            have queued : owner ∈ (serve events).queue c.uid :=
              List.mem_map.2 ⟨c, mem_tickets.2 ⟨member, rfl⟩, own⟩
            have began := mem_line (queues c.uid ▸ queued)
            exact apart.2.2 owner (List.mem_filterMap.2 ⟨_, began, rfl⟩) owner
              (List.mem_singleton_self _) rfl
          refine ⟨(settled.enter new uid).settle, fun uid' => ?_⟩
          rw [line_concat_start, ← queues]
          exact queue_lock _ owner uid uid'
      | drop owner =>
          refine ⟨(settled.handed_in owner).settle, fun uid => ?_⟩
          rw [line_concat_drop, ← queues]
          exact queue_drop settled.toFair owner uid

/-- After any history, each uid has a queue of its own: of those who started a lock on it and have
not dropped it since, the first one holds it and all others wait, in the order in which they
started. It is the same queue if there were no events for other uids. -/
theorem first_come_first_served (h : History κ) (uid : String) :
    (serve h.events).holders uid = (line uid h.events).take 1 ∧
      (serve h.events).waiters uid = (line uid h.events).drop 1 ∧
      (serve (h.on uid).events).holders uid = (serve h.events).holders uid ∧
      (serve (h.on uid).events).waiters uid = (serve h.events).waiters uid := by
  have served (h : History κ) : (serve h.events).holders uid = (line uid h.events).take 1 ∧
      (serve h.events).waiters uid = (line uid h.events).drop 1 := by
    obtain ⟨settled, queues⟩ := settled_serve h.apart
    rw [← queues uid]
    exact settled.served uid
  have alone : line uid (h.on uid).events = line uid h.events :=
    line_filter (fun _ _ => rfl) fun owner member => decide_eq_true member
  obtain ⟨holders, waiters⟩ := served h
  obtain ⟨holders', waiters'⟩ := served (h.on uid)
  rw [alone] at holders' waiters'
  exact ⟨holders, waiters, holders'.trans holders.symm, waiters'.trans waiters.symm⟩

/-- One who waits leaves from the middle, and the next one gets the lock from its holder. -/
example :
    let events : List (Event Nat) :=
      [.start 1 "a", .start 2 "b", .start 3 "a", .start 4 "a", .drop 3, .drop 1, .start 5 "a"]
    (serve events).holders "a" = [4] ∧ (serve events).waiters "a" = [5] := by decide +kernel

end Podkeeper.Locks
