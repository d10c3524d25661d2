import Podkeeper.Proofs.Interleaving.Deletes
import Podkeeper.Proofs.Lifecycle.Entries
import Podkeeper.Proofs.Lifecycle.Reading

/-!
What status and logs report.

A call on a uid that is over has noted what it started, or dropped what was noted, or left the
entry as it was (`Call.Outcome`), and which of these it did is its result. So the entry of a uid
whose calls are over is that of the last one that succeeded, and what is read of a uid is what was
created (`created_pod_reported`).
-/

namespace Podkeeper

namespace Interleaving

open Program

namespace Call

variable {site : Site} {droppable : Call → Bool} {s : System Call (Except Failure Reply)}
  {k : Nat} {uid : String} {earlier later : List Nat}

/-! ### Calls that are over -/

/-- How a call that is over left the entry of a uid that it found. -/
inductive Outcome (site : Site) (s : System Call (Except Failure Reply)) (uid : String) (k : Nat)
    (found : Option (List Tracked)) : Option (List Tracked) → Prop where
  /-- A create has noted what it started. -/
  | created (request : CreateRequest) (entry : List Tracked)
      (call : s.call? k = some (.create request)) (own : request.pod.uid = uid)
      (result : s.result? k = some (.ok .done))
      (provisioned : site.Provisioned request (s.block k) entry) :
      Outcome site s uid k found (some entry)
  /-- A delete has dropped what was noted. -/
  | deleted (call : s.call? k = some (.delete uid)) (result : s.result? k = some (.ok .done)) :
      Outcome site s uid k found none
  /-- A call that did not succeed has changed nothing. -/
  | failed (result : s.result? k ≠ some (.ok .done)) : Outcome site s uid k found found

theorem outcome_of_create (h : Orderly site droppable s) {request : CreateRequest}
    (call : s.call? k = some (.create request)) (finished : s.isOver k)
    (order : s.order request.pod.uid = earlier ++ k :: later) :
    Outcome site s request.pod.uid k
      ((Tracker.afterAll ∅ (earlier.flatMap s.block)).lookup request.pod.uid)
      (((Tracker.afterAll ∅ (earlier.flatMap s.block)).afterAll (s.block k)).lookup
        request.pod.uid) := by
  have solo := (h.toSerialized request.pod.uid).each earlier k later _ order call
  cases result : s.result? k with
  | some r =>
      obtain ⟨r', rfl, yields⟩ := yields_create.1 (solo.yields result).1
      cases r' with
      | ok =>
          obtain ⟨entry, provisioned, noted⟩ := Site.exists_entry yields
          rw [noted]
          exact .created request entry call rfl result provisioned
      | error f =>
          rw [Tracker.afterAll_of_unwritten (Site.unwritten_of_yields_error yields)]
          refine .failed ?_
          simp [result, Except.map]
  | none =>
      have dropped : s.isDropped k := by simpa [System.isOver, result] using finished
      obtain ⟨e, waited⟩ := Option.isSome_iff_exists.1 dropped
      obtain ⟨next, reaches, outside⟩ := solo.exists_waits waited
      obtain ⟨more, r, rest, whole⟩ := reaches.exists_yields
      obtain ⟨answer, more, rfl, -⟩ := yields_perform.1 rest
      obtain ⟨r', -, yields⟩ := yields_create.1 whole
      rw [Tracker.afterAll_of_unwritten (Site.unwritten_of_yields_create yields outside)]
      refine .failed ?_
      simp [result]

theorem outcome_of_delete (h : Orderly site droppable s)
    (call : s.call? k = some (.delete uid)) (finished : s.isOver k)
    (order : s.order uid = earlier ++ k :: later) :
    Outcome site s uid k ((Tracker.afterAll ∅ (earlier.flatMap s.block)).lookup uid)
      (((Tracker.afterAll ∅ (earlier.flatMap s.block)).afterAll (s.block k)).lookup uid) := by
  cases result : s.result? k with
  | some r =>
      cases r with
      | ok reply =>
          obtain ⟨r', same, deletion⟩ := deletion_of_result h call result order
          cases r' with
          | error => cases same
          | ok =>
              cases same
              rw [deletion.left_of_ok]
              exact .deleted call result
      | error f =>
          rw [lookup_of_failed h call (.inr ⟨f, result⟩) order]
          refine .failed ?_
          simp [result]
  | none =>
      have dropped : s.isDropped k := by simpa [System.isOver, result] using finished
      rw [lookup_of_failed h call (.inl dropped) order]
      refine .failed ?_
      simp [result]

/-- A call of a uid that took its lock and is over has one of three outcomes. -/
theorem outcome (h : Orderly site droppable s) (finished : s.isOver k)
    (order : s.order uid = earlier ++ k :: later) :
    Outcome site s uid k ((Tracker.afterAll ∅ (earlier.flatMap s.block)).lookup uid)
      (((Tracker.afterAll ∅ (earlier.flatMap s.block)).afterAll (s.block k)).lookup uid) := by
  obtain ⟨c, call, own⟩ := (h.turns uid).own k (by simp [order])
  cases c with
  | create request =>
      obtain rfl : request.pod.uid = uid := Option.some.inj own
      exact outcome_of_create h call finished order
  | delete uid' =>
      obtain rfl : uid' = uid := Option.some.inj own
      exact outcome_of_delete h call finished order
  | status | logs => cases own

/-! ### Calls one after the other -/

/-- Among calls in order a create of the uid succeeded, and behind it no delete did. -/
def Stays (s : System Call (Except Failure Reply)) (uid : String) (ks : List Nat) : Prop :=
  ∃ earlier k later request, ks = earlier ++ k :: later ∧
    s.call? k = some (.create request) ∧ request.pod.uid = uid ∧
    s.result? k = some (.ok .done) ∧
    ∀ j ∈ later, s.call? j = some (.delete uid) → s.result? j ≠ some (.ok .done)

/-- The last of the calls that succeeded is a create, and the entry is what it started. -/
def Source (site : Site) (s : System Call (Except Failure Reply)) (uid : String) (ks : List Nat)
    (entry : List Tracked) : Prop :=
  ∃ earlier k later request, ks = earlier ++ k :: later ∧
    s.call? k = some (.create request) ∧ request.pod.uid = uid ∧
    s.result? k = some (.ok .done) ∧
    (∀ j ∈ later, s.result? j ≠ some (.ok .done)) ∧
    site.Provisioned request (s.block k) entry

theorem Source.stays {ks : List Nat} {entry : List Tracked} (h : Source site s uid ks entry) :
    Stays s uid ks := by
  obtain ⟨earlier, k, later, request, split, call, own, result, unsuccessful, -⟩ := h
  exact ⟨earlier, k, later, request, split, call, own, result,
    fun j member _ => unsuccessful j member⟩

theorem Source.provisioned {ks : List Nat} {entry : List Tracked}
    (h : Source site s uid ks entry) :
    ∃ request k, site.Provisioned request (s.block k) entry := by
  obtain ⟨_, k, _, request, -, -, -, -, -, provisioned⟩ := h
  exact ⟨request, k, provisioned⟩

/-- One call more: it is the create, or it comes behind it. -/
theorem stays_concat {ks : List Nat} :
    Stays s uid (ks ++ [k]) ↔
      (∃ request, s.call? k = some (.create request) ∧ request.pod.uid = uid ∧
        s.result? k = some (.ok .done)) ∨
        Stays s uid ks ∧ (s.call? k = some (.delete uid) → s.result? k ≠ some (.ok .done)) := by
  constructor
  · rintro ⟨earlier, j, later, request, split, call, own, result, still⟩
    rcases List.eq_nil_or_concat later with rfl | ⟨more, last, rfl⟩
    · obtain ⟨rfl, same⟩ := List.append_inj' split rfl
      cases same
      exact .inl ⟨request, call, own, result⟩
    · rw [List.concat_eq_append] at still split
      rw [← List.cons_append, ← List.append_assoc] at split
      obtain ⟨rfl, same⟩ := List.append_inj' split rfl
      cases same
      exact .inr ⟨⟨earlier, j, more, request, rfl, call, own, result,
        fun i member => still i (List.mem_append_left _ member)⟩, still k (by simp)⟩
  · rintro (⟨request, call, own, result⟩ | ⟨⟨earlier, j, later, request, rfl, call, own, result,
      still⟩, last⟩)
    · exact ⟨ks, k, [], request, rfl, call, own, result,
        fun _ member => absurd member List.not_mem_nil⟩
    · refine ⟨earlier, j, later ++ [k], request, by simp, call, own, result, fun i member => ?_⟩
      rcases List.mem_append.1 member with old | new
      · exact still i old
      · exact List.mem_singleton.1 new ▸ last

theorem Source.concat {ks : List Nat} {entry : List Tracked} (h : Source site s uid ks entry)
    (failed : s.result? k ≠ some (.ok .done)) : Source site s uid (ks ++ [k]) entry := by
  obtain ⟨earlier, j, later, request, rfl, call, own, result, unsuccessful, provisioned⟩ := h
  refine ⟨earlier, j, later ++ [k], request, by simp, call, own, result, fun i member => ?_,
    provisioned⟩
  rcases List.mem_append.1 member with old | new
  · exact unsuccessful i old
  · exact List.mem_singleton.1 new ▸ failed

/-- After calls that are over the entry of their uid is what the last one that succeeded left. -/
theorem entry_of_over (h : Orderly site droppable s) {ks : List Nat}
    (finished : ∀ k ∈ ks, s.isOver k) (order : s.order uid = ks ++ later) :
    ((Tracker.afterAll ∅ (ks.flatMap s.block)).lookup uid = none ∧ ¬Stays s uid ks) ∨
      ∃ entry, (Tracker.afterAll ∅ (ks.flatMap s.block)).lookup uid = some entry ∧
        Source site s uid ks entry := by
  induction ks using List.reverseRecOn generalizing later with
  | nil =>
      refine .inl ⟨rfl, ?_⟩
      rintro ⟨earlier, k, later, request, split, -⟩
      simp at split
  | append_singleton ks k ih =>
      have before : s.order uid = ks ++ k :: later := by simpa using order
      have previous := ih (fun j member => finished j (List.mem_append_left _ member)) before
      have last := outcome h (finished k (by simp)) before
      rw [List.flatMap_append, List.flatMap_singleton, Tracker.afterAll_append]
      generalize (Tracker.afterAll ∅ (ks.flatMap s.block)).lookup uid = found at previous last
      generalize ((Tracker.afterAll ∅ (ks.flatMap s.block)).afterAll (s.block k)).lookup uid = left
        at last ⊢
      -- The last call decides, or leaves it to those before it.
      cases last with
      | created request entry call own result provisioned =>
          exact .inr ⟨entry, rfl, ks, k, [], request, rfl, call, own, result,
            fun _ member => absurd member List.not_mem_nil, provisioned⟩
      | deleted call result =>
          refine .inl ⟨rfl, fun stays => ?_⟩
          rcases stays_concat.1 stays with ⟨request, create, -⟩ | ⟨-, still⟩
          · cases create.symm.trans call
          · exact still call result
      | failed failed =>
          rcases previous with ⟨rfl, never⟩ | ⟨entry, rfl, source⟩
          · refine .inl ⟨rfl, fun stays => ?_⟩
            rcases stays_concat.1 stays with ⟨-, -, -, result⟩ | ⟨stays, -⟩
            · exact failed result
            · exact never stays
          · exact .inr ⟨entry, rfl, source.concat failed⟩

/-- A call on a uid that succeeded took its lock. -/
theorem mem_order_of_ok (h : Orderly site droppable s) {c : Call} (call : s.call? k = some c)
    (own : c.purpose.uid? = some uid) (result : s.result? k = some (.ok .done)) :
    k ∈ s.order uid := by
  by_contra absent
  obtain ⟨nothing, ended⟩ := (h.toSerialized uid).skipped k c call own absent
  cases c with
  | create request =>
      have yields : Yields ((service site droppable).program (.create request)) [] (.ok .done) :=
        ended _ result
      obtain ⟨r', same, yields⟩ := yields_create.1 yields
      cases r' with
      | error => cases same
      | ok =>
          obtain ⟨front, _, _, split, -⟩ := Site.exists_provisioned yields
          simp at split
  | delete => cases ended _ result
  | status | logs => cases own

end Call

/-- What is read is what was created. Whenever the calls on a uid are over, it has an entry exactly
if some create of it succeeded and no delete since, in the order in which they had its lock. The
entry has containers, no two of one name; they are those that the last successful create started,
with the handles that starting them gave. A status of such a uid asks about them in order and says
of each that it runs or has ended, unless the engine fails; and logs with options that are accepted
are those of the first container, or of the one with the name. -/
theorem created_pod_reported (site : Site) (droppable : Call → Bool) (moves : List (Move Call))
    (uid : String) :
    let s := System.run (Call.service site droppable) moves
    (∀ k c, s.call? k = some c → c.purpose.uid? = some uid → s.isOver k) →
    (∀ k c, s.call? k = some c → c.purpose.uid? = some uid → s.result? k = some (.ok .done) →
      k ∈ s.order uid) ∧
    ((s.shared.tracker.lookup uid).isSome ↔
      ∃ earlier k later request, s.order uid = earlier ++ k :: later ∧
        s.call? k = some (.create request) ∧ request.pod.uid = uid ∧
        s.result? k = some (.ok .done) ∧
        ∀ j ∈ later, s.call? j = some (.delete uid) → s.result? j ≠ some (.ok .done)) ∧
    ∀ entry, s.shared.tracker.lookup uid = some entry →
      entry ≠ [] ∧ (entry.map (·.name)).Nodup ∧
      (∃ earlier k later request, s.order uid = earlier ++ k :: later ∧
        s.call? k = some (.create request) ∧ request.pod.uid = uid ∧
        s.result? k = some (.ok .done) ∧
        (∀ j ∈ later, s.result? j ≠ some (.ok .done)) ∧
        site.Provisioned request (s.block k) entry) ∧
      (∀ (r : PodRef) (outside : List Act → (e : Effect) → e.Answer), r.uid = uid →
        let played := play (Site.status r).run s.shared.tracker outside
        ∃ asked, played.2 = ⟨.lookup r.uid, some entry⟩ :: asked ∧
          Site.Reporting r (some entry) asked played.1 ∧
          ((∃ t ∈ entry, ∃ e, (⟨.inspect t.handle, .error e⟩ : Act) ∈ asked ∧
              played.1 = .error (.runtime e)) ∨
            ∃ containers, played.1 = .ok ⟨r.name, r.uid, r.ns, containers⟩ ∧
              containers.map (·.name) = entry.map (·.name) ∧
              ∀ c ∈ containers, c.state.isSettled = true)) ∧
      ∀ (r : LogRequest) (outside : List Act → (e : Effect) → e.Answer), r.podUid = uid →
        r.options.check = .ok () →
        let played := play (Site.logs r).run s.shared.tracker outside
        ∃ asked, played.2 = ⟨.lookup r.podUid, some entry⟩ :: asked ∧
          (r.containerName = "" → ∃ t, entry.head? = some t ∧ Site.LogOf r t asked played.1) ∧
          (r.containerName ≠ "" → ∀ t ∈ entry, t.name = r.containerName →
            (∀ other ∈ entry, other.name = r.containerName → other = t) ∧
              Site.LogOf r t asked played.1) ∧
          ((∃ absence, played.1 = .error (.notFound absence)) ↔
            r.containerName ≠ "" ∧ r.containerName ∉ entry.map (·.name)) := by
  intro s finished
  have h : Call.Orderly site droppable s := .run site droppable moves
  have ended : ∀ k ∈ s.order uid, s.isOver k := fun k member => by
    obtain ⟨c, call, own⟩ := (h.turns uid).own k member
    exact finished k c call own
  have reached := Call.entry_of_over h ended (List.append_nil _).symm
  rw [← (h.toSerialized uid).entry] at reached
  refine ⟨fun k c call own result => Call.mem_order_of_ok h call own result, ?_, ?_⟩
  · rcases reached with ⟨none, never⟩ | ⟨entry, found, source⟩
    · rw [none]
      exact iff_of_false Bool.false_ne_true never
    · rw [found]
      exact iff_of_true rfl source.stays
  intro entry found
  rcases reached with ⟨none, -⟩ | ⟨entry', found', source⟩
  · cases none.symm.trans found
  cases found'.symm.trans found
  obtain ⟨_, _, provisioned⟩ := source.provisioned
  refine ⟨provisioned.ne_nil, provisioned.nodup, source, ?_, ?_⟩
  · rintro r outside rfl
    obtain ⟨asked, acts, reporting⟩ :=
      Site.reporting_of_yields (yields_play _ _ outside) (answers_play _ _ outside)
    rw [found] at acts reporting
    exact ⟨asked, acts, reporting, reporting.of_some⟩
  · rintro r outside rfl valid
    obtain ⟨asked, acts, fetching⟩ :=
      Site.fetching_of_yields valid (yields_play _ _ outside) (answers_play _ _ outside)
    rw [found] at acts fetching
    exact ⟨asked, acts, fetching.of_some provisioned.ne_nil provisioned.nodup⟩

/-- A pod with two containers that is created, deleted, and created with one of them. -/
def recreated : List (Move Call) :=
  [.call (.create ⟨.plain "uid-1" ["a", "b"], []⟩), .call (.delete "uid-1"),
    .call (.create ⟨.plain "uid-1" ["b"], []⟩)] ++
    wholeTurn 0 "uid-1" 5 Http.obliging ++ wholeTurn 1 "uid-1" 6 Http.obliging ++
    wholeTurn 2 "uid-1" 4 Http.obliging

theorem container_unknown_after_recreation :
    let s := System.run (Call.service ⟨"/data", true⟩ fun _ => false) recreated
    s.shared.tracker.lookup "uid-1" = some [⟨"b", "b-uid-1"⟩] ∧
      ∃ absence, (play (Site.logs ⟨"ns", "uid-1", "web", "a", .all⟩).run s.shared.tracker
        fun _ => Http.obliging).1 = .error (.notFound absence) := by
  intro s
  have history : (∀ k < 3, s.isOver k) ∧ s.tasks.length = 3 ∧
      s.shared.tracker.lookup "uid-1" = some [⟨"b", "b-uid-1"⟩] := by decide +kernel
  obtain ⟨ended, three, found⟩ := history
  have finished : ∀ k c, s.call? k = some c → c.purpose.uid? = some "uid-1" → s.isOver k := by
    intro k c call _
    obtain ⟨task, present, -⟩ := Option.map_eq_some_iff.1 call
    exact ended k (three ▸ (List.getElem?_eq_some_iff.1 present).1)
  have reported := (created_pod_reported _ _ recreated "uid-1" finished).2.2 _ found
  obtain ⟨asked, -, -, -, unknown⟩ := reported.2.2.2.2 ⟨"ns", "uid-1", "web", "a", .all⟩
    (fun _ => Http.obliging) rfl (by decide +kernel)
  exact ⟨found, unknown.2 (by decide +kernel)⟩

end Interleaving

end Podkeeper
