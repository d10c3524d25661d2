import Podkeeper.Proofs.Interleaving.Deletes
import Podkeeper.Proofs.Lifecycle.Entries

/-!
Creating a pod that is tracked.

Nothing keeps a uid from being created twice: the second entry takes the place of the first. An
engine that refuses a name that is in use (`Acts.Refusing`) lets the second create succeed only if
none of the containers that it starts has the name of one that still runs. So of the first entry
no container runs any more whose name the second one has (`recreation_ends_namesakes`). All others
may run on, and nothing tells any longer that they do (`recreation_loses_container`).
-/

namespace Podkeeper

/-! ### Names in use -/

/-- The name that a container was started under, if it is among those with these handles. -/
def Act.nameAmong? (handles : List String) : Act → Option String
  | ⟨.run request, .ok handle⟩ => if handle ∈ handles then some request.name else none
  | _ => none

namespace Acts

/-- The names that containers which are live were started under. -/
def names (acts : List Act) : List String := acts.filterMap (Act.nameAmong? (live acts))

variable {acts more before after : List Act} {handle name : String}

theorem name_mem_names {request : RunRequest} (ran : Act.ran request handle ∈ acts)
    (runs : handle ∈ live acts) : request.name ∈ names acts :=
  List.mem_filterMap.2 ⟨_, ran, if_pos runs⟩

end Acts

/-- The act starts a container under a name that is in use. -/
def Act.collides (before : List Act) : Act → Bool
  | ⟨.run request, .ok _⟩ => (Acts.names before).contains request.name
  | _ => false

namespace Acts

/-- What an engine makes sure of that refuses to start a container under a name that one has which
is live, and gives each container that it starts a handle of its own. -/
structure Refusing (acts : List Act) : Prop where
  fresh : (started acts).Nodup
  free : ∀ before a after, acts = before ++ a :: after → a.collides before = false

/-- No act of a history collides with those before it. -/
def noneCollides (before : List Act) : List Act → Bool
  | [] => true
  | a :: acts => !a.collides before && noneCollides (before ++ [a]) acts

theorem noneCollides_iff {before acts : List Act} :
    noneCollides before acts ↔ ∀ between a after, acts = between ++ a :: after →
      a.collides (before ++ between) = false := by
  induction acts generalizing before with
  | nil => simp [noneCollides]
  | cons a acts ih =>
      rw [noneCollides, Bool.and_eq_true, Bool.not_eq_true', ih]
      constructor
      · rintro ⟨first, rest⟩ between b after split
        cases between with
        | nil =>
            cases split
            rwa [List.append_nil]
        | cons d between =>
            cases split
            rw [List.append_cons]
            exact rest between b after rfl
      · intro all
        refine ⟨by simpa using all [] a acts rfl, fun between b after split => ?_⟩
        rw [← List.append_cons]
        exact all (a :: between) b after (congrArg _ split)

instance (acts : List Act) : Decidable (Refusing acts) :=
  decidable_of_iff ((started acts).Nodup ∧ noneCollides [] acts)
    ⟨fun ⟨fresh, free⟩ => ⟨fresh, noneCollides_iff.1 free⟩,
      fun h => ⟨h.fresh, noneCollides_iff.2 h.free⟩⟩

/-- A container that ended does not run again, whatever follows. -/
theorem not_live_append (fresh : (started (acts ++ more)).Nodup) (before : handle ∈ started acts)
    (ended : handle ∉ live acts) : handle ∉ live (acts ++ more) := by
  induction more using List.reverseRecOn with
  | nil => rwa [List.append_nil]
  | append_singleton more a ih =>
      rw [← List.append_assoc] at fresh ⊢
      have earlier : (started (acts ++ more)).Nodup := by
        rw [started_concat] at fresh
        exact (List.nodup_append.1 fresh).1
      refine not_live_concat fresh ?_ (ih earlier)
      rw [started, List.filterMap_append]
      exact List.mem_append_left _ before

/-- A name that is used again is that of a container that ended. -/
theorem Refusing.not_live_of_namesake {first second : RunRequest} {other : String}
    (h : Refusing (before ++ Act.ran second other :: after)) (ran : Act.ran first handle ∈ before)
    (same : first.name = second.name) :
    handle ∉ live (before ++ Act.ran second other :: after) := by
  refine not_live_append h.fresh (List.mem_filterMap.2 ⟨_, ran, rfl⟩) fun runs => ?_
  have free : (names before).contains second.name = false := h.free before _ after rfl
  have used := name_mem_names ran runs
  rw [same] at used
  simp [used] at free

/-- Containers that were started at different times have different handles. -/
theorem Refusing.handle_ne {first second : RunRequest} {other : String}
    (h : Refusing (before ++ after)) (ran : Act.ran first handle ∈ before)
    (ran' : Act.ran second other ∈ after) : handle ≠ other := by
  have fresh := h.fresh
  rw [started, List.filterMap_append, List.nodup_append] at fresh
  exact fresh.2.2 handle (List.mem_filterMap.2 ⟨_, ran, rfl⟩) other
    (List.mem_filterMap.2 ⟨_, ran', rfl⟩)

end Acts

namespace Interleaving

open Program

/-! ### Where an entry comes from -/

/-- What is noted was noted by an event. -/
theorem exists_register {ι : Type} {events : List (Event ι)} {uid : String} {entry : List Tracked}
    (found : noted events uid = some entry) :
    ∃ before ev after, events = before ++ ev :: after ∧ ev.act.effect = .register uid entry := by
  induction events using List.reverseRecOn with
  | nil => cases found
  | append_singleton events ev ih =>
      rw [noted, List.map_append, List.map_singleton, Tracker.afterAll_concat] at found
      rcases Tracker.lookup_after_eq_some found with registers | ⟨old, -⟩
      · exact ⟨events, ev, [], rfl, registers⟩
      · obtain ⟨before, ev', after, rfl, registers⟩ := ih old
        exact ⟨before, ev', after ++ [ev], by simp, registers⟩

/-- A task takes the lock of its uid once. -/
theorem taking_unique {ι α : Type} {S : Service ι α} {purpose : ι → Purpose} {succeeded : α → Prop}
    {s : System ι α} (h : System.Turns S purpose succeeded s) {k : Nat} {c : ι} {uid : String}
    {before since before' since' : List (Event ι)}
    (past : s.past = before ++ ⟨k, c, .acquire uid, ()⟩ :: since)
    (past' : s.past = before' ++ ⟨k, c, .acquire uid, ()⟩ :: since') :
    before = before' ∧ since = since' := by
  let takes (ev : Event ι) : Bool := ev.task = k ∧ ev.act.effect = .acquire uid
  have none_before {front back : List (Event ι)}
      (split : s.past = front ++ ⟨k, c, .acquire uid, ()⟩ :: back) : front.filter takes = [] := by
    have once := (h.turns uid).once
    rw [System.order, ← takers, split, takers_append, takers_cons rfl, List.nodup_append] at once
    refine List.filter_eq_nil_iff.2 fun ev member taking => ?_
    obtain ⟨own, acquires⟩ := of_decide_eq_true taking
    refine once.2.2 k ?_ k List.mem_cons_self rfl
    exact List.mem_map.2 ⟨ev, List.mem_filter.2 ⟨member, decide_eq_true acquires⟩, own⟩
  have same := past.symm.trans past'
  obtain rfl := System.eq_of_append_cons_eq takes (by simp [takes]) same
    (by rw [none_before past, none_before past'])
  exact ⟨rfl, (List.cons.inj (List.append_cancel_left same)).2⟩

namespace Call

variable {site : Site} {droppable : Call → Bool} {s : System Call (Except Failure Reply)}
  {k : Nat} {uid : String} {request : CreateRequest} {reply : Reply}

/-- Each container that is noted was run before, under its name and the uid. -/
theorem exists_run_of_noted (h : Orderly site droppable s)
    (rules : ∀ ev ∈ s.past, ∃ acts, ev.call.purpose.rules acts ev.act.effect)
    {events since : List (Event Call)} (past : s.past = events ++ since) {entry : List Tracked}
    (found : noted events uid = some entry) {t : Tracked} (member : t ∈ entry) :
    ∃ run, run.name = t.name ++ "-" ++ uid ∧ Act.ran run t.handle ∈ events.map (·.act) := by
  obtain ⟨before, ⟨k, c, effect, answer⟩, after, rfl, same⟩ := exists_register found
  cases same
  have event : (⟨k, c, .register uid entry, answer⟩ : Event Call) ∈ s.past := by simp [past]
  obtain ⟨acts, allowed⟩ := rules _ event
  have own := (Purpose.register_allowed allowed).1
  cases c with
  | delete | status | logs => cases own
  | create request =>
      have call := h.calls _ event
      obtain ⟨q, reaches⟩ := (h.exists_reaches call rfl).1
      obtain ⟨rest, r, -, yields⟩ := reaches.exists_yields
      obtain ⟨r', -, yields⟩ := yields_create.1 yields
      have block : s.block k = (before.filter fun ev => ev.task = k).map (·.act) ++
          ⟨.register uid entry, answer⟩ ::
            ((after ++ since).filter fun ev => ev.task = k).map (·.act) := by
        simp [System.block, System.eventsOf, past]
      rw [block, List.append_assoc] at yields
      obtain ⟨rfl, provisioned⟩ := Site.provisioned_of_register yields
      obtain ⟨run, name, ran⟩ := provisioned.exists_run member
      refine ⟨run, name, ?_⟩
      rw [List.map_append]
      exact List.mem_append_left _ ((List.filter_sublist.map _).subset ran)

/-- A create that succeeded: what was noted when it took the lock is not in its way, and when it
gives the lock back what it started in the meantime is noted. -/
theorem exists_creation (h : Orderly site droppable s) (call : s.call? k = some (.create request))
    (result : s.result? k = some (.ok reply)) :
    ∃ before since after entry,
      s.past = before ++ ⟨k, .create request, .acquire request.pod.uid, ()⟩ :: since ++
        ⟨k, .create request, .release request.pod.uid, ()⟩ :: after ∧
      site.Provisioned request (s.block k) entry ∧
      noted (before ++ ⟨k, .create request, .acquire request.pod.uid, ()⟩ :: since)
        request.pod.uid = some entry ∧
      ∀ t ∈ entry, ∃ run, run.name = t.name ++ "-" ++ request.pod.uid ∧
        Act.ran run t.handle ∈ since.map (·.act) := by
  obtain ⟨r', same, yields⟩ := yields_create.1 ((h.exists_reaches call rfl).2 _ result)
  cases r' with
  | error => cases same
  | ok =>
      obtain ⟨entry, provisioned, left⟩ := Site.exists_entry yields
      rcases Site.yields_create yields with ⟨_, -, -, refused⟩ | ⟨inner, -, block, -⟩
      · cases refused
      have member : k ∈ s.order request.pod.uid := by
        by_contra absent
        have nothing := ((h.toSerialized request.pod.uid).skipped k _ call rfl absent).1
        rw [nothing] at block
        cases block
      obtain ⟨earlier, later, order⟩ := List.append_of_mem member
      obtain ⟨before, since, after, past, acts, -, end_⟩ := exists_turn h order call block
      refine ⟨before, since, after, entry, past, provisioned, end_.trans (left _),
        fun t noted => ?_⟩
      obtain ⟨run, name, ran⟩ := provisioned.exists_run noted
      refine ⟨run, name, ?_⟩
      have inside : Act.ran run t.handle ∈ inner := by
        rw [block] at ran
        simpa [Acts.underLock, Act.ran] using ran
      rw [← acts] at inside
      exact (List.filter_sublist.map _).subset inside

end Call

/-- Creating a pod that is tracked. Where the engine refuses names that are in use, after a create
that succeeded no container of the entry that it found runs if the new entry has its name, whatever
else happened in the meantime. The new entry has none of the old handles, so all other containers
of the old one that still run are noted nowhere. -/
theorem recreation_ends_namesakes (site : Site) (droppable : Call → Bool)
    (moves : List (Move Call)) (k : Nat) (request : CreateRequest) :
    let s := System.run (Call.service site droppable) moves
    s.call? k = some (.create request) → s.result? k = some (.ok .done) → Acts.Refusing s.acts →
    ∀ before since, s.past = before ++ ⟨k, .create request, .acquire request.pod.uid, ()⟩ :: since →
    ∃ during after entry,
      since = during ++ ⟨k, .create request, .release request.pod.uid, ()⟩ :: after ∧
      site.Provisioned request (s.block k) entry ∧
      noted (before ++ ⟨k, .create request, .acquire request.pod.uid, ()⟩ :: during)
        request.pod.uid = some entry ∧
      ∀ old, noted before request.pod.uid = some old → ∀ t ∈ old,
        t.handle ∉ entry.map (·.handle) ∧
        (t.name ∈ entry.map (·.name) → t.handle ∉ Acts.live s.acts) := by
  intro s call result refusing before since past
  have h : Call.Orderly site droppable s := .run site droppable moves
  obtain ⟨before', during, after, entry, past', provisioned, left, started⟩ :=
    Call.exists_creation h call result
  rw [List.append_assoc] at past'
  obtain ⟨rfl, rfl⟩ := taking_unique h past past'
  refine ⟨during, after, entry, rfl, provisioned, left, fun old found t member => ?_⟩
  obtain ⟨first, name, ran⟩ := Call.exists_run_of_noted h
    (System.exists_rules (Call.conducted site droppable) moves) past found member
  have acts : s.acts = before.map (·.act) ++ (⟨.acquire request.pod.uid, ()⟩ ::
      (during.map (·.act) ++ ⟨.release request.pod.uid, ()⟩ :: after.map (·.act))) := by
    simp [System.acts, past]
  refine ⟨fun listed => ?_, fun named => ?_⟩
  -- No handle is given twice, and those of the new entry were given later.
  · obtain ⟨new, among, same⟩ := List.mem_map.1 listed
    obtain ⟨run, -, ran'⟩ := started new among
    rw [acts] at refusing
    have later := List.mem_cons_of_mem ⟨.acquire request.pod.uid, ()⟩
      (List.mem_append_left (⟨.release request.pod.uid, ()⟩ :: after.map (·.act)) ran')
    exact refusing.handle_ne ran later same.symm
  -- The name was free when the new container was started under it.
  · obtain ⟨new, among, same⟩ := List.mem_map.1 named
    obtain ⟨second, name', ran'⟩ := started new among
    obtain ⟨front, back, split⟩ := List.append_of_mem ran'
    have cut : s.acts = (before.map (·.act) ++ ⟨.acquire request.pod.uid, ()⟩ :: front) ++
        Act.ran second new.handle ::
          (back ++ ⟨.release request.pod.uid, ()⟩ :: after.map (·.act)) := by
      rw [acts, split]
      simp
    rw [cut] at refusing ⊢
    refine refusing.not_live_of_namesake (List.mem_append_left _ ran) ?_
    rw [name, name', same]

/-- A history is cut at an event that takes a lock. -/
theorem past_eq_of_taking {past : List (Event Call)} {i k : Nat} {c : Call} {uid : String}
    (taking : (past[i]?.map fun ev => (ev.task, ev.call, ev.act.effect)) =
      some (k, c, .acquire uid)) :
    past = past.take i ++ ⟨k, c, .acquire uid, ()⟩ :: past.drop (i + 1) := by
  obtain ⟨⟨k, c, effect, answer⟩, event, same⟩ := Option.map_eq_some_iff.1 taking
  cases same
  obtain ⟨long, here⟩ := List.getElem?_eq_some_iff.1 event
  rw [← here, ← List.drop_eq_getElem_cons, List.take_append_drop]

/-- A pod with two containers, a delete that removes one of them, and the pod with that one. -/
def halfDeleted : List (Move Call) :=
  let busy : (e : Effect) → e.Answer
    | .remove handle _ =>
      if handle = "b-uid-1" then .error (.failed "remove" handle "device busy") else .ok ()
    | e => Http.obliging e
  let later : (e : Effect) → e.Answer
    | .run request => .ok (request.name ++ "-2")
    | e => Http.obliging e
  [.call (.create ⟨.plain "uid-1" ["a", "b"], []⟩), .call (.delete "uid-1"),
    .call (.create ⟨.plain "uid-1" ["a"], []⟩)] ++
    wholeTurn 0 "uid-1" 5 Http.obliging ++ wholeTurn 1 "uid-1" 5 busy ++
    wholeTurn 2 "uid-1" 4 later

theorem namesake_ended :
    let s := System.run (Call.service ⟨"/data", true⟩ fun _ => false) halfDeleted
    Acts.Refusing s.acts ∧ noted (s.past.take 10) "uid-1" =
        some [⟨"a", "a-uid-1"⟩, ⟨"b", "b-uid-1"⟩] ∧
      s.result? 2 = some (.ok .done) ∧ "a-uid-1" ∉ Acts.live s.acts := by
  intro s
  have history : s.call? 2 = some (.create ⟨.plain "uid-1" ["a"], []⟩) ∧
      s.result? 2 = some (.ok .done) ∧ Acts.Refusing s.acts ∧
      (s.past[10]?.map fun ev => (ev.task, ev.call, ev.act.effect)) =
        some (2, .create ⟨.plain "uid-1" ["a"], []⟩, .acquire "uid-1") ∧
      noted (s.past.take 10) "uid-1" = some [⟨"a", "a-uid-1"⟩, ⟨"b", "b-uid-1"⟩] := by
    decide +kernel
  obtain ⟨call, result, refusing, taking, found⟩ := history
  obtain ⟨-, -, entry, -, provisioned, -, old⟩ := recreation_ends_namesakes _ _ halfDeleted 2 _
    call result refusing _ _ (past_eq_of_taking taking)
  have first : (⟨"a", "a-uid-1"⟩ : Tracked) ∈
      [(⟨"a", "a-uid-1"⟩ : Tracked), ⟨"b", "b-uid-1"⟩] := List.mem_cons_self
  refine ⟨refusing, found, result, (old _ found _ first).2 ?_⟩
  rw [provisioned.names]
  decide +kernel

/-- A pod that is created twice, with a container of another name. -/
def replaced : List (Move Call) :=
  [.call (.create ⟨.plain "uid-1" ["a"], []⟩), .call (.create ⟨.plain "uid-1" ["b"], []⟩)] ++
    wholeTurn 0 "uid-1" 4 Http.obliging ++ wholeTurn 1 "uid-1" 4 Http.obliging

/-- A create can leave a container of the entry that it found running and noted nowhere, though
the engine refuses names that are in use. -/
theorem recreation_loses_container :
    ¬ ∀ (site : Site) (moves : List (Move Call)) (k : Nat) (request : CreateRequest)
      (before since : List (Event Call)) (old : List Tracked),
      let s := System.run (Call.service site fun _ => false) moves
      s.call? k = some (.create request) → s.result? k = some (.ok .done) →
      Acts.Refusing s.acts →
      s.past = before ++ ⟨k, .create request, .acquire request.pod.uid, ()⟩ :: since →
      noted before request.pod.uid = some old → ∀ t ∈ old,
        t.handle ∉ Acts.live s.acts ∨ ∃ entry,
          s.shared.tracker.lookup request.pod.uid = some entry ∧
            t.handle ∈ entry.map (·.handle) := by
  intro always
  let site : Site := ⟨"/data", false⟩
  let request : CreateRequest := ⟨.plain "uid-1" ["b"], []⟩
  let s := System.run (Call.service site fun _ => false) replaced
  have history : s.call? 1 = some (.create request) ∧ s.result? 1 = some (.ok .done) ∧
      Acts.Refusing s.acts ∧
      (s.past[4]?.map fun ev => (ev.task, ev.call, ev.act.effect)) =
        some (1, .create request, .acquire "uid-1") ∧
      noted (s.past.take 4) "uid-1" = some [⟨"a", "a-uid-1"⟩] ∧
      "a-uid-1" ∈ Acts.live s.acts ∧
      s.shared.tracker.lookup "uid-1" = some [⟨"b", "b-uid-1"⟩] := by decide +kernel
  obtain ⟨call, result, refusing, taking, found, runs, left⟩ := history
  rcases always site replaced 1 request _ _ _ call result refusing (past_eq_of_taking taking) found
      _ (List.mem_singleton_self _) with ended | ⟨entry, there, listed⟩
  · exact ended runs
  · cases left.symm.trans there
    exact absurd listed (by decide +kernel)

end Interleaving

end Podkeeper
