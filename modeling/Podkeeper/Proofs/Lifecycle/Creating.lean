import Podkeeper.Proofs.Interleaving.Conduct
import Podkeeper.Proofs.Lifecycle.Traces
import Podkeeper.Proofs.Pods.Admission

/-!
Creating a pod: all or nothing.

The traces of a create are few (`Site.Creating`): its files are written up to the first failure,
its containers are started up to the first that fails, and only when all run are they noted. What a
trace has done to the tracker and asked of the engine is read off its shape, so that nothing is
noted and nothing is left to run where a create fails (`Site.create_all_or_nothing`).
-/

namespace Podkeeper

/-! ### Acts -/

namespace Act

/-- A file operation that succeeded. -/
def filed (op : FileOp) : Act := ⟨.file op, .ok ()⟩

/-- A container that was started. -/
def ran (request : RunRequest) (handle : String) : Act := ⟨.run request, .ok handle⟩

/-- A container that was to be removed by force. -/
def removal (handle : String) (answer : Except RuntimeFailure Unit) : Act :=
  ⟨.remove handle true, answer⟩

/-- A file operation or the start of a container that failed. -/
def failed : Act → Bool
  | ⟨.file _, .error _⟩ | ⟨.run _, .error _⟩ => true
  | _ => false

/-- The act is no failure that ends an attempt, and leaves the tracker as it is. -/
structure Passing (a : Act) : Prop where
  unwritten : a.effect.writes? = none
  fine : a.failed = false

end Act

/-- The effect is one of the engine. -/
def Effect.isEngine : Effect → Bool
  | .run _ | .remove _ _ | .inspect _ | .logs _ _ => true
  | _ => false

namespace Acts

/-- What the engine was asked. -/
def engine (acts : List Act) : List Act := acts.filter fun a => a.effect.isEngine

theorem exists_of_mem_zipWith {α β γ : Type} {f : α → β → γ} {as : List α} {bs : List β} {c : γ}
    (member : c ∈ List.zipWith f as bs) : ∃ a b, c = f a b := by
  rw [← List.map_uncurry_zip_eq_zipWith, List.mem_map] at member
  obtain ⟨⟨a, b⟩, -, rfl⟩ := member
  exact ⟨a, b, rfl⟩

theorem passing_filed {ops : List FileOp} : ∀ a ∈ ops.map Act.filed, a.Passing := by
  intro a member
  obtain ⟨op, -, rfl⟩ := List.mem_map.1 member
  exact ⟨rfl, rfl⟩

theorem passing_ran {requests : List RunRequest} {handles : List String} :
    ∀ a ∈ List.zipWith Act.ran requests handles, a.Passing := by
  intro a member
  obtain ⟨request, handle, rfl⟩ := exists_of_mem_zipWith member
  exact ⟨rfl, rfl⟩

theorem passing_removals {handles : List String} {answers : List (Except RuntimeFailure Unit)} :
    ∀ a ∈ List.zipWith Act.removal handles answers, a.Passing := by
  intro a member
  obtain ⟨handle, answer, rfl⟩ := exists_of_mem_zipWith member
  exact ⟨rfl, rfl⟩

/-- All acts of an attempt but one are passing. -/
theorem passing_or_eq {ops : List FileOp} {requests : List RunRequest}
    {handles handles' : List String} {answers : List (Except RuntimeFailure Unit)} {a odd : Act}
    (member : a ∈ ops.map Act.filed ++ (List.zipWith Act.ran requests handles ++
      odd :: List.zipWith Act.removal handles' answers)) : a.Passing ∨ a = odd := by
  rcases List.mem_append.1 member with done | member
  · exact .inl (passing_filed a done)
  · rcases List.mem_append.1 member with ran | member
    · exact .inl (passing_ran a ran)
    · rcases List.mem_cons.1 member with same | removed
      · exact .inr same
      · exact .inl (passing_removals a removed)

theorem passing_or_eq_last {ops : List FileOp} {requests : List RunRequest} {handles : List String}
    {a odd : Act}
    (member : a ∈ ops.map Act.filed ++ (List.zipWith Act.ran requests handles ++ [odd])) :
    a.Passing ∨ a = odd :=
  have none : [odd] = odd :: List.zipWith Act.removal [] [] := rfl
  passing_or_eq (none ▸ member)

@[simp] theorem engine_append (acts acts' : List Act) :
    engine (acts ++ acts') = engine acts ++ engine acts' := List.filter_append ..

@[simp] theorem engine_filed (ops : List FileOp) : engine (ops.map Act.filed) = [] := by
  simp [engine, Act.filed, Effect.isEngine]

@[simp] theorem engine_ran (requests : List RunRequest) (handles : List String) :
    engine (List.zipWith Act.ran requests handles) = List.zipWith Act.ran requests handles := by
  refine List.filter_eq_self.2 fun a member => ?_
  obtain ⟨request, handle, rfl⟩ := exists_of_mem_zipWith member
  rfl

@[simp] theorem engine_removals (handles : List String)
    (answers : List (Except RuntimeFailure Unit)) :
    engine (List.zipWith Act.removal handles answers) =
      List.zipWith Act.removal handles answers := by
  refine List.filter_eq_self.2 fun a member => ?_
  obtain ⟨handle, answer, rfl⟩ := exists_of_mem_zipWith member
  rfl

theorem engine_underLock (uid : String) (inner : List Act) :
    engine (underLock uid inner) = engine inner := by
  change engine (inner ++ [⟨.release uid, ()⟩]) = _
  rw [engine_append]
  exact List.append_nil _

theorem mem_of_mem_underLock {uid : String} {inner : List Act} {a : Act} (failed : a.failed = true)
    (member : a ∈ underLock uid inner) : a ∈ inner := by
  rcases List.mem_cons.1 member with rfl | member
  · cases failed
  · rcases List.mem_append.1 member with inside | last
    · exact inside
    · rw [List.mem_singleton.1 last] at failed
      cases failed

/-- Where the tracker is left as it is up to a point and nobody outside is asked behind it, all is
as it was up to each answer from outside. -/
theorem unwritten_of_split {quiet last front more : List Act} {e : Effect} {answer : e.Answer}
    (split : front ++ ⟨e, answer⟩ :: more = quiet ++ last)
    (unwritten : ∀ a ∈ quiet, a.effect.writes? = none)
    (answered : ∀ a ∈ last, a.effect.isOutside = false) (outside : e.isOutside) :
    ∀ a ∈ front, a.effect.writes? = none := by
  rcases List.append_eq_append_iff.1 split with ⟨_, whole, -⟩ | ⟨_, -, back⟩
  · exact fun a member => unwritten a (whole ▸ List.mem_append_left _ member)
  · have among : (⟨e, answer⟩ : Act) ∈ last := by
      rw [back]
      simp
    exact absurd outside (by simp [answered _ among])

end Acts

namespace Tracker

theorem after_of_unwritten {t : Tracker} {e : Effect} (unwritten : e.writes? = none) :
    t.after e = t := by
  cases e with
  | register | forget => cases unwritten
  | _ => rfl

theorem afterAll_of_unwritten {t : Tracker} {acts : List Act}
    (unwritten : ∀ a ∈ acts, a.effect.writes? = none) : t.afterAll acts = t := by
  induction acts with
  | nil => rfl
  | cons a acts ih =>
      obtain ⟨first, rest⟩ := List.forall_mem_cons.1 unwritten
      rw [afterAll, List.foldl_cons, after_of_unwritten first]
      exact ih rest

end Tracker

namespace Site

open Program

variable {acts : List Act}

/-! ### Parts of creating -/

/-- File operations are done in order, all of them or those before the first that fails. -/
theorem yields_fileOps {site : Site} {ops : List FileOp} {r : Except Failure Unit}
    (yields : Yields (site.fileOps ops).run acts r) :
    (acts = ops.map Act.filed ∧ r = .ok ()) ∨
      ∃ before op after e, ops = before ++ op :: after ∧
        acts = before.map Act.filed ++ [⟨.file op, .error e⟩] ∧
        r = .error (.io (op.path site.dataRoot) e.message) := by
  induction ops generalizing acts with
  | nil =>
      obtain ⟨rfl, rfl⟩ := Operation.yields_pure.1 yields
      exact .inl ⟨rfl, rfl⟩
  | cons op ops ih =>
      obtain ⟨a, rest, rfl, next⟩ := Operation.yields_effect_bind.1 yields
      cases a with
      | error e =>
          obtain ⟨rfl, rfl⟩ := Operation.yields_throw.1 next
          exact .inr ⟨[], op, ops, e, rfl, rfl, rfl⟩
      | ok =>
          rcases ih next with ⟨rfl, rfl⟩ | ⟨before, op', after, e, rfl, rfl, rfl⟩
          · exact .inl ⟨rfl, rfl⟩
          · exact .inr ⟨op :: before, op', after, e, rfl, rfl, rfl⟩

/-- The volumes of a pod are written up to the first failure or objection. -/
theorem yields_writeVolumes {site : Site} {plan : FilePlan} {r : Except Failure (List String)}
    (yields : Yields (site.writeVolumes plan).run acts r) :
    (acts = plan.ops.map Act.filed ∧
      ((∃ o, plan.objection = some o ∧ r = .error (.invalid o)) ∨
        (plan.objection = none ∧ r = .ok plan.written))) ∨
      ∃ before op after e, plan.ops = before ++ op :: after ∧
        acts = before.map Act.filed ++ [⟨.file op, .error e⟩] ∧
        r = .error (.io (op.path site.dataRoot) e.message) := by
  rcases Operation.yields_bind.1 yields with
    ⟨f, rfl, failed⟩ | ⟨first, _, last, rfl, done, ended⟩
  · rcases yields_fileOps failed with ⟨-, same⟩ | ⟨before, op, after, e, split, rfl, same⟩
    · cases same
    · cases same
      exact .inr ⟨before, op, after, e, split, rfl, rfl⟩
  · rcases yields_fileOps done with ⟨rfl, -⟩ | ⟨before, op, after, e, split, rfl, same⟩
    · cases objected : plan.objection with
      | some o =>
          simp only [objected] at ended
          obtain ⟨rfl, rfl⟩ := Operation.yields_throw.1 ended
          exact .inl ⟨List.append_nil _, .inl ⟨o, rfl, rfl⟩⟩
      | none =>
          simp only [objected] at ended
          obtain ⟨rfl, rfl⟩ := Operation.yields_pure.1 ended
          exact .inl ⟨List.append_nil _, .inr ⟨rfl, rfl⟩⟩
    · cases same

/-- The requests for containers are those of each, and their names. -/
theorem runRequests_eq_ok {p : Pod} {bundles : List Bundle} {cs : List Container}
    {requests : List (String × RunRequest)} (built : runRequests p bundles cs = .ok requests) :
    requests.map (·.1) = cs.map (·.name) ∧
      cs.map (RunRequest.build p bundles) = requests.map fun r => .ok r.2 := by
  induction cs generalizing requests with
  | nil =>
      cases built
      exact ⟨rfl, rfl⟩
  | cons c cs ih =>
      obtain ⟨request, first, rest⟩ := bind_eq_ok.1 built
      obtain ⟨requests, others, ⟨⟩⟩ := bind_eq_ok.1 rest
      obtain ⟨names, each⟩ := ih others
      simp [names, first, each]

/-- A container whose variables cannot be resolved leaves all without requests. -/
theorem runRequests_of_unresolved {p : Pod} {bundles : List Bundle} {cs : List Container}
    {c : Container} (member : c ∈ cs) {f : Failure}
    (unresolved : c.resolveEnv p.ns bundles = .error f) (requests : List (String × RunRequest)) :
    runRequests p bundles cs ≠ .ok requests := by
  intro built
  have among : RunRequest.build p bundles c ∈ requests.map fun r => .ok r.2 :=
    (runRequests_eq_ok built).2 ▸ List.mem_map_of_mem member
  obtain ⟨request, -, same⟩ := List.mem_map.1 among
  rw [RunRequest.build, unresolved] at same
  cases same

/-- All containers are tried, whatever becomes of it. -/
theorem yields_discard {ts : List Tracked} {u : Unit} (yields : Yields (discard ts) acts u) :
    ∃ answers, answers.length = ts.length ∧
      acts = List.zipWith Act.removal (ts.map (·.handle)) answers := by
  induction ts generalizing acts with
  | nil =>
      obtain ⟨rfl, -⟩ := yields_done.1 yields
      exact ⟨[], rfl, rfl⟩
  | cons t ts ih =>
      obtain ⟨a, rest, rfl, next⟩ := yields_perform.1 yields
      obtain ⟨answers, length, rfl⟩ := ih next
      exact ⟨a :: answers, by simp [length], rfl⟩

/-- Containers are started in order, all of them or those before the first that does not start;
then those that run are removed. -/
theorem yields_startAll {started : List Tracked} {requests : List (String × RunRequest)}
    {r : Except Failure (List Tracked)} (yields : Yields (startAll started requests).run acts r) :
    (∃ handles, handles.length = requests.length ∧
      acts = List.zipWith Act.ran (requests.map (·.2)) handles ∧
      r = .ok (started ++ List.zipWith Tracked.mk (requests.map (·.1)) handles)) ∨
    ∃ before request after handles e answers, requests = before ++ request :: after ∧
      handles.length = before.length ∧ answers.length = started.length + handles.length ∧
      acts = List.zipWith Act.ran (before.map (·.2)) handles ++
        ⟨.run request.2, .error e⟩ ::
          List.zipWith Act.removal (started.map (·.handle) ++ handles) answers ∧
      r = .error (.runtime e) := by
  induction requests generalizing started acts with
  | nil =>
      obtain ⟨rfl, rfl⟩ := Operation.yields_pure.1 yields
      exact .inl ⟨[], rfl, rfl, by simp⟩
  | cons request requests ih =>
      obtain ⟨name, request⟩ := request
      obtain ⟨a, rest, rfl, next⟩ := Operation.yields_effect_bind.1 yields
      cases a with
      | error e =>
          rcases Operation.yields_bind.1 next with
            ⟨f, rfl, discarded⟩ | ⟨first, u, last, rfl, discarded, thrown⟩
          · obtain ⟨u, same, -⟩ := Operation.yields_lift.1 discarded
            cases same
          · obtain ⟨_, -, discarded⟩ := Operation.yields_lift.1 discarded
            obtain ⟨answers, length, rfl⟩ := yields_discard discarded
            obtain ⟨rfl, rfl⟩ := Operation.yields_throw.1 thrown
            exact .inr ⟨[], (name, request), requests, [], e, answers, rfl, rfl, by simpa,
              by simp, rfl⟩
      | ok handle =>
          rcases ih next with ⟨handles, length, rfl, rfl⟩ |
            ⟨before, failed, after, handles, e, answers, rfl, length, length', rfl, rfl⟩
          · exact .inl ⟨handle :: handles, by simp [length], rfl, by simp⟩
          · refine .inr ⟨(name, request) :: before, failed, after, handle :: handles, e, answers,
              rfl, by simp [length], ?_, ?_, rfl⟩
            · simp at length' ⊢
              omega
            · simp [Act.ran]

/-! ### Creating as a whole -/

/-- What is done under the lock of a pod to create it, and what comes of it. -/
inductive Creating (site : Site) (request : CreateRequest) :
    List Act → Except Failure Unit → Prop where
  /-- A file operation fails. -/
  | unwritten (before : List FileOp) (op : FileOp) (after : List FileOp) (e : FileError)
      (split : (request.pod.filePlan request.bundles).ops = before ++ op :: after) :
      Creating site request (before.map Act.filed ++ [⟨.file op, .error e⟩])
        (.error (.io (op.path site.dataRoot) e.message))
  /-- A file has no plain name. -/
  | objected (o : Objection)
      (objection : (request.pod.filePlan request.bundles).objection = some o) :
      Creating site request ((request.pod.filePlan request.bundles).ops.map Act.filed)
        (.error (.invalid o))
  /-- A variable of a container cannot be resolved. -/
  | unresolved (f : Failure)
      (free : (request.pod.filePlan request.bundles).objection = none)
      (failed : runRequests request.pod request.bundles (site.provisioned request.pod) = .error f) :
      Creating site request ((request.pod.filePlan request.bundles).ops.map Act.filed) (.error f)
  /-- A container does not start, and those before it are removed. -/
  | discarded (before : List (String × RunRequest)) (failed : String × RunRequest)
      (after : List (String × RunRequest)) (handles : List String) (e : RuntimeFailure)
      (answers : List (Except RuntimeFailure Unit))
      (free : (request.pod.filePlan request.bundles).objection = none)
      (built : runRequests request.pod request.bundles (site.provisioned request.pod) =
        .ok (before ++ failed :: after))
      (ran : handles.length = before.length) (tried : answers.length = handles.length) :
      Creating site request
        ((request.pod.filePlan request.bundles).ops.map Act.filed ++
          (List.zipWith Act.ran (before.map (·.2)) handles ++
            ⟨.run failed.2, .error e⟩ :: List.zipWith Act.removal handles answers))
        (.error (.runtime e))
  /-- All containers run and are noted. -/
  | created (requests : List (String × RunRequest)) (handles : List String)
      (prior : Option (List Tracked))
      (free : (request.pod.filePlan request.bundles).objection = none)
      (built : runRequests request.pod request.bundles (site.provisioned request.pod) =
        .ok requests)
      (ran : handles.length = requests.length) :
      Creating site request
        ((request.pod.filePlan request.bundles).ops.map Act.filed ++
          (List.zipWith Act.ran (requests.map (·.2)) handles ++
            [⟨.register request.pod.uid (List.zipWith Tracked.mk (requests.map (·.1)) handles),
              prior⟩]))
        (.ok ())

theorem yields_creating {site : Site} {request : CreateRequest} {r : Except Failure Unit}
    (yields : Yields (do
      let _ ← site.writeVolumes (request.pod.filePlan request.bundles)
      let requests ← Operation.ofExcept
        (runRequests request.pod request.bundles (site.provisioned request.pod))
      let started ← startAll [] requests
      let _ ← Operation.effect (.register request.pod.uid started) : Operation Unit).run acts r) :
    Creating site request acts r := by
  rcases Operation.yields_bind.1 yields with
    ⟨f, rfl, written⟩ | ⟨files, _, rest, rfl, written, next⟩
  · rcases yields_writeVolumes written with
      ⟨rfl, ⟨o, objection, same⟩ | ⟨-, same⟩⟩ | ⟨before, op, after, e, split, rfl, same⟩
    · cases same
      exact .objected o objection
    · cases same
    · cases same
      exact .unwritten before op after e split
  rcases yields_writeVolumes written with ⟨rfl, ⟨o, -, same⟩ | ⟨free, -⟩⟩ | ⟨_, _, _, _, -, -, same⟩
  · cases same
  · rcases Operation.yields_ofExcept_bind.1 next with
      ⟨f, failed, rfl, rfl⟩ | ⟨requests, built, starting⟩
    · rw [List.append_nil]
      exact .unresolved f free failed
    rcases Operation.yields_bind.1 starting with
      ⟨f, rfl, starts⟩ | ⟨runs, _, last, rfl, starts, noting⟩
    · rcases yields_startAll starts with
        ⟨_, -, -, same⟩ | ⟨before, failed, after, handles, e, answers, rfl, ran, tried, rfl, same⟩
      · cases same
      · cases same
        exact .discarded before failed after handles e answers free built ran (by simpa using tried)
    · rcases yields_startAll starts with
        ⟨handles, ran, rfl, same⟩ | ⟨_, _, _, _, _, _, -, -, -, -, same⟩
      · cases same
        obtain ⟨prior, _, rfl, ended⟩ := Operation.yields_effect_bind.1 noting
        obtain ⟨rfl, rfl⟩ := Operation.yields_pure.1 ended
        exact .created requests handles prior free built ran
      · cases same
  · cases same

/-- A pod that is refused costs nothing; all else is done under its lock. -/
theorem yields_create {site : Site} {request : CreateRequest} {r : Except Failure Unit}
    (yields : Yields (site.create request).run acts r) :
    (∃ v, request.pod.check = .error v ∧ acts = [] ∧ r = .error (.invalid (.pod v))) ∨
      ∃ inner, request.pod.check = .ok () ∧
        acts = Acts.underLock request.pod.uid inner ∧ Creating site request inner r := by
  rcases Operation.yields_ofExcept_bind.1 yields with ⟨f, refused, rfl, rfl⟩ | ⟨_, accepted, next⟩
  · cases checked : request.pod.check with
    | ok => simp [Pod.accept, checked, Except.mapError] at refused
    | error v =>
        rw [Pod.accept, checked] at refused
        cases refused
        exact .inl ⟨v, rfl, rfl, rfl⟩
  · cases checked : request.pod.check with
    | ok =>
        obtain ⟨inner, rfl, body⟩ := Operation.yields_locked.1 next
        exact .inr ⟨inner, rfl, rfl, yields_creating body⟩
    | error v => simp [Pod.accept, checked, Except.mapError] at accepted

/-! ### All or nothing -/

/-- What creating a pod comes to, from a tracker on: whatever it fails of, nothing is left that is
noted or runs, except for containers that could not be removed; and where it succeeds, the
containers of the site's choice run and are noted, each with its own handle. -/
structure AllOrNothing (site : Site) (request : CreateRequest) (t : Tracker) (acts : List Act)
    (r : Except Failure Unit) : Prop where
  untracked : ∀ f, r = .error f → t.afterAll acts = t
  /-- A pod that is not admitted costs nothing. -/
  refused : ∀ v, request.pod.check = .error v → acts = [] ∧ r = .error (.invalid (.pod v))
  /-- Without all files and the variables of all containers the engine is not asked. -/
  unready : ((∃ op e, (⟨.file op, .error e⟩ : Act) ∈ acts) ∨
      (request.pod.filePlan request.bundles).objection ≠ none ∨
      ∃ c ∈ site.provisioned request.pod, ∃ f,
        c.resolveEnv request.pod.ns request.bundles = .error f) →
    Acts.engine acts = [] ∧ ∃ f, r = .error f
  /-- A container that does not start is the last one that was tried. Those before it are removed,
  each once and in order, whatever becomes of it. -/
  discarded : ∀ failed e, (⟨.run failed, .error e⟩ : Act) ∈ acts →
    ∃ before c after requests handles answers, site.provisioned request.pod = before ++ c :: after ∧
      before.map (RunRequest.build request.pod request.bundles) = requests.map .ok ∧
      RunRequest.build request.pod request.bundles c = .ok failed ∧
      handles.length = before.length ∧ answers.length = before.length ∧
      Acts.engine acts = List.zipWith Act.ran requests handles ++
        ⟨.run failed, .error e⟩ :: List.zipWith Act.removal handles answers ∧
      r = .error (.runtime e)
  /-- After a success each container that was chosen was started, and what is noted is their names
  with their handles. -/
  created : r = .ok () →
    ∃ requests handles,
      (site.provisioned request.pod).map (RunRequest.build request.pod request.bundles) =
        requests.map .ok ∧
      handles.length = requests.length ∧
      Acts.engine acts = List.zipWith Act.ran requests handles ∧
      t.afterAll acts = t.register request.pod.uid
        (List.zipWith Tracked.mk ((site.provisioned request.pod).map (·.name)) handles)
  /-- The first of the main containers is chosen, or all are. -/
  chosen : request.pod.check = .ok () →
    ∃ c cs, request.pod.spec.containers = c :: cs ∧
      site.provisioned request.pod = c :: (if site.allContainers then cs else []) ∧
      ∀ initial ∈ request.pod.spec.initContainers, ∀ started ∈ site.provisioned request.pod,
        started.name ≠ initial.name

namespace Creating

variable {site : Site} {request : CreateRequest} {r : Except Failure Unit} {t : Tracker}

/-- An attempt that fails leaves the tracker as it is. -/
theorem unwritten_of_error {f : Failure} (h : Creating site request acts (.error f)) :
    ∀ a ∈ acts, a.effect.writes? = none := by
  cases h with
  | unwritten before op after e split =>
      intro a member
      rcases List.mem_append.1 member with done | last
      · exact (Acts.passing_filed a done).unwritten
      · rw [List.mem_singleton.1 last]
        rfl
  | objected | unresolved => exact fun a member => (Acts.passing_filed a member).unwritten
  | discarded before failed after handles e answers =>
      intro a member
      rcases Acts.passing_or_eq member with passing | rfl
      · exact passing.unwritten
      · rfl

/-- After the containers are noted nobody outside is asked. -/
theorem exists_split (h : Creating site request acts r) (uid : String) :
    ∃ quiet last, Acts.underLock uid acts = quiet ++ last ∧
      (∀ a ∈ quiet, a.effect.writes? = none) ∧ ∀ a ∈ last, a.effect.isOutside = false := by
  cases r with
  | error f =>
      refine ⟨⟨.acquire uid, ()⟩ :: acts, [⟨.release uid, ()⟩], rfl, ?_,
        by simp [Effect.isOutside]⟩
      exact List.forall_mem_cons.2 ⟨rfl, h.unwritten_of_error⟩
  | ok =>
      cases h with
      | created requests handles prior =>
          let started := (request.pod.filePlan request.bundles).ops.map Act.filed ++
            List.zipWith Act.ran (requests.map (·.2)) handles
          let entry := List.zipWith Tracked.mk (requests.map (·.1)) handles
          refine ⟨⟨.acquire uid, ()⟩ :: started,
            [⟨.register request.pod.uid entry, prior⟩, ⟨.release uid, ()⟩], ?_,
            List.forall_mem_cons.2 ⟨rfl, fun a member => ?_⟩, by simp [Effect.isOutside]⟩
          · simp [Acts.underLock, started, entry]
          · rcases List.mem_append.1 member with filed | ran
            · exact (Acts.passing_filed a filed).unwritten
            · exact (Acts.passing_ran a ran).unwritten

/-- Either the engine is not asked, or the files are written and all requests are known. -/
theorem ready_or (h : Creating site request acts r) :
    (Acts.engine acts = [] ∧ ∃ f, r = .error f) ∨
      (request.pod.filePlan request.bundles).objection = none ∧
        (∃ requests, runRequests request.pod request.bundles (site.provisioned request.pod) =
          .ok requests) ∧
        ∀ op e, (⟨.file op, .error e⟩ : Act) ∉ acts := by
  cases h with
  | unwritten before op after e split =>
      refine .inl ⟨?_, _, rfl⟩
      rw [Acts.engine_append, Acts.engine_filed]
      rfl
  | objected | unresolved => exact .inl ⟨Acts.engine_filed _, _, rfl⟩
  | discarded before failed after handles e answers free built =>
      refine .inr ⟨free, ⟨_, built⟩, fun op e member => ?_⟩
      rcases Acts.passing_or_eq member with passing | same
      · cases passing.fine
      · cases same
  | created requests handles prior free built =>
      refine .inr ⟨free, ⟨_, built⟩, fun op e member => ?_⟩
      rcases Acts.passing_or_eq_last member with passing | same
      · cases passing.fine
      · cases same

/-- A container that does not start ends the attempt: those that run are removed. -/
theorem of_failed_run (h : Creating site request acts r) {failed : RunRequest} {e : RuntimeFailure}
    (member : (⟨.run failed, .error e⟩ : Act) ∈ acts) :
    ∃ before c after requests handles answers,
      site.provisioned request.pod = before ++ c :: after ∧
      before.map (RunRequest.build request.pod request.bundles) = requests.map .ok ∧
      RunRequest.build request.pod request.bundles c = .ok failed ∧
      handles.length = before.length ∧ answers.length = before.length ∧
      Acts.engine acts = List.zipWith Act.ran requests handles ++
        ⟨.run failed, .error e⟩ :: List.zipWith Act.removal handles answers ∧
      r = .error (.runtime e) := by
  cases h with
  | unwritten before op after e split =>
      rcases List.mem_append.1 member with done | last
      · cases (Acts.passing_filed _ done).fine
      · cases List.mem_singleton.1 last
  | objected | unresolved => cases (Acts.passing_filed _ member).fine
  | discarded before failed' after handles e' answers free built ran tried =>
      have same : failed'.2 = failed ∧ e' = e := by
        rcases Acts.passing_or_eq member with passing | same
        · cases passing.fine
        · cases same
          exact ⟨rfl, rfl⟩
      obtain ⟨rfl, rfl⟩ := same
      have each := (runRequests_eq_ok built).2
      rw [List.map_append, List.map_cons, List.map_eq_append_iff] at each
      obtain ⟨cs, rest, split, front, back⟩ := each
      obtain ⟨c, cs', rfl, here, -⟩ := List.map_eq_cons_iff.1 back
      have length : before.length = cs.length := by
        simpa using (congrArg List.length front).symm
      refine ⟨cs, c, cs', before.map (·.2), handles, answers, split, ?_, here, ran.trans length,
        tried.trans (ran.trans length), ?_, rfl⟩
      · rw [front, List.map_map]
        rfl
      · rw [Acts.engine_append, Acts.engine_filed, Acts.engine_append, Acts.engine_ran,
          List.nil_append]
        exact congrArg _ (congrArg _ (Acts.engine_removals handles answers))
  | created requests handles prior free built =>
      rcases Acts.passing_or_eq_last member with passing | same
      · cases passing.fine
      · cases same

/-- An attempt that succeeds has started all containers, and notes them. -/
theorem of_ok (h : Creating site request acts (.ok ())) :
    ∃ requests handles,
      (site.provisioned request.pod).map (RunRequest.build request.pod request.bundles) =
        requests.map .ok ∧
      handles.length = requests.length ∧
      Acts.engine acts = List.zipWith Act.ran requests handles ∧
      t.afterAll acts = t.register request.pod.uid
        (List.zipWith Tracked.mk ((site.provisioned request.pod).map (·.name)) handles) := by
  cases h with
  | created requests handles prior free built ran =>
      obtain ⟨names, each⟩ := runRequests_eq_ok built
      refine ⟨requests.map (·.2), handles, ?_, by simpa using ran, ?_, ?_⟩
      · rw [each, List.map_map]
        rfl
      · rw [Acts.engine_append, Acts.engine_filed, Acts.engine_append, Acts.engine_ran,
          List.nil_append]
        exact List.append_nil _
      · rw [Tracker.afterAll_append, Tracker.afterAll_append, names,
          Tracker.afterAll_of_unwritten fun a member => (Acts.passing_filed a member).unwritten,
          Tracker.afterAll_of_unwritten fun a member => (Acts.passing_ran a member).unwritten]
        rfl

end Creating

/-- Up to any answer from outside a create has not changed the tracker. -/
theorem unwritten_of_yields_create {site : Site} {request : CreateRequest} {front more : List Act}
    {e : Effect} {answer : e.Answer} {r : Except Failure Unit}
    (yields : Yields (site.create request).run (front ++ ⟨e, answer⟩ :: more) r)
    (outside : e.isOutside) : ∀ a ∈ front, a.effect.writes? = none := by
  rcases yields_create yields with ⟨-, -, nothing, -⟩ | ⟨inner, -, all, attempt⟩
  · simp at nothing
  · obtain ⟨quiet, last, split, unwritten, answered⟩ := attempt.exists_split request.pod.uid
    exact Acts.unwritten_of_split (all.trans split) unwritten answered outside

/-- An admitted pod has a first container, and no initial container is chosen. -/
theorem chosen_of_check (site : Site) {p : Pod} (admitted : p.check = .ok ()) :
    ∃ c cs, p.spec.containers = c :: cs ∧
      site.provisioned p = c :: (if site.allContainers then cs else []) ∧
      ∀ initial ∈ p.spec.initContainers, ∀ started ∈ site.provisioned p,
        started.name ≠ initial.name := by
  simp only [Pod.check, Verdict.bind_eq_ok, checkDistinct_eq_ok, require_eq_ok] at admitted
  obtain ⟨-, -, -, some_given, -, ⟨-, distinct, -⟩, -⟩ := admitted
  rw [List.map_append, List.nodup_append] at distinct
  have main : ∀ c ∈ site.provisioned p, c ∈ p.spec.containers := by
    intro c member
    rw [provisioned] at member
    split at member
    · exact member
    · exact List.mem_of_mem_take member
  cases given : p.spec.containers with
  | nil => simp [given] at some_given
  | cons c cs =>
      refine ⟨c, cs, rfl, ?_, fun initial first started member same => ?_⟩
      · rw [provisioned, given]
        cases site.allContainers <;> rfl
      · exact distinct.2.2 initial.name (List.mem_map_of_mem first) started.name
          (List.mem_map_of_mem (main started member)) same.symm

/-- Whatever is answered, creating a pod is all or nothing, apart from files. -/
theorem create_all_or_nothing (site : Site) (request : CreateRequest) (t : Tracker)
    (outside : List Act → (e : Effect) → e.Answer) :
    AllOrNothing site request t (play (site.create request).run t outside).2
      (play (site.create request).run t outside).1 := by
  rcases yields_create (yields_play (site.create request).run t outside) with
    ⟨v, refused, nothing, result⟩ | ⟨inner, admitted, all, attempt⟩
  · rw [nothing, result]
    exact {
      untracked := fun _ _ => rfl
      refused := fun v' refused' => by
        cases refused.symm.trans refused'
        exact ⟨rfl, rfl⟩
      unready := fun _ => ⟨rfl, _, rfl⟩
      discarded := fun _ _ member => absurd member List.not_mem_nil
      created := nofun
      chosen := chosen_of_check site }
  · rw [all]
    generalize (play (site.create request).run t outside).1 = r at attempt
    refine ⟨fun f failed => ?_, fun v refused => ?_, fun unready => ?_, fun failed e member => ?_,
      fun success => ?_, chosen_of_check site⟩
    · subst failed
      rw [Tracker.afterAll_underLock]
      exact Tracker.afterAll_of_unwritten attempt.unwritten_of_error
    · cases admitted.symm.trans refused
    · rw [Acts.engine_underLock]
      rcases attempt.ready_or with nothing | ⟨free, ⟨requests, built⟩, written⟩
      · exact nothing
      · rcases unready with ⟨op, e, member⟩ | objected | ⟨c, member, f, unresolved⟩
        · exact absurd (Acts.mem_of_mem_underLock rfl member) (written op e)
        · exact absurd free objected
        · exact absurd built (runRequests_of_unresolved member unresolved requests)
    · rw [Acts.engine_underLock]
      exact attempt.of_failed_run (Acts.mem_of_mem_underLock rfl member)
    · subst success
      rw [Acts.engine_underLock, Tracker.afterAll_underLock]
      exact attempt.of_ok

end Site

end Podkeeper
