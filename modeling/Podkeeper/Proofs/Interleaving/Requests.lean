import Podkeeper.Http.Router
import Podkeeper.Proofs.Interleaving.Ownership

/-!
Requests in turns.

The requests that the router takes are calls of a service: those that create or delete go on when
their clients go away, all others may be dropped while they wait. Each keeps the rules of what it
is for, so that what runs is accounted for whatever requests come in.
-/

namespace Podkeeper

theorem Failure.status_ne (f : Failure) : f.status ≠ 200 := by
  cases f <;> simp [status]

namespace Http

open Interleaving Program Wire

/-! ### What requests are for -/

/-- What a body with one of the methods of its route is for. -/
def Route.purpose (body : Bytes) : Route → Purpose
  | .create =>
    match Json.decode (Source.sequence CreateRequest.read) body with
    | .ok (request :: _) => .create request.pod.uid
    | _ => .read
  | .delete =>
    match Json.decode PodRef.read body with
    | .ok r => .delete r.uid
    | .error _ => .read
  | _ => .read

/-- What a request is for. One that is refused reads nothing, not even its body. -/
def purpose (r : Request) : Purpose :=
  match Route.ofPath? (pathOf r.target) with
  | none => .read
  | some route =>
    if !route.methods.contains r.method || route.readsBody && maxBody < r.body.length then .read
    else route.purpose r.body

/-- The requests of a site. Nobody can drop one that runs detached. -/
def requests (site : Site) : Service Request Response where
  program r := (handle site r).program
  droppable r := !(handle site r).isDetached

/-! ### Requests keep their rules -/

variable {α : Type} {allows : List Act → Effect → Prop} {past : List Act}

theorem keeps_respond {o : Operation α} {write : α → Response}
    {mid : List Act → Except Failure α → Prop} {ends : List Act → Response → Prop}
    (operated : Keeps allows mid past o.run)
    (answered : ∀ past a, mid past (.ok a) → ends past (write a))
    (failed : ∀ past f, mid past (.error f) → ends past (.failure f)) :
    Keeps allows ends past (respond write o) := by
  refine operated.bind fun past r ended => ?_
  cases r with
  | ok a => exact answered past a ended
  | error f => exact failed past f ended

/-- A request keeps the rules of a purpose. -/
def Handling.Keeps (h : Handling) (q : Purpose) : Prop :=
  Program.Keeps q.rules (fun past r => q.ends (r.status = 200) past) [] h.program

theorem keeps_create (site : Site) (body : Bytes) :
    (Route.create.handle site body).Keeps (Route.create.purpose body) := by
  rw [Route.handle, Route.purpose, decoded]
  cases Json.decode (Source.sequence CreateRequest.read) body with
  | error e => trivial
  | ok batch =>
      cases batch with
      | nil => trivial
      | cons request others =>
          have created : Program.Keeps (creating request.pod.uid)
              (fun past _ => Acts.created past) [] (site.createFirst (request :: others)).run :=
            Operation.keeps_bind (site.keeps_create request) (fun _ _ ended => ended)
              fun _ _ ended => ended
          exact keeps_respond created (fun _ _ ended => ended) fun _ _ ended => ended

theorem keeps_delete (site : Site) (body : Bytes) :
    (Route.delete.handle site body).Keeps (Route.delete.purpose body) := by
  rw [Route.handle, Route.purpose, decoded]
  cases Json.decode PodRef.read body with
  | error e => trivial
  | ok r =>
      have deleted : Program.Keeps (deleting r.uid)
          (fun past a => Acts.deleted past (∃ s, a = .ok s)) [] (Site.deleteRef r).run := by
        refine Operation.keeps_bind (Site.keeps_delete r.uid) (fun past _ ended => ?_) ?_
        · exact ⟨ended.1, fun _ => ended.2 rfl⟩
        · exact fun past e ended => ⟨ended.1, nofun⟩
      refine keeps_respond deleted (fun past a ended => ?_) fun past f ended => ?_
      · exact ⟨ended.1, fun _ => ended.2 ⟨a, rfl⟩⟩
      · exact ⟨ended.1, fun ok => absurd ok f.status_ne⟩

theorem keeps_route (site : Site) (body : Bytes) (route : Route) :
    (route.handle site body).Keeps (route.purpose body) := by
  cases route with
  | create => exact keeps_create site body
  | delete => exact keeps_delete site body
  | status =>
      rw [Route.handle, decoded]
      cases Json.decode (Source.sequence PodRef.read) body with
      | error e => trivial
      | ok refs =>
          have read : Program.Keeps reading (fun _ _ => True) [] (Site.statusFirst refs).run := by
            cases refs with
            | nil => trivial
            | cons r others =>
                exact Operation.keeps_bind (Site.keeps_status r) (fun _ _ _ => trivial)
                  fun _ _ _ => trivial
          exact keeps_respond read (fun _ _ _ => trivial) fun _ _ _ => trivial
  | logs =>
      rw [Route.handle, decoded]
      cases Json.decode LogRequest.read body with
      | error e => trivial
      | ok r =>
          exact keeps_respond (Site.keeps_logs r) (fun _ _ _ => trivial) fun _ _ _ => trivial
  | health => trivial

/-- Only what creates or deletes runs detached. -/
theorem Route.purpose_of_attached (site : Site) (body : Bytes) (route : Route)
    (attached : (route.handle site body).isDetached = false) : route.purpose body = .read := by
  cases route with
  | create =>
      rw [Route.handle, decoded] at attached
      rw [Route.purpose]
      split at attached
      · cases attached
      · rename_i refused
        rw [refused]
  | delete =>
      rw [Route.handle, decoded] at attached
      rw [Route.purpose]
      split at attached
      · cases attached
      · rename_i refused
        rw [refused]
  | status | logs | health => rfl

/-- A request that is answered without its body has a method that only reads. -/
theorem Route.purpose_of_head {route : Route} (taken : route.methods.contains "HEAD")
    (body : Bytes) : route.purpose body = .read := by
  cases route with
  | create | delete => simp [methods] at taken
  | status | logs | health => rfl

theorem keeps_map {h : Handling} (reads : h.Keeps .read) (f : Response → Response) :
    (h.map f).Keeps .read := by
  cases h with
  | answered r => trivial
  | attached p | detached p => exact Program.keeps_bind.2 (reads.mono fun _ _ _ => trivial)

/-- How a request is handled: it is refused, or its route handles it, with or without the body of
the response. -/
theorem handle_cases (site : Site) (r : Request) :
    (∃ response, handle site r = .answered response ∧ purpose r = .read) ∨
      (∃ route : Route, handle site r = route.handle site r.body ∧
        purpose r = route.purpose r.body) ∨
      ∃ handling : Handling, handle site r = handling.map .head ∧ handling.Keeps .read ∧
        purpose r = .read := by
  rw [handle, purpose]
  cases Route.ofPath? (pathOf r.target) with
  | none => exact .inl ⟨_, rfl, rfl⟩
  | some route =>
      by_cases taken : route.methods.contains r.method
      · by_cases large : (route.readsBody && maxBody < r.body.length) = true
        · simp only [taken, large, Bool.not_true, Bool.false_or, Bool.false_eq_true, if_true,
            if_false]
          split
          · exact .inr (.inr ⟨_, rfl, trivial, trivial⟩)
          · exact .inl ⟨_, rfl, trivial⟩
        · simp only [taken, large, Bool.not_true, Bool.false_or, Bool.false_eq_true, if_false]
          split
          · rename_i bodiless
            rw [bodiless] at taken
            have reads := Route.purpose_of_head taken r.body
            exact .inr (.inr ⟨_, rfl, reads ▸ keeps_route site r.body route, reads⟩)
          · exact .inr (.inl ⟨route, rfl, rfl⟩)
      · simp only [taken, Bool.not_false, Bool.true_or, if_true]
        exact .inl ⟨_, rfl, trivial⟩

/-- Every request keeps the rules of what it is for. -/
theorem conducted (site : Site) :
    (requests site).Conducted purpose fun response => response.status = 200 := by
  intro r
  show (handle site r).Keeps (purpose r)
  rcases handle_cases site r with ⟨response, answered, reads⟩ | ⟨route, handled, same⟩ | headed
  · rw [answered, reads]
    trivial
  · rw [handled, same]
    exact keeps_route site r.body route
  · obtain ⟨handling, handled, kept, reads⟩ := headed
    rw [handled, reads]
    exact keeps_map kept .head

/-- Only requests that read may be dropped. -/
theorem patient (site : Site) (r : Request) (droppable : (requests site).droppable r) :
    (purpose r).uid? = none := by
  have attached : (handle site r).isDetached = false := by simpa [requests] using droppable
  rcases handle_cases site r with ⟨response, -, reads⟩ | ⟨route, handled, same⟩ | headed
  · rw [reads]
    rfl
  · rw [handled] at attached
    rw [same, Route.purpose_of_attached site r.body route attached]
    rfl
  · obtain ⟨handling, -, -, reads⟩ := headed
    rw [reads]
    rfl

/-! ### What runs and what is tracked -/

/-- A request that deletes a uid and was answered with success has forgotten the uid, whatever else
happened. -/
theorem forgot_of_deleted (site : Site) (moves : List (Move Request)) {k : Nat} {request : Request}
    {uid : String} {response : Response}
    (call : (System.run (requests site) moves).call? k = some request)
    (deleting : purpose request = .delete uid)
    (result : (System.run (requests site) moves).result? k = some response)
    (success : response.status = 200) :
    ∃ act ∈ (System.run (requests site) moves).block k, act.effect = .forget uid :=
  (System.Orderly.run (conducted site) moves).exists_forget call deleting result success

/-- Whatever requests come in, in whatever order they take their steps and whichever are dropped:
in every regular history a container that runs is noted for the uid that it was started for, or
was started by a request that creates this uid and is not over; no handle is noted twice; when all
requests are over, what runs is noted; and a request that deletes a uid and was answered with
success has forgotten the uid, and nothing runs that was started for it, unless it was created
again since. -/
theorem runtime_tracker_agree (site : Site) (moves : List (Move Request))
    (regular : Regular purpose (System.run (requests site) moves).past) :
    let s := System.run (requests site) moves
    (∀ handle ∈ Acts.live s.acts,
      (∃ uid, Acts.RanFor s.acts handle uid) ∧
        ∀ uid, Acts.RanFor s.acts handle uid → handle ∈ s.noted uid ∨
          ∃ k, s.Creates purpose k uid ∧ ¬s.isOver k ∧ handle ∈ Acts.started (s.block k)) ∧
      (s.shared.tracker.entries.entries.flatMap fun e => e.2.map (·.handle)).Nodup ∧
      ((∀ k r, s.call? k = some r → s.isOver k) →
        ∀ handle ∈ Acts.live s.acts, ∃ uid, Acts.RanFor s.acts handle uid ∧
          handle ∈ s.noted uid) ∧
      ∀ k request uid response, s.call? k = some request → purpose request = .delete uid →
        s.result? k = some response → response.status = 200 →
        (∃ act ∈ s.block k, act.effect = .forget uid) ∧
          ∀ before ev after, s.past = before ++ ev :: after → ev.task = k →
            (∀ later ∈ after, ∀ run, later.act.effect = .run run → run.uid? ≠ some uid) →
            ∀ handle, Acts.RanFor s.acts handle uid → handle ∉ Acts.live s.acts := by
  intro s
  have h := System.Accounted.run (conducted site) (patient site) moves regular
  have placed : ∀ handle ∈ Acts.live s.acts, (∃ uid, Acts.RanFor s.acts handle uid) ∧
      ∀ uid, Acts.RanFor s.acts handle uid → handle ∈ s.noted uid ∨
        ∃ k, s.Creates purpose k uid ∧ ¬s.isOver k ∧ handle ∈ Acts.started (s.block k) := by
    intro handle live
    refine ⟨h.ranFor_of_live live, fun uid ran => ?_⟩
    rcases h.place_of_live regular.fresh ran live with noted | ⟨k, creates, owned⟩
    · exact .inl noted
    · exact .inr ⟨k, creates, h.not_over_of_owned creates owned,
        Acts.owned_sublist_started.subset owned⟩
  refine ⟨placed, h.handles_nodup regular.fresh, fun ended handle live => ?_, ?_⟩
  · obtain ⟨⟨uid, ran⟩, place⟩ := placed handle live
    refine ⟨uid, ran, (place uid ran).resolve_right ?_⟩
    rintro ⟨k, ⟨r, call, -⟩, going, -⟩
    exact going (ended k r call)
  · intro k request uid response call deleting result success
    refine ⟨forgot_of_deleted site moves call deleting result success, ?_⟩
    intro before ev after split own quiet
    exact h.none_live_of_deleted call deleting result success split own quiet

/-- Answers of files and of an engine that do what they are asked. -/
def obliging : (e : Effect) → e.Answer
  | .acquire _ | .release _ => ()
  | .lookup _ | .register _ _ | .forget _ => none
  | .file _ | .remove _ _ => .ok ()
  | .run request => .ok request.name
  | .inspect _ => .ok none
  | .logs _ _ => .ok []

/-- A request that creates a pod with one container, from its call to the end. -/
def creation : List (Move Request) :=
  let body := "[\x7b\"pod\": \x7b\"metadata\": " ++
    "\x7b\"name\": \"w\", \"namespace\": \"n\", \"uid\": \"u\"\x7d, " ++
    "\"spec\": \x7b\"containers\": [\x7b\"name\": \"a\", \"image\": \"i\"\x7d]\x7d\x7d\x7d]"
  [.call ⟨"POST", "/create", Utf8.ofString body⟩, .lock (.enter 0 "u"), .lock (.grant 0)] ++
    List.replicate 4 (.perform 0 obliging) ++ [.lock (.leave 0)]

/-- The request to start the container of this pod. -/
def creationRun : RunRequest where
  name := "a-u"
  image := "i"
  command := ""
  args := ""
  commandWords := []
  argWords := []
  env := []
  mounts := []
  labels := [(RunRequest.uidLabel, "u"), (RunRequest.nsLabel, "n")]

/-- A request that deletes this pod, from its call to the end. -/
def deletion : List (Move Request) :=
  [.call ⟨"POST", "/delete", Utf8.ofString "\x7b\"uid\": \"u\"\x7d"⟩, .lock (.enter 1 "u"),
    .lock (.grant 1)] ++ List.replicate 5 (.perform 1 obliging) ++ [.lock (.leave 1)]

theorem container_noted_until_deleted :
    let s := System.run (requests ⟨"/data", true⟩) creation
    let s' := System.run (requests ⟨"/data", true⟩) (creation ++ deletion)
    (Acts.live s.acts = ["a-u"] ∧ ∃ uid, Acts.RanFor s.acts "a-u" uid ∧ "a-u" ∈ s.noted uid) ∧
      (∃ act ∈ s'.block 1, act.effect = .forget "u") ∧ Acts.RanFor s'.acts "a-u" "u" ∧
        "a-u" ∉ Acts.live s'.acts := by
  intro s s'
  constructor
  · obtain ⟨regular, live, only, ended⟩ : Regular purpose s.past ∧ Acts.live s.acts = ["a-u"] ∧
        s.tasks.length = 1 ∧ s.isOver 0 = true := by decide +kernel
    have agree := runtime_tracker_agree ⟨"/data", true⟩ creation regular
    refine ⟨live, agree.2.2.1 (fun k r call => ?_) "a-u" ?_⟩
    · obtain ⟨t, task, -⟩ := Option.map_eq_some_iff.1 call
      have below : k < s.tasks.length := (List.getElem?_eq_some_iff.1 task).1
      rw [only, Nat.lt_one_iff] at below
      exact below ▸ ended
    · show "a-u" ∈ Acts.live s.acts
      rw [live]
      exact List.mem_singleton_self _
  · obtain ⟨regular, deleting, status, last, started, asked⟩ : Regular purpose s'.past ∧
        (s'.call? 1).map purpose = some (.delete "u") ∧
        (s'.result? 1).map (·.status) = some 200 ∧
        s'.past.getLast?.map (·.task) = some 1 ∧
        s'.acts[1]?.bind Act.started? = some "a-u" ∧
        s'.acts[1]?.map (·.effect) = some (.run creationRun) := by decide +kernel
    obtain ⟨request, call, deleting⟩ := Option.map_eq_some_iff.1 deleting
    obtain ⟨response, result, success⟩ := Option.map_eq_some_iff.1 status
    obtain ⟨ev, final, own⟩ := Option.map_eq_some_iff.1 last
    obtain ⟨before, split⟩ := List.getLast?_eq_some_iff.1 final
    have ran : Acts.RanFor s'.acts "a-u" "u" := by
      obtain ⟨a, second, started⟩ := Option.bind_eq_some_iff.1 started
      obtain ⟨run, rfl⟩ := Act.eq_run_of_started? started
      rw [second] at asked
      cases asked
      exact ⟨creationRun, rfl, List.mem_of_getElem? second⟩
    have agree := runtime_tracker_agree ⟨"/data", true⟩ (creation ++ deletion) regular
    obtain ⟨forgot, ended⟩ := agree.2.2.2 1 request "u" response call deleting result success
    refine ⟨forgot, ran, ended before ev [] split own ?_ "a-u" ran⟩
    intro later member
    exact absurd member List.not_mem_nil

end Http

end Podkeeper
