import Podkeeper.Proofs.Lifecycle.Creating
import Podkeeper.Proofs.Pods.ContainerNames

/-!
What is noted of a pod.

A create notes its containers only when all of them run, and after that it does nothing but give
the lock back (`Site.exists_provisioned`). So an entry is never without containers, no two of them
have one name, and each is there with the handle that starting it gave (`Site.Provisioned`).
-/

namespace Podkeeper

namespace Site

open Program

variable {site : Site} {request : CreateRequest} {acts : List Act} {entry : List Tracked}

/-- The entry has the containers that are started of a pod, in order, with the handles that the
engine gave, and the engine was asked nothing else. -/
structure Provisioned (site : Site) (request : CreateRequest) (acts : List Act)
    (entry : List Tracked) : Prop where
  admitted : request.pod.check = .ok ()
  names : entry.map (·.name) = (site.provisioned request.pod).map (·.name)
  started : ∃ requests,
    (site.provisioned request.pod).map (RunRequest.build request.pod request.bundles) =
      requests.map .ok ∧
    Acts.engine acts = List.zipWith Act.ran requests (entry.map (·.handle))

/-! ### Containers of an entry -/

theorem provisioned_sublist (site : Site) (p : Pod) :
    (site.provisioned p).Sublist p.spec.containers := by
  rw [provisioned]
  split
  · exact List.Sublist.refl _
  · exact List.take_sublist 1 _

/-- Of an admitted pod no two containers that are started have one name. -/
theorem nodup_of_check (site : Site) {p : Pod} (admitted : p.check = .ok ()) :
    ((site.provisioned p).map (·.name)).Nodup := by
  simp only [Pod.check, Verdict.bind_eq_ok, checkDistinct_eq_ok] at admitted
  obtain ⟨-, -, -, -, -, ⟨-, distinct, -⟩, -⟩ := admitted
  rw [List.map_append, List.nodup_append] at distinct
  exact distinct.2.1.sublist ((site.provisioned_sublist p).map _)

namespace Provisioned

theorem ne_nil (h : Provisioned site request acts entry) : entry ≠ [] := by
  obtain ⟨c, cs, -, first, -⟩ := chosen_of_check site h.admitted
  rintro rfl
  have names := h.names
  rw [first] at names
  cases names

theorem nodup (h : Provisioned site request acts entry) : (entry.map (·.name)).Nodup :=
  h.names ▸ site.nodup_of_check h.admitted

/-- Each container of an entry was run under its name and the uid. -/
theorem exists_run (h : Provisioned site request acts entry) {t : Tracked} (member : t ∈ entry) :
    ∃ run, run.name = t.name ++ "-" ++ request.pod.uid ∧ Act.ran run t.handle ∈ acts := by
  obtain ⟨requests, built, asked⟩ := h.started
  obtain ⟨i, bound, rfl⟩ := List.mem_iff_getElem.1 member
  have names := h.names
  have chosen : (site.provisioned request.pod).length = entry.length := by
    simpa using (congrArg List.length names).symm
  have length : requests.length = entry.length := by
    rw [← chosen]
    simpa using (congrArg List.length built).symm
  have runs : i < requests.length := length ▸ bound
  refine ⟨requests[i], ?_, ?_⟩
  · have started : RunRequest.build request.pod request.bundles (site.provisioned request.pod)[i] =
        .ok requests[i] := by
      have each := List.getElem_of_eq built (i := i) (by simpa [chosen] using bound)
      simpa using each
    have name : entry[i].name = (site.provisioned request.pod)[i].name := by
      have each := List.getElem_of_eq names (i := i) (by simpa using bound)
      simpa using each
    rw [RunRequest.name_of_build started, name]
  · have among : Act.ran requests[i] entry[i].handle ∈ Acts.engine acts := by
      rw [asked]
      refine List.mem_iff_getElem.2 ⟨i, by simpa [length] using bound, ?_⟩
      simp
    exact List.mem_of_mem_filter among

end Provisioned

/-! ### Noting -/

/-- A create that succeeds notes what it started, and then gives the lock back. -/
theorem exists_provisioned (yields : Yields (site.create request).run acts (.ok ())) :
    ∃ front entry prior,
      acts = front ++
        [⟨.register request.pod.uid entry, prior⟩, ⟨.release request.pod.uid, ()⟩] ∧
      (∀ a ∈ front, a.effect.writes? = none) ∧ Provisioned site request front entry := by
  rcases yields_create yields with ⟨_, -, -, failed⟩ | ⟨inner, admitted, rfl, attempt⟩
  · cases failed
  cases attempt with
  | created requests handles prior free built ran =>
      obtain ⟨names, each⟩ := runRequests_eq_ok built
      let entry := List.zipWith Tracked.mk (requests.map (·.1)) handles
      have listed : entry.map (·.name) = requests.map (·.1) ∧ entry.map (·.handle) = handles := by
        simp only [entry, ← List.map_uncurry_zip_eq_zipWith, List.map_map]
        exact ⟨List.map_fst_zip (by simp [ran]), List.map_snd_zip (by simp [ran])⟩
      refine ⟨⟨.acquire request.pod.uid, ()⟩ ::
        ((request.pod.filePlan request.bundles).ops.map Act.filed ++
          List.zipWith Act.ran (requests.map (·.2)) handles), entry, prior, ?_,
        List.forall_mem_cons.2 ⟨rfl, fun a member => ?_⟩, admitted, listed.1.trans names, ?_⟩
      · simp [Acts.underLock, entry]
      · rcases List.mem_append.1 member with filed | started
        · exact (Acts.passing_filed a filed).unwritten
        · exact (Acts.passing_ran a started).unwritten
      · refine ⟨requests.map (·.2), ?_, ?_⟩
        · rw [each, List.map_map]
          rfl
        · rw [listed.2]
          change Acts.engine (_ ++ _) = _
          rw [Acts.engine_append, Acts.engine_filed, Acts.engine_ran, List.nil_append]

/-- What a create that succeeds leaves noted, whatever was noted before. -/
theorem exists_entry (yields : Yields (site.create request).run acts (.ok ())) :
    ∃ entry, Provisioned site request acts entry ∧
      ∀ t : Tracker, (t.afterAll acts).lookup request.pod.uid = some entry := by
  obtain ⟨front, entry, prior, rfl, unwritten, admitted, names, requests, built, asked⟩ :=
    exists_provisioned yields
  refine ⟨entry, ⟨admitted, names, requests, built, ?_⟩, fun t => ?_⟩
  · rw [Acts.engine_append, asked]
    exact List.append_nil _
  · rw [Tracker.afterAll_append, Tracker.afterAll_of_unwritten unwritten]
    change (t.register request.pod.uid entry).lookup request.pod.uid = some entry
    rw [Tracker.lookup_register, if_pos rfl]

/-- A create that fails notes nothing. -/
theorem unwritten_of_yields_error {f : Failure}
    (yields : Yields (site.create request).run acts (.error f)) :
    ∀ a ∈ acts, a.effect.writes? = none := by
  rcases yields_create yields with ⟨_, -, rfl, -⟩ | ⟨inner, -, rfl, attempt⟩
  · simp
  · intro a member
    rcases List.mem_cons.1 member with rfl | member
    · rfl
    · rcases List.mem_append.1 member with inside | last
      · exact attempt.unwritten_of_error a inside
      · rw [List.mem_singleton.1 last]
        rfl

/-- What a create notes is what it started before. -/
theorem provisioned_of_register {r : Except Failure Unit} {front back : List Act} {uid : String}
    {prior : Option (List Tracked)}
    (yields : Yields (site.create request).run
      (front ++ ⟨.register uid entry, prior⟩ :: back) r) :
    uid = request.pod.uid ∧ Provisioned site request front entry := by
  have noting : (⟨.register uid entry, prior⟩ : Act) ∈
      front ++ ⟨.register uid entry, prior⟩ :: back := by simp
  obtain rfl : r = .ok () := by
    cases r with
    | ok => rfl
    | error f => cases unwritten_of_yields_error yields _ noting
  obtain ⟨front', entry', prior', split, unwritten, provisioned⟩ := exists_provisioned yields
  have at_once (same : front = front') :
      uid = request.pod.uid ∧ Provisioned site request front entry := by
    subst same
    cases List.append_cancel_left split
    exact ⟨rfl, provisioned⟩
  -- before it nothing is noted, and behind it only the lock is given back
  rcases List.append_eq_append_iff.1 split with ⟨more, longer, tail⟩ | ⟨more, longer, tail⟩
  · cases more with
    | nil => exact at_once (by simpa using longer.symm)
    | cons a more =>
        cases tail
        cases unwritten ⟨.register uid entry, prior⟩ (by simp [longer])
  · cases more with
    | nil => exact at_once (by simpa using longer)
    | cons a more =>
        have last := (List.cons.inj tail).2
        cases more with
        | nil => cases last
        | cons => simp at last

end Site

end Podkeeper
