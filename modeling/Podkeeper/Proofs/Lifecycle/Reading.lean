import Podkeeper.Proofs.Lifecycle.Deleting

/-!
Reading.

Status and logs look up once what is noted of a uid, and ask the engine about its containers. A
status asks about each in order, up to the first that the engine says nothing about
(`Site.Reporting`), and what the engine says is always that a container runs or has ended. Logs are
those of one container: the first, or the one with the name that is asked for (`Site.Fetching`).
-/

namespace Podkeeper

open Program

/-! ### States -/

/-- The container runs or has ended. -/
def ContainerState.isSettled : ContainerState → Bool
  | .running _ | .terminated _ _ => true
  | .pending | .waiting _ _ => false

theorem ContainerState.isSettled_ofReport (report : Option Report) :
    (ofReport report).isSettled = true := by
  cases report with
  | none => rfl
  | some report =>
      rw [ofReport]
      split
      · rfl
      · split
        · rfl
        · rfl

/-- What is said about a container after a report. -/
def Tracked.statusAs (t : Tracked) (report : Option Report) : ContainerStatus :=
  ⟨t.name, .ofReport report⟩

/-- A container that the engine reported on. -/
def Act.inspected (handle : String) (report : Option Report) : Act := ⟨.inspect handle, .ok report⟩

/-- Whatever is reported, each container has its name and a settled state. -/
theorem Tracked.zipWith_statusAs {entry : List Tracked} {reports : List (Option Report)}
    (asked : reports.length = entry.length) :
    (List.zipWith statusAs entry reports).map (·.name) = entry.map (·.name) ∧
      ∀ c ∈ List.zipWith statusAs entry reports, c.state.isSettled = true := by
  constructor
  · induction entry generalizing reports with
    | nil => simp
    | cons t entry ih =>
        cases reports with
        | nil => cases asked
        | cons report reports =>
            rw [List.zipWith_cons_cons, List.map_cons, List.map_cons,
              ih (Nat.succ.inj asked)]
            rfl
  · intro c member
    obtain ⟨t, report, rfl⟩ := Acts.exists_of_mem_zipWith member
    exact ContainerState.isSettled_ofReport report

/-- What the engine answers to one effect is the result of the operation. -/
theorem Operation.yields_engine {α : Type} {p : Program (Except RuntimeFailure α)}
    {acts : List Act} {r : Except Failure α} :
    Yields (Operation.engine p).run acts r ↔
      ∃ a : Except RuntimeFailure α, r = a.mapError .runtime ∧ Yields p acts a := by
  change Yields (p >>= fun a => .done (a.mapError .runtime)) acts r ↔ _
  simp only [Program.yields_bind, yields_done]
  constructor
  · rintro ⟨first, a, rest, rfl, yields, rfl, rfl⟩
    exact ⟨a, rfl, by rwa [List.append_nil]⟩
  · rintro ⟨a, rfl, yields⟩
    exact ⟨acts, a, [], (List.append_nil _).symm, yields, rfl, rfl⟩

namespace Site

variable {acts : List Act}

/-! ### Status -/

/-- Containers are asked about in order, all of them or those up to the first that nothing is said
about. -/
theorem yields_states {ts : List Tracked} {r : Except Failure (List ContainerStatus)}
    (yields : Yields (states ts).run acts r) :
    (∃ reports, reports.length = ts.length ∧
      acts = List.zipWith Act.inspected (ts.map (·.handle)) reports ∧
      r = .ok (List.zipWith Tracked.statusAs ts reports)) ∨
    ∃ before t after reports e, ts = before ++ t :: after ∧ reports.length = before.length ∧
      acts = List.zipWith Act.inspected (before.map (·.handle)) reports ++
        [⟨.inspect t.handle, .error e⟩] ∧
      r = .error (.runtime e) := by
  induction ts generalizing acts r with
  | nil =>
      obtain ⟨rfl, rfl⟩ := Operation.yields_pure.1 yields
      exact .inl ⟨[], rfl, rfl, rfl⟩
  | cons t ts ih =>
      rcases Operation.yields_bind.1 yields with
        ⟨f, rfl, failed⟩ | ⟨first, report, rest, rfl, asked, next⟩
      · obtain ⟨a, same, told⟩ := Operation.yields_engine.1 failed
        cases a with
        | ok => cases same
        | error e =>
            cases same
            rw [yields_effect.1 told]
            exact .inr ⟨[], t, ts, [], e, rfl, rfl, rfl, rfl⟩
      · obtain ⟨a, same, told⟩ := Operation.yields_engine.1 asked
        cases a with
        | error => cases same
        | ok =>
            cases same
            rw [yields_effect.1 told]
            rcases Operation.yields_bind.1 next with
              ⟨f, rfl, others⟩ | ⟨_, statuses, last, rfl, others, ended⟩
            · rcases ih others with
                ⟨_, -, -, same⟩ | ⟨before, t', after, reports, e, rfl, length, rfl, same⟩
              · cases same
              · cases same
                exact .inr ⟨t :: before, t', after, report :: reports, e, rfl, by simp [length],
                  rfl, rfl⟩
            · obtain ⟨rfl, rfl⟩ := Operation.yields_pure.1 ended
              rcases ih others with ⟨reports, length, rfl, same⟩ | ⟨_, _, _, _, _, -, -, -, same⟩
              · cases same
                refine .inl ⟨report :: reports, by simp [length], ?_, rfl⟩
                rw [List.append_nil]
                rfl
              · cases same

/-- What the engine is asked for the status of a pod, after what is noted of its uid was looked up,
and what comes of it. -/
inductive Reporting (r : PodRef) :
    Option (List Tracked) → List Act → Except Failure PodStatus → Prop where
  | untracked : Reporting r none [] (.error (.notFound (.pod r.uid)))
  /-- The engine says nothing about a container. -/
  | failed (before : List Tracked) (t : Tracked) (after : List Tracked)
      (reports : List (Option Report)) (e : RuntimeFailure)
      (asked : reports.length = before.length) :
      Reporting r (some (before ++ t :: after))
        (List.zipWith Act.inspected (before.map (·.handle)) reports ++
          [⟨.inspect t.handle, .error e⟩])
        (.error (.runtime e))
  | reported (entry : List Tracked) (reports : List (Option Report))
      (asked : reports.length = entry.length) :
      Reporting r (some entry) (List.zipWith Act.inspected (entry.map (·.handle)) reports)
        (.ok ⟨r.name, r.uid, r.ns, List.zipWith Tracked.statusAs entry reports⟩)

/-- A status is one look-up and what is asked about what was found. -/
theorem yields_status {r : PodRef} {result : Except Failure PodStatus}
    (yields : Yields (status r).run acts result) :
    ∃ found rest, acts = ⟨.lookup r.uid, found⟩ :: rest ∧ Reporting r found rest result := by
  rcases Operation.yields_bind.1 yields with
    ⟨f, rfl, absent⟩ | ⟨first, entry, rest, rfl, found, next⟩
  · rcases yields_tracked absent with ⟨rfl, same⟩ | ⟨_, -, same⟩
    · cases same
      exact ⟨none, [], rfl, .untracked⟩
    · cases same
  rcases yields_tracked found with ⟨-, same⟩ | ⟨_, rfl, same⟩
  · cases same
  cases same
  refine ⟨some entry, rest, rfl, ?_⟩
  rcases Operation.yields_reply.1 next with ⟨r', rfl, asked⟩
  rcases yields_states asked with
    ⟨reports, length, rfl, rfl⟩ | ⟨before, t, after, reports, e, rfl, length, rfl, rfl⟩
  · exact .reported entry reports length
  · exact .failed before t after reports e length

/-- Where the tracker answers, it is its entry that is reported on. -/
theorem reporting_of_yields {r : PodRef} {t : Tracker} {result : Except Failure PodStatus}
    (yields : Yields (status r).run acts result) (told : t.Answers acts) :
    ∃ rest, acts = ⟨.lookup r.uid, t.lookup r.uid⟩ :: rest ∧
      Reporting r (t.lookup r.uid) rest result := by
  obtain ⟨found, rest, rfl, reporting⟩ := yields_status yields
  obtain rfl : found = t.lookup r.uid := told.1 _ rfl
  exact ⟨rest, rfl, reporting⟩

/-! ### Logs -/

/-- What the engine is asked for a log, after what is noted of its uid was looked up, and what
comes of it. -/
inductive Fetching (r : LogRequest) :
    Option (List Tracked) → List Act → Except Failure Bytes → Prop where
  | untracked : Fetching r none [] (.error (.notFound (.pod r.podUid)))
  /-- No container has the name. -/
  | unnamed (entry : List Tracked) (absent : chosen? entry r.containerName = none) :
      Fetching r (some entry) [] (.error (.notFound (.container r.containerName r.podUid)))
  /-- The log of one container is read. -/
  | read (entry : List Tracked) (t : Tracked) (chosen : chosen? entry r.containerName = some t)
      (answer : Except RuntimeFailure Bytes) :
      Fetching r (some entry) [⟨.logs t.handle r.options, answer⟩] (answer.mapError .runtime)

/-- Reading a log is one look-up and what is asked about what was found, unless its options are
refused. -/
theorem yields_logs {r : LogRequest} {result : Except Failure Bytes}
    (yields : Yields (logs r).run acts result) :
    (∃ c, r.options.check = .error c ∧ acts = [] ∧ result = .error (.invalid (.logOptions c))) ∨
      r.options.check = .ok () ∧
        ∃ found rest, acts = ⟨.lookup r.podUid, found⟩ :: rest ∧ Fetching r found rest result := by
  cases checked : r.options.check with
  | error c =>
      rcases Operation.yields_ofExcept_bind.1 yields with ⟨f, refused, rfl, rfl⟩ | ⟨_, passed, -⟩
      · rw [checked] at refused
        cases refused
        exact .inl ⟨c, rfl, rfl, rfl⟩
      · rw [checked] at passed
        cases passed
  | ok =>
      refine .inr ⟨rfl, ?_⟩
      rcases Operation.yields_ofExcept_bind.1 yields with ⟨f, refused, -, -⟩ | ⟨_, -, next⟩
      · rw [checked] at refused
        cases refused
      rcases Operation.yields_bind.1 next with
        ⟨f, rfl, absent⟩ | ⟨first, entry, rest, rfl, found, reading⟩
      · rcases yields_tracked absent with ⟨rfl, same⟩ | ⟨_, -, same⟩
        · cases same
          exact ⟨none, [], rfl, .untracked⟩
        · cases same
      rcases yields_tracked found with ⟨-, same⟩ | ⟨_, rfl, same⟩
      · cases same
      cases same
      refine ⟨some entry, rest, rfl, ?_⟩
      cases chosen : chosen? entry r.containerName with
      | none =>
          simp only [chosen] at reading
          obtain ⟨rfl, rfl⟩ := Operation.yields_throw.1 reading
          exact .unnamed entry chosen
      | some t =>
          simp only [chosen] at reading
          obtain ⟨answer, rfl, asked⟩ := Operation.yields_engine.1 reading
          rw [yields_effect.1 asked]
          exact .read entry t chosen answer

theorem fetching_of_yields {r : LogRequest} {t : Tracker} {result : Except Failure Bytes}
    (valid : r.options.check = .ok ()) (yields : Yields (logs r).run acts result)
    (told : t.Answers acts) :
    ∃ rest, acts = ⟨.lookup r.podUid, t.lookup r.podUid⟩ :: rest ∧
      Fetching r (t.lookup r.podUid) rest result := by
  rcases yields_logs yields with ⟨c, refused, -, -⟩ | ⟨-, found, rest, rfl, fetching⟩
  · cases valid.symm.trans refused
  · obtain rfl : found = t.lookup r.podUid := told.1 _ rfl
    exact ⟨rest, rfl, fetching⟩

/-! ### Choosing a container -/

variable {entry : List Tracked} {name : String} {t : Tracked}

theorem chosen?_empty : chosen? entry "" = entry.head? := if_pos rfl

/-- Only a name can be unknown, where there is a container at all. -/
theorem chosen?_eq_none_iff (some_noted : entry ≠ []) :
    chosen? entry name = none ↔ name ≠ "" ∧ name ∉ entry.map (·.name) := by
  rw [chosen?]
  split
  · rename_i empty
    simp [empty, some_noted]
  · rename_i given
    simp [given, List.find?_eq_none]

/-- Where no two containers have one name, the one with the name is meant. -/
theorem chosen?_eq_some_iff (distinct : (entry.map (·.name)).Nodup) (given : name ≠ "") :
    chosen? entry name = some t ↔ t ∈ entry ∧ t.name = name := by
  rw [chosen?, if_neg given]
  constructor
  · intro found
    exact ⟨List.mem_of_find?_eq_some found, by simpa using List.find?_some found⟩
  · rintro ⟨member, rfl⟩
    cases found : entry.find? fun other => other.name == t.name with
    | none => simpa using List.find?_eq_none.1 found t member
    | some other =>
        have same : other.name = t.name := by simpa using List.find?_some found
        have once := List.inj_on_of_nodup_map distinct
        rw [once (List.mem_of_find?_eq_some found) member same]

/-! ### Reading an entry -/

/-- A status of an entry fails only where the engine says nothing about one of its containers.
Otherwise it says of each, in order, that it runs or has ended, and repeats the reference. -/
theorem Reporting.of_some {r : PodRef} {result : Except Failure PodStatus}
    (h : Reporting r (some entry) acts result) :
    (∃ t ∈ entry, ∃ e, (⟨.inspect t.handle, .error e⟩ : Act) ∈ acts ∧
      result = .error (.runtime e)) ∨
    ∃ containers, result = .ok ⟨r.name, r.uid, r.ns, containers⟩ ∧
      containers.map (·.name) = entry.map (·.name) ∧
        ∀ c ∈ containers, c.state.isSettled = true := by
  cases h with
  | failed before t after reports e => exact .inl ⟨t, by simp, e, by simp, rfl⟩
  | reported entry reports asked => exact .inr ⟨_, rfl, Tracked.zipWith_statusAs asked⟩

/-- The log of a container is all that is asked for, and what is answered is the result. -/
def LogOf (r : LogRequest) (t : Tracked) (acts : List Act) (result : Except Failure Bytes) : Prop :=
  ∃ answer : Except RuntimeFailure Bytes, acts = [⟨.logs t.handle r.options, answer⟩] ∧
    result = answer.mapError .runtime

theorem LogOf.ne_notFound {r : LogRequest} {result : Except Failure Bytes}
    (h : LogOf r t acts result) (absence : Absence) : result ≠ .error (.notFound absence) := by
  obtain ⟨answer, -, rfl⟩ := h
  cases answer with
  | ok => exact nofun
  | error => exact nofun

/-- Of an entry whose containers have names of their own, the log of the first is read where no
name is given, and otherwise that of the one with the name. Nothing is found exactly if there is no
such container. -/
theorem Fetching.of_some {r : LogRequest} {result : Except Failure Bytes}
    (h : Fetching r (some entry) acts result) (some_noted : entry ≠ [])
    (distinct : (entry.map (·.name)).Nodup) :
    (r.containerName = "" → ∃ t, entry.head? = some t ∧ LogOf r t acts result) ∧
    (r.containerName ≠ "" → ∀ t ∈ entry, t.name = r.containerName →
      (∀ other ∈ entry, other.name = r.containerName → other = t) ∧ LogOf r t acts result) ∧
    ((∃ absence, result = .error (.notFound absence)) ↔
      r.containerName ≠ "" ∧ r.containerName ∉ entry.map (·.name)) := by
  have alone (t : Tracked) (member : t ∈ entry) (named : t.name = r.containerName) :
      ∀ other ∈ entry, other.name = r.containerName → other = t := fun other among same =>
    List.inj_on_of_nodup_map distinct among member (same.trans named.symm)
  cases h with
  | unnamed entry absent =>
      obtain ⟨given, unknown⟩ := (chosen?_eq_none_iff some_noted).1 absent
      refine ⟨fun empty => absurd empty given, fun _ t member named => ?_, ?_⟩
      · exact absurd (List.mem_map.2 ⟨t, member, named⟩) unknown
      · exact iff_of_true ⟨_, rfl⟩ ⟨given, unknown⟩
  | read entry t chosen answer =>
      have log : LogOf r t [⟨.logs t.handle r.options, answer⟩] (answer.mapError .runtime) :=
        ⟨answer, rfl, rfl⟩
      refine ⟨fun empty => ⟨t, ?_, log⟩, fun given t' member named => ⟨alone t' member named, ?_⟩,
        ?_⟩
      · rwa [empty, chosen?_empty] at chosen
      · obtain ⟨among, same⟩ := (chosen?_eq_some_iff distinct given).1 chosen
        rwa [← alone t' member named t among same]
      · refine iff_of_false ?_ fun unknown => ?_
        · rintro ⟨absence, missing⟩
          exact log.ne_notFound absence missing
        rw [(chosen?_eq_none_iff some_noted).2 unknown] at chosen
        cases chosen

end Site

end Podkeeper
