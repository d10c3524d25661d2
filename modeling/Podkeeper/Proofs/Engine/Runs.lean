import Mathlib.Data.List.Basic
import Mathlib.Order.BooleanAlgebra.Set
import Podkeeper.Proofs.Engine.Exchanges

/-!
Running a container.

A run asks for up to five things, and each of them may fail. The ways in which it can go are few
(`Running`): there is no image, the container is not made, it is made and does not start, or it
runs. Only a container that does not start is there when the run fails, and it is removed; so
whatever the engine answers, a run that fails leaves the containers of the engine as they were,
unless that removal fails, too (`Engine.run_leaves_nothing`).
-/

namespace Podkeeper.Engine

/-- The question asks for the removal of a container. -/
def Ask.isRemoval : Ask → Bool
  | .remove _ _ _ => true
  | _ => false

/-! ### The ways of a run -/

/-- What is exchanged to see to an image, and what comes of it. -/
inductive Fetching (image : String) : List Exchange → Except EngineFault Unit → Prop where
  | found : Fetching image [⟨.findImage image, .ok ()⟩] (.ok ())
  | pulled (fault : EngineFault) (progress : Stream Unit) :
      Fetching image [⟨.findImage image, .error fault⟩, ⟨.pullImage image, progress⟩]
        progress.outcome

/-- What is exchanged to run a container, and what comes of it. -/
inductive Running (root : String) (r : RunRequest) :
    List Exchange → Except RuntimeFailure String → Prop where
  | imageless (fetching : List Exchange) (fault : EngineFault)
      (fetched : Fetching r.image fetching (.error fault)) :
      Running root r fetching (.error (.engine fault))
  | uncreated (fetching : List Exchange) (fault : EngineFault)
      (fetched : Fetching r.image fetching (.ok ())) :
      Running root r (fetching ++ [⟨.create r.name (.ofRequest root r), .error fault⟩])
        (.error (.engine fault))
  | unstarted (fetching : List Exchange) (id : String) (fault : EngineFault)
      (answer : Except EngineFault Unit) (fetched : Fetching r.image fetching (.ok ())) :
      Running root r
        (fetching ++ [⟨.create r.name (.ofRequest root r), .ok id⟩, ⟨.start id, .error fault⟩,
          ⟨.remove id true false, answer⟩])
        (.error (.notStarted id fault))
  | started (fetching : List Exchange) (id : String)
      (fetched : Fetching r.image fetching (.ok ())) :
      Running root r
        (fetching ++ [⟨.create r.name (.ofRequest root r), .ok id⟩, ⟨.start id, .ok ()⟩])
        (.ok id)

variable {σ : Type} {engine : Partner σ} {s : σ}

/-- An image is looked for, and pulled unless it is found. -/
theorem fetching_ensureImage (engine : Partner σ) (s : σ) (image : String) :
    ∃ outcome, Fetching image ((ensureImage image).exchanges engine s) outcome ∧
      (ensureImage image).result engine s = outcome.mapError .engine := by
  rw [ensureImage, Attempt.exchanges_ask_bind, Attempt.result_ask_bind]
  obtain ⟨answer, s⟩ := engine (.findImage image) s
  cases answer with
  | ok => exact ⟨.ok (), .found, rfl⟩
  | error fault => exact ⟨_, .pulled fault (engine (.pullImage image) s).1, rfl⟩

/-- Every run goes in one of these ways. -/
theorem running_run (root : String) (r : RunRequest) (engine : Partner σ) (s : σ) :
    Running root r ((run root r).exchanges engine s) ((run root r).result engine s) := by
  obtain ⟨outcome, fetched, result⟩ := fetching_ensureImage engine s r.image
  cases outcome with
  | error fault =>
      rw [run, Attempt.exchanges_bind_of_error result, Attempt.result_bind_of_error result]
      exact .imageless _ fault fetched
  | ok =>
      rw [run, Attempt.exchanges_bind_of_ok result, Attempt.result_bind_of_ok result,
        Attempt.exchanges_ask_bind, Attempt.result_ask_bind]
      obtain ⟨created, s'⟩ := engine (.create r.name (.ofRequest root r))
        ((ensureImage r.image).after engine s)
      cases created with
      | error fault => exact .uncreated _ fault fetched
      | ok id =>
          dsimp only
          rw [Attempt.ofAnswer_ok_bind, Attempt.exchanges_ask_bind, Attempt.result_ask_bind]
          obtain ⟨answer, s''⟩ := engine (.start id) s'
          cases answer with
          | ok => exact .started _ id fetched
          | error fault =>
              exact .unstarted _ id fault (engine (.remove id true false) s'').1 fetched

/-! ### What is asked in a run -/

/-- What a run owes to whoever asked for it. -/
structure Honoured (root : String) (r : RunRequest) (exchanges : List Exchange)
    (result : Except RuntimeFailure String) : Prop where
  /-- Only the container of the request is made, and only after its image was found or pulled
  without a fault. -/
  imaged : ∀ before name creation answer after,
    exchanges = before ++ ⟨.create name creation, answer⟩ :: after →
      name = r.name ∧ creation = .ofRequest root r ∧
        (⟨.findImage r.image, .ok ()⟩ ∈ before ∨
          ∃ progress, ⟨.pullImage r.image, progress⟩ ∈ before ∧ progress.outcome = .ok ())
  succeeds : ∀ id, result = .ok id ↔
    ⟨.create r.name (.ofRequest root r), .ok id⟩ ∈ exchanges ∧ ⟨.start id, .ok ()⟩ ∈ exchanges
  kept : ∀ id, result = .ok id → ∀ e ∈ exchanges, e.ask.isRemoval = false
  /-- A container that does not start is removed by force, once and last of all, and the run fails
  because it did not start, whatever comes of the removal. -/
  removed : ∀ id fault, ⟨.create r.name (.ofRequest root r), .ok id⟩ ∈ exchanges →
    ⟨.start id, .error fault⟩ ∈ exchanges →
      result = .error (.notStarted id fault) ∧
        ∃ before answer,
          exchanges = before ++ [⟨.start id, .error fault⟩, ⟨.remove id true false, answer⟩] ∧
          ∀ e ∈ before, e.ask.isRemoval = false
  /-- Any other run that fails has made no container. -/
  uncreated : ∀ f, result = .error f → (∀ id fault, ⟨.start id, .error fault⟩ ∉ exchanges) →
    ∀ name creation id, ⟨.create name creation, .ok id⟩ ∉ exchanges

namespace Fetching

variable {image : String} {fetching rest : List Exchange} {outcome : Except EngineFault Unit}

/-- Nothing else is asked while an image is seen to. -/
theorem notMem (fetched : Fetching image fetching outcome) {e : Exchange}
    (found : e.ask ≠ .findImage image) (pulled : e.ask ≠ .pullImage image) : e ∉ fetching := by
  intro member
  cases fetched with
  | found =>
      rw [List.mem_singleton.1 member] at found
      exact found rfl
  | pulled fault progress =>
      rcases List.mem_cons.1 member with rfl | member
      · exact found rfl
      · rw [List.mem_singleton.1 member] at pulled
        exact pulled rfl

theorem create_notMem (fetched : Fetching image fetching outcome) {name : String}
    {creation : Creation} {answer : Except EngineFault String} :
    ⟨.create name creation, answer⟩ ∉ fetching :=
  fetched.notMem (by simp) (by simp)

theorem start_notMem (fetched : Fetching image fetching outcome) {id : String}
    {answer : Except EngineFault Unit} : ⟨.start id, answer⟩ ∉ fetching :=
  fetched.notMem (by simp) (by simp)

theorem isRemoval_of_mem (fetched : Fetching image fetching outcome) :
    ∀ e ∈ fetching, e.ask.isRemoval = false := by
  cases fetched <;> simp [Ask.isRemoval]

/-- An image that is there was found, or pulled without a fault. -/
theorem there (fetched : Fetching image fetching (.ok ())) :
    ⟨.findImage image, .ok ()⟩ ∈ fetching ∨
      ∃ progress, ⟨.pullImage image, progress⟩ ∈ fetching ∧ progress.outcome = .ok () := by
  generalize same : Except.ok () = outcome at fetched
  cases fetched with
  | found => exact .inl (List.mem_singleton_self _)
  | pulled fault progress => exact .inr ⟨progress, by simp, rfl⟩

/-- What is made after an image was seen to is the container of the request, and nothing else. -/
theorem imaged {root : String} {r : RunRequest} {made answer : Except EngineFault String}
    {before after : List Exchange} {name : String} {creation : Creation}
    (fetched : Fetching r.image fetching (.ok ()))
    (lone : ∀ name creation answer, ⟨.create name creation, answer⟩ ∉ rest)
    (split : fetching ++ ⟨.create r.name (.ofRequest root r), made⟩ :: rest =
      before ++ ⟨.create name creation, answer⟩ :: after) :
    name = r.name ∧ creation = .ofRequest root r ∧
      (⟨.findImage r.image, .ok ()⟩ ∈ before ∨
        ∃ progress, ⟨.pullImage r.image, progress⟩ ∈ before ∧ progress.outcome = .ok ()) := by
  obtain ⟨rfl, same, rfl⟩ :=
    (List.append_cons_inj_of_notMem fetched.create_notMem (lone name creation answer)).1 split
  cases same
  exact ⟨rfl, rfl, fetched.there⟩

end Fetching

namespace Running

variable {root : String} {r : RunRequest} {exchanges : List Exchange}
  {result : Except RuntimeFailure String}

theorem honoured (h : Running root r exchanges result) : Honoured root r exchanges result := by
  cases h with
  | imageless _ fault fetched =>
      have unmade := @fetched.create_notMem
      refine { imaged := ?_, succeeds := ?_, kept := ?_, removed := ?_, uncreated := ?_ }
      · rintro before name creation answer after rfl
        exact absurd (List.mem_append_right _ List.mem_cons_self) unmade
      · simp [unmade]
      · simp
      · simp [unmade]
      · simp [unmade]
  | uncreated fetching fault fetched =>
      have unmade := @fetched.create_notMem
      refine { imaged := ?_, succeeds := ?_, kept := ?_, removed := ?_, uncreated := ?_ }
      · intro before name creation answer after split
        exact fetched.imaged (by simp) split
      · simp [unmade]
      · simp
      · simp [unmade]
      · simp [unmade]
  | unstarted fetching id fault answer fetched =>
      have unmade := @fetched.create_notMem
      have unstarted := @fetched.start_notMem
      refine { imaged := ?_, succeeds := ?_, kept := ?_, removed := ?_, uncreated := ?_ }
      · intro before name creation answer after split
        exact fetched.imaged (by simp) split
      · simp [unmade, unstarted]
      · simp
      · intro id' fault' made failed
        have same : id' = id ∧ fault' = fault := by
          simpa [unmade, unstarted] using failed
        obtain ⟨rfl, rfl⟩ := same
        refine ⟨rfl, fetching ++ [⟨.create r.name (.ofRequest root r), .ok id'⟩], answer,
          by simp, ?_⟩
        exact List.forall_mem_append.2 ⟨fetched.isRemoval_of_mem, by simp [Ask.isRemoval]⟩
      · simp [unmade, unstarted]
  | started fetching id fetched =>
      have unmade := @fetched.create_notMem
      have unstarted := @fetched.start_notMem
      refine { imaged := ?_, succeeds := ?_, kept := ?_, removed := ?_, uncreated := ?_ }
      · intro before name creation answer after split
        exact fetched.imaged (by simp) split
      · simp [unmade, unstarted, eq_comm]
      · intro _ _
        exact List.forall_mem_append.2 ⟨fetched.isRemoval_of_mem, by simp [Ask.isRemoval]⟩
      · simp [unmade, unstarted]
      · simp [unmade, unstarted]

end Running

/-! ### The containers of an engine -/

/-- What an exchange does to the containers of an engine, as its answer says: a container that is
made is a new one, and one that is removed is gone. A removal that fails may have removed it. -/
def Exchange.Alters : Exchange → Set String → Set String → Prop
  | ⟨.create _ _, .ok id⟩, before, after => id ∉ before ∧ after = insert id before
  | ⟨.remove id _ _, .ok ()⟩, before, after => after = before \ {id}
  | ⟨.remove id _ _, .error _⟩, before, after => after = before ∨ after = before \ {id}
  | _, before, after => after = before

/-- The containers of an engine are as its answers say. -/
def Partner.Truthful (engine : Partner σ) (containers : σ → Set String) : Prop :=
  ∀ a s, Exchange.Alters ⟨a, (engine a s).1⟩ (containers s) (containers (engine a s).2)

/-- What exchanges do to the containers of an engine one after the other. -/
def Altered : List Exchange → Set String → Set String → Prop
  | [], before, after => after = before
  | e :: exchanges, before, after =>
    ∃ between, e.Alters before between ∧ Altered exchanges between after

theorem altered_append {exchanges exchanges' : List Exchange} {before after : Set String} :
    Altered (exchanges ++ exchanges') before after ↔
      ∃ between, Altered exchanges before between ∧ Altered exchanges' between after := by
  induction exchanges generalizing before with
  | nil => simp [Altered]
  | cons e exchanges ih =>
      simp only [List.cons_append, Altered, ih]
      constructor
      · rintro ⟨first, altered, between, rest, rest'⟩
        exact ⟨between, ⟨first, altered, rest⟩, rest'⟩
      · rintro ⟨between, ⟨first, altered, rest⟩, rest'⟩
        exact ⟨first, altered, between, rest, rest'⟩

/-- What a dialogue does to the containers of an engine is what its exchanges do. -/
theorem Dialogue.altered {α : Type} {containers : σ → Set String}
    (truthful : engine.Truthful containers) (d : Dialogue α) (s : σ) :
    Altered (d.exchanges engine s) (containers s) (containers (d.runWith engine s).2) := by
  induction d generalizing s with
  | done a => rfl
  | perform a next ih => exact ⟨_, truthful a s, ih _ _⟩

/-- What a run leaves of the containers that were there before it. -/
structure Left (exchanges : List Exchange) (result : Except RuntimeFailure String)
    (before after : Set String) : Prop where
  started : ∀ id, result = .ok id → id ∉ before ∧ after = insert id before
  failed : ∀ f, result = .error f →
    (∀ id force volumes fault, ⟨.remove id force volumes, .error fault⟩ ∉ exchanges) →
      after = before
  /-- If the removal fails, too, then the container that did not start may be left, and no other. -/
  unremoved : ∀ f, result = .error f → after = before ∨
    ∃ id fault, f = .notStarted id fault ∧ id ∉ before ∧ after = insert id before

theorem Left.of_eq {exchanges : List Exchange} {f : RuntimeFailure} {before after : Set String}
    (kept : after = before) : Left exchanges (.error f) before after where
  started := by simp
  failed := fun _ _ _ => kept
  unremoved := fun _ _ => .inl kept

/-- To see to an image does nothing to the containers. -/
theorem Fetching.keeps {image : String} {fetching : List Exchange}
    {outcome : Except EngineFault Unit} {before after : Set String}
    (fetched : Fetching image fetching outcome) (altered : Altered fetching before after) :
    after = before := by
  cases fetched with
  | found =>
      obtain ⟨_, rfl, rfl⟩ := altered
      rfl
  | pulled fault progress =>
      obtain ⟨_, rfl, _, rfl, rfl⟩ := altered
      rfl

theorem Running.left {root : String} {r : RunRequest} {exchanges : List Exchange}
    {result : Except RuntimeFailure String} {before after : Set String}
    (h : Running root r exchanges result) (altered : Altered exchanges before after) :
    Left exchanges result before after := by
  cases h with
  | imageless _ fault fetched =>
      exact .of_eq (fetched.keeps altered)
  | uncreated fetching fault fetched =>
      obtain ⟨_, fetching', _, rfl, rfl⟩ := altered_append.1 altered
      exact .of_eq (fetched.keeps fetching')
  | unstarted fetching id fault answer fetched =>
      obtain ⟨held, fetching', _, ⟨new, rfl⟩, _, rfl, _, removal, rfl⟩ := altered_append.1 altered
      obtain rfl : before = held := (fetched.keeps fetching').symm
      have removed : insert id before \ {id} = before := Set.insert_sdiff_self_of_notMem new
      cases answer with
      | ok => exact .of_eq (removal.trans removed)
      | error fault' =>
          refine { started := by simp, failed := ?_, unremoved := ?_ }
          · intro _ _ removals
            exact absurd (by simp) (removals id true false fault')
          · rintro _ ⟨⟩
            rcases removal with left | gone
            · exact .inr ⟨id, fault, rfl, new, left⟩
            · exact .inl (gone.trans removed)
  | started fetching id fetched =>
      obtain ⟨held, fetching', _, ⟨new, rfl⟩, _, rfl, rfl⟩ := altered_append.1 altered
      obtain rfl : before = held := (fetched.keeps fetching').symm
      refine { started := ?_, failed := by simp, unremoved := by simp }
      rintro _ ⟨⟩
      exact ⟨new, rfl⟩

/-- Whatever an engine answers, a run looks for the image, pulls it unless it is found, makes the
container of its request once the image is there, and starts it; it makes no other container, and
succeeds if and only if that one is made and starts; and if it fails then every container that it
made was removed, so that the containers of the engine are those that were there before, unless the
removal failed, too. -/
theorem run_leaves_nothing (root : String) (r : RunRequest) (engine : Partner σ) (s : σ) :
    Running root r ((run root r).exchanges engine s) ((run root r).result engine s) ∧
    Honoured root r ((run root r).exchanges engine s) ((run root r).result engine s) ∧
    ∀ containers : σ → Set String, engine.Truthful containers →
      Left ((run root r).exchanges engine s) ((run root r).result engine s) (containers s)
        (containers ((run root r).after engine s)) := by
  have running := running_run root r engine s
  refine ⟨running, running.honoured, ?_⟩
  intro containers truthful
  exact running.left (Dialogue.altered truthful _ s)

/-- An engine that has to pull every image, makes one container and never starts it. -/
def faltering : Partner (List String)
  | .ping, held => (.ok (), held)
  | .findImage _, held => (.error (.answered 404 "no such image"), held)
  | .pullImage _, held => ([.ok ()], held)
  | .create _ _, held =>
    if "c1" ∈ held then (.error (.answered 409 "the name is in use"), held)
    else (.ok "c1", "c1" :: held)
  | .start _, held => (.error (.answered 500 "exec format error"), held)
  | .remove id _ _, held => (.ok (), held.filter (· ≠ id))
  | .inspect _, held => (.error .broken, held)
  | .readLog _ _, held => ([], held)

theorem faltering_truthful : faltering.Truthful fun held => {id | id ∈ held} := by
  intro a held
  cases a with
  | create name creation =>
      rw [faltering]
      split_ifs with present
      · exact rfl
      · exact ⟨present, by ext id; simp⟩
  | remove id force volumes =>
      change {id' | id' ∈ held.filter (· ≠ id)} = {id' | id' ∈ held} \ {id}
      ext id'
      simp
  | _ => exact rfl

def plainServer : RunRequest where
  name := "web-nginx"
  image := "nginx"
  command := ""
  args := ""
  commandWords := []
  argWords := []
  env := []
  mounts := []
  labels := []

theorem faltering_run_leaves_nothing :
    (run "/srv/data" plainServer).result faltering ["c0"] =
      .error (.notStarted "c1" (.answered 500 "exec format error")) ∧
    {id | id ∈ (run "/srv/data" plainServer).after faltering ["c0"]} = {id | id ∈ ["c0"]} := by
  have failed : (run "/srv/data" plainServer).result faltering ["c0"] =
      .error (.notStarted "c1" (.answered 500 "exec format error")) := rfl
  have exchanged : (run "/srv/data" plainServer).exchanges faltering ["c0"] = [
      ⟨.findImage "nginx", .error (.answered 404 "no such image")⟩,
      ⟨.pullImage "nginx", [.ok ()]⟩,
      ⟨.create "web-nginx" (.ofRequest "/srv/data" plainServer), .ok "c1"⟩,
      ⟨.start "c1", .error (.answered 500 "exec format error")⟩,
      ⟨.remove "c1" true false, .ok ()⟩] := rfl
  have left :=
    (run_leaves_nothing "/srv/data" plainServer faltering ["c0"]).2.2 _ faltering_truthful
  refine ⟨failed, left.failed _ failed ?_⟩
  simp [exchanged]

end Podkeeper.Engine
