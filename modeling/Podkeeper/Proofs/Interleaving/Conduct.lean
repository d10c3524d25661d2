import Podkeeper.Lifecycle.Operations
import Podkeeper.Proofs.Interleaving.System
import Podkeeper.Proofs.Outcomes

/-!
How operations conduct themselves.

Rules say what a program may perform after the acts that it has performed. A program keeps them if
it does so whatever it is answered, so that a program that keeps its rules keeps them among others
who do anything they like. One that creates starts containers under the lock of its uid, and gives
the lock back only when it owns none of them any more: it noted them all, or tried to remove each.
One that deletes forgets what it found only after it removed all of it.
-/

namespace Podkeeper

/-! ### Programs that keep rules -/

namespace Program

variable {α β : Type} {allows : List Act → Effect → Prop} {past : List Act}

/-- Whatever a program is answered after the acts `past`, it performs what is allowed, and where it
ends, it ends as it should. -/
def Keeps (allows : List Act → Effect → Prop) (ends : List Act → α → Prop) :
    List Act → Program α → Prop
  | past, .done a => ends past a
  | past, .perform e next => allows past e ∧ ∀ a, Keeps allows ends (past ++ [⟨e, a⟩]) (next a)

theorem keeps_effect {e : Effect} {ends : List Act → e.Answer → Prop} :
    Keeps allows ends past (Program.effect e) ↔
      allows past e ∧ ∀ a, ends (past ++ [⟨e, a⟩]) a := Iff.rfl

theorem keeps_bind {ends : List Act → β → Prop} {p : Program α} {f : α → Program β} :
    Keeps allows ends past (p >>= f) ↔
      Keeps allows (fun past a => Keeps allows ends past (f a)) past p := by
  induction p generalizing past with
  | done a => exact Iff.rfl
  | perform e next ih => exact and_congr_right fun _ => forall_congr' fun a => ih a

theorem Keeps.mono {ends ends' : List Act → α → Prop} {p : Program α}
    (h : Keeps allows ends past p) (weaker : ∀ past a, ends past a → ends' past a) :
    Keeps allows ends' past p := by
  induction p generalizing past with
  | done a => exact weaker past a h
  | perform e next ih => exact ⟨h.1, fun a => ih a (h.2 a)⟩

theorem Keeps.bind {mid : List Act → α → Prop} {ends : List Act → β → Prop} {p : Program α}
    {f : α → Program β} (first : Keeps allows mid past p)
    (next : ∀ past a, mid past a → Keeps allows ends past (f a)) :
    Keeps allows ends past (p >>= f) :=
  keeps_bind.2 (first.mono next)

end Program

namespace Operation

open Program

variable {α β : Type} {allows : List Act → Effect → Prop} {past : List Act}

theorem keeps_effect {e : Effect} {ends : List Act → Except Failure e.Answer → Prop} :
    Keeps allows ends past (Operation.effect e).run ↔
      allows past e ∧ ∀ a, ends (past ++ [⟨e, a⟩]) (.ok a) := Iff.rfl

theorem keeps_lift {ends : List Act → Except Failure α → Prop} {p : Program α} :
    Keeps allows ends past (ExceptT.lift p : Operation α).run ↔
      Keeps allows (fun past a => ends past (.ok a)) past p := keeps_bind

/-- What follows an operation that keeps its rules goes on from its value, unless it failed. -/
theorem keeps_bind {mid : List Act → Except Failure α → Prop}
    {ends : List Act → Except Failure β → Prop} {o : Operation α} {f : α → Operation β}
    (first : Keeps allows mid past o.run)
    (next : ∀ past a, mid past (.ok a) → Keeps allows ends past (f a).run)
    (failed : ∀ past e, mid past (.error e) → ends past (.error e)) :
    Keeps allows ends past (o >>= f).run := by
  rw [ExceptT.run_bind]
  refine first.bind fun past r ended => ?_
  cases r with
  | ok a => exact next past a ended
  | error e => exact failed past e ended

/-- A value that is known already is gone on from without an act. -/
theorem keeps_bind_ofExcept {ends : List Act → Except Failure β → Prop} {r : Except Failure α}
    {f : α → Operation β} (next : ∀ a, r = .ok a → Keeps allows ends past (f a).run)
    (failed : ∀ e, r = .error e → ends past (.error e)) :
    Keeps allows ends past (Operation.ofExcept r >>= f).run := by
  cases r with
  | ok a => exact next a rfl
  | error e => exact failed e rfl

theorem keeps_locked {uid : String} {body : Operation α}
    {ends : List Act → Except Failure α → Prop} (taken : allows past (.acquire uid))
    (inside : Keeps allows
      (fun past r => allows past (.release uid) ∧ ends (past ++ [⟨.release uid, ()⟩]) r)
      (past ++ [⟨.acquire uid, ()⟩]) body.run) :
    Keeps allows ends past (Operation.locked uid body).run := by
  refine ⟨taken, fun _ => ?_⟩
  show Keeps allows ends _ (body.run >>= fun r => do Program.effect (.release uid); return r)
  exact inside.bind fun past r ended => ⟨ended.1, fun _ => ended.2⟩

end Operation

/-! ### What acts come to -/

namespace Effect

/-- The uid whose entry in the tracker the effect is about. -/
def entry? : Effect → Option String
  | .lookup uid | .register uid _ | .forget uid => some uid
  | _ => none

/-- The uid whose entry in the tracker the effect changes. -/
def writes? : Effect → Option String
  | .register uid _ | .forget uid => some uid
  | _ => none

def isRelease : Effect → Bool
  | .release _ => true
  | _ => false

def isRegister : Effect → Bool
  | .register _ _ => true
  | _ => false

def isForget : Effect → Bool
  | .forget _ => true
  | _ => false

end Effect

/-- An entry changes only where it is written. -/
theorem Tracker.lookup_after_of_ne {t : Tracker} {e : Effect} {uid : String}
    (other : e.writes? ≠ some uid) : (t.after e).lookup uid = t.lookup uid := by
  cases e with
  | register u entry => rw [after, lookup_register, if_neg fun same => other (by rw [same]; rfl)]
  | forget u => rw [after, lookup_forget, if_neg fun same => other (by rw [same]; rfl)]
  | _ => rfl

/-- The uid that a request to start a container names. -/
def RunRequest.uid? (r : RunRequest) : Option String := r.labels.lookup RunRequest.uidLabel

namespace Act

/-- The handle of the container that was started. -/
def started? : Act → Option String
  | ⟨.run _, .ok handle⟩ => some handle
  | _ => none

/-- The handle of the container that was removed. -/
def removed? : Act → Option String
  | ⟨.remove handle _, .ok ()⟩ => some handle
  | _ => none

/-- The containers that are owned after an act: those that were started, until they are noted or
it was tried to remove them. -/
def owned (handles : List String) : Act → List String
  | ⟨.run _, .ok handle⟩ => handles ++ [handle]
  | ⟨.remove handle _, _⟩ => handles.filter (· ≠ handle)
  | ⟨.register _ _, _⟩ => []
  | _ => handles

/-- What was found of a uid, until it is forgotten. -/
def found (entry : Option (List Tracked)) : Act → Option (List Tracked)
  | ⟨.lookup _, answer⟩ => answer
  | ⟨.forget _, _⟩ => none
  | _ => entry

end Act

namespace Acts

/-- A lock was taken and not given back. -/
def isOpen (acts : List Act) : Bool := acts.getLast?.any fun a => !a.effect.isRelease

/-- Containers were noted. -/
def registered (acts : List Act) : Bool := acts.any fun a => a.effect.isRegister

/-- What was noted was dropped. -/
def forgot (acts : List Act) : Bool := acts.any fun a => a.effect.isForget

/-- The handles of the containers that were started. -/
def started (acts : List Act) : List String := acts.filterMap Act.started?

/-- The handles of the containers that were removed. -/
def gone (acts : List Act) : List String := acts.filterMap Act.removed?

/-- The handles of the containers that are still owned. -/
def owned (acts : List Act) : List String := acts.foldl Act.owned []

/-- What was found last and not forgotten. -/
def found (acts : List Act) : Option (List Tracked) := acts.foldl Act.found none

variable {acts : List Act} {a : Act}

@[simp] theorem isOpen_nil : isOpen [] = false := rfl

@[simp] theorem isOpen_concat : isOpen (acts ++ [a]) = !a.effect.isRelease := by
  simp [isOpen]

@[simp] theorem registered_concat :
    registered (acts ++ [a]) = (registered acts || a.effect.isRegister) := by
  simp [registered]

@[simp] theorem forgot_concat : forgot (acts ++ [a]) = (forgot acts || a.effect.isForget) := by
  simp [forgot]

@[simp] theorem started_concat : started (acts ++ [a]) = started acts ++ a.started?.toList := by
  cases h : a.started? <;> simp [started, h]

@[simp] theorem gone_concat : gone (acts ++ [a]) = gone acts ++ a.removed?.toList := by
  cases h : a.removed? <;> simp [gone, h]

@[simp] theorem owned_concat : owned (acts ++ [a]) = a.owned (owned acts) := by
  simp [owned]

@[simp] theorem found_concat : found (acts ++ [a]) = a.found (found acts) := by
  simp [found]

/-- Only what was started is owned. -/
theorem owned_sublist_started : (owned acts).Sublist (started acts) := by
  induction acts using List.reverseRecOn with
  | nil => exact .slnil
  | append_singleton acts a ih =>
      have kept : (owned acts).Sublist (started acts ++ a.started?.toList) :=
        ih.trans (List.sublist_append_left _ _)
      rw [owned_concat, started_concat]
      unfold Act.owned
      split
      · exact ih.append (.refl _)
      · exact List.filter_sublist.trans kept
      · exact List.nil_sublist _
      · exact kept

end Acts

/-! ### Rules -/

/-- The rules of those who create a pod: containers are started for its uid until they are noted,
all that are owned at once, and the lock is not given back while any is owned. -/
def creating (uid : String) (past : List Act) : Effect → Prop
  | .acquire u => past = [] ∧ u = uid
  | .release u => Acts.isOpen past ∧ u = uid ∧ Acts.owned past = []
  | .register u entry => Acts.isOpen past ∧ u = uid ∧ Acts.registered past = false ∧
    entry.map (·.handle) = Acts.owned past
  | .run request => Acts.isOpen past ∧ Acts.registered past = false ∧ request.uid? = some uid
  | .file _ | .remove _ _ => Acts.isOpen past
  | _ => False

/-- The rules of those who delete a pod: what was found is forgotten when all of it was removed. -/
def deleting (uid : String) (past : List Act) : Effect → Prop
  | .acquire u => past = [] ∧ u = uid
  | .release u => Acts.isOpen past ∧ u = uid
  | .lookup u => Acts.isOpen past ∧ u = uid ∧ Acts.gone past = []
  | .remove _ _ => Acts.isOpen past
  | .forget u => Acts.isOpen past ∧ u = uid ∧
    ∃ entry, Acts.found past = some entry ∧ ∀ t ∈ entry, t.handle ∈ Acts.gone past
  | _ => False

/-- The rules of those who only read. -/
def reading (_ : List Act) : Effect → Prop
  | .lookup _ | .inspect _ | .logs _ _ => True
  | _ => False

/-- How creating ends: nothing is owned. -/
def Acts.created (past : List Act) : Prop := isOpen past = false ∧ owned past = []

/-- How deleting ends: it succeeded only if what was found is forgotten. -/
def Acts.deleted (past : List Act) (succeeded : Prop) : Prop :=
  isOpen past = false ∧ (succeeded → forgot past)

/-! ### Creating -/

/-- Those who create a pod are under its lock, own some containers and have noted none. -/
structure Acts.Starting (past : List Act) (handles : List String) : Prop where
  opened : isOpen past
  unregistered : registered past = false
  owned : owned past = handles

namespace Acts.Starting

variable {past : List Act} {handles : List String}

theorem file (h : Starting past handles) (op : FileOp) (a : Effect.Answer (.file op)) :
    Starting (past ++ [⟨.file op, a⟩]) handles where
  opened := by simp [Effect.isRelease]
  unregistered := by simp [h.unregistered, Effect.isRegister]
  owned := by simp [Act.owned, h.owned]

theorem run (h : Starting past handles) (request : RunRequest) (handle : String) :
    Starting (past ++ [⟨.run request, .ok handle⟩]) (handles ++ [handle]) where
  opened := by simp [Effect.isRelease]
  unregistered := by simp [h.unregistered, Effect.isRegister]
  owned := by simp [Act.owned, h.owned]

theorem run_error (h : Starting past handles) (request : RunRequest) (e : RuntimeFailure) :
    Starting (past ++ [⟨.run request, .error e⟩]) handles where
  opened := by simp [Effect.isRelease]
  unregistered := by simp [h.unregistered, Effect.isRegister]
  owned := by simp [Act.owned, h.owned]

end Acts.Starting

namespace Site

open Program Acts

variable {uid : String} {past : List Act}

theorem keeps_fileOps (site : Site) (ops : List FileOp) {handles : List String}
    (h : Starting past handles) :
    Keeps (creating uid) (fun past _ => Starting past handles) past (site.fileOps ops).run := by
  induction ops generalizing past with
  | nil => exact h
  | cons op ops ih =>
      have first : Keeps (creating uid) (fun past _ => Starting past handles) past
          (Operation.effect (.file op)).run :=
        Operation.keeps_effect.2 ⟨h.opened, h.file op⟩
      refine Operation.keeps_bind first ?_ fun _ _ left => left
      intro past a left
      cases a with
      | ok => exact ih left
      | error e => exact left

theorem keeps_writeVolumes (site : Site) (plan : FilePlan) {handles : List String}
    (h : Starting past handles) :
    Keeps (creating uid) (fun past _ => Starting past handles) past
      (site.writeVolumes plan).run := by
  refine Operation.keeps_bind (site.keeps_fileOps plan.ops h) ?_ fun _ _ left => left
  intro past _ left
  split
  · exact left
  · exact left

/-- Whatever becomes of the removals, each is tried. -/
theorem keeps_discard (ts : List Tracked) (opened : isOpen past)
    (all : ∀ handle ∈ owned past, handle ∈ ts.map (·.handle)) :
    Keeps (creating uid) (fun past _ => isOpen past ∧ owned past = []) past (discard ts) := by
  induction ts generalizing past with
  | nil =>
      refine ⟨opened, List.eq_nil_iff_forall_not_mem.2 fun handle mem => ?_⟩
      simpa using all handle mem
  | cons t ts ih =>
      refine Program.keeps_bind.2 (keeps_effect.2 ⟨opened, fun a => ih ?_ fun handle member => ?_⟩)
      · simp [Effect.isRelease]
      · rw [owned_concat] at member
        obtain ⟨old, other⟩ := List.mem_filter.1 member
        have among := all handle old
        rw [List.map_cons, List.mem_cons] at among
        exact among.resolve_left (of_decide_eq_true other)

/-- Either all containers run and are owned, or none is. -/
theorem keeps_startAll (requests : List (String × RunRequest)) (started : List Tracked)
    (named : ∀ r ∈ requests, r.2.uid? = some uid) (h : Starting past (started.map (·.handle))) :
    Keeps (creating uid)
      (fun past r => match r with
        | .ok started => Starting past (started.map (·.handle))
        | .error _ => isOpen past ∧ owned past = []) past (startAll started requests).run := by
  induction requests generalizing past started with
  | nil => exact h
  | cons r requests ih =>
      obtain ⟨name, request⟩ := r
      obtain ⟨first, rest⟩ := List.forall_mem_cons.1 named
      refine ⟨⟨h.opened, h.unregistered, first⟩, fun a => ?_⟩
      cases a with
      | ok handle =>
          refine ih (started ++ [⟨name, handle⟩]) rest ?_
          rw [List.map_append]
          exact h.run request handle
      | error e =>
          have failed := h.run_error request e
          have discarded : Keeps (creating uid) (fun past _ => isOpen past ∧ owned past = []) _
              (ExceptT.lift (discard started) : Operation Unit).run :=
            Operation.keeps_lift.2 (keeps_discard started failed.opened
              fun handle member => failed.owned ▸ member)
          exact Operation.keeps_bind discarded (fun _ _ left => left) fun _ _ left => left

/-- Every request to start a container of a pod names its uid. -/
theorem uid?_of_runRequests {p : Pod} {bundles : List Bundle} (cs : List Container)
    {requests : List (String × RunRequest)} (built : runRequests p bundles cs = .ok requests) :
    ∀ r ∈ requests, r.2.uid? = some p.uid := by
  induction cs generalizing requests with
  | nil =>
      cases built
      simp
  | cons c cs ih =>
      rw [runRequests] at built
      obtain ⟨request, made, built⟩ := bind_eq_ok.1 built
      obtain ⟨values, -, ⟨⟩⟩ := bind_eq_ok.1 made
      obtain ⟨requests, others, ⟨⟩⟩ := bind_eq_ok.1 built
      refine List.forall_mem_cons.2 ⟨?_, ih others⟩
      simp [RunRequest.uid?, RunRequest.uidLabel]

/-- What is done under the lock of a pod to create it leaves nothing that is owned. -/
theorem keeps_createLocked (site : Site) (request : CreateRequest)
    (h : Starting past []) :
    Keeps (creating request.pod.uid) (fun past _ => isOpen past ∧ owned past = []) past
      (do
        let _ ← site.writeVolumes (request.pod.filePlan request.bundles)
        let requests ← Operation.ofExcept
          (runRequests request.pod request.bundles (site.provisioned request.pod))
        let started ← startAll [] requests
        let _ ← Operation.effect (.register request.pod.uid started) : Operation Unit).run := by
  refine Operation.keeps_bind (site.keeps_writeVolumes _ h) ?_ fun _ _ h => ⟨h.opened, h.owned⟩
  intro past _ h
  refine Operation.keeps_bind_ofExcept (fun requests built => ?_) fun _ _ => ⟨h.opened, h.owned⟩
  have starts := keeps_startAll requests [] (uid?_of_runRequests _ built) h
  refine Operation.keeps_bind starts (fun past started h => ?_) fun _ _ left => left
  refine ⟨⟨h.opened, rfl, h.unregistered, h.owned.symm⟩, fun a => ?_⟩
  exact ⟨by simp [Effect.isRelease], by simp [Act.owned]⟩

/-- Creating a pod keeps the rules of those who create it. -/
theorem keeps_create (site : Site) (request : CreateRequest) :
    Keeps (creating request.pod.uid) (fun past _ => created past) []
      (site.create request).run := by
  refine Operation.keeps_bind_ofExcept (fun _ _ => ?_) fun _ _ => ⟨rfl, rfl⟩
  refine Operation.keeps_locked ⟨rfl, rfl⟩
    ((site.keeps_createLocked request ⟨rfl, rfl, rfl⟩).mono ?_)
  rintro past r ⟨opened, none⟩
  refine ⟨⟨opened, rfl, none⟩, by simp [Effect.isRelease], ?_⟩
  rw [owned_concat]
  exact none

/-! ### Deleting -/

/-- All is tried, and without a failure all is removed. -/
theorem keeps_removeAll (failure : Option RuntimeFailure) (ts : List Tracked)
    {entry : List Tracked} (handles : List String) (opened : isOpen past)
    (entry_found : found past = some entry) (removed : ∀ handle ∈ handles, handle ∈ gone past) :
    Keeps (deleting uid)
      (fun past r => isOpen past ∧ found past = some entry ∧
        (r = none → failure = none ∧
          ∀ handle ∈ handles ++ ts.map (·.handle), handle ∈ gone past))
      past (removeAll failure ts) := by
  induction ts generalizing past failure handles with
  | nil => exact ⟨opened, entry_found, fun none => ⟨none, by simpa using removed⟩⟩
  | cons t ts ih =>
      refine Program.keeps_bind.2 (keeps_effect.2 ⟨opened, fun a => ?_⟩)
      have opened' : isOpen (past ++ [⟨.remove t.handle true, a⟩]) := by simp [Effect.isRelease]
      have entry_found' : found (past ++ [⟨.remove t.handle true, a⟩]) = some entry := by
        simp [Act.found, entry_found]
      cases a with
      | ok =>
          have removed' : ∀ handle ∈ handles ++ [t.handle],
              handle ∈ gone (past ++ [⟨.remove t.handle true, .ok ()⟩]) := by
            intro handle member
            rw [gone_concat, List.mem_append]
            rcases List.mem_append.1 member with old | new
            · exact .inl (removed handle old)
            · exact .inr (by simpa [Act.removed?] using new)
          refine (ih failure _ opened' entry_found' removed').mono fun past r left => ?_
          simpa using left
      | error e =>
          have removed' : ∀ handle ∈ handles,
              handle ∈ gone (past ++ [⟨.remove t.handle true, .error e⟩]) := by
            simpa [Act.removed?] using removed
          refine (ih _ handles opened' entry_found' removed').mono fun past r left => ?_
          refine ⟨left.1, left.2.1, fun none => ?_⟩
          -- A failure that was noted stays.
          have noted := (left.2.2 none).1
          cases failure <;> cases noted

/-- Under the lock of a uid, deleting it succeeds only after what was found was removed. -/
theorem keeps_deleteLocked (uid : String) (opened : isOpen past) (fresh : gone past = []) :
    Keeps (deleting uid) (fun past r => isOpen past ∧ (r = .ok () → forgot past)) past
      (do
        let entry ← tracked uid
        match ← ExceptT.lift (removeAll none entry) with
        | some e => throw (.runtime e)
        | none =>
          match ← Operation.effect (.forget uid) with
          | some _ => return ()
          | none => throw (.notFound (.pod uid)) : Operation Unit).run := by
  have looked : Keeps (deleting uid)
      (fun past r => isOpen past ∧ ∀ entry, r = .ok entry → found past = some entry) past
      (tracked uid).run := by
    refine ⟨⟨opened, rfl, fresh⟩, fun answer => ?_⟩
    cases answer with
    | none => exact ⟨by simp [Effect.isRelease], nofun⟩
    | some entry =>
        refine ⟨by simp [Effect.isRelease], fun entry' same => ?_⟩
        cases same
        simp [Act.found]
  refine Operation.keeps_bind looked ?_ fun _ _ left => ⟨left.1, nofun⟩
  rintro past entry ⟨opened, entry_found⟩
  have removes : Keeps (deleting uid)
      (fun past r => isOpen past ∧
        (r = .ok none → found past = some entry ∧ ∀ t ∈ entry, t.handle ∈ gone past)) past
      (ExceptT.lift (removeAll none entry) : Operation (Option RuntimeFailure)).run := by
    refine Operation.keeps_lift.2
      ((keeps_removeAll none entry [] opened (entry_found entry rfl) (by simp)).mono ?_)
    rintro past failure ⟨opened, entry_found, removed⟩
    refine ⟨opened, fun same => ⟨entry_found, fun t member => ?_⟩⟩
    exact (removed (Except.ok.inj same)).2 _ (List.mem_map_of_mem member)
  refine Operation.keeps_bind removes ?_ fun _ _ left => ⟨left.1, nofun⟩
  rintro past failure ⟨opened, removed⟩
  cases failure with
  | some e => exact ⟨opened, nofun⟩
  | none =>
      refine ⟨⟨opened, rfl, entry, removed rfl⟩, fun answer => ?_⟩
      have ended : isOpen (past ++ [⟨.forget uid, answer⟩]) ∧
          forgot (past ++ [⟨.forget uid, answer⟩]) := by
        simp [Effect.isRelease, Effect.isForget]
      cases answer <;> exact ⟨ended.1, fun _ => ended.2⟩

/-- Deleting a pod keeps the rules of those who delete it. -/
theorem keeps_delete (uid : String) :
    Keeps (deleting uid) (fun past r => deleted past (r = .ok ())) [] (delete uid).run := by
  refine Operation.keeps_locked ⟨rfl, rfl⟩ ((keeps_deleteLocked uid rfl rfl).mono ?_)
  rintro past r ⟨opened, success⟩
  exact ⟨⟨opened, rfl⟩, by simp [Effect.isRelease], fun ok => by simp [success ok]⟩

/-! ### Reading -/

theorem keeps_tracked (uid : String) :
    Keeps reading (fun _ _ => True) past (tracked uid).run :=
  ⟨trivial, fun answer => by cases answer <;> trivial⟩

theorem keeps_states (ts : List Tracked) :
    Keeps reading (fun _ _ => True) past (states ts).run := by
  induction ts generalizing past with
  | nil => trivial
  | cons t ts ih =>
      have inspected : Keeps reading (fun _ _ => True) past
          (Operation.engine (Program.effect (.inspect t.handle))).run :=
        ⟨trivial, fun _ => trivial⟩
      refine Operation.keeps_bind inspected (fun past report _ => ?_) fun _ _ _ => trivial
      exact Operation.keeps_bind ih (fun _ _ _ => trivial) fun _ _ _ => trivial

theorem keeps_status (r : PodRef) : Keeps reading (fun _ _ => True) past (status r).run := by
  refine Operation.keeps_bind (keeps_tracked r.uid) (fun past entry _ => ?_) fun _ _ _ => trivial
  exact Operation.keeps_bind (keeps_states entry) (fun _ _ _ => trivial) fun _ _ _ => trivial

theorem keeps_logs (r : LogRequest) : Keeps reading (fun _ _ => True) past (logs r).run := by
  refine Operation.keeps_bind_ofExcept (fun _ _ => ?_) fun _ _ => trivial
  refine Operation.keeps_bind (keeps_tracked r.podUid) (fun past entry _ => ?_) fun _ _ _ => trivial
  cases chosen? entry r.containerName with
  | none => trivial
  | some t => exact ⟨trivial, fun _ => trivial⟩

end Site

/-! ### Purposes -/

/-- What a call is for. -/
inductive Purpose where
  | create (uid : String)
  | delete (uid : String)
  | read
deriving DecidableEq, Repr

namespace Purpose

/-- The uid whose lock a call takes. -/
def uid? : Purpose → Option String
  | .create uid | .delete uid => some uid
  | .read => none

/-- The rules of a call. -/
def rules : Purpose → List Act → Effect → Prop
  | .create uid => creating uid
  | .delete uid => deleting uid
  | .read => reading

/-- How a call ends, whether or not it succeeded. -/
def ends (succeeded : Prop) : Purpose → List Act → Prop
  | .create _, past => Acts.created past
  | .delete _, past => Acts.deleted past succeeded
  | .read, _ => True

variable {p : Purpose} {past : List Act} {uid : String} {e : Effect}

/-- A lock is taken first, and only that of the uid. -/
theorem acquire_allowed (allowed : p.rules past (.acquire uid)) :
    past = [] ∧ p.uid? = some uid := by
  cases p with
  | create => exact ⟨allowed.1, congrArg some allowed.2.symm⟩
  | delete => exact ⟨allowed.1, congrArg some allowed.2.symm⟩
  | read => cases allowed

/-- Whatever is done for a uid, but to take its lock, is done under its lock. -/
theorem open_of_allowed (own : p.uid? = some uid) (allowed : p.rules past e)
    (other : ∀ u, e ≠ .acquire u) : Acts.isOpen past := by
  cases p with
  | create =>
      cases e with
      | acquire u => exact absurd rfl (other u)
      | file | remove => exact allowed
      | release | register | run => exact allowed.1
      | lookup | forget | inspect | logs => cases allowed
  | delete =>
      cases e with
      | acquire u => exact absurd rfl (other u)
      | remove => exact allowed
      | release | lookup | forget => exact allowed.1
      | register | run | file | inspect | logs => cases allowed
  | read => cases own

/-- The tracker is changed only at the uid whose lock is taken. -/
theorem writes_allowed (allowed : p.rules past e) (writes : e.writes? = some uid) :
    p.uid? = some uid := by
  cases e <;> cases writes <;> cases p <;>
    first | exact congrArg some allowed.2.1.symm | cases allowed

/-- Containers are started for the uid that is created. -/
theorem run_allowed {request : RunRequest} (allowed : p.rules past (.run request)) :
    ∃ uid, p = .create uid ∧ request.uid? = some uid ∧ Acts.registered past = false := by
  cases p with
  | create uid => exact ⟨uid, rfl, allowed.2.2, allowed.2.1⟩
  | delete | read => cases allowed

/-- What is noted is what is owned. -/
theorem register_allowed {entry : List Tracked} (allowed : p.rules past (.register uid entry)) :
    p = .create uid ∧ Acts.registered past = false ∧
      entry.map (·.handle) = Acts.owned past := by
  cases p with
  | create u =>
      obtain ⟨-, same, unregistered, all⟩ := allowed
      exact ⟨congrArg _ same.symm, unregistered, all⟩
  | delete | read => cases allowed

/-- What is forgotten was found and removed. -/
theorem forget_allowed (allowed : p.rules past (.forget uid)) :
    p = .delete uid ∧ ∃ entry, Acts.found past = some entry ∧
      ∀ t ∈ entry, t.handle ∈ Acts.gone past := by
  cases p with
  | delete u =>
      obtain ⟨-, same, removed⟩ := allowed
      exact ⟨congrArg _ same.symm, removed⟩
  | create | read => cases allowed

/-- Who takes a lock ends with nothing open under it. -/
theorem closed_of_ends {success : Prop} (own : p.uid? = some uid) (ended : p.ends success past) :
    Acts.isOpen past = false := by
  cases p with
  | create | delete => exact ended.1
  | read => cases own

/-- Under a lock the tracker is used only at its uid. -/
theorem entry_allowed {u : String} (own : p.uid? = some uid) (allowed : p.rules past e)
    (entry : e.entry? = some u) : u = uid := by
  cases e <;> cases entry <;> cases p <;> cases own <;>
    first | exact allowed.2.1 | cases allowed

end Purpose

end Podkeeper
