import Podkeeper.Proofs.Files.Effects
import Podkeeper.Proofs.Interleaving.Calls
import Podkeeper.Proofs.Interleaving.Requests
import Podkeeper.Proofs.Lifecycle.Creating
import Podkeeper.Proofs.Pods.Namespaces

/-!
Files of different namespaces.

Creates of different uids do not wait for each other, so that their file operations come in any
order. What a create wrote is there in the end unless another one wrote the same file
(`Interleaving.filesKept`), and pods of two namespaces write the same file only where a directory is
named by both (`Interleaving.namespaces_isolated`). There are such pods
(`Interleaving.namespaces_share_file`).
-/

namespace Podkeeper

/-! ### Acts on a tree -/

namespace Act

/-- The file operation that was done. -/
def filed? : Act → Option FileOp
  | ⟨.file op, .ok ()⟩ => some op
  | _ => none

/-- A tree after an act. -/
def onTree (root : String) (t : Tree) : Act → Tree
  | ⟨.file op, _⟩ => (op.apply root t).1
  | _ => t

/-- The answer to a file operation is that of a tree. -/
def IsToldBy (root : String) (t : Tree) (a : Act) : Prop :=
  match a with
  | ⟨.file op, answer⟩ => answer = (op.apply root t).2
  | _ => True

instance (root : String) (t : Tree) (a : Act) : Decidable (a.IsToldBy root t) := by
  unfold IsToldBy
  split <;> infer_instance

end Act

namespace Acts

/-- The file operations that were done. -/
def filed (acts : List Act) : List FileOp := acts.filterMap Act.filed?

@[simp] theorem filed_append (acts acts' : List Act) :
    filed (acts ++ acts') = filed acts ++ filed acts' := List.filterMap_append

theorem filed_cons_none {a : Act} (none : a.filed? = none) (acts : List Act) :
    filed (a :: acts) = filed acts := List.filterMap_cons_none none

theorem filed_cons_some {a : Act} {op : FileOp} (some : a.filed? = some op) (acts : List Act) :
    filed (a :: acts) = op :: filed acts := List.filterMap_cons_some some

@[simp] theorem filed_map_filed (ops : List FileOp) : filed (ops.map Act.filed) = ops := by
  rw [filed, List.filterMap_map]
  exact List.filterMap_some ..

@[simp] theorem filed_ran (requests : List RunRequest) (handles : List String) :
    filed (List.zipWith Act.ran requests handles) = [] := by
  refine List.filterMap_eq_nil_iff.2 fun a member => ?_
  obtain ⟨request, handle, rfl⟩ := exists_of_mem_zipWith member
  rfl

@[simp] theorem filed_removals (handles : List String)
    (answers : List (Except RuntimeFailure Unit)) :
    filed (List.zipWith Act.removal handles answers) = [] := by
  refine List.filterMap_eq_nil_iff.2 fun a member => ?_
  obtain ⟨handle, answer, rfl⟩ := exists_of_mem_zipWith member
  rfl

theorem filed_underLock (uid : String) (inner : List Act) :
    filed (underLock uid inner) = filed inner := by
  change filed (inner ++ [⟨.release uid, ()⟩]) = _
  rw [filed_append]
  exact List.append_nil _

end Acts

namespace Tree

/-- A tree after acts. -/
def afterActs (t : Tree) (root : String) (acts : List Act) : Tree := acts.foldl (Act.onTree root) t

/-- A tree gives the answers of acts, as far as files are asked for. -/
def Answers (t : Tree) (root : String) : List Act → Prop
  | [] => True
  | a :: acts => a.IsToldBy root t ∧ (a.onTree root t).Answers root acts

instance decidableAnswers (root : String) : (t : Tree) → (acts : List Act) →
    Decidable (t.Answers root acts)
  | _, [] => inferInstanceAs (Decidable True)
  | t, a :: acts =>
    have := decidableAnswers root (a.onTree root t) acts
    inferInstanceAs (Decidable (_ ∧ _))

variable {t : Tree} {root directory name : String}

theorem answers_concat {acts : List Act} {a : Act} :
    t.Answers root (acts ++ [a]) ↔
      t.Answers root acts ∧ a.IsToldBy root (t.afterActs root acts) := by
  induction acts generalizing t with
  | nil => simp [Answers, afterActs]
  | cons b acts ih => simp [Answers, afterActs, ih, and_assoc]

theorem afterActs_concat {acts : List Act} {a : Act} :
    t.afterActs root (acts ++ [a]) = a.onTree root (t.afterActs root acts) := by
  simp [afterActs]

/-- In the end a file holds what was put there last. -/
theorem bytes?_afterActs {acts : List Act} (told : t.Answers root acts)
    (named : ∀ op ∈ Acts.filed acts, op.IsNamed) (h : Path.IsName directory)
    (h' : Path.IsName name) :
    (t.afterActs root acts).bytes? (Path.join root (Path.join directory name)) =
      (FileOp.lastPut? (Path.join directory name) (Acts.filed acts)).or
        (t.bytes? (Path.join root (Path.join directory name))) := by
  induction acts using List.reverseRecOn with
  | nil => rfl
  | append_singleton acts a ih =>
      obtain ⟨told, last⟩ := answers_concat.1 told
      rw [Acts.filed_append] at named ⊢
      have before := ih told fun op member => named op (List.mem_append_left _ member)
      rw [afterActs_concat, FileOp.lastPut?_append, Option.or_assoc, ← before]
      obtain ⟨e, answer⟩ := a
      cases e with
      | file op =>
          cases answer with
          | error e =>
              exact FileOp.bytes?_of_error last.symm _
          | ok =>
              have member : op ∈ Acts.filed acts ++ Acts.filed [⟨.file op, .ok ()⟩] :=
                List.mem_append_right _ (List.mem_singleton_self op)
              have single : Acts.filed [⟨.file op, .ok ()⟩] = [op] := rfl
              rw [single, FileOp.lastPut?_cons]
              exact FileOp.bytes?_of_ok (named op member) h h' last.symm
      | _ => rfl

end Tree

/-- Where operations are done alone, the same holds. -/
theorem FilePlan.bytes?_applyOps {root directory name : String} {ops : List FileOp} {t : Tree}
    (done : (applyOps root ops t).2 = .ok ()) (named : ∀ op ∈ ops, op.IsNamed)
    (h : Path.IsName directory) (h' : Path.IsName name) :
    (applyOps root ops t).1.bytes? (Path.join root (Path.join directory name)) =
      (FileOp.lastPut? (Path.join directory name) ops).or
        (t.bytes? (Path.join root (Path.join directory name))) := by
  induction ops generalizing t with
  | nil => rfl
  | cons op ops ih =>
      obtain ⟨first, rest⟩ := List.forall_mem_cons.1 named
      cases applied : op.apply root t with
      | mk t' answer =>
          cases answer with
          | error e => simp [applyOps, applied] at done
          | ok =>
              simp only [applyOps, applied] at done ⊢
              have succeeded : (op.apply root t).2 = .ok () := by rw [applied]
              have step := FileOp.bytes?_of_ok first h h' succeeded
              rw [applied] at step
              rw [ih done rest, step, FileOp.lastPut?_cons, Option.or_assoc]

/-! ### The file operations of a create -/

namespace Site

open Program

/-- The file operations of a create that are done are the first of its plan, and all of them if it
succeeds. There are none if the pod is refused. -/
theorem filed_of_yields {site : Site} {request : CreateRequest} {acts : List Act}
    {r : Except Failure Unit} (yields : Yields (site.create request).run acts r) :
    (Acts.filed acts ≠ [] → request.pod.check = .ok ()) ∧
      Acts.filed acts <+: (request.pod.filePlan request.bundles).ops ∧
      (r = .ok () → Acts.filed acts = (request.pod.filePlan request.bundles).ops) := by
  rcases yields_create yields with ⟨v, -, rfl, rfl⟩ | ⟨inner, admitted, rfl, creating⟩
  · exact ⟨fun given => absurd rfl given, List.nil_prefix, nofun⟩
  · rw [Acts.filed_underLock]
    refine ⟨fun _ => admitted, ?_⟩
    cases creating with
    | unwritten before op after e split =>
        have done : Acts.filed (before.map Act.filed ++ [⟨.file op, .error e⟩]) = before := by
          rw [Acts.filed_append, Acts.filed_map_filed]
          exact List.append_nil _
        rw [done, split]
        exact ⟨List.prefix_append _ _, nofun⟩
    | objected | unresolved =>
        rw [Acts.filed_map_filed]
        exact ⟨List.prefix_rfl, nofun⟩
    | discarded before failed after handles e answers =>
        rw [Acts.filed_append, Acts.filed_map_filed, Acts.filed_append, Acts.filed_ran,
          Acts.filed_cons_none rfl, Acts.filed_removals, List.append_nil, List.append_nil]
        exact ⟨List.prefix_rfl, nofun⟩
    | created requests handles prior =>
        rw [Acts.filed_append, Acts.filed_map_filed, Acts.filed_append, Acts.filed_ran,
          List.nil_append]
        exact ⟨(List.append_nil _).symm ▸ List.prefix_rfl, fun _ => List.append_nil _⟩

end Site

namespace Interleaving

open Program

/-- The file operations that a task has done. -/
def System.filed {ι α : Type} (s : System ι α) (k : Nat) : List FileOp :=
  Acts.filed (s.block k)

variable {site : Site} {droppable : Call → Bool} {request : CreateRequest}

/-- A create does the first operations of its plan, whatever else goes on. -/
theorem Call.filed_of_create {s : System Call (Except Failure Reply)}
    (h : Orderly site droppable s) {k : Nat} (call : s.call? k = some (.create request)) :
    (s.filed k ≠ [] → request.pod.check = .ok ()) ∧
      s.filed k <+: (request.pod.filePlan request.bundles).ops ∧
      (s.result? k = some (.ok .done) →
        s.filed k = (request.pod.filePlan request.bundles).ops) := by
  obtain ⟨⟨q, reaches⟩, ended⟩ := h.exists_reaches call rfl
  obtain ⟨more, r, -, whole⟩ := reaches.exists_yields
  obtain ⟨r', -, yields⟩ := yields_create.1 whole
  obtain ⟨admitted, front, -⟩ := Site.filed_of_yields yields
  rw [Acts.filed_append] at admitted front
  refine ⟨fun given => admitted (List.append_ne_nil_of_left_ne_nil given _),
    (List.prefix_append _ _).trans front, fun result => ?_⟩
  obtain ⟨r', same, yields⟩ := yields_create.1 (ended _ result)
  cases r' with
  | error e => cases same
  | ok => exact (Site.filed_of_yields yields).2.2 rfl

/-- An operation in the history was done by a create. -/
theorem Call.exists_create_of_filed (moves : List (Move Call)) {ev : Event Call}
    (member : ev ∈ (System.run (service site droppable) moves).past) {op : FileOp}
    (filed : ev.act.filed? = some op) : ∃ request, ev.call = .create request := by
  obtain ⟨acts, allowed⟩ := System.exists_rules (conducted site droppable) moves ev member
  obtain ⟨k, c, e, answer⟩ := ev
  cases e with
  | file => cases c with
    | create request => exact ⟨request, rfl⟩
    | delete | status | logs => cases allowed
  | _ => cases filed

/-- What becomes of the files of a create: its first operations are done, all of them if it
succeeds, and in the end each file holds what they put there last, which is also what it holds
after the same operations on any tree alone. -/
structure FilesKept (site : Site) (request : CreateRequest) (t : Tree)
    (s : System Call (Except Failure Reply)) (k : Nat) : Prop where
  done : s.filed k <+: (request.pod.filePlan request.bundles).ops
  all : s.result? k = some (.ok .done) →
    s.filed k = (request.pod.filePlan request.bundles).ops
  kept : ∀ path bytes, FileOp.lastPut? path (s.filed k) = some bytes →
    (t.afterActs site.dataRoot s.acts).bytes? (Path.join site.dataRoot path) = some bytes
  alone : ∀ path bytes, FileOp.lastPut? path (s.filed k) = some bytes →
    ∀ t', (FilePlan.applyOps site.dataRoot (s.filed k) t').2 = .ok () →
      (FilePlan.applyOps site.dataRoot (s.filed k) t').1.bytes? (Path.join site.dataRoot path) =
        some bytes

/-- What is put into a file last is put there by a task if no other one writes to it. -/
theorem lastPut?_of_task {ι : Type} {events : List (Event ι)} {k : Nat} {path : String}
    (apart : ∀ ev ∈ events, ev.task ≠ k → ∀ op, ev.act.filed? = some op → op.put? path = none) :
    FileOp.lastPut? path (Acts.filed (events.map (·.act))) =
      FileOp.lastPut? path
        (Acts.filed ((events.filter fun ev => ev.task = k).map (·.act))) := by
  induction events with
  | nil => rfl
  | cons ev events ih =>
      obtain ⟨first, apart⟩ := List.forall_mem_cons.1 apart
      have rest := ih apart
      by_cases own : ev.task = k
      · rw [List.filter_cons_of_pos (by simpa using own), List.map_cons, List.map_cons]
        cases filed : ev.act.filed? with
        | none => rw [Acts.filed_cons_none filed, Acts.filed_cons_none filed, rest]
        | some op =>
            rw [Acts.filed_cons_some filed, Acts.filed_cons_some filed, FileOp.lastPut?_cons,
              FileOp.lastPut?_cons, rest]
      · rw [List.filter_cons_of_neg (by simpa using own), ← rest, List.map_cons]
        cases filed : ev.act.filed? with
        | none => rw [Acts.filed_cons_none filed]
        | some op =>
            rw [Acts.filed_cons_some filed, FileOp.lastPut?_cons, first own op filed,
              Option.or_none]

variable {moves : List (Move Call)} {t : Tree} {k : Nat}

namespace Call

/-- An operation in the history is one of the plan of an admitted pod. -/
theorem op_mem_plan {ev : Event Call} {op : FileOp}
    (member : ev ∈ (System.run (service site droppable) moves).past)
    (filed : ev.act.filed? = some op) :
    ∃ request, (System.run (service site droppable) moves).call? ev.task = some (.create request) ∧
      request.pod.check = .ok () ∧ op ∈ (request.pod.filePlan request.bundles).ops := by
  have h := Orderly.run site droppable moves
  obtain ⟨request, create⟩ := exists_create_of_filed moves member filed
  have call := h.calls ev member
  rw [create] at call
  have among : op ∈ (System.run (service site droppable) moves).filed ev.task :=
    List.mem_filterMap.2 ⟨ev.act, System.mem_block.2 ⟨ev.call, member⟩, filed⟩
  obtain ⟨admitted, front, -⟩ := filed_of_create h call
  exact ⟨request, call, admitted (List.ne_nil_of_mem among), front.subset among⟩

/-- So its names are names of entries. -/
theorem isNamed_of_mem_filed {op : FileOp}
    (member : op ∈ Acts.filed (System.run (service site droppable) moves).acts) : op.IsNamed := by
  obtain ⟨a, act, filed⟩ := List.mem_filterMap.1 member
  obtain ⟨ev, event, rfl⟩ := List.mem_map.1 act
  obtain ⟨request, -, admitted, among⟩ := op_mem_plan event filed
  exact Pod.isNamed_of_mem_ops admitted among

/-- A file that a create wrote last is the last in the whole history if no other create writes the
same files. -/
theorem lastPut?_acts {path : String} {bytes : Bytes}
    (call : (System.run (service site droppable) moves).call? k = some (.create request))
    (apart : ∀ j other,
      (System.run (service site droppable) moves).call? j = some (.create other) → j ≠ k →
      List.Disjoint (request.pod.filePlan request.bundles).written
        (other.pod.filePlan other.bundles).written)
    (put : FileOp.lastPut? path ((System.run (service site droppable) moves).filed k) =
      some bytes) :
    FileOp.lastPut? path (Acts.filed (System.run (service site droppable) moves).acts) =
      some bytes := by
  obtain ⟨-, front, -⟩ := filed_of_create (Orderly.run site droppable moves) call
  obtain ⟨directory, name, member, rfl⟩ := FileOp.exists_write_of_lastPut? put
  rw [← put]
  refine lastPut?_of_task fun ev event foreign op filed => ?_
  obtain ⟨other, create, -, planned⟩ := op_mem_plan event filed
  by_contra puts
  obtain ⟨bytes', puts⟩ := Option.ne_none_iff_exists'.1 puts
  obtain ⟨directory', name', rfl, same⟩ := FileOp.put?_eq_some puts
  refine apart _ other create foreign (List.mem_filterMap.2 ⟨_, front.subset member, rfl⟩) ?_
  exact List.mem_filterMap.2 ⟨_, planned, congrArg some same.symm⟩

end Call

/-- What a create wrote is kept if no other create writes the same files. -/
theorem filesKept
    (told : t.Answers site.dataRoot (System.run (Call.service site droppable) moves).acts)
    (call : (System.run (Call.service site droppable) moves).call? k = some (.create request))
    (apart : ∀ j other,
      (System.run (Call.service site droppable) moves).call? j = some (.create other) → j ≠ k →
      List.Disjoint (request.pod.filePlan request.bundles).written
        (other.pod.filePlan other.bundles).written) :
    FilesKept site request t (System.run (Call.service site droppable) moves) k := by
  obtain ⟨admitted, front, all⟩ :=
    Call.filed_of_create (Call.Orderly.run site droppable moves) call
  have named : ∀ op ∈ (System.run (Call.service site droppable) moves).filed k, op.IsNamed :=
    fun op member =>
      Pod.isNamed_of_mem_ops (admitted (List.ne_nil_of_mem member)) (front.subset member)
  refine ⟨front, all, fun path bytes put => ?_, fun path bytes put t' done => ?_⟩
  · have last := Call.lastPut?_acts call apart put
    obtain ⟨directory, name, member, rfl⟩ := FileOp.exists_write_of_lastPut? put
    obtain ⟨isDirectory, isName⟩ := named _ member
    rw [Tree.bytes?_afterActs told (fun op => Call.isNamed_of_mem_filed) isDirectory isName, last]
    rfl
  · obtain ⟨directory, name, member, rfl⟩ := FileOp.exists_write_of_lastPut? put
    obtain ⟨isDirectory, isName⟩ := named _ member
    rw [FilePlan.bytes?_applyOps done named isDirectory isName, put]
    rfl

/-- Pods of two namespaces. Their files are apart unless files of one name come from config maps
whose directories are one: one namespace goes on with a hyphen and what the other's config map
begins with. And if they are apart, then in each history in which nothing else is created both keep
their files. -/
theorem namespaces_isolated (site : Site) (droppable : Call → Bool)
    {request request' : CreateRequest} (admitted : request.pod.check = .ok ())
    (admitted' : request'.pod.check = .ok ()) (other : request.pod.ns ≠ request'.pod.ns) :
    (List.Disjoint (request.pod.filePlan request.bundles).written
        (request'.pod.filePlan request'.bundles).written ↔
      ¬ ∃ configMap configMap' file part, request.pod.Places request.bundles configMap file ∧
        request'.pod.Places request'.bundles configMap' file ∧
        ((request'.pod.ns = directoryName request.pod.ns part ∧
            configMap = directoryName part configMap') ∨
          (request.pod.ns = directoryName request'.pod.ns part ∧
            configMap' = directoryName part configMap))) ∧
    (List.Disjoint (request.pod.filePlan request.bundles).written
        (request'.pod.filePlan request'.bundles).written →
      ∀ (moves : List (Move Call)) (t : Tree) (k k' : Nat),
        let s := System.run (Call.service site droppable) moves
        t.Answers site.dataRoot s.acts →
        s.call? k = some (.create request) → s.call? k' = some (.create request') →
        (∀ j r, s.call? j = some (.create r) → j = k ∨ j = k') →
        FilesKept site request t s k ∧ FilesKept site request' t s k') := by
  constructor
  · rw [← Pod.mem_written_of_both_iff admitted admitted' other]
    constructor
    · rintro apart ⟨path, one, two⟩
      exact apart one two
    · intro none path one two
      exact none ⟨path, one, two⟩
  · intro apart moves t k k' s told call call' only
    refine ⟨filesKept told call fun j r create foreign => ?_,
      filesKept told call' fun j r create foreign => ?_⟩
    · cases (only j r create).resolve_left foreign
      cases call'.symm.trans create
      exact apart
    · cases (only j r create).resolve_right foreign
      cases call.symm.trans create
      exact apart.symm

/-- A request for a pod that projects a config map with one key. -/
def configRequest (ns uid configMap text : String) : CreateRequest where
  pod :=
    { Pod.mountingConfig configMap configMap with
      metadata := ⟨"web", ns, uid, .empty, .empty⟩ }
  bundles := [⟨"", "", [.ofText configMap ns "k" text], [], []⟩]

/-- Two creates that take turns with every effect. -/
def alternating (request request' : CreateRequest) : List (Move Call) :=
  [.call (.create request), .call (.create request'), .lock (.enter 0 request.pod.uid),
    .lock (.enter 1 request'.pod.uid), .lock (.grant 0), .lock (.grant 1)] ++
    (List.replicate 6 [.perform 0 Http.obliging, .perform 1 Http.obliging]).flatten ++
    [.lock (.leave 0), .lock (.leave 1)]

theorem namespaces_isolated_alternating :
    let s := System.run (Call.service ⟨"/data", true⟩ fun _ => false)
      (alternating (configRequest "a" "u" "b-c" "1") (configRequest "b" "v" "c" "2"))
    let t := Tree.afterActs ∅ "/data" s.acts
    s.result? 0 = some (.ok .done) ∧ s.result? 1 = some (.ok .done) ∧
      t.bytes? "/data/a-b-c/k" = some (Utf8.ofString "1") ∧
      t.bytes? "/data/b-c/k" = some (Utf8.ofString "2") := by
  intro s t
  let request := configRequest "a" "u" "b-c" "1"
  let request' := configRequest "b" "v" "c" "2"
  have admitted : request.pod.check = .ok () ∧ request'.pod.check = .ok () ∧
      request.pod.ns ≠ request'.pod.ns := by decide +kernel
  have written : (request.pod.filePlan request.bundles).written = ["a-b-c/k"] ∧
      (request'.pod.filePlan request'.bundles).written = ["b-c/k"] := by decide +kernel
  have apart : List.Disjoint (request.pod.filePlan request.bundles).written
      (request'.pod.filePlan request'.bundles).written := by
    simp [written]
  have history : s.result? 0 = some (.ok .done) ∧ s.result? 1 = some (.ok .done) ∧
      Tree.Answers ∅ "/data" s.acts ∧ s.call? 0 = some (.create request) ∧
      s.call? 1 = some (.create request') ∧ s.tasks.length = 2 ∧
      FileOp.lastPut? "a-b-c/k" (s.filed 0) = some (Utf8.ofString "1") ∧
      FileOp.lastPut? "b-c/k" (s.filed 1) = some (Utf8.ofString "2") := by decide +kernel
  obtain ⟨done, done', told, call, call', two, put, put'⟩ := history
  have only : ∀ j r, s.call? j = some (.create r) → j = 0 ∨ j = 1 := by
    intro j r create
    obtain ⟨_, task, -⟩ := Option.map_eq_some_iff.1 create
    have below := (List.getElem?_eq_some_iff.1 task).1
    omega
  obtain ⟨kept, kept'⟩ := (namespaces_isolated _ _ admitted.1 admitted.2.1 admitted.2.2).2 apart _ ∅
    0 1 told call call' only
  have path : Path.join "/data" "a-b-c/k" = "/data/a-b-c/k" := by decide +kernel
  have path' : Path.join "/data" "b-c/k" = "/data/b-c/k" := by decide +kernel
  rw [← path, ← path']
  exact ⟨done, done', kept.kept _ _ put, kept'.kept _ _ put'⟩

/-- There are pods of two namespaces that write to one file. -/
theorem namespaces_share_file :
    ¬ ∀ request request' : CreateRequest, request.pod.check = .ok () →
      request'.pod.check = .ok () → request.pod.ns ≠ request'.pod.ns →
      ∀ path ∈ (request.pod.filePlan request.bundles).written,
        path ∉ (request'.pod.filePlan request'.bundles).written := by
  intro apart
  refine apart (configRequest "a" "u" "b-c" "1") (configRequest "a-b" "v" "c" "2") ?_ ?_ ?_
    "a-b-c/k" ?_ ?_ <;> decide +kernel

end Interleaving

end Podkeeper
