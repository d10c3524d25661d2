import Podkeeper.Proofs.Files.Trees

/-!
What an operation does that succeeds.

Every operation comes down to what it makes of the entry at each place (`FileOp.touch`), and a
sequence of operations to what they make of it one after the other (`FilePlan.done_of_ok`). So the
bytes of a file change only by a write to its own place (`FileOp.bytes?_of_ok`). Operations never
turn a directory into a file or a file into a directory, so what an operation has made is there for
good and the operation can be done again (`FilePlan.applyOps_of_settled`).
-/

namespace Podkeeper

/-! ### Operations -/

namespace FileOp

variable {root place : String} {op : FileOp} {t u : Tree}

/-- What an operation makes of the entry at a place. The top has no entry and no mode. -/
def touch (root place : String) (op : FileOp) (n : Option FileNode) : Option FileNode :=
  match op with
  | .makeDirectories _ =>
    if place ∈ Tree.way (Path.parts (op.path root)) then some .directory else n
  | .write _ _ bytes =>
    if place = Tree.place (op.path root) then some (.file (FileNode.keptMode n) bytes) else n
  | .setMode _ _ mode =>
    if Path.resolve (op.path root) = [] then n
    else if place = Tree.place (op.path root) then n.map (FileNode.withMode mode)
    else n

/-- What an operation can work on. -/
def Suits (op : FileOp) (n : FileNode) : Prop :=
  match op with
  | .makeDirectories _ => n.isDirectory = true
  | .write _ _ _ => n.isDirectory = false
  | .setMode _ _ _ => True

/-- What an operation works on is there. -/
def Settled (root : String) (t : Tree) (op : FileOp) : Prop :=
  Tree.checkPath (op.path root) = .ok () ∧
    ∃ stack n, t.walk [] (Path.parts (op.path root)) = .ok stack ∧ t.node? stack = some n ∧
      op.Suits n

theorem Settled.mono (settled : op.Settled root t) (keeps : t.Keeps u) : op.Settled root u := by
  obtain ⟨checked, stack, n, walked, there, suits⟩ := settled
  obtain ⟨n', there', kind⟩ := keeps.node? there
  refine ⟨checked, stack, n', keeps.walk walked, there', ?_⟩
  cases op with
  | makeDirectories | write => exact kind.trans suits
  | setMode => trivial

/-- What an operation has done that succeeded. -/
structure Done (root : String) (op : FileOp) (t t' : Tree) : Prop where
  modesBind : t'.modesBind = t.modesBind
  entry : ∀ place, t'.entries.get? place = op.touch root place (t.entries.get? place)
  keeps : t.Keeps t'
  settled : op.Settled root t'

theorem apply_write {directory name : String} {bytes : Bytes} :
    (write directory name bytes).apply root t = (u, .ok ()) ↔
      t.write ((write directory name bytes).path root) bytes = .ok u := by
  rw [apply]
  cases t.write ((write directory name bytes).path root) bytes <;> simp

theorem apply_setMode {directory name : String} {mode : UInt32} :
    (setMode directory name mode).apply root t = (u, .ok ()) ↔
      t.setMode ((setMode directory name mode).path root) mode = .ok u := by
  rw [apply]
  cases t.setMode ((setMode directory name mode).path root) mode <;> simp

/-- An operation that puts an entry of the same kind where its path leads. -/
theorem Done.put {stack : List String} {n : FileNode}
    (checked : Tree.checkPath (op.path root) = .ok ())
    (walked : t.walk [] (Path.parts (op.path root)) = .ok stack) (below : stack ≠ [])
    (same : ∀ n', t.node? stack = some n' → n'.isDirectory = n.isDirectory) (suits : op.Suits n)
    (touched : ∀ place, op.touch root place (t.entries.get? place) =
      if place = Tree.place (op.path root) then some n else t.entries.get? place) :
    Done root op t (t.put stack n) := by
  have keeps := Tree.keeps_put same below
  refine ⟨rfl, fun place => ?_, keeps, checked, stack, n, keeps.walk walked, ?_, suits⟩
  · rw [touched, Tree.put, KeyMap.get?_insert, Tree.key_of_walk walked]
  · rw [Tree.node?_eq _ below, Tree.put, KeyMap.get?_insert, if_pos rfl]

theorem done_of_ok (ok : op.apply root t = (u, .ok ())) : Done root op t u := by
  cases op with
  | makeDirectories directory =>
      obtain ⟨checked, there⟩ := Tree.makeDirectories_spec (congrArg Prod.snd ok)
      have grows := Tree.grows_makeDirectories t ((makeDirectories directory).path root)
      have made : (t.makeDirectories ((makeDirectories directory).path root)).1 = u :=
        congrArg Prod.fst ok
      rw [made] at grows there
      obtain ⟨stack, walked, here⟩ := Tree.isDirectory_iff.1 there
      refine ⟨grows.modesBind, fun place => ?_, grows.keeps, checked, stack, _, walked, here, rfl⟩
      rw [touch]
      split
      · rename_i on
        exact Tree.entry_of_way there on
      · rename_i off
        exact (grows.entry place).resolve_right fun made => off made.1
  | write directory name bytes =>
      obtain ⟨checked, stack, walked, free, rfl⟩ := Tree.write_eq_ok (apply_write.1 ok)
      have below : stack ≠ [] := by
        rintro rfl
        exact free rfl
      refine .put checked walked below (fun n there => ?_) rfl fun place => ?_
      · cases n with
        | directory => exact absurd there free
        | file => rfl
      · rw [touch, Tree.node?_eq t below, Tree.key_of_walk walked]
        split
        · rename_i here
          rw [here]
        · rfl
  | setMode directory name mode =>
      obtain ⟨checked, stack, n, walked, there, changed⟩ :=
        Tree.setMode_eq_ok (apply_setMode.1 ok)
      have names : stack.reverse = Path.resolve ((setMode directory name mode).path root) :=
        Tree.reverse_of_walk walked
      -- a mode that is set on a directory changes nothing
      rcases changed with ⟨rfl, unchanged⟩ | ⟨kind, rfl⟩
      · rw [unchanged]
        refine ⟨rfl, fun place => ?_, .refl t, checked, stack, _, walked, there, trivial⟩
        rw [touch]
        split
        · rfl
        · rename_i deep
          split
          · rename_i here
            rw [Tree.node?_eq t (mt List.reverse_eq_nil_iff.2 (names ▸ deep)),
              Tree.key_of_walk walked, ← here] at there
            rw [there]
            rfl
          · rfl
      · have below : stack ≠ [] := by
          rintro rfl
          cases there
          cases kind
        refine .put checked walked below (fun n' there' => ?_) trivial fun place => ?_
        · cases there.symm.trans there'
          cases n <;> rfl
        · rw [touch, if_neg (names ▸ mt List.reverse_eq_nil_iff.1 below)]
          split
          · rename_i here
            rw [Tree.node?_eq t below, Tree.key_of_walk walked, ← here] at there
            rw [there]
            rfl
          · rfl

/-- What is there can be worked on again, unless its mode is in the way. -/
theorem Settled.apply_eq_ok (settled : op.Settled root t) (free : t.modesBind = false) :
    (op.apply root t).2 = .ok () := by
  obtain ⟨checked, stack, n, walked, there, suits⟩ := settled
  cases op with
  | makeDirectories directory =>
      cases n with
      | file => cases suits
      | directory =>
          have found := Tree.isDirectory_iff.2 ⟨stack, walked, there⟩
          exact congrArg Prod.snd (Tree.makeDirectories_of_isDirectory checked found)
  | write directory name bytes =>
      cases n with
      | directory => cases suits
      | file mode bytes' =>
          have admitted : t.admits isWritable mode = .ok () := by
            rw [Tree.admits, free]
            rfl
          have written : t.write ((write directory name bytes).path root) bytes =
              .ok (t.put stack (.file mode bytes)) :=
            bind_eq_ok.2 ⟨(), checked, bind_eq_ok.2 ⟨stack, walked, by
              rw [there]
              exact bind_eq_ok.2 ⟨(), admitted, rfl⟩⟩⟩
          exact congrArg Prod.snd (apply_write.2 written)
  | setMode directory name mode =>
      have set : ∃ u, t.setMode ((setMode directory name mode).path root) mode = .ok u := by
        cases n with
        | directory =>
            exact ⟨t, bind_eq_ok.2 ⟨(), checked, bind_eq_ok.2 ⟨stack, walked, by rw [there]⟩⟩⟩
        | file mode' bytes =>
            exact ⟨t.put stack (.file mode bytes), bind_eq_ok.2 ⟨(), checked,
              bind_eq_ok.2 ⟨stack, walked, by rw [there]⟩⟩⟩
      obtain ⟨u, set⟩ := set
      exact congrArg Prod.snd (apply_setMode.2 set)

/-! ### Bytes -/

/-- The bytes that an operation puts into a file, named relative to the data root. -/
def put? (path : String) : FileOp → Option Bytes
  | .write directory name bytes => if Path.join directory name = path then some bytes else none
  | _ => none

/-- What operations put into a file last. -/
def lastPut? (path : String) (ops : List FileOp) : Option Bytes := ops.reverse.findSome? (put? path)

theorem lastPut?_append (path : String) (ops ops' : List FileOp) :
    lastPut? path (ops ++ ops') = (lastPut? path ops').or (lastPut? path ops) := by
  rw [lastPut?, List.reverse_append, List.findSome?_append]
  rfl

theorem lastPut?_cons (path : String) (op : FileOp) (ops : List FileOp) :
    lastPut? path (op :: ops) = (lastPut? path ops).or (op.put? path) := by
  simp [lastPut?]

theorem put?_eq_some {path : String} {op : FileOp} {bytes : Bytes}
    (put : op.put? path = some bytes) :
    ∃ directory name, op = .write directory name bytes ∧ path = Path.join directory name := by
  cases op with
  | write directory name bytes' =>
      obtain ⟨same, held⟩ := Option.ite_none_right_eq_some.1 put
      cases held
      exact ⟨directory, name, rfl, same.symm⟩
  | makeDirectories | setMode => cases put

/-- What was put into a file was put there by a write to it. -/
theorem exists_write_of_lastPut? {path : String} {ops : List FileOp} {bytes : Bytes}
    (put : lastPut? path ops = some bytes) :
    ∃ directory name, .write directory name bytes ∈ ops ∧ path = Path.join directory name := by
  obtain ⟨op, member, put⟩ := List.exists_of_findSome?_eq_some put
  obtain ⟨directory, name, rfl, same⟩ := put?_eq_some put
  exact ⟨directory, name, List.mem_reverse.1 member, same⟩

/-- The names in an operation that writes are names of entries. -/
def IsNamed : FileOp → Prop
  | .write directory name _ => Path.IsName directory ∧ Path.IsName name
  | _ => True

variable {directory name : String}

/-- An operation that fails changes no bytes. -/
theorem bytes?_of_error {e : FileError} (failed : (op.apply root t).2 = .error e) (path : String) :
    (op.apply root t).1.bytes? path = t.bytes? path := by
  cases op with
  | makeDirectories directory => exact (Tree.grows_makeDirectories t _).bytesAt?_eq _
  | write directory name bytes =>
      rw [apply] at failed ⊢
      cases written : t.write ((write directory name bytes).path root) bytes with
      | ok t' => simp [written] at failed
      | error e' => rfl
  | setMode directory name mode =>
      rw [apply] at failed ⊢
      cases set : t.setMode ((setMode directory name mode).path root) mode with
      | ok t' => simp [set] at failed
      | error e' => rfl

/-- After an operation a file holds what it put there, or what it held before. -/
theorem bytes?_of_ok (named : op.IsNamed) (h : Path.IsName directory) (h' : Path.IsName name)
    (done : (op.apply root t).2 = .ok ()) :
    (op.apply root t).1.bytes? (Path.join root (Path.join directory name)) =
      (op.put? (Path.join directory name)).or
        (t.bytes? (Path.join root (Path.join directory name))) := by
  have effect : Done root op t (op.apply root t).1 := done_of_ok (Prod.ext rfl done)
  have left := congrArg (Option.bind · FileNode.bytes?)
    (effect.entry (Tree.place (Path.join root (Path.join directory name))))
  cases op with
  | makeDirectories => exact (Tree.grows_makeDirectories t _).bytesAt?_eq _
  | setMode directory' name' mode =>
      refine left.trans ?_
      change _ = t.bytes? _
      rw [touch]
      split
      · rfl
      · split
        · rw [Option.bind_map]
          exact Option.bind_congr fun n _ => n.bytes?_withMode mode
        · rfl
  | write directory' name' bytes =>
      have own : Tree.place ((write directory' name' bytes).path root) =
          Tree.place (Path.join root (Path.join directory' name')) := by
        rw [Tree.place, Tree.place, named.1.resolve_join_join named.2, path,
          named.2.resolve_join, named.1.resolve_join, List.append_assoc]
        rfl
      refine left.trans ?_
      rw [touch, own, put?]
      by_cases same : Path.join directory name = Path.join directory' name'
      · rw [if_pos (congrArg (fun path => Tree.place (Path.join root path)) same),
          if_pos same.symm]
        rfl
      · rw [if_neg (mt (Tree.place_inj h h' named.1 named.2).1 same), if_neg (Ne.symm same)]
        rfl

end FileOp

/-! ### Sequences of operations -/

namespace FilePlan

variable {root place : String} {ops ops' : List FileOp} {t u : Tree}

theorem applyOps_cons {op : FileOp} :
    applyOps root (op :: ops) t = (u, .ok ()) ↔
      ∃ next, op.apply root t = (next, .ok ()) ∧ applyOps root ops next = (u, .ok ()) := by
  rw [applyOps]
  obtain ⟨next, answer⟩ := op.apply root t
  cases answer <;> simp

theorem applyOps_append :
    applyOps root (ops ++ ops') t = (u, .ok ()) ↔
      ∃ next, applyOps root ops t = (next, .ok ()) ∧ applyOps root ops' next = (u, .ok ()) := by
  induction ops generalizing t with
  | nil => simp [applyOps]
  | cons op ops ih =>
      simp only [List.cons_append, applyOps_cons, ih]
      constructor
      · rintro ⟨next, first, next', rest, last⟩
        exact ⟨next', ⟨next, first, rest⟩, last⟩
      · rintro ⟨next', ⟨next, first, rest⟩, last⟩
        exact ⟨next, first, next', rest, last⟩

/-- A plan that is carried out has no objection, and its operations succeed. -/
theorem apply_eq_ok {plan : FilePlan} {written : List String} :
    plan.apply root t = (u, .ok written) ↔
      applyOps root plan.ops t = (u, .ok ()) ∧ plan.objection = none ∧ written = plan.written := by
  rw [apply]
  obtain ⟨next, answer⟩ := applyOps root plan.ops t
  cases answer with
  | error f => simp
  | ok =>
      cases plan.objection with
      | some o => simp
      | none => simp [eq_comm]

/-- What operations make of the entry at a place. -/
def touch (root place : String) (ops : List FileOp) (n : Option FileNode) : Option FileNode :=
  ops.foldl (fun n op => op.touch root place n) n

theorem touch_cons (op : FileOp) (n : Option FileNode) :
    touch root place (op :: ops) n = touch root place ops (op.touch root place n) := rfl

theorem touch_append (n : Option FileNode) :
    touch root place (ops ++ ops') n = touch root place ops' (touch root place ops n) :=
  List.foldl_append

/-- What operations have done of which none failed. -/
structure Done (root : String) (ops : List FileOp) (t t' : Tree) : Prop where
  modesBind : t'.modesBind = t.modesBind
  entry : ∀ place, t'.entries.get? place = touch root place ops (t.entries.get? place)
  keeps : t.Keeps t'
  settled : ∀ op ∈ ops, op.Settled root t'

theorem done_of_ok (ok : applyOps root ops t = (u, .ok ())) : Done root ops t u := by
  induction ops generalizing t with
  | nil =>
      cases ok
      exact ⟨rfl, fun _ => rfl, .refl _, nofun⟩
  | cons op ops ih =>
      obtain ⟨next, first, rest⟩ := applyOps_cons.1 ok
      have step := FileOp.done_of_ok first
      have run := ih rest
      refine ⟨run.modesBind.trans step.modesBind, fun place => ?_, step.keeps.trans run.keeps,
        List.forall_mem_cons.2 ⟨step.settled.mono run.keeps, run.settled⟩⟩
      rw [run.entry, step.entry]
      rfl

/-- Operations that have all they work on succeed where modes do not bind. -/
theorem applyOps_of_settled (settled : ∀ op ∈ ops, op.Settled root t)
    (free : t.modesBind = false) : ∃ u, applyOps root ops t = (u, .ok ()) := by
  induction ops generalizing t with
  | nil => exact ⟨t, rfl⟩
  | cons op ops ih =>
      obtain ⟨first, rest⟩ := List.forall_mem_cons.1 settled
      have applied : op.apply root t = ((op.apply root t).1, .ok ()) :=
        Prod.ext rfl (first.apply_eq_ok free)
      have step := FileOp.done_of_ok applied
      obtain ⟨u, last⟩ := ih (fun op member => (rest op member).mono step.keeps)
        (step.modesBind.trans free)
      exact ⟨u, applyOps_cons.2 ⟨_, applied, last⟩⟩

end FilePlan

end Podkeeper
