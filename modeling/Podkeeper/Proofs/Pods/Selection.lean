import Podkeeper.Proofs.Files.Effects
import Podkeeper.Proofs.Pods.Keys
import Podkeeper.Proofs.Pods.Namespaces

/-!
What the volumes of a pod write.

A volume selects files: all keys of its config map in order, or its items in theirs. The files of a
pod are those of its volumes, one volume after the other (`Pod.selected`), and several may have one
place. What is left behind is read off place by place (`Pod.Wrote`): the last file at a place
counts, with the mode of the last that brings one (`Pod.volumes_written`).
-/

namespace Podkeeper

/-! ### Selected files -/

/-- A file that a volume selects. -/
structure Selected where
  directory : String
  name : String
  bytes : Bytes
  mode : Option UInt32
deriving DecidableEq, Repr

namespace Selected

/-- The path of a file relative to the data root. -/
def path (f : Selected) : String := Path.join f.directory f.name

/-- Where a file is put, as seen from the top. -/
def place (root : String) (f : Selected) : String := Tree.place (Path.join root f.path)

/-- The permissions that the last file with a mode brings. -/
def lastMode? (fs : List Selected) : Option UInt32 :=
  (fs.filterMap (·.mode)).getLast?.map (· &&& permissionBits)

end Selected

/-- The name of the file for a selected key. -/
def KeyPath.fileName (item : KeyPath) : String := if item.path = "" then item.key else item.path

/-- What a projection selects of a config map: its items, and without any all keys. -/
def Projection.selection (q : Projection) (c : ConfigMap) : List KeyPath :=
  q.items.getD (c.keys.map fun key => ⟨key, "", none⟩)

/-- The files of a projection; a selected key that is not there has none. -/
def Projection.selected (ns : String) (q : Projection) (c : ConfigMap) : List Selected :=
  (q.selection c).filterMap fun item => (c.get? item.key).map fun bytes =>
    ⟨directoryName ns q.name, item.fileName, bytes, item.mode.or q.defaultMode⟩

/-- The config map that a volume projects, if it was supplied. -/
def Volume.projected? (ns : String) (bundles : List Bundle) (v : Volume) :
    Option (Projection × ConfigMap) :=
  match v.source with
  | .configMap q => (Bundle.findConfigMap? bundles ns q.name).map fun c => (q, c)
  | _ => none

namespace Pod

/-- The projections of config maps that were supplied, in the order of the volumes. -/
def projected (p : Pod) (bundles : List Bundle) : List (Projection × ConfigMap) :=
  p.spec.volumes.filterMap (Volume.projected? p.ns bundles)

/-- The files that a pod selects, in order. -/
def selected (p : Pod) (bundles : List Bundle) : List Selected :=
  (p.projected bundles).flatMap fun (q, c) => q.selected p.ns c

/-- The files that a pod selects for one place. -/
def selectedAt (p : Pod) (bundles : List Bundle) (root place : String) : List Selected :=
  (p.selected bundles).filter fun f => f.place root = place

/-- The directories of the volumes, below the root and with all above them. -/
def ways (p : Pod) (bundles : List Bundle) (root : String) : List String :=
  (p.projected bundles).flatMap fun (q, _) =>
    Tree.way (Path.parts (Path.join root (directoryName p.ns q.name)))

end Pod

/-! ### Files at one place -/

namespace Selected

variable {root place : String}

/-- What a file makes of the entry at its place. -/
def put (f : Selected) (n : Option FileNode) : Option FileNode :=
  some (.file ((f.mode.map (· &&& permissionBits)).getD (FileNode.keptMode n)) f.bytes)

theorem lastMode?_concat (fs : List Selected) (f : Selected) :
    lastMode? (fs ++ [f]) = (f.mode.map (· &&& permissionBits)).or (lastMode? fs) := by
  rw [lastMode?, lastMode?, List.filterMap_append]
  cases mode : f.mode with
  | none => simp [mode]
  | some m => simp [mode]

/-- Of files that are put to one place one after the other the last bytes are left and the last
mode, or the mode from before. -/
theorem foldl_put {fs : List Selected} {last : Selected} (ends : fs.getLast? = some last)
    (n : Option FileNode) :
    fs.foldl (fun n f => f.put n) n =
      some (.file ((lastMode? fs).getD (FileNode.keptMode n)) last.bytes) := by
  induction fs using List.reverseRecOn generalizing last with
  | nil => cases ends
  | append_singleton fs f ih =>
      rw [List.getLast?_concat] at ends
      cases ends
      have kept : FileNode.keptMode (fs.foldl (fun n f => f.put n) n) =
          (lastMode? fs).getD (FileNode.keptMode n) := by
        cases before : fs.getLast? with
        | none =>
            rw [List.getLast?_eq_none_iff.1 before]
            rfl
        | some g =>
            rw [ih before]
            rfl
      rw [List.foldl_concat, put, kept, lastMode?_concat]
      cases f.mode <;> rfl

end Selected

/-! ### Plans -/

theorem Path.join_of_isAbsolute {base rest : String} (absolute : isAbsolute rest = true) :
    join base rest = rest := by
  rw [join, absolute, Bool.true_or, if_pos rfl]

theorem Path.isAbsolute_join_eq {directory name : String} (given : directory ≠ "")
    (relative : isAbsolute name = false) :
    isAbsolute (join directory name) = isAbsolute directory := by
  obtain ⟨c, cs, text⟩ := List.exists_cons_of_ne_nil (mt String.toList_eq_nil_iff.1 given)
  have front : ∃ more, (join directory name).toList = c :: more := by
    rcases join_eq given relative with ⟨joined, -⟩ | joined
    · exact ⟨cs ++ name.toList, by rw [joined, String.toList_append, text, List.cons_append]⟩
    · exact ⟨cs ++ '/' :: name.toList, by simp [joined, text]⟩
  obtain ⟨more, front⟩ := front
  rw [Bool.eq_iff_iff, isAbsolute_iff, isAbsolute_iff, front, text]
  simp

/-- A file is named in its directory below the root, at once or step by step. -/
theorem Path.parts_join_join {root directory name : String} (given : directory ≠ "")
    (relative : isAbsolute name = false) :
    parts (join (join root directory) name) = parts (join root (join directory name)) := by
  have kind := isAbsolute_join_eq given relative
  cases absolute : isAbsolute directory with
  | true =>
      rw [join_of_isAbsolute absolute, join_of_isAbsolute (kind.trans absolute)]
  | false =>
      rw [parts_join relative, parts_join absolute, parts_join (kind.trans absolute),
        parts_join relative, List.append_assoc]

namespace VolumePlan

variable {root place : String} {v : VolumePlan}

/-- A file of a plan in its directory. -/
def file (v : VolumePlan) (f : VolumeFile) : Selected := ⟨v.directory, f.name, f.bytes, f.mode⟩

/-- The files of a plan. -/
def selected (v : VolumePlan) : List Selected := v.files.map v.file

/-- The directory of a plan below the root, with all above it. -/
def way (root : String) (v : VolumePlan) : List String :=
  Tree.way (Path.parts (Path.join root v.directory))

theorem objection?_eq_none_iff :
    v.objection? = none ↔ ∀ f ∈ v.selected, Path.isPlainName f.name = true := by
  simp [objection?, selected, file]

theorem written_ops : v.ops.filterMap FileOp.written? = v.selected.map Selected.path := by
  have own (f : VolumeFile) :
      (f.ops v.directory).filterMap FileOp.written? = [(v.file f).path] := by
    rw [VolumeFile.ops]
    cases f.mode <;> rfl
  rw [ops, List.filterMap_cons_none rfl, List.filterMap_flatMap, selected, List.map_map]
  exact (List.flatMap_congr fun f _ => own f).trans (List.map_eq_flatMap ..).symm

/-- The operations for a file lead to its place. -/
theorem place_file (given : v.directory ≠ "") {f : VolumeFile}
    (plain : Path.isPlainName f.name = true) :
    Tree.place (Path.join (Path.join root v.directory) f.name) = (v.file f).place root := by
  rw [Selected.place, Selected.path, Tree.place, Tree.place, Path.resolve, Path.resolve,
    Path.parts_join_join given (Path.isName_of_isPlainName plain).isAbsolute_eq]
  rfl

/-- A file is written, and then its mode is set if it has one. -/
theorem touch_file (given : v.directory ≠ "") {f : VolumeFile}
    (plain : Path.isPlainName f.name = true) (n : Option FileNode) :
    FilePlan.touch root place (f.ops v.directory) n =
      if (v.file f).place root = place then (v.file f).put n else n := by
  have deep : Path.resolve (Path.join (Path.join root v.directory) f.name) ≠ [] := by
    rw [(Path.isName_of_isPlainName plain).resolve_join]
    exact List.append_ne_nil_of_right_ne_nil _ (List.cons_ne_nil _ _)
  have written : (FileOp.write v.directory f.name f.bytes).touch root place n =
      if (v.file f).place root = place then some (.file (FileNode.keptMode n) f.bytes) else n := by
    simp [FileOp.touch, FileOp.path, place_file given plain, eq_comm]
  have moded (m : UInt32) (n : Option FileNode) :
      (FileOp.setMode v.directory f.name m).touch root place n =
        if (v.file f).place root = place then n.map (FileNode.withMode m) else n := by
    simp [FileOp.touch, FileOp.path, place_file given plain, deep, eq_comm]
  have left : (v.file f).put n = some (FileNode.file
      ((f.mode.map (· &&& permissionBits)).getD (FileNode.keptMode n)) f.bytes) := rfl
  rw [left, FilePlan.touch, VolumeFile.ops, List.foldl_cons, written]
  cases f.mode with
  | none =>
      rw [Option.map_none, Option.toList_none, List.foldl_nil, Option.map_none, Option.getD_none]
  | some m =>
      rw [Option.map_some, Option.toList_some, List.foldl_cons, List.foldl_nil, moded,
        Option.map_some, Option.getD_some]
      split
      · rw [Option.map_some, FileNode.withMode]
      · rfl

/-- The files of a volume are put one after the other. -/
theorem touch_files (given : v.directory ≠ "") {fs : List VolumeFile}
    (plain : ∀ f ∈ fs, Path.isPlainName f.name = true) (n : Option FileNode) :
    FilePlan.touch root place (fs.flatMap (VolumeFile.ops v.directory)) n =
      ((fs.map v.file).filter fun f => f.place root = place).foldl (fun n f => f.put n) n := by
  induction fs generalizing n with
  | nil => rfl
  | cons f fs ih =>
      obtain ⟨first, rest⟩ := List.forall_mem_cons.1 plain
      rw [List.flatMap_cons, FilePlan.touch_append, touch_file given first, ih rest, List.map_cons,
        List.filter_cons]
      split
      · rename_i here
        rw [if_pos (decide_eq_true here), List.foldl_cons]
      · rename_i apart
        rw [if_neg (by simpa using apart)]

/-- The directory of a volume is made, and its files are put. -/
theorem touch_ops (given : v.directory ≠ "") (free : v.objection? = none) (n : Option FileNode) :
    FilePlan.touch root place v.ops n =
      (v.selected.filter fun f => f.place root = place).foldl (fun n f => f.put n)
        (if place ∈ v.way root then some .directory else n) := by
  have made : (FileOp.makeDirectories v.directory).touch root place n =
      if place ∈ v.way root then some .directory else n := rfl
  have plain : ∀ f ∈ v.files, Path.isPlainName f.name = true :=
    fun f member => isPlainName_of_mem free member
  rw [ops, FilePlan.touch_cons, made, touch_files given plain, selected]

end VolumePlan

/-- A projection selects the files that are made for it. -/
theorem Projection.selected_eq (ns : String) (q : Projection) (c : ConfigMap) :
    q.selected ns c = VolumePlan.selected ⟨directoryName ns q.name, q.files c⟩ := by
  have made (item : KeyPath) : ((KeyPath.file? c.entries q.defaultMode item).map
      (VolumePlan.file ⟨directoryName ns q.name, q.files c⟩)) =
        (c.get? item.key).map fun bytes =>
          ⟨directoryName ns q.name, item.fileName, bytes, item.mode.or q.defaultMode⟩ := by
    rw [KeyPath.file?, ConfigMap.get?_entries, Option.map_map]
    rfl
  rw [selected, selection, VolumePlan.selected]
  cases items : q.items with
  | some items =>
      simp only [files, items, Option.getD_some, List.map_filterMap]
      exact List.filterMap_congr fun item _ => (made item).symm
  | none =>
      simp only [files, items, Option.getD_none, List.filterMap_map, ConfigMap.entries_eq,
        List.map_filterMap, Option.map_map]
      exact List.filterMap_congr fun key _ => rfl

namespace Pod

variable {p : Pod} {bundles : List Bundle} {root place : String} {t t' : Tree}

/-- The plans for the volumes of a pod. -/
def plans (p : Pod) (bundles : List Bundle) : List VolumePlan :=
  p.spec.volumes.filterMap (Volume.plan? p.ns bundles)

theorem plans_eq (p : Pod) (bundles : List Bundle) :
    p.plans bundles =
      (p.projected bundles).map fun (q, c) => ⟨directoryName p.ns q.name, q.files c⟩ := by
  rw [plans, projected, List.map_filterMap]
  refine List.filterMap_congr fun v _ => ?_
  rw [Volume.plan?, Volume.projected?]
  cases v.source with
  | configMap q => rw [Option.map_map]; rfl
  | emptyDir | secret => rfl

theorem selected_eq (p : Pod) (bundles : List Bundle) :
    p.selected bundles = (p.plans bundles).flatMap VolumePlan.selected := by
  rw [plans_eq, List.flatMap_map]
  exact List.flatMap_congr fun (q, c) _ => q.selected_eq p.ns c

theorem ways_eq (p : Pod) (bundles : List Bundle) (root : String) :
    p.ways bundles root = (p.plans bundles).flatMap (VolumePlan.way root) := by
  rw [plans_eq, List.flatMap_map]
  rfl

theorem directory_ne_empty {v : VolumePlan} (member : v ∈ p.plans bundles) : v.directory ≠ "" := by
  rw [plans_eq] at member
  obtain ⟨_, -, rfl⟩ := List.mem_map.1 member
  exact directoryName_ne_empty _ _

theorem objection_eq_none_iff :
    (p.filePlan bundles).objection = none ↔
      ∀ f ∈ p.selected bundles, Path.isPlainName f.name = true := by
  rw [filePlan, FilePlan.ofVolumes_eq, List.findSome?_eq_none_iff, selected_eq]
  simp only [VolumePlan.objection?_eq_none_iff]
  constructor
  · intro each f member
    obtain ⟨v, member, among⟩ := List.mem_flatMap.1 member
    exact each v member f among
  · intro all v member f among
    exact all f (List.mem_flatMap.2 ⟨v, member, among⟩)

theorem filePlan_of_free (free : (p.filePlan bundles).objection = none) :
    (p.filePlan bundles).ops = (p.plans bundles).flatMap VolumePlan.ops ∧
      (p.filePlan bundles).written = (p.selected bundles).map Selected.path := by
  have ops : (p.filePlan bundles).ops = (p.plans bundles).flatMap VolumePlan.ops := by
    rw [filePlan, FilePlan.ofVolumes_eq, FilePlan.carried_of_objection_eq_none free, plans]
  refine ⟨ops, ?_⟩
  rw [FilePlan.written, ops, List.filterMap_flatMap, selected_eq, List.map_flatMap]
  exact List.flatMap_congr fun v _ => VolumePlan.written_ops

/-! ### What is left behind -/

/-- What is left behind of the volumes of a pod. -/
structure Wrote (p : Pod) (bundles : List Bundle) (root : String) (t t' : Tree) : Prop where
  /-- Of the files at a place the last one is there, with the last mode. -/
  files : ∀ place last, (p.selectedAt bundles root place).getLast? = some last →
    t'.entries.get? place =
      some (.file ((Selected.lastMode? (p.selectedAt bundles root place)).getD
        (FileNode.keptMode (t.entries.get? place))) last.bytes)
  directories : ∀ place ∈ p.ways bundles root, t'.entries.get? place = some .directory
  /-- Elsewhere there are no changes but new directories. -/
  others : ∀ place, p.selectedAt bundles root place = [] →
    t'.entries.get? place = t.entries.get? place ∨
      place ∈ p.ways bundles root ∧ t.entries.get? place = none ∧
        t'.entries.get? place = some .directory

/-- Operations for volumes have made directories of what they lead through, and files of files. -/
theorem kinds_of_done {plans : List VolumePlan} (given : ∀ v ∈ plans, v.directory ≠ "")
    (free : ∀ v ∈ plans, v.objection? = none)
    (done : FilePlan.Done root (plans.flatMap VolumePlan.ops) t t') :
    (∀ place ∈ plans.flatMap (VolumePlan.way root), t'.entries.get? place = some .directory) ∧
      ∀ f ∈ plans.flatMap VolumePlan.selected,
        t'.entries.get? (f.place root) ≠ some .directory := by
  constructor
  · intro place on
    obtain ⟨v, member, on⟩ := List.mem_flatMap.1 on
    obtain ⟨-, stack, n, walked, there, kind⟩ := done.settled (.makeDirectories v.directory)
      (List.mem_flatMap.2 ⟨v, member, List.mem_cons_self⟩)
    cases n with
    | directory => exact Tree.entry_of_way (Tree.isDirectory_iff.2 ⟨stack, walked, there⟩) on
    | file => cases kind
  · intro f among
    obtain ⟨v, member, among⟩ := List.mem_flatMap.1 among
    obtain ⟨g, file, rfl⟩ := List.mem_map.1 among
    obtain ⟨-, stack, n, walked, there, kind⟩ := done.settled (.write v.directory g.name g.bytes)
      (List.mem_flatMap.2 ⟨v, member, VolumePlan.write_mem_ops.2 ⟨rfl, g, file, rfl, rfl⟩⟩)
    have below : stack ≠ [] := by
      rintro rfl
      cases there
      cases kind
    rw [Tree.node?_eq t' below, Tree.key_of_walk walked, FileOp.path,
      VolumePlan.place_file (given v member)
        (VolumePlan.isPlainName_of_mem (free v member) file)] at there
    rw [there]
    rintro same
    cases same
    cases kind

/-- Where nothing leads through, the files at a place are put one after the other. -/
theorem touch_of_apart {plans : List VolumePlan} (given : ∀ v ∈ plans, v.directory ≠ "")
    (free : ∀ v ∈ plans, v.objection? = none)
    (apart : place ∉ plans.flatMap (VolumePlan.way root)) (n : Option FileNode) :
    FilePlan.touch root place (plans.flatMap VolumePlan.ops) n =
      ((plans.flatMap VolumePlan.selected).filter fun f => f.place root = place).foldl
        (fun n f => f.put n) n := by
  induction plans generalizing n with
  | nil => rfl
  | cons v plans ih =>
      obtain ⟨given, givens⟩ := List.forall_mem_cons.1 given
      obtain ⟨free, frees⟩ := List.forall_mem_cons.1 free
      rw [List.flatMap_cons, List.mem_append, not_or] at apart
      rw [List.flatMap_cons, FilePlan.touch_append, VolumePlan.touch_ops given free,
        if_neg apart.1, ih givens frees apart.2, List.flatMap_cons, List.filter_append,
        List.foldl_append]

/-- Where no file is put, directories are made. -/
theorem touch_of_none {plans : List VolumePlan} (given : ∀ v ∈ plans, v.directory ≠ "")
    (free : ∀ v ∈ plans, v.objection? = none)
    (without : (plans.flatMap VolumePlan.selected).filter (fun f => f.place root = place) = [])
    (n : Option FileNode) :
    FilePlan.touch root place (plans.flatMap VolumePlan.ops) n =
      if place ∈ plans.flatMap (VolumePlan.way root) then some .directory else n := by
  induction plans generalizing n with
  | nil => rfl
  | cons v plans ih =>
      obtain ⟨given, givens⟩ := List.forall_mem_cons.1 given
      obtain ⟨free, frees⟩ := List.forall_mem_cons.1 free
      rw [List.flatMap_cons, List.filter_append, List.append_eq_nil_iff] at without
      rw [List.flatMap_cons, FilePlan.touch_append, VolumePlan.touch_ops given free, without.1,
        List.foldl_nil, ih givens frees without.2, List.flatMap_cons]
      simp only [List.mem_append]
      split
      · rename_i later
        rw [if_pos (.inr later)]
      · rename_i later
        simp only [later, or_false]

/-- Operations for the volumes of a pod that all succeed leave behind what the pod selects. -/
theorem wrote_of_ok (free : (p.filePlan bundles).objection = none)
    (ok : FilePlan.applyOps root (p.filePlan bundles).ops t = (t', .ok ())) :
    Wrote p bundles root t t' := by
  have given : ∀ v ∈ p.plans bundles, v.directory ≠ "" := fun v => directory_ne_empty
  have frees : ∀ v ∈ p.plans bundles, v.objection? = none := by
    rwa [filePlan, FilePlan.ofVolumes_eq, List.findSome?_eq_none_iff] at free
  rw [(filePlan_of_free free).1] at ok
  have done := FilePlan.done_of_ok ok
  obtain ⟨directories, files⟩ := kinds_of_done given frees done
  rw [← ways_eq] at directories
  rw [← selected_eq] at files
  refine ⟨fun place last ends => ?_, directories, fun place without => ?_⟩
  · have among : last ∈ p.selected bundles ∧ last.place root = place := by
      simpa [selectedAt] using List.mem_of_getLast? ends
    have apart : place ∉ p.ways bundles root := fun on =>
      files last among.1 (among.2 ▸ directories place on)
    rw [ways_eq] at apart
    rw [done.entry, touch_of_apart given frees apart, ← selected_eq]
    exact Selected.foldl_put ends _
  · rw [selectedAt, selected_eq] at without
    have left := (done.entry place).trans (touch_of_none given frees without _)
    rw [← ways_eq] at left
    split at left
    · rename_i on
      cases before : t.entries.get? place with
      | none => exact .inr ⟨on, rfl, left⟩
      | some n =>
          -- what was there has become a directory, so it was one
          obtain ⟨n', there, kind⟩ := done.keeps place n before
          cases there.symm.trans left
          cases n with
          | directory => exact .inl left
          | file => cases kind
    · exact .inl left

theorem exists_volume_of_selected {f : Selected} (member : f ∈ p.selected bundles) :
    ∃ v ∈ p.spec.volumes, ∃ source, v.source = .configMap source ∧
      f.directory = directoryName p.ns source.name := by
  rw [selected_eq] at member
  obtain ⟨plan, planned, among⟩ := List.mem_flatMap.1 member
  obtain ⟨v, declared, planned⟩ := List.mem_filterMap.1 planned
  obtain ⟨source, data, projects, -, rfl⟩ := Volume.plan?_eq_some_iff.1 planned
  obtain ⟨g, -, rfl⟩ := List.mem_map.1 among
  exact ⟨v, declared, source, projects, rfl⟩

/-- Where names of directories have no slashes, files are at one place exactly if they have one
path. -/
theorem place_eq_iff {f g : Selected} (member : f ∈ p.selected bundles)
    (member' : g ∈ p.selected bundles) (plain : Path.isPlainName f.name = true)
    (plain' : Path.isPlainName g.name = true) (slash : '/' ∉ f.directory.toList)
    (slash' : '/' ∉ g.directory.toList) : f.place root = g.place root ↔ f.path = g.path := by
  have named {h : Selected} (member : h ∈ p.selected bundles) (slash : '/' ∉ h.directory.toList) :
      Path.IsName h.directory := by
    obtain ⟨-, -, source, -, same⟩ := exists_volume_of_selected member
    rw [same] at slash ⊢
    exact isName_of_notMem slash
  exact Tree.place_inj (named member slash) (Path.isName_of_isPlainName plain)
    (named member' slash') (Path.isName_of_isPlainName plain')

/-- An admitted pod selects files in directories without slashes in their names. -/
theorem notMem_directory_of_check (admitted : p.check = .ok ()) {f : Selected}
    (member : f ∈ p.selected bundles) : '/' ∉ f.directory.toList := by
  obtain ⟨v, declared, source, projects, same⟩ := exists_volume_of_selected member
  rw [same]
  exact notMem_directoryName_of_check admitted declared projects

/-- The volumes of a pod whose files have plain names, done without a failure: the files are given
in order, the last of those at one place is there with the last mode, the directories are there,
and nothing else has changed. Where names of directories have no slashes, as in an admitted pod
(`notMem_directory_of_check`), files are at one place exactly if they have one path. -/
theorem volumes_written (plain : ∀ f ∈ p.selected bundles, Path.isPlainName f.name = true)
    (succeeded : (FilePlan.applyOps root (p.filePlan bundles).ops t).2 = .ok ()) :
    ∃ t', (p.filePlan bundles).apply root t =
        (t', .ok ((p.selected bundles).map Selected.path)) ∧
      Wrote p bundles root t t' ∧
      ∀ f ∈ p.selected bundles, ∀ g ∈ p.selected bundles,
        '/' ∉ f.directory.toList → '/' ∉ g.directory.toList →
        (f.place root = g.place root ↔ f.path = g.path) := by
  have free := objection_eq_none_iff.2 plain
  obtain ⟨t', ok⟩ : ∃ t', FilePlan.applyOps root (p.filePlan bundles).ops t = (t', .ok ()) :=
    ⟨_, Prod.ext rfl succeeded⟩
  refine ⟨t', ?_, wrote_of_ok free ok, fun f member g member' slash slash' => ?_⟩
  · rw [FilePlan.apply, ok, free, (filePlan_of_free free).2]
  · exact place_eq_iff member member' (plain f member) (plain g member') slash slash'

/-- A pod with two volumes of one config map: items that become one file, and all keys. -/
def overlapping (mode : UInt32) : Pod where
  metadata := ⟨"web", "ns", "uid-1", .empty, .empty⟩
  spec :=
    { containers := [.mounting "all"]
      initContainers := []
      volumes :=
        [⟨"chosen", .configMap
            ⟨"app", some [⟨"b", "a", some mode⟩, ⟨"c", "a", none⟩], none, none⟩⟩,
          ⟨"all", .configMap ⟨"app", none, none, none⟩⟩]
      restartPolicy := .always
      gracePeriod := none }

/-- A bundle with a config map of two keys. -/
def twoKeys : Bundle :=
  ⟨"", "", [⟨⟨"app", "ns"⟩, .ofList [("b", "2"), ("a", "1")], .empty, none⟩], [], []⟩

/-- The bytes of the second volume count, and the mode from the first one, without what is no
permission in it. -/
theorem overlapping_volumes_written :
    let p := overlapping 0o1600
    let t : Tree := ⟨.ofList [("srv", .directory), ("srv/kept", .file 0o600 [])], true⟩
    ∃ t', (p.filePlan [twoKeys]).apply "/srv" t =
        (t', .ok ["ns-app/a", "ns-app/a", "ns-app/b"]) ∧
      Wrote p [twoKeys] "/srv" t t' ∧
      t'.entries.get? "srv/ns-app/a" = some (.file 0o600 (Utf8.ofString "1")) := by
  intro p t
  have plain : ∀ f ∈ p.selected [twoKeys], Path.isPlainName f.name = true := by decide +kernel
  have succeeded : (FilePlan.applyOps "/srv" (p.filePlan [twoKeys]).ops t).2 = .ok () := by
    decide +kernel
  obtain ⟨t', applied, wrote, -⟩ := volumes_written plain succeeded
  have paths : (p.selected [twoKeys]).map Selected.path =
      ["ns-app/a", "ns-app/a", "ns-app/b"] := by
    decide +kernel
  have mode : (Selected.lastMode? (p.selectedAt [twoKeys] "/srv" "srv/ns-app/a")).getD
      (FileNode.keptMode (t.entries.get? "srv/ns-app/a")) = 0o600 := by
    decide +kernel
  have last : (p.selectedAt [twoKeys] "/srv" "srv/ns-app/a").getLast? =
      some ⟨"ns-app", "a", Utf8.ofString "1", none⟩ := by
    decide +kernel
  have left := wrote.files "srv/ns-app/a" _ last
  rw [mode] at left
  rw [paths] at applied
  exact ⟨t', applied, wrote, left⟩

end Pod

end Podkeeper
