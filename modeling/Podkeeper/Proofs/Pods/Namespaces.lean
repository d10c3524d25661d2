import Podkeeper.Proofs.Files.Effects
import Podkeeper.Proofs.Pods.Volumes

/-!
Directories of different namespaces.

The directory of a config map is named by the namespace and the config map with a hyphen between
them. Both may have hyphens themselves, so two namespaces can share a directory: one namespace is
the other one and more, and that more begins the name of the other's config map
(`directoryName_eq_iff`). Files in it are apart as long as their names differ
(`Pod.mem_written_of_both_iff`).
-/

namespace Podkeeper

/-! ### Directories -/

theorem directoryName_ne_empty (ns name : String) : directoryName ns name ≠ "" := by
  intro none
  simpa [directoryName] using congrArg String.toList none

/-- A directory without slashes in its name is the name of an entry. -/
theorem isName_of_notMem {ns name : String} (slash : '/' ∉ (directoryName ns name).toList) :
    Path.IsName (directoryName ns name) := by
  have hyphen : '-' ∈ (directoryName ns name).toList := by simp [directoryName]
  refine ⟨directoryName_ne_empty ns name, ?_, ?_, slash⟩
  · intro point
    rw [point] at hyphen
    exact absurd hyphen (by decide)
  · intro points
    rw [points] at hyphen
    exact absurd hyphen (by decide)

/-- A directory whose namespace begins with that of another one of the same name. -/
theorem directoryName_cut {ns name ns' name' : String} {more : List Char}
    (longer : ns'.toList = ns.toList ++ more)
    (tail : '-' :: name.toList = more ++ '-' :: name'.toList) :
    (ns = ns' ∧ name = name') ∨
      ∃ part, ns' = directoryName ns part ∧ name = directoryName part name' := by
  cases more with
  | nil =>
      rw [List.append_nil] at longer
      exact .inl ⟨String.toList_inj.1 longer.symm, String.toList_inj.1 (List.cons.inj tail).2⟩
  | cons c part =>
      rw [List.cons_append, List.cons.injEq] at tail
      obtain ⟨rfl, tail⟩ := tail
      refine .inr ⟨.ofList part, String.toList_inj.1 ?_, String.toList_inj.1 ?_⟩
      · simp [directoryName, longer]
      · simp [directoryName, tail]

/-- Directories with one name are of one config map, or what stands behind the hyphen of one
begins before that of the other. -/
theorem directoryName_eq_iff {ns name ns' name' : String} :
    directoryName ns name = directoryName ns' name' ↔
      (ns = ns' ∧ name = name') ∨
      ∃ part, (ns' = directoryName ns part ∧ name = directoryName part name') ∨
        (ns = directoryName ns' part ∧ name' = directoryName part name) := by
  constructor
  · intro same
    have sides : ns.toList ++ '-' :: name.toList = ns'.toList ++ '-' :: name'.toList := by
      simpa [directoryName] using congrArg String.toList same
    rcases List.append_eq_append_iff.1 sides with ⟨more, longer, tail⟩ | ⟨more, longer, tail⟩
    · rcases directoryName_cut longer tail with both | ⟨part, first⟩
      · exact .inl both
      · exact .inr ⟨part, .inl first⟩
    · rcases directoryName_cut longer tail with ⟨rfl, rfl⟩ | ⟨part, second⟩
      · exact .inl ⟨rfl, rfl⟩
      · exact .inr ⟨part, .inr second⟩
  · rintro (⟨rfl, rfl⟩ | ⟨part, ⟨rfl, rfl⟩ | ⟨rfl, rfl⟩⟩)
    · rfl
    · simp [directoryName, String.append_assoc]
    · simp [directoryName, String.append_assoc]

/-! ### What pods place -/

/-- The volumes of a pod that files are made for, in order. -/
def Pod.carried (p : Pod) (bundles : List Bundle) : List VolumePlan :=
  FilePlan.carried (p.spec.volumes.filterMap (Volume.plan? p.ns bundles))

/-- A pod places a file for a config map: one of its volumes projects the config map, and its
files are made. -/
def Pod.Places (p : Pod) (bundles : List Bundle) (configMap file : String) : Prop :=
  ∃ v ∈ p.spec.volumes, ∃ q plan, v.source = .configMap q ∧ q.name = configMap ∧
    v.plan? p.ns bundles = some plan ∧ plan ∈ p.carried bundles ∧ ∃ f ∈ plan.files, f.name = file

namespace VolumePlan

/-- What is written for a volume are its files. -/
theorem write_mem_ops {v : VolumePlan} {directory name : String} {bytes : Bytes} :
    .write directory name bytes ∈ v.ops ↔
      directory = v.directory ∧ ∃ f ∈ v.files, f.name = name ∧ f.bytes = bytes := by
  rw [ops, List.mem_cons, List.mem_flatMap]
  constructor
  · rintro (same | ⟨f, member, among⟩)
    · cases same
    · rw [VolumeFile.ops, List.mem_cons, Option.mem_toList, Option.map_eq_some_iff] at among
      rcases among with same | ⟨mode, -, same⟩
      · cases same
        exact ⟨rfl, f, member, rfl, rfl⟩
      · cases same
  · rintro ⟨rfl, f, member, rfl, rfl⟩
    exact .inr ⟨f, member, List.mem_cons_self⟩

/-- The files of a volume that nothing is objected to have plain names. -/
theorem isPlainName_of_mem {v : VolumePlan} (free : v.objection? = none) {f : VolumeFile}
    (member : f ∈ v.files) : Path.isPlainName f.name = true := by
  rw [objection?, Option.map_eq_none_iff, List.find?_eq_none] at free
  simpa using free f member

end VolumePlan

namespace Pod

variable {p q : Pod} {bundles bundles' : List Bundle} {configMap file path : String}

/-- What is written for a pod is what it places. -/
theorem write_mem_ops {directory name : String} {bytes : Bytes}
    (member : .write directory name bytes ∈ (p.filePlan bundles).ops) :
    ∃ configMap, directory = directoryName p.ns configMap ∧ p.Places bundles configMap name := by
  rw [filePlan, FilePlan.ofVolumes_eq, List.mem_flatMap] at member
  obtain ⟨plan, carried, member⟩ := member
  obtain ⟨v, declared, planned⟩ := List.mem_filterMap.1 (List.takeWhile_subset _ carried)
  obtain ⟨q, data, projects, -, rfl⟩ := Volume.plan?_eq_some_iff.1 planned
  obtain ⟨rfl, f, among, rfl, -⟩ := VolumePlan.write_mem_ops.1 member
  exact ⟨q.name, rfl, v, declared, q, _, projects, rfl, planned, carried, f, among, rfl⟩

/-- What a pod places is written for it. -/
theorem Places.exists_write (places : p.Places bundles configMap file) :
    ∃ bytes, .write (directoryName p.ns configMap) file bytes ∈ (p.filePlan bundles).ops := by
  obtain ⟨v, declared, q, plan, projects, rfl, planned, carried, f, member, rfl⟩ := places
  obtain ⟨q', data, projects', -, rfl⟩ := Volume.plan?_eq_some_iff.1 planned
  cases projects.symm.trans projects'
  refine ⟨f.bytes, ?_⟩
  rw [filePlan, FilePlan.ofVolumes_eq]
  exact List.mem_flatMap.2
    ⟨_, carried, VolumePlan.write_mem_ops.2 ⟨rfl, f, member, rfl, rfl⟩⟩

theorem isName_directoryName {ns name : String} (label : Name.checkLabel "namespace" ns = .ok ())
    (plain : '/' ∉ name.toList) : Path.IsName (directoryName ns name) := by
  refine isName_of_notMem ?_
  simp [directoryName, Name.notMem_of_label label (c := '/') (by decide), plain]

/-- The directories of an admitted pod have no slashes in their names. -/
theorem notMem_directoryName_of_check (admitted : p.check = .ok ()) {v : Volume}
    (declared : v ∈ p.spec.volumes) {source : Projection}
    (projects : v.source = .configMap source) :
    '/' ∉ (directoryName p.ns source.name).toList := by
  have subdomain : Name.checkSubdomain "configMap" source.name = .ok () := by
    have checked := (Volume.check_eq_ok.1 (volume_of_check admitted declared)).2
    rw [projects] at checked
    exact checked.1
  have slash : '/' ∉ source.name.toList := fun mem =>
    absurd (Name.isLabelChar_of_subdomain subdomain mem (by decide)) (by decide)
  exact (isName_directoryName (namespace_of_check admitted) slash).plain

/-- What an admitted pod places has names that are parts of paths. -/
theorem isName_of_places (admitted : p.check = .ok ()) (places : p.Places bundles configMap file) :
    Path.IsName (directoryName p.ns configMap) ∧ Path.IsName file := by
  obtain ⟨v, declared, q, plan, projects, rfl, -, carried, f, member, rfl⟩ := places
  refine ⟨isName_of_notMem (notMem_directoryName_of_check admitted declared projects), ?_⟩
  refine Path.isName_of_isPlainName (VolumePlan.isPlainName_of_mem ?_ member)
  simpa using List.mem_takeWhile_imp carried

theorem isNamed_of_mem_ops (admitted : p.check = .ok ()) {op : FileOp}
    (member : op ∈ (p.filePlan bundles).ops) : op.IsNamed := by
  cases op with
  | write directory name bytes =>
      obtain ⟨configMap, rfl, places⟩ := write_mem_ops member
      exact isName_of_places admitted places
  | makeDirectories | setMode => trivial

/-- The files that a pod writes are those that it places. -/
theorem mem_written_iff :
    path ∈ (p.filePlan bundles).written ↔
      ∃ configMap file, p.Places bundles configMap file ∧
        path = Path.join (directoryName p.ns configMap) file := by
  rw [FilePlan.written, List.mem_filterMap]
  constructor
  · rintro ⟨op, member, written⟩
    cases op with
    | write directory name bytes =>
        cases written
        obtain ⟨configMap, rfl, places⟩ := write_mem_ops member
        exact ⟨configMap, name, places, rfl⟩
    | makeDirectories | setMode => cases written
  · rintro ⟨configMap, file, places, rfl⟩
    obtain ⟨bytes, member⟩ := places.exists_write
    exact ⟨_, member, rfl⟩

/-- Files of a pod and of one from another namespace are on one path exactly if they have one name
and one namespace goes on with a hyphen and what the other's config map begins with. -/
theorem mem_written_of_both_iff (admitted : p.check = .ok ()) (admitted' : q.check = .ok ())
    (other : p.ns ≠ q.ns) :
    (∃ path ∈ (p.filePlan bundles).written, path ∈ (q.filePlan bundles').written) ↔
      ∃ configMap configMap' file part, p.Places bundles configMap file ∧
        q.Places bundles' configMap' file ∧
        ((q.ns = directoryName p.ns part ∧ configMap = directoryName part configMap') ∨
          (p.ns = directoryName q.ns part ∧ configMap' = directoryName part configMap)) := by
  simp only [mem_written_iff]
  constructor
  · rintro ⟨path, ⟨configMap, file, places, rfl⟩, configMap', file', places', same⟩
    obtain ⟨directory, name⟩ := isName_of_places admitted places
    obtain ⟨directory', name'⟩ := isName_of_places admitted' places'
    obtain ⟨directories, rfl⟩ := (directory.join_inj name directory' name').1 same
    obtain ⟨part, shared⟩ :=
      (directoryName_eq_iff.1 directories).resolve_left fun both => other both.1
    exact ⟨configMap, configMap', file, part, places, places', shared⟩
  · rintro ⟨configMap, configMap', file, part, places, places', shared⟩
    have directories := directoryName_eq_iff.2 (.inr ⟨part, shared⟩)
    exact ⟨_, ⟨configMap, file, places, rfl⟩, configMap', file, places', by rw [directories]⟩

end Pod

end Podkeeper
