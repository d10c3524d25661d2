import Podkeeper.Proofs.Lifecycle.Creating
import Podkeeper.Proofs.Pods.Bundles
import Podkeeper.Proofs.Pods.Namespaces

/-!
The files of a pod stay below the data root.

Every path that is worked on for the volumes of an admitted pod is a directory below the data root,
named for the namespace and a config map of the pod, or a file in such a directory. The name of the
directory is plain because the check of the pod holds the names in it to a few characters, that of
the file because a volume is left alone unless all its files have plain names. So it is whatever the
bundles bring and however far the operations come (`Site.files_below_root`).
-/

namespace Podkeeper

/-! ### Plain names -/

/-- The characters of labels, and points, are plain. -/
theorem Name.plain_of_isLabelChar {c : Char} (kind : isLabelChar c = true ∨ c = '.') :
    c ≠ '/' ∧ c ≠ '\\' ∧ c ≠ '\x00' := by
  rcases kind with label | rfl
  · refine ⟨?_, ?_, ?_⟩ <;>
      · rintro rfl
        exact absurd label (by decide)
  · decide

/-- The directory of a config map has a plain name. -/
theorem isPlainName_directoryName {kind ns name : String}
    (label : Name.checkLabel "namespace" ns = .ok ())
    (subdomain : Name.checkSubdomain kind name = .ok ()) :
    Path.isPlainName (directoryName ns name) = true := by
  have slash : '/' ∉ name.toList := fun member =>
    absurd (Name.isLabelChar_of_subdomain subdomain member (by decide)) (by decide)
  have named := Pod.isName_directoryName label slash
  have plain : ∀ c ∈ (directoryName ns name).toList, c ≠ '/' ∧ c ≠ '\\' ∧ c ≠ '\x00' := by
    intro c member
    simp only [directoryName, String.toList_append, List.mem_append] at member
    rcases member with (member | hyphen) | member
    · exact Name.plain_of_isLabelChar (.inl (Name.isLabelChar_of_mem label member))
    · rw [List.mem_singleton.1 hyphen]
      decide
    · refine Name.plain_of_isLabelChar (or_iff_not_imp_right.2 fun other => ?_)
      exact Name.isLabelChar_of_subdomain subdomain member other
  simp only [Path.isPlainName, Bool.and_eq_true, decide_eq_true_eq, List.all_eq_true]
  exact ⟨⟨⟨named.given, named.stays⟩, named.up⟩, fun c member => and_assoc.2 (plain c member)⟩

theorem Pod.configMap_of_check {p : Pod} (admitted : p.check = .ok ()) {v : Volume}
    (declared : v ∈ p.spec.volumes) {q : Projection} (projects : v.source = .configMap q) :
    Name.checkSubdomain "configMap" q.name = .ok () := by
  have checked := (Volume.check_eq_ok.1 (volume_of_check admitted declared)).2
  rw [projects] at checked
  exact checked.1

/-! ### Operations -/

namespace VolumePlan

/-- An operation for a volume is on its directory or on one of its files. -/
theorem exists_path_of_mem_ops {v : VolumePlan} {op : FileOp} (member : op ∈ v.ops)
    (root : String) :
    op.path root = Path.join root v.directory ∨
      ∃ f ∈ v.files, op.path root = Path.join (Path.join root v.directory) f.name := by
  rw [ops, List.mem_cons, List.mem_flatMap] at member
  rcases member with rfl | ⟨f, among, member⟩
  · exact .inl rfl
  · rw [VolumeFile.ops, List.mem_cons, Option.mem_toList, Option.map_eq_some_iff] at member
    rcases member with rfl | ⟨mode, -, rfl⟩
    · exact .inr ⟨f, among, rfl⟩
    · exact .inr ⟨f, among, rfl⟩

end VolumePlan

/-- A path is that of a directory of a plain name below a root, or of a file of a plain name in
it. Both are below the root for a reader who resolves points, too. -/
inductive Path.IsHeldBy (root directory : String) : String → Prop where
  | directory : isPlainName directory = true →
    resolve (join root directory) = resolve root ++ [directory] →
    IsHeldBy root directory (join root directory)
  | file (name : String) : isPlainName directory = true → isPlainName name = true →
    resolve (join (join root directory) name) = resolve root ++ [directory, name] →
    IsHeldBy root directory (join (join root directory) name)

namespace Pod

variable {p : Pod} {bundles : List Bundle}

/-- An operation for an admitted pod is held by the directory of one of its config maps. -/
theorem isHeldBy_of_mem_ops (admitted : p.check = .ok ()) {op : FileOp}
    (member : op ∈ (p.filePlan bundles).ops) (root : String) :
    ∃ v ∈ p.spec.volumes, ∃ q, v.source = .configMap q ∧
      Path.IsHeldBy root (directoryName p.ns q.name) (op.path root) := by
  rw [filePlan, FilePlan.ofVolumes_eq, List.mem_flatMap] at member
  obtain ⟨plan, carried, member⟩ := member
  obtain ⟨v, declared, planned⟩ := List.mem_filterMap.1 (List.takeWhile_subset _ carried)
  obtain ⟨q, data, projects, -, rfl⟩ := Volume.plan?_eq_some_iff.1 planned
  have plain : Path.isPlainName (directoryName p.ns q.name) = true :=
    isPlainName_directoryName (namespace_of_check admitted)
      (configMap_of_check admitted declared projects)
  have below := (Path.isName_of_isPlainName plain).resolve_join root
  refine ⟨v, declared, q, projects, ?_⟩
  rcases VolumePlan.exists_path_of_mem_ops member root with same | ⟨f, among, same⟩
  · rw [same]
    exact .directory plain below
  · have free : VolumePlan.objection? ⟨directoryName p.ns q.name, q.files data⟩ = none := by
      simpa using List.mem_takeWhile_imp carried
    have name := VolumePlan.isPlainName_of_mem free among
    rw [same]
    refine .file f.name plain name ?_
    rw [(Path.isName_of_isPlainName name).resolve_join, below, List.append_assoc]
    rfl

end Pod

namespace Site

/-- Whatever is written for a plan is one of its operations. -/
theorem exists_op_of_mem {site : Site} {plan : FilePlan} {acts : List Act}
    {rest : Program (Except Failure (List String))}
    (reached : Program.Reaches (site.writeVolumes plan).run acts rest) {a : Act}
    (done : a ∈ acts) : ∃ op ∈ plan.ops, a.effect = .file op := by
  obtain ⟨more, r, -, yields⟩ := reached.exists_yields
  have among : a ∈ acts ++ more := List.mem_append_left _ done
  rcases yields_writeVolumes yields with ⟨all, -⟩ | ⟨before, op, after, e, split, all, -⟩
  · rw [all] at among
    obtain ⟨op, member, rfl⟩ := List.mem_map.1 among
    exact ⟨op, member, rfl⟩
  · rw [split]
    rw [all] at among
    rcases List.mem_append.1 among with among | last
    · obtain ⟨op', member, rfl⟩ := List.mem_map.1 among
      exact ⟨op', List.mem_append_left _ member, rfl⟩
    · rw [List.mem_singleton.1 last]
      exact ⟨op, List.mem_append_right _ List.mem_cons_self, rfl⟩

/-- Writing the volumes of an admitted pod does nothing but file operations, and each of them is on
a directory below the data root that is named for the namespace and a config map of the pod, or on
a file in that directory. -/
theorem files_below_root (site : Site) {p : Pod} (admitted : p.check = .ok ())
    (bundles : List Bundle) {acts : List Act} {rest : Program (Except Failure (List String))}
    (reached : Program.Reaches (site.writeVolumes (p.filePlan bundles)).run acts rest) {a : Act}
    (done : a ∈ acts) :
    ∃ op, a.effect = .file op ∧ ∃ v ∈ p.spec.volumes, ∃ q, v.source = .configMap q ∧
      Path.IsHeldBy site.dataRoot (directoryName p.ns q.name) (op.path site.dataRoot) := by
  obtain ⟨op, planned, same⟩ := exists_op_of_mem reached done
  exact ⟨op, same, Pod.isHeldBy_of_mem_ops admitted planned site.dataRoot⟩

end Site

/-- A file that could not be written, behind a directory that was made. -/
theorem denied_file_below_srv :
    let p := Pod.configured
    let bundles : List Bundle := [⟨"own", "ns", [.single "" "app" "mode" "own"], [], []⟩]
    let site : Site := ⟨"/srv", false⟩
    let denied : Act := ⟨.file (.write "ns-app" "mode" (Utf8.ofString "own")), .error .denied⟩
    p.check = .ok () ∧
      Program.Reaches (site.writeVolumes (p.filePlan bundles)).run
        [.filed (.makeDirectories "ns-app"), denied]
        (.done (.error (.io "/srv/ns-app/mode" FileError.denied.message))) ∧
      ∃ op, denied.effect = .file op ∧ ∃ v ∈ p.spec.volumes, ∃ q, v.source = .configMap q ∧
        Path.IsHeldBy site.dataRoot (directoryName p.ns q.name) (op.path site.dataRoot) := by
  intro p bundles site denied
  have admitted : p.check = .ok () := by decide +kernel
  have plan : p.filePlan bundles =
      ⟨[.makeDirectories "ns-app", .write "ns-app" "mode" (Utf8.ofString "own")], none⟩ := by
    decide +kernel
  have path : (FileOp.write "ns-app" "mode" (Utf8.ofString "own")).path site.dataRoot =
      "/srv/ns-app/mode" := by
    decide +kernel
  have reached : Program.Reaches (site.writeVolumes (p.filePlan bundles)).run
      [.filed (.makeDirectories "ns-app"), denied]
      (.done (.error (.io "/srv/ns-app/mode" FileError.denied.message))) := by
    rw [plan, ← path]
    exact ⟨_, rfl, _, rfl, rfl⟩
  exact ⟨admitted, reached, Site.files_below_root site admitted bundles reached
    (List.mem_cons_of_mem _ (List.mem_singleton_self _))⟩

end Podkeeper
