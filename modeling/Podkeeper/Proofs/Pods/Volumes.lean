import Mathlib.Data.List.TakeWhile
import Podkeeper.Lifecycle.Assembly
import Podkeeper.Pod.VolumeFiles
import Podkeeper.Proofs.Pods.Mounts

/-!
Where the files of volumes go.

What is done for the volumes of a pod is done volume by volume, up to the first one with an
objection (`FilePlan.ofVolumes_eq`). The files of a volume are written to the directory of its
config map, and a mount leads to the directory of its volume. These are one directory exactly if
the volume is named like the config map (`mount_meets_volume`), and nothing makes them so
(`mount_misses_volume`).
-/

namespace Podkeeper

/-! ### Plans -/

/-- The directory that an operation works in, relative to the data root. -/
def FileOp.directory : FileOp → String
  | .makeDirectories directory | .write directory _ _ | .setMode directory _ _ => directory

theorem VolumePlan.directory_of_mem_ops {v : VolumePlan} {op : FileOp} (member : op ∈ v.ops) :
    op.directory = v.directory := by
  rw [ops, List.mem_cons, List.mem_flatMap] at member
  rcases member with rfl | ⟨f, -, member⟩
  · rfl
  · rw [VolumeFile.ops, List.mem_cons, Option.mem_toList, Option.map_eq_some_iff] at member
    rcases member with rfl | ⟨mode, -, rfl⟩ <;> rfl

/-- The volumes that files are made for: those before the first one with an objection. -/
def FilePlan.carried (vs : List VolumePlan) : List VolumePlan :=
  vs.takeWhile fun v => v.objection?.isNone

theorem FilePlan.ofVolumes_eq (vs : List VolumePlan) :
    ofVolumes vs = ⟨(carried vs).flatMap VolumePlan.ops, vs.findSome? VolumePlan.objection?⟩ := by
  induction vs with
  | nil => rfl
  | cons v vs ih =>
      rw [ofVolumes, carried]
      cases objected : v.objection? with
      | some objection => simp [objected]
      | none => simp [objected, ih, carried]

/-- Without an objection all volumes are carried. -/
theorem FilePlan.carried_of_objection_eq_none {vs : List VolumePlan}
    (free : (ofVolumes vs).objection = none) : carried vs = vs := by
  rw [ofVolumes_eq, List.findSome?_eq_none_iff] at free
  refine List.takeWhile_eq_self_iff.2 fun v member => ?_
  rw [free v member]
  rfl

/-! ### Mounts -/

namespace Engine

/-- The directory that a specification mounts something of: the first part of its host side. -/
def hostDirectory (spec : String) : String :=
  String.ofList ((hostSide spec).toList.takeWhile (· ≠ '/'))

theorem toList_hostSide {spec : String} (colon : ':' ∈ spec.toList) :
    (hostSide spec).toList = spec.toList.takeWhile (· ≠ ':') := by
  obtain ⟨target, plain, whole⟩ := exists_hostSide colon
  have front : ∀ c ∈ (hostSide spec).toList, decide (c ≠ ':') = true :=
    fun c member => decide_eq_true fun same => plain (same ▸ member)
  rw [whole, List.takeWhile_append_of_pos front]
  simp

end Engine

namespace Mount

/-- A specification begins with the directory of the volume, which a slash or a colon ends. -/
theorem exists_spec_toList (ns : String) (m : Mount) :
    ∃ mark rest, (mark = '/' ∨ mark = ':') ∧
      (m.spec ns).toList = (directoryName ns m.volume).toList ++ mark :: rest := by
  rcases host_eq ns m with same | ⟨subPath, -, same⟩
  · exact ⟨':', m.path.toList, .inr rfl, by simp [spec, same]⟩
  · exact ⟨'/', subPath.toList ++ ':' :: m.path.toList, .inl rfl, by simp [spec, same]⟩

/-- A mount of a volume with a plain name is one of the volume's directory, whatever its
sub-path. -/
theorem hostDirectory_spec {ns : String} (label : Name.checkLabel "namespace" ns = .ok ())
    {m : Mount} (slash : '/' ∉ m.volume.toList) (colon : ':' ∉ m.volume.toList) :
    Engine.hostDirectory (m.spec ns) = directoryName ns m.volume := by
  have plain : ∀ mark, mark = '/' ∨ mark = ':' → ∀ c ∈ (directoryName ns m.volume).toList,
      decide (c ≠ mark) = true := by
    rintro mark kind c member
    have absent : mark ∉ (directoryName ns m.volume).toList := by
      rcases kind with rfl | rfl
      · simp [directoryName, Name.notMem_of_label label (c := '/') (by decide), slash]
      · simp [directoryName, Name.notMem_of_label label (c := ':') (by decide), colon]
    exact decide_eq_true fun same => absent (same ▸ member)
  obtain ⟨mark, rest, kind, whole⟩ := exists_spec_toList ns m
  rw [Engine.hostDirectory, Engine.toList_hostSide (colon_mem_spec ns m), whole,
    List.takeWhile_append_of_pos (plain ':' (.inr rfl)),
    List.takeWhile_append_of_pos (plain '/' (.inl rfl))]
  rcases kind with rfl | rfl <;> simp

end Mount

/-! ### Volumes that are mounted -/

theorem Volume.plan?_eq_some_iff {ns : String} {bundles : List Bundle} {v : Volume}
    {plan : VolumePlan} :
    v.plan? ns bundles = some plan ↔
      ∃ q data, v.source = .configMap q ∧ Bundle.findConfigMap? bundles ns q.name = some data ∧
        plan = ⟨directoryName ns q.name, q.files data⟩ := by
  rw [plan?]
  cases v.source with
  | configMap q => simp [Option.map_eq_some_iff, eq_comm (a := plan)]
  | emptyDir | secret => simp

/-- Where no file's name is objected to, all is done for each volume. -/
theorem Pod.ops_infix_filePlan {p : Pod} {bundles : List Bundle}
    (free : (p.filePlan bundles).objection = none) {v : Volume} (declared : v ∈ p.spec.volumes)
    {plan : VolumePlan} (planned : v.plan? p.ns bundles = some plan) :
    plan.ops <:+: (p.filePlan bundles).ops := by
  have among : plan ∈ p.spec.volumes.filterMap (Volume.plan? p.ns bundles) :=
    List.mem_filterMap.2 ⟨v, declared, planned⟩
  obtain ⟨before, after, split⟩ := List.append_of_mem among
  have all := FilePlan.carried_of_objection_eq_none free
  rw [filePlan, FilePlan.ofVolumes_eq, all, split]
  exact ⟨before.flatMap VolumePlan.ops, after.flatMap VolumePlan.ops, by simp⟩

theorem directoryName_left_cancel {ns name name' : String} :
    directoryName ns name = directoryName ns name' ↔ name = name' := by
  simp [directoryName, String.append_right_inj]

/-- The volume of a mount and its files: they are written to one directory, that of the config
map, and a container that is started gets the mount. The mount leads to that directory exactly if
the volume has the config map's name. -/
theorem mount_meets_volume {p : Pod} (admitted : p.check = .ok ()) {bundles : List Bundle}
    {c : Container} {m : Mount} (mounted : m ∈ c.mounts) {v : Volume}
    (declared : v ∈ p.spec.volumes)
    (named : v.name = m.volume) {q : Projection} (projects : v.source = .configMap q)
    {data : ConfigMap} (supplied : Bundle.findConfigMap? bundles p.ns q.name = some data) :
    ∃ plan, v.plan? p.ns bundles = some plan ∧ plan.files = q.files data ∧
      (∀ op ∈ plan.ops, op.directory = plan.directory) ∧
      ((p.filePlan bundles).objection = none → plan.ops <:+: (p.filePlan bundles).ops) ∧
      (∀ request, RunRequest.build p bundles c = .ok request → m.spec p.ns ∈ request.mounts) ∧
      (Engine.hostDirectory (m.spec p.ns) = plan.directory ↔ v.name = q.name) := by
  have planned := Volume.plan?_eq_some_iff.2 ⟨q, data, projects, supplied, rfl⟩
  have label := (Volume.check_eq_ok.1 (Pod.volume_of_check admitted declared)).1
  have host : Engine.hostDirectory (m.spec p.ns) = directoryName p.ns v.name := by
    rw [named] at label ⊢
    exact Mount.hostDirectory_spec (Pod.namespace_of_check admitted)
      (Name.notMem_of_label label (by decide)) (Name.notMem_of_label label (by decide))
  refine ⟨_, planned, rfl, fun op => VolumePlan.directory_of_mem_ops,
    fun free => Pod.ops_infix_filePlan free declared planned, fun request built => ?_, ?_⟩
  · rw [RunRequest.build] at built
    cases env : c.resolveEnv p.ns bundles with
    | error e =>
        rw [env] at built
        cases built
    | ok values =>
        rw [env] at built
        cases built
        exact List.mem_map_of_mem mounted
  · rw [host]
    exact directoryName_left_cancel

/-- A container that mounts a volume. -/
def Container.mounting (volume : String) : Container :=
  ⟨"a", "i", none, [], [], .empty, [⟨volume, "/m", none, false⟩], []⟩

/-- A pod with one container, which mounts a volume that projects a config map. -/
def Pod.mountingConfig (volume configMap : String) : Pod where
  metadata := ⟨"web", "ns", "uid-1", .empty, .empty⟩
  spec :=
    { containers := [.mounting volume]
      initContainers := []
      volumes := [⟨volume, .configMap ⟨configMap, none, none, none⟩⟩]
      restartPolicy := .always
      gracePeriod := none }

/-- A config map with one key. -/
def ConfigMap.ofText (name ns key text : String) : ConfigMap :=
  ⟨⟨name, ns⟩, .ofList [(key, text)], .empty, none⟩

theorem mount_meets_app_config :
    Engine.hostDirectory "ns-app-config:/m" = "ns-app-config" ∧
      ((Pod.mountingConfig "app-config" "app-config").filePlan
        [⟨"", "", [.ofText "app-config" "ns" "k" "v"], [], []⟩]).written =
        ["ns-app-config/k"] := by
  let p := Pod.mountingConfig "app-config" "app-config"
  let data := ConfigMap.ofText "app-config" "ns" "k" "v"
  let bundle : Bundle := ⟨"", "", [data], [], []⟩
  have admitted : p.check = .ok () := by decide +kernel
  have supplied : Bundle.findConfigMap? [bundle] p.ns "app-config" = some data := by
    decide +kernel
  obtain ⟨plan, planned, -, -, -, -, meets⟩ := mount_meets_volume admitted
    (c := .mounting "app-config") (List.mem_singleton_self _) (List.mem_singleton_self _) rfl rfl
    supplied
  have directory : plan.directory = "ns-app-config" := by
    obtain ⟨q, data, projects, -, rfl⟩ := Volume.plan?_eq_some_iff.1 planned
    cases projects
    rfl
  refine ⟨?_, by decide +kernel⟩
  rw [← directory]
  exact meets.2 rfl

/-- A volume that is not named like its config map is admitted, and its mount leads to another
directory than that of the files. -/
theorem mount_misses_volume :
    ¬ ∀ (p : Pod) (bundles : List Bundle) (c : Container) (m : Mount) (v : Volume)
      (q : Projection) (data : ConfigMap) (plan : VolumePlan), p.check = .ok () →
      c ∈ p.spec.initContainers ++ p.spec.containers → m ∈ c.mounts → v ∈ p.spec.volumes →
      v.name = m.volume → v.source = .configMap q →
      Bundle.findConfigMap? bundles p.ns q.name = some data → v.plan? p.ns bundles = some plan →
      ∀ op ∈ plan.ops, Engine.hostDirectory (m.spec p.ns) = op.directory := by
  intro always
  let p := Pod.mountingConfig "cfg" "app-config"
  let data := ConfigMap.ofText "app-config" "ns" "k" "v"
  let bundle : Bundle := ⟨"", "", [data], [], []⟩
  have admitted : p.check = .ok () := by decide +kernel
  have supplied : Bundle.findConfigMap? [bundle] p.ns "app-config" = some data := by
    decide +kernel
  have same := always p [bundle] (.mounting "cfg") _ _ _ data _ admitted
    (List.mem_singleton_self _) (List.mem_singleton_self _) (List.mem_singleton_self _) rfl rfl
    supplied (Volume.plan?_eq_some_iff.2 ⟨_, data, rfl, supplied, rfl⟩)
    (.makeDirectories "ns-app-config") List.mem_cons_self
  exact absurd same (by decide +kernel)

end Podkeeper
