import Podkeeper.Engine.Creation
import Podkeeper.Pod.MountSpec
import Podkeeper.Proofs.Files.Containment
import Podkeeper.Proofs.Pods.Admission

/-!
Where the mounts of an admitted pod lead.

The host side of a mount is glued together from the namespace, the volume's name and the sub-path,
cut at its first colon by the engine, and put under the data root. The namespace is a label, so the
host side is relative. The sub-path does not go up, as long as no colon cuts it. The name of a
mount's volume, unlike the name of a volume, is not checked for its characters: it can bring
slashes, and two points between them. So a mount is below the data root exactly if its host side
stays inside (`mounts_below_root`), and there are admitted pods with a mount that does not
(`mount_leaves_root`).
-/

namespace Podkeeper

/-! ### Host sides -/

namespace Engine

/-- The host side of a specification, as the engine reads it. -/
def hostSide (spec : String) : String :=
  match splitColon? spec.toList with
  | some (host, _) => String.ofList host
  | none => spec

theorem splitColon?_append {host : List Char} (plain : ':' ∉ host) (target : List Char) :
    splitColon? (host ++ ':' :: target) = some (host, target) := by
  induction host with
  | nil => rfl
  | cons c host ih =>
      rw [List.mem_cons, not_or] at plain
      rw [List.cons_append, splitColon?, ih plain.2]
      · rfl
      · exact Ne.symm plain.1

/-- A specification with a colon has a host side without one in front of the first. -/
theorem exists_hostSide {spec : String} (colon : ':' ∈ spec.toList) :
    ∃ target, ':' ∉ (hostSide spec).toList ∧
      spec.toList = (hostSide spec).toList ++ ':' :: target := by
  obtain ⟨host, target, whole, plain⟩ := List.eq_append_cons_of_mem colon
  have side : hostSide spec = String.ofList host := by
    rw [hostSide, whole, splitColon?_append plain]
  rw [side, String.toList_ofList]
  exact ⟨target, plain, whole⟩

theorem notMem_join {dir path : String} {c : Char} (other : c ≠ '/') (dirPlain : c ∉ dir.toList)
    (pathPlain : c ∉ path.toList) : c ∉ (Path.join dir path).toList := by
  rw [Path.join]
  split
  · exact pathPlain
  · split
    · simp [dirPlain, pathPlain]
    · simp [dirPlain, pathPlain, other]

/-- A relative host side is joined to the root, which has no colon that would cut it short. What
stands behind the first colon stays. -/
theorem exists_target_anchorMount {root spec : String} (colon : ':' ∈ spec.toList)
    (rootPlain : ':' ∉ root.toList) (relative : Path.isAbsolute (hostSide spec) = false) :
    ∃ target, ':' ∉ (hostSide spec).toList ∧ ':' ∉ (Path.join root (hostSide spec)).toList ∧
      spec.toList = (hostSide spec).toList ++ ':' :: target ∧
      (anchorMount root spec).toList =
        (Path.join root (hostSide spec)).toList ++ ':' :: target := by
  obtain ⟨target, plain, whole⟩ := exists_hostSide colon
  have anchored :
      anchorMount root spec =
        Path.join root (hostSide spec) ++ ":" ++ String.ofList target := by
    rw [anchorMount, whole, splitColon?_append plain]
    simp [relative]
  refine ⟨target, plain, notMem_join (by decide) rootPlain plain, whole, ?_⟩
  rw [anchored]
  simp

theorem hostSide_anchorMount {root spec : String} (colon : ':' ∈ spec.toList)
    (rootPlain : ':' ∉ root.toList) (relative : Path.isAbsolute (hostSide spec) = false) :
    hostSide (anchorMount root spec) = Path.join root (hostSide spec) := by
  obtain ⟨target, -, plain, -, anchored⟩ := exists_target_anchorMount colon rootPlain relative
  rw [hostSide, anchored, splitColon?_append plain]
  exact String.ofList_toList

end Engine

/-! ### Names in paths -/

namespace Name

theorem isLabelChar_of_mem {kind name : String} (label : checkLabel kind name = .ok ()) {c : Char}
    (member : c ∈ name.toList) : isLabelChar c = true :=
  List.all_eq_true.1 (checkLabel_eq_ok.1 label).2.2.1 c member

/-- What a label may not contain. -/
theorem notMem_of_label {kind name : String} (label : checkLabel kind name = .ok ()) {c : Char}
    (other : isLabelChar c = false) : c ∉ name.toList := by
  intro member
  rw [isLabelChar_of_mem label member] at other
  cases other

/-- A label begins with one of its characters. -/
theorem exists_head_of_label {kind name : String} (label : checkLabel kind name = .ok ()) :
    ∃ c cs, name.toList = c :: cs ∧ isLabelChar c = true := by
  have given := (checkLabel_eq_ok.1 label).1
  cases text : name.toList with
  | nil => exact absurd (String.toList_eq_nil_iff.1 text) given
  | cons c cs => exact ⟨c, cs, rfl, isLabelChar_of_mem label (by simp [text])⟩

/-- Cutting at slashes is the same with a part under way. -/
theorem splitFrom_eq_splitAt (part cs : List Char) :
    ∃ first rest, splitAt '/' cs = first :: rest ∧
      Path.splitFrom part cs = (part.reverse ++ first) :: rest := by
  induction cs generalizing part with
  | nil => exact ⟨[], [], rfl, by simp [Path.splitFrom]⟩
  | cons c cs ih =>
      by_cases slash : c = '/'
      · obtain ⟨first, rest, split, same⟩ := ih []
        refine ⟨[], first :: rest, by rw [splitAt, if_pos slash, split], ?_⟩
        rw [slash, Path.splitFrom, same]
        simp
      · obtain ⟨first, rest, split, same⟩ := ih (c :: part)
        refine ⟨c :: first, rest, by rw [splitAt, if_neg slash, split], ?_⟩
        rw [Path.splitFrom, same]
        · simp
        · exact slash

end Name

/-- An inner path never goes up. -/
theorem up_notMem_of_isInnerPath {subPath : String} (inner : isInnerPath subPath = true) :
    ".." ∉ Path.parts subPath := by
  intro member
  obtain ⟨first, rest, split, same⟩ := Name.splitFrom_eq_splitAt [] subPath.toList
  rw [isInnerPath, Bool.and_eq_true, split] at inner
  rw [Path.parts, same, List.mem_map] at member
  obtain ⟨up, kept, points⟩ := member
  have listed : up ∈ first :: rest := (List.mem_filter.1 kept).1
  have other := List.all_eq_true.1 inner.2 up listed
  have text : up = ['.', '.'] := by
    rw [← String.toList_ofList (l := up), points]
    rfl
  rw [text] at other
  cases other

/-! ### Host sides of mounts -/

namespace Mount

variable {ns : String} {m : Mount}

theorem toList_spec (ns : String) (m : Mount) :
    (m.spec ns).toList = (m.host ns).toList ++ ':' :: m.path.toList := by
  simp [spec]

theorem colon_mem_spec (ns : String) (m : Mount) : ':' ∈ (m.spec ns).toList := by
  simp [toList_spec]

/-- The host side of a mount is a directory, with the sub-path behind it if there is one. -/
theorem host_eq (ns : String) (m : Mount) :
    m.host ns = directoryName ns m.volume ∨
      ∃ subPath, m.subPath = some subPath ∧
        m.host ns = directoryName ns m.volume ++ "/" ++ subPath := by
  rw [host]
  split
  · rename_i subPath given
    split
    · exact .inl rfl
    · exact .inr ⟨subPath, given, rfl⟩
  · exact .inl rfl

/-- Without a colon in it, the engine reads the whole host side. -/
theorem hostSide_spec (plain : ':' ∉ (m.host ns).toList) :
    Engine.hostSide (m.spec ns) = m.host ns := by
  rw [Engine.hostSide, toList_spec, Engine.splitColon?_append plain]
  exact String.ofList_toList

/-- Every host side begins with the namespace. -/
theorem host_toList (ns : String) (m : Mount) :
    ∃ rest, (m.host ns).toList = ns.toList ++ '-' :: rest := by
  rcases host_eq ns m with same | ⟨subPath, -, same⟩
  · exact ⟨m.volume.toList, by simp [same, directoryName]⟩
  · exact ⟨m.volume.toList ++ '/' :: subPath.toList, by simp [same, directoryName]⟩

/-- The namespace keeps the host side of a mount from being absolute. -/
theorem relative_hostSide (label : Name.checkLabel "namespace" ns = .ok ()) (m : Mount) :
    Path.isAbsolute (Engine.hostSide (m.spec ns)) = false := by
  obtain ⟨c, cs, text, letter⟩ := Name.exists_head_of_label label
  obtain ⟨rest, host⟩ := host_toList ns m
  obtain ⟨target, -, whole⟩ := Engine.exists_hostSide (colon_mem_spec ns m)
  have first : (m.spec ns).toList.head? = some c := by
    simp [spec, host, text]
  rw [← Bool.not_eq_true, Path.isAbsolute_iff]
  rintro ⟨behind, absolute⟩
  rw [whole, absolute, List.cons_append, List.head?_cons, Option.some.injEq] at first
  rw [← first] at letter
  exact absurd letter (by decide)

/-- The directory of a volume is one plain name if the volume's name has no slash. -/
theorem parts_directoryName (label : Name.checkLabel "namespace" ns = .ok ()) {volume : String}
    (plain : '/' ∉ volume.toList) :
    Path.parts (directoryName ns volume) = [directoryName ns volume] ∧
      directoryName ns volume ≠ "." ∧ directoryName ns volume ≠ ".." := by
  obtain ⟨c, cs, text, letter⟩ := Name.exists_head_of_label label
  have first : (directoryName ns volume).toList.head? = some c := by
    simp [directoryName, text]
  have noPoint : c ≠ '.' := by
    rintro rfl
    exact absurd letter (by decide)
  refine ⟨Path.parts_of_notMem ?_ ?_, ?_, ?_⟩
  · have slash : '/' ∉ ns.toList := Name.notMem_of_label label (by decide)
    simp [directoryName, slash, plain]
  · intro same
    rw [same] at first
    cases first
  · intro same
    rw [same] at first
    exact noPoint (Option.some.inj first).symm
  · intro same
    rw [same] at first
    exact noPoint (Option.some.inj first).symm

/-- With a plain name and an inner sub-path, the host side stays inside. -/
theorem isInside_host (label : Name.checkLabel "namespace" ns = .ok ())
    (plain : '/' ∉ m.volume.toList)
    (inner : ∀ subPath, m.subPath = some subPath → isInnerPath subPath = true) :
    Path.isInside (m.host ns) = true := by
  obtain ⟨whole, stays, up⟩ := parts_directoryName label plain
  have entered : Path.depthAfter? 0 (directoryName ns m.volume) = some 1 := by
    rw [Path.depthAfter?, if_neg stays, if_neg up]
  have inside : ∀ ways, ".." ∉ ways → Path.parts (m.host ns) = directoryName ns m.volume :: ways →
      Path.isInside (m.host ns) = true := by
    intro ways ascent split
    obtain ⟨depth, known, grown⟩ := Path.depth_grows ascent 1
    rw [Path.isInside, Path.depth?, split, List.foldlM_cons, entered]
    exact (Option.any_eq_true _ _).2 ⟨depth, known, decide_eq_true grown⟩
  rcases host_eq ns m with same | ⟨subPath, given, same⟩
  · exact inside [] List.not_mem_nil (by rw [same, whole])
  · refine inside (Path.parts subPath) (up_notMem_of_isInnerPath (inner subPath given)) ?_
    rw [same, Path.parts_append_slash, whole]
    rfl

/-- No colon in the name or the sub-path, none in the host side. -/
theorem colon_notMem_host (label : Name.checkLabel "namespace" ns = .ok ())
    (plain : ':' ∉ m.volume.toList)
    (inner : ∀ subPath, m.subPath = some subPath → ':' ∉ subPath.toList) :
    ':' ∉ (m.host ns).toList := by
  have colon : ':' ∉ ns.toList := Name.notMem_of_label label (by decide)
  rcases host_eq ns m with same | ⟨subPath, given, same⟩
  · simp [same, directoryName, colon, plain]
  · simp [same, directoryName, colon, plain, inner subPath given]

end Mount

/-! ### Below the data root -/

/-- The mounts of an admitted pod that lead below the data root, whatever the data root is: those
whose host side, as the engine reads it, stays inside. All mounts do whose volume's name has
neither slashes nor colons and whose sub-path has no colons. -/
theorem mounts_below_root {p : Pod} (admitted : p.check = .ok ()) {c : Container}
    (member : c ∈ p.spec.initContainers ++ p.spec.containers) {m : Mount}
    (mounted : m ∈ c.mounts) :
    ((∀ root, Path.isAbsolute root = true → ':' ∉ root.toList →
        Path.IsBelow root (Engine.hostSide (Engine.anchorMount root (m.spec p.ns)))) ↔
      Path.isInside (Engine.hostSide (m.spec p.ns)) = true) ∧
    ('/' ∉ m.volume.toList → ':' ∉ m.volume.toList →
      (∀ subPath, m.subPath = some subPath → ':' ∉ subPath.toList) →
      ∀ root, Path.isAbsolute root = true → ':' ∉ root.toList →
        Path.IsBelow root (Engine.hostSide (Engine.anchorMount root (m.spec p.ns)))) := by
  have label : Name.checkLabel "namespace" p.ns = .ok () := Pod.namespace_of_check admitted
  obtain ⟨-, -, inner⟩ := Mount.check_eq_ok.1 (Pod.mount_of_check admitted member mounted)
  have relative := Mount.relative_hostSide label m
  have anchored : ∀ root, ':' ∉ root.toList →
      Engine.hostSide (Engine.anchorMount root (m.spec p.ns)) =
        Path.join root (Engine.hostSide (m.spec p.ns)) :=
    fun root plain => Engine.hostSide_anchorMount (Mount.colon_mem_spec _ _) plain relative
  have below : Path.isInside (Engine.hostSide (m.spec p.ns)) = true →
      ∀ root, Path.isAbsolute root = true → ':' ∉ root.toList →
        Path.IsBelow root (Engine.hostSide (Engine.anchorMount root (m.spec p.ns))) := by
    intro inside root absolute plain
    rw [anchored root plain]
    exact Path.isBelow_join absolute relative inside
  refine ⟨⟨fun always => ?_, below⟩, fun slash colon cut => below ?_⟩
  · by_contra outside
    have plain : ':' ∉ ("/" ++ Path.stranger (Engine.hostSide (m.spec p.ns))).toList := by
      simp [Path.stranger, List.mem_replicate]
    have wrong := always _ (Path.isAbsolute_slash _) plain
    rw [anchored _ plain] at wrong
    exact Path.not_isBelow_stranger relative (Bool.eq_false_iff.2 outside) wrong
  · rw [Mount.hostSide_spec (Mount.colon_notMem_host label colon cut)]
    exact Mount.isInside_host label slash inner

/-- A pod with one container that has one mount. -/
def Pod.mounting (m : Mount) : Pod where
  metadata := ⟨"web", "ns", "uid-1", .empty, .empty⟩
  spec := ⟨[⟨"a", "i", none, [], [], .empty, [m], []⟩], [], [], .always, none⟩

theorem mount_below_srv :
    let m : Mount := ⟨"data", "/m", some "a/./b", false⟩
    let host := Engine.hostSide (Engine.anchorMount "/srv" (m.spec "ns"))
    host = "/srv/ns-data/a/./b" ∧ Path.IsBelow "/srv" host := by
  intro m host
  have admitted : (Pod.mounting m).check = .ok () := by decide +kernel
  have below := (mounts_below_root admitted (List.mem_singleton_self _)
    (List.mem_singleton_self m)).1.2 (by decide +kernel) "/srv" (by decide +kernel) (by decide)
  exact ⟨by decide +kernel, below⟩

/-- A name of a volume with slashes and two points is admitted, and leads to another directory. -/
theorem mount_leaves_root :
    ¬ ∀ (p : Pod) (c : Container) (m : Mount) (root : String), p.check = .ok () →
      c ∈ p.spec.initContainers ++ p.spec.containers → m ∈ c.mounts →
      Path.isAbsolute root = true → ':' ∉ root.toList →
      Path.IsBelow root (Engine.hostSide (Engine.anchorMount root (m.spec p.ns))) := by
  intro always
  let m : Mount := ⟨"x/../../etc", "/m", none, false⟩
  have admitted : (Pod.mounting m).check = .ok () := by decide +kernel
  have host : Engine.hostSide (Engine.anchorMount "/srv" (m.spec "ns")) =
      "/srv/ns-x/../../etc" := by decide +kernel
  have outside : ¬ Path.IsBelow "/srv" "/srv/ns-x/../../etc" := by decide +kernel
  have below := always (Pod.mounting m) _ m "/srv" admitted (List.mem_singleton_self _)
    (List.mem_singleton_self m) (by decide +kernel) (by decide)
  rw [show (Pod.mounting m).ns = "ns" from rfl, host] at below
  exact outside below

end Podkeeper
