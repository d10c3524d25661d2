import Podkeeper.Proofs.Lifecycle.Variables
import Podkeeper.Proofs.Pods.ContainerNames
import Podkeeper.Proofs.Pods.Grammar

/-!
Which pods are admitted.

The check of a pod goes from one condition to the next and stops at the first that fails, with two
runs over named elements that look out for a name a second time. It comes to a list of conditions
without an order, `Pod.IsAdmissible`, that holds of all containers alike, the initial ones included
(`Pod.admitted_iff`). What the variables of a container refer to is not among the conditions
(`Pod.variable_references_free`): it is looked up when the container is run.
-/

namespace Podkeeper

/-! ### Conditions -/

/-- The config map or the secret that a volume is made from. -/
def VolumeSource.projection? : VolumeSource → Option Projection
  | .configMap q | .secret q => some q
  | .emptyDir _ => none

structure Mount.IsAdmissible (m : Mount) : Prop where
  named : m.volume ≠ ""
  absolute : Path.isAbsolute m.path = true
  /-- A sub-path is relative and never goes up. -/
  inner : ∀ subPath, m.subPath = some subPath →
    Path.isAbsolute subPath = false ∧ ['.', '.'] ∉ subPath.toList.splitOn '/'

structure Container.IsAdmissible (c : Container) : Prop where
  named : Name.IsLabel c.name
  image : ∃ char ∈ c.image.toList, isBlank char = false
  fewEnv : c.env.length ≤ Limit.env
  env : ∀ v ∈ c.env, v.name ≠ "" ∧ '=' ∉ v.name.toList
  mounts : ∀ m ∈ c.mounts, m.IsAdmissible

structure Volume.IsAdmissible (v : Volume) : Prop where
  named : Name.IsLabel v.name
  reference : ∀ q, v.source.projection? = some q → Name.IsSubdomain q.name
  /-- No item selects an empty key. -/
  keys : ∀ q items, v.source.projection? = some q → q.items = some items →
    ∀ item ∈ items, item.key ≠ ""

/-- The characters of unique ids: `[A-Za-z0-9-_.]`. -/
def Name.uidCharacters : List Char :=
  "ABCDEFGHIJKLMNOPQRSTUVWXYZabcdefghijklmnopqrstuvwxyz0123456789-_.".toList

namespace Pod

/-- All containers of a pod, the initial ones first. -/
def containers (p : Pod) : List Container := p.spec.initContainers ++ p.spec.containers

structure IsAdmissible (p : Pod) : Prop where
  named : Name.IsSubdomain p.metadata.name
  ns : Name.IsLabel p.metadata.ns
  uidGiven : p.metadata.uid ≠ ""
  uidPlain : ∀ c ∈ p.metadata.uid.toList, c ∈ Name.uidCharacters
  someContainer : 1 ≤ p.spec.containers.length
  fewContainers : p.containers.length ≤ Limit.containers
  containers : ∀ c ∈ p.containers, c.IsAdmissible
  containersApart : (p.containers.map (·.name)).Nodup
  fewVolumes : p.spec.volumes.length ≤ Limit.volumes
  volumes : ∀ v ∈ p.spec.volumes, v.IsAdmissible
  volumesApart : (p.spec.volumes.map (·.name)).Nodup
  grace : ∀ seconds, p.spec.gracePeriod = some seconds → 0 ≤ seconds.toInt

end Pod

/-! ### Checks -/

theorem isInnerPath_iff {subPath : String} :
    isInnerPath subPath = true ↔
      Path.isAbsolute subPath = false ∧ ['.', '.'] ∉ subPath.toList.splitOn '/' := by
  have relative : subPath.toList.head? ≠ some '/' ↔ Path.isAbsolute subPath = false := by
    rw [← Bool.not_eq_true, Path.isAbsolute_iff, ne_eq, List.head?_eq_some_iff]
  have stays : ((subPath.toList.splitOn '/').all (· != ['.', '.'])) = true ↔
      ['.', '.'] ∉ subPath.toList.splitOn '/' := by
    simp only [List.all_eq_true, bne_iff_ne]
    exact ⟨fun other member => other _ member rfl,
      fun absent _ member same => absent (same ▸ member)⟩
  rw [isInnerPath, Name.splitAt_eq_splitOn, Bool.and_eq_true, bne_iff_ne, relative, stays]

theorem Mount.check_eq_ok_iff {container : String} {m : Mount} :
    m.check container = .ok () ↔ m.IsAdmissible := by
  have absolute : m.path.toList.head? = some '/' ↔ Path.isAbsolute m.path = true := by
    rw [Path.isAbsolute_iff, List.head?_eq_some_iff]
  rw [Mount.check_eq_ok, absolute]
  simp only [isInnerPath_iff]
  exact ⟨fun ⟨named, absolute, inner⟩ => ⟨named, absolute, inner⟩,
    fun h => ⟨h.named, h.absolute, h.inner⟩⟩

theorem isBlankText_eq_false_iff {s : String} :
    Blank.isBlankText s = false ↔ ∃ char ∈ s.toList, isBlank char = false := by
  simp [Blank.isBlankText]

theorem Container.check_eq_ok_iff {c : Container} : c.check = .ok () ↔ c.IsAdmissible := by
  rw [Container.check_eq_ok, Name.checkLabel_eq_ok_iff, isBlankText_eq_false_iff]
  simp only [Mount.check_eq_ok_iff]
  constructor
  · rintro ⟨named, image, few, env, mounts⟩
    exact ⟨named, image, few, env, mounts⟩
  · exact fun h => ⟨h.named, h.image, h.fewEnv, h.env, h.mounts⟩

theorem Projection.checkItems_eq_ok_iff {volume : String} {q : Projection} :
    q.checkItems volume = .ok () ↔
      ∀ items, q.items = some items → ∀ item ∈ items, item.key ≠ "" := by
  rw [Projection.checkItems, Verdict.forM_eq_ok]
  cases q.items with
  | none => simp
  | some items => simp

theorem Volume.check_eq_ok_iff {v : Volume} : v.check = .ok () ↔ v.IsAdmissible := by
  have projected {kind : String} {q : Projection} (source : v.source.projection? = some q) :
      (Name.checkLabel "volume" v.name = .ok () ∧ Name.checkSubdomain kind q.name = .ok () ∧
        q.checkItems v.name = .ok ()) ↔ v.IsAdmissible := by
    rw [Name.checkLabel_eq_ok_iff, Name.checkSubdomain_eq_ok_iff, Projection.checkItems_eq_ok_iff]
    constructor
    · rintro ⟨named, reference, keys⟩
      refine ⟨named, fun q' same => ?_, fun q' items same => ?_⟩
      · cases source.symm.trans same
        exact reference
      · cases source.symm.trans same
        exact keys items
    · exact fun h => ⟨h.named, h.reference q source, fun items => h.keys q items source⟩
  rw [Volume.check_eq_ok]
  cases source : v.source with
  | configMap q => exact projected (by rw [source]; rfl)
  | secret q => exact projected (by rw [source]; rfl)
  | emptyDir options =>
      rw [Name.checkLabel_eq_ok_iff]
      have none (q : Projection) : v.source.projection? ≠ some q := by
        rw [source]
        exact nofun
      exact ⟨fun ⟨named, _⟩ => ⟨named, fun q same => absurd same (none q),
        fun q _ same => absurd same (none q)⟩, fun h => ⟨h.named, trivial⟩⟩

theorem Name.mem_uidCharacters {c : Char} : c ∈ uidCharacters ↔ isUidChar c = true := by
  refine mem_iff_of_ascii (by decide +kernel) (by decide +kernel) fun c plain => ?_
  simp only [isUidChar, Bool.or_eq_true, beq_iff_eq] at plain
  rcases plain with ((alphanumeric | rfl) | rfl) | rfl
  · exact ascii_of_isAlphanum alphanumeric
  all_goals decide

theorem Name.checkUid_eq_ok_iff {uid : String} :
    checkUid uid = .ok () ↔ uid ≠ "" ∧ ∀ c ∈ uid.toList, c ∈ uidCharacters := by
  simp [checkUid, Verdict.bind_eq_ok, mem_uidCharacters]

theorem checkGrace_eq_ok_iff {seconds : Option Int64} :
    checkGrace seconds = .ok () ↔ ∀ s, seconds = some s → 0 ≤ s.toInt := by
  cases seconds with
  | none => simp [checkGrace]
  | some s =>
      rw [checkGrace, require_eq_ok, decide_eq_true_eq, Int64.le_iff_toInt_le]
      simp

namespace Pod

/-- A pod is admitted exactly if all conditions hold. -/
theorem admitted_iff (p : Pod) : p.check = .ok () ↔ p.IsAdmissible := by
  have count : p.containers.length = p.spec.containers.length + p.spec.initContainers.length := by
    rw [Pod.containers, List.length_append, Nat.add_comm]
  simp only [check, Verdict.bind_eq_ok, require_eq_ok, checkDistinct_eq_ok,
    Name.checkSubdomain_eq_ok_iff, Name.checkLabel_eq_ok_iff, Name.checkUid_eq_ok_iff,
    Container.check_eq_ok_iff, Volume.check_eq_ok_iff, checkGrace_eq_ok_iff, decide_eq_true_eq,
    ← count]
  constructor
  · rintro ⟨named, ns, ⟨uidGiven, uidPlain⟩, some, few, ⟨containers, apart, -⟩, fewVolumes,
      ⟨volumes, volumesApart, -⟩, grace⟩
    exact ⟨named, ns, uidGiven, uidPlain, by simpa [Nat.one_le_iff_ne_zero] using some, few,
      containers, apart, fewVolumes, volumes, volumesApart, grace⟩
  · intro h
    refine ⟨h.named, h.ns, ⟨h.uidGiven, h.uidPlain⟩, ?_, h.fewContainers,
      ⟨h.containers, h.containersApart, ?_⟩, h.fewVolumes, ⟨h.volumes, h.volumesApart, ?_⟩, h.grace⟩
    · simpa [Nat.one_le_iff_ne_zero] using h.someContainer
    · exact fun _ _ => List.not_mem_nil
    · exact fun _ _ => List.not_mem_nil

/-- The names of the config maps and secrets that a pod refers to, with its volumes and with the
variables of its containers. -/
def referredNames (p : Pod) : List String :=
  (p.spec.volumes.filterMap fun v => v.source.projection?.map (·.name)) ++
    (p.containers.flatMap (·.env)).filterMap fun v => v.source.reference?.map (·.2.name)

/-- A pod that takes a variable from a config map of any name. -/
def withReference (name : String) : Pod :=
  let container : Container :=
    { Container.plain "a" with env := [⟨"LEVEL", .configMapKey ⟨name, "level", false⟩⟩] }
  { plain "uid-1" [] with
    spec := { (plain "uid-1" []).spec with containers := [container] } }

/-- A variable may refer to a config map whose name is no subdomain. -/
theorem variable_references_free :
    ¬∀ p : Pod, p.check = .ok () ↔
      p.IsAdmissible ∧ ∀ name ∈ p.referredNames, Name.IsSubdomain name := by
  intro always
  have admitted : (withReference "App_Settings").check = .ok () := by decide +kernel
  have referred : "App_Settings" ∈ (withReference "App_Settings").referredNames := by
    decide +kernel
  have subdomain := ((always _).1 admitted).2 "App_Settings" referred
  have checked : Name.checkSubdomain "configMap" "App_Settings" = .ok () :=
    Name.checkSubdomain_eq_ok_iff.2 subdomain
  exact absurd checked (by decide +kernel)

end Pod

end Podkeeper
