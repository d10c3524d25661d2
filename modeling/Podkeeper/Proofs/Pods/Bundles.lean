import Mathlib.Control.Monad.Basic
import Podkeeper.Lifecycle.Operations

/-!
What a pod sees of the bundles that come with it.

A member of a bundle is foreign to a pod if it belongs to a namespace and that is another one. A
search passes over foreign members in every bundle, whatever their names are: it is the search for
a name among the members that are left (`Bundle.findSome?_answers`). Files and requests depend on
bundles through such searches alone, so that foreign members can be left out or put anywhere
(`Pod.foreign_members_without_influence`).
-/

namespace Podkeeper

namespace Bundle

/-! ### Members that are left -/

/-- A member belongs to a namespace, and to another one than this. -/
def isForeign (b : Bundle) (ns : String) (m : ObjectMeta) : Bool :=
  b.effectiveNs m != "" && b.effectiveNs m != ns

section

variable {α : Type} (members : Bundle → List α) (metadata : α → ObjectMeta)

/-- The members of bundles that are not foreign to a namespace, in order. -/
def visible (ns : String) (bundles : List Bundle) : List α :=
  bundles.flatMap fun b => (members b).filter fun a => !b.isForeign ns (metadata a)

/-- A member answers exactly if it has the name and is not foreign. -/
theorem answers_eq (b : Bundle) (ns name : String) (m : ObjectMeta) :
    b.answers ns name m = (!b.isForeign ns m && m.name == name) := by
  rw [answers, isForeign, Bool.and_comm, Bool.not_and, bne, bne, Bool.not_not, Bool.not_not]

/-- The first member that answers is the first one of its name among those that are left. -/
theorem findSome?_answers (ns name : String) (bundles : List Bundle) :
    (bundles.findSome? fun b => (members b).find? fun a => b.answers ns name (metadata a)) =
      (visible members metadata ns bundles).find? fun a => (metadata a).name == name := by
  rw [visible, List.find?_flatMap]
  refine congrArg (bundles.findSome? ·) (funext fun b => ?_)
  rw [List.find?_filter]
  refine congrArg ((members b).find? ·) (funext fun a => ?_)
  rw [answers_eq, Bool.decide_and, Bool.decide_eq_true, Bool.decide_eq_true]

end

/-- The config maps that are not foreign to a namespace. -/
def visibleConfigMaps : String → List Bundle → List ConfigMap :=
  visible configMaps ConfigMap.metadata

/-- The secrets that are not foreign to a namespace. -/
def visibleSecrets : String → List Bundle → List Secret := visible secrets Secret.metadata

theorem findConfigMap?_eq (bundles : List Bundle) (ns name : String) :
    findConfigMap? bundles ns name =
      (visibleConfigMaps ns bundles).find? fun c => c.metadata.name == name :=
  findSome?_answers configMaps ConfigMap.metadata ns name bundles

theorem findSecret?_eq (bundles : List Bundle) (ns name : String) :
    findSecret? bundles ns name =
      (visibleSecrets ns bundles).find? fun s => s.metadata.name == name :=
  findSome?_answers secrets Secret.metadata ns name bundles

/-- Two lists of bundles are the same to a namespace: without what is foreign to it they bring the
same config maps and the same secrets in the same order. -/
structure Alike (ns : String) (bundles bundles' : List Bundle) : Prop where
  configMaps : visibleConfigMaps ns bundles = visibleConfigMaps ns bundles'
  secrets : visibleSecrets ns bundles = visibleSecrets ns bundles'

end Bundle

/-! ### What depends on bundles -/

section

variable {ns : String} {bundles bundles' : List Bundle} (alike : Bundle.Alike ns bundles bundles')
include alike

theorem Bundle.Alike.findConfigMap? (name : String) :
    Bundle.findConfigMap? bundles ns name = Bundle.findConfigMap? bundles' ns name := by
  rw [findConfigMap?_eq, findConfigMap?_eq, alike.configMaps]

theorem Bundle.Alike.findSecret? (name : String) :
    Bundle.findSecret? bundles ns name = Bundle.findSecret? bundles' ns name := by
  rw [findSecret?_eq, findSecret?_eq, alike.secrets]

theorem Volume.plan?_congr (v : Volume) : v.plan? ns bundles = v.plan? ns bundles' := by
  rw [plan?, plan?]
  cases v.source with
  | configMap q => simp only [alike.findConfigMap?]
  | emptyDir | secret => rfl

theorem KeyRef.value?_congr (k : KeyRef) (kind : ObjectKind) :
    k.value? ns bundles kind = k.value? ns bundles' kind := by
  cases kind with
  | configMap => simp only [value?, alike.findConfigMap?]
  | secret => simp only [value?, alike.findSecret?]

theorem EnvVar.resolve_congr (v : EnvVar) (container : String) :
    v.resolve ns bundles container = v.resolve ns bundles' container := by
  simp only [resolve, KeyRef.value?_congr alike]

theorem resolveAll_congr (container : String) (vs : List EnvVar) :
    resolveAll ns bundles container vs = resolveAll ns bundles' container vs := by
  induction vs with
  | nil => rfl
  | cons v vs ih => rw [resolveAll, resolveAll, ih, EnvVar.resolve_congr alike]

end

namespace Pod

variable {p : Pod} {bundles bundles' : List Bundle}

theorem filePlan_congr (alike : Bundle.Alike p.ns bundles bundles') :
    p.filePlan bundles = p.filePlan bundles' := by
  have plans : Volume.plan? p.ns bundles = Volume.plan? p.ns bundles' :=
    funext (Volume.plan?_congr alike)
  rw [filePlan, filePlan, plans]

theorem build_congr (alike : Bundle.Alike p.ns bundles bundles') (c : Container) :
    RunRequest.build p bundles c = RunRequest.build p bundles' c := by
  simp only [RunRequest.build, Container.resolveEnv, resolveAll_congr alike]

theorem runRequests_congr (alike : Bundle.Alike p.ns bundles bundles') (cs : List Container) :
    Site.runRequests p bundles cs = Site.runRequests p bundles' cs := by
  induction cs with
  | nil => rfl
  | cons c cs ih => rw [Site.runRequests, Site.runRequests, ih, build_congr alike]

/-- Where lists of bundles are alike but for foreign members, a pod gets the same files, on every
tree, and the same requests to start its containers, and all that is done to create it is the
same. -/
theorem foreign_members_without_influence (site : Site) (t : Tree)
    (alike : Bundle.Alike p.ns bundles bundles') :
    (p.filePlan bundles).apply site.dataRoot t = (p.filePlan bundles').apply site.dataRoot t ∧
      Site.runRequests p bundles (site.provisioned p) =
        Site.runRequests p bundles' (site.provisioned p) ∧
      site.create ⟨p, bundles⟩ = site.create ⟨p, bundles'⟩ := by
  have plans := filePlan_congr alike
  have requests := runRequests_congr alike (site.provisioned p)
  refine ⟨by rw [plans], requests, ?_⟩
  simp only [Site.create, plans, requests]

end Pod

/-- A config map with one text. -/
def ConfigMap.single (ns name key value : String) : ConfigMap :=
  ⟨⟨name, ns⟩, .ofList [(key, value)], ∅, none⟩

/-- A secret with one text. -/
def Secret.single (ns name key value : String) : Secret :=
  ⟨⟨name, ns⟩, ∅, .ofList [(key, value)], none, none⟩

/-- A pod with a config map for a volume and variables from a config map and a secret. -/
def Pod.configured : Pod where
  metadata := ⟨"web", "ns", "uid-1", .empty, .empty⟩
  spec :=
    { containers :=
        [⟨"a", "i", none, [], [], .empty, [],
          [⟨"MODE", .configMapKey ⟨"app", "mode", false⟩⟩,
            ⟨"KEY", .secretKey ⟨"app", "key", true⟩⟩]⟩]
      initContainers := []
      volumes := [⟨"app", .configMap ⟨"app", none, none, none⟩⟩]
      restartPolicy := .always
      gracePeriod := none }

/-- Members of another namespace, by their own and by that of their bundle, come before the pod's
own members of the same name. -/
theorem own_settings_behind_foreign_ones :
    let p := Pod.configured
    let own : Bundle := ⟨"own", "ns", [.single "" "app" "mode" "own"], [], []⟩
    let foreign : Bundle :=
      ⟨"foreign", "other", [.single "" "app" "mode" "foreign"],
        [.single "" "app" "key" "foreign", .single "ns" "app" "key" "own"], []⟩
    let mixed : Bundle :=
      ⟨"mixed", "ns", [.single "other" "app" "mode" "foreign", .single "" "app" "mode" "own"],
        [.single "ns" "app" "key" "own"], []⟩
    let site : Site := ⟨"/srv", true⟩
    p.check = .ok () ∧ Bundle.Alike p.ns [foreign, own] [mixed] ∧
      (p.filePlan [foreign, own]).written = ["ns-app/mode"] ∧
      (p.filePlan [foreign, own]).apply "/srv" ∅ = (p.filePlan [mixed]).apply "/srv" ∅ ∧
      Site.runRequests p [foreign, own] (site.provisioned p) =
        Site.runRequests p [mixed] (site.provisioned p) ∧
      site.create ⟨p, [foreign, own]⟩ = site.create ⟨p, [mixed]⟩ := by
  intro p own foreign mixed site
  have alike : Bundle.Alike p.ns [foreign, own] [mixed] := ⟨by decide +kernel, by decide +kernel⟩
  exact ⟨by decide +kernel, alike, by decide +kernel,
    Pod.foreign_members_without_influence site ∅ alike⟩

end Podkeeper
