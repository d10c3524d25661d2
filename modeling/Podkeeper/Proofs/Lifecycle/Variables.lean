import Mathlib.Data.List.Forall2
import Mathlib.Data.List.ReduceOption
import Podkeeper.Proofs.Lifecycle.Creating
import Podkeeper.Proofs.Pods.Bundles

/-!
The variables of containers.

A variable that refers to a key is given what the first member of the bundles with that name holds
under the key, and what other members hold does not matter (`KeyRef.value?_eq_some_iff`). Resolving
the variables of a container fails of the first one that needs a key and is not given it; where
there is none all variables have their values, in order, but for optional ones without a key
(`Container.resolution`). All this is done for all containers of a pod before the first one of them
is run (`Site.variables_before_runs`).
-/

namespace Podkeeper

/-! ### What a key is given -/

namespace Bundle

/-- A member has a name, and its namespace is the given one or, if it has none, that of its bundle
is the given one or none. -/
structure Names (b : Bundle) (ns name : String) (m : ObjectMeta) : Prop where
  name : m.name = name
  ns : (m.ns ≠ "" ∧ m.ns = ns) ∨ (m.ns = "" ∧ (b.ns = "" ∨ b.ns = ns))

theorem answers_iff {b : Bundle} {ns name : String} {m : ObjectMeta} :
    b.answers ns name m ↔ b.Names ns name m := by
  simp only [answers, effectiveNs, Bool.and_eq_true, Bool.or_eq_true, beq_iff_eq]
  by_cases unnamed : m.ns = ""
  · simp only [if_pos unnamed]
    constructor
    · rintro ⟨name, ns⟩
      exact ⟨name, .inr ⟨unnamed, ns⟩⟩
    · rintro ⟨name, ⟨named, -⟩ | ⟨-, ns⟩⟩
      · exact absurd unnamed named
      · exact ⟨name, ns⟩
  · simp only [if_neg unnamed]
    constructor
    · rintro ⟨name, empty | ns⟩
      · exact absurd empty unnamed
      · exact ⟨name, .inl ⟨unnamed, ns⟩⟩
    · rintro ⟨name, ⟨-, ns⟩ | ⟨empty, -⟩⟩
      · exact ⟨name, .inr ns⟩
      · exact absurd empty unnamed

section

variable {α : Type} (members : Bundle → List α) (metadata : α → ObjectMeta)

/-- A member is the first one of several bundles with a name in a namespace. -/
def First (bundles : List Bundle) (ns name : String) (a : α) : Prop :=
  ∃ before b after front back, bundles = before ++ b :: after ∧ members b = front ++ a :: back ∧
    b.Names ns name (metadata a) ∧ (∀ a' ∈ front, ¬ b.Names ns name (metadata a')) ∧
    ∀ b' ∈ before, ∀ a' ∈ members b', ¬ b'.Names ns name (metadata a')

theorem findSome?_eq_some_iff_first {bundles : List Bundle} {ns name : String} {a : α} :
    (bundles.findSome? fun b => (members b).find? fun a => b.answers ns name (metadata a)) =
      some a ↔ First members metadata bundles ns name a := by
  simp only [List.findSome?_eq_some_iff, List.find?_eq_some_iff_append, List.find?_eq_none,
    Bool.not_eq_true', ← Bool.not_eq_true, answers_iff]
  constructor
  · rintro ⟨before, b, after, split, ⟨named, front, back, split', passed⟩, earlier⟩
    exact ⟨before, b, after, front, back, split, split', named, passed, earlier⟩
  · rintro ⟨before, b, after, front, back, split, split', named, passed, earlier⟩
    exact ⟨before, b, after, split, ⟨named, front, back, split', passed⟩, earlier⟩

end

end Bundle

/-- Two maps hold bytes for a key: a text, or else the bytes themselves. -/
inductive KeyMap.Hold (texts : KeyMap String) (blobs : KeyMap Bytes) (key : String) :
    Bytes → Prop where
  | text {text : String} (given : texts.get? key = some text) :
      Hold texts blobs key (Utf8.ofString text)
  | blob {bytes : Bytes} (textless : texts.get? key = none)
      (given : blobs.get? key = some bytes) : Hold texts blobs key bytes

theorem KeyMap.or_eq_some_iff_hold {texts : KeyMap String} {blobs : KeyMap Bytes} {key : String}
    {bytes : Bytes} :
    ((texts.get? key).map Utf8.ofString).or (blobs.get? key) = some bytes ↔
      Hold texts blobs key bytes := by
  rw [Option.or_eq_some_iff, Option.map_eq_some_iff, Option.map_eq_none_iff]
  constructor
  · rintro (⟨text, given, rfl⟩ | ⟨textless, given⟩)
    · exact .text given
    · exact .blob textless given
  · rintro (given | ⟨textless, given⟩)
    · exact .inl ⟨_, given, rfl⟩
    · exact .inr ⟨textless, given⟩

/-- The first member that a key refers to gives it bytes. -/
inductive KeyRef.Given (ns : String) (bundles : List Bundle) (k : KeyRef) :
    ObjectKind → Bytes → Prop where
  | configMap {c : ConfigMap} {bytes : Bytes}
      (first : Bundle.First Bundle.configMaps ConfigMap.metadata bundles ns k.name c)
      (held : KeyMap.Hold c.data c.binaryData k.key bytes) : Given ns bundles k .configMap bytes
  | secret {s : Secret} {bytes : Bytes}
      (first : Bundle.First Bundle.secrets Secret.metadata bundles ns k.name s)
      (held : KeyMap.Hold s.stringData s.data k.key bytes) : Given ns bundles k .secret bytes

variable {ns : String} {bundles : List Bundle}

theorem KeyRef.value?_eq_some_iff {k : KeyRef} {kind : ObjectKind} {bytes : Bytes} :
    k.value? ns bundles kind = some bytes ↔ k.Given ns bundles kind bytes := by
  cases kind with
  | configMap =>
      rw [value?, Option.bind_eq_some_iff]
      constructor
      · rintro ⟨c, found, held⟩
        exact .configMap ((Bundle.findSome?_eq_some_iff_first _ _).1 found)
          (KeyMap.or_eq_some_iff_hold.1 held)
      · rintro (⟨first, held⟩ | _)
        exact ⟨_, (Bundle.findSome?_eq_some_iff_first _ _).2 first,
          KeyMap.or_eq_some_iff_hold.2 held⟩
  | secret =>
      rw [value?, Option.bind_eq_some_iff]
      constructor
      · rintro ⟨s, found, held⟩
        exact .secret ((Bundle.findSome?_eq_some_iff_first _ _).1 found)
          (KeyMap.or_eq_some_iff_hold.1 held)
      · rintro (_ | ⟨first, held⟩)
        exact ⟨_, (Bundle.findSome?_eq_some_iff_first _ _).2 first,
          KeyMap.or_eq_some_iff_hold.2 held⟩

theorem KeyRef.value?_eq_none_iff {k : KeyRef} {kind : ObjectKind} :
    k.value? ns bundles kind = none ↔ ∀ bytes, ¬ k.Given ns bundles kind bytes := by
  simp only [Option.eq_none_iff_forall_ne_some, ne_eq, value?_eq_some_iff]

/-! ### Variables one by one -/

/-- The key that a source refers to. -/
def EnvSource.reference? : EnvSource → Option (ObjectKind × KeyRef)
  | .literal _ => none
  | .configMapKey k => some (.configMap, k)
  | .secretKey k => some (.secret, k)

namespace EnvVar

/-- A variable needs a key, and nothing is given for it. -/
structure Unmet (ns : String) (bundles : List Bundle) (v : EnvVar) (kind : ObjectKind)
    (k : KeyRef) : Prop where
  refers : v.source.reference? = some (kind, k)
  needed : k.optional = false
  missing : ∀ bytes, ¬ k.Given ns bundles kind bytes

/-- What a variable comes to: itself with a value, or nothing. -/
inductive Resolved (ns : String) (bundles : List Bundle) (v : EnvVar) :
    Option (String × String) → Prop where
  | literal {value : String} (literal : v.source = .literal value) :
      Resolved ns bundles v (some (v.name, value))
  | given {kind : ObjectKind} {k : KeyRef} {bytes : Bytes}
      (refers : v.source.reference? = some (kind, k)) (given : k.Given ns bundles kind bytes) :
      Resolved ns bundles v (some (v.name, Utf8.lossy bytes))
  | omitted {kind : ObjectKind} {k : KeyRef} (refers : v.source.reference? = some (kind, k))
      (optional : k.optional = true) (missing : ∀ bytes, ¬ k.Given ns bundles kind bytes) :
      Resolved ns bundles v none

variable {v : EnvVar} {container : String}

theorem resolve_of_value {kind : ObjectKind} {k : KeyRef} {bytes : Bytes}
    (refers : v.source.reference? = some (kind, k))
    (value : k.value? ns bundles kind = some bytes) :
    v.resolve ns bundles container = .ok (some (v.name, Utf8.lossy bytes)) := by
  obtain ⟨name, source⟩ := v
  cases source with
  | literal => cases refers
  | configMapKey | secretKey =>
      cases refers
      simp only [resolve, value]

theorem resolve_of_no_value {kind : ObjectKind} {k : KeyRef}
    (refers : v.source.reference? = some (kind, k)) (missing : k.value? ns bundles kind = none) :
    v.resolve ns bundles container =
      if k.optional then .ok none
      else .error (.invalid (.notSupplied v.name container kind k)) := by
  obtain ⟨name, source⟩ := v
  cases source with
  | literal => cases refers
  | configMapKey | secretKey =>
      cases refers
      simp only [resolve, missing]

theorem Resolved.resolve_eq {entry : Option (String × String)}
    (resolved : v.Resolved ns bundles entry) : v.resolve ns bundles container = .ok entry := by
  cases resolved with
  | literal literal => rw [resolve, literal]
  | given refers given => exact resolve_of_value refers (KeyRef.value?_eq_some_iff.2 given)
  | omitted refers optional missing =>
      rw [resolve_of_no_value refers (KeyRef.value?_eq_none_iff.2 missing), if_pos optional]

theorem Unmet.resolve_eq {kind : ObjectKind} {k : KeyRef} (unmet : v.Unmet ns bundles kind k) :
    v.resolve ns bundles container =
      .error (.invalid (.notSupplied v.name container kind k)) := by
  rw [resolve_of_no_value unmet.refers (KeyRef.value?_eq_none_iff.2 unmet.missing),
    if_neg (by simp [unmet.needed])]

/-- Every variable comes to something, unless it needs a key that is not given. -/
theorem resolved_or_unmet (ns : String) (bundles : List Bundle) (v : EnvVar) :
    (∃ entry, v.Resolved ns bundles entry) ∨ ∃ kind k, v.Unmet ns bundles kind k := by
  cases reference : v.source.reference? with
  | none =>
      cases source : v.source with
      | literal value => exact .inl ⟨_, .literal source⟩
      | configMapKey | secretKey => simp [source, EnvSource.reference?] at reference
  | some referred =>
      obtain ⟨kind, k⟩ := referred
      cases value : k.value? ns bundles kind with
      | some bytes => exact .inl ⟨_, .given reference (KeyRef.value?_eq_some_iff.1 value)⟩
      | none =>
          have missing := KeyRef.value?_eq_none_iff.1 value
          cases needed : k.optional with
          | true => exact .inl ⟨_, .omitted reference needed missing⟩
          | false => exact .inr ⟨kind, k, reference, needed, missing⟩

theorem resolve_eq_ok_iff {entry : Option (String × String)} :
    v.resolve ns bundles container = .ok entry ↔ v.Resolved ns bundles entry := by
  constructor
  · intro comes
    rcases resolved_or_unmet ns bundles v with ⟨entry', resolved⟩ | ⟨kind, k, unmet⟩
    · cases comes.symm.trans resolved.resolve_eq
      exact resolved
    · cases comes.symm.trans unmet.resolve_eq
  · exact Resolved.resolve_eq

theorem resolve_eq_error_iff {f : Failure} :
    v.resolve ns bundles container = .error f ↔ ∃ kind k, v.Unmet ns bundles kind k ∧
      f = .invalid (.notSupplied v.name container kind k) := by
  constructor
  · intro fails
    rcases resolved_or_unmet ns bundles v with ⟨entry, resolved⟩ | ⟨kind, k, unmet⟩
    · cases fails.symm.trans resolved.resolve_eq
    · cases fails.symm.trans unmet.resolve_eq
      exact ⟨kind, k, unmet, rfl⟩
  · rintro ⟨kind, k, unmet, rfl⟩
    exact unmet.resolve_eq

/-- A variable comes to something exactly if it is met. -/
theorem exists_resolved_iff :
    (∃ entry, v.Resolved ns bundles entry) ↔ ∀ kind k, ¬ v.Unmet ns bundles kind k := by
  constructor
  · rintro ⟨entry, resolved⟩ kind k unmet
    have comes : v.resolve ns bundles "" = .ok entry := resolved.resolve_eq
    cases comes.symm.trans unmet.resolve_eq
  · intro met
    rcases resolved_or_unmet ns bundles v with resolved | ⟨kind, k, unmet⟩
    · exact resolved
    · exact absurd unmet (met kind k)

end EnvVar

/-! ### All variables of a container -/

/-- The values of variables: what each of them comes to, in order, without those left out. -/
def Environment (ns : String) (bundles : List Bundle) (vs : List EnvVar)
    (values : List (String × String)) : Prop :=
  ∃ entries, List.Forall₂ (EnvVar.Resolved ns bundles) vs entries ∧ values = entries.reduceOption

/-- A variable is the first one, in order, that needs a key and is not given it. -/
def FirstUnmet (ns : String) (bundles : List Bundle) (vs : List EnvVar) (v : EnvVar)
    (kind : ObjectKind) (k : KeyRef) : Prop :=
  ∃ before after, vs = before ++ v :: after ∧
    (∀ w ∈ before, ∀ kind k, ¬ w.Unmet ns bundles kind k) ∧ v.Unmet ns bundles kind k

variable {vs : List EnvVar} {container : String}

theorem environment_nil {values : List (String × String)} :
    Environment ns bundles [] values ↔ values = [] := by
  simp [Environment]

theorem environment_cons {v : EnvVar} {values : List (String × String)} :
    Environment ns bundles (v :: vs) values ↔
      ∃ entry rest, v.Resolved ns bundles entry ∧ Environment ns bundles vs rest ∧
        values = entry.toList ++ rest := by
  have reduce (entry : Option (String × String)) (entries : List (Option (String × String))) :
      (entry :: entries).reduceOption = entry.toList ++ entries.reduceOption := by
    cases entry <;> rfl
  constructor
  · rintro ⟨_, _ | ⟨resolved, others⟩, rfl⟩
    exact ⟨_, _, resolved, ⟨_, others, rfl⟩, reduce _ _⟩
  · rintro ⟨entry, _, resolved, ⟨entries, others, rfl⟩, rfl⟩
    exact ⟨entry :: entries, .cons resolved others, (reduce _ _).symm⟩

theorem resolveAll_eq_ok_iff {values : List (String × String)} :
    resolveAll ns bundles container vs = .ok values ↔ Environment ns bundles vs values := by
  induction vs generalizing values with
  | nil => simp [resolveAll, environment_nil, eq_comm]
  | cons v vs ih =>
      simp only [resolveAll, bind_eq_ok, EnvVar.resolve_eq_ok_iff, ih, environment_cons]
      constructor
      · rintro ⟨entry, resolved, rest, others, ⟨⟩⟩
        exact ⟨entry, rest, resolved, others, rfl⟩
      · rintro ⟨entry, rest, resolved, others, rfl⟩
        exact ⟨entry, resolved, rest, others, rfl⟩

theorem firstUnmet_cons {v w : EnvVar} {kind : ObjectKind} {k : KeyRef} :
    FirstUnmet ns bundles (w :: vs) v kind k ↔
      (v = w ∧ v.Unmet ns bundles kind k) ∨
        (∀ kind k, ¬ w.Unmet ns bundles kind k) ∧ FirstUnmet ns bundles vs v kind k := by
  constructor
  · rintro ⟨before, after, split, met, unmet⟩
    cases before with
    | nil =>
        cases split
        exact .inl ⟨rfl, unmet⟩
    | cons w' before =>
        cases split
        obtain ⟨first, others⟩ := List.forall_mem_cons.1 met
        exact .inr ⟨first, before, after, rfl, others, unmet⟩
  · rintro (⟨rfl, unmet⟩ | ⟨first, before, after, rfl, others, unmet⟩)
    · exact ⟨[], vs, rfl, by simp, unmet⟩
    · exact ⟨w :: before, after, rfl, List.forall_mem_cons.2 ⟨first, others⟩, unmet⟩

theorem resolveAll_eq_error_iff {f : Failure} :
    resolveAll ns bundles container vs = .error f ↔ ∃ v kind k,
      FirstUnmet ns bundles vs v kind k ∧ f = .invalid (.notSupplied v.name container kind k) := by
  induction vs with
  | nil => simp [resolveAll, FirstUnmet]
  | cons w vs ih =>
      simp only [resolveAll, bind_eq_error, EnvVar.resolve_eq_ok_iff, EnvVar.resolve_eq_error_iff,
        ih, firstUnmet_cons]
      constructor
      · rintro (⟨kind, k, unmet, rfl⟩ | ⟨entry, resolved, ⟨v, kind, k, first, rfl⟩ | ⟨_, _, ⟨⟩⟩⟩)
        · exact ⟨w, kind, k, .inl ⟨rfl, unmet⟩, rfl⟩
        · exact ⟨v, kind, k, .inr ⟨EnvVar.exists_resolved_iff.1 ⟨entry, resolved⟩, first⟩, rfl⟩
      · rintro ⟨v, kind, k, ⟨rfl, unmet⟩ | ⟨met, first⟩, rfl⟩
        · exact .inl ⟨kind, k, unmet, rfl⟩
        · obtain ⟨entry, resolved⟩ := EnvVar.exists_resolved_iff.2 met
          exact .inr ⟨entry, resolved, .inl ⟨v, kind, k, first, rfl⟩⟩

/-- What comes of the variables of a container. -/
structure Container.Resolution (ns : String) (bundles : List Bundle) (c : Container) : Prop where
  fails_iff : (∃ f, c.resolveEnv ns bundles = .error f) ↔
    ∃ v ∈ c.env, ∃ kind k, v.Unmet ns bundles kind k
  /-- The failure is about the first variable that needs a key and is not given it. -/
  named : ∀ f, c.resolveEnv ns bundles = .error f ↔ ∃ v kind k,
    FirstUnmet ns bundles c.env v kind k ∧ f = .invalid (.notSupplied v.name c.name kind k)
  given : ∀ values, c.resolveEnv ns bundles = .ok values ↔ Environment ns bundles c.env values

/-- In an environment every variable is met. -/
theorem Environment.met {values : List (String × String)}
    (environment : Environment ns bundles vs values) :
    ∀ v ∈ vs, ∀ kind k, ¬ v.Unmet ns bundles kind k := by
  induction vs generalizing values with
  | nil => simp
  | cons v vs ih =>
      obtain ⟨entry, rest, resolved, others, rfl⟩ := environment_cons.1 environment
      exact List.forall_mem_cons.2 ⟨EnvVar.exists_resolved_iff.1 ⟨entry, resolved⟩, ih others⟩

theorem Container.resolution (ns : String) (bundles : List Bundle) (c : Container) :
    c.Resolution ns bundles := by
  have named : ∀ f, c.resolveEnv ns bundles = .error f ↔ _ := fun _ => resolveAll_eq_error_iff
  have given : ∀ values, c.resolveEnv ns bundles = .ok values ↔ _ := fun _ => resolveAll_eq_ok_iff
  refine { fails_iff := ?_, named := named, given := given }
  constructor
  · rintro ⟨f, fails⟩
    obtain ⟨v, kind, k, ⟨before, after, split, -, unmet⟩, -⟩ := (named f).1 fails
    exact ⟨v, by simp [split], kind, k, unmet⟩
  · rintro ⟨v, declared, kind, k, unmet⟩
    cases comes : c.resolveEnv ns bundles with
    | error f => exact ⟨f, rfl⟩
    | ok values => exact absurd unmet (((given values).1 comes).met v declared kind k)

/-- What a second member of one name holds does not count, and a variable may come twice. -/
example :
    let first : Bundle := ⟨"first", "ns", [.single "" "app" "mode" "fast"], [], []⟩
    let second : Bundle := ⟨"second", "", [.single "" "app" "key" "late"], [], []⟩
    let c : Container := ⟨"a", "i", none, [], [], .empty, [],
      [⟨"MODE", .literal "slow"⟩, ⟨"KEY", .configMapKey ⟨"app", "key", true⟩⟩,
        ⟨"MODE", .configMapKey ⟨"app", "mode", false⟩⟩]⟩
    c.resolveEnv "ns" [first, second] = .ok [("MODE", "slow"), ("MODE", "fast")] := by
  rfl

/-! ### Before anything runs -/

theorem RunRequest.env_of_build {p : Pod} {c : Container} {r : RunRequest}
    (built : build p bundles c = .ok r) : c.resolveEnv p.ns bundles = .ok r.env := by
  obtain ⟨values, resolved, ⟨⟩⟩ := bind_eq_ok.1 built
  exact resolved

theorem RunRequest.build_of_error {p : Pod} {c : Container} {f : Failure}
    (failed : c.resolveEnv p.ns bundles = .error f) : build p bundles c = .error f :=
  bind_eq_error.2 (.inl failed)

theorem RunRequest.exists_build {p : Pod} {c : Container} {values : List (String × String)}
    (resolved : c.resolveEnv p.ns bundles = .ok values) : ∃ r, build p bundles c = .ok r :=
  ⟨_, bind_eq_ok.2 ⟨values, resolved, rfl⟩⟩

theorem Acts.mem_of_ran_mem {requests : List RunRequest} {handles : List String}
    {request : RunRequest} {answer : Except RuntimeFailure String}
    (member : (⟨.run request, answer⟩ : Act) ∈ List.zipWith Act.ran requests handles) :
    request ∈ requests := by
  rw [← List.map_uncurry_zip_eq_zipWith, List.mem_map] at member
  obtain ⟨⟨request', handle⟩, among, same⟩ := member
  cases same
  exact (List.of_mem_zip among).1

namespace Site

open Program

variable {p : Pod} {cs : List Container}

/-- Each request that is made is one for a container. -/
theorem exists_build_of_mem {requests : List (String × RunRequest)} {run : RunRequest}
    (built : runRequests p bundles cs = .ok requests) (among : run ∈ requests.map (·.2)) :
    ∃ c ∈ cs, RunRequest.build p bundles c = .ok run := by
  obtain ⟨entry, listed, rfl⟩ := List.mem_map.1 among
  have made : .ok entry.2 ∈ cs.map (RunRequest.build p bundles) :=
    (runRequests_eq_ok built).2 ▸ List.mem_map_of_mem listed
  exact List.mem_map.1 made

/-- The first container whose variables cannot be resolved is what making requests fails of. -/
theorem runRequests_of_first_unresolved {before after : List Container} {c : Container}
    {f : Failure} (resolved : ∀ d ∈ before, ∃ values, d.resolveEnv p.ns bundles = .ok values)
    (failed : c.resolveEnv p.ns bundles = .error f) :
    runRequests p bundles (before ++ c :: after) = .error f := by
  induction before with
  | nil => exact bind_eq_error.2 (.inl (RunRequest.build_of_error failed))
  | cons d before ih =>
      obtain ⟨⟨values, first⟩, others⟩ := List.forall_mem_cons.1 resolved
      obtain ⟨r, built⟩ := RunRequest.exists_build first
      exact bind_eq_error.2 (.inr ⟨r, built, bind_eq_error.2 (.inl (ih others))⟩)

/-- What creating a pod has to do with the variables of its containers. -/
structure VariablesFirst (site : Site) (request : CreateRequest) (acts : List Act)
    (r : Except Failure Unit) : Prop where
  /-- A container is run with the values of its variables. -/
  run : ∀ run answer, (⟨.run run, answer⟩ : Act) ∈ acts →
    ∃ c ∈ site.provisioned request.pod,
      RunRequest.build request.pod request.bundles c = .ok run ∧
        Environment request.pod.ns request.bundles c.env run.env
  /-- If a variable of any container is not met, then the engine is not asked for anything. -/
  unmet : ∀ c ∈ site.provisioned request.pod, ∀ v ∈ c.env, ∀ kind k,
    v.Unmet request.pod.ns request.bundles kind k → Acts.engine acts = [] ∧ ∃ f, r = .error f
  /-- The first such variable is what creating fails of, if it gets there. -/
  named : request.pod.check = .ok () → (request.pod.filePlan request.bundles).objection = none →
    (∀ op e, (⟨.file op, .error e⟩ : Act) ∉ acts) →
    ∀ before c after v kind k, site.provisioned request.pod = before ++ c :: after →
      (∀ d ∈ before, ∀ w ∈ d.env, ∀ kind k, ¬ w.Unmet request.pod.ns request.bundles kind k) →
      FirstUnmet request.pod.ns request.bundles c.env v kind k →
        r = .error (.invalid (.notSupplied v.name c.name kind k))

namespace Creating

variable {site : Site} {request : CreateRequest} {acts : List Act} {r : Except Failure Unit}

theorem exists_build_of_run (h : Creating site request acts r) {run : RunRequest}
    {answer : Except RuntimeFailure String} (member : (⟨.run run, answer⟩ : Act) ∈ acts) :
    ∃ c ∈ site.provisioned request.pod,
      RunRequest.build request.pod request.bundles c = .ok run := by
  have unfiled {ops : List FileOp} : (⟨.run run, answer⟩ : Act) ∉ ops.map Act.filed := by
    simp [Act.filed]
  cases h with
  | unwritten => simp [unfiled] at member
  | objected | unresolved => exact absurd member unfiled
  | discarded before failed after handles e answers free built =>
      refine exists_build_of_mem built ?_
      rcases List.mem_append.1 member with filed | member
      · exact absurd filed unfiled
      rcases List.mem_append.1 member with ran | member
      · have among := Acts.mem_of_ran_mem ran
        rw [List.map_append]
        exact List.mem_append_left _ among
      rcases List.mem_cons.1 member with last | removed
      · cases last
        simp
      · obtain ⟨handle, answer', same⟩ := Acts.exists_of_mem_zipWith removed
        cases same
  | created requests handles prior free built =>
      refine exists_build_of_mem built ?_
      rcases List.mem_append.1 member with filed | member
      · exact absurd filed unfiled
      rcases List.mem_append.1 member with ran | last
      · exact Acts.mem_of_ran_mem ran
      · cases List.mem_singleton.1 last

theorem variablesFirst (h : Creating site request acts r) (uid : String) :
    VariablesFirst site request (Acts.underLock uid acts) r := by
  refine { run := fun run answer member => ?_, unmet := ?_, named := ?_ }
  · have inside : (⟨.run run, answer⟩ : Act) ∈ acts := by simpa [Acts.underLock] using member
    obtain ⟨c, chosen, built⟩ := h.exists_build_of_run inside
    exact ⟨c, chosen, built,
      ((c.resolution _ _).given _).1 (RunRequest.env_of_build built)⟩
  · intro c chosen v declared kind k unmet
    rw [Acts.engine_underLock]
    obtain ⟨f, unresolved⟩ := (c.resolution _ _).fails_iff.2 ⟨v, declared, kind, k, unmet⟩
    rcases h.ready_or with nothing | ⟨-, ⟨requests, built⟩, -⟩
    · exact nothing
    · exact absurd built (runRequests_of_unresolved chosen unresolved requests)
  · intro _ free written before c after v kind k split met first
    have resolved : ∀ d ∈ before, ∃ values,
        d.resolveEnv request.pod.ns request.bundles = .ok values := by
      intro d member
      cases comes : d.resolveEnv request.pod.ns request.bundles with
      | ok values => exact ⟨values, rfl⟩
      | error f =>
          obtain ⟨w, declared, kind, k, unmet⟩ := (d.resolution _ _).fails_iff.1 ⟨f, comes⟩
          exact absurd unmet (met d member w declared kind k)
    have failed : runRequests request.pod request.bundles (site.provisioned request.pod) =
        .error (.invalid (.notSupplied v.name c.name kind k)) := by
      rw [split]
      exact runRequests_of_first_unresolved resolved
        (((c.resolution _ _).named _).2 ⟨v, kind, k, first, rfl⟩)
    cases h with
    | unwritten before' op after' e =>
        exact absurd (by simp [Acts.underLock]) (written op e)
    | objected o objection => cases free.symm.trans objection
    | unresolved f _ failed' =>
        cases failed.symm.trans failed'
        rfl
    | discarded _ _ _ _ _ _ _ built => cases failed.symm.trans built
    | created _ _ _ _ built => cases failed.symm.trans built

end Creating

/-- Resolving the variables of a container gives exactly their values, or fails of the first one
that needs a key and is not given it; and whatever is answered, a create runs a container only when
the variables of all containers that it is to run have their values. -/
theorem variables_before_runs (site : Site) (request : CreateRequest) (t : Tracker)
    (outside : List Act → (e : Effect) → e.Answer) :
    (∀ c : Container, c.Resolution request.pod.ns request.bundles) ∧
      VariablesFirst site request (play (site.create request).run t outside).2
        (play (site.create request).run t outside).1 := by
  refine ⟨Container.resolution _ _, ?_⟩
  rcases yields_create (yields_play (site.create request).run t outside) with
    ⟨v, refused, nothing, result⟩ | ⟨inner, admitted, all, attempt⟩
  · rw [nothing, result]
    refine { run := by simp, unmet := fun _ _ _ _ _ _ _ => ⟨rfl, _, rfl⟩, named := ?_ }
    intro admitted
    cases refused.symm.trans admitted
  · rw [all]
    exact attempt.variablesFirst _

end Site

/-- Answers of those who do whatever is asked of them. -/
def willing (_ : List Act) : (e : Effect) → e.Answer
  | .acquire _ | .release _ => ()
  | .lookup _ | .register _ _ | .forget _ => none
  | .file _ | .remove _ _ => .ok ()
  | .run _ => .ok "c1"
  | .inspect _ => .ok none
  | .logs _ _ => .ok []

/-- A pod that needs a key which a second config map of the name has, and the first one has not. -/
def CreateRequest.lacking : CreateRequest where
  pod := { Pod.configured with spec := { Pod.configured.spec with volumes := [] } }
  bundles :=
    [⟨"first", "ns", [.single "" "app" "level" "1"], [], []⟩,
      ⟨"second", "ns", [.single "" "app" "mode" "late"], [], []⟩]

theorem lacking_request_runs_nothing :
    let done := Program.play (Site.create ⟨"/srv", true⟩ .lacking).run ∅ willing
    done.1 = .error (.invalid (.notSupplied "MODE" "a" .configMap ⟨"app", "mode", false⟩)) ∧
      Acts.engine done.2 = [] := by
  intro done
  have first := (Site.variables_before_runs ⟨"/srv", true⟩ .lacking ∅ willing).2
  have unmet : EnvVar.Unmet "ns" CreateRequest.lacking.bundles
      ⟨"MODE", .configMapKey ⟨"app", "mode", false⟩⟩ .configMap ⟨"app", "mode", false⟩ :=
    ⟨rfl, rfl, KeyRef.value?_eq_none_iff.1 rfl⟩
  have acts : done.2 = [⟨.acquire "uid-1", ()⟩, ⟨.release "uid-1", ()⟩] := rfl
  constructor
  · refine first.named (by decide +kernel) rfl ?_ [] _ [] _ _ _ rfl (by simp)
      ⟨[], _, rfl, by simp, unmet⟩
    intro op e member
    change _ ∈ done.2 at member
    simp [acts] at member
  · exact (first.unmet _ List.mem_cons_self _ List.mem_cons_self _ _ unmet).1

end Podkeeper
