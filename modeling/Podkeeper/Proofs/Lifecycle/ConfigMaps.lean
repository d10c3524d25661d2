import Podkeeper.Proofs.Interleaving.Files
import Podkeeper.Proofs.Lifecycle.Variables
import Podkeeper.Proofs.Pods.Selection

/-!
Config maps as files and as variables.

The entries of a config map, all merged, are what is found key by key (`ConfigMap.listing`). A
volume without items writes the entries, and a variable looks up its key. So where a config map is
the only volume of a pod that is created, the variables which refer to it have the bytes of the
files for their keys, and no value where there is no file (`Site.config_map_views_agree`).
-/

namespace Podkeeper

/-! ### Entries -/

namespace ConfigMap

/-- The merged entries of a config map and what is found in it are one. -/
structure Listing (c : ConfigMap) : Prop where
  increasing : c.entries.entries.Pairwise fun a b => Utf8.ofString a.1 < Utf8.ofString b.1
  once : ∀ key, c.entries.keys.count key =
    if key ∈ c.data.keys ∨ key ∈ c.binaryData.keys then 1 else 0
  found : ∀ key, c.entries.get? key = c.get? key
  /-- A text counts, and bytes where there is no text. -/
  held : ∀ key bytes, c.get? key = some bytes ↔ KeyMap.Hold c.data c.binaryData key bytes

theorem mem_keys_entries {c : ConfigMap} {key : String} :
    key ∈ c.entries.keys ↔ key ∈ c.data.keys ∨ key ∈ c.binaryData.keys := by
  simp only [KeyMap.mem_keys_iff, get?_entries, get?, Option.isSome_or, Option.isSome_map,
    Bool.or_eq_true]

theorem listing (c : ConfigMap) : c.Listing := by
  refine { increasing := ?_, once := fun key => ?_, found := c.get?_entries, held := ?_ }
  · exact c.entries.increasing.imp fun below => Utf8.ofString_lt_iff.2 below
  · rw [c.entries.nodup_keys.count]
    simp only [mem_keys_entries]
  · exact fun _ _ => KeyMap.or_eq_some_iff_hold

/-- The first config map with a name holds bytes under a key. -/
def Supplied (bundles : List Bundle) (ns name key : String) (bytes : Bytes) : Prop :=
  ∃ c, Bundle.First Bundle.configMaps metadata bundles ns name c ∧
    KeyMap.Hold c.data c.binaryData key bytes

variable {bundles : List Bundle} {ns name key : String} {bytes bytes' : Bytes}

theorem supplied_iff :
    Supplied bundles ns name key bytes ↔
      ∃ c, Bundle.findConfigMap? bundles ns name = some c ∧ c.get? key = some bytes := by
  refine exists_congr fun c => and_congr ?_ KeyMap.or_eq_some_iff_hold.symm
  exact (Bundle.findSome?_eq_some_iff_first _ _).symm

theorem Supplied.unique (first : Supplied bundles ns name key bytes)
    (second : Supplied bundles ns name key bytes') : bytes = bytes' := by
  obtain ⟨c, found, held⟩ := supplied_iff.1 first
  obtain ⟨c', found', held'⟩ := supplied_iff.1 second
  cases found.symm.trans found'
  exact Option.some_inj.1 (held.symm.trans held')

theorem given_iff_supplied {k : KeyRef} :
    k.Given ns bundles .configMap bytes ↔ Supplied bundles ns k.name k.key bytes := by
  constructor
  · rintro (⟨first, held⟩ | _)
    exact ⟨_, first, held⟩
  · rintro ⟨c, first, held⟩
    exact .configMap first held

end ConfigMap

/-! ### Files -/

/-- Without items the files of a projection are the entries of the config map. -/
theorem Projection.exists_file_iff {q : Projection} (all : q.items = none) {c : ConfigMap}
    {key : String} {bytes : Bytes} :
    (∃ f ∈ q.files c, f.name = key ∧ f.bytes = bytes) ↔ c.get? key = some bytes := by
  rw [← c.get?_entries, KeyMap.get?_eq_some_iff, files, all]
  constructor
  · rintro ⟨f, member, rfl, rfl⟩
    obtain ⟨e, entry, rfl⟩ := List.mem_map.1 member
    exact entry
  · intro entry
    exact ⟨_, List.mem_map_of_mem entry, rfl, rfl⟩

/-- What is written for a pod whose only volume projects all of a config map. -/
theorem Pod.write_mem_ops_iff {p : Pod} {bundles : List Bundle} {v : Volume} {q : Projection}
    (only : p.spec.volumes = [v]) (projects : v.source = .configMap q) (all : q.items = none)
    (free : (p.filePlan bundles).objection = none) {directory key : String} {bytes : Bytes} :
    .write directory key bytes ∈ (p.filePlan bundles).ops ↔
      directory = directoryName p.ns q.name ∧
        ConfigMap.Supplied bundles p.ns q.name key bytes := by
  rw [(filePlan_of_free free).1, List.mem_flatMap, ConfigMap.supplied_iff, plans, only]
  constructor
  · rintro ⟨plan, member, written⟩
    obtain ⟨v', own, planned⟩ := List.mem_filterMap.1 member
    cases List.mem_singleton.1 own
    obtain ⟨q', c, projects', found, rfl⟩ := Volume.plan?_eq_some_iff.1 planned
    cases projects.symm.trans projects'
    obtain ⟨rfl, file⟩ := VolumePlan.write_mem_ops.1 written
    exact ⟨rfl, c, found, (Projection.exists_file_iff all).1 file⟩
  · rintro ⟨rfl, c, found, held⟩
    have planned := Volume.plan?_eq_some_iff.2 ⟨q, c, projects, found, rfl⟩
    exact ⟨_, List.mem_filterMap.2 ⟨v, List.mem_singleton_self v, planned⟩,
      VolumePlan.write_mem_ops.2 ⟨rfl, (Projection.exists_file_iff all).2 held⟩⟩

/-- Bytes are put last into a file if all that is written to it are these bytes. -/
theorem FileOp.lastPut?_of_mem {ops : List FileOp} {directory name : String} {bytes : Bytes}
    (member : .write directory name bytes ∈ ops)
    (alike : ∀ directory' name' bytes', .write directory' name' bytes' ∈ ops →
      Path.join directory name = Path.join directory' name' → bytes' = bytes) :
    lastPut? (Path.join directory name) ops = some bytes := by
  cases last : lastPut? (Path.join directory name) ops with
  | none =>
      have none := List.findSome?_eq_none_iff.1 last _ (List.mem_reverse.2 member)
      simp [put?] at none
  | some bytes' =>
      obtain ⟨directory', name', written, same⟩ := exists_write_of_lastPut? last
      rw [alike directory' name' bytes' written same]

/-! ### Both views -/

/-- A variable that refers to a key, with the files of a directory: it has the bytes of the file
for the key, and no value without one. -/
inductive EnvVar.Mirrors (filed : List FileOp) (directory : String) (v : EnvVar) (k : KeyRef) :
    Option (String × String) → Prop where
  | file {bytes : Bytes} (written : .write directory k.key bytes ∈ filed) :
      Mirrors filed directory v k (some (v.name, Utf8.lossy bytes))
  | omitted (unwritten : ∀ bytes, .write directory k.key bytes ∉ filed) :
      Mirrors filed directory v k none

/-- The values of variables, of which those that refer to the config map mirror its files. -/
def MirroringEnv (filed : List FileOp) (ns configMap : String) (vs : List EnvVar)
    (values : List (String × String)) : Prop :=
  ∃ entries, List.Forall₂ (fun v entry => ∀ k, v.source = .configMapKey k → k.name = configMap →
    v.Mirrors filed (directoryName ns configMap) k entry) vs entries ∧
      values = entries.reduceOption

theorem EnvVar.Resolved.mirrors {ns configMap : String} {bundles : List Bundle} {v : EnvVar}
    {entry : Option (String × String)} {filed : List FileOp}
    (resolved : v.Resolved ns bundles entry)
    (files : ∀ key bytes, .write (directoryName ns configMap) key bytes ∈ filed ↔
      ConfigMap.Supplied bundles ns configMap key bytes)
    {k : KeyRef} (refers : v.source = .configMapKey k) (same : k.name = configMap) :
    v.Mirrors filed (directoryName ns configMap) k entry := by
  have reference : v.source.reference? = some (.configMap, k) := by rw [refers]; rfl
  subst same
  cases resolved with
  | literal literal => cases literal.symm.trans refers
  | given refers' given =>
      cases reference.symm.trans refers'
      exact .file ((files _ _).2 (ConfigMap.given_iff_supplied.1 given))
  | omitted refers' optional missing =>
      cases reference.symm.trans refers'
      exact .omitted fun bytes written =>
        missing bytes (ConfigMap.given_iff_supplied.2 ((files _ _).1 written))

/-- A container's variables have their values, and so mirror files that are the entries. -/
theorem RunRequest.mirroringEnv {p : Pod} {bundles : List Bundle} {c : Container}
    {run : RunRequest} (built : build p bundles c = .ok run) {configMap : String}
    {filed : List FileOp}
    (files : ∀ key bytes, .write (directoryName p.ns configMap) key bytes ∈ filed ↔
      ConfigMap.Supplied bundles p.ns configMap key bytes) :
    MirroringEnv filed p.ns configMap c.env run.env := by
  obtain ⟨entries, resolved, values⟩ :=
    ((c.resolution p.ns bundles).given run.env).1 (env_of_build built)
  exact ⟨entries, resolved.imp fun _ _ comes _ => comes.mirrors files, values⟩

/-- Where there is a handle for each request, each was made. -/
theorem Acts.exists_ran_mem {requests : List RunRequest} {handles : List String}
    (ran : handles.length = requests.length) {run : RunRequest} (among : run ∈ requests) :
    ∃ handle, Act.ran run handle ∈ List.zipWith Act.ran requests handles := by
  obtain ⟨i, bound, rfl⟩ := List.getElem_of_mem among
  have both : i < (List.zipWith Act.ran requests handles).length := by
    rw [List.length_zipWith]
    omega
  refine ⟨handles[i], ?_⟩
  rw [← List.getElem_zipWith (h := both)]
  exact List.getElem_mem both

namespace Site

open Program

/-- What a created pod sees of the config map that is its only volume. -/
structure ConfigViews (site : Site) (request : CreateRequest) (q : Projection) (acts : List Act) :
    Prop where
  /-- The files that are written are the keys that the config map has, with what it holds there. -/
  files : ∀ directory key bytes, .write directory key bytes ∈ Acts.filed acts ↔
    directory = directoryName request.pod.ns q.name ∧
      ConfigMap.Supplied request.bundles request.pod.ns q.name key bytes
  left : ∀ t : Tree, t.Answers site.dataRoot acts → ∀ directory key bytes,
    .write directory key bytes ∈ Acts.filed acts →
      (t.afterActs site.dataRoot acts).bytes?
        (Path.join site.dataRoot (Path.join directory key)) = some bytes
  /-- Every container that is to run is run, with variables that mirror the files. -/
  started : ∀ c ∈ site.provisioned request.pod, ∃ run handle,
    RunRequest.build request.pod request.bundles c = .ok run ∧ Act.ran run handle ∈ acts ∧
      MirroringEnv (Acts.filed acts) request.pod.ns q.name c.env run.env
  /-- No other container is run. -/
  only : ∀ run answer, (⟨.run run, answer⟩ : Act) ∈ acts →
    ∃ c ∈ site.provisioned request.pod, RunRequest.build request.pod request.bundles c = .ok run

variable {site : Site} {request : CreateRequest} {acts : List Act}

/-- A create that succeeds has run each of its containers. -/
theorem Creating.exists_ran (h : Creating site request acts (.ok ())) {c : Container}
    (chosen : c ∈ site.provisioned request.pod) : ∃ run handle,
      RunRequest.build request.pod request.bundles c = .ok run ∧ Act.ran run handle ∈ acts := by
  cases h with
  | created requests handles prior free built ran =>
      have made : RunRequest.build request.pod request.bundles c ∈
          requests.map fun r => Except.ok r.2 :=
        (runRequests_eq_ok built).2 ▸ List.mem_map_of_mem chosen
      obtain ⟨⟨name, run⟩, among, same⟩ := List.mem_map.1 made
      have each : handles.length = (requests.map (·.2)).length := by rw [ran, List.length_map]
      obtain ⟨handle, member⟩ := Acts.exists_ran_mem each (List.mem_map_of_mem among)
      exact ⟨run, handle, same.symm,
        List.mem_append_right _ (List.mem_append_left _ member)⟩

theorem Creating.objection_eq_none (h : Creating site request acts (.ok ())) :
    (request.pod.filePlan request.bundles).objection = none := by
  cases h with
  | created _ _ _ free => exact free

theorem configViews {v : Volume} {q : Projection} (single : request.pod.spec.volumes = [v])
    (projects : v.source = .configMap q) (all : q.items = none)
    (created : Yields (site.create request).run acts (.ok ())) :
    ConfigViews site request q acts := by
  obtain ⟨-, -, filed⟩ := filed_of_yields created
  have planned := filed rfl
  rcases yields_create created with ⟨_, -, -, failed⟩ | ⟨inner, admitted, rfl, creating⟩
  · cases failed
  have files (directory key : String) (bytes : Bytes) :
      .write directory key bytes ∈ Acts.filed (Acts.underLock request.pod.uid inner) ↔
        directory = directoryName request.pod.ns q.name ∧
          ConfigMap.Supplied request.bundles request.pod.ns q.name key bytes := by
    rw [planned]
    exact Pod.write_mem_ops_iff single projects all creating.objection_eq_none
  have named : ∀ op ∈ Acts.filed (Acts.underLock request.pod.uid inner), op.IsNamed := by
    rw [planned]
    exact fun op => Pod.isNamed_of_mem_ops admitted
  refine { files := files, left := ?_, started := ?_, only := ?_ }
  · intro t told directory key bytes written
    obtain ⟨h, h'⟩ : Path.IsName directory ∧ Path.IsName key := named _ written
    have last := FileOp.lastPut?_of_mem written fun directory' key' bytes' written' same => by
      obtain ⟨k, k'⟩ : Path.IsName directory' ∧ Path.IsName key' := named _ written'
      obtain ⟨rfl, rfl⟩ := (Path.IsName.join_inj h h' k k').1 same
      exact ((files _ _ _).1 written').2.unique ((files _ _ _).1 written).2
    rw [Tree.bytes?_afterActs told named h h', last, Option.some_or]
  · intro c chosen
    obtain ⟨run, handle, built, member⟩ := creating.exists_ran chosen
    have inside : Act.ran run handle ∈ Acts.underLock request.pod.uid inner := by
      simp [Acts.underLock, member]
    exact ⟨run, handle, built, inside, RunRequest.mirroringEnv built fun key bytes =>
      (files _ key bytes).trans (and_iff_right rfl)⟩
  · intro run answer member
    have inside : (⟨.run run, answer⟩ : Act) ∈ inner := by simpa [Acts.underLock] using member
    exact creating.exists_build_of_run inside

/-- A config map lists what is found in it, each key once and in the order of bytes; and when a pod
is created whose only volume is a config map without items, the variables that refer to it mirror
the files. -/
theorem config_map_views_agree :
    (∀ c : ConfigMap, c.Listing) ∧
    ∀ (site : Site) (request : CreateRequest) (v : Volume) (q : Projection),
      request.pod.spec.volumes = [v] → v.source = .configMap q → q.items = none →
      ∀ (t : Tracker) (outside : List Act → (e : Effect) → e.Answer),
        (play (site.create request).run t outside).1 = .ok () →
          ConfigViews site request q (play (site.create request).run t outside).2 := by
  refine ⟨ConfigMap.listing, fun site request v q single projects all t outside created => ?_⟩
  have yields := yields_play (site.create request).run t outside
  rw [created] at yields
  exact configViews single projects all yields

end Site

/-- A pod with a config map for its only volume and in its variables. The config map has a key with
a text and bytes, one with bytes that are no text, and one that is not in ASCII. -/
def CreateRequest.overlapping : CreateRequest where
  pod :=
    { Pod.configured with
      spec :=
        { Pod.configured.spec with
          containers :=
            [⟨"a", "i", none, [], [], .empty, [],
              [⟨"SIZE", .configMapKey ⟨"app", "größe", false⟩⟩,
                ⟨"MODE", .configMapKey ⟨"app", "mode", false⟩⟩,
                ⟨"NONE", .configMapKey ⟨"app", "none", true⟩⟩,
                ⟨"RAW", .configMapKey ⟨"app", "raw", false⟩⟩]⟩] } }
  bundles :=
    [⟨"own", "ns", [⟨⟨"app", ""⟩, .ofList [("mode", "fast"), ("größe", "9")],
      .ofList [("mode", [0xff]), ("raw", [0x61, 0xff])], none⟩], [], []⟩]

theorem overlapping_config_map_seen :
    let done := Program.play (Site.create ⟨"/srv", true⟩ .overlapping).run ∅ willing
    done.1 = .ok () ∧
      Site.ConfigViews ⟨"/srv", true⟩ .overlapping ⟨"app", none, none, none⟩ done.2 ∧
      (Tree.afterActs ∅ "/srv" done.2).bytes? "/srv/ns-app/mode" = some (Utf8.ofString "fast") ∧
      ∃ run handle, Act.ran run handle ∈ done.2 ∧
        run.env = [("SIZE", "9"), ("MODE", "fast"), ("RAW", "a\ufffd")] := by
  intro done
  have created : done.1 = .ok () := by decide +kernel
  have views := Site.config_map_views_agree.2 ⟨"/srv", true⟩ .overlapping
    ⟨"app", .configMap ⟨"app", none, none, none⟩⟩ ⟨"app", none, none, none⟩ rfl rfl rfl ∅ willing
    created
  have told : Tree.Answers ∅ "/srv" done.2 := by decide +kernel
  have written : .write "ns-app" "mode" (Utf8.ofString "fast") ∈ Acts.filed done.2 := by
    decide +kernel
  have path : Path.join "/srv" (Path.join "ns-app" "mode") = "/srv/ns-app/mode" := by
    decide +kernel
  obtain ⟨run, handle, built, ran, -⟩ := views.started _ List.mem_cons_self
  have resolved : Container.resolveEnv "ns" CreateRequest.overlapping.bundles
      (CreateRequest.overlapping.pod.spec.containers.head (List.cons_ne_nil _ _)) =
        .ok [("SIZE", "9"), ("MODE", "fast"), ("RAW", "a\ufffd")] := by
    decide +kernel
  have env := resolved.symm.trans (RunRequest.env_of_build built)
  rw [← path]
  exact ⟨created, views, views.left ∅ told _ _ _ written, run, handle, ran,
    (Except.ok.inj env).symm⟩

end Podkeeper
