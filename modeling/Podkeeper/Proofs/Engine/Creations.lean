import Podkeeper.Engine.Creation
import Podkeeper.Proofs.Json.Decoding
import Podkeeper.Proofs.Lifecycle.Variables
import Podkeeper.Proofs.Pods.Admission

/-!
What the engine is told about a container that it is to make.

A request to run a container holds the command and the arguments twice: word by word, and in one
line, which is split at its blanks where no word was declared. Without words the line is empty, so
it is never the line that counts, and words that are empty or hold blanks arrive as they are. Each
variable goes in a line of its own. A name that was admitted has no equals sign, so that name and
value are read from the line again. In this way the body that is sent to the engine tells of each
container of an admitted pod what was declared for it (`Engine.Creation.tells_declared`).
-/

namespace Podkeeper

/-! ### Members of objects -/

namespace Json

/-- What is found in a record under a key is the last value there. -/
theorem get?_record (key : String) (ms : List Value.Member?) :
    (Value.record ms).get? key = (under ⟨key, []⟩ (present ms)).getLast? := by
  rw [under, List.getLast?_map, List.getLast?_eq_head?_reverse, ← List.filter_reverse,
    List.head?_filter, Value.record, Value.get?]
  simp only [covers_mk, List.contains_nil, Bool.or_false]
  congr 2
  funext m
  exact Bool.beq_comm

theorem getLast?_toList {α : Type} (a : Option α) : a.toList.getLast? = a := by
  cases a with
  | none => rfl
  | some a => rfl

end Json

/-! ### Variables -/

/-- A variable keeps its name with its value. -/
theorem EnvVar.Resolved.name_eq {ns : String} {bundles : List Bundle} {v : EnvVar}
    {value : String × String} (resolved : v.Resolved ns bundles (some value)) :
    value.1 = v.name := by
  cases resolved with
  | literal => rfl
  | given => rfl

theorem Environment.exists_of_mem {ns : String} {bundles : List Bundle} {vs : List EnvVar}
    {values : List (String × String)} (environment : Environment ns bundles vs values)
    {value : String × String} (member : value ∈ values) : ∃ v ∈ vs, value.1 = v.name := by
  induction vs generalizing values with
  | nil =>
      rw [environment_nil.1 environment] at member
      cases member
  | cons v vs ih =>
      obtain ⟨entry, rest, resolved, others, rfl⟩ := environment_cons.1 environment
      rcases List.mem_append.1 member with first | later
      · obtain rfl := Option.mem_toList.1 first
        exact ⟨v, List.mem_cons_self, resolved.name_eq⟩
      · obtain ⟨w, declared, same⟩ := ih others later
        exact ⟨w, List.mem_cons_of_mem _ declared, same⟩

/-- The names of the variables of an admitted container, whatever their values are. -/
theorem Container.notMem_of_resolveEnv {c : Container} (checked : c.check = .ok ()) {ns : String}
    {bundles : List Bundle} {values : List (String × String)}
    (resolved : c.resolveEnv ns bundles = .ok values) {value : String × String}
    (member : value ∈ values) : '=' ∉ value.1.toList := by
  obtain ⟨-, -, -, names, -⟩ := Container.check_eq_ok.1 checked
  have environment := ((c.resolution ns bundles).given values).1 resolved
  obtain ⟨v, declared, same⟩ := environment.exists_of_mem member
  rw [same]
  exact (names v declared).2

namespace Engine

/-- The name and the value in a line that the engine is given for a variable. The name stands
before the first equals sign. -/
def assignment? (line : String) : Option (String × String) :=
  match line.toList.dropWhile (· != '=') with
  | _ :: value => some (.ofList (line.toList.takeWhile (· != '=')), .ofList value)
  | [] => none

theorem assignment?_join {name : String} (plain : '=' ∉ name.toList) (value : String) :
    assignment? (name ++ "=" ++ value) = some (name, value) := by
  have whole : (name ++ "=" ++ value).toList = name.toList ++ '=' :: value.toList := by simp
  have passed : ∀ c ∈ name.toList, (c != '=') = true := by
    intro c member
    rw [bne_iff_ne]
    rintro rfl
    exact plain member
  rw [assignment?, whole, List.dropWhile_append_of_pos passed, List.takeWhile_append_of_pos passed]
  simp

namespace Creation

/-! ### Words -/

/-- The line made of the words that were declared never counts beside them. -/
theorem map_words_join (declared : List String) :
    (words declared (" ".intercalate declared)).map Json.Value.texts =
      if declared = [] then none else some (.texts declared) := by
  cases declared with
  | nil => rfl
  | cons word others => rfl

/-! ### Labels -/

/-- Of two labels with different names both are kept, and there are no others. -/
theorem get?_ofList_pair {first second : String} (apart : first ≠ second) (a b key value : String) :
    (KeyMap.ofList [(first, a), (second, b)]).get? key = some value ↔
      (key = first ∧ value = a) ∨ (key = second ∧ value = b) := by
  have inserted : KeyMap.ofList [(first, a), (second, b)] =
      ((∅ : KeyMap String).insert first a).insert second b := rfl
  rw [inserted, KeyMap.get?_insert, KeyMap.get?_insert, KeyMap.get?_empty]
  by_cases last : key = second
  · subst last
    simp [apart.symm, eq_comm]
  · simp [last, eq_comm]

/-! ### Bodies -/

section

variable (creation : Creation)

theorem get?_image : creation.encode.get? "Image" = some (.text creation.image) := by
  simp [encode, Json.get?_record]

theorem get?_entrypoint :
    creation.encode.get? "Entrypoint" = creation.entrypoint.map .texts := by
  simp [encode, Json.get?_record, Json.getLast?_toList]

theorem get?_arguments : creation.encode.get? "Cmd" = creation.arguments.map .texts := by
  simp [encode, Json.get?_record, Json.getLast?_toList]

theorem get?_env : creation.encode.get? "Env" = some (.texts creation.env) := by
  simp [encode, Json.get?_record]

theorem get?_labels : creation.encode.get? "Labels" = some (.ofMap .text creation.labels) := by
  simp [encode, Json.get?_record]

open Json.Value in
theorem exists_host : ∃ host, creation.encode.get? "HostConfig" = some host ∧
    host.get? "Binds" = if creation.mounts = [] then none else some (.texts creation.mounts) := by
  refine ⟨record [member "AutoRemove" (.flag false), nonEmptyList "Binds" .text creation.mounts],
    by simp [encode, Json.get?_record], ?_⟩
  rw [Json.get?_record]
  by_cases bare : creation.mounts = []
  · simp [bare]
  · simp [bare, texts]

/-- There are no other members. -/
theorem mem_of_get?_ne_none {key : String} (found : creation.encode.get? key ≠ none) :
    key ∈ ["Image", "Entrypoint", "Cmd", "Env", "Labels", "HostConfig"] := by
  by_contra other
  simp only [List.mem_cons, List.not_mem_nil, or_false, not_or] at other
  apply found
  simp [encode, Json.get?_record, other]

end

/-- A body tells the engine what was declared for a container of a pod, and no more. -/
structure Tells (root : String) (p : Pod) (bundles : List Bundle) (c : Container)
    (body : Json.Value) : Prop where
  image : body.get? "Image" = some (.text c.imageReference)
  /-- The words of the command arrive one by one. Without any the image decides. -/
  command : body.get? "Entrypoint" = if c.command = [] then none else some (.texts c.command)
  args : body.get? "Cmd" = if c.args = [] then none else some (.texts c.args)
  /-- The variables are read from their lines as they were resolved. -/
  env : ∃ lines values, body.get? "Env" = some (.texts lines) ∧
    c.resolveEnv p.ns bundles = .ok values ∧ lines.map assignment? = values.map some
  labels : ∃ labels : KeyMap String, body.get? "Labels" = some (.ofMap .text labels) ∧
    ∀ key value, labels.get? key = some value ↔
      (key = RunRequest.uidLabel ∧ value = p.uid) ∨ (key = RunRequest.nsLabel ∧ value = p.ns)
  /-- There is one bind for each mount, in order. -/
  mounts : ∃ host, body.get? "HostConfig" = some host ∧
    host.get? "Binds" = if c.mounts = [] then none
      else some (.texts (c.mounts.map fun m => anchorMount root (m.spec p.ns)))
  others : ∀ key, body.get? key ≠ none →
    key ∈ ["Image", "Entrypoint", "Cmd", "Env", "Labels", "HostConfig"]

/-- A container with words that one line would not keep apart, and with values that have equals
signs. -/
def wordy : Container where
  name := "a"
  image := "i"
  tag := some "3"
  command := ["", " ", "echo a b"]
  args := []
  resources := .empty
  mounts := [⟨"data", "/m", none, false⟩]
  env := [⟨"OPTS", .literal "-x=1"⟩, ⟨"MODE", .configMapKey ⟨"app", "mode", false⟩⟩]

end Creation

end Engine

end Podkeeper
