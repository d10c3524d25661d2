import Mathlib.Data.List.Basic
import Podkeeper.Files.Path

/-!
What lies below a directory.

A path is resolved lexically: its parts are entered one after another, a point stays and two points
go up, at the root as well. Whether a relative path stays below the directory that it is joined to
must not depend on that directory, so its depth is counted instead: it may not go up from where it
begins, and it has to end deeper (`Path.isBelow_join`).
-/

namespace Podkeeper.Path

/-! ### Resolving -/

/-- The directory that a part leads to. -/
def enter (dir : List String) (part : String) : List String :=
  if part = "." then dir
  else if part = ".." then dir.dropLast
  else dir ++ [part]

/-- The names on the way from the root, without points. -/
def resolve (path : String) : List String := (parts path).foldl enter []

/-- An absolute path that leads below a directory, and not to the directory itself. -/
def IsBelow (dir path : String) : Prop :=
  isAbsolute path = true ∧ resolve dir <+: resolve path ∧ resolve path ≠ resolve dir

instance (dir path : String) : Decidable (IsBelow dir path) := by
  unfold IsBelow
  infer_instance

/-- How deep one is after entering a part. Nothing is known of what lies above the start. -/
def depthAfter? (depth : Nat) (part : String) : Option Nat :=
  if part = "." then some depth
  else if part = ".." then
    if depth = 0 then none else some (depth - 1)
  else some (depth + 1)

/-- How deep a path ends, if it never goes up from the directory that it begins in. -/
def depth? (path : String) : Option Nat := (parts path).foldlM depthAfter? 0

/-- A relative path that never leaves the directory that it begins in, and ends below it. -/
def isInside (path : String) : Bool := (depth? path).any (0 < ·)

/-! ### One part -/

/-- While the depth is known, entering a part does not touch what lies above the start. -/
theorem enter_append (base : List String) {dir : List String} {part : String} {depth : Nat}
    (known : depthAfter? dir.length part = some depth) :
    enter (base ++ dir) part = base ++ enter dir part ∧ (enter dir part).length = depth := by
  rw [depthAfter?] at known
  rw [enter, enter]
  split at known
  · rename_i stays
    rw [if_pos stays, if_pos stays]
    exact ⟨rfl, Option.some.inj known⟩
  · rename_i moves
    rw [if_neg moves, if_neg moves]
    split at known
    · rename_i up
      rw [if_pos up, if_pos up]
      split at known
      · cases known
      · rename_i deep
        have some_left : dir ≠ [] := fun empty => deep (by rw [empty, List.length_nil])
        refine ⟨List.dropLast_append_of_ne_nil some_left, ?_⟩
        rw [List.length_dropLast]
        exact Option.some.inj known
    · rename_i down
      rw [if_neg down, if_neg down]
      refine ⟨List.append_assoc .., ?_⟩
      rw [List.length_append, List.length_singleton]
      exact Option.some.inj known

/-- The depth gets lost only by going up from the start. -/
theorem depthAfter?_eq_none {depth : Nat} {part : String} (lost : depthAfter? depth part = none) :
    part = ".." ∧ depth = 0 := by
  rw [depthAfter?] at lost
  split at lost
  · cases lost
  · split at lost
    · rename_i up
      split at lost
      · rename_i top
        exact ⟨up, top⟩
      · cases lost
    · cases lost

theorem notMem_enter {name part : String} {dir : List String} (other : name ≠ part)
    (apart : name ∉ dir) : name ∉ enter dir part := by
  rw [enter]
  split
  · exact apart
  · split
    · exact fun member => apart (List.dropLast_subset dir member)
    · simp [apart, other]

/-! ### All parts -/

theorem foldl_enter_append (base : List String) {dir ways : List String} {depth : Nat}
    (known : ways.foldlM depthAfter? dir.length = some depth) :
    ways.foldl enter (base ++ dir) = base ++ ways.foldl enter dir ∧
      (ways.foldl enter dir).length = depth := by
  induction ways generalizing dir with
  | nil => exact ⟨rfl, Option.some.inj known⟩
  | cons part rest ih =>
      rw [List.foldlM_cons] at known
      obtain ⟨next, first, known⟩ := Option.bind_eq_some_iff.1 known
      obtain ⟨entered, deep⟩ := enter_append base first
      rw [List.foldl_cons, List.foldl_cons, entered]
      exact ih (deep ▸ known)

theorem depth?_spec (base : List String) {path : String} {depth : Nat}
    (known : depth? path = some depth) :
    (parts path).foldl enter base = base ++ resolve path ∧ (resolve path).length = depth := by
  have spec : (parts path).foldl enter (base ++ []) = base ++ resolve path ∧ _ :=
    foldl_enter_append base known
  rwa [List.append_nil] at spec

/-- Without two points the depth stays known and does not shrink. -/
theorem depth_grows {ways : List String} (ascent : ".." ∉ ways) (start : Nat) :
    ∃ depth, ways.foldlM depthAfter? start = some depth ∧ start ≤ depth := by
  induction ways generalizing start with
  | nil => exact ⟨start, rfl, Nat.le_refl _⟩
  | cons part rest ih =>
      rw [List.mem_cons, not_or] at ascent
      rw [List.foldlM_cons, depthAfter?, if_neg (Ne.symm ascent.1)]
      split
      · exact ih ascent.2 start
      · obtain ⟨depth, known, grown⟩ := ih ascent.2 (start + 1)
        exact ⟨depth, known, Nat.le_of_succ_le grown⟩

theorem notMem_foldl_enter {name : String} {dir ways : List String} (other : name ∉ ways)
    (apart : name ∉ dir) : name ∉ ways.foldl enter dir := by
  induction ways generalizing dir with
  | nil => exact apart
  | cons part rest ih =>
      rw [List.mem_cons, not_or] at other
      exact ih other.2 (notMem_enter other.1 apart)

/-- A way that goes up too far leaves a base for good if its name occurs nowhere else. -/
theorem notMem_of_depth_lost {name : String} {dir ways : List String} (other : name ∉ ways)
    (apart : name ∉ dir) (lost : ways.foldlM depthAfter? dir.length = none) :
    name ∉ ways.foldl enter ([name] ++ dir) := by
  induction ways generalizing dir with
  | nil => cases lost
  | cons part rest ih =>
      rw [List.mem_cons, not_or] at other
      rw [List.foldlM_cons] at lost
      rw [List.foldl_cons]
      cases first : depthAfter? dir.length part with
      | none =>
          obtain ⟨rfl, top⟩ := depthAfter?_eq_none first
          rw [List.eq_nil_of_length_eq_zero top]
          exact notMem_foldl_enter other.2 (by simp [enter])
      | some next =>
          obtain ⟨entered, deep⟩ := enter_append [name] first
          rw [first] at lost
          rw [entered]
          exact ih other.2 (notMem_enter other.1 apart) (deep ▸ lost)

/-! ### Parts of joined paths -/

theorem splitFrom_append (part front rest : List Char) :
    splitFrom part (front ++ '/' :: rest) = splitFrom part front ++ splitFrom [] rest := by
  induction part, front using splitFrom.induct with
  | case1 part => simp [splitFrom]
  | case2 part front ih => simp [splitFrom, ih]
  | case3 part c front slash ih => simp [splitFrom, ih]

theorem splitFrom_of_notMem {part cs : List Char} (plain : '/' ∉ cs) :
    splitFrom part cs = [part.reverse ++ cs] := by
  induction part, cs using splitFrom.induct with
  | case1 part => simp [splitFrom]
  | case2 part rest ih => simp at plain
  | case3 part c rest slash ih =>
      rw [List.mem_cons, not_or] at plain
      simp [splitFrom, ih plain.2]

theorem length_le_of_mem_splitFrom {part cs name : List Char} (member : name ∈ splitFrom part cs) :
    name.length ≤ part.length + cs.length := by
  induction part, cs using splitFrom.induct with
  | case1 part =>
      simp only [splitFrom, List.mem_singleton] at member
      simp [member]
  | case2 part rest ih =>
      simp only [splitFrom, List.mem_cons] at member
      rcases member with rfl | member
      · simp
      · have bound := ih member
        simp at bound ⊢
        omega
  | case3 part c rest slash ih =>
      simp only [splitFrom] at member
      have bound := ih member
      simp at bound ⊢
      omega

theorem parts_append_slash (front rest : String) :
    parts (front ++ "/" ++ rest) = parts front ++ parts rest := by
  simp [parts, splitFrom_append]

theorem parts_of_notMem {name : String} (plain : '/' ∉ name.toList) (given : name ≠ "") :
    parts name = [name] := by
  simp [parts, splitFrom_of_notMem plain, given]

/-- Nothing that is longer than a path is a part of it. -/
theorem length_le_of_mem_parts {path name : String} (member : name ∈ parts path) :
    name.length ≤ path.length := by
  simp only [parts, List.mem_map, List.mem_filter] at member
  obtain ⟨cs, ⟨member, -⟩, rfl⟩ := member
  have bound := length_le_of_mem_splitFrom member
  rw [String.length_toList] at bound
  simpa using bound

theorem isAbsolute_iff {path : String} :
    isAbsolute path = true ↔ ∃ rest, path.toList = '/' :: rest := by
  rw [isAbsolute, String.startsWith_string_iff]
  constructor
  · rintro ⟨rest, whole⟩
    exact ⟨rest, whole.symm⟩
  · rintro ⟨rest, whole⟩
    exact ⟨rest, whole.symm⟩

/-- A relative path is put behind a directory, with a slash between them unless one is there. -/
theorem join_eq {dir path : String} (given : dir ≠ "") (relative : isAbsolute path = false) :
    join dir path = dir ++ path ∧ (∃ front, dir = front ++ "/") ∨
      join dir path = dir ++ "/" ++ path := by
  rw [join, relative, decide_eq_false given]
  simp only [Bool.false_or, Bool.false_eq_true, if_false]
  split
  · rename_i slash
    rw [← String.endsWith_toSlice, String.Slice.endsWith_string_iff, String.copy_toSlice] at slash
    obtain ⟨front, whole⟩ := slash
    refine .inl ⟨rfl, String.ofList front, String.toList_inj.1 ?_⟩
    rw [String.toList_append, String.toList_ofList]
    exact whole.symm
  · exact .inr rfl

theorem ne_empty_of_isAbsolute {dir : String} (absolute : isAbsolute dir = true) : dir ≠ "" := by
  rintro rfl
  exact absurd absolute (by decide +kernel)

theorem isAbsolute_join {dir path : String} (absolute : isAbsolute dir = true)
    (relative : isAbsolute path = false) : isAbsolute (join dir path) = true := by
  obtain ⟨rest, whole⟩ := isAbsolute_iff.1 absolute
  refine isAbsolute_iff.2 ?_
  rcases join_eq (ne_empty_of_isAbsolute absolute) relative with ⟨joined, -⟩ | joined
  · exact ⟨rest ++ path.toList, by rw [joined, String.toList_append, whole, List.cons_append]⟩
  · exact ⟨rest ++ '/' :: path.toList, by simp [joined, whole]⟩

/-- Joined to a directory, a relative path comes behind its parts. -/
theorem parts_join {dir path : String} (relative : isAbsolute path = false) :
    parts (join dir path) = parts dir ++ parts path := by
  by_cases given : dir = ""
  · rw [given, join, if_pos (by simp)]
    rfl
  · rcases join_eq given relative with ⟨joined, front, rfl⟩ | joined
    · have alone : parts (front ++ "/") = parts front := by
        rw [← String.append_empty (s := front ++ "/"), parts_append_slash]
        exact List.append_nil _
      rw [joined, parts_append_slash, alone]
    · rw [joined, parts_append_slash]

theorem resolve_join {dir path : String} (relative : isAbsolute path = false) :
    resolve (join dir path) = (parts path).foldl enter (resolve dir) := by
  rw [resolve, parts_join relative, List.foldl_append, resolve]

/-! ### Names in paths -/

theorem isAbsolute_eq_false {path : String} (plain : '/' ∉ path.toList) :
    isAbsolute path = false := by
  rw [← Bool.not_eq_true, isAbsolute_iff]
  rintro ⟨rest, whole⟩
  exact plain (by simp [whole])

/-- A part of a path that is the name of an entry. -/
structure IsName (part : String) : Prop where
  given : part ≠ ""
  stays : part ≠ "."
  up : part ≠ ".."
  plain : '/' ∉ part.toList

theorem isName_of_isPlainName {name : String} (plain : isPlainName name = true) : IsName name := by
  simp only [isPlainName, Bool.and_eq_true, decide_eq_true_eq, List.all_eq_true] at plain
  obtain ⟨⟨⟨given, stays⟩, up⟩, all⟩ := plain
  exact ⟨given, stays, up, fun member => absurd (all '/' member) (by decide)⟩

namespace IsName

variable {part directory name directory' name' : String}

theorem isAbsolute_eq (h : IsName part) : isAbsolute part = false := isAbsolute_eq_false h.plain

theorem enter_eq (h : IsName part) (dir : List String) : enter dir part = dir ++ [part] := by
  rw [enter, if_neg h.stays, if_neg h.up]

/-- A name in a directory with a name. -/
theorem join_eq (h : IsName directory) (h' : IsName name) :
    join directory name = directory ++ "/" ++ name := by
  rcases Path.join_eq h.given h'.isAbsolute_eq with ⟨-, front, whole⟩ | joined
  · exact absurd (by simp [whole]) h.plain
  · exact joined

/-- A path of two names is cut in one way. -/
theorem join_inj (h : IsName directory) (h' : IsName name) (k : IsName directory')
    (k' : IsName name') :
    join directory name = join directory' name' ↔ directory = directory' ∧ name = name' := by
  constructor
  · intro same
    have sides : directory.toList ++ '/' :: name.toList =
        directory'.toList ++ '/' :: name'.toList := by
      simpa [h.join_eq h', k.join_eq k'] using congrArg String.toList same
    obtain ⟨directories, -, names⟩ := (List.append_cons_inj_of_notMem h.plain h'.plain).1 sides
    exact ⟨String.toList_inj.1 directories, String.toList_inj.1 names⟩
  · rintro ⟨rfl, rfl⟩
    rfl

theorem resolve_join (h : IsName part) (dir : String) :
    resolve (join dir part) = resolve dir ++ [part] := by
  rw [Path.resolve_join h.isAbsolute_eq, parts_of_notMem h.plain h.given]
  exact h.enter_eq (resolve dir)

/-- A file below a root, named at once and not step by step. -/
theorem resolve_join_join (h : IsName directory) (h' : IsName name) (root : String) :
    resolve (join root (join directory name)) = resolve root ++ [directory, name] := by
  have relative : isAbsolute (join directory name) = false := by
    obtain ⟨c, cs, text⟩ :=
      List.exists_cons_of_ne_nil (mt String.toList_eq_nil_iff.1 h.given)
    rw [← Bool.not_eq_true, isAbsolute_iff, h.join_eq h']
    rintro ⟨rest, whole⟩
    rw [String.toList_append, String.toList_append, text, List.append_assoc, List.cons_append,
      List.cons.injEq] at whole
    exact h.plain (by simp [text, whole.1])
  rw [Path.resolve_join relative, h.join_eq h', parts_append_slash,
    parts_of_notMem h.plain h.given, parts_of_notMem h'.plain h'.given]
  simp [h.enter_eq, h'.enter_eq]

end IsName

/-! ### Below every directory -/

/-- A path that stays inside leads below each directory that it is joined to. -/
theorem isBelow_join {dir path : String} (absolute : isAbsolute dir = true)
    (relative : isAbsolute path = false) (inside : isInside path = true) :
    IsBelow dir (join dir path) := by
  obtain ⟨depth, known, deep⟩ := (Option.any_eq_true _ _).1 inside
  obtain ⟨stays, length⟩ := depth?_spec (resolve dir) known
  rw [← resolve_join relative] at stays
  refine ⟨isAbsolute_join absolute relative, ⟨_, stays.symm⟩, fun same => ?_⟩
  rw [stays, List.append_right_eq_self] at same
  rw [same, List.length_nil] at length
  rw [← length] at deep
  cases deep

/-- A name that is too long to be a part of a path. -/
def stranger (path : String) : String := String.ofList (List.replicate (path.length + 1) 'x')

theorem stranger_notMem (path : String) : stranger path ∉ parts path := by
  intro member
  have bound := length_le_of_mem_parts member
  simp only [stranger, String.length_ofList, List.length_replicate] at bound
  omega

/-- The directory of a stranger below the root. -/
theorem resolve_stranger (path : String) : resolve ("/" ++ stranger path) = [stranger path] := by
  have letter : (stranger path).toList.head? = some 'x' := by
    simp [stranger, List.replicate_succ]
  have plain : '/' ∉ (stranger path).toList := by simp [stranger, List.mem_replicate]
  have given : stranger path ≠ "" := by
    intro none_left
    rw [none_left] at letter
    cases letter
  have stays : stranger path ≠ "." := by
    intro point
    rw [point] at letter
    cases letter
  have up : stranger path ≠ ".." := by
    intro points
    rw [points] at letter
    cases letter
  have only : parts ("/" ++ stranger path) = [stranger path] := by
    rw [← String.empty_append (s := "/"), parts_append_slash, parts_of_notMem plain given]
    rfl
  rw [resolve, only, List.foldl_cons, enter, if_neg stays, if_neg up]
  rfl

theorem isAbsolute_slash (name : String) : isAbsolute ("/" ++ name) = true :=
  isAbsolute_iff.2 ⟨name.toList, by simp⟩

/-- A path that does not stay inside leaves the directory of a stranger. -/
theorem not_isBelow_stranger {path : String} (relative : isAbsolute path = false)
    (outside : isInside path = false) :
    ¬ IsBelow ("/" ++ stranger path) (join ("/" ++ stranger path) path) := by
  rintro ⟨-, below, apart⟩
  rw [resolve_join relative, resolve_stranger] at below apart
  cases known : depth? path with
  | none =>
      have gone : stranger path ∉ (parts path).foldl enter ([stranger path] ++ []) :=
        notMem_of_depth_lost (stranger_notMem path) List.not_mem_nil known
      exact gone (below.subset (List.mem_singleton_self _))
  | some depth =>
      obtain ⟨stays, length⟩ := depth?_spec [stranger path] known
      rw [isInside, known, Option.any_some, decide_eq_false_iff_not, Nat.not_lt] at outside
      rw [Nat.le_zero.1 outside] at length
      rw [stays, List.eq_nil_of_length_eq_zero length] at apart
      exact apart (List.append_nil _)

end Podkeeper.Path
