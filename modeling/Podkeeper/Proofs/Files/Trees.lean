import Mathlib.Data.List.Infix
import Podkeeper.Pod.VolumeFiles
import Podkeeper.Proofs.Files.Containment
import Podkeeper.Proofs.Outcomes

/-!
What changes in a tree.

Where a path leads in a tree is a matter of its parts alone, once it can be looked up
(`Tree.key_of_walk`). To make directories adds some on the way to the last one and changes nothing
else (`Tree.Grows`); to write a file or to set a mode puts one entry. What is at a place stays
there, and stays a directory or a file (`Tree.Keeps`).
-/

namespace Podkeeper

/-! ### Entries -/

namespace FileNode

/-- The bytes of an entry that is a file. -/
def bytes? : FileNode → Option Bytes
  | .directory => none
  | .file _ bytes => some bytes

def isDirectory : FileNode → Bool
  | .directory => true
  | .file _ _ => false

/-- A file with another mode; a directory has none. -/
def withMode (mode : UInt32) : FileNode → FileNode
  | .directory => .directory
  | .file _ bytes => .file mode bytes

/-- The mode that a file has after it was written: its own if it was there, and else the usual. -/
def keptMode : Option FileNode → UInt32
  | some (.file mode _) => mode
  | _ => newMode

theorem bytes?_withMode (mode : UInt32) (n : FileNode) : (n.withMode mode).bytes? = n.bytes? := by
  cases n <;> rfl

end FileNode

/-! ### Places -/

namespace Tree

/-- Where a path leads, if it can be looked up. -/
def place (path : String) : String := "/".intercalate (Path.resolve path)

/-- The bytes of the file at a place. -/
def bytesAt? (t : Tree) (place : String) : Option Bytes :=
  (t.entries.get? place).bind FileNode.bytes?

/-- The bytes of the file that a path leads to. -/
def bytes? (t : Tree) (path : String) : Option Bytes := t.bytesAt? (Tree.place path)

variable {t t' u : Tree} {stack : List String} {path : String}

theorem reverse_of_down {part : String} {stack' : List String}
    (went : down stack part = .ok stack') :
    stack'.reverse = Path.enter stack.reverse part := by
  rw [down] at went
  rw [Path.enter]
  split at went
  · rename_i stays
    cases went
    rw [if_pos stays]
  · rename_i moves
    rw [if_neg moves]
    split at went
    · rename_i up
      cases went
      rw [if_pos up, List.dropLast_reverse]
    · rename_i deeper
      rw [if_neg deeper]
      split at went
      · cases went
      · cases went
        rw [List.reverse_cons]

theorem reverse_of_walk {parts stack' : List String} (walked : t.walk stack parts = .ok stack') :
    stack'.reverse = parts.foldl Path.enter stack.reverse := by
  induction parts generalizing stack with
  | nil =>
      cases walked
      rfl
  | cons part parts ih =>
      obtain ⟨-, -, walked⟩ := bind_eq_ok.1 walked
      obtain ⟨next, went, walked⟩ := bind_eq_ok.1 walked
      rw [ih walked, reverse_of_down went, List.foldl_cons]

/-- A path that can be looked up leads to its place. -/
theorem key_of_walk (walked : t.walk [] (Path.parts path) = .ok stack) :
    key stack = Tree.place path := by
  rw [key, reverse_of_walk walked]
  rfl

/-! ### Files below a root -/

section

variable {root directory name directory' name' : String}

/-- Files of different names are at different places. -/
theorem place_inj (h : Path.IsName directory) (h' : Path.IsName name) (k : Path.IsName directory')
    (k' : Path.IsName name') :
    place (Path.join root (Path.join directory name)) =
        place (Path.join root (Path.join directory' name')) ↔
      Path.join directory name = Path.join directory' name' := by
  rw [place, place, h.resolve_join_join h', k.resolve_join_join k', h.join_eq h', k.join_eq k']
  have pair (directory name : String) :
      "/".intercalate [directory, name] = directory ++ "/" ++ name := by
    rw [String.intercalate_cons_cons, String.intercalate_singleton, String.append_assoc]
  cases resolved : Path.resolve root with
  | nil => rw [List.nil_append, List.nil_append, pair, pair]
  | cons top below =>
      rw [String.intercalate_append_of_ne_nil (List.cons_ne_nil _ _) (List.cons_ne_nil _ _),
        String.intercalate_append_of_ne_nil (List.cons_ne_nil _ _) (List.cons_ne_nil _ _), pair,
        pair, String.append_right_inj]

end

/-! ### What stays -/

variable {place : String}

/-- What is at a place stays there and stays a directory or a file. -/
def Keeps (t t' : Tree) : Prop :=
  ∀ place n, t.entries.get? place = some n →
    ∃ n', t'.entries.get? place = some n' ∧ n'.isDirectory = n.isDirectory

theorem Keeps.refl (t : Tree) : t.Keeps t := fun _ n there => ⟨n, there, rfl⟩

theorem Keeps.trans (first : t.Keeps t') (second : t'.Keeps u) : t.Keeps u := by
  intro place n there
  obtain ⟨n', there', kind⟩ := first place n there
  obtain ⟨n'', there'', kind'⟩ := second place n' there'
  exact ⟨n'', there'', kind'.trans kind⟩

theorem node?_eq (t : Tree) (below : stack ≠ []) : t.node? stack = t.entries.get? (key stack) :=
  if_neg (mt List.isEmpty_iff.1 below)

theorem Keeps.node? (keeps : t.Keeps t') {n : FileNode} (there : t.node? stack = some n) :
    ∃ n', t'.node? stack = some n' ∧ n'.isDirectory = n.isDirectory := by
  by_cases top : stack = []
  · subst top
    cases there
    exact ⟨.directory, rfl, rfl⟩
  · rw [node?_eq _ top] at there ⊢
    exact keeps _ n there

/-! ### Walking -/

theorem requireDirectory_eq_ok :
    t.requireDirectory stack = .ok () ↔ t.node? stack = some .directory := by
  rw [requireDirectory]
  cases t.node? stack with
  | none => simp
  | some n => cases n <;> simp

theorem walk_cons {part : String} {parts : List String} {stack' : List String} :
    t.walk stack (part :: parts) = .ok stack' ↔
      t.node? stack = some .directory ∧ ∃ next, down stack part = .ok next ∧
        t.walk next parts = .ok stack' := by
  rw [walk, bind_eq_ok]
  simp only [bind_eq_ok, ← requireDirectory_eq_ok]
  exact ⟨fun ⟨_, first, rest⟩ => ⟨first, rest⟩, fun ⟨first, rest⟩ => ⟨_, first, rest⟩⟩

/-- Where one comes through directories, one comes through them later. -/
theorem Keeps.walk (keeps : t.Keeps t') {parts stack' : List String}
    (walked : t.walk stack parts = .ok stack') : t'.walk stack parts = .ok stack' := by
  induction parts generalizing stack with
  | nil => exact walked
  | cons part parts ih =>
      obtain ⟨here, next, went, walked⟩ := walk_cons.1 walked
      obtain ⟨n, there, kind⟩ := keeps.node? here
      cases n with
      | file => cases kind
      | directory => exact walk_cons.2 ⟨there, next, went, ih walked⟩

theorem isDirectory_iff {parts : List String} :
    t.isDirectory parts = true ↔
      ∃ stack, t.walk [] parts = .ok stack ∧ t.node? stack = some .directory := by
  rw [isDirectory]
  cases t.walk [] parts <;> simp

theorem Keeps.isDirectory (keeps : t.Keeps t') {parts : List String}
    (there : t.isDirectory parts = true) : t'.isDirectory parts = true := by
  obtain ⟨stack, walked, here⟩ := isDirectory_iff.1 there
  obtain ⟨n, there', kind⟩ := keeps.node? here
  cases n with
  | file => cases kind
  | directory => exact isDirectory_iff.2 ⟨stack, keeps.walk walked, there'⟩

/-! ### The way to a directory -/

/-- The places that parts lead through, the last one of all parts; the top is none of them. -/
def way (parts : List String) : List String :=
  ((parts.inits.map (·.foldl Path.enter [])).filter (· ≠ [])).map "/".intercalate

theorem mem_way {parts : List String} :
    place ∈ way parts ↔
      ∃ front, front <+: parts ∧ front.foldl Path.enter [] ≠ [] ∧
        place = "/".intercalate (front.foldl Path.enter []) := by
  simp only [way, List.mem_map, List.mem_filter, List.mem_inits, decide_eq_true_eq]
  constructor
  · rintro ⟨_, ⟨⟨front, before, rfl⟩, below⟩, rfl⟩
    exact ⟨front, before, below, rfl⟩
  · rintro ⟨front, before, below, rfl⟩
    exact ⟨_, ⟨⟨front, before, rfl⟩, below⟩, rfl⟩

theorem way_subset {front parts : List String} (before : front <+: parts)
    (on : place ∈ way front) : place ∈ way parts := by
  obtain ⟨front', before', below, rfl⟩ := mem_way.1 on
  exact mem_way.2 ⟨front', before'.trans before, below, rfl⟩

/-- On the way to a directory there are directories. -/
theorem directory_of_front {start front rest : List String}
    (walked : t.walk start (front ++ rest) = .ok stack) (here : t.node? stack = some .directory) :
    ∃ stack', t.walk start front = .ok stack' ∧ t.node? stack' = some .directory := by
  induction front generalizing start with
  | nil =>
      cases rest with
      | nil =>
          cases walked
          exact ⟨_, rfl, here⟩
      | cons part rest => exact ⟨start, rfl, (walk_cons.1 walked).1⟩
  | cons part front ih =>
      obtain ⟨first, next, went, walked⟩ := walk_cons.1 walked
      obtain ⟨stack', walked', there⟩ := ih walked
      exact ⟨stack', walk_cons.2 ⟨first, next, went, walked'⟩, there⟩

theorem entry_of_way {parts : List String} (there : t.isDirectory parts = true)
    (on : place ∈ way parts) : t.entries.get? place = some .directory := by
  obtain ⟨front, ⟨rest, rfl⟩, below, rfl⟩ := mem_way.1 on
  obtain ⟨stack, walked, here⟩ := isDirectory_iff.1 there
  obtain ⟨stack', walked', here'⟩ := directory_of_front walked here
  have names : stack'.reverse = front.foldl Path.enter [] := reverse_of_walk walked'
  rw [← names] at below ⊢
  rw [node?_eq t (mt List.reverse_eq_nil_iff.2 below)] at here'
  exact here'

/-! ### Making directories -/

theorem makeDirectory_eq_ok {parts : List String} :
    t.makeDirectory parts = .ok t' ↔
      ∃ stack, t.walk [] parts = .ok stack ∧ isDots parts = false ∧ t.node? stack = none ∧
        t' = t.put stack .directory := by
  rw [makeDirectory, bind_eq_ok]
  refine exists_congr fun stack => and_congr_right fun _ => ?_
  split
  · rename_i taken
    simp only [reduceCtorEq, false_iff]
    rintro ⟨plain, free, -⟩
    simp [plain, free] at taken
  · rename_i free
    rw [Bool.or_eq_true, not_or, Bool.not_eq_true, Option.not_isSome_iff_eq_none] at free
    simp [free, eq_comm]

/-- Nothing is changed but that there are directories at places that were free. -/
structure Grows (places : List String) (t t' : Tree) : Prop where
  modesBind : t'.modesBind = t.modesBind
  entry : ∀ place, t'.entries.get? place = t.entries.get? place ∨
    place ∈ places ∧ t.entries.get? place = none ∧ t'.entries.get? place = some .directory

namespace Grows

variable {places places' : List String}

theorem refl (places : List String) (t : Tree) : Grows places t t := ⟨rfl, fun _ => .inl rfl⟩

theorem trans (first : Grows places t t') (second : Grows places t' u) : Grows places t u := by
  refine ⟨second.modesBind.trans first.modesBind, fun place => ?_⟩
  rcases first.entry place with same | ⟨on, free, made⟩
  · rw [← same]
    exact second.entry place
  · rcases second.entry place with same' | ⟨-, free', -⟩
    · exact .inr ⟨on, free, same'.trans made⟩
    · exact absurd (made.symm.trans free') (by simp)

theorem mono (fewer : ∀ place ∈ places, place ∈ places') (grows : Grows places t t') :
    Grows places' t t' :=
  ⟨grows.modesBind, fun place =>
    (grows.entry place).imp_right fun ⟨on, rest⟩ => ⟨fewer place on, rest⟩⟩

/-- New directories change no bytes. -/
theorem bytesAt?_eq (grows : Grows places t t') (place : String) :
    t'.bytesAt? place = t.bytesAt? place := by
  rw [bytesAt?, bytesAt?]
  rcases grows.entry place with same | ⟨-, free, made⟩
  · rw [same]
  · rw [free, made]
    rfl

theorem keeps (grows : Grows places t t') : t.Keeps t' := by
  intro place n there
  rcases grows.entry place with same | ⟨-, free, -⟩
  · exact ⟨n, same.trans there, rfl⟩
  · exact absurd (free.symm.trans there) (by simp)

end Grows

theorem key_of_parts {parts : List String} (walked : t.walk [] parts = .ok stack) :
    key stack = "/".intercalate (parts.foldl Path.enter []) := by
  rw [key, reverse_of_walk walked]
  rfl

theorem ne_nil_of_free (free : t.node? stack = none) : stack ≠ [] := by
  rintro rfl
  cases free

theorem grows_makeDirectory {parts : List String} (made : t.makeDirectory parts = .ok t') :
    Grows (way parts) t t' := by
  obtain ⟨stack, walked, -, free, rfl⟩ := makeDirectory_eq_ok.1 made
  have below := ne_nil_of_free free
  have names : stack.reverse = parts.foldl Path.enter [] := reverse_of_walk walked
  have on : key stack ∈ way parts :=
    mem_way.2 ⟨parts, List.prefix_rfl, names ▸ mt List.reverse_eq_nil_iff.1 below,
      key_of_parts walked⟩
  refine ⟨rfl, fun place => ?_⟩
  rw [put, KeyMap.get?_insert]
  split
  · rename_i same
    subst same
    exact .inr ⟨on, (node?_eq t below).symm.trans free, rfl⟩
  · exact .inl rfl

theorem isDirectory_of_makeDirectory {parts : List String} (made : t.makeDirectory parts = .ok t') :
    t'.isDirectory parts = true := by
  have keeps := (grows_makeDirectory made).keeps
  obtain ⟨stack, walked, -, free, rfl⟩ := makeDirectory_eq_ok.1 made
  refine isDirectory_iff.2 ⟨stack, keeps.walk walked, ?_⟩
  rw [node?_eq _ (ne_nil_of_free free), put, KeyMap.get?_insert, if_pos rfl]

/-- The last attempt at a directory: it is made, or there already. -/
def makeOrFind (t : Tree) (parts : List String) : Tree × Except FileError Unit :=
  match t.makeDirectory parts with
  | .ok t => (t, .ok ())
  | .error e => (t, if t.isDirectory parts then .ok () else .error e)

theorem makeDirectoriesWithin_succ (fuel : Nat) (t : Tree) (parts : List String) :
    makeDirectoriesWithin (fuel + 1) t parts =
      if parts.isEmpty then (t, .ok ())
      else if t.makeDirectory parts = .error .notFound then
        match makeDirectoriesWithin fuel t (Path.above parts) with
        | (t, .ok ()) => t.makeOrFind parts
        | (t, .error e) => (t, .error e)
      else t.makeOrFind parts := by
  rw [makeDirectoriesWithin]
  split
  · rfl
  · split
    · rename_i missing
      rw [if_pos missing]
      rfl
    · rename_i other
      rw [if_neg other]
      rfl

theorem grows_makeOrFind (t : Tree) (parts : List String) :
    Grows (way parts) t (t.makeOrFind parts).1 := by
  rw [makeOrFind]
  split
  · rename_i made
    exact grows_makeDirectory made
  · exact .refl _ t

theorem isDirectory_of_makeOrFind {parts : List String} (done : (t.makeOrFind parts).2 = .ok ()) :
    (t.makeOrFind parts).1.isDirectory parts = true := by
  rw [makeOrFind] at done ⊢
  split at done
  · rename_i made
    exact isDirectory_of_makeDirectory made
  · dsimp only at done ⊢
    split at done
    · assumption
    · cases done

theorem isPrefix_above (parts : List String) : Path.above parts <+: parts := by
  rw [Path.above, ← List.reverse_suffix, List.reverse_reverse]
  exact ((List.dropWhile_suffix _).trans (List.tail_suffix _)).trans (List.dropWhile_suffix _)

theorem grows_makeDirectoriesWithin (fuel : Nat) (t : Tree) (parts : List String) :
    Grows (way parts) t (makeDirectoriesWithin fuel t parts).1 := by
  induction fuel generalizing t parts with
  | zero => exact .refl _ t
  | succ fuel ih =>
      have above : Grows (way parts) t (makeDirectoriesWithin fuel t (Path.above parts)).1 :=
        (ih t (Path.above parts)).mono fun place => way_subset (isPrefix_above parts)
      rw [makeDirectoriesWithin_succ]
      split
      · exact .refl _ t
      · split
        · split
          · rename_i made
            rw [made] at above
            exact above.trans (grows_makeOrFind _ parts)
          · rename_i failed
            rw [failed] at above
            exact above
        · exact grows_makeOrFind t parts

theorem isDirectory_of_makeDirectoriesWithin {fuel : Nat} {parts : List String}
    (done : (makeDirectoriesWithin (fuel + 1) t parts).2 = .ok ()) :
    (makeDirectoriesWithin (fuel + 1) t parts).1.isDirectory parts = true := by
  rw [makeDirectoriesWithin_succ] at done ⊢
  split at done
  · rename_i top
    rw [if_pos top, List.isEmpty_iff.1 top]
    rfl
  · rename_i below
    rw [if_neg below]
    split at done
    · rename_i missing
      rw [if_pos missing]
      split at done
      · exact isDirectory_of_makeOrFind done
      · cases done
    · rename_i other
      rw [if_neg other]
      exact isDirectory_of_makeOrFind done

theorem grows_makeDirectories (t : Tree) (path : String) :
    Grows (way (Path.parts path)) t (t.makeDirectories path).1 := by
  rw [makeDirectories]
  split
  · exact .refl _ t
  · exact grows_makeDirectoriesWithin _ t _

/-- What has been made is a directory, and all on the way to it. -/
theorem makeDirectories_spec (made : (t.makeDirectories path).2 = .ok ()) :
    checkPath path = .ok () ∧ (t.makeDirectories path).1.isDirectory (Path.parts path) = true := by
  rw [makeDirectories] at made ⊢
  cases checked : checkPath path with
  | error e => simp [checked] at made
  | ok =>
      simp only [checked] at made ⊢
      exact ⟨trivial, isDirectory_of_makeDirectoriesWithin made⟩

/-- A directory that is there is found and not made again. -/
theorem makeDirectories_of_isDirectory (checked : checkPath path = .ok ())
    (there : t.isDirectory (Path.parts path) = true) : t.makeDirectories path = (t, .ok ()) := by
  obtain ⟨stack, walked, here⟩ := isDirectory_iff.1 there
  have exists' : t.makeDirectory (Path.parts path) = .error .exists := by
    rw [makeDirectory, walked]
    change (if _ then _ else _) = _
    rw [here, if_pos (by simp)]
  have found : t.makeOrFind (Path.parts path) = (t, .ok ()) := by
    rw [makeOrFind, exists']
    exact congrArg (t, ·) (if_pos there)
  rw [makeDirectories, checked]
  dsimp only
  rw [makeDirectoriesWithin_succ, found, exists']
  split
  · rfl
  · rfl

/-! ### Files -/

/-- A file that is written was no directory, and keeps its mode. -/
theorem write_eq_ok {bytes : Bytes} (written : t.write path bytes = .ok t') :
    checkPath path = .ok () ∧ ∃ stack, t.walk [] (Path.parts path) = .ok stack ∧
      t.node? stack ≠ some .directory ∧
      t' = t.put stack (.file (FileNode.keptMode (t.node? stack)) bytes) := by
  obtain ⟨_, checked, written⟩ := bind_eq_ok.1 written
  obtain ⟨stack, walked, written⟩ := bind_eq_ok.1 written
  refine ⟨checked, stack, walked, ?_⟩
  split at written
  · cases written
  · rename_i found
    obtain ⟨-, -, written⟩ := bind_eq_ok.1 written
    cases written
    rw [found]
    exact ⟨nofun, rfl⟩
  · rename_i absent
    cases written
    rw [absent]
    exact ⟨nofun, rfl⟩

/-- A mode is set on what is there. -/
theorem setMode_eq_ok {mode : UInt32} (set : t.setMode path mode = .ok t') :
    checkPath path = .ok () ∧ ∃ stack n, t.walk [] (Path.parts path) = .ok stack ∧
      t.node? stack = some n ∧
      (n = .directory ∧ t' = t ∨
        n.isDirectory = false ∧ t' = t.put stack (n.withMode mode)) := by
  obtain ⟨_, checked, set⟩ := bind_eq_ok.1 set
  obtain ⟨stack, walked, set⟩ := bind_eq_ok.1 set
  refine ⟨checked, stack, ?_⟩
  split at set
  · rename_i found
    cases set
    exact ⟨_, walked, found, .inl ⟨rfl, rfl⟩⟩
  · rename_i found
    cases set
    exact ⟨_, walked, found, .inr ⟨rfl, rfl⟩⟩
  · cases set

theorem keeps_put {n : FileNode}
    (same : ∀ n', t.node? stack = some n' → n'.isDirectory = n.isDirectory)
    (below : stack ≠ []) : t.Keeps (t.put stack n) := by
  intro place n' there
  rw [put, KeyMap.get?_insert]
  split
  · rename_i here
    rw [here, ← node?_eq t below] at there
    exact ⟨n, rfl, (same n' there).symm⟩
  · exact ⟨n', there, rfl⟩

end Tree

end Podkeeper
