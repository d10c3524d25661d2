import Mathlib.Computability.RegularExpressions
import Podkeeper.Proofs.Pods.Confinement

/-!
The grammar of names.

RFC 1123 spells labels and subdomains with regular expressions, `Name.word` and `Name.words` here. A
check of a name looks at its length, its characters, its ends and the parts between its points one
after the other, and all of that amounts to the grammar: `mem_word` for a word, `mem_words` for
words with points between them. So a name is admitted exactly if it is spelled so and is not too
long, and a label and a subdomain with a hyphen between them are one plain part of a path
(`Name.admitted_exactly`).
-/

namespace Podkeeper.Name

open RegularExpression

/-! ### Grammar -/

/-- One of a few characters. -/
def oneOf (cs : List Char) : RegularExpression Char := cs.foldr (fun c r => .char c + r) 0

/-- `a` to `z` and `0` to `9`. -/
def alphanumerics : List Char := "abcdefghijklmnopqrstuvwxyz0123456789".toList

/-- `[a-z0-9]([a-z0-9-]*[a-z0-9])?` -/
def word : RegularExpression Char :=
  oneOf alphanumerics * (1 + (oneOf ('-' :: alphanumerics)).star * oneOf alphanumerics)

/-- One word or several, with points between them. -/
def words : RegularExpression Char := word * (.char '.' * word).star

/-- A label of RFC 1123: a word of at most 63 bytes. -/
structure IsLabel (name : String) : Prop where
  filled : 1 ≤ Utf8.size name
  short : Utf8.size name ≤ 63
  spelled : name.toList ∈ word.matches'

/-- A subdomain of RFC 1123: words with points between them, of at most 253 bytes in all. -/
structure IsSubdomain (name : String) : Prop where
  filled : 1 ≤ Utf8.size name
  short : Utf8.size name ≤ 253
  spelled : name.toList ∈ words.matches'

/-! ### Characters -/

theorem mem_oneOf {cs w : List Char} : w ∈ (oneOf cs).matches' ↔ ∃ c ∈ cs, w = [c] := by
  induction cs with
  | nil =>
      rw [oneOf, List.foldr_nil, matches'_zero]
      simp [Language.notMem_zero]
  | cons c cs ih =>
      have first : w ∈ ({[c]} : Language Char) ↔ w = [c] := Iff.rfl
      rw [oneOf, List.foldr_cons, matches'_add, matches'_char, Language.mem_add, first]
      rw [oneOf] at ih
      simp [ih]

theorem mem_star_oneOf {cs w : List Char} : w ∈ (oneOf cs).star.matches' ↔ ∀ c ∈ w, c ∈ cs := by
  rw [matches'_star, Language.mem_kstar]
  constructor
  · rintro ⟨pieces, rfl, each⟩ c member
    obtain ⟨piece, among, inside⟩ := List.mem_flatten.1 member
    obtain ⟨d, known, rfl⟩ := mem_oneOf.1 (each piece among)
    rw [List.mem_singleton.1 inside]
    exact known
  · intro known
    refine ⟨w.map fun c => [c], by rw [← List.flatMap_def, List.flatMap_singleton'], ?_⟩
    rintro piece among
    obtain ⟨c, member, rfl⟩ := List.mem_map.1 among
    exact mem_oneOf.2 ⟨c, known c member, rfl⟩

/-- A list of characters is a class of ASCII characters, if it is that as far as ASCII goes. -/
theorem mem_iff_of_ascii {listed : List Char} {p : Char → Bool} (sound : listed.all p = true)
    (complete : ∀ n < 128, p (.ofNat n) = true → Char.ofNat n ∈ listed)
    (ascii : ∀ c, p c = true → c.toNat < 128) {c : Char} : c ∈ listed ↔ p c = true := by
  constructor
  · exact List.all_eq_true.1 sound c
  · intro holds
    have member := complete c.toNat (ascii c holds)
    rw [Char.ofNat_toNat] at member
    exact member holds

theorem ascii_of_isAlphanum {c : Char} (plain : c.isAlphanum = true) : c.toNat < 128 := by
  have below {last : Char} (high : c.val ≤ last.val) (ascii : last.toNat < 128) : c.toNat < 128 :=
    Nat.lt_of_le_of_lt (UInt32.le_iff_toNat_le.1 high) ascii
  have upper (h : c.isUpper = true) : c.val ≤ 'Z'.val := (of_decide_eq_true h).2
  have lower (h : c.isLower = true) : c.val ≤ 'z'.val :=
    of_decide_eq_true ((Bool.and_eq_true_iff ..).1 h).2
  have digit (h : c.isDigit = true) : c.val ≤ '9'.val :=
    of_decide_eq_true ((Bool.and_eq_true_iff ..).1 h).2
  rcases (Bool.or_eq_true_iff ..).1 plain with letter | isDigit
  · rcases (Bool.or_eq_true_iff ..).1 letter with isUpper | isLower
    · exact below (upper isUpper) (by decide)
    · exact below (lower isLower) (by decide)
  · exact below (digit isDigit) (by decide)

theorem mem_alphanumerics {c : Char} : c ∈ alphanumerics ↔ isLabelChar c = true ∧ c ≠ '-' := by
  rw [← bne_iff_ne, ← Bool.and_eq_true]
  refine mem_iff_of_ascii (p := fun c => isLabelChar c && c != '-') (by decide +kernel)
    (by decide +kernel) fun c plain => ascii_of_isAlphanum ?_
  rw [Bool.and_eq_true, bne_iff_ne] at plain
  obtain ⟨label, other⟩ := plain
  simp only [isLabelChar, Bool.or_eq_true, beq_iff_eq, other, or_false] at label
  refine (Bool.or_eq_true_iff ..).2 (label.imp_left fun lower => ?_)
  exact (Bool.or_eq_true_iff ..).2 (.inr lower)

theorem mem_inner {c : Char} : c ∈ '-' :: alphanumerics ↔ isLabelChar c = true := by
  rw [List.mem_cons, mem_alphanumerics]
  constructor
  · rintro (rfl | ⟨label, -⟩)
    · decide
    · exact label
  · intro label
    exact or_iff_not_imp_left.2 fun other => ⟨label, other⟩

/-! ### Words -/

/-- A word is one character, or has a first, a last and any number between them. -/
theorem mem_word {w : List Char} : w ∈ word.matches' ↔ isWord w = true := by
  rw [word, matches'_mul, matches'_add, matches'_mul, matches'_epsilon, Language.mem_mul]
  constructor
  · rintro ⟨_, first, rest, others, rfl⟩
    obtain ⟨a, plain, rfl⟩ := mem_oneOf.1 first
    obtain ⟨label, other⟩ := mem_alphanumerics.1 plain
    rcases (Language.mem_add _ _ _).1 others with alone | several
    · rw [(Language.mem_one _).1 alone]
      simp [isWord, hasPlainEnds, label, other]
    · obtain ⟨middle, inner, _, last, rfl⟩ := Language.mem_mul.1 several
      obtain ⟨b, plain', rfl⟩ := mem_oneOf.1 last
      obtain ⟨label', other'⟩ := mem_alphanumerics.1 plain'
      have between : ∀ c ∈ middle, isLabelChar c = true := fun c member =>
        mem_inner.1 (mem_star_oneOf.1 inner c member)
      have ended : (a :: (middle ++ [b])).getLast? = some b := by
        rw [← List.cons_append, List.getLast?_concat]
      simpa [isWord, hasPlainEnds, ended, label, other, label', other'] using between
  · intro isWord
    simp only [Name.isWord, hasPlainEnds, Bool.and_eq_true, bne_iff_ne, List.all_eq_true] at isWord
    obtain ⟨⟨filled, first, last⟩, labels⟩ := isWord
    cases w with
    | nil => cases filled
    | cons a rest =>
        have plain : a ∈ alphanumerics := mem_alphanumerics.2
          ⟨labels a List.mem_cons_self, fun hyphen => first (congrArg some hyphen)⟩
        refine ⟨[a], mem_oneOf.2 ⟨a, plain, rfl⟩, rest, (Language.mem_add _ _ _).2 ?_, rfl⟩
        rcases List.eq_nil_or_concat' rest with rfl | ⟨middle, b, rfl⟩
        · exact .inl rfl
        · have plain' : b ∈ alphanumerics := by
            refine mem_alphanumerics.2 ⟨labels b (by simp), fun hyphen => last ?_⟩
            rw [hyphen, ← List.cons_append, List.getLast?_concat]
          refine .inr (Language.append_mem_mul (mem_star_oneOf.2 fun c member => ?_)
            (mem_oneOf.2 ⟨b, plain', rfl⟩))
          exact mem_inner.2 (labels c (by simp [member]))

theorem point_notMem_of_isWord {w : List Char} (isWord : isWord w = true) : '.' ∉ w := by
  intro member
  simp only [Name.isWord, Bool.and_eq_true, List.all_eq_true] at isWord
  exact absurd (isWord.2 '.' member) (by decide)

/-! ### Parts -/

/-- Splitting at a mark is that of lists. -/
theorem splitAt_eq_splitOn (mark : Char) (cs : List Char) : splitAt mark cs = cs.splitOn mark := by
  induction cs with
  | nil => rfl
  | cons c cs ih =>
      have step : (c :: cs).splitOn mark =
          if (c == mark) = true then [] :: cs.splitOn mark
          else (cs.splitOn mark).modifyHead (c :: ·) := List.splitOnP_cons_eq_if_modifyHead c cs
      rw [splitAt, ih, step]
      by_cases cut : c = mark
      · simp [cut]
      · cases split : cs.splitOn mark with
        | nil => exact absurd split (List.splitOn_ne_nil _ _)
        | cons part parts => simp [cut]

/-- Parts with a mark between them are the first one, and each other one behind a mark. -/
theorem intercalate_cons_eq (mark : Char) (first : List Char) (others : List (List Char)) :
    [mark].intercalate (first :: others) = first ++ (others.map (mark :: ·)).flatten := by
  induction others generalizing first with
  | nil => simp
  | cons part others ih => simp [List.intercalate_cons_cons, ih]

/-- A word behind a point. -/
theorem mem_point_word {w : List Char} :
    w ∈ (.char '.' * word : RegularExpression Char).matches' ↔
      ∃ v, isWord v = true ∧ w = '.' :: v := by
  rw [matches'_mul, matches'_char, Language.mem_mul]
  constructor
  · rintro ⟨_, rfl, v, spelled, rfl⟩
    exact ⟨v, mem_word.1 spelled, rfl⟩
  · rintro ⟨v, isWord, rfl⟩
    exact ⟨['.'], rfl, v, mem_word.2 isWord, rfl⟩

/-- Any number of words behind points. -/
theorem mem_star_point_word {w : List Char} :
    w ∈ (.char '.' * word : RegularExpression Char).star.matches' ↔
      ∃ parts : List (List Char), (∀ part ∈ parts, isWord part = true) ∧
        w = (parts.map ('.' :: ·)).flatten := by
  rw [matches'_star, Language.mem_kstar]
  constructor
  · rintro ⟨pieces, rfl, each⟩
    induction pieces with
    | nil => exact ⟨[], by simp, rfl⟩
    | cons piece pieces ih =>
        rw [List.forall_mem_cons] at each
        obtain ⟨part, isWord, rfl⟩ := mem_point_word.1 each.1
        obtain ⟨parts, all, same⟩ := ih each.2
        exact ⟨part :: parts, List.forall_mem_cons.2 ⟨isWord, all⟩, by simp [same]⟩
  · rintro ⟨parts, all, rfl⟩
    refine ⟨_, rfl, fun piece among => ?_⟩
    obtain ⟨part, member, rfl⟩ := List.mem_map.1 among
    exact mem_point_word.2 ⟨part, all part member, rfl⟩

/-- What matches has only words between its points. -/
theorem mem_words {w : List Char} :
    w ∈ words.matches' ↔ ∀ part ∈ w.splitOn '.', isWord part = true := by
  rw [words, matches'_mul, Language.mem_mul]
  constructor
  · rintro ⟨first, spelled, _, others, rfl⟩
    obtain ⟨parts, all, rfl⟩ := mem_star_point_word.1 others
    have all : ∀ part ∈ first :: parts, isWord part = true :=
      List.forall_mem_cons.2 ⟨mem_word.1 spelled, all⟩
    have plain : ∀ part ∈ first :: parts, '.' ∉ part := fun part among =>
      point_notMem_of_isWord (all part among)
    rw [← intercalate_cons_eq, List.splitOn_intercalate '.' plain (List.cons_ne_nil _ _)]
    exact all
  · intro all
    cases split : w.splitOn '.' with
    | nil => exact absurd split (List.splitOn_ne_nil _ _)
    | cons first parts =>
        rw [split, List.forall_mem_cons] at all
        refine ⟨first, mem_word.2 all.1, _, mem_star_point_word.2 ⟨parts, all.2, rfl⟩, ?_⟩
        rw [← intercalate_cons_eq, ← split, List.intercalate_splitOn]

/-! ### Checks -/

theorem one_le_size {name : String} : 1 ≤ Utf8.size name ↔ name ≠ "" := by
  rw [Utf8.size, Nat.one_le_iff_ne_zero, ne_eq, String.utf8ByteSize_eq_zero_iff]

theorem checkLabel_eq_ok_iff {kind name : String} :
    checkLabel kind name = .ok () ↔ IsLabel name := by
  rw [checkLabel_eq_ok]
  constructor
  · rintro ⟨filled, short, labels, ends⟩
    refine ⟨one_le_size.2 filled, short, mem_word.2 ?_⟩
    have given : name.toList ≠ [] := fun none => filled (String.toList_eq_nil_iff.1 none)
    simp [isWord, given, labels, ends]
  · rintro ⟨filled, short, spelled⟩
    have isWord := mem_word.1 spelled
    simp only [Name.isWord, Bool.and_eq_true] at isWord
    exact ⟨one_le_size.1 filled, short, isWord.2, isWord.1.2⟩

theorem checkSubdomain_eq_ok_iff {kind name : String} :
    checkSubdomain kind name = .ok () ↔ IsSubdomain name := by
  rw [checkSubdomain_eq_ok, splitAt_eq_splitOn]
  constructor
  · rintro ⟨filled, short, parts⟩
    exact ⟨one_le_size.2 filled, short, mem_words.2 parts⟩
  · rintro ⟨filled, short, spelled⟩
    exact ⟨one_le_size.1 filled, short, mem_words.1 spelled⟩

/-! ### Parts of paths -/

/-- A label and a subdomain with a hyphen between them are one part of a path, and a plain one. -/
theorem parts_directoryName_of_grammar {label subdomain : String} (first : IsLabel label)
    (second : IsSubdomain subdomain) :
    Path.isPlainName (directoryName label subdomain) = true ∧
      Path.parts (directoryName label subdomain) = [directoryName label subdomain] := by
  have checked : checkSubdomain "configMap" subdomain = .ok () :=
    checkSubdomain_eq_ok_iff.2 second
  have plain : Path.isPlainName (directoryName label subdomain) = true :=
    isPlainName_directoryName (checkLabel_eq_ok_iff.2 first) checked
  have name := Path.isName_of_isPlainName plain
  exact ⟨plain, Path.parts_of_notMem name.plain name.given⟩

/-- The checks of names admit exactly the labels and the subdomains of RFC 1123, whatever the names
are called. Hence a label and a subdomain with a hyphen between them are a plain name that is one
part of a path, other than one point and two. -/
theorem admitted_exactly :
    (∀ kind name, checkLabel kind name = .ok () ↔ IsLabel name) ∧
      (∀ kind name, checkSubdomain kind name = .ok () ↔ IsSubdomain name) ∧
      ∀ label subdomain, IsLabel label → IsSubdomain subdomain →
        let name := directoryName label subdomain
        Path.parts name = [name] ∧ Path.isPlainName name = true ∧ name ≠ "." ∧ name ≠ ".." := by
  refine ⟨fun _ _ => checkLabel_eq_ok_iff, fun _ _ => checkSubdomain_eq_ok_iff, ?_⟩
  intro label subdomain first second name
  obtain ⟨plain, parts⟩ := parts_directoryName_of_grammar first second
  have isName : Path.IsName name := Path.isName_of_isPlainName plain
  exact ⟨parts, plain, isName.stays, isName.up⟩

/-- A namespace of one character, and the name of a config map with points. -/
theorem short_namespace_admitted :
    IsLabel "x" ∧ IsSubdomain "app-1.config" ∧
      Path.parts (directoryName "x" "app-1.config") = ["x-app-1.config"] := by
  have label : IsLabel "x" := (admitted_exactly.1 "namespace" "x").1 (by decide +kernel)
  have subdomain : IsSubdomain "app-1.config" :=
    (admitted_exactly.2.1 "configMap" "app-1.config").1 (by decide +kernel)
  exact ⟨label, subdomain, (admitted_exactly.2.2 "x" "app-1.config" label subdomain).1⟩

end Podkeeper.Name
