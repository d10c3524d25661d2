import Podkeeper.Proofs.Decimal.Texts
import Podkeeper.Proofs.Text.Utf8

/-!
What is written as JSON is read again.
-/

namespace Podkeeper.Json

namespace Reader

/-- Takes characters one after the other. -/
def run (r : Reader) (cs : List Char) : Reader := cs.foldl stepChar r

theorem run_append (r : Reader) (cs ds : List Char) : r.run (cs ++ ds) = (r.run cs).run ds :=
  List.foldl_append

theorem run_cons (r : Reader) (c : Char) (cs : List Char) :
    r.run (c :: cs) = (r.stepChar c).run cs := rfl

/-- A value may begin here. -/
def BeginsValue (r : Reader) : Prop :=
  r.place = .value ∨ r.place = .listStart ∨ r.place = .afterListComma

/-- The first character of a value begins it wherever a value may begin. -/
theorem stepChar_of_beginsValue {r : Reader} {c : Char} (place : r.BeginsValue)
    (filled : isSpace c = false) (open' : c ≠ ']') : r.stepChar c = begin r.frames c := by
  obtain ⟨place', frames⟩ := r
  rcases place with rfl | rfl | rfl <;> simp [stepChar, stepBetween, filled, between, open']

/-- A character that may follow a value. -/
def Follows (c : Char) : Prop := c = ',' ∨ c = ']' ∨ c = '\x7d'

/-- What follows a value, or its end, makes no difference between the two readers. -/
structure Reaches (r r' : Reader) : Prop where
  finish : r.finish = r'.finish
  stepChar : ∀ c, Follows c → r.stepChar c = r'.stepChar c

theorem Reaches.refl (r : Reader) : Reaches r r := ⟨rfl, fun _ _ => rfl⟩

theorem stepBetween_complete (node : Node) (frames : List Frame) (c : Char) :
    (complete node frames).stepBetween c = (complete node frames).stepChar c := by
  cases frames with
  | nil => rfl
  | cons frame frames =>
      cases frame with
      | keyless => simp [complete, Reader.stepChar, stepBetween, between]
      | _ => rfl

theorem finishBetween_complete (node : Node) (frames : List Frame) :
    (complete node frames).finishBetween = (complete node frames).finish := by
  cases frames with
  | nil => rfl
  | cons frame frames => cases frame <;> rfl

/-! ### Numbers -/

theorem value?_digitChar : ∀ d < 10, Digit.value? d.digitChar = some d := by decide

section

variable {frames : List Frame} {n : Numeral}

/-- The number that begins with a digit; a zero stands alone. -/
def digitDraft (negative : Bool) (d : Nat) : Draft :=
  ⟨if d = 0 then .zero else .whole, negative, [d], [], false, []⟩

theorem begin_digitChar {d : Nat} (decimal : d < 10) :
    begin frames d.digitChar = ⟨.number (digitDraft false d), frames⟩ := by
  have outside : ∀ d < 10, d.digitChar ≠ '"' ∧ d.digitChar ≠ '[' ∧ d.digitChar ≠ '\x7b' ∧
      d.digitChar ≠ 'n' ∧ d.digitChar ≠ 't' ∧ d.digitChar ≠ 'f' ∧ d.digitChar ≠ '-' := by
    decide
  simp [begin, outside d decimal, Draft.start, value?_digitChar d decimal, digitDraft]

theorem stepChar_sign {d : Nat} (decimal : d < 10) :
    stepChar ⟨.number ⟨.sign, true, [], [], false, []⟩, frames⟩ d.digitChar =
      ⟨.number (digitDraft true d), frames⟩ := by
  simp only [stepChar, Draft.take, value?_digitChar d decimal, digitDraft]

/-- Digits that a number under way takes one by one are all taken. -/
theorem run_digits (frames : List Frame) (draft : List Nat → Draft)
    (takes : ∀ d < 10, ∀ before,
      (draft before).take d.digitChar = .more (draft (d :: before)))
    {ds : List Nat} (decimal : ∀ d ∈ ds, d < 10) (before : List Nat) :
    run ⟨.number (draft before), frames⟩ (ds.map Nat.digitChar) =
      ⟨.number (draft (ds.reverse ++ before)), frames⟩ := by
  induction ds generalizing before with
  | nil => rfl
  | cons d ds ih =>
      have first : stepChar ⟨.number (draft before), frames⟩ d.digitChar =
          ⟨.number (draft (d :: before)), frames⟩ := by
        simp only [stepChar, takes d (decimal d List.mem_cons_self)]
      rw [List.map_cons, run_cons, first,
        ih fun e member => decimal e (List.mem_cons_of_mem d member)]
      simp

/-- The number after the whole part of a numeral. -/
def wholeDraft (n : Numeral) : Draft :=
  ⟨if n.whole = [0] then .zero else .whole, n.negative, n.whole.reverse, [], false, []⟩

/-- The number after the fraction of a numeral. -/
def fractionDraft (n : Numeral) : Draft :=
  if n.fraction = [] then wholeDraft n
  else ⟨.fraction, n.negative, n.whole.reverse, n.fraction.reverse, false, []⟩

/-- The number at the end of a numeral. -/
def numeralDraft (n : Numeral) : Draft :=
  n.power.elim (fractionDraft n) fun p =>
    ⟨.power, n.negative, n.whole.reverse, n.fraction.reverse, p.negative, p.digits.reverse⟩

theorem run_whole {r : Reader} (place : r.BeginsValue) (sound : n.WellFormed) :
    r.run ((if n.negative then ['-'] else []) ++ n.whole.map Nat.digitChar) =
      ⟨.number (wholeDraft n), r.frames⟩ := by
  -- a sign, if there is one, and the first digit
  have first : ∀ d < 10, ∀ rest, r.run ((if n.negative then ['-'] else []) ++ d.digitChar :: rest) =
      run ⟨.number (digitDraft n.negative d), r.frames⟩ rest := by
    intro d decimal rest
    cases sign : n.negative with
    | true =>
        change run (stepChar (stepChar r '-') d.digitChar) rest = _
        rw [stepChar_of_beginsValue place (by decide) (by decide)]
        exact congrArg (run · rest) (stepChar_sign decimal)
    | false =>
        have outside : ∀ d < 10, isSpace d.digitChar = false ∧ d.digitChar ≠ ']' := by decide
        change run (stepChar r d.digitChar) rest = _
        rw [stepChar_of_beginsValue place (outside d decimal).1 (outside d decimal).2,
          begin_digitChar decimal]
  rcases sound.leading with zero | ⟨d, rest, shape, nonzero⟩
  · simp only [zero, List.map_cons, List.map_nil, first 0 (by decide), wholeDraft]
    rfl
  · have decimal := sound.whole
    rw [shape] at decimal
    rw [shape, List.map_cons, first d (decimal d List.mem_cons_self)]
    have several : d :: rest ≠ [0] := fun one => nonzero (List.cons.inj one).1
    have more := run_digits r.frames (fun whole => ⟨.whole, n.negative, whole, [], false, []⟩)
      (fun d decimal before => by simp only [Draft.take, value?_digitChar d decimal])
      (fun e member => decimal e (List.mem_cons_of_mem d member)) [d]
    simpa only [digitDraft, if_neg nonzero, wholeDraft, shape, if_neg several, List.reverse_cons]
      using more

theorem run_fraction (sound : n.WellFormed) :
    run ⟨.number (wholeDraft n), frames⟩
        (if n.fraction = [] then [] else '.' :: n.fraction.map Nat.digitChar) =
      ⟨.number (fractionDraft n), frames⟩ := by
  cases shape : n.fraction with
  | nil => simp [fractionDraft, shape, run]
  | cons d rest =>
      have decimal := sound.fraction
      rw [shape] at decimal
      have point : stepChar ⟨.number (wholeDraft n), frames⟩ '.' =
          ⟨.number { wholeDraft n with phase := .point }, frames⟩ := by
        have none : Digit.value? '.' = none := by decide
        by_cases zero : n.whole = [0] <;> simp [stepChar, wholeDraft, Draft.take, none, zero,
          Draft.extend]
      have first : stepChar ⟨.number { wholeDraft n with phase := .point }, frames⟩ d.digitChar =
          ⟨.number ⟨.fraction, n.negative, n.whole.reverse, [d], false, []⟩, frames⟩ := by
        simp [stepChar, wholeDraft, Draft.take, value?_digitChar d (decimal d List.mem_cons_self)]
      have more := run_digits frames
        (fun fraction => ⟨.fraction, n.negative, n.whole.reverse, fraction, false, []⟩)
        (fun d decimal before => by simp only [Draft.take, value?_digitChar d decimal])
        (fun e member => decimal e (List.mem_cons_of_mem d member)) [d]
      rw [if_neg nofun, List.map_cons, run_cons, point, run_cons, first, more]
      simp [fractionDraft, shape]

theorem run_power (sound : n.WellFormed) :
    run ⟨.number (fractionDraft n), frames⟩ (n.power.elim [] Numeral.powerChars) =
      ⟨.number (numeralDraft n), frames⟩ := by
  cases shape : n.power with
  | none => simp [numeralDraft, shape, run]
  | some p =>
      obtain ⟨filled, decimal⟩ := sound.power p shape
      obtain ⟨d, rest, digits⟩ := List.exists_cons_of_ne_nil filled
      rw [digits] at decimal
      have mark : stepChar ⟨.number (fractionDraft n), frames⟩ 'e' =
          ⟨.number { fractionDraft n with phase := .mark }, frames⟩ := by
        have none : Digit.value? 'e' = none := by decide
        by_cases whole : n.fraction = []
        · by_cases zero : n.whole = [0] <;> simp [stepChar, fractionDraft, whole, wholeDraft,
            Draft.take, none, zero, Draft.extend]
        · simp [stepChar, fractionDraft, whole, Draft.take, none, Draft.extend]
      have sign : stepChar ⟨.number { fractionDraft n with phase := .mark }, frames⟩
            (if p.negative then '-' else '+') =
          ⟨.number ⟨.markSign, n.negative, n.whole.reverse, n.fraction.reverse, p.negative, []⟩,
            frames⟩ := by
        have none : Digit.value? '-' = none ∧ Digit.value? '+' = none := by decide
        by_cases whole : n.fraction = [] <;> cases p.negative <;>
          simp [stepChar, fractionDraft, whole, wholeDraft, Draft.take, none]
      have first : stepChar ⟨.number
            ⟨.markSign, n.negative, n.whole.reverse, n.fraction.reverse, p.negative, []⟩, frames⟩
            d.digitChar =
          ⟨.number ⟨.power, n.negative, n.whole.reverse, n.fraction.reverse, p.negative, [d]⟩,
            frames⟩ := by
        simp [stepChar, Draft.take, value?_digitChar d (decimal d List.mem_cons_self)]
      have more := run_digits frames
        (fun power => ⟨.power, n.negative, n.whole.reverse, n.fraction.reverse, p.negative, power⟩)
        (fun d decimal before => by simp only [Draft.take, value?_digitChar d decimal])
        (fun e member => decimal e (List.mem_cons_of_mem d member)) [d]
      change run (stepChar (stepChar _ 'e') _) _ = _
      rw [mark, sign, digits, List.map_cons, run_cons, first, more]
      simp [numeralDraft, shape, digits]

theorem canEnd_numeralDraft : (numeralDraft n).canEnd = true := by
  rw [numeralDraft]
  cases n.power with
  | some p => rfl
  | none =>
      by_cases whole : n.fraction = [] <;> by_cases zero : n.whole = [0] <;>
        simp [fractionDraft, whole, wholeDraft, zero, Draft.canEnd]

theorem numeral_numeralDraft : (numeralDraft n).numeral = n := by
  obtain ⟨negative, whole, fraction, power⟩ := n
  cases power with
  | some p => simp [numeralDraft, Draft.numeral]
  | none =>
      by_cases lone : fraction = [] <;> by_cases zero : whole = [0] <;>
        simp [numeralDraft, fractionDraft, lone, wholeDraft, zero, Draft.numeral]

theorem take_numeralDraft {c : Char} (follows : Follows c) :
    (numeralDraft n).take c = .complete := by
  have other : Digit.value? c = none ∧ c ≠ '.' ∧ c ≠ 'e' ∧ c ≠ 'E' := by
    rcases follows with rfl | rfl | rfl <;> decide
  rw [numeralDraft]
  cases n.power with
  | some p => simp [Draft.take, other]
  | none =>
      by_cases whole : n.fraction = [] <;> by_cases zero : n.whole = [0] <;>
        simp [fractionDraft, whole, wholeDraft, zero, Draft.take, Draft.extend, other]

/-- A numeral is read as the number that it is. -/
theorem reaches_numeral {r : Reader} (place : r.BeginsValue) (sound : n.WellFormed) :
    Reaches (r.run n.chars) (complete (.number n) r.frames) := by
  rw [Numeral.chars, run_append, run_append, run_whole place sound, run_fraction sound,
    run_power sound]
  constructor
  · rw [← finishBetween_complete]
    simp only [finish, canEnd_numeralDraft, if_true, numeral_numeralDraft]
  · intro c follows
    rw [← stepBetween_complete]
    simp only [stepChar, take_numeralDraft follows, numeral_numeralDraft]

end

end Reader

/-! ### Texts -/

/-- How a character is spelled that was written. -/
def piece (c : Char) : Piece :=
  if c ∈ ['"', '\\', '\n', '\r', '\t', '\x08', '\x0c'] then .escaped c
  else if c.toNat < 0x20 then .unit c.toNat
  else .plain c

/-- How a text is spelled that was written. -/
def spelling (s : String) : Spelling := ⟨s.toList.map piece, .quote⟩

theorem readFrom_pieces (cs acc : List Char) :
    Spelling.readFrom acc true .quote (cs.map piece) = .ok (.ofList (acc.reverse ++ cs)) := by
  induction cs generalizing acc with
  | nil => simp [Spelling.readFrom, TextEnd.complaint?]
  | cons c cs ih =>
      have next : Spelling.readFrom acc true .quote (piece c :: cs.map piece) =
          Spelling.readFrom (c :: acc) true .quote (cs.map piece) := by
        rw [piece]
        split
        · rfl
        · split
          · rename_i control
            rw [Spelling.readFrom.eq_def]
            dsimp only
            rw [if_neg (by omega), if_pos (by omega), Char.ofNat_toNat]
          · rfl
      rw [List.map_cons, next, ih]
      simp

/-- The spelling of a text stands for it. -/
theorem text_spelling (s : String) : (spelling s).text = .ok s := by
  rw [Spelling.text, spelling, readFrom_pieces]
  simp

namespace Reader

theorem hex?_hexChar : ∀ v < 16, Digit.hex? (Digit.hexChar v) = some v := by decide

section

variable {frames : List Frame} {isKey : Bool} {pieces : List Piece}

theorem run_escape (c : Char) :
    run ⟨.text isKey pieces .none, frames⟩ (escape c) =
      ⟨.text isKey (piece c :: pieces) .none, frames⟩ := by
  by_cases special : c ∈ ['"', '\\', '\n', '\r', '\t', '\x08', '\x0c']
  · rw [piece, if_pos special]
    simp only [List.mem_cons, List.not_mem_nil, or_false] at special
    rcases special with rfl | rfl | rfl | rfl | rfl | rfl | rfl <;> rfl
  · rw [piece, if_neg special]
    simp only [List.mem_cons, List.not_mem_nil, or_false, not_or] at special
    by_cases control : c.toNat < 0x20
    · have escaped : escape c = ['\\', 'u', '0', '0', Digit.hexChar (c.toNat / 16),
          Digit.hexChar (c.toNat % 16)] := by
        simp [escape, special, control]
      have high := hex?_hexChar (c.toNat / 16) (by omega)
      have low := hex?_hexChar (c.toNat % 16) (by omega)
      rw [if_pos control, escaped]
      change stepChar (stepChar ⟨.text isKey pieces (.digits 2 0), frames⟩ _) _ = _
      simp [stepChar, within, high, low]
      omega
    · have plain : escape c = [c] := by simp [escape, special, control]
      rw [if_neg control, plain]
      simp [run, stepChar, within, special, control]

theorem run_escapes (cs : List Char) (before : List Piece) :
    run ⟨.text isKey before .none, frames⟩ (cs.flatMap escape) =
      ⟨.text isKey ((cs.map piece).reverse ++ before) .none, frames⟩ := by
  induction cs generalizing before with
  | nil => rfl
  | cons c cs ih =>
      rw [List.flatMap_cons, run_append, run_escape, ih]
      simp

/-- A text behind its first quote is read as the text that it is. -/
theorem run_quote (s : String) :
    run ⟨.text isKey [] .none, frames⟩ (s.toList.flatMap escape ++ ['"']) =
      endText frames isKey (spelling s).pieces.reverse := by
  rw [run_append, run_escapes, List.append_nil]
  rfl

end

end Reader

/-! ### Trees of values -/

/-- The numeral that is written for a number. -/
def Number.numeral : Number → Numeral
  | .whole n => .ofInt n
  | .real x => x.numeral

theorem Number.chars_numeral (n : Number) : n.numeral.chars = n.chars := by
  cases n with
  | whole n => exact Numeral.chars_ofInt n
  | real x => exact x.text_toList.symm

theorem Number.wellFormed_numeral (n : Number) : n.numeral.WellFormed := by
  cases n with
  | whole n => exact Numeral.wellFormed_ofInt n
  | real x => exact x.wellFormed_numeral

namespace Value

mutual

/-- The tree of a value that was written. -/
def node : Value → Node
  | .null => .null
  | .flag b => .flag b
  | .number n => .number n.numeral
  | .text s => .text (spelling s)
  | .list items => .list (nodes items) none
  | .object members => .object (memberNodes members) none

def nodes : List Value → List Node
  | [] => []
  | v :: vs => v.node :: nodes vs

def memberNodes : List (String × Value) → List (Spelling × Node)
  | [] => []
  | (k, v) :: ms => (spelling k, v.node) :: memberNodes ms

end

theorem nodes_eq_map (vs : List Value) : nodes vs = vs.map node := by
  induction vs with
  | nil => rfl
  | cons v vs ih => rw [nodes, ih, List.map_cons]

theorem memberNodes_eq_map (ms : List (String × Value)) :
    memberNodes ms = ms.map fun m => (spelling m.1, m.2.node) := by
  induction ms with
  | nil => rfl
  | cons m ms ih => rw [memberNodes, ih, List.map_cons]

/-- What holds of a value if it holds of its parts, holds of all values. -/
theorem induct {motive : Value → Prop} (null : motive .null) (flag : ∀ b, motive (.flag b))
    (number : ∀ n, motive (.number n)) (text : ∀ s, motive (.text s))
    (list : ∀ items, (∀ v ∈ items, motive v) → motive (.list items))
    (object : ∀ members, (∀ m ∈ members, motive m.2) → motive (.object members)) :
    ∀ v, motive v :=
  @Value.rec motive (fun items => ∀ v ∈ items, motive v)
    (fun members => ∀ m ∈ members, motive m.2) (fun m => motive m.2) null flag number text list
    object nofun (fun _ _ first rest => List.forall_mem_cons.2 ⟨first, rest⟩)
    nofun (fun _ _ first rest => List.forall_mem_cons.2 ⟨first, rest⟩) fun _ _ holds => holds

/-! ### Characters of values -/

/-- The items of a list, a comma between any two. -/
def itemChars : List Value → List Char
  | [] => []
  | v :: vs => v.chars ++ vs.flatMap fun w => ',' :: w.chars

/-- A member of an object. -/
def memberChars (m : String × Value) : List Char := quote m.1 ++ ':' :: m.2.chars

/-- The members of an object, a comma between any two. -/
def membersChars : List (String × Value) → List Char
  | [] => []
  | m :: ms => memberChars m ++ ms.flatMap fun m => ',' :: memberChars m

/-- The characters of a value do not depend on what stands before it. -/
def Appends (v : Value) : Prop := ∀ acc, v.writeAfter acc = v.chars.reverse ++ acc

theorem writeItems_false {vs : List Value} (appends : ∀ v ∈ vs, v.Appends) (acc : List Char) :
    writeItems acc false vs = (vs.flatMap fun w => ',' :: w.chars).reverse ++ acc := by
  induction vs generalizing acc with
  | nil => rfl
  | cons v vs ih =>
      rw [writeItems, if_neg nofun, appends v List.mem_cons_self,
        ih fun w member => appends w (List.mem_cons_of_mem v member)]
      simp

theorem writeItems_true {vs : List Value} (appends : ∀ v ∈ vs, v.Appends) (acc : List Char) :
    writeItems acc true vs = (itemChars vs).reverse ++ acc := by
  cases vs with
  | nil => rfl
  | cons v vs =>
      rw [writeItems, if_pos rfl, appends v List.mem_cons_self,
        writeItems_false fun w member => appends w (List.mem_cons_of_mem v member)]
      simp [itemChars]

theorem writeMembers_false {ms : List (String × Value)} (appends : ∀ m ∈ ms, m.2.Appends)
    (acc : List Char) :
    writeMembers acc false ms = (ms.flatMap fun m => ',' :: memberChars m).reverse ++ acc := by
  induction ms generalizing acc with
  | nil => rfl
  | cons m ms ih =>
      rw [writeMembers, appends m List.mem_cons_self,
        ih fun w member => appends w (List.mem_cons_of_mem m member)]
      simp [memberChars]

theorem writeMembers_true {ms : List (String × Value)} (appends : ∀ m ∈ ms, m.2.Appends)
    (acc : List Char) :
    writeMembers acc true ms = (membersChars ms).reverse ++ acc := by
  cases ms with
  | nil => rfl
  | cons m ms =>
      rw [writeMembers, appends m List.mem_cons_self,
        writeMembers_false fun w member => appends w (List.mem_cons_of_mem m member)]
      simp [membersChars, memberChars]

theorem appends (v : Value) : v.Appends := by
  intro acc
  induction v using induct generalizing acc with
  | null => rfl
  | flag b => cases b <;> rfl
  | number n => simp [writeAfter, chars]
  | text s => simp [writeAfter, chars]
  | list items ih => simp [writeAfter, chars, writeItems_true ih]
  | object members ih => simp [writeAfter, chars, writeMembers_true ih]

theorem chars_list (items : List Value) :
    chars (.list items) = '[' :: (itemChars items ++ [']']) := by
  simp [chars, writeAfter, writeItems_true fun v _ => v.appends]

theorem chars_object (members : List (String × Value)) :
    chars (.object members) = '\x7b' :: (membersChars members ++ ['\x7d']) := by
  simp [chars, writeAfter, writeMembers_true fun m _ => m.2.appends]

end Value

/-! ### Values -/

namespace Reader

/-- A value is read as its tree wherever a value may begin. -/
def Reads (v : Value) : Prop :=
  ∀ r : Reader, r.BeginsValue → Reaches (r.run v.chars) (complete v.node r.frames)

section

variable {frames : List Frame}

/-- The items after the first one. -/
theorem reaches_items {vs : List Value} (reads : ∀ v ∈ vs, Reads v) {r : Reader}
    {before : List Node} (reached : Reaches r ⟨.afterItem, .list before :: frames⟩) :
    Reaches (r.run (vs.flatMap fun v => ',' :: v.chars))
      ⟨.afterItem, .list ((vs.map Value.node).reverse ++ before) :: frames⟩ := by
  induction vs generalizing r before with
  | nil => exact reached
  | cons v vs ih =>
      have comma : r.stepChar ',' = ⟨.afterListComma, .list before :: frames⟩ :=
        reached.stepChar ',' (.inl rfl)
      have first := reads v List.mem_cons_self ⟨.afterListComma, .list before :: frames⟩
        (.inr (.inr rfl))
      rw [List.flatMap_cons, List.cons_append, run_cons, comma, run_append]
      simpa using ih (fun w member => reads w (List.mem_cons_of_mem v member)) first

theorem reads_list {items : List Value} (reads : ∀ v ∈ items, Reads v) : Reads (.list items) := by
  intro r place
  have opened : r.stepChar '[' = ⟨.listStart, .list [] :: r.frames⟩ :=
    stepChar_of_beginsValue place (by decide) (by decide)
  have closed (nodes : List Node) : stepChar ⟨.afterItem, .list nodes :: r.frames⟩ ']' =
      complete (.list nodes.reverse none) r.frames := rfl
  rw [Value.chars_list, run_cons, opened, run_append, Value.node, Value.nodes_eq_map]
  cases items with
  | nil => exact .refl _
  | cons v vs =>
      have first := reads v List.mem_cons_self ⟨.listStart, .list [] :: r.frames⟩ (.inr (.inl rfl))
      have all := reaches_items (fun w member => reads w (List.mem_cons_of_mem v member)) first
      have order : ((vs.map Value.node).reverse ++ [v.node]).reverse =
          (v :: vs).map Value.node := by
        simp
      rw [Value.itemChars, run_append, run_cons, all.stepChar ']' (.inr (.inl rfl)), closed, order]
      exact .refl _

/-- A member behind the quote of its key. -/
theorem reaches_member (frames : List Frame) {m : String × Value} (reads : Reads m.2)
    (before : List (Spelling × Node)) :
    Reaches (run ⟨.text true [] .none, .object before :: frames⟩
        (m.1.toList.flatMap escape ++ ['"'] ++ ':' :: m.2.chars))
      ⟨.afterMember, .object ((spelling m.1, m.2.node) :: before) :: frames⟩ := by
  have colon : stepChar
      (endText (.object before :: frames) true (spelling m.1).pieces.reverse) ':' =
        ⟨.value, .member before (spelling m.1) :: frames⟩ := by
    rw [endText, List.reverse_reverse]
    rfl
  rw [run_append, run_quote, run_cons, colon]
  exact reads ⟨.value, .member before (spelling m.1) :: frames⟩ (.inl rfl)

/-- The members after the first one. -/
theorem reaches_members {ms : List (String × Value)} (reads : ∀ m ∈ ms, Reads m.2) {r : Reader}
    {before : List (Spelling × Node)}
    (reached : Reaches r ⟨.afterMember, .object before :: frames⟩) :
    Reaches (r.run (ms.flatMap fun m => ',' :: Value.memberChars m))
      ⟨.afterMember,
        .object ((ms.map fun m => (spelling m.1, m.2.node)).reverse ++ before) :: frames⟩ := by
  induction ms generalizing r before with
  | nil => exact reached
  | cons m ms ih =>
      have comma : r.stepChar ',' = ⟨.afterObjectComma, .object before :: frames⟩ :=
        reached.stepChar ',' (.inl rfl)
      have quoted : stepChar ⟨.afterObjectComma, .object before :: frames⟩ '"' =
          ⟨.text true [] .none, .object before :: frames⟩ := rfl
      have first := reaches_member frames (reads m List.mem_cons_self) before
      rw [List.flatMap_cons, List.cons_append, run_cons, comma, run_append, Value.memberChars,
        quote, List.cons_append, run_cons, quoted]
      simpa using ih (fun w member => reads w (List.mem_cons_of_mem m member)) first

theorem reads_object {members : List (String × Value)} (reads : ∀ m ∈ members, Reads m.2) :
    Reads (.object members) := by
  intro r place
  have opened : r.stepChar '\x7b' = ⟨.objectStart, .object [] :: r.frames⟩ :=
    stepChar_of_beginsValue place (by decide) (by decide)
  have closed (nodes : List (Spelling × Node)) :
      stepChar ⟨.afterMember, .object nodes :: r.frames⟩ '\x7d' =
        complete (.object nodes.reverse none) r.frames := rfl
  rw [Value.chars_object, run_cons, opened, run_append, Value.node, Value.memberNodes_eq_map]
  cases members with
  | nil => exact .refl _
  | cons m ms =>
      have quoted : stepChar ⟨.objectStart, .object [] :: r.frames⟩ '"' =
          ⟨.text true [] .none, .object [] :: r.frames⟩ := rfl
      have first := reaches_member r.frames (reads m List.mem_cons_self) []
      have all := reaches_members (fun w member => reads w (List.mem_cons_of_mem m member)) first
      have order :
          ((ms.map fun m => (spelling m.1, m.2.node)).reverse ++
            [(spelling m.1, m.2.node)]).reverse =
              (m :: ms).map fun m => (spelling m.1, m.2.node) := by
        simp
      rw [Value.membersChars, run_append, Value.memberChars, quote, List.cons_append,
        run_cons _ '"', quoted, run_cons, all.stepChar '\x7d' (.inr (.inr rfl)), closed, order]
      exact .refl _

/-- A value is read as its tree. -/
theorem reads_value (v : Value) : Reads v := by
  induction v using Value.induct with
  | null =>
      intro r place
      have opened : r.stepChar 'n' = ⟨.word ['u', 'l', 'l'] .null, r.frames⟩ :=
        stepChar_of_beginsValue place (by decide) (by decide)
      change Reaches (run (r.stepChar 'n') _) _
      rw [opened]
      exact .refl _
  | flag b =>
      intro r place
      cases b with
      | true =>
          have opened : r.stepChar 't' = ⟨.word ['r', 'u', 'e'] (.flag true), r.frames⟩ :=
            stepChar_of_beginsValue place (by decide) (by decide)
          change Reaches (run (r.stepChar 't') _) _
          rw [opened]
          exact .refl _
      | false =>
          have opened : r.stepChar 'f' = ⟨.word ['a', 'l', 's', 'e'] (.flag false), r.frames⟩ :=
            stepChar_of_beginsValue place (by decide) (by decide)
          change Reaches (run (r.stepChar 'f') _) _
          rw [opened]
          exact .refl _
  | number n =>
      intro r place
      have shown : Value.chars (.number n) = n.numeral.chars := by
        simp [Value.chars, Value.writeAfter, n.chars_numeral]
      rw [shown]
      exact reaches_numeral place n.wellFormed_numeral
  | text s =>
      intro r place
      have opened : r.stepChar '"' = ⟨.text false [] .none, r.frames⟩ :=
        stepChar_of_beginsValue place (by decide) (by decide)
      have shown : Value.chars (.text s) = '"' :: (s.toList.flatMap escape ++ ['"']) := by
        simp [Value.chars, Value.writeAfter, quote]
      rw [shown, run_cons, opened, run_quote, endText, List.reverse_reverse]
      exact .refl _
  | list items ih => exact reads_list ih
  | object members ih => exact reads_object ih

end

end Reader

/-- The text of a value is read as the tree of the value, and nothing is left over. -/
theorem read_bytes (v : Value) : read v.bytes = ⟨v.node, false⟩ := by
  have symbols : Utf8.symbols v.bytes = v.chars.map .char := Utf8.symbols_encode v.chars
  have run : (v.chars.map Symbol.char).foldl Reader.step .start = Reader.start.run v.chars := by
    rw [List.foldl_map]
    rfl
  rw [read, symbols, run, (Reader.reads_value v .start (.inl rfl)).finish]
  rfl

end Podkeeper.Json
