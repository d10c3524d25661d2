import Podkeeper.Proofs.Pods.Keys
import Podkeeper.Proofs.Requests.Wire
import Podkeeper.Proofs.Text.Canonical

/-!
Maps of bytes are read from canonical base64 only.

A map of bytes is written as a map of texts. Reading goes through the texts in the order of their
keys and takes each without the blanks around it, up to the first that is not canonical; of that one
the refusal speaks (`decodeEntries_cases`). So every map of texts is read as at most one map of
bytes, and what was read is written again as the texts, but for those blanks
(`byte_maps_canonical`).
-/

namespace Podkeeper

open Wire Json

/-! ### Values -/

namespace Base64

/-- A text is canonical, but for blanks around it. -/
def IsReadable (value : String) : Prop :=
  ∃ word : String, Blank.IsTrimmed value.toList word.toList ∧ IsCanonical word

theorem isReadable_iff {value : String} :
    IsReadable value ↔ ∃ bytes, decode (Blank.trim value) = .ok bytes := by
  simp only [decode_eq_ok_iff, ← isCanonical_iff]
  constructor
  · rintro ⟨word, trimmed, canonical⟩
    rw [Blank.trim, Blank.trimChars_of_isTrimmed trimmed, String.ofList_toList]
    exact canonical
  · intro canonical
    refine ⟨Blank.trim value, ?_, canonical⟩
    rw [Blank.trim, String.toList_ofList]
    exact Blank.isTrimmed_trimChars value.toList

theorem not_isReadable_of_error {value : String} {refusal : Refusal}
    (refused : decode (Blank.trim value) = .error refusal) : ¬ IsReadable value := by
  rw [isReadable_iff]
  rintro ⟨bytes, read⟩
  cases refused.symm.trans read

end Base64

/-! ### Entries -/

/-- All entries are read, or all up to one that is refused. -/
theorem decodeEntries_cases (acc : KeyMap Bytes) (l : List (String × String)) :
    (∃ read : List (String × Bytes),
      l.map (fun e => (e.1, Blank.trim e.2)) = read.map (fun e => (e.1, Base64.encode e.2)) ∧
      decodeEntries acc l = .ok (read.foldl (fun m e => m.insert e.1 e.2) acc)) ∨
    ∃ before key value after refusal, l = before ++ (key, value) :: after ∧
      (∀ e ∈ before, Base64.IsReadable e.2) ∧
      Base64.decode (Blank.trim value) = .error refusal ∧
      decodeEntries acc l = .error s!"key '{key}' is not valid base64: {refusal.message}" := by
  induction l generalizing acc with
  | nil => exact .inl ⟨[], rfl, rfl⟩
  | cons e l ih =>
      obtain ⟨key, value⟩ := e
      cases read : Base64.decode (Blank.trim value) with
      | error refusal =>
          refine .inr ⟨[], key, value, l, refusal, rfl, List.forall_mem_nil _, read, ?_⟩
          rw [decodeEntries, read]
      | ok bytes =>
          have rest : decodeEntries acc ((key, value) :: l) =
              decodeEntries (acc.insert key bytes) l := by
            rw [decodeEntries, read]
          rw [rest]
          rcases ih (acc.insert key bytes) with
            ⟨others, same, all⟩ | ⟨before, k, v, after, refusal, rfl, readable, refused, all⟩
          · refine .inl ⟨(key, bytes) :: others, ?_, all⟩
            rw [List.map_cons, List.map_cons, same, Base64.decode_eq_ok_iff.1 read]
          · refine .inr ⟨(key, value) :: before, k, v, after, refusal, rfl, ?_, refused, all⟩
            exact List.forall_mem_cons.2 ⟨Base64.isReadable_iff.2 ⟨bytes, read⟩, readable⟩

/-! ### Maps -/

/-- What comes of reading a map of bytes where a map of texts stands. -/
structure ReadsBytes (texts : KeyMap String) (outcome : Except Refusal (KeyMap Bytes)) :
    Prop where
  succeeds : (∃ m, outcome = .ok m) ↔
    ∀ key value, texts.get? key = some value → Base64.IsReadable value
  /-- What was read is written as the texts without the blanks around them. -/
  rewritten : ∀ m, outcome = .ok m → m.map Base64.encode = texts.map Blank.trim
  /-- Each text has the bits of the bytes that are read from it. -/
  spelled : ∀ m, outcome = .ok m → ∀ key bytes, m.get? key = some bytes →
    ∃ value, texts.get? key = some value ∧ Base64.Spells (Blank.trim value) bytes
  /-- Of the keys with texts that cannot be read the first one is named, by the order of bytes. -/
  named : ∀ r, outcome = .error r → ∃ key value refusal,
    texts.get? key = some value ∧ ¬ Base64.IsReadable value ∧
      (∀ key' value', texts.get? key' = some value' → ¬ Base64.IsReadable value' →
        Utf8.ofString key ≤ Utf8.ofString key') ∧
      Base64.decode (Blank.trim value) = .error refusal ∧
      r = .fault (.refused s!"key '{key}' is not valid base64: {refusal.message}")

/-- A map of bytes is made of the map of texts that stands in the same place. -/
theorem readBytesMap_eq {n : Cursor} {texts : KeyMap String}
    (stands : Source.keyMap (m := Except Refusal) Source.text n = .ok texts) :
    readBytesMap n = (decodeEntries ∅ texts.entries).mapError
      fun reason => Refusal.fault (.refused reason) := by
  rw [readBytesMap, Source.checked, stands, ok_bind]
  cases decodeEntries ∅ texts.entries <;> rfl

/-- Bytes that are written as the trimmed texts are what is read from the texts. -/
theorem readsBytes_ok {texts : KeyMap String} {m : KeyMap Bytes}
    (rewritten : m.map Base64.encode = texts.map Blank.trim) : ReadsBytes texts (.ok m) := by
  have same (key : String) :
      (m.get? key).map Base64.encode = (texts.get? key).map Blank.trim := by
    rw [← KeyMap.get?_map, rewritten, KeyMap.get?_map]
  constructor
  case succeeds =>
    refine iff_of_true ⟨m, rfl⟩ fun key value held => ?_
    have written := same key
    rw [held] at written
    obtain ⟨bytes, -, spelled⟩ := Option.map_eq_some_iff.1 written
    exact Base64.isReadable_iff.2 ⟨bytes, Base64.decode_eq_ok_iff.2 spelled.symm⟩
  case rewritten =>
    rintro m ⟨⟩
    exact rewritten
  case spelled =>
    rintro m ⟨⟩ key bytes held
    have written := same key
    rw [held] at written
    obtain ⟨value, there, trimmed⟩ := Option.map_eq_some_iff.1 written.symm
    refine ⟨value, there, ?_⟩
    rw [trimmed]
    exact Base64.spells_encode bytes
  case named => exact fun _ failed => nomatch failed

/-- A value that is refused when all before it were read is the one that the refusal names. -/
theorem readsBytes_error {texts : KeyMap String} {before after : List (String × String)}
    {key value : String} {refusal : Base64.Refusal}
    (split : texts.entries = before ++ (key, value) :: after)
    (readable : ∀ e ∈ before, Base64.IsReadable e.2)
    (refused : Base64.decode (Blank.trim value) = .error refusal) :
    ReadsBytes texts (.error
      (.fault (.refused s!"key '{key}' is not valid base64: {refusal.message}"))) := by
  have held : texts.get? key = some value := by
    rw [KeyMap.get?_eq_some_iff, split]
    exact List.mem_append_right before List.mem_cons_self
  have unreadable : ¬ Base64.IsReadable value := Base64.not_isReadable_of_error refused
  have least (key' value' : String) (there : texts.get? key' = some value')
      (bad : ¬ Base64.IsReadable value') : key ≤ key' := by
    have increasing := texts.increasing
    rw [KeyMap.get?_eq_some_iff, split, List.mem_append, List.mem_cons] at there
    rw [split, List.pairwise_append, List.pairwise_cons] at increasing
    rcases there with earlier | same | later
    · exact absurd (readable (key', value') earlier) bad
    · cases same
      exact String.le_refl key
    · exact le_of_lt (increasing.2.1.1 (key', value') later)
  constructor
  case succeeds =>
    refine iff_of_false (fun ⟨_, succeeded⟩ => nomatch succeeded) fun all => ?_
    exact unreadable (all key value held)
  case rewritten => exact fun _ succeeded => nomatch succeeded
  case spelled => exact fun _ succeeded => nomatch succeeded
  case named =>
    rintro r ⟨⟩
    exact ⟨key, value, refusal, held, unreadable,
      fun key' value' there bad => Utf8.ofString_le_iff.2 (least key' value' there bad),
      refused, rfl⟩

/-- Reading bytes goes as far as the texts that stand there admit. -/
theorem readsBytes {n : Cursor} {texts : KeyMap String}
    (stands : Source.keyMap (m := Except Refusal) Source.text n = .ok texts) :
    ReadsBytes texts (readBytesMap n) := by
  rw [readBytesMap_eq stands]
  rcases decodeEntries_cases ∅ texts.entries with
    ⟨read, same, all⟩ | ⟨before, key, value, after, refusal, split, readable, refused, all⟩
  · have increasing : read.Pairwise fun a b => a.1 < b.1 := by
      have trimmed : (texts.entries.map fun e => (e.1, Blank.trim e.2)).Pairwise
          fun a b => a.1 < b.1 := (texts.map Blank.trim).increasing
      rw [same, List.pairwise_map] at trimmed
      exact trimmed
    have whole : read.foldl (fun m e => m.insert e.1 e.2) ∅ = KeyMap.mk read increasing :=
      KeyMap.ofList_entries ⟨read, increasing⟩
    rw [all, whole]
    exact readsBytes_ok (KeyMap.ext same.symm)
  · rw [all]
    exact readsBytes_error split readable refused

theorem nesting_ofMap_le {α : Type} {write : α → Value} {m : KeyMap α}
    (flat : ∀ a, (write a).nesting = 0) : (Value.ofMap write m).nesting ≤ maxDepth := by
  refine Value.nesting_object_le.2 ⟨126, rfl, fun e member => ?_⟩
  obtain ⟨entry, -, rfl⟩ := List.mem_map.1 member
  exact (flat entry.2).trans_le (Nat.zero_le 126)

/-- Maps of bytes are read from canonical base64 only: wherever a map of texts stands, and so from
the encoding of every map of texts. Every map of bytes is read back from its own encoding. -/
theorem byte_maps_canonical :
    (∀ (n : Cursor) (texts : KeyMap String),
      Source.keyMap (m := Except Refusal) Source.text n = .ok texts →
        ReadsBytes texts (readBytesMap n)) ∧
    (∀ texts : KeyMap String,
      ReadsBytes texts (decode readBytesMap (Value.ofMap .text texts).bytes)) ∧
    ∀ m : KeyMap Bytes, decode readBytesMap (Value.ofMap encodeBytes m).bytes = .ok m := by
  refine ⟨fun _ _ => readsBytes, fun texts => ?_, fun m => ?_⟩
  · rw [decode_bytes_eq]
    have stands : Decodes (Source.keyMap Source.text) (Value.ofMap .text texts) texts :=
      .keyMap fun e _ => .text e.2
    exact readsBytes (stands maxDepth (nesting_ofMap_le fun _ => rfl))
  · exact decode_bytes (decodes_bytesMap m) (nesting_ofMap_le fun _ => rfl)

/-- The members of a map, not in the order of their keys. There are blanks around texts, blanks
only, and padding of all lengths. -/
def spacedMembers : Node :=
  (Json.read (Utf8.ofString
    "\x7b\"z\": \" Zm9v\\n\", \"ä\": \"\\tZm8=\", \"b\": \"Zg==\", \"a\": \"  \"\x7d")).root

/-- The padding is missing under one key, and bits that no byte takes are not zero under another. -/
def looseMembers : Node :=
  (Json.read (Utf8.ofString "\x7b\"b\": \"Zh==\", \"a\": \"aGk=\", \"B\": \"Zg\"\x7d")).root

theorem members_read_and_refused :
    (∃ texts : KeyMap String,
      Source.keyMap (m := Except Refusal) Source.text (⟨maxDepth, spacedMembers⟩ : Cursor) =
          .ok texts ∧
        ReadsBytes texts (.ok (.ofList [("a", []), ("b", [102]), ("z", [102, 111, 111]),
          ("ä", [102, 111])]))) ∧
    ∃ texts : KeyMap String,
      Source.keyMap (m := Except Refusal) Source.text (⟨maxDepth, looseMembers⟩ : Cursor) =
          .ok texts ∧
        ReadsBytes texts
          (.error (.fault (.refused "key 'B' is not valid base64: Invalid padding"))) := by
  constructor
  · have stands : Source.keyMap (m := Except Refusal) Source.text
        (⟨maxDepth, spacedMembers⟩ : Cursor) =
          .ok (.ofList [("a", "  "), ("b", "Zg=="), ("z", " Zm9v\n"), ("ä", "\tZm8=")]) := by
      decide +kernel
    have reads := byte_maps_canonical.1 _ _ stands
    have read : readBytesMap (m := Except Refusal) (⟨maxDepth, spacedMembers⟩ : Cursor) =
        .ok (.ofList [("a", []), ("b", [102]), ("z", [102, 111, 111]), ("ä", [102, 111])]) := by
      decide +kernel
    exact ⟨_, stands, read ▸ reads⟩
  · have stands : Source.keyMap (m := Except Refusal) Source.text
        (⟨maxDepth, looseMembers⟩ : Cursor) =
          .ok (.ofList [("b", "Zh=="), ("a", "aGk="), ("B", "Zg")]) := by
      decide +kernel
    have reads := byte_maps_canonical.1 _ _ stands
    have read : readBytesMap (m := Except Refusal) (⟨maxDepth, looseMembers⟩ : Cursor) =
        .error (.fault (.refused "key 'B' is not valid base64: Invalid padding")) := by
      decide +kernel
    exact ⟨_, stands, read ▸ reads⟩

end Podkeeper
