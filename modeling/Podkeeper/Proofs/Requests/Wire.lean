import Podkeeper.Pod.Manifest
import Podkeeper.Request.Decode
import Podkeeper.Request.Encode
import Podkeeper.Proofs.Pods.Wire
import Podkeeper.Proofs.Text.Base64

/-!
Create requests are read as they were written.

Bundles bring texts and bytes; bytes are written in base64 and found again entry by entry. With
the pod they make a create request, and `CreateRequest.wire_round_trip` says that a request is
found in its own encoding, and a pod that is admitted in its manifest.
-/

namespace Podkeeper

open Wire Json

/-! ### Bundles -/

/-- The entries of a map are decoded to those that were encoded. -/
theorem decodeEntries_encode (l : List (String × Bytes)) (acc : KeyMap Bytes) :
    decodeEntries acc (l.map fun e => (e.1, Base64.encode e.2)) =
      .ok (l.foldl (fun m e => m.insert e.1 e.2) acc) := by
  induction l generalizing acc with
  | nil => rfl
  | cons e l ih =>
      rw [List.map_cons, decodeEntries, Blank.trim_base64, Base64.decode_encode]
      exact ih (acc.insert e.1 e.2)

theorem decodes_bytesMap (m : KeyMap Bytes) :
    Decodes readBytesMap (Value.ofMap encodeBytes m) m := by
  have texts : Decodes (Source.keyMap Source.text) (Value.ofMap encodeBytes m)
      (m.map Base64.encode) := by
    have written : Value.ofMap encodeBytes m = Value.ofMap .text (m.map Base64.encode) := by
      simp [Value.ofMap, KeyMap.map, encodeBytes]
    rw [written]
    exact .keyMap fun e _ => .text e.2
  refine texts.checked ?_
  exact (decodeEntries_encode m.entries ∅).trans (congrArg Except.ok (KeyMap.ofList_entries m))

/-- A map of bytes, left out when it is empty. -/
theorem answers_bytesMap {fields : List (String × Value)} {name : String} {m : KeyMap Bytes}
    (there : under ⟨name, []⟩ fields = if m.isEmpty then [] else [Value.ofMap encodeBytes m]) :
    Answers fields (.optional name ∅ readBytesMap) m :=
  .skipped there (fun blank => KeyMap.ext (List.isEmpty_iff.1 blank)) (decodes_bytesMap m)

theorem ObjectMeta.decodes_encode (m : ObjectMeta) : Decodes ObjectMeta.read m.encode m :=
  .record rfl <| ((Answers.given (by simp) (.text m.name)).map mk)
    |>.seq (.skipped (by simp) id (.text m.ns))

theorem ConfigMap.decodes_encode (c : ConfigMap) : Decodes ConfigMap.read c.encode c :=
  .record rfl <| ((Answers.given (by simp) c.metadata.decodes_encode).map mk)
    |>.seq (.mapField (by simp) fun e _ => .text e.2)
    |>.seq (answers_bytesMap (by simp))
    |>.seq (.maybe .flag (by simp) (fun _ => rfl) fun b _ => .flag b)

theorem Secret.decodes_encode (s : Secret) : Decodes Secret.read s.encode s :=
  .record rfl <| ((Answers.given (by simp) s.metadata.decodes_encode).map mk)
    |>.seq (answers_bytesMap (by simp))
    |>.seq (.mapField (by simp) fun e _ => .text e.2)
    |>.seq (.maybe .text (by simp) (fun _ => rfl) fun k _ => .text k)
    |>.seq (.maybe .flag (by simp) (fun _ => rfl) fun b _ => .flag b)

theorem Bundle.decodes_encode (b : Bundle) : Decodes Bundle.read b.encode b :=
  .record rfl <| ((Answers.given (by simp) (.text b.name)).map mk)
    |>.seq (.given (by simp) (.text b.ns))
    |>.seq (.given (by simp) (.sequence fun c _ => c.decodes_encode))
    |>.seq (.given (by simp) (.sequence fun s _ => s.decodes_encode))
    |>.seq (.given (by simp [Value.texts]) (.sequence fun s _ => .text s))

/-! ### Requests -/

/-- A create request is found in its encoding. -/
theorem CreateRequest.decodes_encode {r : CreateRequest} (whole : r.pod.WholeResources) :
    Decodes CreateRequest.read r.encode r :=
  .record rfl <| ((Answers.given (by simp) (Pod.decodes_encode whole)).map mk)
    |>.seq (.given (by simp) (.sequence fun b _ => b.decodes_encode))

theorem Pod.ofJson_encode {p : Pod} (whole : p.WholeResources) (flat : p.encode.nesting ≤ maxDepth)
    (admitted : p.check = .ok ()) (short : p.encode.bytes.length ≤ Limit.manifestSize) :
    Pod.ofJson p.encode.bytes = .ok p := by
  have size : checkSize p.encode.bytes = .ok () := by
    simp only [checkSize, require, short, decide_true, if_true]
    rfl
  have accepted : p.accept = .ok () := by
    rw [accept, admitted]
    rfl
  rw [ofJson, size, decode_bytes (Pod.decodes_encode whole) flat]
  change (do p.accept; .ok p) = _
  rw [accepted]
  rfl

/-- A create request whose resources have no fractions, and which is not nested too deep, is read
back from its own encoding as it was. So is a pod from its manifest if it is admitted and the
manifest is not too large. -/
theorem CreateRequest.wire_round_trip :
    (∀ r : CreateRequest, r.pod.WholeResources → r.encode.nesting ≤ maxDepth →
      decode CreateRequest.read r.encode.bytes = .ok r) ∧
    (∀ p : Pod, p.WholeResources → p.encode.nesting ≤ maxDepth → p.check = .ok () →
      p.encode.bytes.length ≤ Limit.manifestSize → Pod.ofJson p.encode.bytes = .ok p) :=
  ⟨fun _ whole flat => decode_bytes (decodes_encode whole) flat,
    fun _ whole flat admitted short => Pod.ofJson_encode whole flat admitted short⟩

/-- A pod with every kind of variable and of volume, and limits among its resources. -/
def Pod.laden : Pod where
  metadata := ⟨"web", "ns", "uid-1", .ofList [("app", "a \"quoted\" name")],
    .ofList [("note", "two\nlines \u00e9"), ("", "")]⟩
  spec :=
    { containers :=
        [⟨"a", "i", some "1", ["run"], ["-v", ""],
          .ofList [("limits", .object (.ofList [
            ("cpu", ⟨.whole 2, .number _ ⟨by decide, by decide⟩⟩), ("memory", .text "1Gi")]))],
          [⟨"app", "/m", some "sub", true⟩],
          [⟨"PLAIN", .literal ""⟩, ⟨"MODE", .configMapKey ⟨"app", "mode", false⟩⟩,
            ⟨"KEY", .secretKey ⟨"app", "key", true⟩⟩]⟩]
      initContainers := [⟨"first", "i", none, [], [], ∅, [], []⟩]
      volumes :=
        [⟨"app", .configMap ⟨"app", some [], some 420, some false⟩⟩,
          ⟨"keys", .secret ⟨"app", some [⟨"key", "", none⟩, ⟨"b", "c", some 0⟩], none, none⟩⟩,
          ⟨"tmp", .emptyDir ⟨some "", none⟩⟩]
      restartPolicy := .onFailure
      gracePeriod := some 0 }

/-- A request with texts and with bytes that are no text. -/
def CreateRequest.laden : CreateRequest where
  pod := .laden
  bundles :=
    [⟨"own", "", [⟨⟨"app", "ns"⟩, .ofList [("mode", "dark")], .ofList [("raw", [0, 255, 128])],
        some true⟩],
      [⟨⟨"app", ""⟩, .ofList [("key", [0]), ("none", [])], ∅, some "Opaque", none⟩], ["tmp"]⟩,
      ⟨"", "", [], [], []⟩]

theorem laden_request_read_back :
    let r := CreateRequest.laden
    r.pod.WholeResources ∧ r.encode.nesting ≤ maxDepth ∧ r.pod.check = .ok () ∧
      r.pod.encode.bytes.length ≤ Limit.manifestSize ∧
      decode CreateRequest.read r.encode.bytes = .ok r ∧
      Pod.ofJson r.pod.encode.bytes = .ok r.pod := by
  intro r
  have whole : r.pod.WholeResources := by decide +kernel
  have flat : r.encode.nesting ≤ maxDepth := by decide +kernel
  have flatPod : r.pod.encode.nesting ≤ maxDepth := by decide +kernel
  have admitted : r.pod.check = .ok () := by decide +kernel
  have short : r.pod.encode.bytes.length ≤ Limit.manifestSize := by decide +kernel
  exact ⟨whole, flat, admitted, short, CreateRequest.wire_round_trip.1 r whole flat,
    CreateRequest.wire_round_trip.2 r.pod whole flatPod admitted short⟩

end Podkeeper
