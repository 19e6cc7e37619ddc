import Aead.Family
import Aead.Host.Value
import Aead.Proofs.Precomputation

/-!
# What diagnostic text shows

Buffers carry plaintext and native handles carry keys, and diagnostic text ends up in logs. Of a
buffer the text shows the length, of a native handle nothing, at every depth and in both layouts; of
a context it shows the algorithm and the size. Two values with one outline, equal but for the bytes
of buffers and for what handles hold, therefore have one text.

Results:

* `Value.SameOutline.inspect_eq`: the text in one line is that of the outline.
* `Value.SameOutline.inspectIndented_eq`: so is the text with a line for every field.
* `inspect_hides_contents`: neither text tells two values with one outline apart, nor two contexts.
-/

namespace Aead.Host

/-! ## Outlines -/

namespace Value

mutual

/-- The two values are equal but for the bytes of buffers, which have equal lengths, and for what
native handles hold. -/
inductive SameOutline : Value → Value → Prop
  | undefined : SameOutline .undefined .undefined
  | null : SameOutline .null .null
  | bool (b : Bool) : SameOutline (.bool b) (.bool b)
  | number (x : Number) : SameOutline (.number x) (.number x)
  | string (s : String) : SameOutline (.string s) (.string s)
  | buffer {bytes bytes' : Bytes} (h : bytes.length = bytes'.length) :
      SameOutline (.buffer bytes) (.buffer bytes')
  | object {fields fields' : List (String × Value)} (h : SameOutlines fields fields') :
      SameOutline (.object fields) (.object fields')
  | external (handle handle' : Handle) : SameOutline (.external handle) (.external handle')

/-- Fields of the same names, with values that have one outline. -/
inductive SameOutlines : List (String × Value) → List (String × Value) → Prop
  | nil : SameOutlines [] []
  | cons (name : String) {value value' : Value} {rest rest' : List (String × Value)}
      (first : SameOutline value value') (others : SameOutlines rest rest') :
      SameOutlines ((name, value) :: rest) ((name, value') :: rest')

end

/-! ## Texts -/

mutual

/-- The text in one line is that of the outline. -/
theorem SameOutline.inspect_eq {v w : Value} (h : SameOutline v w) : v.inspect = w.inspect := by
  cases h with
  | undefined | null | bool | number | string | external => rfl
  | buffer length => simp only [inspect, length]
  | object fields => simp only [inspect, fields.inspectFields_eq]

theorem SameOutlines.inspectFields_eq {fields fields' : List (String × Value)}
    (h : SameOutlines fields fields') : inspectFields fields = inspectFields fields' := by
  cases h with
  | nil => rfl
  | cons name first others =>
    simp only [inspectFields, first.inspect_eq, others.inspectFields_eq]

end

mutual

/-- The text with a line for every field is that of the outline, at every depth. -/
theorem SameOutline.inspectIndented_eq {v w : Value} (h : SameOutline v w) (depth : Nat) :
    v.inspectIndented depth = w.inspectIndented depth := by
  cases h with
  | undefined | null | bool | number | string | external => rfl
  | buffer length => simp only [inspectIndented, inspect, length]
  | object fields =>
    cases fields with
    | nil => rfl
    | cons name first others =>
      have lines := (SameOutlines.cons name first others).inspectIndentedFields_eq (depth + 1)
      simp only [inspectIndented, lines]

theorem SameOutlines.inspectIndentedFields_eq {fields fields' : List (String × Value)}
    (h : SameOutlines fields fields') (depth : Nat) :
    inspectIndentedFields depth fields = inspectIndentedFields depth fields' := by
  cases h with
  | nil => rfl
  | cons name first others =>
    simp only [inspectIndentedFields, first.inspectIndented_eq depth,
      others.inspectIndentedFields_eq depth]

end

end Value

/-! ## Contexts -/

/-- The text of a context is that of its algorithm. -/
theorem inspect_eq_of_algorithm_eq {context context' : Context}
    (h : context.algorithm = context'.algorithm) : context.inspect = context'.inspect := by
  unfold Context.inspect Context.stateLength
  rw [h]

/-- A key of the right length has a context of AES-256-GCM. -/
theorem exists_context {key : Bytes} (hkey : key.length = 32) :
    ∃ context, Family.precompute .aes256Gcm key = .ok context ∧
      context.algorithm = .aes256Gcm := by
  obtain ⟨cipher, hcipher⟩ := Algorithm.aes256Gcm.exists_cipher hkey
  obtain ⟨context, precomputed, loaded⟩ := Provider.exists_precompute rfl hcipher
  refine ⟨context, ?_, Algorithm.algorithm_eq_of_cipherOf? _ (Option.isSome_of_eq_some loaded)⟩
  rw [Family.precompute, precomputed]
  rfl

/-- **Diagnostic text shows no secret bytes.** Two values that are equal but for the bytes of
buffers and for what native handles hold have the same text, in one line and with a line for every
field. Two keys of 32 bytes have contexts with the same text. -/
theorem inspect_hides_contents :
    (∀ v w : Value, v.SameOutline w →
      v.inspect = w.inspect ∧
      ∀ depth, v.inspectIndented depth = w.inspectIndented depth) ∧
    ∀ key key' : Bytes, key.length = 32 → key'.length = 32 →
      ∃ context context', Family.precompute .aes256Gcm key = .ok context ∧
        Family.precompute .aes256Gcm key' = .ok context' ∧
        context.inspect = context'.inspect := by
  refine ⟨fun v w h => ⟨h.inspect_eq, h.inspectIndented_eq⟩, fun key key' hkey hkey' => ?_⟩
  obtain ⟨context, precomputed, algorithm⟩ := exists_context hkey
  obtain ⟨context', precomputed', algorithm'⟩ := exists_context hkey'
  exact ⟨context, context', precomputed, precomputed',
    inspect_eq_of_algorithm_eq (algorithm.trans algorithm'.symm)⟩

/-- Two objects that hold a buffer and, one level down, a handle: of a key in one of them, of a
number in the other. Two keys that differ in every byte. -/
theorem inspect_hides_contents_of_nested_handle :
    let inner (handle : Handle) : Value := .object [("context", .external handle)]
    let outer (bytes : Bytes) (handle : Handle) : Value :=
      .object [("mac", .buffer bytes), ("state", inner handle)]
    let context : Context := .aes256Gcm (Aes256.expandKey (Buffer.zeros 32))
    (outer [1, 2] (.context context)).inspect = (outer [3, 4] (.number 5)).inspect ∧
      (outer [1, 2] (.context context)).inspectIndented 0 =
        (outer [3, 4] (.number 5)).inspectIndented 0 ∧
      ∃ zeros ones, Family.precompute .aes256Gcm (List.replicate 32 0) = .ok zeros ∧
        Family.precompute .aes256Gcm (List.replicate 32 1) = .ok ones ∧
        zeros.inspect = ones.inspect := by
  intro inner outer context
  have same : (outer [1, 2] (.context context)).SameOutline (outer [3, 4] (.number 5)) :=
    .object <| .cons _ (.buffer rfl) <|
      .cons _ (.object (.cons _ (.external _ _) .nil)) .nil
  obtain ⟨line, lines⟩ := inspect_hides_contents.1 _ _ same
  exact ⟨line, lines 0, inspect_hides_contents.2 _ _ rfl rfl⟩

end Aead.Host
