import Aead.Proofs.ContextProtocol
import Aead.Proofs.Disclosure
import Aead.Proofs.HostRoundTrip

/-!
# Calls that differ in contents alone

A failure tells the caller why. It should tell nothing of a key, a message or a tag, so a caller who
changes the contents of its arguments, and neither their kinds nor the lengths of buffers, must get
the same failure again. Two such calls are run here side by side. At every step both fail in the
same way, or both go on with data that again differ in contents alone; in the end both are answered,
and only decryption may answer the two differently: it refuses one message and accepts another.

Results:

* `agree_requestOf`: two lists of arguments that are alike are refused alike, or are requests that
  are alike.
* `Provider.agree_dispatch`: two requests that are alike fail alike, or have answers of the same
  sizes.
* `Surface.call_fails_alike`: so it is for every function of a surface.
-/

namespace Aead

/-! ## Two runs side by side -/

/-- Both fail in the same way, or both give results that are related. -/
inductive Agree {α β : Type} (R : α → β → Prop) : Except Error α → Except Error β → Prop
  | error (e : Error) : Agree R (.error e) (.error e)
  | ok {a : α} {b : β} (related : R a b) : Agree R (.ok a) (.ok b)

namespace Agree

variable {α β γ δ : Type} {R : α → β → Prop} {S : γ → δ → Prop} {x : Except Error α}
  {y : Except Error β}

protected theorem bind {f : α → Except Error γ} {g : β → Except Error δ} (h : Agree R x y)
    (hfg : ∀ a b, R a b → Agree S (f a) (g b)) : Agree S (x >>= f) (y >>= g) := by
  cases h with
  | error e => exact .error e
  | ok related => exact hfg _ _ related

protected theorem map {f : α → γ} {g : β → δ} (h : Agree R x y)
    (hfg : ∀ a b, R a b → S (f a) (g b)) : Agree S (f <$> x) (g <$> y) := by
  cases h with
  | error e => exact .error e
  | ok related => exact .ok (hfg _ _ related)

protected theorem refl (x : Except Error α) : Agree Eq x x := by
  cases x with
  | error e => exact .error e
  | ok a => exact .ok rfl

theorem error_iff (h : Agree R x y) (e : Error) : x = .error e ↔ y = .error e := by
  cases h with
  | error e' => simp
  | ok related => simp

theorem related_of_ok (h : Agree R x y) {a : α} {b : β} (hx : x = .ok a) (hy : y = .ok b) :
    R a b := by
  subst hx hy
  cases h with
  | ok related => exact related

end Agree

/-! ## Requests -/

/-- Two keys of one length, or two contexts. -/
inductive KeyInput.Alike : KeyInput → KeyInput → Prop
  | raw {key key' : Bytes} (h : key.length = key'.length) : Alike (.raw key) (.raw key')
  | context (context context' : Context) : Alike (.context context) (.context context')

/-- Two requests with `n` bytes of input that differ in contents alone. -/
structure Request.Alike (n : Nat) (request request' : Request) : Prop where
  input : request.input.length = n
  input' : request'.input.length = n
  mac : request.mac.map List.length = request'.mac.map List.length
  nonce : request.nonce.length = request'.nonce.length
  key : request.key.Alike request'.key

theorem Requirement.exactLength_congr {bytes bytes' : Bytes} (h : bytes.length = bytes'.length)
    (argument : String) (n : Nat) :
    exactLength argument n bytes = exactLength argument n bytes' := by
  unfold exactLength
  rw [h]

open Requirement

theorem Primitive.tagRequirements_congr (algorithm : Algorithm) (direction : Direction)
    (mode : Mode) {n : Nat} {request request' : Request} (alike : request.Alike n request') :
    tagRequirements algorithm direction mode request =
      tagRequirements algorithm direction mode request' := by
  cases direction with
  | encrypt => rfl
  | decrypt =>
    cases mode with
    | combined =>
      unfold tagRequirements minLength
      rw [alike.input, alike.input']
    | detached =>
      have given : request.mac.isSome = request'.mac.isSome := by
        rw [← Option.isSome_map, alike.mac, Option.isSome_map]
      have length : (request.mac.getD []).length = (request'.mac.getD []).length := by
        rw [← Option.getD_map List.length, ← Option.getD_map List.length, alike.mac]
      unfold tagRequirements
      rw [given, exactLength_congr length]

namespace Provider

variable {algorithm : Algorithm}

/-- All contexts are of one algorithm, so either is accepted if the other is. -/
theorem keyRequirement_congr {key key' : KeyInput} (alike : key.Alike key') :
    (standard algorithm).keyRequirement key = (standard algorithm).keyRequirement key' := by
  cases alike with
  | raw h => exact exactLength_congr h _ _
  | context context context' =>
    cases context
    cases context'
    cases algorithm <;> rfl

/-- A requirement looks at lengths, and at what a context is for. -/
theorem requirements_congr (direction : Direction) (mode : Mode) {n : Nat}
    {request request' : Request} (alike : request.Alike n request') :
    (standard algorithm).requirements direction mode request =
      (standard algorithm).requirements direction mode request' := by
  unfold Primitive.requirements
  rw [Primitive.tagRequirements_congr algorithm direction mode alike,
    exactLength_congr alike.nonce, keyRequirement_congr alike.key]

/-- What an operation with `n` bytes of input may answer: an output of its sizes or, if it decrypts,
nothing. -/
inductive Answers (algorithm : Algorithm) (n : Nat) : Direction → Mode → Option Output → Prop
  | accepted {direction : Direction} {mode : Mode} {output : Output}
      (fits : output.Fits algorithm n direction mode) :
      Answers algorithm n direction mode (some output)
  | refused (mode : Mode) : Answers algorithm n .decrypt mode none

theorem answers_map_plaintext {n : Nat} {mode : Mode} {message? : Option Bytes}
    (h : ∀ message, message? = some message →
      (Output.plaintext message).Fits algorithm n .decrypt mode) :
    Answers algorithm n .decrypt mode (message?.map .plaintext) := by
  cases message? with
  | none => exact .refused mode
  | some message => exact .accepted (h message rfl)

section Valid

variable {nonce : Bytes} {key : KeyInput} {cipher : algorithm.construction.Cipher}
  (hnonce : nonce.length = algorithm.descriptor.nonceLength)
  (hcipher : algorithm.cipher? key = some cipher) (input : Bytes) (ad : AssociatedData)
include hnonce hcipher

theorem exists_answers_encrypt (mode : Mode) (mac : Option Bytes) :
    ∃ output, dispatch algorithm .encrypt mode ⟨input, mac, ad, nonce, key⟩ = .ok output ∧
      Answers algorithm input.length .encrypt mode output := by
  let session := algorithm.construction.session cipher nonce
  have tag := algorithm.tagLength_descriptor
  cases mode with
  | combined =>
    have length : (session.sealed ad.bytes input).join.length =
        input.length + algorithm.descriptor.tagLength := by
      rw [session.length_join_sealed, tag]
    exact ⟨_, dispatch_encrypt_combined_eq hnonce hcipher input ad mac,
      .accepted (.ciphertext length)⟩
  | detached =>
    have hbody := session.length_ciphertext_sealed ad.bytes input
    have hmac := (session.length_mac_sealed ad.bytes input).trans tag.symm
    exact ⟨_, dispatch_encrypt_detached_eq hnonce hcipher input ad mac,
      .accepted (.parts hbody hmac)⟩

theorem exists_answers_decrypt_combined (mac : Option Bytes) (long : tagLength ≤ input.length) :
    ∃ output, dispatch algorithm .decrypt .combined ⟨input, mac, ad, nonce, key⟩ = .ok output ∧
      Answers algorithm input.length .decrypt .combined output := by
  let session := algorithm.construction.session cipher nonce
  have tag := algorithm.tagLength_descriptor
  obtain ⟨body, tagBytes, rfl, hmac⟩ := exists_append_mac long
  refine ⟨(session.opened? ad.bytes body tagBytes).map .plaintext,
    dispatch_decrypt_combined_eq hnonce hcipher body hmac ad mac,
    answers_map_plaintext fun message opened => .plaintext ?_⟩
  rw [session.length_of_opened? opened, List.length_append, hmac, tag]
  omega

theorem exists_answers_decrypt_detached {mac : Bytes} (hmac : mac.length = tagLength) :
    ∃ output, dispatch algorithm .decrypt .detached ⟨input, some mac, ad, nonce, key⟩ =
        .ok output ∧
      Answers algorithm input.length .decrypt .detached output := by
  let session := algorithm.construction.session cipher nonce
  exact ⟨(session.opened? ad.bytes input mac).map .plaintext,
    dispatch_decrypt_detached_eq hnonce hcipher input hmac ad,
    answers_map_plaintext fun message opened => .message (session.length_of_opened? opened)⟩

end Valid

/-- A request that meets its requirements is answered. -/
theorem exists_answers {direction : Direction} {mode : Mode} {request : Request}
    (valid : firstFailure ((standard algorithm).requirements direction mode request) = none) :
    ∃ output, dispatch algorithm direction mode request = .ok output ∧
      Answers algorithm request.input.length direction mode output := by
  have met := firstFailure_eq_none_iff.1 valid
  unfold Primitive.requirements at met
  have hnonce : request.nonce.length = algorithm.descriptor.nonceLength :=
    of_decide_eq_true (met (exactLength "nonce" _ request.nonce) (by simp))
  obtain ⟨cipher, hcipher⟩ := Option.isSome_iff_exists.1 <|
    (keyRequirement_met_iff request.key).1 (met ((standard algorithm).keyRequirement _) (by simp))
  have tag := algorithm.tagLength_descriptor
  obtain ⟨input, mac, ad, nonce, key⟩ := request
  cases direction with
  | encrypt => exact exists_answers_encrypt hnonce hcipher input ad mode mac
  | decrypt =>
    cases mode with
    | combined =>
      have long : tagLength ≤ input.length := by
        rw [← tag]
        exact of_decide_eq_true
          (met (minLength "ciphertext" _ input) (by simp [Primitive.tagRequirements]))
      exact exists_answers_decrypt_combined hnonce hcipher input ad mac long
    | detached =>
      have given : mac.isSome :=
        met ⟨mac.isSome, .typeMismatch "mac"⟩ (by simp [Primitive.tagRequirements])
      obtain ⟨mac, rfl⟩ := Option.isSome_iff_exists.1 given
      have hmac : mac.length = tagLength := by
        rw [← tag]
        exact of_decide_eq_true
          (met (exactLength "mac" _ mac) (by simp [Primitive.tagRequirements]))
      exact exists_answers_decrypt_detached hnonce hcipher input ad hmac

/-- Two requests that are alike fail alike, or have answers of the same sizes. -/
theorem agree_dispatch (direction : Direction) (mode : Mode) {n : Nat}
    {request request' : Request} (alike : request.Alike n request') :
    Agree (fun output output' => Answers algorithm n direction mode output ∧
        Answers algorithm n direction mode output')
      (dispatch algorithm direction mode request)
      (dispatch algorithm direction mode request') := by
  -- The two lists of requirements are one list, so its first failure is that of both requests.
  have same : (standard algorithm).requirements direction mode request =
      (standard algorithm).requirements direction mode request' := requirements_congr _ _ alike
  cases failure : firstFailure ((standard algorithm).requirements direction mode request) with
  | some e =>
    have failed := Primitive.run_of_failure _ failure
    have failed' := Primitive.run_of_failure _ (same ▸ failure)
    unfold dispatch
    rw [failed, failed']
    exact .error e
  | none =>
    obtain ⟨output, answered, fits⟩ := exists_answers failure
    obtain ⟨output', answered', fits'⟩ := exists_answers (same ▸ failure)
    rw [alike.input] at fits
    rw [alike.input'] at fits'
    rw [answered, answered']
    exact .ok ⟨fits, fits'⟩

/-- Two keys of one length are refused alike, or both have a context. -/
theorem agree_precompute {key key' : Bytes} (same : key.length = key'.length) :
    Agree (fun _ _ => True) (answer ((standard algorithm).precompute key))
      (answer ((standard algorithm).precompute key')) := by
  cases supported : algorithm.descriptor.supportsPrecompute with
  | false =>
    have refused := (standard algorithm).precompute_of_not_supported supported
    rw [refused, refused]
    exact .error _
  | true =>
    by_cases hkey : key.length = algorithm.descriptor.keyLength
    · -- A key of the right length is never refused, whatever its bytes.
      have exists_context : ∀ k : Bytes, k.length = algorithm.descriptor.keyLength →
          ∃ context, (standard algorithm).precompute k = pure context := by
        intro k hk
        obtain ⟨cipher, hcipher⟩ :=
          algorithm.exists_cipher (hk.trans algorithm.keyLength_descriptor)
        obtain ⟨context, precomputed, -⟩ := exists_precompute supported hcipher
        exact ⟨context, precomputed⟩
      obtain ⟨context, precomputed⟩ := exists_context key hkey
      obtain ⟨context', precomputed'⟩ := exists_context key' (same ▸ hkey)
      rw [precomputed, precomputed']
      exact .ok trivial
    · have refused := (standard algorithm).precompute_of_length_ne supported hkey
      have refused' := (standard algorithm).precompute_of_length_ne supported (same ▸ hkey)
      rw [refused, refused']
      exact .error _

end Provider

namespace Host

/-! ## Arguments -/

/-- Two values that differ in contents alone: they are of one kind, buffers of one length, and
native handles that both hold a context or both hold something else. -/
inductive Value.Alike : Value → Value → Prop
  | undefined : Alike .undefined .undefined
  | null : Alike .null .null
  | bool (b b' : Bool) : Alike (.bool b) (.bool b')
  | number (x x' : Number) : Alike (.number x) (.number x')
  | string (s s' : String) : Alike (.string s) (.string s')
  | buffer {bytes bytes' : Bytes} (h : bytes.length = bytes'.length) :
      Alike (.buffer bytes) (.buffer bytes')
  | object (fields fields' : List (String × Value)) : Alike (.object fields) (.object fields')
  | external {handle handle' : Handle} (h : handle.context?.isSome = handle'.context?.isSome) :
      Alike (.external handle) (.external handle')

/-- The number of bytes of a buffer, and zero of another value. -/
def Value.bufferLength (value : Value) : Nat :=
  value.asBytes?.elim 0 List.length

/-- The numbers of bytes of the arguments. -/
def Arguments.lengths (args : Arguments) : List Nat :=
  args.map Value.bufferLength

theorem bufferLength_value_zero (args : Arguments) :
    (args.value 0).bufferLength = args.lengths.headD 0 := by
  cases args <;> rfl

section Reading

variable {value value' : Value} (alike : value.Alike value')
include alike

theorem Value.Alike.isSome_context?_eq :
    (value.asHandle?.bind Handle.context?).isSome =
      (value'.asHandle?.bind Handle.context?).isSome := by
  cases alike with
  | external h => exact h
  | _ => rfl

theorem agree_requireBuffer (argument : String) :
    Agree (fun bytes bytes' =>
        bytes.length = value.bufferLength ∧ bytes'.length = value.bufferLength)
      (value.requireBuffer argument .any) (value'.requireBuffer argument .any) := by
  cases alike with
  | buffer h => exact .ok ⟨rfl, h.symm⟩
  | _ => exact .error _

theorem agree_optionalBuffer (argument : String) :
    Agree (fun _ _ => True) (value.optionalBuffer argument) (value'.optionalBuffer argument) := by
  cases alike with
  | undefined | null | buffer => exact .ok trivial
  | _ => exact .error _

end Reading

section Arguments

variable {args args' : Arguments} (alike : List.Forall₂ Value.Alike args args')
include alike

/-- An argument that was not passed is undefined in both lists. -/
theorem alike_value (index : Nat) : (args.value index).Alike (args'.value index) := by
  induction alike generalizing index with
  | nil => exact .undefined
  | cons head _ ih =>
    cases index with
    | zero => exact head
    | succ index => exact ih index

theorem agree_buffer (index : Nat) (argument : String) :
    Agree (fun bytes bytes' => bytes.length = (args.value index).bufferLength ∧
        bytes'.length = (args.value index).bufferLength)
      (args.buffer index argument .any) (args'.buffer index argument .any) :=
  agree_requireBuffer (alike_value alike index) argument

theorem agree_external (index : Nat) (argument : String) :
    Agree (fun _ _ => True) (args.external index argument Handle.context?)
      (args'.external index argument Handle.context?) := by
  have both := (alike_value alike index).isSome_context?_eq
  unfold Arguments.external
  cases held : (args.value index).asHandle?.bind Handle.context? <;>
    cases held' : (args'.value index).asHandle?.bind Handle.context?
  case none.none => exact .error _
  case some.some => exact .ok trivial
  all_goals
    rw [held, held'] at both
    cases both

theorem agree_macArgument (op : Operation) :
    Agree (fun mac mac' => mac.map List.length = mac'.map List.length) (macArgument op args)
      (macArgument op args') := by
  unfold macArgument
  split_ifs
  · refine (agree_buffer alike 1 "mac").map fun mac mac' ⟨h, h'⟩ => ?_
    exact congrArg some (h.trans h'.symm)
  · exact .ok rfl

theorem agree_keyArgument (strategy : KeyStrategy) (index : Nat) :
    Agree KeyInput.Alike (keyArgument strategy args index) (keyArgument strategy args' index) := by
  cases strategy with
  | rawKey =>
    exact (agree_buffer alike index _).map fun key key' ⟨h, h'⟩ => .raw (h.trans h'.symm)
  | precomputed =>
    exact (agree_external alike index _).map fun first second _ => .context first second

/-- Two lists of arguments that are alike are refused alike, or are requests that are alike. -/
theorem agree_requestOf (op : Operation) :
    Agree (Request.Alike (args.lengths.headD 0)) (requestOf op args) (requestOf op args') := by
  unfold requestOf
  refine (agree_buffer alike 0 _).bind fun input input' ⟨hinput, hinput'⟩ => ?_
  refine (agree_macArgument alike op).bind fun mac mac' hmac => ?_
  refine (agree_optionalBuffer (alike_value alike _) _).bind fun ad ad' _ => ?_
  refine (agree_buffer alike _ _).bind fun nonce nonce' ⟨hnonce, hnonce'⟩ => ?_
  refine (agree_keyArgument alike op.key _).bind fun key key' hkey => ?_
  rw [bufferLength_value_zero] at hinput hinput'
  exact .ok ⟨hinput, hinput', hmac, hnonce.trans hnonce'.symm, hkey⟩

/-- Only the number of arguments decides whether there are enough. -/
theorem agree_requireArity (names : List String) :
    Agree Eq (requireArity names args) (requireArity names args') := by
  unfold requireArity
  rw [alike.length_eq]
  exact .refl _

theorem agree_prepare (algorithm : Algorithm) (op : Operation) (gated : Bool) :
    Agree (Request.Alike (args.lengths.headD 0)) (prepare algorithm op gated args)
      (prepare algorithm op gated args') := by
  unfold prepare
  refine (agree_requireArity alike _).bind fun _ _ _ => ?_
  refine (Agree.refl (requireOpen algorithm gated)).bind fun _ _ _ => ?_
  exact agree_requestOf alike op

end Arguments

/-! ## Answers -/

/-- The number of bytes that decryption gives back. -/
def openedLength (algorithm : Algorithm) (mode : Mode) (lengths : List Nat) : Nat :=
  match mode with
  | .combined => lengths.headD 0 - algorithm.descriptor.tagLength
  | .detached => lengths.headD 0

/-- Decryption refuses by undefined, and accepts with a buffer of a length known beforehand. -/
def IsOpened (algorithm : Algorithm) (mode : Mode) (lengths : List Nat) (value : Value) : Prop :=
  value = .undefined ∨
    ∃ bytes, value = .buffer bytes ∧ bytes.length = openedLength algorithm mode lengths

/-- How two answers of a function compare, to arguments that are alike and have the given lengths.
Encryption answers both calls with values that are alike, field by field where they are objects. -/
def Entry.AnswersAlike (lengths : List Nat) : Entry → Value → Value → Prop
  | .probe available, value, value' => value = .bool available ∧ value' = .bool available
  | .operation algorithm op _, value, value' =>
    match op.direction with
    | .encrypt =>
      value.Alike value' ∧ ∀ field, Option.Rel Value.Alike (value.get? field) (value'.get? field)
    | .decrypt =>
      IsOpened algorithm op.mode lengths value ∧ IsOpened algorithm op.mode lengths value'
  | .precompute _ _, value, value' => value.Alike value'

/-- Objects with alike values under the same names have alike fields. -/
theorem rel_get?_object {fields fields' : List (String × Value)}
    (h : List.Forall₂ (fun a b => a.1 = b.1 ∧ a.2.Alike b.2) fields fields') (field : String) :
    Option.Rel Value.Alike ((Value.object fields).get? field)
      ((Value.object fields').get? field) := by
  unfold Value.get?
  induction h with
  | nil => exact .none
  | @cons first first' _ _ head _ ih =>
    obtain ⟨name, value⟩ := first
    obtain ⟨name', value'⟩ := first'
    obtain ⟨rfl, alike⟩ := head
    dsimp only at ih ⊢
    rw [List.lookup_cons, List.lookup_cons]
    cases field == name with
    | true => exact .some alike
    | false => exact ih

section Answers

variable {algorithm : Algorithm} {n : Nat} {mode : Mode} {output output' : Option Output}

theorem alike_valueOf (h : Provider.Answers algorithm n .encrypt mode output)
    (h' : Provider.Answers algorithm n .encrypt mode output') :
    (valueOf output).Alike (valueOf output') ∧
      ∀ field, Option.Rel Value.Alike ((valueOf output).get? field)
        ((valueOf output').get? field) := by
  -- Encryption is never refused, and the mode settles the kind of the output.
  obtain @⟨_, _, _, fits⟩ := h
  obtain @⟨_, _, _, fits'⟩ := h'
  cases fits with
  | ciphertext length =>
    cases fits' with
    | ciphertext length' => exact ⟨.buffer (length.trans length'.symm), fun field => .none⟩
  | parts hbody hmac =>
    cases fits' with
    | parts hbody' hmac' =>
      exact ⟨.object _ _, rel_get?_object <|
        .cons ⟨rfl, .buffer (hbody.trans hbody'.symm)⟩
          (.cons ⟨rfl, .buffer (hmac.trans hmac'.symm)⟩ .nil)⟩

theorem isOpened_valueOf {lengths : List Nat}
    (h : Provider.Answers algorithm (lengths.headD 0) .decrypt mode output) :
    IsOpened algorithm mode lengths (valueOf output) := by
  cases h with
  | refused => exact .inl rfl
  | accepted fits =>
    right
    cases fits with
    | plaintext length => exact ⟨_, rfl, length⟩
    | message length => exact ⟨_, rfl, length⟩

end Answers

/-! ## Calls -/

section Calls

variable {args args' : Arguments} (alike : List.Forall₂ Value.Alike args args')

theorem answer_call_operation (algorithm : Algorithm) (op : Operation) (gated : Bool)
    (args : Arguments) :
    answer (Entry.call Provider.standard args (.operation algorithm op gated)) =
      prepare algorithm op gated args >>= fun request =>
        valueOf <$> dispatch algorithm op.direction op.mode request := by
  rw [Entry.call_operation, answer_lift_bind]
  simp only [answer_map]
  rfl

theorem answer_call_precompute (algorithm : Algorithm) (gated : Bool) (args : Arguments) :
    answer (Entry.call Provider.standard args (.precompute algorithm gated)) = (do
      requireArity ["key"] args
      requireOpen algorithm gated
      let key ← args.buffer 0 "key" .any
      (fun context => .external (.context context)) <$>
        answer ((Provider.standard algorithm).precompute key)) := by
  unfold Entry.call
  simp only [answer_lift_bind, answer_map]

include alike

/-- A function answers both calls or fails both of them in the same way. -/
theorem Entry.agree_call (entry : Entry) :
    Agree (entry.AnswersAlike args.lengths) (answer (entry.call Provider.standard args))
      (answer (entry.call Provider.standard args')) := by
  cases entry with
  | probe available => exact .ok ⟨rfl, rfl⟩
  | operation algorithm op gated =>
    rw [answer_call_operation, answer_call_operation]
    refine (agree_prepare alike algorithm op gated).bind fun request request' requests => ?_
    refine (Provider.agree_dispatch op.direction op.mode requests).map fun output output' => ?_
    rintro ⟨answers, answers'⟩
    obtain ⟨direction, mode, key⟩ := op
    cases direction with
    | encrypt => exact alike_valueOf answers answers'
    | decrypt => exact ⟨isOpened_valueOf answers, isOpened_valueOf answers'⟩
  | precompute algorithm gated =>
    rw [answer_call_precompute, answer_call_precompute]
    refine (agree_requireArity alike _).bind fun _ _ _ => ?_
    refine (Agree.refl (requireOpen algorithm gated)).bind fun _ _ _ => ?_
    refine (agree_buffer alike 0 "key").bind fun key key' ⟨hkey, hkey'⟩ => ?_
    refine (Provider.agree_precompute (hkey.trans hkey'.symm)).map fun context context' _ => ?_
    exact .external rfl

/-- **Failures tell nothing of contents.** Two calls of one name, with arguments that differ in
contents alone, fail in the same way or are both answered. If they are answered, the answers compare
as the function says: encryption and the expansion of keys give values that are alike, and each call
of decryption is refused or gives a buffer whose length the lengths of the arguments fix. -/
theorem Surface.call_fails_alike (surface : Surface) (name : String) :
    (∀ e, surface.call name args = .error e ↔ surface.call name args' = .error e) ∧
    ∀ value value', surface.call name args = .ok value → surface.call name args' = .ok value' →
      ∃ entry, surface.functions.find? name = some entry ∧
        entry.AnswersAlike args.lengths value value' := by
  unfold Surface.call Surface.callOn
  cases found : surface.functions.find? name with
  | none =>
    refine ⟨fun e => Iff.rfl, fun value value' answered => ?_⟩
    cases answered
  | some entry =>
    have agree := entry.agree_call alike
    exact ⟨agree.error_iff, fun value value' answered answered' =>
      ⟨entry, rfl, agree.related_of_ok answered answered'⟩⟩

end Calls

/-- A ciphertext that opens under the key of zeros: under another key it is refused, or gives three
bytes, and a short nonce is the same failure under both keys. -/
theorem Surface.call_fails_alike_of_two_keys :
    let surface := register {} .chacha20Poly1305Ietf {} false
    let name := "crypto_aead_chacha20poly1305_ietf_decrypt"
    let sealed : Bytes :=
      [158, 5, 228, 126, 112, 123, 27, 50, 230, 112, 173, 70, 185, 155, 48, 110, 186, 94, 185]
    let args := fun nonce key => [Value.buffer sealed, .null, .buffer nonce, .buffer key]
    let key : Bytes := List.replicate 32 0
    let key' : Bytes := List.replicate 32 1
    let nonce : Bytes := List.replicate 12 0
    List.Forall₂ Value.Alike (args nonce key) (args nonce key') ∧
      surface.call name (args nonce key) = .ok (.buffer [1, 2, 3]) ∧
      (∃ value, surface.call name (args nonce key') = .ok value ∧
        (value = .undefined ∨ ∃ bytes, value = .buffer bytes ∧ bytes.length = 3)) ∧
      surface.call name (args [4] key') = .error (.lengthMismatch "nonce" (.exactly 12)) := by
  intro surface name sealed args key key' nonce
  let op : Operation := ⟨.decrypt, .combined, .rawKey⟩
  have found : surface.functions.find? name = some (.operation .chacha20Poly1305Ietf op false) := by
    decide +kernel
  have called : ∀ nonce key, surface.call name (args nonce key) =
      valueOf <$> dispatch .chacha20Poly1305Ietf .decrypt .combined
        ⟨sealed, none, .absent, nonce, .raw key⟩ := fun nonce key =>
    call_of_denotes found (.withoutMac rfl sealed nonce .null (.raw key) [])
  have alike : ∀ nonce, List.Forall₂ Value.Alike (args nonce key) (args nonce key') := fun nonce =>
    .cons (.buffer rfl) (.cons .null (.cons (.buffer rfl) (.cons (.buffer rfl) .nil)))
  have opened : surface.call name (args nonce key) = .ok (.buffer [1, 2, 3]) := by
    have dispatched : dispatch .chacha20Poly1305Ietf .decrypt .combined
        ⟨sealed, none, .absent, nonce, .raw key⟩ = .ok (some (.plaintext [1, 2, 3])) := by
      decide +kernel
    rw [called, dispatched]
    rfl
  have short : surface.call name (args [4] key) =
      .error (.lengthMismatch "nonce" (.exactly 12)) := by
    rw [called]
    rfl
  obtain ⟨fails_alike, answers_alike⟩ := call_fails_alike (alike nonce) surface name
  refine ⟨alike nonce, opened, ?_, ((call_fails_alike (alike [4]) surface name).1 _).1 short⟩
  cases answered : surface.call name (args nonce key') with
  | error e =>
    have failed := (fails_alike e).2 answered
    rw [opened] at failed
    cases failed
  | ok value =>
    obtain ⟨entry, found', answers⟩ := answers_alike _ _ opened answered
    cases found.symm.trans found'
    exact ⟨value, rfl, answers.2⟩

end Host

end Aead
