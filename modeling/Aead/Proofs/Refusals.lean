import Aead.Proofs.Disclosure
import Aead.Proofs.RoundTrip
import Aead.Proofs.Validation

/-!
# Only validation fails

A run can fail in places where the four algorithms never do: when a key is not expanded, when a
combined function claims a wrong length, when an algorithm has no contexts or a context does not
load. The sizes of the descriptors are those that the constructions ask for, the lengths that are
claimed are those that are expected, and the contexts are those of one algorithm. What is left are
the failures of the checks on a request.

Results:

* `Request.Refused`: what can be wrong with a request.
* `Request.exists_refused_iff`: that is exactly what the checks look for.
* `dispatch_answers_checked_requests`: a request with nothing wrong has an answer, of the sizes that
  the request determines, and encryption always has a value.
* `dispatch_fails_only_in_validation`: every failure is one of the checks, and says what is wrong.
-/

namespace Aead

open Requirement

/-! ## What can be wrong -/

/-- Something is wrong with a request for an operation of the algorithm, and a failure says what. -/
inductive Request.Refused (algorithm : Algorithm) (request : Request) :
    Direction → Mode → Error → Prop
  | missingMac (h : request.mac = none) :
      Refused algorithm request .decrypt .detached (.typeMismatch "mac")
  | macLength {mac : Bytes} (h : request.mac = some mac)
      (wrong : mac.length ≠ algorithm.descriptor.tagLength) :
      Refused algorithm request .decrypt .detached
        (.lengthMismatch "mac" (.exactly algorithm.descriptor.tagLength))
  | ciphertextLength (short : request.input.length < algorithm.descriptor.tagLength) :
      Refused algorithm request .decrypt .combined
        (.lengthMismatch "ciphertext" (.atLeast algorithm.descriptor.tagLength))
  | nonceLength {direction : Direction} {mode : Mode}
      (wrong : request.nonce.length ≠ algorithm.descriptor.nonceLength) :
      Refused algorithm request direction mode
        (.lengthMismatch "nonce" (.exactly algorithm.descriptor.nonceLength))
  | keyLength {direction : Direction} {mode : Mode} {key : Bytes} (h : request.key = .raw key)
      (wrong : key.length ≠ algorithm.descriptor.keyLength) :
      Refused algorithm request direction mode
        (.lengthMismatch "key" (.exactly algorithm.descriptor.keyLength))
  | contextAlgorithm {direction : Direction} {mode : Mode} {context : Context}
      (h : request.key = .context context) (other : context.algorithm ≠ algorithm) :
      Refused algorithm request direction mode
        (.algorithmMismatch algorithm.name context.algorithm.name)

namespace Request

variable {algorithm : Algorithm} {request : Request} {direction : Direction} {mode : Mode}

theorem Refused.isRefusal {e : Error} (h : request.Refused algorithm direction mode e) :
    e.isRefusal = true := by
  cases h <;> rfl

end Request

/-! ## What the checks look for -/

namespace Provider

variable (algorithm : Algorithm)

theorem keyRequirement_raw_met_iff (key : Bytes) :
    ((standard algorithm).keyRequirement (.raw key)).met ↔
      key.length = algorithm.descriptor.keyLength :=
  decide_eq_true_iff

/-- A context of the algorithm always loads. -/
theorem keyRequirement_context_met_iff (context : Context) :
    ((standard algorithm).keyRequirement (.context context)).met ↔
      context.algorithm = algorithm := by
  rw [keyRequirement_met_iff, Algorithm.cipher?]
  constructor
  · exact algorithm.algorithm_eq_of_cipherOf?
  · rintro rfl
    cases context
    rfl

end Provider

namespace Request

variable {algorithm : Algorithm} {request : Request} {direction : Direction} {mode : Mode}

/-- A key that does not meet its requirement has a wrong length or is a context of another
algorithm. -/
theorem refused_of_keyRequirement
    (h : ¬((Provider.standard algorithm).keyRequirement request.key).met) :
    request.Refused algorithm direction mode
      ((Provider.standard algorithm).keyRequirement request.key).error := by
  cases hkey : request.key with
  | raw key =>
    rw [hkey, Provider.keyRequirement_raw_met_iff] at h
    exact .keyLength hkey h
  | context context =>
    rw [hkey, Provider.keyRequirement_context_met_iff] at h
    exact .contextAlgorithm hkey h

/-- The checks of nonce and key fail only where a request is refused. -/
theorem refused_of_nonce_or_key {e : Error}
    (h : firstFailure
      [exactLength "nonce" algorithm.descriptor.nonceLength request.nonce,
        (Provider.standard algorithm).keyRequirement request.key] = some e) :
    request.Refused algorithm direction mode e := by
  rw [firstFailure_cons, firstFailure_cons] at h
  split_ifs at h with nonce key
  · cases h
  · cases h
    exact refused_of_keyRequirement key
  · cases h
    exact .nonceLength (decide_eq_true_iff.not.1 nonce)

/-- The first check that fails says what is wrong with the request. -/
theorem refused_of_firstFailure {e : Error}
    (h : firstFailure ((Provider.standard algorithm).requirements direction mode request) =
      some e) :
    request.Refused algorithm direction mode e := by
  unfold Primitive.requirements Primitive.tagRequirements at h
  cases direction with
  | encrypt => exact refused_of_nonce_or_key h
  | decrypt =>
    cases mode with
    | combined =>
      rw [List.singleton_append, firstFailure_cons] at h
      split_ifs at h with long
      · exact refused_of_nonce_or_key h
      · cases h
        exact .ciphertextLength (Nat.lt_of_not_le (decide_eq_true_iff.not.1 long))
    | detached =>
      rw [List.cons_append, firstFailure_cons, List.singleton_append, firstFailure_cons] at h
      split_ifs at h with present exact_length
      · exact refused_of_nonce_or_key h
      · cases h
        obtain ⟨mac, hmac⟩ := Option.isSome_iff_exists.1 present
        rw [hmac] at exact_length
        exact .macLength hmac (decide_eq_true_iff.not.1 exact_length)
      · cases h
        exact .missingMac (Option.not_isSome_iff_eq_none.1 present)

/-- A refused request does not pass the checks. -/
theorem Refused.not_met {e : Error} (h : request.Refused algorithm direction mode e) :
    ∃ r ∈ (Provider.standard algorithm).requirements direction mode request, ¬r.met := by
  unfold Primitive.requirements Primitive.tagRequirements
  cases h with
  | missingMac h =>
    refine ⟨⟨request.mac.isSome, .typeMismatch "mac"⟩, by simp, ?_⟩
    rw [h]
    decide
  | macLength h wrong =>
    refine ⟨exactLength "mac" algorithm.descriptor.tagLength (request.mac.getD []), by simp, ?_⟩
    rw [h]
    exact decide_eq_true_iff.not.2 wrong
  | ciphertextLength short =>
    refine ⟨minLength "ciphertext" algorithm.descriptor.tagLength request.input, by simp, ?_⟩
    exact decide_eq_true_iff.not.2 (Nat.not_le.2 short)
  | nonceLength wrong =>
    refine ⟨exactLength "nonce" algorithm.descriptor.nonceLength request.nonce, by simp, ?_⟩
    exact decide_eq_true_iff.not.2 wrong
  | keyLength h wrong =>
    refine ⟨(Provider.standard algorithm).keyRequirement request.key, by simp, ?_⟩
    rw [h, Provider.keyRequirement_raw_met_iff]
    exact wrong
  | contextAlgorithm h other =>
    refine ⟨(Provider.standard algorithm).keyRequirement request.key, by simp, ?_⟩
    rw [h, Provider.keyRequirement_context_met_iff]
    exact other

/-- The checks find exactly the requests with something wrong. -/
theorem exists_refused_iff :
    (∃ e, request.Refused algorithm direction mode e) ↔
      ∃ e, firstFailure ((Provider.standard algorithm).requirements direction mode request) =
        some e := by
  constructor
  · rintro ⟨_, h⟩
    obtain ⟨r, mem, not_met⟩ := h.not_met
    rw [← Option.ne_none_iff_exists', Ne, firstFailure_eq_none_iff]
    exact fun met => not_met (met r mem)
  · rintro ⟨e, h⟩
    exact ⟨e, refused_of_firstFailure h⟩

end Request

/-! ## What is answered -/

/-- An answer to an operation with `n` bytes of input: encryption has a value, and a value has the
kind and the sizes of the operation. -/
structure IsAnswer (algorithm : Algorithm) (n : Nat) (direction : Direction) (mode : Mode)
    (answer : Option Output) : Prop where
  isSome_of_encrypt : direction = .encrypt → answer.isSome
  fits : ∀ out ∈ answer, out.Fits algorithm n direction mode

section Answers

variable {algorithm : Algorithm} {n : Nat} {mode : Mode}

theorem isAnswer_encrypt {out : Output} (h : out.Fits algorithm n .encrypt mode) :
    IsAnswer algorithm n .encrypt mode (some out) where
  isSome_of_encrypt _ := rfl
  fits := by
    rintro _ ⟨⟩
    exact h

/-- A message of a body answers a decryption if a message of its length does. -/
theorem isAnswer_decrypt {s : Session} {ad body mac : Bytes}
    (h : ∀ message : Bytes, message.length = body.length →
      (Output.plaintext message).Fits algorithm n .decrypt mode) :
    IsAnswer algorithm n .decrypt mode ((s.opened? ad body mac).map .plaintext) where
  isSome_of_encrypt := by
    rintro ⟨⟩
  fits := by
    intro out hout
    obtain ⟨message, opened, rfl⟩ := Option.map_eq_some_iff.1 hout
    exact h message (s.length_of_opened? opened)

end Answers

/-- A request with nothing wrong has an answer. -/
theorem dispatch_answers_checked_requests {algorithm : Algorithm} {direction : Direction}
    {mode : Mode} {request : Request}
    (h : ∀ e, ¬request.Refused algorithm direction mode e) :
    ∃ answer, dispatch algorithm direction mode request = .ok answer ∧
      IsAnswer algorithm request.input.length direction mode answer := by
  have tag_length := algorithm.tagLength_descriptor
  have hnonce : request.nonce.length = algorithm.descriptor.nonceLength := by
    by_contra wrong
    exact h _ (.nonceLength wrong)
  have hkey : (algorithm.cipher? request.key).isSome := by
    rw [← Provider.keyRequirement_met_iff]
    by_contra wrong
    exact h _ (Request.refused_of_keyRequirement wrong)
  obtain ⟨cipher, hcipher⟩ := Option.isSome_iff_exists.1 hkey
  obtain ⟨input, mac, ad, nonce, key⟩ := request
  cases direction with
  | encrypt =>
    let session := algorithm.construction.session cipher nonce
    cases mode with
    | combined =>
      have sizes : (session.sealed ad.bytes input).join.length =
          input.length + algorithm.descriptor.tagLength := by
        rw [session.length_join_sealed, tag_length]
      exact ⟨_, Provider.dispatch_encrypt_combined_eq hnonce hcipher input ad mac,
        isAnswer_encrypt (.ciphertext sizes)⟩
    | detached =>
      have body_length := session.length_ciphertext_sealed ad.bytes input
      have mac_length := (session.length_mac_sealed ad.bytes input).trans tag_length.symm
      exact ⟨_, Provider.dispatch_encrypt_detached_eq hnonce hcipher input ad mac,
        isAnswer_encrypt (.parts body_length mac_length)⟩
  | decrypt =>
    cases mode with
    | combined =>
      have long : algorithm.descriptor.tagLength ≤ input.length := by
        by_contra short
        exact h _ (.ciphertextLength (Nat.lt_of_not_le short))
      obtain ⟨body, own, rfl, hown⟩ := exists_append_mac (tag_length ▸ long)
      refine ⟨_, Provider.dispatch_decrypt_combined_eq hnonce hcipher body hown ad mac,
        isAnswer_decrypt fun message hmessage => .plaintext ?_⟩
      rw [List.length_append, hown, tag_length, Nat.add_sub_cancel, hmessage]
    | detached =>
      obtain ⟨own, rfl⟩ : ∃ own, mac = some own := by
        by_contra missing
        exact h _ (.missingMac (Option.eq_none_iff_forall_ne_some.2 (not_exists.1 missing)))
      have hown : own.length = algorithm.descriptor.tagLength := by
        by_contra wrong
        exact h _ (.macLength rfl wrong)
      exact ⟨_, Provider.dispatch_decrypt_detached_eq hnonce hcipher input
          (hown.trans tag_length) ad,
        isAnswer_decrypt fun _ hmessage => .message hmessage⟩

/-! ## Failures -/

/-- **Only validation fails.** For every algorithm, operation and request: a failure is that of a
check and says what is wrong with the request, and whenever something is wrong there is a failure.
Otherwise there is an answer: a value for encryption, a value or none for decryption, and a value
has the sizes that the request determines. So no key fails to expand, no context to load, and no
combined function claims a wrong length. -/
theorem dispatch_fails_only_in_validation (algorithm : Algorithm) (direction : Direction)
    (mode : Mode) (request : Request) :
    (∀ e, dispatch algorithm direction mode request = .error e →
      request.Refused algorithm direction mode e ∧ e.isRefusal = true) ∧
    ((∃ e, request.Refused algorithm direction mode e) →
      ∃ e, dispatch algorithm direction mode request = .error e) ∧
    ((∀ e, ¬request.Refused algorithm direction mode e) →
      ∃ answer, dispatch algorithm direction mode request = .ok answer ∧
        IsAnswer algorithm request.input.length direction mode answer) := by
  have failure {e : Error}
      (h : firstFailure ((Provider.standard algorithm).requirements direction mode request) =
        some e) :
      dispatch algorithm direction mode request = .error e := by
    unfold dispatch
    rw [Primitive.run_of_failure _ h]
    rfl
  refine ⟨fun e he => ?_, fun h => ?_, dispatch_answers_checked_requests⟩
  · by_cases wrong : ∃ e, request.Refused algorithm direction mode e
    · -- Some check fails, and the first that does is the failure at hand.
      obtain ⟨first, hfirst⟩ := Request.exists_refused_iff.1 wrong
      rw [failure hfirst, Except.error.injEq] at he
      have refused := Request.refused_of_firstFailure (he ▸ hfirst)
      exact ⟨refused, refused.isRefusal⟩
    · obtain ⟨answer, ok, -⟩ := dispatch_answers_checked_requests (not_exists.1 wrong)
      rw [ok] at he
      cases he
  · obtain ⟨e, he⟩ := Request.exists_refused_iff.1 h
    exact ⟨e, failure he⟩

/-- A context of AES-256-GCM is refused by another algorithm, and 16 bytes under a key of zeros have
an answer. -/
theorem dispatch_fails_only_in_validation_of_context :
    let context : Context := .aes256Gcm (Aes256.expandKey (Buffer.zeros 32))
    let foreign : Request := ⟨[1], none, .absent, List.replicate 8 0, .context context⟩
    let sound : Request :=
      ⟨List.replicate 16 0, none, .absent, List.replicate 12 0, .raw (List.replicate 32 0)⟩
    (∃ e, dispatch .chacha20Poly1305 .encrypt .detached foreign = .error e) ∧
      ∃ answer, dispatch .aes256Gcm .decrypt .combined sound = .ok answer := by
  intro context foreign sound
  have wrong : foreign.Refused .chacha20Poly1305 .encrypt .detached
      (.algorithmMismatch "chacha20poly1305" "aes256gcm") :=
    .contextAlgorithm rfl (by decide)
  have nothing_wrong : ∀ e, ¬sound.Refused .aes256Gcm .decrypt .combined e := by
    intro e h
    cases h with
    | ciphertextLength short => exact absurd short (by decide)
    | nonceLength wrong => exact wrong rfl
    | keyLength h wrong =>
      cases h
      exact wrong rfl
    | contextAlgorithm h other => cases h
  obtain ⟨-, refused, -⟩ :=
    dispatch_fails_only_in_validation .chacha20Poly1305 .encrypt .detached foreign
  obtain ⟨-, -, answered⟩ := dispatch_fails_only_in_validation .aes256Gcm .decrypt .combined sound
  obtain ⟨answer, ok, -⟩ := answered nothing_wrong
  exact ⟨refused ⟨_, wrong⟩, answer, ok⟩

end Aead
