import Aead.Proofs.RoundTrip

/-!
# A context stands for its key

A call takes a cipher from its key: from the key itself by expanding it, or from a context that
already holds it. Nothing else of the key reaches the primitive, so two keys that give one cipher
may be exchanged for each other in every request, and what is encrypted under one of them is
decrypted under the other.

Results:

* `Primitive.run_with_key`: for every primitive, two keys that give one cipher give one run.
* `Provider.exists_precompute`: a key of the right length always has a context, and the context
  gives the cipher of the key.
* `Provider.run_context_eq_run_raw`: under a context every request has the answer that it has under
  the key, and either of them decrypts what the other encrypted.
-/

namespace Aead

namespace Primitive

open Requirement

variable {m : Type → Type} [Monad m] {algorithm : Algorithm} (p : Primitive m algorithm)

/-- The call does not look at the key again. -/
theorem perform_with_key (direction : Direction) (mode : Mode) (request : Request) (key : KeyInput)
    (cipher : p.Cipher) :
    p.perform direction mode { request with key } cipher =
      p.perform direction mode request cipher := by
  cases direction <;> cases mode <;> rfl

theorem tagRequirements_with_key (direction : Direction) (mode : Mode) (request : Request)
    (key : KeyInput) :
    tagRequirements algorithm direction mode { request with key } =
      tagRequirements algorithm direction mode request := by
  cases direction <;> cases mode <;> rfl

theorem precompute_of_not_supported (h : algorithm.descriptor.supportsPrecompute = false)
    (key : Bytes) : p.precompute key = throw (.unsupportedAlgorithm algorithm.name) := by
  unfold precompute
  rw [h]
  rfl

variable [LawfulMonad m]

/-- A key that meets its requirement leaves the other requirements to be checked. -/
theorem run_of_key_met {key : KeyInput} (met : (p.keyRequirement key).met) (direction : Direction)
    (mode : Mode) (request : Request) :
    p.run direction mode { request with key } =
      guarded (tagRequirements algorithm direction mode request)
        (guarded [exactLength "nonce" algorithm.descriptor.nonceLength request.nonce]
          (p.obtainCipher key >>= p.perform direction mode request)) := by
  have called : p.perform direction mode { request with key } =
      p.perform direction mode request := by
    funext cipher
    exact p.perform_with_key direction mode request key cipher
  rw [run_eq, called]
  -- The requirement of the key is the last one, so the others keep their order without it.
  unfold requirements
  rw [tagRequirements_with_key, guarded_append, guarded_cons, guarded_cons_of_met met, guarded_nil,
    guarded_cons, guarded_nil]

/-- Two keys that give one cipher give one run. -/
theorem run_with_key {key key' : KeyInput} (met : (p.keyRequirement key).met)
    (met' : (p.keyRequirement key').met) (same : p.obtainCipher key = p.obtainCipher key')
    (direction : Direction) (mode : Mode) (request : Request) :
    p.run direction mode { request with key } =
      p.run direction mode { request with key := key' } := by
  rw [p.run_of_key_met met, p.run_of_key_met met', same]

/-- Precomputation checks the key, expands it and stores the cipher. -/
theorem precompute_eq (supported : algorithm.descriptor.supportsPrecompute = true) (key : Bytes) :
    p.precompute key =
      guarded [exactLength "key" algorithm.descriptor.keyLength key]
        (p.expandKey key >>= fun cipher =>
          (p.store cipher).elim (throw (.unsupportedAlgorithm algorithm.name)) pure) := by
  unfold precompute
  rw [if_pos supported, lift_check_exact_bind]
  congr 2
  funext cipher
  cases p.store cipher <;> rfl

theorem precompute_of_met (supported : algorithm.descriptor.supportsPrecompute = true)
    {key : Bytes} (met : (p.keyRequirement (.raw key)).met) {cipher : p.Cipher}
    (expanded : p.expandKey key = pure cipher) {context : Context}
    (stored : p.store cipher = some context) : p.precompute key = pure context := by
  have key_met : (exactLength "key" algorithm.descriptor.keyLength key).met := met
  rw [p.precompute_eq supported, guarded_cons_of_met key_met, guarded_nil, expanded, pure_bind,
    stored]
  rfl

end Primitive

namespace Provider

open Requirement

variable {algorithm : Algorithm}

/-! ## Keys with one cipher -/

section OneCipher

variable {sealing opening : KeyInput} {cipher : algorithm.construction.Cipher}
  (hsealing : algorithm.cipher? sealing = some cipher)
  (hopening : algorithm.cipher? opening = some cipher)
include hsealing hopening

theorem run_with_cipher (direction : Direction) (mode : Mode) (request : Request) :
    (standard algorithm).run direction mode { request with key := sealing } =
      (standard algorithm).run direction mode { request with key := opening } :=
  (standard algorithm).run_with_key
    ((keyRequirement_met_iff sealing).2 (Option.isSome_of_eq_some hsealing))
    ((keyRequirement_met_iff opening).2 (Option.isSome_of_eq_some hopening))
    ((obtainCipher_standard hsealing).trans (obtainCipher_standard hopening).symm)
    direction mode request

/-- What is encrypted under one of the keys is decrypted under the other, also when the associated
data are given in another way that stands for the same bytes. -/
theorem dispatch_roundTrip {nonce : Bytes}
    (hnonce : nonce.length = algorithm.descriptor.nonceLength) {ad ad' : AssociatedData}
    (same : ad'.bytes = ad.bytes) (message : Bytes) (unused unused' : Option Bytes) :
    (∃ ciphertext,
      dispatch algorithm .encrypt .combined ⟨message, unused, ad, nonce, sealing⟩ =
        .ok (some (.ciphertext ciphertext)) ∧
      dispatch algorithm .decrypt .combined ⟨ciphertext, unused', ad', nonce, opening⟩ =
        .ok (some (.plaintext message))) ∧
    ∃ body mac,
      dispatch algorithm .encrypt .detached ⟨message, unused, ad, nonce, sealing⟩ =
        .ok (some (.detached ⟨body, mac⟩)) ∧
      dispatch algorithm .decrypt .detached ⟨body, some mac, ad', nonce, opening⟩ =
        .ok (some (.plaintext message)) := by
  let session := algorithm.construction.session cipher nonce
  let parts := session.sealed ad.bytes message
  have hmac : parts.mac.length = tagLength := session.length_mac_sealed ad.bytes message
  have opened : session.opened? ad'.bytes parts.ciphertext parts.mac = some message := by
    rw [same]
    exact session.opened?_eq_some_iff.2 rfl
  constructor
  · refine ⟨parts.join, dispatch_encrypt_combined_eq hnonce hsealing message ad unused, ?_⟩
    rw [Detached.join, dispatch_decrypt_combined_eq hnonce hopening _ hmac, opened]
    rfl
  · refine ⟨parts.ciphertext, parts.mac, dispatch_encrypt_detached_eq hnonce hsealing message ad
      unused, ?_⟩
    rw [dispatch_decrypt_detached_eq hnonce hopening _ hmac, opened]
    rfl

end OneCipher

/-! ## The context of a key -/

/-- An algorithm that has contexts stores each cipher in one and loads it from there. -/
theorem exists_contextOf? (supported : algorithm.descriptor.supportsPrecompute = true)
    (cipher : algorithm.construction.Cipher) :
    ∃ context, algorithm.contextOf? cipher = some context ∧
      algorithm.cipherOf? context = some cipher := by
  cases algorithm with
  | aes256Gcm => exact ⟨.aes256Gcm cipher, rfl, rfl⟩
  | _ => cases supported

/-- A key of the right length has a context, and the context gives the cipher of the key. -/
theorem exists_precompute (supported : algorithm.descriptor.supportsPrecompute = true) {key : Bytes}
    {cipher : algorithm.construction.Cipher}
    (hcipher : algorithm.cipher? (.raw key) = some cipher) :
    ∃ context, (standard algorithm).precompute key = pure context ∧
      algorithm.cipher? (.context context) = some cipher := by
  obtain ⟨context, stored, loaded⟩ := exists_contextOf? supported cipher
  have met := (keyRequirement_met_iff (.raw key)).2 (Option.isSome_of_eq_some hcipher)
  exact ⟨context, (standard algorithm).precompute_of_met supported met (expandKey_standard hcipher)
    stored, loaded⟩

/-- **Precomputation.** A key of 32 bytes has a context. Under the context every request, right or
wrong, has the answer that it has under the key; and a right one that is encrypted under either of
the two is decrypted under either of them. -/
theorem run_context_eq_run_raw {key : Bytes} (hkey : key.length = 32) :
    ∃ context, (standard .aes256Gcm).precompute key = pure context ∧
      (∀ direction mode input mac ad nonce,
        (standard .aes256Gcm).run direction mode ⟨input, mac, ad, nonce, .context context⟩ =
          (standard .aes256Gcm).run direction mode ⟨input, mac, ad, nonce, .raw key⟩) ∧
      ∀ sealing ∈ [KeyInput.raw key, .context context],
      ∀ opening ∈ [KeyInput.raw key, .context context],
      ∀ (message : Bytes) (ad : AssociatedData) (nonce : Bytes), nonce.length = 12 →
        (∃ ciphertext,
          dispatch .aes256Gcm .encrypt .combined ⟨message, none, ad, nonce, sealing⟩ =
            .ok (some (.ciphertext ciphertext)) ∧
          dispatch .aes256Gcm .decrypt .combined ⟨ciphertext, none, ad, nonce, opening⟩ =
            .ok (some (.plaintext message))) ∧
        ∃ body mac,
          dispatch .aes256Gcm .encrypt .detached ⟨message, none, ad, nonce, sealing⟩ =
            .ok (some (.detached ⟨body, mac⟩)) ∧
          dispatch .aes256Gcm .decrypt .detached ⟨body, some mac, ad, nonce, opening⟩ =
            .ok (some (.plaintext message)) := by
  obtain ⟨cipher, hraw⟩ := Algorithm.aes256Gcm.exists_cipher hkey
  obtain ⟨context, precomputed, hcontext⟩ := exists_precompute rfl hraw
  have one_cipher : ∀ k ∈ [KeyInput.raw key, .context context],
      Algorithm.aes256Gcm.cipher? k = some cipher := by
    intro k hk
    rcases List.mem_pair.1 hk with rfl | rfl
    · exact hraw
    · exact hcontext
  refine ⟨context, precomputed, ?_, ?_⟩
  · intro direction mode input mac ad nonce
    exact run_with_cipher hcontext hraw direction mode ⟨input, mac, ad, nonce, .raw key⟩
  · intro sealing hsealing opening hopening message ad nonce hnonce
    exact dispatch_roundTrip (one_cipher sealing hsealing) (one_cipher opening hopening) hnonce rfl
      message none none

/-- The zero key and its context: a short nonce fails under the context as under the key, and what
is encrypted under the key is decrypted under the context. -/
theorem run_context_eq_run_raw_of_zeros :
    let key : Bytes := List.replicate 32 0
    let nonce : Bytes := List.replicate 12 0
    key.length = 32 ∧ nonce.length = 12 ∧
    ∃ context, (standard .aes256Gcm).precompute key = pure context ∧
      (standard .aes256Gcm).run .encrypt .combined
          ⟨[1, 2, 3], none, .absent, [4], .context context⟩ =
        throw (.lengthMismatch "nonce" (.exactly 12)) ∧
      ∃ ciphertext,
        dispatch .aes256Gcm .encrypt .combined ⟨[1, 2, 3], none, .absent, nonce, .raw key⟩ =
          .ok (some (.ciphertext ciphertext)) ∧
        dispatch .aes256Gcm .decrypt .combined
            ⟨ciphertext, none, .absent, nonce, .context context⟩ =
          .ok (some (.plaintext [1, 2, 3])) := by
  intro key nonce
  have hkey : key.length = 32 := rfl
  obtain ⟨context, precomputed, same, roundTrip⟩ := run_context_eq_run_raw hkey
  refine ⟨hkey, rfl, context, precomputed, ?_, ?_⟩
  · exact (same .encrypt .combined [1, 2, 3] none .absent [4]).trans rfl
  · exact (roundTrip (.raw key) List.mem_cons_self (.context context)
      (List.mem_cons_of_mem _ List.mem_cons_self) [1, 2, 3] .absent nonce rfl).1

end Provider

end Aead
