import Aead.Proofs.Precomputation

/-!
# One tag for each body

Under one key, one nonce and one value of the associated data every byte string is the body of some
message, and it has one tag. The tag is compared as a whole, so each other string of its length is
refused, whether it differs in one bit or in all.

Results:

* `Session.opened?_eq_none_iff`: opening refuses every string but the tag.
* `decrypt_accepts_one_tag`: so does decryption, in both modes, under a key or its context; whatever
  bits of a tag are flipped, the message is refused.
-/

namespace Aead

namespace Bytes

/-- Only zeros change nothing. -/
theorem eq_zero_of_xor_eq_self {a b : Bytes} (same : a.length = b.length) (h : a.xor b = a) :
    ∀ byte ∈ b, byte = 0 := by
  intro byte hbyte
  obtain ⟨i, hi, rfl⟩ := List.getElem_of_mem hbyte
  have hi' : i < a.length := by omega
  have combined := getElem_xor hi' hi
  rw [h, List.getElem?_eq_getElem hi', Option.some.injEq] at combined
  exact xor_left_eq_self_iff.1 combined.symm

/-- Flipping some bits of a byte string changes it. -/
theorem xor_ne_self {a flips : Bytes} (same : a.length = flips.length)
    (h : ∃ byte ∈ flips, byte ≠ 0) : a.xor flips ≠ a := by
  intro unchanged
  obtain ⟨byte, hbyte, nonzero⟩ := h
  exact nonzero (eq_zero_of_xor_eq_self same unchanged byte hbyte)

end Bytes

namespace Session

variable (s : Session) {ad body mac : Bytes}

theorem opened?_tag (ad body : Bytes) :
    s.opened? ad body (s.tag ad body).bytes = some (s.combine body) :=
  if_pos rfl

/-- Opening refuses every string but the tag. -/
theorem opened?_eq_none_iff : s.opened? ad body mac = none ↔ mac ≠ (s.tag ad body).bytes := by
  unfold opened?
  by_cases authentic : s.Authentic ad body mac
  · rw [if_pos authentic]
    exact iff_of_false (Option.some_ne_none _) fun ne => ne (Eq.symm authentic)
  · rw [if_neg authentic]
    exact iff_of_true rfl fun same => authentic (Eq.symm same)

end Session

/-- A key input that stands for a key: the key itself or, if the algorithm has contexts, the context
of the key. -/
inductive KeyInput.StandsFor (algorithm : Algorithm) (key : Bytes) : KeyInput → Prop
  | raw : StandsFor algorithm key (.raw key)
  | context {context : Context} (h : Family.precompute algorithm key = .ok context) :
      StandsFor algorithm key (.context context)

namespace Provider

variable {algorithm : Algorithm} {key : Bytes} {cipher : algorithm.construction.Cipher}

/-- What stands for a key has the cipher of the key. -/
theorem cipher?_of_standsFor (hcipher : algorithm.cipher? (.raw key) = some cipher)
    {input : KeyInput} (h : input.StandsFor algorithm key) :
    algorithm.cipher? input = some cipher := by
  cases h with
  | raw => exact hcipher
  | context precomputed =>
    unfold Family.precompute at precomputed
    cases supported : algorithm.descriptor.supportsPrecompute with
    | true =>
      obtain ⟨context, made, loaded⟩ := exists_precompute supported hcipher
      rw [made] at precomputed
      cases precomputed
      exact loaded
    | false =>
      rw [(standard algorithm).precompute_of_not_supported supported] at precomputed
      cases precomputed

end Provider

/-! ## Decryption -/

section OneCipher

open Provider

variable {algorithm : Algorithm} {nonce : Bytes} {key : KeyInput}
  {cipher : algorithm.construction.Cipher}
  (hnonce : nonce.length = algorithm.descriptor.nonceLength)
  (hkey : algorithm.cipher? key = some cipher) (ad : AssociatedData) (unused : Option Bytes)
include hnonce hkey

theorem dispatch_decrypt_of_tag (body : Bytes) :
    let session := algorithm.construction.session cipher nonce
    let tag := (session.tag ad.bytes body).bytes
    dispatch algorithm .decrypt .detached ⟨body, some tag, ad, nonce, key⟩ =
        .ok (some (.plaintext (session.combine body))) ∧
      dispatch algorithm .decrypt .combined ⟨body ++ tag, unused, ad, nonce, key⟩ =
        .ok (some (.plaintext (session.combine body))) := by
  intro session tag
  have hmac : tag.length = tagLength := Buffer.length_bytes _
  rw [dispatch_decrypt_detached_eq hnonce hkey body hmac,
    dispatch_decrypt_combined_eq hnonce hkey body hmac, session.opened?_tag]
  exact ⟨rfl, rfl⟩

theorem dispatch_decrypt_of_ne {body mac : Bytes} (hmac : mac.length = tagLength)
    (ne : mac ≠ ((algorithm.construction.session cipher nonce).tag ad.bytes body).bytes) :
    dispatch algorithm .decrypt .detached ⟨body, some mac, ad, nonce, key⟩ = .ok none ∧
      dispatch algorithm .decrypt .combined ⟨body ++ mac, unused, ad, nonce, key⟩ = .ok none := by
  rw [dispatch_decrypt_detached_eq hnonce hkey body hmac,
    dispatch_decrypt_combined_eq hnonce hkey body hmac, (Session.opened?_eq_none_iff _).2 ne]
  exact ⟨rfl, rfl⟩

end OneCipher

/-- **One tag.** Under a key, or the context of a key, every byte string is a body that decryption
accepts under one string of 16 bytes, the same one in both modes, and refuses under every other one,
without a failure. So a sealed message is refused whenever bits of its tag are flipped. -/
theorem decrypt_accepts_one_tag (algorithm : Algorithm) {key nonce : Bytes}
    (hkey : key.length = 32) (hnonce : nonce.length = algorithm.descriptor.nonceLength)
    {input : KeyInput} (hinput : input.StandsFor algorithm key) (ad : AssociatedData)
    (unused : Option Bytes) :
    (∀ body : Bytes, ∃ tag : Bytes, tag.length = 16 ∧
      (∃ message,
        dispatch algorithm .decrypt .detached ⟨body, some tag, ad, nonce, input⟩ =
          .ok (some (.plaintext message)) ∧
        dispatch algorithm .decrypt .combined ⟨body ++ tag, unused, ad, nonce, input⟩ =
          .ok (some (.plaintext message))) ∧
      ∀ mac : Bytes, mac.length = 16 → mac ≠ tag →
        dispatch algorithm .decrypt .detached ⟨body, some mac, ad, nonce, input⟩ = .ok none ∧
        dispatch algorithm .decrypt .combined ⟨body ++ mac, unused, ad, nonce, input⟩ =
          .ok none) ∧
    ∀ message, ∃ body tag : Bytes, tag.length = 16 ∧
      dispatch algorithm .encrypt .detached ⟨message, unused, ad, nonce, input⟩ =
        .ok (some (.detached ⟨body, tag⟩)) ∧
      dispatch algorithm .encrypt .combined ⟨message, unused, ad, nonce, input⟩ =
        .ok (some (.ciphertext (body ++ tag))) ∧
      ∀ flips : Bytes, flips.length = 16 → (∃ byte ∈ flips, byte ≠ 0) →
        dispatch algorithm .decrypt .detached ⟨body, some (tag.xor flips), ad, nonce, input⟩ =
          .ok none ∧
        dispatch algorithm .decrypt .combined ⟨body ++ tag.xor flips, unused, ad, nonce, input⟩ =
          .ok none := by
  obtain ⟨cipher, hraw⟩ := algorithm.exists_cipher hkey
  have hcipher := Provider.cipher?_of_standsFor hraw hinput
  let session := algorithm.construction.session cipher nonce
  have hlength : ∀ body, (session.tag ad.bytes body).bytes.length = 16 := fun body =>
    Buffer.length_bytes _
  constructor
  · intro body
    refine ⟨(session.tag ad.bytes body).bytes, hlength body, ?_, fun mac hmac ne => ?_⟩
    · exact ⟨session.combine body, dispatch_decrypt_of_tag hnonce hcipher ad unused body⟩
    · exact dispatch_decrypt_of_ne hnonce hcipher ad unused hmac ne
  · intro message
    let body := session.combine message
    refine ⟨body, (session.tag ad.bytes body).bytes, hlength body,
      Provider.dispatch_encrypt_detached_eq hnonce hcipher message ad unused,
      Provider.dispatch_encrypt_combined_eq hnonce hcipher message ad unused,
      fun flips hflips flipped => ?_⟩
    have same : (session.tag ad.bytes body).bytes.length = flips.length :=
      (hlength body).trans hflips.symm
    have changed := Bytes.xor_ne_self same flipped
    have hmac : ((session.tag ad.bytes body).bytes.xor flips).length = tagLength := by
      rw [Bytes.length_xor, same, Nat.min_self, hflips]
      rfl
    exact dispatch_decrypt_of_ne hnonce hcipher ad unused hmac changed

/-- Under zeros: three bytes sealed with ChaCha20-Poly1305 are refused when one bit of their tag is
flipped, and under the context of an AES key three bytes are a body with a tag. -/
theorem decrypt_accepts_one_tag_of_zeros :
    let key : Bytes := List.replicate 32 0
    let nonce : Bytes := List.replicate 12 0
    key.length = 32 ∧ nonce.length = 12 ∧
    dispatch .chacha20Poly1305Ietf .encrypt .detached
        ⟨[1, 2, 3], none, .absent, nonce, .raw key⟩ =
      .ok (some (.detached ⟨[158, 5, 228],
        [126, 112, 123, 27, 50, 230, 112, 173, 70, 185, 155, 48, 110, 186, 94, 185]⟩)) ∧
    dispatch .chacha20Poly1305Ietf .decrypt .detached
        ⟨[158, 5, 228],
          some [127, 112, 123, 27, 50, 230, 112, 173, 70, 185, 155, 48, 110, 186, 94, 185],
          .absent, nonce, .raw key⟩ = .ok none ∧
    ∃ context, (KeyInput.context context).StandsFor .aes256Gcm key ∧
      ∃ tag message,
        dispatch .aes256Gcm .decrypt .detached
          ⟨[1, 2, 3], some tag, .absent, nonce, .context context⟩ =
            .ok (some (.plaintext message)) := by
  intro key nonce
  have hkey : key.length = 32 := rfl
  have hnonce : nonce.length = 12 := rfl
  have sealed : dispatch .chacha20Poly1305Ietf .encrypt .detached
      ⟨[1, 2, 3], none, .absent, nonce, .raw key⟩ =
      .ok (some (.detached ⟨[158, 5, 228],
        [126, 112, 123, 27, 50, 230, 112, 173, 70, 185, 155, 48, 110, 186, 94, 185]⟩)) := by
    decide +kernel
  refine ⟨hkey, hnonce, sealed, ?_, ?_⟩
  · obtain ⟨body, tag, -, sealed', -, flipped⟩ :=
      (decrypt_accepts_one_tag .chacha20Poly1305Ietf hkey hnonce .raw .absent none).2 [1, 2, 3]
    rw [sealed] at sealed'
    cases sealed'
    exact (flipped (1 :: List.replicate 15 0) rfl ⟨1, List.mem_cons_self, by decide⟩).1
  · obtain ⟨cipher, hcipher⟩ := Algorithm.aes256Gcm.exists_cipher hkey
    obtain ⟨context, precomputed, -⟩ := Provider.exists_precompute rfl hcipher
    have made : Family.precompute .aes256Gcm key = .ok context := by
      unfold Family.precompute
      rw [precomputed]
      rfl
    obtain ⟨tag, -, ⟨message, accepted, -⟩, -⟩ :=
      (decrypt_accepts_one_tag .aes256Gcm hkey hnonce (.context made) .absent none).1 [1, 2, 3]
    exact ⟨context, .context made, tag, message, accepted⟩

end Aead
