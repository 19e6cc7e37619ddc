import Aead.Proofs.RoundTrip

/-!
# The keystream

A key and a nonce fix one stream of bytes, and byte `i` of a body is byte `i` of the message
combined with byte `i` of that stream. Neither the message nor the associated data have a part in
the stream, and an index has the same byte of it in messages of every length.

Results:

* `Session.getElem?_keystream`: the blocks of a session, byte by byte.
* `Session.combine_eq_xorStream`: combining with the blocks is combining with the stream.
* `bodies_share_keystream`: so it is for the bodies that encryption gives and for the messages that
  decryption gives, and what follows for two encryptions under one key and one nonce.
-/

namespace Aead

/-! ## Streams -/

namespace Bytes

/-- A text combined byte by byte with a stream. -/
def xorStream (stream : Nat → UInt8) (text : Bytes) : Bytes :=
  text.mapIdx fun i byte => byte ^^^ stream i

variable (stream : Nat → UInt8) (text : Bytes)

@[simp] theorem length_xorStream : (text.xorStream stream).length = text.length :=
  List.length_mapIdx

theorem getElem?_xorStream (i : Nat) :
    (text.xorStream stream)[i]? = text[i]?.map (· ^^^ stream i) :=
  List.getElem?_mapIdx

/-- A stream starts over with each text, so the front of a text is combined as the text is. -/
theorem xorStream_take (n : Nat) :
    xorStream stream (text.take n) = (text.xorStream stream).take n := by
  apply List.ext_getElem?
  intro i
  rw [getElem?_xorStream, List.getElem?_take, List.getElem?_take]
  split_ifs
  · rw [getElem?_xorStream]
  · rfl

/-- Combining twice with one stream gives back the text. -/
theorem xorStream_xorStream : xorStream stream (text.xorStream stream) = text := by
  apply List.ext_getElem?
  intro i
  rw [getElem?_xorStream, getElem?_xorStream]
  cases text[i]? with
  | none => rfl
  | some byte =>
    show some (byte ^^^ stream i ^^^ stream i) = some byte
    rw [UInt8.xor_assoc, UInt8.xor_self, UInt8.xor_zero]

/-- Text and combined text differ by the stream. -/
theorem getElem?_xorStream_xor {i : Nat} (h : i < text.length) :
    ((text.xorStream stream).xor text)[i]? = some (stream i) := by
  have hi : text[i]? = some text[i] := List.getElem?_eq_getElem h
  have combined : (text.xorStream stream)[i]? = some (text[i] ^^^ stream i) := by
    rw [getElem?_xorStream, hi]
    rfl
  rw [xor, List.getElem?_zipWith, combined, hi]
  show some (text[i] ^^^ stream i ^^^ text[i]) = some (stream i)
  rw [UInt8.xor_comm text[i], UInt8.xor_assoc, UInt8.xor_self, UInt8.xor_zero]

end Bytes

namespace Session

variable (s : Session)

/-- The byte of the keystream at an index: a byte of the block that the index falls into. -/
def streamByte (i : Nat) : UInt8 :=
  have inside : i % s.blockLength < (s.block (i / s.blockLength)).bytes.length := by
    rw [Buffer.length_bytes]
    exact Nat.mod_lt i s.blockLength_pos
  (s.block (i / s.blockLength)).bytes[i % s.blockLength]

theorem getElem?_block {j i : Nat} (h : i < s.blockLength) :
    (s.block j).bytes[i]? = some (s.streamByte (j * s.blockLength + i)) := by
  have quotient : (j * s.blockLength + i) / s.blockLength = j := by
    rw [Nat.mul_comm, Nat.mul_add_div s.blockLength_pos, Nat.div_eq_of_lt h, Nat.add_zero]
  have remainder : (j * s.blockLength + i) % s.blockLength = i := by
    rw [Nat.mul_comm, Nat.mul_add_mod, Nat.mod_eq_of_lt h]
  unfold streamByte
  simp only [quotient, remainder]
  exact List.getElem?_eq_getElem _

/-- The first blocks one after another hold the bytes of the stream. -/
theorem getElem?_flatMap_block (n : Nat) {i : Nat} (h : i < n * s.blockLength) :
    ((List.range n).flatMap fun j => (s.block j).bytes)[i]? = some (s.streamByte i) := by
  induction n with
  | zero => omega
  | succ n ih =>
    have length := s.length_flatMap_block n
    rw [List.range_succ, List.flatMap_append, List.flatMap_singleton]
    by_cases before : i < n * s.blockLength
    · rw [List.getElem?_append_left (by omega)]
      exact ih before
    · rw [Nat.add_one_mul] at h
      rw [List.getElem?_append_right (by omega), length, s.getElem?_block (by omega)]
      congr 2
      omega

/-- The keystream holds the bytes of the stream. -/
theorem getElem?_keystream {n i : Nat} (h : i < n) :
    (s.keystream n)[i]? = some (s.streamByte i) := by
  refine s.getElem?_flatMap_block (n / s.blockLength + 1) ?_
  have enough := s.le_length_keystream n
  rw [s.length_keystream] at enough
  omega

/-- Combining with the blocks is combining with the stream. -/
theorem combine_eq_xorStream (text : Bytes) : s.combine text = text.xorStream s.streamByte := by
  apply List.ext_getElem?
  intro i
  rw [Bytes.getElem?_xorStream, combine, Bytes.xor, List.getElem?_zipWith]
  by_cases h : i < text.length
  · rw [s.getElem?_keystream h, List.getElem?_eq_getElem h]
    rfl
  · rw [List.getElem?_eq_none (Nat.le_of_not_lt h)]
    rfl

end Session

/-! ## Bodies and messages -/

/-- The body that encryption of a message gives, in either mode. -/
inductive IsBodyOf (algorithm : Algorithm) (nonce key message : Bytes) (ad : AssociatedData)
    (body : Bytes) : Prop
  | detached {mac : Bytes}
      (h : Family.encryptDetached algorithm message ad nonce key = .ok (some ⟨body, mac⟩))
  | combined {mac : Bytes} (hmac : mac.length = tagLength)
      (h : sealMessage algorithm message ad nonce key = .ok (some (body ++ mac)))

/-- The message that decryption of a body gives under some tag, in either mode. -/
inductive IsMessageOf (algorithm : Algorithm) (nonce key body : Bytes) (ad : AssociatedData)
    (message : Bytes) : Prop
  | detached {mac : Bytes}
      (h : Family.decryptDetached algorithm body mac ad nonce key = .ok (some message))
  | combined {mac : Bytes} (hmac : mac.length = tagLength)
      (h : openSealed algorithm (body ++ mac) ad nonce key = .ok (some message))

section OneSession

variable {algorithm : Algorithm} {nonce key : Bytes} {cipher : algorithm.construction.Cipher}
  (hnonce : nonce.length = algorithm.descriptor.nonceLength)
  (hcipher : algorithm.cipher? (.raw key) = some cipher)
include hnonce hcipher

theorem IsBodyOf.eq_xorStream {message body : Bytes} {ad : AssociatedData}
    (h : IsBodyOf algorithm nonce key message ad body) :
    body = message.xorStream (algorithm.construction.session cipher nonce).streamByte := by
  let session := algorithm.construction.session cipher nonce
  have sealed : ∃ mac, session.sealed ad.bytes message = ⟨body, mac⟩ := by
    cases h with
    | @detached mac h =>
      have encrypted : Family.encryptDetached algorithm message ad nonce key =
          .ok (some (session.sealed ad.bytes message)) :=
        Provider.answer_encryptDetached hnonce hcipher message ad
      rw [encrypted, Except.ok.injEq, Option.some.injEq] at h
      exact ⟨mac, h⟩
    | @combined mac hmac h =>
      rw [sealMessage_eq_join hnonce hcipher, Except.ok.injEq, Option.some.injEq] at h
      exact ⟨mac, (session.join_sealed_eq_iff hmac).1 h⟩
  obtain ⟨mac, sealed⟩ := sealed
  rw [← session.combine_eq_xorStream]
  exact (congrArg Detached.ciphertext sealed).symm

theorem IsMessageOf.eq_xorStream {body message : Bytes} {ad : AssociatedData}
    (h : IsMessageOf algorithm nonce key body ad message) :
    message = body.xorStream (algorithm.construction.session cipher nonce).streamByte := by
  -- What is opened is a sealing, and a body is combined as a message is.
  have isBody : IsBodyOf algorithm nonce key message ad body := by
    cases h with
    | detached h => exact .detached ((decryptDetached_eq_some_iff hnonce hcipher).1 h)
    | combined hmac h => exact .combined hmac ((openSealed_eq_some_iff hnonce hcipher).1 h)
  rw [isBody.eq_xorStream hnonce hcipher, Bytes.xorStream_xorStream]

end OneSession

/-- **Keystream.** A key and a nonce have one stream of bytes: encryption of a message under any
associated data gives the message combined with it and a tag, in both modes, and what decryption of
a body gives is the body combined with it. So two encryptions differ from their messages by the same
bytes at every index that both messages have, the associated data have no part in a body, and the
body of the front of a message is the front of the message's body. -/
theorem bodies_share_keystream (algorithm : Algorithm) {nonce key : Bytes}
    (hnonce : nonce.length = algorithm.descriptor.nonceLength) (hkey : key.length = 32) :
    (∃ stream : Nat → UInt8,
      (∀ message ad, ∃ mac : Bytes, mac.length = 16 ∧
        Family.encryptDetached algorithm message ad nonce key =
          .ok (some ⟨message.xorStream stream, mac⟩) ∧
        sealMessage algorithm message ad nonce key =
          .ok (some (message.xorStream stream ++ mac))) ∧
      ∀ body ad message, IsMessageOf algorithm nonce key body ad message →
        message = body.xorStream stream) ∧
    ∀ message ad body, IsBodyOf algorithm nonce key message ad body →
      body.length = message.length ∧
      (∀ message' ad' body', IsBodyOf algorithm nonce key message' ad' body' →
        ∀ i, i < message.length → i < message'.length →
          (body.xor message)[i]? = (body'.xor message')[i]?) ∧
      (∀ ad' body', IsBodyOf algorithm nonce key message ad' body' → body' = body) ∧
      ∀ n ad' body', IsBodyOf algorithm nonce key (message.take n) ad' body' →
        body' = body.take n := by
  obtain ⟨cipher, hcipher⟩ := algorithm.exists_cipher hkey
  let session := algorithm.construction.session cipher nonce
  constructor
  · refine ⟨session.streamByte, fun message ad => ?_, fun body ad message h =>
      h.eq_xorStream hnonce hcipher⟩
    have encrypted := Provider.answer_encryptDetached hnonce hcipher message ad
    have sealed := sealMessage_eq_join hnonce hcipher message ad
    rw [← session.combine_eq_xorStream]
    exact ⟨_, session.length_mac_sealed ad.bytes message, encrypted, sealed⟩
  · intro message ad body h
    obtain rfl := h.eq_xorStream hnonce hcipher
    refine ⟨Bytes.length_xorStream _ message, ?_, ?_, ?_⟩
    · intro message' ad' body' h' i hi hi'
      obtain rfl := h'.eq_xorStream hnonce hcipher
      rw [Bytes.getElem?_xorStream_xor _ message hi, Bytes.getElem?_xorStream_xor _ message' hi']
    · intro ad' body' h'
      exact h'.eq_xorStream hnonce hcipher
    · intro n ad' body' h'
      rw [h'.eq_xorStream hnonce hcipher, Bytes.xorStream_take]

/-- Three bytes and their first two under zeros, with different associated data: the shorter body
is the front of the longer one. -/
theorem bodies_share_keystream_of_three_bytes :
    let nonce : Bytes := List.replicate 12 0
    let key : Bytes := List.replicate 32 0
    nonce.length = 12 ∧ key.length = 32 ∧
    ∃ mac mac',
      Family.encryptDetached .chacha20Poly1305Ietf [1, 2, 3] .absent nonce key =
        .ok (some ⟨[158, 5, 228], mac⟩) ∧
      Family.encryptDetached .chacha20Poly1305Ietf [1, 2] (.present [7]) nonce key =
        .ok (some ⟨[158, 5], mac'⟩) := by
  intro nonce key
  have hnonce : nonce.length = 12 := rfl
  have hkey : key.length = 32 := rfl
  obtain ⟨⟨stream, encrypted, -⟩, laws⟩ :=
    bodies_share_keystream .chacha20Poly1305Ietf hnonce hkey
  have whole : Family.encryptDetached .chacha20Poly1305Ietf [1, 2, 3] .absent nonce key =
      .ok (some ⟨[158, 5, 228], [126, 112, 123, 27, 50, 230, 112, 173, 70, 185, 155, 48, 110, 186,
        94, 185]⟩) := by decide +kernel
  obtain ⟨mac', -, front, -⟩ := encrypted [1, 2] (.present [7])
  have cut := (laws _ _ _ (.detached whole)).2.2.2 2 _ _ (.detached front)
  rw [cut] at front
  exact ⟨hnonce, hkey, _, mac', whole, front⟩

end Aead
