import Aead.Proofs.Keystream

/-!
# Two layouts of a nonce

The last row of a ChaCha20 state has four words for a block number and a nonce. With 64-bit nonces
two of them number the block, with 96-bit nonces one does. A short nonce after four zero bytes gives
the same rows, as long as the block number fits into one word, so the two constructions share their
blocks. They also share what they do with them: the first block gives the one-time authenticator key
and is used for nothing else, and the message starts at the next one. Only what is authenticated is
laid out differently.

Results:

* `ChaChaPoly.shortNonceBlock_eq_ietfBlock`: the blocks of the two layouts.
* `BlockStream.run_keyAndBody`: a stream that is used up from its start, 64 bytes for the
  authenticator key and then the message, is the session that starts at block one.
* `shortNonce_encrypts_as_ietf`: the bodies of the two constructions are equal, byte for byte the
  message combined with the numbered blocks, and the tags are those of the two layouts of what is
  authenticated, under one key.
-/

namespace Aead

/-! ## Streams that are used up -/

/-- A sequence of blocks that is used up byte by byte. -/
structure BlockStream where
  block : Nat → Buffer 64
  /-- The number of bytes that are used up. -/
  position : Nat := 0

namespace BlockStream

/-- The byte at an index, counted from the start of the first block. -/
def byteAt (block : Nat → Buffer 64) (i : Nat) : UInt8 :=
  have inside : i % 64 < (block (i / 64)).bytes.length := by
    rw [Buffer.length_bytes]
    omega
  (block (i / 64)).bytes[i % 64]

theorem getElem?_block (block : Nat → Buffer 64) (i : Nat) :
    (block (i / 64)).bytes[i % 64]? = some (byteAt block i) :=
  List.getElem?_eq_getElem _

/-- The next byte, which is then used up. -/
def next : StateM BlockStream UInt8 :=
  modifyGet fun s => (byteAt s.block s.position, { s with position := s.position + 1 })

/-- A text combined with the next bytes, one after another. -/
def combine (text : Bytes) : StateM BlockStream Bytes :=
  text.mapM fun byte => return byte ^^^ (← next)

/-- The authenticator key. Zeros are combined, which uses up the first block and gives it as it is;
half of it is the key. -/
def takeKey : StateM BlockStream Bytes := do
  let first ← combine (List.replicate 64 0)
  return first.take 32

/-- The authenticator key and the body of a message, from one stream. -/
def keyAndBody (message : Bytes) : StateM BlockStream (Bytes × Bytes) := do
  let key ← takeKey
  let body ← combine message
  return (key, body)

end BlockStream

theorem Bytes.xorStream_cons (stream : Nat → UInt8) (byte : UInt8) (text : Bytes) :
    xorStream stream (byte :: text) =
      (byte ^^^ stream 0) :: xorStream (fun i => stream (i + 1)) text :=
  List.mapIdx_cons

/-- Only the front of a stream has a part in a text. -/
theorem Bytes.xorStream_congr {stream stream' : Nat → UInt8} {text : Bytes}
    (h : ∀ i < text.length, stream i = stream' i) :
    xorStream stream text = xorStream stream' text := by
  apply List.ext_getElem?
  intro i
  rw [getElem?_xorStream, getElem?_xorStream]
  by_cases hi : i < text.length
  · rw [h i hi]
  · rw [List.getElem?_eq_none (Nat.le_of_not_lt hi)]
    rfl

namespace BlockStream

/-- One step uses up one byte. -/
theorem run_combine_cons (byte : UInt8) (text : Bytes) (s : BlockStream) :
    (combine (byte :: text)).run s =
      (fun (rest, s') => ((byte ^^^ byteAt s.block s.position) :: rest, s')) <$>
        (combine text).run { s with position := s.position + 1 } := by
  have taken : next.run s =
      pure (byteAt s.block s.position, { s with position := s.position + 1 }) := rfl
  unfold combine
  rw [List.mapM_cons, bind_assoc, StateT.run_bind, taken, pure_bind, pure_bind, StateT.run_bind,
    map_eq_pure_bind]
  rfl

/-- Combining uses up as many bytes as the text has, from the position on. -/
theorem run_combine (text : Bytes) (s : BlockStream) :
    (combine text).run s =
      pure (text.xorStream fun i => byteAt s.block (s.position + i),
        { s with position := s.position + text.length }) := by
  induction text generalizing s with
  | nil => rfl
  | cons byte text ih =>
    have position : ∀ n, s.position + 1 + n = s.position + (n + 1) := by
      intro n
      omega
    rw [run_combine_cons, ih, map_pure, Bytes.xorStream_cons]
    simp only [position, Nat.add_zero, List.length_cons]

/-- What is combined with zeros is the stream itself. -/
theorem xorStream_zeros (block : Nat → Buffer 64) :
    Bytes.xorStream (byteAt block) (List.replicate 64 0) = (block 0).bytes := by
  apply List.ext_getElem?
  intro i
  rw [Bytes.getElem?_xorStream]
  by_cases hi : i < 64
  · have shown := getElem?_block block i
    rw [Nat.div_eq_of_lt hi, Nat.mod_eq_of_lt hi] at shown
    rw [shown, List.getElem?_replicate_of_lt hi]
    exact congrArg some UInt8.zero_xor
  · have beyond : (block 0).bytes.length ≤ i := by
      rw [Buffer.length_bytes]
      omega
    rw [List.getElem?_eq_none beyond, List.getElem?_eq_none (by simpa using hi)]
    rfl

end BlockStream

namespace ChaChaPoly

/-- The session that leaves out the first block goes on where the authenticator key ends. -/
theorem streamByte_session (block : Nat → Buffer 64) (tagInput : Bytes → Bytes → Bytes) (i : Nat) :
    (session block tagInput).streamByte i = BlockStream.byteAt block (64 + i) := by
  have number : (64 + i) / 64 = 1 + i / 64 := by omega
  have place : (64 + i) % 64 = i % 64 := by omega
  have split : i / 64 * 64 + i % 64 = i := by omega
  have inStream := BlockStream.getElem?_block block (64 + i)
  have inSession : (block (1 + i / 64)).bytes[i % 64]? =
      some ((session block tagInput).streamByte (i / 64 * 64 + i % 64)) :=
    (session block tagInput).getElem?_block (Nat.mod_lt i (by decide))
  rw [number, place] at inStream
  rw [split, inStream, Option.some.injEq] at inSession
  exact inSession.symm

/-- Byte `i` of a body is byte `i` of the message, combined with byte `i % 64` of the block numbered
`1 + i / 64`. -/
theorem getElem?_combine_session (block : Nat → Buffer 64) (tagInput : Bytes → Bytes → Bytes)
    (message : Bytes) {i : Nat} (h : i < message.length) :
    ∃ byte, (block (1 + i / 64)).bytes[i % 64]? = some byte ∧
      ((session block tagInput).combine message)[i]? = some (message[i] ^^^ byte) := by
  have number : (64 + i) / 64 = 1 + i / 64 := by omega
  have place : (64 + i) % 64 = i % 64 := by omega
  refine ⟨BlockStream.byteAt block (64 + i), ?_, ?_⟩
  · rw [← number, ← place]
    exact BlockStream.getElem?_block block (64 + i)
  · rw [Session.combine_eq_xorStream, Bytes.getElem?_xorStream, List.getElem?_eq_getElem h,
      ← streamByte_session]
    rfl

end ChaChaPoly

namespace BlockStream

open ChaChaPoly

theorem run_takeKey (block : Nat → Buffer 64) :
    takeKey.run { block } =
      pure ((authenticatorKey (block 0)).bytes, { block, position := 64 }) := by
  have zeros : Bytes.xorStream (fun i => byteAt block (0 + i)) (List.replicate 64 0) =
      (block 0).bytes := by
    simp only [Nat.zero_add, xorStream_zeros]
  unfold takeKey
  rw [StateT.run_bind, run_combine, pure_bind, zeros]
  rfl

/-- What follows the first block gives the bodies of the session that starts at block one. -/
theorem run_combine_body (block : Nat → Buffer 64) (tagInput : Bytes → Bytes → Bytes)
    (message : Bytes) :
    (combine message).run { block, position := 64 } =
      pure ((session block tagInput).combine message,
        { block, position := 64 + message.length }) := by
  have stream : (fun i => byteAt block (64 + i)) = (session block tagInput).streamByte := by
    funext i
    exact (streamByte_session block tagInput i).symm
  rw [run_combine, Session.combine_eq_xorStream, ← stream]

/-- A stream from its start gives the authenticator key and the body of the session that starts at
block one. -/
theorem run_keyAndBody (block : Nat → Buffer 64) (tagInput : Bytes → Bytes → Bytes)
    (message : Bytes) :
    (keyAndBody message).run' { block } =
      pure ((authenticatorKey (block 0)).bytes, (session block tagInput).combine message) := by
  unfold keyAndBody
  rw [StateT.run'_eq, StateT.run_bind, run_takeKey, pure_bind, StateT.run_bind,
    run_combine_body block tagInput, pure_bind]
  rfl

end BlockStream

/-! ## The last row of a state -/

/-- The words after `k` whole words are those of the bytes that follow. -/
theorem Bytes.word32_append {front : Bytes} {k : Nat} (h : front.length = 4 * k) (rest : Bytes)
    (i : Nat) : (front ++ rest).word32 (k + i) = rest.word32 i := by
  have offset : 4 * (k + i) = front.length + 4 * i := by omega
  unfold word32
  rw [offset, List.drop_length_add_append]

namespace ChaChaPoly

/-- Both layouts have one row for a block number that fits into one word. -/
theorem shortNonceBlock_eq_ietfBlock (key : Buffer 32) (nonce : Bytes) {i : Nat} (h : i < 2 ^ 32) :
    shortNonceBlock key nonce i = ietfBlock key ([0, 0, 0, 0] ++ nonce) i := by
  let padded : Bytes := [0, 0, 0, 0] ++ nonce
  have none_above : i / Nat.pow 2 32 = 0 := Nat.div_eq_of_lt h
  have above : (i / Nat.pow 2 32).toUInt32 = padded.word32 0 := by
    rw [none_above]
    rfl
  have first : nonce.word32 0 = padded.word32 1 := (Bytes.word32_append (k := 1) rfl nonce 0).symm
  have second : nonce.word32 1 = padded.word32 2 := (Bytes.word32_append (k := 1) rfl nonce 1).symm
  unfold shortNonceBlock ietfBlock
  rw [above, first, second]

/-- So both have one body for each message that ends before the block numbers do. -/
theorem combine_shortNonce (key : Buffer 32) (nonce : Bytes) {message : Bytes}
    (h : message.length ≤ 64 * (2 ^ 32 - 1)) :
    (shortNonce.session key nonce).combine message =
      (ietf.session key ([0, 0, 0, 0] ++ nonce)).combine message := by
  show (session (shortNonceBlock key nonce) plainTagInput).combine message =
    (session (ietfBlock key ([0, 0, 0, 0] ++ nonce)) paddedTagInput).combine message
  rw [Session.combine_eq_xorStream, Session.combine_eq_xorStream]
  refine Bytes.xorStream_congr fun i hi => ?_
  have number : (64 + i) / 64 < 2 ^ 32 := by omega
  rw [streamByte_session, streamByte_session]
  unfold BlockStream.byteAt
  simp only [shortNonceBlock_eq_ietfBlock key nonce number]

/-- The constructions take one authenticator key, and differ in what is authenticated. -/
theorem sealed_shortNonce (key : Buffer 32) (nonce : Bytes) {message : Bytes}
    (h : message.length ≤ 64 * (2 ^ 32 - 1)) (ad : Bytes) :
    let block := ietfBlock key ([0, 0, 0, 0] ++ nonce)
    let body := (ietf.session key ([0, 0, 0, 0] ++ nonce)).combine message
    (shortNonce.session key nonce).sealed ad message =
      ⟨body, (Poly1305.tag (authenticatorKey (block 0)) (plainTagInput ad body)).bytes⟩ := by
  intro block body
  have same : (shortNonce.session key nonce).combine message = body :=
    combine_shortNonce key nonce h
  have first : shortNonceBlock key nonce 0 = block 0 :=
    shortNonceBlock_eq_ietfBlock key nonce (by decide)
  unfold Session.sealed
  rw [same, ← first]
  rfl

/-- The number of a message's block is never that of the first block. -/
theorem toUInt32_blockNumber_ne_zero {i : Nat} (h : i < 64 * (2 ^ 32 - 1)) :
    (1 + i / 64).toUInt32 ≠ 0 := by
  intro zero
  have number : (1 + i / 64).toUInt32.toNat = (1 + i / 64) % 2 ^ 32 := UInt32.toNat_ofNat'
  rw [zero] at number
  change 0 = _ at number
  omega

end ChaChaPoly

/-! ## Encryption -/

/-- Encryption under a key gives body and tag, in both modes. -/
structure EncryptsTo (algorithm : Algorithm) (message : Bytes) (ad : AssociatedData)
    (nonce key : Bytes) (parts : Detached) : Prop where
  detached : Family.encryptDetached algorithm message ad nonce key = .ok (some parts)
  combined : sealMessage algorithm message ad nonce key = .ok (some parts.join)

theorem encryptsTo_sealed (algorithm : Algorithm) {nonce key : Bytes}
    {cipher : algorithm.construction.Cipher}
    (hnonce : nonce.length = algorithm.descriptor.nonceLength)
    (hcipher : algorithm.cipher? (.raw key) = some cipher) (message : Bytes)
    (ad : AssociatedData) :
    EncryptsTo algorithm message ad nonce key
      ((algorithm.construction.session cipher nonce).sealed ad.bytes message) where
  detached := Provider.answer_encryptDetached hnonce hcipher message ad
  combined := sealMessage_eq_join hnonce hcipher message ad

open ChaChaPoly in
/-- **One keystream for two layouts.** Under one key, encryption with a 64-bit nonce and encryption
with that nonce after four zero bytes give one body, whatever the associated data on either side, up
to the last message that 32-bit block numbers reach. Byte `i` of it is byte `i` of the message,
combined with byte `i % 64` of the block numbered `1 + i / 64`, so never with the first block, half
of which is the authenticator key of both. The tags are those of the two layouts of what is
authenticated. With the short nonce, key and body are what one stream gives that is used up in
order: its first 64 bytes for the key, and the next ones for the message. -/
theorem shortNonce_encrypts_as_ietf {key nonce : Bytes} (hkey : key.length = 32)
    (hnonce : nonce.length = 8) {message : Bytes} (hmessage : message.length ≤ 64 * (2 ^ 32 - 1))
    (ad ad' : AssociatedData) :
    let block := ietfBlock ⟨key, hkey⟩ ([0, 0, 0, 0] ++ nonce)
    let oneTimeKey := authenticatorKey (block 0)
    ∃ body : Bytes, body.length = message.length ∧
      EncryptsTo .chacha20Poly1305 message ad nonce key
        ⟨body, (Poly1305.tag oneTimeKey
          (ad.bytes ++ Bytes.le 8 ad.length ++ body ++ Bytes.le 8 body.length)).bytes⟩ ∧
      EncryptsTo .chacha20Poly1305Ietf message ad' ([0, 0, 0, 0] ++ nonce) key
        ⟨body, (Poly1305.tag oneTimeKey (paddedTagInput ad'.bytes body)).bytes⟩ ∧
      (∀ i, (h : i < message.length) → (1 + i / 64).toUInt32 ≠ 0 ∧
        ∃ byte, (block (1 + i / 64)).bytes[i % 64]? = some byte ∧
          body[i]? = some (message[i] ^^^ byte)) ∧
      oneTimeKey.bytes = (block 0).bytes.take 32 ∧
      (BlockStream.keyAndBody message).run' { block := shortNonceBlock ⟨key, hkey⟩ nonce } =
        pure (oneTimeKey.bytes, body) := by
  intro block oneTimeKey
  have hcipher : Buffer.ofBytes? 32 key = some ⟨key, hkey⟩ := Buffer.ofBytes?_eq_some_iff.2 rfl
  have hpadded : ([0, 0, 0, 0] ++ nonce : Bytes).length = 12 := by
    rw [List.length_append, hnonce]
    rfl
  let body := (ietf.session ⟨key, hkey⟩ ([0, 0, 0, 0] ++ nonce)).combine message
  refine ⟨body, Session.length_combine _ message, ?_, ?_, fun i hi => ⟨?_, ?_⟩, rfl, ?_⟩
  · have encrypts := encryptsTo_sealed .chacha20Poly1305 hnonce hcipher message ad
    have parts := sealed_shortNonce ⟨key, hkey⟩ nonce hmessage ad.bytes
    exact (congrArg (EncryptsTo .chacha20Poly1305 message ad nonce key) parts).mp encrypts
  · exact encryptsTo_sealed .chacha20Poly1305Ietf hpadded hcipher message ad'
  · exact toUInt32_blockNumber_ne_zero (hi.trans_le hmessage)
  · exact getElem?_combine_session block paddedTagInput message hi
  · have first : shortNonceBlock ⟨key, hkey⟩ nonce 0 = block 0 :=
      shortNonceBlock_eq_ietfBlock ⟨key, hkey⟩ nonce (by decide)
    have same : (shortNonce.session ⟨key, hkey⟩ nonce).combine message = body :=
      combine_shortNonce ⟨key, hkey⟩ nonce hmessage
    rw [BlockStream.run_keyAndBody _ plainTagInput, first]
    exact congrArg (fun body => pure (oneTimeKey.bytes, body)) same

/-- Four bytes under zeros: the body with a short nonce, computed, is the body with a long one, with
other associated data. -/
theorem shortNonce_encrypts_as_ietf_of_four_bytes :
    let key : Bytes := List.replicate 32 0
    let nonce : Bytes := List.replicate 8 0
    let message : Bytes := [116, 101, 115, 116]
    key.length = 32 ∧ nonce.length = 8 ∧ message.length ≤ 64 * (2 ^ 32 - 1) ∧
    Family.encryptDetached .chacha20Poly1305 message .absent nonce key =
      .ok (some ⟨[235, 98, 148, 202],
        [227, 78, 66, 144, 62, 233, 41, 94, 5, 71, 41, 24, 71, 160, 250, 189]⟩) ∧
    ∃ tag,
      Family.encryptDetached .chacha20Poly1305Ietf message (.present [7]) (List.replicate 12 0)
          key =
        .ok (some ⟨[235, 98, 148, 202], tag⟩) := by
  intro key nonce message
  have hkey : key.length = 32 := rfl
  have hnonce : nonce.length = 8 := rfl
  have hmessage : message.length ≤ 64 * (2 ^ 32 - 1) := by decide
  have computed : Family.encryptDetached .chacha20Poly1305 message .absent nonce key =
      .ok (some ⟨[235, 98, 148, 202],
        [227, 78, 66, 144, 62, 233, 41, 94, 5, 71, 41, 24, 71, 160, 250, 189]⟩) := by
    decide +kernel
  obtain ⟨body, -, short, long, -⟩ :=
    shortNonce_encrypts_as_ietf hkey hnonce hmessage .absent (.present [7])
  have same := computed.symm.trans short.detached
  rw [Except.ok.injEq, Option.some.injEq, Detached.mk.injEq] at same
  rw [← same.1] at long
  exact ⟨hkey, hnonce, hmessage, computed, _, long.detached⟩

end Aead
