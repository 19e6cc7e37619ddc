import Aead.Proofs.NonceLayouts

/-!
# What a detached call leaves behind

The primitive of an algorithm is called with buffers of any sizes and in any state. It refuses sizes
that do not go together and touches nothing then. Otherwise sealing fills its buffers, and opening
copies the body before it looks at the tag: under a wrong tag the body stays where it was copied to,
and no byte of it is decrypted.

On the way byte strings are copied into buffers and read as nonces, tags and keys, which is possible
only for the right number of bytes. The calls are written out here a second time, step by step, with
no result where a step is impossible. They always have one, the same as the calls themselves.

Results:

* `Construction.sealDetached_of_fits`, `Construction.openDetached_of_authentic` and their
  companions: what is left behind, case by case.
* `Algorithm.sealDetached?_eq_some`, `Algorithm.openDetached?_eq_some`: every step is possible.
* `Provider.detached_calls_fill_or_refuse`: both, for the detached functions of each algorithm.
-/

namespace Aead

/-! ## Case by case -/

theorem Status.failure_ne_success : failure ≠ success := by
  decide

namespace Construction

variable (c : Construction) (cipher : c.Cipher) {n k : Nat} (ad : Option Bytes)

section Seal

variable {message nonce : Bytes}

theorem sealDetached_of_misfit
    (h : ¬(nonce.length = c.nonceLength ∧ k = tagLength ∧ n = message.length)) (body : Buffer n)
    (mac : Buffer k) :
    c.sealDetached cipher body mac message ad nonce = ⟨.failure, body, mac⟩ :=
  dif_neg h

variable (h : nonce.length = c.nonceLength ∧ k = tagLength ∧ n = message.length)
include h

/-- Sizes that go together are filled with body and tag of the message. -/
theorem sealDetached_of_fits (body : Buffer n) (mac : Buffer k) :
    let parts := (c.session cipher nonce).sealed (ad.getD []) message
    let left := c.sealDetached cipher body mac message ad nonce
    left.status = .success ∧ left.body.bytes = parts.ciphertext ∧ left.mac.bytes = parts.mac := by
  unfold sealDetached
  rw [dif_pos h]
  exact ⟨rfl, rfl, rfl⟩

/-- Nothing of the former contents is left. -/
theorem sealDetached_eq_of_fits (body body' : Buffer n) (mac mac' : Buffer k) :
    c.sealDetached cipher body mac message ad nonce =
      c.sealDetached cipher body' mac' message ad nonce := by
  unfold sealDetached
  rw [dif_pos h, dif_pos h]

end Seal

section Open

variable {body mac nonce : Bytes}

theorem openDetached_of_misfit
    (h : ¬(nonce.length = c.nonceLength ∧ mac.length = tagLength ∧ n = body.length))
    (message : Buffer n) :
    c.openDetached cipher message body mac ad nonce = ⟨.failure, message⟩ :=
  dif_neg h

variable (h : nonce.length = c.nonceLength ∧ mac.length = tagLength ∧ n = body.length)
include h

/-- Under the tag of a body the buffer is filled with its message. -/
theorem openDetached_of_authentic
    (authentic : (c.session cipher nonce).Authentic (ad.getD []) body mac) (message : Buffer n) :
    let left := c.openDetached cipher message body mac ad nonce
    left.status = .success ∧ left.message.bytes = (c.session cipher nonce).combine body := by
  unfold openDetached
  dsimp only
  rw [dif_pos h, if_pos authentic]
  exact ⟨rfl, rfl⟩

/-- Under any other tag the body is left where the message should have been. -/
theorem openDetached_of_not_authentic
    (forged : ¬(c.session cipher nonce).Authentic (ad.getD []) body mac) (message : Buffer n) :
    let left := c.openDetached cipher message body mac ad nonce
    left.status = .failure ∧ left.message.bytes = body := by
  unfold openDetached
  dsimp only
  rw [dif_pos h, if_neg forged]
  exact ⟨rfl, rfl⟩

end Open

end Construction

/-! ## Ciphers that work in place -/

/-- The right number of bytes can be copied into a buffer. -/
theorem Buffer.ofBytes?_of_length {n : Nat} {bytes : Bytes} (h : bytes.length = n) :
    ofBytes? n bytes = some ⟨bytes, h⟩ :=
  dif_pos h

namespace Session

variable (s : Session) (ad : Bytes) {n : Nat}

/-- Encrypts a buffer and gives the tag. -/
def encryptInPlace (buffer : Buffer n) : Buffer n × Buffer tagLength :=
  let body := s.combine buffer.bytes
  (⟨body, by rw [length_combine, Buffer.length_bytes]⟩, s.tag ad body)

/-- Decrypts a buffer if the tag is right; a buffer with a wrong tag stays as it is. -/
def decryptInPlace (buffer : Buffer n) (tag : Buffer tagLength) : Bool × Buffer n :=
  if s.Authentic ad buffer.bytes tag.bytes then
    (true, ⟨s.combine buffer.bytes, by rw [length_combine, Buffer.length_bytes]⟩)
  else
    (false, buffer)

end Session

/-- Combines a buffer in place with the next bytes of a stream. -/
def BlockStream.combineBuffer {n : Nat} (s : BlockStream) (buffer : Buffer n) : Buffer n :=
  ⟨(combine buffer.bytes).run' s, by
    show (Prod.fst <$> (combine buffer.bytes).run s).length = n
    rw [run_combine]
    exact (Bytes.length_xorStream _ _).trans buffer.length_bytes⟩

namespace ChaChaPoly

/-- The authenticator key from the first block of the stream with 64-bit nonces, and the stream
after that block. -/
def keyedStream? (key : Buffer 32) (nonce : Buffer 8) : Option (Buffer 32 × BlockStream) := do
  let streamKey ← Buffer.ofBytes? 32 key.bytes
  let streamNonce ← Buffer.ofBytes? 8 nonce.bytes
  let (front, stream) :=
    BlockStream.takeKey.run { block := shortNonceBlock streamKey streamNonce.bytes }
  let oneTimeKey ← Buffer.ofBytes? 32 front
  return (oneTimeKey, stream)

variable (key : Buffer 32) (nonce : Buffer 8) (ad : Bytes) {n : Nat} (buffer : Buffer n)

/-- Encryption in place with 64-bit nonces. -/
def encryptInPlace? : Option (Buffer n × Buffer tagLength) := do
  let (oneTimeKey, stream) ← keyedStream? key nonce
  let body := stream.combineBuffer buffer
  let tag ← Buffer.ofBytes? tagLength (Poly1305.tag oneTimeKey (plainTagInput ad body.bytes)).bytes
  return (body, tag)

/-- Decryption in place with 64-bit nonces. The tags are compared before the stream touches the
buffer. -/
def decryptInPlace? (tag : Buffer tagLength) : Option (Bool × Buffer n) := do
  let (oneTimeKey, stream) ← keyedStream? key nonce
  if (Poly1305.tag oneTimeKey (plainTagInput ad buffer.bytes)).bytes = tag.bytes then
    return (true, stream.combineBuffer buffer)
  else
    return (false, buffer)

theorem keyedStream?_eq_some : keyedStream? key nonce =
    some (authenticatorKey (shortNonceBlock key nonce.bytes 0),
      { block := shortNonceBlock key nonce.bytes, position := 64 }) := by
  unfold keyedStream?
  rw [Buffer.ofBytes?_bytes, Option.bind_eq_bind, Option.bind_some, Buffer.ofBytes?_bytes,
    Option.bind_eq_bind, Option.bind_some, BlockStream.run_takeKey]
  show (Buffer.ofBytes? 32 (authenticatorKey _).bytes >>= _) = _
  rw [Buffer.ofBytes?_bytes]
  rfl

/-- The session of the stream. -/
def streamSession : Session :=
  session (shortNonceBlock key nonce.bytes) plainTagInput

theorem combineBuffer_eq :
    BlockStream.combineBuffer { block := shortNonceBlock key nonce.bytes, position := 64 } buffer =
      ((streamSession key nonce).encryptInPlace ad buffer).1 := by
  rw [← Buffer.bytes_inj]
  show (Prod.fst <$> (BlockStream.combine buffer.bytes).run _ : Id Bytes) = _
  rw [BlockStream.run_combine_body _ plainTagInput]
  rfl

/-- No step of encryption is impossible, and together they seal. -/
theorem encryptInPlace?_eq_some :
    encryptInPlace? key nonce ad buffer =
      some ((streamSession key nonce).encryptInPlace ad buffer) := by
  let session := streamSession key nonce
  have tag (body : Bytes) : Buffer.ofBytes? tagLength (session.tag ad body).bytes =
      some (session.tag ad body) :=
    Buffer.ofBytes?_bytes _
  unfold encryptInPlace?
  rw [keyedStream?_eq_some, Option.bind_eq_bind, Option.bind_some]
  dsimp only
  rw [combineBuffer_eq key nonce ad buffer]
  show (Buffer.ofBytes? tagLength (session.tag ad _).bytes >>= _) = _
  rw [tag]
  rfl

/-- No step of decryption is impossible, and together they open. -/
theorem decryptInPlace?_eq_some (tag : Buffer tagLength) :
    decryptInPlace? key nonce ad buffer tag =
      some ((streamSession key nonce).decryptInPlace ad buffer tag) := by
  unfold decryptInPlace? Session.decryptInPlace
  rw [keyedStream?_eq_some, Option.bind_eq_bind, Option.bind_some, apply_ite some]
  dsimp only
  rw [combineBuffer_eq key nonce ad buffer]
  rfl

end ChaChaPoly

/-! ## Step by step -/

namespace Algorithm

/-- Encryption in place. Only the construction with 64-bit nonces is put together here; the others
are ciphers of their own. -/
def encryptInPlace? {n : Nat} : (algorithm : Algorithm) → algorithm.construction.Cipher →
    Buffer algorithm.construction.nonceLength → Bytes → Buffer n →
    Option (Buffer n × Buffer tagLength)
  | chacha20Poly1305, key, nonce, ad, buffer => ChaChaPoly.encryptInPlace? key nonce ad buffer
  | algorithm, cipher, nonce, ad, buffer =>
    some ((algorithm.construction.session cipher nonce.bytes).encryptInPlace ad buffer)

/-- Decryption in place. -/
def decryptInPlace? {n : Nat} : (algorithm : Algorithm) → algorithm.construction.Cipher →
    Buffer algorithm.construction.nonceLength → Bytes → Buffer n → Buffer tagLength →
    Option (Bool × Buffer n)
  | chacha20Poly1305, key, nonce, ad, buffer, tag =>
    ChaChaPoly.decryptInPlace? key nonce ad buffer tag
  | algorithm, cipher, nonce, ad, buffer, tag =>
    some ((algorithm.construction.session cipher nonce.bytes).decryptInPlace ad buffer tag)

variable (algorithm : Algorithm) (cipher : algorithm.construction.Cipher) {n k : Nat}

theorem encryptInPlace?_eq_some (nonce : Buffer algorithm.construction.nonceLength) (ad : Bytes)
    (buffer : Buffer n) :
    algorithm.encryptInPlace? cipher nonce ad buffer =
      some ((algorithm.construction.session cipher nonce.bytes).encryptInPlace ad buffer) := by
  cases algorithm with
  | chacha20Poly1305 => exact ChaChaPoly.encryptInPlace?_eq_some cipher nonce ad buffer
  | _ => rfl

theorem decryptInPlace?_eq_some (nonce : Buffer algorithm.construction.nonceLength) (ad : Bytes)
    (buffer : Buffer n) (tag : Buffer tagLength) :
    algorithm.decryptInPlace? cipher nonce ad buffer tag =
      some ((algorithm.construction.session cipher nonce.bytes).decryptInPlace ad buffer tag) := by
  cases algorithm with
  | chacha20Poly1305 => exact ChaChaPoly.decryptInPlace?_eq_some cipher nonce ad buffer tag
  | _ => rfl

/-- Detached sealing, step by step: the message is copied into the body and encrypted there, and the
tag is copied out. -/
def sealDetached? (body : Buffer n) (mac : Buffer k) (message : Bytes) (ad : Option Bytes)
    (nonce : Bytes) : Option (SealResult n k) :=
  if nonce.length ≠ algorithm.construction.nonceLength ∨ k ≠ tagLength ∨ n ≠ message.length then
    return { status := .failure, body, mac }
  else do
    let copied ← Buffer.ofBytes? n message
    let nonce ← Buffer.ofBytes? algorithm.construction.nonceLength nonce
    let (body, tag) ← algorithm.encryptInPlace? cipher nonce (ad.getD []) copied
    let mac ← Buffer.ofBytes? k tag.bytes
    return { status := .success, body, mac }

/-- Detached opening, step by step: the body is copied into the message and decrypted there. -/
def openDetached? (message : Buffer n) (body mac : Bytes) (ad : Option Bytes) (nonce : Bytes) :
    Option (OpenResult n) :=
  if nonce.length ≠ algorithm.construction.nonceLength ∨ mac.length ≠ tagLength ∨
      n ≠ body.length then
    return { status := .failure, message }
  else do
    let copied ← Buffer.ofBytes? n body
    let nonce ← Buffer.ofBytes? algorithm.construction.nonceLength nonce
    let tag ← Buffer.ofBytes? tagLength mac
    let (accepted, message) ← algorithm.decryptInPlace? cipher nonce (ad.getD []) copied tag
    return { status := if accepted then .success else .failure, message }

/-- Every step of detached sealing is possible, whatever the sizes. -/
theorem sealDetached?_eq_some (body : Buffer n) (mac : Buffer k) (message : Bytes)
    (ad : Option Bytes) (nonce : Bytes) :
    algorithm.sealDetached? cipher body mac message ad nonce =
      some (algorithm.construction.sealDetached cipher body mac message ad nonce) := by
  unfold sealDetached? Construction.sealDetached
  by_cases h : nonce.length = algorithm.construction.nonceLength ∧ k = tagLength ∧
      n = message.length
  · rw [if_neg (by tauto), dif_pos h]
    obtain ⟨hnonce, rfl, rfl⟩ := h
    rw [Buffer.ofBytes?_of_length rfl, Buffer.ofBytes?_of_length hnonce]
    simp only [Option.bind_eq_bind, Option.bind_some, encryptInPlace?_eq_some,
      Buffer.ofBytes?_bytes]
    rfl
  · rw [if_pos (by tauto), dif_neg h]
    rfl

/-- Every step of detached opening is possible, whatever the sizes. -/
theorem openDetached?_eq_some (message : Buffer n) (body mac : Bytes) (ad : Option Bytes)
    (nonce : Bytes) :
    algorithm.openDetached? cipher message body mac ad nonce =
      some (algorithm.construction.openDetached cipher message body mac ad nonce) := by
  unfold openDetached? Construction.openDetached
  by_cases h : nonce.length = algorithm.construction.nonceLength ∧ mac.length = tagLength ∧
      n = body.length
  · rw [if_neg (by tauto), dif_pos h]
    obtain ⟨hnonce, hmac, rfl⟩ := h
    rw [Buffer.ofBytes?_of_length rfl, Buffer.ofBytes?_of_length hnonce,
      Buffer.ofBytes?_of_length hmac]
    simp only [Option.bind_eq_bind, Option.bind_some, decryptInPlace?_eq_some,
      Session.decryptInPlace]
    by_cases authentic :
        (algorithm.construction.session cipher nonce).Authentic (ad.getD []) body mac
    · rw [if_pos authentic, if_pos authentic]
      rfl
    · rw [if_neg authentic, if_neg authentic]
      rfl
  · rw [if_pos (by tauto), dif_neg h]
    rfl

end Algorithm

/-! ## The four algorithms -/

namespace Provider

/-- **Fill or refuse.** For every algorithm, cipher, associated data and nonce, for buffers of all
sizes and contents: detached sealing succeeds exactly when the sizes go together, and then fills its
buffers with body and tag of the message, whatever they held; otherwise it leaves both as they are.
Detached opening leaves the buffer as it is when the sizes do not go together. When they do, a tag
that is not the body's leaves the body itself in the buffer, undecrypted, and the body's own tag
leaves the message, the one that is sealed to body and tag. No call has an impossible step: no copy
between different lengths, and no nonce, tag or key of a wrong length. -/
theorem detached_calls_fill_or_refuse (algorithm : Algorithm)
    (cipher : (standard algorithm).Cipher) (ad : Option Bytes) (nonce : Bytes) :
    let session := algorithm.construction.session cipher nonce
    (∀ {n k : Nat} (body : Buffer n) (mac : Buffer k) (message : Bytes),
      let fits := nonce.length = algorithm.descriptor.nonceLength ∧ k = 16 ∧ n = message.length
      let left := Id.run ((standard algorithm).sealDetached cipher body mac message ad nonce)
      (left.status = .success ↔ fits) ∧
      (fits → (⟨left.body.bytes, left.mac.bytes⟩ : Detached) = session.sealed (ad.getD []) message ∧
        ∀ body' mac',
          Id.run ((standard algorithm).sealDetached cipher body' mac' message ad nonce) = left) ∧
      (¬fits → left = ⟨.failure, body, mac⟩) ∧
      algorithm.sealDetached? cipher body mac message ad nonce = some left) ∧
    (∀ {n : Nat} (message : Buffer n) (body mac : Bytes),
      let fits := nonce.length = algorithm.descriptor.nonceLength ∧ mac.length = 16 ∧
        n = body.length
      let tag := (session.tag (ad.getD []) body).bytes
      let left := Id.run ((standard algorithm).openDetached cipher message body mac ad nonce)
      (¬fits → left = ⟨.failure, message⟩) ∧
      (fits → mac ≠ tag → left.status = .failure ∧ left.message.bytes = body) ∧
      (fits → mac = tag → left.status = .success ∧
        session.sealed (ad.getD []) left.message.bytes = ⟨body, mac⟩) ∧
      algorithm.openDetached? cipher message body mac ad nonce = some left) := by
  intro session
  let c := algorithm.construction
  rw [← algorithm.nonceLength_construction]
  refine ⟨fun {n k} body mac message => ?_, fun {n} message body mac => ?_⟩
  · intro fits left
    have filled (h : fits) := c.sealDetached_of_fits cipher ad h body mac
    have refused (h : ¬fits) : left = ⟨.failure, body, mac⟩ :=
      c.sealDetached_of_misfit cipher ad h body mac
    refine ⟨⟨fun success => ?_, fun h => (filled h).1⟩, fun h => ⟨?_, fun body' mac' => ?_⟩,
      refused,
      algorithm.sealDetached?_eq_some cipher body mac message ad nonce⟩
    · by_contra h
      rw [refused h] at success
      exact Status.failure_ne_success success
    · obtain ⟨-, body_eq, mac_eq⟩ := filled h
      exact (Detached.mk.injEq ..).mpr ⟨body_eq, mac_eq⟩
    · exact c.sealDetached_eq_of_fits cipher ad h body' body mac' mac
  · intro fits tag left
    refine ⟨fun h => c.openDetached_of_misfit cipher ad h message, fun h forged => ?_,
      fun h authentic => ?_, algorithm.openDetached?_eq_some cipher message body mac ad nonce⟩
    · exact c.openDetached_of_not_authentic cipher ad h forged.symm message
    · obtain ⟨status, opened⟩ := c.openDetached_of_authentic cipher ad h authentic.symm message
      have own : session.opened? (ad.getD []) body mac = some (session.combine body) :=
        if_pos authentic.symm
      refine ⟨status, ?_⟩
      rw [← session.opened?_eq_some_iff, own]
      exact congrArg some opened.symm

/-- A key of zeros: a tag of 15 bytes cannot be filled, and under a forged tag the buffer holds the
body where it held nines. -/
theorem detached_calls_fill_or_refuse_of_forged_tag :
    let primitive := standard .chacha20Poly1305
    let key : Buffer 32 := Buffer.zeros 32
    let nonce : Bytes := List.replicate 8 0
    let body : Bytes := [235, 98, 148, 202]
    let forged : Bytes := [226, 78, 66, 144, 62, 233, 41, 94, 5, 71, 41, 24, 71, 160, 250, 189]
    let buffer : Buffer 4 := Buffer.filled 4 9
    let mac : Buffer 15 := Buffer.filled 15 9
    Id.run (primitive.sealDetached key buffer mac [116, 101, 115, 116] none nonce) =
        ⟨.failure, buffer, mac⟩ ∧
      (Id.run (primitive.openDetached key buffer body forged none nonce)).status = .failure ∧
      (Id.run (primitive.openDetached key buffer body forged none nonce)).message.bytes = body := by
  intro primitive key nonce body forged buffer mac
  obtain ⟨seals, opens⟩ := detached_calls_fill_or_refuse .chacha20Poly1305 key none nonce
  have short : ¬(nonce.length = 8 ∧ 15 = 16 ∧ 4 = 4) := by decide
  have fits : nonce.length = 8 ∧ forged.length = 16 ∧ 4 = body.length := by decide
  have wrong :
      forged ≠ ((ChaChaPoly.shortNonce.session key nonce).tag [] body).bytes := by
    decide +kernel
  obtain ⟨-, -, refused, -⟩ := seals buffer mac [116, 101, 115, 116]
  obtain ⟨-, undecrypted, -⟩ := opens buffer body forged
  exact ⟨refused short, undecrypted fits wrong⟩

end Provider

end Aead
