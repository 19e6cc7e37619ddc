import Aead.Proofs.Sealing

/-!
# Encryption and decryption undo each other

For each of the four algorithms, under one key and one nonce of the right lengths. What encryption
gives, decryption takes back, and decryption takes nothing else: a ciphertext that opens is the one
that sealing the message gives, byte for byte. Both hold for body and tag in one byte string and for
body and tag apart, and for messages of every length.

Results:

* `open_seal`: encryption always gives a ciphertext, of the message's length and a tag's, and
  decryption gives the message back.
* `seal_open`: a ciphertext that decryption accepts is the encryption of the message; every other
  one that can hold a tag is refused without a failure.
-/

namespace Aead

/-! ## Operations as data and by name -/

section Operations

open Requirement

variable (algorithm : Algorithm) (ad : AssociatedData) (nonce : Bytes)

theorem dispatch_encrypt_combined (message : Bytes) (mac : Option Bytes) (key : KeyInput) :
    dispatch algorithm .encrypt .combined ⟨message, mac, ad, nonce, key⟩ =
      Option.map .ciphertext <$>
        answer ((Provider.standard algorithm).encrypt message ad nonce key) :=
  answer_map _ _

theorem dispatch_decrypt_combined (ciphertext : Bytes) (mac : Option Bytes) (key : KeyInput) :
    dispatch algorithm .decrypt .combined ⟨ciphertext, mac, ad, nonce, key⟩ =
      Option.map .plaintext <$>
        answer ((Provider.standard algorithm).decrypt ciphertext ad nonce key) :=
  answer_map _ _

theorem dispatch_encrypt_detached (message : Bytes) (mac : Option Bytes) (key : KeyInput) :
    dispatch algorithm .encrypt .detached ⟨message, mac, ad, nonce, key⟩ =
      Option.map .detached <$>
        answer ((Provider.standard algorithm).encryptDetached message ad nonce key) :=
  answer_map _ _

theorem dispatch_decrypt_detached (body mac : Bytes) (key : KeyInput) :
    dispatch algorithm .decrypt .detached ⟨body, some mac, ad, nonce, key⟩ =
      Option.map .plaintext <$>
        answer ((Provider.standard algorithm).decryptDetached body mac ad nonce key) :=
  answer_map _ _

/-- Sealing is combined encryption. -/
theorem sealMessage_eq_encrypt (message key : Bytes) :
    sealMessage algorithm message ad nonce key = Family.encrypt algorithm message ad nonce key := by
  have dispatched : dispatch algorithm .encrypt .combined
      ⟨message, none, ad, nonce, .raw key⟩ =
      Option.map .ciphertext <$> Family.encrypt algorithm message ad nonce key :=
    dispatch_encrypt_combined algorithm ad nonce message none (.raw key)
  unfold sealMessage
  rw [dispatched]
  cases Family.encrypt algorithm message ad nonce key with
  | error e => rfl
  | ok sealed => cases sealed <;> rfl

/-- Opening is combined decryption. -/
theorem openSealed_eq_decrypt (ciphertext key : Bytes) :
    openSealed algorithm ciphertext ad nonce key =
      Family.decrypt algorithm ciphertext ad nonce key := by
  have dispatched : dispatch algorithm .decrypt .combined
      ⟨ciphertext, none, ad, nonce, .raw key⟩ =
      Option.map .plaintext <$> Family.decrypt algorithm ciphertext ad nonce key :=
    dispatch_decrypt_combined algorithm ad nonce ciphertext none (.raw key)
  unfold openSealed
  rw [dispatched]
  cases Family.decrypt algorithm ciphertext ad nonce key with
  | error e => rfl
  | ok message => cases message <;> rfl

/-- A ciphertext that cannot hold a tag is a failure. -/
theorem openSealed_of_short {ciphertext : Bytes} (h : ciphertext.length < tagLength)
    (key : Bytes) :
    openSealed algorithm ciphertext ad nonce key =
      .error (.lengthMismatch "ciphertext" (.atLeast algorithm.descriptor.tagLength)) := by
  have not_met : ¬(minLength "ciphertext" algorithm.descriptor.tagLength ciphertext).met := by
    rw [algorithm.tagLength_descriptor]
    exact decide_eq_true_iff.not.2 (Nat.not_le.2 h)
  have failed : (Provider.standard algorithm).decrypt ciphertext ad nonce (.raw key) =
      throw (.lengthMismatch "ciphertext" (.atLeast algorithm.descriptor.tagLength)) := by
    unfold Primitive.decrypt
    rw [lift_check_atLeast_bind, guarded_cons_of_not_met not_met]
    rfl
  rw [openSealed_eq_decrypt, Family.decrypt, failed]
  rfl

/-- A body under a tag of a wrong length is a failure. -/
theorem decryptDetached_of_length_ne (body : Bytes) {mac : Bytes} (h : mac.length ≠ tagLength)
    (key : Bytes) :
    Family.decryptDetached algorithm body mac ad nonce key =
      .error (.lengthMismatch "mac" (.exactly algorithm.descriptor.tagLength)) := by
  have not_met : ¬(exactLength "mac" algorithm.descriptor.tagLength mac).met := by
    rw [algorithm.tagLength_descriptor]
    exact decide_eq_true_iff.not.2 h
  have failed : (Provider.standard algorithm).decryptDetached body mac ad nonce (.raw key) =
      throw (.lengthMismatch "mac" (.exactly algorithm.descriptor.tagLength)) := by
    unfold Primitive.decryptDetached
    rw [lift_check_exact_bind, guarded_cons_of_not_met not_met]
    rfl
  rw [Family.decryptDetached, failed]
  rfl

end Operations

namespace Provider

section ClosedForms

variable {algorithm : Algorithm} {nonce : Bytes} {key : KeyInput}
  {cipher : algorithm.construction.Cipher}
  (hnonce : nonce.length = algorithm.descriptor.nonceLength)
  (hkey : algorithm.cipher? key = some cipher)
include hnonce hkey

theorem dispatch_encrypt_combined_eq (message : Bytes) (ad : AssociatedData) (mac : Option Bytes) :
    dispatch algorithm .encrypt .combined ⟨message, mac, ad, nonce, key⟩ =
      .ok (some (.ciphertext
        ((algorithm.construction.session cipher nonce).sealed ad.bytes message).join)) := by
  rw [dispatch_encrypt_combined, answer_encrypt hnonce hkey]
  rfl

theorem dispatch_encrypt_detached_eq (message : Bytes) (ad : AssociatedData) (mac : Option Bytes) :
    dispatch algorithm .encrypt .detached ⟨message, mac, ad, nonce, key⟩ =
      .ok (some (.detached
        ((algorithm.construction.session cipher nonce).sealed ad.bytes message))) := by
  rw [dispatch_encrypt_detached, answer_encryptDetached hnonce hkey]
  rfl

section Tag

variable (body : Bytes) {mac : Bytes} (hmac : mac.length = tagLength) (ad : AssociatedData)
include hmac

theorem dispatch_decrypt_combined_eq (unused : Option Bytes) :
    dispatch algorithm .decrypt .combined ⟨body ++ mac, unused, ad, nonce, key⟩ =
      .ok (((algorithm.construction.session cipher nonce).opened? ad.bytes body mac).map
        .plaintext) := by
  rw [dispatch_decrypt_combined, answer_decrypt hnonce hkey body hmac]
  rfl

theorem dispatch_decrypt_detached_eq :
    dispatch algorithm .decrypt .detached ⟨body, some mac, ad, nonce, key⟩ =
      .ok (((algorithm.construction.session cipher nonce).opened? ad.bytes body mac).map
        .plaintext) := by
  rw [dispatch_decrypt_detached, answer_decryptDetached hnonce hkey body hmac]
  rfl

end Tag

end ClosedForms

end Provider

/-! ## Cutting a ciphertext -/

/-- A ciphertext that can hold a tag is a body and a tag. -/
theorem exists_append_mac {ciphertext : Bytes} (h : tagLength ≤ ciphertext.length) :
    ∃ body mac : Bytes, ciphertext = body ++ mac ∧ mac.length = tagLength := by
  refine ⟨ciphertext.take (ciphertext.length - tagLength),
    ciphertext.drop (ciphertext.length - tagLength), ?_, ?_⟩
  · rw [List.take_append_drop]
  · rw [List.length_drop]
    omega

/-- Tags have one length, so a joined sealing is cut where it was joined. -/
theorem Session.join_sealed_eq_iff (s : Session) {ad message body mac : Bytes}
    (hmac : mac.length = tagLength) :
    (s.sealed ad message).join = body ++ mac ↔ s.sealed ad message = ⟨body, mac⟩ := by
  constructor
  · intro h
    obtain ⟨hbody, htag⟩ := List.append_inj' h ((s.length_mac_sealed ad message).trans hmac.symm)
    exact congrArg₂ Detached.mk hbody htag
  · intro h
    rw [h]
    rfl

theorem Session.length_join_sealed (s : Session) (ad message : Bytes) :
    (s.sealed ad message).join.length = message.length + tagLength := by
  rw [Detached.join, List.length_append, s.length_ciphertext_sealed, s.length_mac_sealed]

/-! ## One key and one nonce -/

section OneSession

variable {algorithm : Algorithm} {nonce key : Bytes} {cipher : algorithm.construction.Cipher}
  (hnonce : nonce.length = algorithm.descriptor.nonceLength)
  (hcipher : algorithm.cipher? (.raw key) = some cipher)
include hnonce hcipher

theorem sealMessage_eq_join (message : Bytes) (ad : AssociatedData) :
    sealMessage algorithm message ad nonce key =
      .ok (some ((algorithm.construction.session cipher nonce).sealed ad.bytes message).join) := by
  rw [sealMessage_eq_encrypt]
  exact Provider.answer_encrypt hnonce hcipher message ad

theorem openSealed_append (body : Bytes) {mac : Bytes} (hmac : mac.length = tagLength)
    (ad : AssociatedData) :
    openSealed algorithm (body ++ mac) ad nonce key =
      .ok ((algorithm.construction.session cipher nonce).opened? ad.bytes body mac) := by
  rw [openSealed_eq_decrypt]
  exact Provider.answer_decrypt hnonce hcipher body hmac ad

/-- A ciphertext opens to the one message whose sealing it is. -/
theorem openSealed_eq_some_iff {ciphertext message : Bytes} {ad : AssociatedData} :
    openSealed algorithm ciphertext ad nonce key = .ok (some message) ↔
      sealMessage algorithm message ad nonce key = .ok (some ciphertext) := by
  rw [sealMessage_eq_join hnonce hcipher, Except.ok.injEq, Option.some.injEq]
  by_cases hlong : tagLength ≤ ciphertext.length
  · obtain ⟨body, mac, rfl, hmac⟩ := exists_append_mac hlong
    rw [openSealed_append hnonce hcipher body hmac, Except.ok.injEq,
      Session.opened?_eq_some_iff, Session.join_sealed_eq_iff _ hmac]
  · -- Too short for a tag: opening fails, and no sealing is that short.
    rw [openSealed_of_short algorithm ad nonce (Nat.lt_of_not_le hlong)]
    constructor
    · intro h
      cases h
    · rintro rfl
      rw [Session.length_join_sealed] at hlong
      omega

/-- A body opens under a tag to the one message whose sealing they are. -/
theorem decryptDetached_eq_some_iff {body mac message : Bytes} {ad : AssociatedData} :
    Family.decryptDetached algorithm body mac ad nonce key = .ok (some message) ↔
      Family.encryptDetached algorithm message ad nonce key = .ok (some ⟨body, mac⟩) := by
  have encrypted : Family.encryptDetached algorithm message ad nonce key =
      .ok (some ((algorithm.construction.session cipher nonce).sealed ad.bytes message)) :=
    Provider.answer_encryptDetached hnonce hcipher message ad
  rw [encrypted, Except.ok.injEq, Option.some.injEq]
  by_cases hmac : mac.length = tagLength
  · have decrypted : Family.decryptDetached algorithm body mac ad nonce key =
        .ok ((algorithm.construction.session cipher nonce).opened? ad.bytes body mac) :=
      Provider.answer_decryptDetached hnonce hcipher body hmac ad
    rw [decrypted, Except.ok.injEq, Session.opened?_eq_some_iff]
  · rw [decryptDetached_of_length_ne algorithm ad nonce body hmac]
    constructor
    · intro h
      cases h
    · intro h
      have htag := Session.length_mac_sealed (algorithm.construction.session cipher nonce) ad.bytes
        message
      rw [h] at htag
      exact absurd htag hmac

end OneSession

/-! ## Round trips -/

/-- **Round trip.** Encryption always answers, with the message's length and a tag's, and decryption
gives the message back; a tag in the request to encrypt changes nothing. -/
theorem open_seal (algorithm : Algorithm) (message : Bytes) (ad : AssociatedData)
    {nonce key : Bytes} (hnonce : nonce.length = algorithm.descriptor.nonceLength)
    (hkey : key.length = 32) (unused : Option Bytes) :
    (∃ ciphertext, sealMessage algorithm message ad nonce key = .ok (some ciphertext) ∧
      ciphertext.length = message.length + 16 ∧
      openSealed algorithm ciphertext ad nonce key = .ok (some message)) ∧
    ∃ body mac,
      dispatch algorithm .encrypt .detached ⟨message, unused, ad, nonce, .raw key⟩ =
        .ok (some (.detached ⟨body, mac⟩)) ∧
      body.length = message.length ∧ mac.length = 16 ∧
      dispatch algorithm .decrypt .detached ⟨body, some mac, ad, nonce, .raw key⟩ =
        .ok (some (.plaintext message)) := by
  obtain ⟨cipher, hcipher⟩ := algorithm.exists_cipher hkey
  let session := algorithm.construction.session cipher nonce
  constructor
  · have hsealed := sealMessage_eq_join hnonce hcipher message ad
    exact ⟨_, hsealed, session.length_join_sealed _ _,
      (openSealed_eq_some_iff hnonce hcipher).2 hsealed⟩
  · have hsealed : Family.encryptDetached algorithm message ad nonce key =
        .ok (some (session.sealed ad.bytes message)) :=
      Provider.answer_encryptDetached hnonce hcipher message ad
    have hopened := (decryptDetached_eq_some_iff hnonce hcipher).2 hsealed
    refine ⟨_, _, ?_, session.length_ciphertext_sealed ad.bytes message,
      session.length_mac_sealed ad.bytes message, ?_⟩
    · rw [dispatch_encrypt_detached]
      exact congrArg (Option.map Output.detached <$> ·) hsealed
    · rw [dispatch_decrypt_detached]
      exact congrArg (Option.map Output.plaintext <$> ·) hopened

/-- Three bytes under zeros, with ChaCha20-Poly1305. -/
theorem open_seal_of_three_bytes :
    sealMessage .chacha20Poly1305Ietf [1, 2, 3] .absent (List.replicate 12 0)
        (List.replicate 32 0) =
      .ok (some [158, 5, 228, 126, 112, 123, 27, 50, 230, 112, 173, 70, 185, 155, 48, 110, 186, 94,
        185]) ∧
    openSealed .chacha20Poly1305Ietf
        [158, 5, 228, 126, 112, 123, 27, 50, 230, 112, 173, 70, 185, 155, 48, 110, 186, 94, 185]
        .absent (List.replicate 12 0) (List.replicate 32 0) =
      .ok (some [1, 2, 3]) := by
  have hsealed : sealMessage .chacha20Poly1305Ietf [1, 2, 3] .absent (List.replicate 12 0)
      (List.replicate 32 0) =
      .ok (some [158, 5, 228, 126, 112, 123, 27, 50, 230, 112, 173, 70, 185, 155, 48, 110, 186, 94,
        185]) := by decide +kernel
  obtain ⟨⟨ciphertext, h, -, hopened⟩, -⟩ := @open_seal .chacha20Poly1305Ietf [1, 2, 3] .absent
    (List.replicate 12 0) (List.replicate 32 0) rfl rfl none
  rw [hsealed] at h
  cases h
  exact ⟨hsealed, hopened⟩

/-- **Only sealings open.** What decryption gives, encryption turns back into the ciphertext it came
from. A ciphertext that can hold a tag and is no sealing is refused, and not a failure. -/
theorem seal_open (algorithm : Algorithm) (ad : AssociatedData) {nonce key : Bytes}
    (hnonce : nonce.length = algorithm.descriptor.nonceLength) (hkey : key.length = 32) :
    (∀ ciphertext message, openSealed algorithm ciphertext ad nonce key = .ok (some message) →
      sealMessage algorithm message ad nonce key = .ok (some ciphertext)) ∧
    (∀ body mac message,
      Family.decryptDetached algorithm body mac ad nonce key = .ok (some message) →
      Family.encryptDetached algorithm message ad nonce key = .ok (some ⟨body, mac⟩)) ∧
    ∀ ciphertext : Bytes, 16 ≤ ciphertext.length →
      (∀ message, sealMessage algorithm message ad nonce key ≠ .ok (some ciphertext)) →
      openSealed algorithm ciphertext ad nonce key = .ok none := by
  obtain ⟨cipher, hcipher⟩ := algorithm.exists_cipher hkey
  refine ⟨fun ciphertext message => (openSealed_eq_some_iff hnonce hcipher).1,
    fun body mac message => (decryptDetached_eq_some_iff hnonce hcipher).1,
    fun ciphertext hlong unsealed => ?_⟩
  obtain ⟨body, mac, rfl, hmac⟩ := exists_append_mac hlong
  have hopened := openSealed_append hnonce hcipher body hmac ad
  cases h : (algorithm.construction.session cipher nonce).opened? ad.bytes body mac with
  | none => rwa [h] at hopened
  | some message =>
    rw [h] at hopened
    exact absurd ((openSealed_eq_some_iff hnonce hcipher).1 hopened) (unsealed message)

/-- A body of three bytes under its tag opens, and is the sealing of what it opens to. Under another
tag it is no sealing, and refused. -/
theorem seal_open_of_three_bytes :
    let nonce : Bytes := List.replicate 12 6
    let key : Bytes := List.replicate 32 7
    let body : Bytes := [180, 177, 21]
    let mac : Bytes := [137, 231, 190, 253, 160, 105, 54, 32, 19, 186, 105, 116, 174, 156, 81, 102]
    openSealed .chacha20Poly1305Ietf (body ++ mac) (.present [4, 5]) nonce key =
      .ok (some [1, 2, 3]) ∧
    sealMessage .chacha20Poly1305Ietf [1, 2, 3] (.present [4, 5]) nonce key =
      .ok (some (body ++ mac)) ∧
    Family.encryptDetached .chacha20Poly1305Ietf [1, 2, 3] (.present [4, 5]) nonce key =
      .ok (some ⟨body, mac⟩) ∧
    openSealed .chacha20Poly1305Ietf (body ++ mac.reverse) (.present [4, 5]) nonce key =
      .ok none := by
  intro nonce key body mac
  have hnonce : nonce.length = Algorithm.chacha20Poly1305Ietf.descriptor.nonceLength := rfl
  have hkey : key.length = 32 := rfl
  obtain ⟨sealed, sealedDetached, refused⟩ :=
    seal_open .chacha20Poly1305Ietf (.present [4, 5]) hnonce hkey
  have opened : openSealed .chacha20Poly1305Ietf (body ++ mac) (.present [4, 5]) nonce key =
      .ok (some [1, 2, 3]) := by decide +kernel
  have openedDetached : Family.decryptDetached .chacha20Poly1305Ietf body mac (.present [4, 5])
      nonce key = .ok (some [1, 2, 3]) := by decide +kernel
  refine ⟨opened, sealed _ _ opened, sealedDetached _ _ _ openedDetached, refused _ (by decide) ?_⟩
  -- A sealing would open.
  intro message isSealing
  obtain ⟨cipher, hcipher⟩ := Algorithm.chacha20Poly1305Ietf.exists_cipher hkey
  have opens := (openSealed_eq_some_iff hnonce hcipher).2 isSealing
  have fails : openSealed .chacha20Poly1305Ietf (body ++ mac.reverse) (.present [4, 5]) nonce key =
      .ok none := by decide +kernel
  rw [fails] at opens
  cases opens

end Aead
