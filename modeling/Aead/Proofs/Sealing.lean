import Aead.Family
import Aead.Proofs.CombinedMode

/-!
# What the four algorithms compute

A key and a nonce of the right lengths fix a session, and every operation of an algorithm has a
closed form in terms of it: sealing combines the message with the keystream and tags the body,
opening compares the tag and combines again. No effect, no buffer and no status is left in these
forms.

Results:

* `Session.opened?_eq_some_iff`: opening gives a message exactly when sealing the message gives body
  and tag.
* `Provider.answer_encryptDetached`, `Provider.answer_decryptDetached`: the detached operations in
  closed form, with a key or with a context.
* `Provider.answer_encrypt`, `Provider.answer_decrypt`: the combined ones.
-/

namespace Aead

/-! ## Sealing under one key and one nonce -/

namespace Session

variable (s : Session)

/-- Body and tag of a message. -/
def sealed (associatedData message : Bytes) : Detached :=
  ⟨s.combine message, (s.tag associatedData (s.combine message)).bytes⟩

/-- The message of a body, if the tag is the body's. -/
def opened? (associatedData body mac : Bytes) : Option Bytes :=
  if s.Authentic associatedData body mac then some (s.combine body) else none

theorem length_ciphertext_sealed (ad message : Bytes) :
    (s.sealed ad message).ciphertext.length = message.length :=
  s.length_combine message

theorem length_mac_sealed (ad message : Bytes) : (s.sealed ad message).mac.length = tagLength :=
  Buffer.length_bytes _

/-- Opening gives a message exactly when sealing the message gives body and tag. -/
theorem opened?_eq_some_iff {ad body mac message : Bytes} :
    s.opened? ad body mac = some message ↔ s.sealed ad message = ⟨body, mac⟩ := by
  unfold opened? sealed
  constructor
  · intro h
    split_ifs at h with authentic
    cases h
    rw [combine_combine]
    exact congrArg (Detached.mk body) authentic
  · intro h
    obtain ⟨rfl, rfl⟩ := Detached.mk.inj h
    have authentic : s.Authentic ad (s.combine message) (s.tag ad (s.combine message)).bytes := rfl
    rw [if_pos authentic, combine_combine]

/-- A message is as long as the body that it is opened from. -/
theorem length_of_opened? {ad body mac message : Bytes} (h : s.opened? ad body mac = some message) :
    message.length = body.length := by
  have sealed := s.opened?_eq_some_iff.1 h
  rw [← s.length_ciphertext_sealed ad message, sealed]

end Session

namespace Construction

variable (c : Construction) (cipher : c.Cipher)

theorem accept_sealDetached {k : Nat} {message nonce : Bytes}
    (hnonce : nonce.length = c.nonceLength) (hmac : k = tagLength) (body : Buffer message.length)
    (mac : Buffer k) (ad : Option Bytes) :
    (c.sealDetached cipher body mac message ad nonce).accept =
      some ((c.session cipher nonce).sealed (ad.getD []) message) := by
  unfold sealDetached
  rw [dif_pos ⟨hnonce, hmac, rfl⟩]
  rfl

theorem accept_openDetached {body mac nonce : Bytes} (hnonce : nonce.length = c.nonceLength)
    (hmac : mac.length = tagLength) (message : Buffer body.length) (ad : Option Bytes) :
    (c.openDetached cipher message body mac ad nonce).accept =
      (c.session cipher nonce).opened? (ad.getD []) body mac := by
  unfold openDetached Session.opened?
  rw [dif_pos ⟨hnonce, hmac, rfl⟩]
  dsimp only
  split_ifs <;> rfl

end Construction

/-! ## Sizes and keys -/

namespace Algorithm

variable (algorithm : Algorithm)

theorem nonceLength_construction :
    algorithm.construction.nonceLength = algorithm.descriptor.nonceLength := by
  cases algorithm <;> rfl

theorem tagLength_descriptor : algorithm.descriptor.tagLength = tagLength := by
  cases algorithm <;> rfl

theorem keyLength_descriptor : algorithm.descriptor.keyLength = 32 := by
  cases algorithm <;> rfl

/-- A key is expanded exactly when it has the right length. -/
theorem isSome_expand?_iff {key : Bytes} :
    (algorithm.construction.expand? key).isSome ↔ key.length = algorithm.descriptor.keyLength := by
  rw [keyLength_descriptor]
  cases algorithm with
  | aes256Gcm =>
    show ((Buffer.ofBytes? 32 key).map Aes256.expandKey).isSome ↔ key.length = 32
    rw [Option.isSome_map]
    exact Buffer.isSome_ofBytes?
  | _ => exact Buffer.isSome_ofBytes?

theorem algorithm_eq_of_cipherOf? {context : Context} (h : (algorithm.cipherOf? context).isSome) :
    context.algorithm = algorithm := by
  cases algorithm with
  | aes256Gcm => cases context; rfl
  | _ => cases h

/-- The cipher of a key of the right length, or of a context of the algorithm. -/
def cipher? : KeyInput → Option algorithm.construction.Cipher
  | .raw key => algorithm.construction.expand? key
  | .context context => algorithm.cipherOf? context

theorem exists_cipher {key : Bytes} (h : key.length = 32) :
    ∃ cipher, algorithm.cipher? (.raw key) = some cipher :=
  Option.isSome_iff_exists.1 <|
    algorithm.isSome_expand?_iff.2 (h.trans algorithm.keyLength_descriptor.symm)

end Algorithm

/-! ## Calls without effects -/

theorem answer_map {α β : Type} (f : α → β) (x : ExceptT Error Id α) :
    answer (f <$> x) = f <$> answer x := by
  unfold answer
  rw [ExceptT.run_map]
  rfl

theorem answer_lift_bind {α β : Type} (x : Except Error α) (f : α → ExceptT Error Id β) :
    answer (liftM x >>= f) = x >>= fun a => answer (f a) := by
  cases x <;> rfl

namespace Provider

open Requirement

variable {algorithm : Algorithm}

/-- A key meets its requirement exactly when it has a cipher. -/
theorem keyRequirement_met_iff (key : KeyInput) :
    ((standard algorithm).keyRequirement key).met ↔ (algorithm.cipher? key).isSome := by
  cases key with
  | raw key =>
    rw [Algorithm.cipher?, Algorithm.isSome_expand?_iff]
    exact decide_eq_true_iff
  | context context =>
    rw [Algorithm.cipher?]
    refine decide_eq_true_iff.trans ?_
    exact and_iff_right_of_imp algorithm.algorithm_eq_of_cipherOf?

theorem expandKey_standard {key : Bytes} {cipher : algorithm.construction.Cipher}
    (h : algorithm.construction.expand? key = some cipher) :
    (standard algorithm).expandKey key = pure cipher := by
  have expanded : (standard algorithm).expand key = pure (.ok cipher) := by
    show (pure ((algorithm.construction.expand? key).elim _ _) : Id _) = _
    rw [h]
    rfl
  unfold Primitive.expandKey
  rw [expanded]
  rfl

theorem obtainCipher_standard {key : KeyInput} {cipher : algorithm.construction.Cipher}
    (h : algorithm.cipher? key = some cipher) :
    (standard algorithm).obtainCipher key = pure cipher := by
  cases key with
  | raw key => exact expandKey_standard h
  | context context =>
    have same := algorithm.algorithm_eq_of_cipherOf? (Option.isSome_of_eq_some h)
    have loaded : (standard algorithm).load context = some cipher := h
    exact (standard algorithm).obtainCipher_of_loaded same loaded

section ClosedForms

variable {nonce : Bytes} {key : KeyInput} {cipher : algorithm.construction.Cipher}
  (hnonce : nonce.length = algorithm.descriptor.nonceLength)
  (hkey : algorithm.cipher? key = some cipher)
include hnonce hkey

/-- Detached encryption gives body and tag of the message. -/
theorem answer_encryptDetached (message : Bytes) (ad : AssociatedData) :
    answer ((standard algorithm).encryptDetached message ad nonce key) =
      .ok (some ((algorithm.construction.session cipher nonce).sealed ad.bytes message)) := by
  have key_met := (keyRequirement_met_iff key).2 (Option.isSome_of_eq_some hkey)
  rw [Primitive.encryptDetached_of_met _ hnonce key_met (obtainCipher_standard hkey)]
  exact congrArg Except.ok <| algorithm.construction.accept_sealDetached cipher
    (hnonce.trans algorithm.nonceLength_construction.symm) algorithm.tagLength_descriptor
    (Buffer.zeros _) (Buffer.zeros _) ad.toOption

/-- Detached decryption gives the message of a body under its tag. -/
theorem answer_decryptDetached (body : Bytes) {mac : Bytes} (hmac : mac.length = tagLength)
    (ad : AssociatedData) :
    answer ((standard algorithm).decryptDetached body mac ad nonce key) =
      .ok ((algorithm.construction.session cipher nonce).opened? ad.bytes body mac) := by
  have key_met := (keyRequirement_met_iff key).2 (Option.isSome_of_eq_some hkey)
  rw [Primitive.decryptDetached_of_met _ hnonce key_met (obtainCipher_standard hkey) body
    (hmac.trans algorithm.tagLength_descriptor.symm)]
  exact congrArg Except.ok <| algorithm.construction.accept_openDetached cipher
    (hnonce.trans algorithm.nonceLength_construction.symm) hmac (Buffer.zeros _) ad.toOption

/-- Combined encryption gives the tag after the body. -/
theorem answer_encrypt (message : Bytes) (ad : AssociatedData) :
    answer ((standard algorithm).encrypt message ad nonce key) =
      .ok (some ((algorithm.construction.session cipher nonce).sealed ad.bytes message).join) := by
  unfold standard
  rw [DetachedPrimitive.encrypt_toPrimitive, answer_map]
  have h := answer_encryptDetached hnonce hkey message ad
  unfold standard at h
  rw [h]
  rfl

/-- Combined decryption takes the tag from the end. -/
theorem answer_decrypt (body : Bytes) {mac : Bytes} (hmac : mac.length = tagLength)
    (ad : AssociatedData) :
    answer ((standard algorithm).decrypt (body ++ mac) ad nonce key) =
      .ok ((algorithm.construction.session cipher nonce).opened? ad.bytes body mac) := by
  rw [← answer_decryptDetached hnonce hkey body hmac ad]
  unfold standard
  rw [DetachedPrimitive.decrypt_toPrimitive _ body
    (hmac.trans algorithm.tagLength_descriptor.symm)]

end ClosedForms

end Provider

end Aead
