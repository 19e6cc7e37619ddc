import Aead.Primitive.Standard
import Aead.Proofs.Trace

/-!
# Combined mode is detached mode

A primitive that only provides the detached functions gets the combined ones from them. The
dispatcher sizes its buffers so that nothing is left over, and the two modes do the same: combined
encryption is detached encryption with the tag after the body, and combined decryption is detached
decryption of what stands before the tag.

Results:

* `DetachedPrimitive.encrypt_toPrimitive`: encryption, with every failure and every refusal.
* `DetachedPrimitive.decrypt_toPrimitive`: decryption of a ciphertext that can hold a tag.
* `DetachedPrimitive.modes_agree`: both, with the calls that are made on the way.
-/

namespace Aead

/-- Body and tag in one byte string. -/
def Detached.join (parts : Detached) : Bytes :=
  parts.ciphertext ++ parts.mac

/-! ## Results -/

/-- A combined result made of a detached one is accepted as that one is, with the tag after the
body. -/
theorem SealResult.accept_join {n k : Nat} (result : SealResult n k) (out : Buffer (n + k)) :
    CombinedResult.accept
        { status := result.status
          out := out.overwrite (result.body.append result.mac) (Nat.le_refl _)
          written := if result.status = .success then n + k else 0 } =
      .ok (result.accept.map Detached.join) := by
  unfold CombinedResult.accept SealResult.accept
  by_cases h : result.status = .success
  · simp [h, Buffer.bytes_overwrite_all, Detached.join, Buffer.append]
  · simp [h]

theorem OpenResult.accept_combined {n : Nat} (result : OpenResult n) (out : Buffer n) :
    CombinedResult.accept
        { status := result.status
          out := out.overwrite result.message (Nat.le_refl _)
          written := if result.status = .success then n else 0 } =
      .ok result.accept := by
  unfold CombinedResult.accept OpenResult.accept
  by_cases h : result.status = .success
  · simp [h, Buffer.bytes_overwrite_all]
  · simp [h]

namespace DetachedPrimitive

open Requirement

variable {m : Type → Type} [Monad m] [LawfulMonad m] {algorithm : Algorithm}
  (p : DetachedPrimitive m algorithm)

/-! ## Encryption -/

theorem lift_sealCombined_bind (cipher : p.Cipher) (message : Bytes) (ad : Option Bytes)
    (nonce : Bytes) :
    (ExceptT.lift (p.sealCombined cipher
        (Buffer.zeros (message.length + algorithm.descriptor.tagLength)) message ad nonce) >>=
        fun result => (liftM result.accept : ExceptT Error m (Option Bytes))) =
      ExceptT.lift (p.sealDetached cipher (Buffer.zeros message.length)
        (Buffer.zeros algorithm.descriptor.tagLength) message ad nonce) >>=
        fun result => pure (result.accept.map Detached.join) := by
  unfold sealCombined
  dsimp only
  rw [dif_pos (Nat.le_refl _)]
  simp only [Buffer.slice_zeros]
  rw [lift_bind_pure_bind]
  simp only [SealResult.accept_join]
  rfl

/-- Combined encryption is detached encryption with the tag after the body. -/
theorem encrypt_toPrimitive (message : Bytes) (ad : AssociatedData) (nonce : Bytes)
    (key : KeyInput) :
    p.toPrimitive.encrypt message ad nonce key =
      Option.map Detached.join <$> p.toPrimitive.encryptDetached message ad nonce key := by
  unfold Primitive.encrypt Primitive.encryptDetached
  simp only [map_bind, map_pure]
  congr 1
  funext checked
  congr 1
  funext cipher
  exact p.lift_sealCombined_bind cipher message ad.toOption nonce

/-! ## Decryption -/

theorem lift_openCombined_bind (cipher : p.Cipher) (body : Bytes) {mac : Bytes}
    (h : mac.length = algorithm.descriptor.tagLength) (ad : Option Bytes) (nonce : Bytes) :
    (ExceptT.lift (p.openCombined cipher
        (Buffer.zeros ((body ++ mac).length - algorithm.descriptor.tagLength)) (body ++ mac) ad
        nonce) >>= fun result => (liftM result.accept : ExceptT Error m (Option Bytes))) =
      ExceptT.lift (p.openDetached cipher (Buffer.zeros body.length) body mac ad nonce) >>=
        fun result => pure result.accept := by
  have hlen : (body ++ mac).length - algorithm.descriptor.tagLength = body.length := by
    rw [List.length_append]
    omega
  have hfit : algorithm.descriptor.tagLength ≤ (body ++ mac).length := by
    rw [List.length_append]
    omega
  unfold openCombined
  dsimp only
  rw [dif_pos ⟨hfit, Nat.le_refl _⟩]
  simp only [Buffer.slice_zeros]
  rw [lift_bind_pure_bind]
  simp only [OpenResult.accept_combined]
  rw [hlen, List.take_left, List.drop_left]
  rfl

/-- Combined decryption is detached decryption of what stands before the tag. -/
theorem decrypt_toPrimitive (body : Bytes) {mac : Bytes}
    (h : mac.length = algorithm.descriptor.tagLength) (ad : AssociatedData) (nonce : Bytes)
    (key : KeyInput) :
    p.toPrimitive.decrypt (body ++ mac) ad nonce key =
      p.toPrimitive.decryptDetached body mac ad nonce key := by
  have hlong : (minLength "ciphertext" algorithm.descriptor.tagLength (body ++ mac)).met := by
    simp [minLength, h]
  have hexact : (exactLength "mac" algorithm.descriptor.tagLength mac).met := by
    simp [exactLength, h]
  unfold Primitive.decrypt Primitive.decryptDetached
  rw [lift_check_atLeast_bind, lift_check_exact_bind, guarded_cons_of_met hlong,
    guarded_cons_of_met hexact, guarded_nil, guarded_nil]
  congr 1
  funext checked
  congr 1
  funext cipher
  exact p.lift_openCombined_bind cipher body h ad.toOption nonce

/-! ## Both modes, with their calls -/

/-- **Modes.** Combined encryption has the answer of detached encryption with the tag after the
body, and combined decryption that of detached decryption of what stands before the tag: the same
failure, the same refusal, the same bytes. On the way the functions that the primitive provides are
called alike, with the same arguments. -/
theorem modes_agree (ad : AssociatedData) (nonce : Bytes) (key : KeyInput) :
    (∀ message,
      p.toPrimitive.encrypt message ad nonce key =
        Option.map Detached.join <$> p.toPrimitive.encryptDetached message ad nonce key ∧
      ∀ calls,
        (p.traced.toPrimitive.encrypt message ad nonce key).run.run calls =
          (fun (answer, calls) => (Option.map Detached.join <$> answer, calls)) <$>
            (p.traced.toPrimitive.encryptDetached message ad nonce key).run.run calls) ∧
    ∀ ciphertext : Bytes, algorithm.descriptor.tagLength ≤ ciphertext.length →
      let bodyLength := ciphertext.length - algorithm.descriptor.tagLength
      let body := ciphertext.take bodyLength
      let mac := ciphertext.drop bodyLength
      p.toPrimitive.decrypt ciphertext ad nonce key =
        p.toPrimitive.decryptDetached body mac ad nonce key ∧
      ∀ calls,
        (p.traced.toPrimitive.decrypt ciphertext ad nonce key).run.run calls =
          (p.traced.toPrimitive.decryptDetached body mac ad nonce key).run.run calls := by
  constructor
  · intro message
    refine ⟨p.encrypt_toPrimitive message ad nonce key, fun calls => ?_⟩
    rw [p.traced.encrypt_toPrimitive message ad nonce key, Call.run_map]
  · intro ciphertext hlong bodyLength body mac
    have whole : body ++ mac = ciphertext := List.take_append_drop _ _
    have hmac : mac.length = algorithm.descriptor.tagLength := by
      simp only [mac, bodyLength, List.length_drop]
      omega
    refine ⟨?_, fun calls => ?_⟩
    · rw [← p.decrypt_toPrimitive body hmac ad nonce key, whole]
    · rw [← p.traced.decrypt_toPrimitive body hmac ad nonce key, whole]

/-- Three bytes and back: body and tag of detached encryption in one string, which opens as they do.
Either way the key is expanded and the detached function is called once. -/
theorem modes_agree_of_three_bytes :
    let p := Provider.detached .chacha20Poly1305Ietf
    let nonce : Bytes := List.replicate 12 6
    let key : Bytes := List.replicate 32 7
    let ad : Bytes := [4, 5]
    let body : Bytes := [180, 177, 21]
    let mac : Bytes := [137, 231, 190, 253, 160, 105, 54, 32, 19, 186, 105, 116, 174, 156, 81, 102]
    p.toPrimitive.encrypt [1, 2, 3] (.present ad) nonce (.raw key) = pure (some (body ++ mac)) ∧
      (p.traced.toPrimitive.encrypt [1, 2, 3] (.present ad) nonce (.raw key)).run.run [] =
        (pure (.ok (some (body ++ mac)),
          [.expand key, .sealDetached [0, 0, 0] (List.replicate 16 0) [1, 2, 3] (some ad) nonce]) :
          Id _) ∧
      p.toPrimitive.decrypt (body ++ mac) (.present ad) nonce (.raw key) =
        pure (some [1, 2, 3]) ∧
      (p.traced.toPrimitive.decrypt (body ++ mac) (.present ad) nonce (.raw key)).run.run [] =
        (pure (.ok (some [1, 2, 3]),
          [.expand key, .openDetached [0, 0, 0] body mac (some ad) nonce]) : Id _) := by
  intro p nonce key ad body mac
  obtain ⟨encryption, decryption⟩ := p.modes_agree (.present ad) nonce (.raw key)
  obtain ⟨encrypted, encryptedCalls⟩ := encryption [1, 2, 3]
  obtain ⟨decrypted, decryptedCalls⟩ := decryption (body ++ mac) (by decide)
  have sealed : Id.run (p.toPrimitive.encryptDetached [1, 2, 3] (.present ad) nonce
      (.raw key)).run = .ok (some ⟨body, mac⟩) := by decide +kernel
  have sealedCalls : Id.run ((p.traced.toPrimitive.encryptDetached [1, 2, 3] (.present ad) nonce
      (.raw key)).run.run []) =
      (.ok (some ⟨body, mac⟩), [.expand key,
        .sealDetached [0, 0, 0] (List.replicate 16 0) [1, 2, 3] (some ad) nonce]) := by
    decide +kernel
  have opened : Id.run (p.toPrimitive.decryptDetached body mac (.present ad) nonce
      (.raw key)).run = .ok (some [1, 2, 3]) := by decide +kernel
  have openedCalls : Id.run ((p.traced.toPrimitive.decryptDetached body mac (.present ad) nonce
      (.raw key)).run.run []) =
      (.ok (some [1, 2, 3]),
        [.expand key, .openDetached [0, 0, 0] body mac (some ad) nonce]) := by
    decide +kernel
  refine ⟨encrypted.trans ?_, (encryptedCalls []).trans ?_, decrypted.trans opened,
    (decryptedCalls []).trans openedCalls⟩
  · exact congrArg (Option.map Detached.join <$> ·) sealed
  · exact congrArg (fun (answer, calls) => (Option.map Detached.join <$> answer, calls)) sealedCalls

end DetachedPrimitive

end Aead
