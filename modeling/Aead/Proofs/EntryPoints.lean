import Aead.Proofs.Disclosure
import Aead.Proofs.RoundTrip

/-!
# The ways to call an algorithm

An algorithm can be called in three ways. `dispatch` takes the operation as data and answers with an
output of some kind. The functions of `Family` have a name for each operation and answer with bytes.
`sealMessage` and `openSealed` look for the kind of output that they expect, and answer nothing for
any other. All three agree as whole results, failures included. What has to be known for it is that
a run never gives an output of another kind, and that holds whatever the primitive does.

Results:

* `Primitive.satisfiesM_run`: every output of a run has the kind and the sizes of its operation.
* `Family.dispatch_eq_call`: the functions by name are `dispatch` without the kind of the output.
* `entry_points_agree`: the ways to call one of the four algorithms agree.
-/

namespace Aead

/-! ## The outputs of a run -/

/-- What a verdict shows has the kind and the sizes of the operation. -/
theorem Leftover.fits_of_verdict {algorithm : Algorithm} {direction : Direction} {mode : Mode}
    {n : Nat} (left : Leftover algorithm direction mode n) {out : Output}
    (h : left.verdict = .ok (some out)) : out.Fits algorithm n direction mode := by
  by_cases success : left.status = .success
  · by_cases claim : ∀ written, left.written = some written →
        written = direction.combinedLength algorithm n
    · rw [left.verdict_of_success success claim] at h
      cases h
      exact left.fits
    · push Not at claim
      obtain ⟨written, hwritten, wrong⟩ := claim
      rw [left.verdict_of_wrong_length success hwritten wrong] at h
      cases h
  · rw [left.verdict_of_failure success] at h
    cases h

namespace Primitive

open Requirement

variable {m : Type → Type} [Monad m] [LawfulMonad m] {algorithm : Algorithm}
  (p : Primitive m algorithm)

/-- Every output of a run has the kind and the sizes of its operation, whatever the primitive
does. -/
theorem satisfiesM_run (direction : Direction) (mode : Mode) (request : Request) :
    SatisfiesM (fun answer => ∀ out ∈ answer,
        out.Fits algorithm request.input.length direction mode)
      (p.run direction mode request) := by
  cases checked : firstFailure (p.requirements direction mode request) with
  | some e =>
    rw [p.run_of_failure checked]
    exact SatisfiesM_ExceptT_eq.2 (SatisfiesM.pure fun answer h => by cases h)
  | none =>
    rw [p.run_eq_leave_bind checked]
    refine SatisfiesM.bind SatisfiesM.trivial fun left _ => ?_
    refine SatisfiesM_ExceptT_eq.2 (SatisfiesM.pure fun answer h out hout => ?_)
    exact left.fits_of_verdict (h.trans (congrArg Except.ok hout))

end Primitive

/-- Without effects, what every output of a run satisfies is a property of the answer. -/
theorem of_satisfiesM_of_answer {α : Type} {P : α → Prop} {x : ExceptT Error Id α} {a : α}
    (h : SatisfiesM P x) (answered : answer x = .ok a) : P a := by
  rw [SatisfiesM_ExceptT_eq, SatisfiesM_Id_eq] at h
  exact h a answered

/-- What `dispatch` answers has the kind and the sizes of the operation. -/
theorem fits_of_dispatch {algorithm : Algorithm} {direction : Direction} {mode : Mode}
    {request : Request} {out : Output}
    (h : dispatch algorithm direction mode request = .ok (some out)) :
    out.Fits algorithm request.input.length direction mode :=
  of_satisfiesM_of_answer ((Provider.standard algorithm).satisfiesM_run direction mode request) h
    out rfl

/-! ## The functions by name -/

namespace Family

/-- The answer of the function that is named for the operation of a request, with the kind of output
that belongs to the operation. Detached decryption has no function without a tag. -/
def call (algorithm : Algorithm) (direction : Direction) (mode : Mode) (request : Request) :
    Except Error (Option Output) :=
  let { input, mac, associatedData := ad, nonce, key } := request
  match direction, mode, mac, key with
  | .encrypt, .combined, _, .raw key =>
    Option.map .ciphertext <$> encrypt algorithm input ad nonce key
  | .encrypt, .combined, _, .context context =>
    Option.map .ciphertext <$> encryptWith algorithm input ad nonce context
  | .decrypt, .combined, _, .raw key =>
    Option.map .plaintext <$> decrypt algorithm input ad nonce key
  | .decrypt, .combined, _, .context context =>
    Option.map .plaintext <$> decryptWith algorithm input ad nonce context
  | .encrypt, .detached, _, .raw key =>
    Option.map .detached <$> encryptDetached algorithm input ad nonce key
  | .encrypt, .detached, _, .context context =>
    Option.map .detached <$> encryptDetachedWith algorithm input ad nonce context
  | .decrypt, .detached, some mac, .raw key =>
    Option.map .plaintext <$> decryptDetached algorithm input mac ad nonce key
  | .decrypt, .detached, some mac, .context context =>
    Option.map .plaintext <$> decryptDetachedWith algorithm input mac ad nonce context
  | .decrypt, .detached, none, _ => .error (.typeMismatch "mac")

/-- The functions by name are `dispatch` without the kind of the output. -/
theorem dispatch_eq_call (algorithm : Algorithm) (direction : Direction) (mode : Mode)
    (request : Request) :
    dispatch algorithm direction mode request = call algorithm direction mode request := by
  obtain ⟨input, mac, ad, nonce, key⟩ := request
  cases direction with
  | encrypt =>
    cases mode with
    | combined => cases key <;> exact dispatch_encrypt_combined algorithm ad nonce input mac _
    | detached => cases key <;> exact dispatch_encrypt_detached algorithm ad nonce input mac _
  | decrypt =>
    cases mode with
    | combined => cases key <;> exact dispatch_decrypt_combined algorithm ad nonce input mac _
    | detached =>
      cases mac with
      | none => rfl
      | some mac => cases key <;> exact dispatch_decrypt_detached algorithm ad nonce input mac _

end Family

/-! ## All ways to call -/

/-- **The ways to call an algorithm agree.** Sealing and opening are combined encryption and
decryption by name; each of the eight functions by name is `dispatch` of its operation without the
kind of the output; and an output that `dispatch` gives is one that sealing or opening answers with.
A run of any primitive, with any effects, gives outputs of its operation's kind alone, and of the
operation's sizes. -/
theorem entry_points_agree (algorithm : Algorithm) :
    (∀ message ad nonce key,
      sealMessage algorithm message ad nonce key =
        Family.encrypt algorithm message ad nonce key) ∧
    (∀ ciphertext ad nonce key,
      openSealed algorithm ciphertext ad nonce key =
        Family.decrypt algorithm ciphertext ad nonce key) ∧
    (∀ direction mode request,
      dispatch algorithm direction mode request =
        Family.call algorithm direction mode request) ∧
    (∀ message ad nonce key out,
      dispatch algorithm .encrypt .combined ⟨message, none, ad, nonce, .raw key⟩ =
        .ok (some out) →
      ∃ bytes, out = .ciphertext bytes ∧
        sealMessage algorithm message ad nonce key = .ok (some bytes)) ∧
    (∀ ciphertext ad nonce key out,
      dispatch algorithm .decrypt .combined ⟨ciphertext, none, ad, nonce, .raw key⟩ =
        .ok (some out) →
      ∃ bytes, out = .plaintext bytes ∧
        openSealed algorithm ciphertext ad nonce key = .ok (some bytes)) ∧
    ∀ {m : Type → Type} [Monad m] [LawfulMonad m] (p : Primitive m algorithm)
      (direction : Direction) (mode : Mode) (request : Request),
      SatisfiesM (fun answer => ∀ out ∈ answer,
          out.Fits algorithm request.input.length direction mode)
        (p.run direction mode request) := by
  refine ⟨fun message ad nonce key => sealMessage_eq_encrypt algorithm ad nonce message key,
    fun ciphertext ad nonce key => openSealed_eq_decrypt algorithm ad nonce ciphertext key,
    Family.dispatch_eq_call algorithm, ?_, ?_, fun p => p.satisfiesM_run⟩
  · intro message ad nonce key out dispatched
    cases fits_of_dispatch dispatched with
    | ciphertext => exact ⟨_, rfl, by rw [sealMessage, dispatched]; rfl⟩
  · intro ciphertext ad nonce key out dispatched
    cases fits_of_dispatch dispatched with
    | plaintext => exact ⟨_, rfl, by rw [openSealed, dispatched]; rfl⟩

/-- Three bytes that `dispatch` encrypts are sealed alike, and a primitive that fills its buffers
with sevens answers their encryption with a ciphertext of 19 bytes. -/
theorem entry_points_agree_of_three_bytes :
    let request : Request :=
      ⟨[1, 2, 3], none, .absent, List.replicate 12 0, .raw (List.replicate 32 0)⟩
    (∃ bytes, dispatch .chacha20Poly1305Ietf .encrypt .combined request =
        .ok (some (.ciphertext bytes)) ∧
      sealMessage .chacha20Poly1305Ietf [1, 2, 3] .absent (List.replicate 12 0)
        (List.replicate 32 0) = .ok (some bytes)) ∧
    ∃ bytes : Bytes, bytes.length = 19 ∧
      answer ((Primitive.filling .aes256Gcm 7 .success 19).run .encrypt .combined request) =
        .ok (some (.ciphertext bytes)) := by
  intro request
  obtain ⟨-, -, -, sealed, -, -⟩ := entry_points_agree .chacha20Poly1305Ietf
  obtain ⟨-, -, -, -, -, outputs⟩ := entry_points_agree .aes256Gcm
  refine ⟨?_, _, ?_, rfl⟩
  · have dispatched : dispatch .chacha20Poly1305Ietf .encrypt .combined request =
        .ok (some (.ciphertext [158, 5, 228, 126, 112, 123, 27, 50, 230, 112, 173, 70, 185, 155, 48,
          110, 186, 94, 185])) := by decide +kernel
    obtain ⟨bytes, same, hsealed⟩ := sealed _ _ _ _ _ dispatched
    exact ⟨bytes, same ▸ dispatched, hsealed⟩
  · have fits := of_satisfiesM_of_answer
      (outputs (Primitive.filling .aes256Gcm 7 .success 19) .encrypt .combined request) rfl _ rfl
    cases fits with
    | ciphertext length => exact length

end Aead
