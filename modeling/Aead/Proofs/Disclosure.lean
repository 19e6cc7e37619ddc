import Aead.Proofs.Dispatcher

/-!
# What a run shows of the buffers

A function of a primitive leaves three things behind: a status, buffers in some state and, if it is
a combined one, a claim about the number of bytes that it wrote. None of them is trusted. Nothing of
the buffers is shown before the status and the claim are in order, and then all of them is shown as
it was left, with the sizes that the dispatcher chose.

Results:

* `Primitive.run_eq_observe_bind`: a run that passes its checks sees of a call its status, its claim
  and the buffers of a success, and nothing else.
* `Primitive.run_shows_finished_buffers`: what is shown for each status and each claim, and that
  the buffers of a call that fails make no difference.
-/

namespace Aead

/-! ## What a call leaves behind -/

/-- An output of the kind and the sizes of an operation with `n` bytes of input. -/
inductive Output.Fits (algorithm : Algorithm) (n : Nat) : Direction → Mode → Output → Prop
  | ciphertext {bytes : Bytes} (h : bytes.length = n + algorithm.descriptor.tagLength) :
      Fits algorithm n .encrypt .combined (.ciphertext bytes)
  | plaintext {bytes : Bytes} (h : bytes.length = n - algorithm.descriptor.tagLength) :
      Fits algorithm n .decrypt .combined (.plaintext bytes)
  | parts {body mac : Bytes} (hbody : body.length = n)
      (hmac : mac.length = algorithm.descriptor.tagLength) :
      Fits algorithm n .encrypt .detached (.detached ⟨body, mac⟩)
  | message {bytes : Bytes} (h : bytes.length = n) :
      Fits algorithm n .decrypt .detached (.plaintext bytes)

/-- The number of bytes that a combined function has to write. -/
def Direction.combinedLength (algorithm : Algorithm) (n : Nat) : Direction → Nat
  | encrypt => n + algorithm.descriptor.tagLength
  | decrypt => n - algorithm.descriptor.tagLength

/-- What one call of an operation with `n` bytes of input left behind. -/
structure Leftover (algorithm : Algorithm) (direction : Direction) (mode : Mode) (n : Nat) where
  status : Status
  /-- The number of bytes that a combined function claims to have written. -/
  written : Option Nat
  /-- The buffers in the state in which they were left. -/
  buffers : Output
  isSome_written : written.isSome ↔ mode = .combined
  fits : buffers.Fits algorithm n direction mode

/-- What may be seen of a call: its status, its claim, and its buffers if the status is success. -/
structure Observation where
  status : Status
  written : Option Nat
  finished : Option Output

namespace Leftover

variable {algorithm : Algorithm} {n : Nat}

/-- A combined seal leaves one buffer for body and tag. -/
def ofSealCombined (result : CombinedResult (n + algorithm.descriptor.tagLength)) :
    Leftover algorithm .encrypt .combined n :=
  ⟨result.status, some result.written, .ciphertext result.out.bytes, by simp,
    .ciphertext result.out.length_bytes⟩

/-- A combined open leaves one buffer for the message. -/
def ofOpenCombined (result : CombinedResult (n - algorithm.descriptor.tagLength)) :
    Leftover algorithm .decrypt .combined n :=
  ⟨result.status, some result.written, .plaintext result.out.bytes, by simp,
    .plaintext result.out.length_bytes⟩

/-- A detached seal leaves a buffer for the body and one for the tag, and claims nothing. -/
def ofSealDetached (result : SealResult n algorithm.descriptor.tagLength) :
    Leftover algorithm .encrypt .detached n :=
  ⟨result.status, none, .detached ⟨result.body.bytes, result.mac.bytes⟩, by simp,
    .parts result.body.length_bytes result.mac.length_bytes⟩

/-- A detached open leaves one buffer for the message, and claims nothing. -/
def ofOpenDetached (result : OpenResult n) : Leftover algorithm .decrypt .detached n :=
  ⟨result.status, none, .plaintext result.message.bytes, by simp,
    .message result.message.length_bytes⟩

variable {direction : Direction} {mode : Mode}

/-- What may be seen of the call. -/
def observe (left : Leftover algorithm direction mode n) : Observation where
  status := left.status
  written := left.written
  finished := if left.status = .success then some left.buffers else none

end Leftover

namespace Primitive

open Requirement

variable {m : Type → Type} [Monad m] {algorithm : Algorithm} (p : Primitive m algorithm)

/-- The call of an operation: one function of the primitive, with zeroed buffers. -/
def operate (direction : Direction) (mode : Mode) (request : Request) (cipher : p.Cipher) :
    m (Leftover algorithm direction mode request.input.length) :=
  let tagLength := algorithm.descriptor.tagLength
  let length := request.input.length
  let ad := request.associatedData.toOption
  match direction, mode with
  | .encrypt, .combined =>
    .ofSealCombined <$>
      p.sealCombined cipher (Buffer.zeros (length + tagLength)) request.input ad request.nonce
  | .encrypt, .detached =>
    .ofSealDetached <$>
      p.sealDetached cipher (Buffer.zeros length) (Buffer.zeros tagLength) request.input ad
        request.nonce
  | .decrypt, .combined =>
    .ofOpenCombined <$>
      p.openCombined cipher (Buffer.zeros (length - tagLength)) request.input ad request.nonce
  | .decrypt, .detached =>
    .ofOpenDetached <$>
      p.openDetached cipher (Buffer.zeros length) request.input (request.mac.getD []) ad
        request.nonce

/-- What the call of an operation leaves behind, once its cipher is obtained. -/
def leave (direction : Direction) (mode : Mode) (request : Request) :
    ExceptT Error m (Leftover algorithm direction mode request.input.length) := do
  let cipher ← p.obtainCipher request.key
  ExceptT.lift (p.operate direction mode request cipher)

end Primitive

/-! ## What is made of it -/

namespace Observation

/-- A failure is answered without a value, a claim of a wrong length is an error, and everything
else shows the finished buffers. -/
def verdict (expected : Nat) (seen : Observation) : Except Error (Option Output) :=
  if seen.status ≠ .success then .ok none
  else
    match seen.written with
    | some written =>
      if written ≠ expected then .error (.outputLength expected written) else .ok seen.finished
    | none => .ok seen.finished

end Observation

namespace Leftover

variable {algorithm : Algorithm} {direction : Direction} {mode : Mode} {n : Nat}
  (left : Leftover algorithm direction mode n)

@[simp] theorem status_observe : left.observe.status = left.status := rfl

@[simp] theorem written_observe : left.observe.written = left.written := rfl

theorem finished_observe_of_success (h : left.status = .success) :
    left.observe.finished = some left.buffers :=
  if_pos h

/-- What a run makes of a call. -/
def verdict : Except Error (Option Output) :=
  left.observe.verdict (direction.combinedLength algorithm n)

theorem verdict_of_failure (h : left.status ≠ .success) : left.verdict = .ok none := by
  simp [verdict, Observation.verdict, h]

theorem verdict_of_wrong_length (h : left.status = .success) {written : Nat}
    (hclaim : left.written = some written)
    (hwrong : written ≠ direction.combinedLength algorithm n) :
    left.verdict = .error (.outputLength (direction.combinedLength algorithm n) written) := by
  simp [verdict, Observation.verdict, h, hclaim, hwrong]

theorem verdict_of_success (h : left.status = .success)
    (hclaim : ∀ written, left.written = some written →
      written = direction.combinedLength algorithm n) :
    left.verdict = .ok (some left.buffers) := by
  have finished := left.finished_observe_of_success h
  cases hw : left.written with
  | none => simp [verdict, Observation.verdict, h, hw, finished]
  | some written => simp [verdict, Observation.verdict, h, hw, finished, hclaim written hw]

end Leftover

/-! ## The dispatcher's answer to a call -/

namespace Observation

/-- A combined result is accepted by its verdict, whatever output is made of its buffer. -/
theorem verdict_combined {n : Nat} (result : CombinedResult n) (output : Bytes → Output) :
    verdict n
        { status := result.status
          written := some result.written
          finished :=
            if result.status = .success then some (output result.out.bytes) else none } =
      Option.map output <$> result.accept := by
  unfold verdict CombinedResult.accept
  by_cases h : result.status = .success
  · by_cases hw : result.written = n
    · simp [h, hw]
    · simp [h, hw]
  · simp [h]

/-- Without a claim the status decides alone. -/
theorem verdict_detached {α : Type} (expected : Nat) (status : Status) (buffers : α)
    (output : α → Output) :
    verdict expected
        { status
          written := none
          finished := if status = .success then some (output buffers) else none } =
      .ok ((if status = .success then some buffers else none).map output) := by
  unfold verdict
  by_cases h : status = .success
  · simp [h]
  · simp [h]

end Observation

namespace Primitive

open Requirement

variable {m : Type → Type} [Monad m] [LawfulMonad m] {algorithm : Algorithm}
  (p : Primitive m algorithm)

/-- The dispatcher makes of a call what its verdict says. -/
theorem perform_eq_operate_bind (direction : Direction) (mode : Mode) (request : Request)
    (cipher : p.Cipher) :
    p.perform direction mode request cipher =
      ExceptT.lift (p.operate direction mode request cipher) >>= fun left =>
        liftM left.verdict := by
  -- Each function has a result type of its own, so the cases meet only in their verdicts.
  cases direction <;> cases mode
  case encrypt.combined | decrypt.combined =>
    simp only [perform, operate, lift_map_bind]
    congr 1
    funext result
    rw [← monadLift_map, ← Observation.verdict_combined]
    rfl
  case encrypt.detached =>
    simp only [perform, operate, lift_map_bind]
    congr 1
    funext result
    have verdict := Observation.verdict_detached
      (Direction.combinedLength algorithm request.input.length .encrypt) result.status
      (Detached.mk result.body.bytes result.mac.bytes) .detached
    exact congrArg (fun answer => (liftM answer : ExceptT Error m _)) verdict.symm
  case decrypt.detached =>
    simp only [perform, operate, lift_map_bind]
    congr 1
    funext result
    have verdict := Observation.verdict_detached
      (Direction.combinedLength algorithm request.input.length .decrypt) result.status
      result.message.bytes .plaintext
    exact congrArg (fun answer => (liftM answer : ExceptT Error m _)) verdict.symm

section Valid

variable {direction : Direction} {mode : Mode} {request : Request}
  (valid : firstFailure (p.requirements direction mode request) = none)
include valid

/-- A run obtains a cipher, makes one call and passes a verdict on what it left. -/
theorem run_eq_leave_bind :
    p.run direction mode request =
      p.leave direction mode request >>= fun left => liftM left.verdict := by
  rw [p.run_of_met valid]
  unfold leave
  rw [bind_assoc]
  congr 1
  funext cipher
  exact p.perform_eq_operate_bind direction mode request cipher

/-- A run sees of a call what may be seen of it, and nothing else. -/
theorem run_eq_observe_bind :
    p.run direction mode request =
      (Leftover.observe <$> p.leave direction mode request) >>= fun seen =>
        liftM (seen.verdict (direction.combinedLength algorithm request.input.length)) := by
  rw [bind_map_left]
  exact p.run_eq_leave_bind valid

end Valid

/-- **Output discipline.** A run that passes its checks gives no value for a call that failed, an
error for a combined call that claims a wrong length, and for every other call the buffers as they
were left; these have the sizes of the operation. A second primitive with the same statuses and
claims, and the same buffers where the status is success, gives the same answer. -/
theorem run_shows_finished_buffers {direction : Direction} {mode : Mode} {request : Request}
    (valid : firstFailure (p.requirements direction mode request) = none) :
    (∃ verdict : Leftover algorithm direction mode request.input.length →
        Except Error (Option Output),
      p.run direction mode request =
        (p.leave direction mode request >>= fun left => liftM (verdict left)) ∧
      ∀ left,
        let expected := direction.combinedLength algorithm request.input.length
        (left.status ≠ .success → verdict left = .ok none) ∧
        (left.status = .success → ∀ written, left.written = some written →
          written ≠ expected → verdict left = .error (.outputLength expected written)) ∧
        (left.status = .success →
          (∀ written, left.written = some written → written = expected) →
          verdict left = .ok (some left.buffers) ∧
            left.buffers.Fits algorithm request.input.length direction mode)) ∧
    ∀ q : Primitive m algorithm, firstFailure (q.requirements direction mode request) = none →
      Leftover.observe <$> p.leave direction mode request =
        Leftover.observe <$> q.leave direction mode request →
      p.run direction mode request = q.run direction mode request := by
  constructor
  · refine ⟨Leftover.verdict, p.run_eq_leave_bind valid, fun left => ⟨?_, ?_, ?_⟩⟩
    · exact left.verdict_of_failure
    · intro success written claim wrong
      exact left.verdict_of_wrong_length success claim wrong
    · intro success claim
      exact ⟨left.verdict_of_success success claim, left.fits⟩
  · intro q valid_q same
    rw [p.run_eq_observe_bind valid, q.run_eq_observe_bind valid_q, same]

/-- A primitive that fills its buffers with one byte, and answers every call with one status and one
claim. -/
def filling (algorithm : Algorithm) (byte : UInt8) (status : Status) (written : Nat) :
    Primitive Id algorithm where
  Cipher := Unit
  expand _ := pure (.ok ())
  sealDetached _ _ _ _ _ _ := pure ⟨status, .filled _ byte, .filled _ byte⟩
  openDetached _ _ _ _ _ _ := pure ⟨status, .filled _ byte⟩
  sealCombined _ _ _ _ _ := pure ⟨status, .filled _ byte, written⟩
  openCombined _ _ _ _ _ := pure ⟨status, .filled _ byte, written⟩

/-- Encryption of three bytes: the failure hides the fill byte, a claim of 20 bytes is an error, and
with the right claim the 19 bytes of the buffer are the answer. -/
theorem run_shows_finished_buffers_of_filling :
    let request : Request :=
      ⟨[1, 2, 3], none, .absent, List.replicate 8 0, .raw (List.replicate 32 0)⟩
    let run := fun byte status written =>
      (filling .chacha20Poly1305 byte status written).run .encrypt .combined request
    run 7 .failure 19 = pure none ∧ run 7 .failure 19 = run 8 .failure 19 ∧
      run 7 .success 20 = throw (.outputLength 19 20) ∧
      run 7 .success 19 = pure (some (.ciphertext (List.replicate 19 7))) := by
  intro request run
  let left := fun byte status written =>
    (Leftover.ofSealCombined ⟨status, .filled _ byte, written⟩ :
      Leftover .chacha20Poly1305 .encrypt .combined 3)
  have left_behind : ∀ byte status written,
      (filling .chacha20Poly1305 byte status written).leave .encrypt .combined request =
        pure (left byte status written) := fun _ _ _ => rfl
  have valid : ∀ byte status written, firstFailure
      ((filling .chacha20Poly1305 byte status written).requirements .encrypt .combined request) =
        none := fun _ _ _ => rfl
  have shown := fun byte status written =>
    (filling .chacha20Poly1305 byte status written).run_shows_finished_buffers
      (valid byte status written)
  refine ⟨?_, ?_, ?_, ?_⟩
  · obtain ⟨⟨verdict, hrun, clauses⟩, -⟩ := shown 7 .failure 19
    have none_shown := (clauses (left 7 .failure 19)).1 (by decide)
    rw [left_behind, pure_bind, none_shown] at hrun
    exact hrun
  · exact (shown 7 .failure 19).2 (filling .chacha20Poly1305 8 .failure 19) rfl rfl
  · obtain ⟨⟨verdict, hrun, clauses⟩, -⟩ := shown 7 .success 20
    have refused := (clauses (left 7 .success 20)).2.1 rfl 20 rfl (by decide)
    rw [left_behind, pure_bind, refused] at hrun
    exact hrun
  · obtain ⟨⟨verdict, hrun, clauses⟩, -⟩ := shown 7 .success 19
    have claim : ∀ written, (left 7 .success 19).written = some written → written = 19 := by
      rintro _ ⟨⟩
      rfl
    have whole := ((clauses (left 7 .success 19)).2.2 rfl claim).1
    rw [left_behind, pure_bind, whole] at hrun
    exact hrun

end Primitive

end Aead
