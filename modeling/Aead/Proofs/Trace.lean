import Aead.Proofs.Dispatcher

/-!
# Recorded calls

A primitive can be made to note each of its calls, with everything but the cipher that the call was
given. What was called, how often and with which arguments is then a property of the notes.

Results:

* `Primitive.erases_run`: a recording primitive answers as the primitive itself does.
* `Primitive.traces_perform`: an operation makes one call.
* `Primitive.run_traced_of_failure`: a requirement that is not met ends the run without a call.
-/

namespace Aead

/-- One call of a function of a primitive. Buffers to fill are noted as they were handed over. -/
inductive Call where
  | expand (key : Bytes)
  | sealDetached (body mac message : Bytes) (associatedData : Option Bytes) (nonce : Bytes)
  | openDetached (message body mac : Bytes) (associatedData : Option Bytes) (nonce : Bytes)
  | sealCombined (out message : Bytes) (associatedData : Option Bytes) (nonce : Bytes)
  | openCombined (out ciphertext : Bytes) (associatedData : Option Bytes) (nonce : Bytes)
  deriving DecidableEq

namespace Call

/-- The call is one of an operation, and not the expansion of a key. -/
def isOperation : Call → Bool
  | expand _ => false
  | _ => true

/-- The call of an operation on a request, with zeroed buffers of the sizes that it needs. -/
def ofRequest (algorithm : Algorithm) (direction : Direction) (mode : Mode) (request : Request) :
    Call :=
  let tagLength := algorithm.descriptor.tagLength
  let length := request.input.length
  let ad := request.associatedData.toOption
  match direction, mode with
  | .encrypt, .combined =>
    sealCombined (Buffer.zeros (length + tagLength)).bytes request.input ad request.nonce
  | .encrypt, .detached =>
    sealDetached (Buffer.zeros length).bytes (Buffer.zeros tagLength).bytes request.input ad
      request.nonce
  | .decrypt, .combined =>
    openCombined (Buffer.zeros (length - tagLength)).bytes request.input ad request.nonce
  | .decrypt, .detached =>
    openDetached (Buffer.zeros length).bytes request.input (request.mac.getD []) ad request.nonce

theorem isOperation_ofRequest (algorithm : Algorithm) (direction : Direction) (mode : Mode)
    (request : Request) : (ofRequest algorithm direction mode request).isOperation = true := by
  cases direction <;> cases mode <;> rfl

/-- `x`, after a note of the call. -/
def record {m : Type → Type} [Monad m] {α : Type} (call : Call) (x : m α) :
    StateT (List Call) m α := do
  modify (· ++ [call])
  x

end Call

section Definitions

variable {m : Type → Type} [Monad m] {algorithm : Algorithm}

/-- The detached functions, each with a note of its calls. -/
def DetachedPrimitive.traced (p : DetachedPrimitive m algorithm) :
    DetachedPrimitive (StateT (List Call) m) algorithm where
  Cipher := p.Cipher
  expand key := (Call.expand key).record (p.expand key)
  sealDetached cipher body mac message ad nonce :=
    (Call.sealDetached body.bytes mac.bytes message ad nonce).record
      (p.sealDetached cipher body mac message ad nonce)
  openDetached cipher message body mac ad nonce :=
    (Call.openDetached message.bytes body mac ad nonce).record
      (p.openDetached cipher message body mac ad nonce)
  store := p.store
  load := p.load

/-- The primitive, with a note of each of its calls. -/
def Primitive.traced (p : Primitive m algorithm) :
    Primitive (StateT (List Call) m) algorithm where
  toDetachedPrimitive := p.toDetachedPrimitive.traced
  sealCombined cipher out message ad nonce :=
    (Call.sealCombined out.bytes message ad nonce).record
      (p.sealCombined cipher out message ad nonce)
  openCombined cipher out ciphertext ad nonce :=
    (Call.openCombined out.bytes ciphertext ad nonce).record
      (p.openCombined cipher out ciphertext ad nonce)

/-- The primitives, with a note of each of their calls. -/
def Provider.traced (provider : Provider m) : Provider (StateT (List Call) m) :=
  fun algorithm => (provider algorithm).traced

end Definitions

/-- What is made of an answer afterwards is no call. -/
theorem Call.run_map {m : Type → Type} [Monad m] [LawfulMonad m] {α β : Type} (f : α → β)
    (x : ExceptT Error (StateT (List Call) m) α) (calls : List Call) :
    (f <$> x).run.run calls =
      (fun (answer, calls) => (f <$> answer, calls)) <$> x.run.run calls := by
  rw [ExceptT.run_map, StateT.run_map]
  rfl

/-! ## Calls that are made -/

/-- `x` makes the given calls and answers as `y` does. -/
def Traces {m : Type → Type} [Monad m] {α : Type} (x : ExceptT Error (StateT (List Call) m) α)
    (made : List Call) (y : ExceptT Error m α) : Prop :=
  ∀ calls, x.run.run calls = (fun answer => (answer, calls ++ made)) <$> y.run

namespace Traces

variable {m : Type → Type} [Monad m] [LawfulMonad m] {α β : Type}

protected theorem liftExcept (x : Except Error α) : Traces (m := m) (liftM x) [] (liftM x) := by
  intro calls
  show pure (x, calls) = (fun answer => (answer, calls ++ [])) <$> (pure x : m (Except Error α))
  rw [map_pure, List.append_nil]

protected theorem record (call : Call) (x : m α) :
    Traces (ExceptT.lift (call.record x)) [call] (ExceptT.lift x) := by
  intro calls
  simp [Call.record, ExceptT.lift]

/-- What follows without a call adds no call. -/
protected theorem bind {x : ExceptT Error (StateT (List Call) m) α} {made : List Call}
    {y : ExceptT Error m α} {f : α → ExceptT Error (StateT (List Call) m) β}
    {g : α → ExceptT Error m β} (hx : Traces x made y) (hf : ∀ a, Traces (f a) [] (g a)) :
    Traces (x >>= f) made (y >>= g) := by
  intro calls
  rw [ExceptT.run_bind, ExceptT.run_bind, StateT.run_bind, hx calls, bind_map_left, map_bind]
  congr 1
  funext answer
  cases answer with
  | ok a =>
    have rest := hf a (calls ++ made)
    rwa [List.append_nil] at rest
  | error e =>
    show pure (.error e, calls ++ made) =
      (fun answer => (answer, calls ++ made)) <$> (pure (.error e) : m (Except Error β))
    rw [map_pure]

protected theorem map {x : ExceptT Error (StateT (List Call) m) α} {made : List Call}
    {y : ExceptT Error m α} (hx : Traces x made y) (f : α → β) :
    Traces (f <$> x) made (f <$> y) := by
  rw [map_eq_pure_bind, map_eq_pure_bind]
  exact hx.bind fun a => Traces.liftExcept (.ok (f a))

end Traces

/-! ## Notes change no answer -/

/-- Without its notes, `x` does what `y` does. -/
def Erases {m : Type → Type} [Monad m] {α : Type} (x : ExceptT Error (StateT (List Call) m) α)
    (y : ExceptT Error m α) : Prop :=
  ∀ calls, Prod.fst <$> x.run.run calls = y.run

namespace Erases

variable {m : Type → Type} [Monad m] [LawfulMonad m] {α β : Type}

protected theorem bind {x : ExceptT Error (StateT (List Call) m) α} {y : ExceptT Error m α}
    {f : α → ExceptT Error (StateT (List Call) m) β} {g : α → ExceptT Error m β}
    (hx : Erases x y) (hf : ∀ a, Erases (f a) (g a)) : Erases (x >>= f) (y >>= g) := by
  intro calls
  rw [ExceptT.run_bind, ExceptT.run_bind, StateT.run_bind, map_bind, ← hx calls, bind_map_left]
  congr 1
  funext answer
  obtain ⟨answer, calls'⟩ := answer
  cases answer with
  | ok a => exact hf a calls'
  | error e => exact map_pure _ _

/-- An answer that is noted without effects is the answer. -/
protected theorem eq_liftM {x : ExceptT Error (StateT (List Call) m) α} {y : ExceptT Error m α}
    (h : Erases x y) {answer : Except Error α} {calls calls' : List Call}
    (run : x.run.run calls = pure (answer, calls')) : y = liftM answer := by
  have plain : y.run = pure answer := by
    rw [← h calls, run, map_pure]
  exact ExceptT.ext plain

end Erases

/-- What makes some calls and answers as `y` does, does without its notes what `y` does. -/
theorem Traces.erases {m : Type → Type} [Monad m] [LawfulMonad m] {α : Type}
    {x : ExceptT Error (StateT (List Call) m) α} {made : List Call} {y : ExceptT Error m α}
    (h : Traces x made y) : Erases x y := by
  intro calls
  rw [h calls, Functor.map_map]
  exact id_map' _

namespace Primitive

open Requirement

variable {m : Type → Type} [Monad m] [LawfulMonad m] {algorithm : Algorithm}
  (p : Primitive m algorithm)

omit [LawfulMonad m] in
@[simp] theorem requirements_traced (direction : Direction) (mode : Mode) (request : Request) :
    p.traced.requirements direction mode request = p.requirements direction mode request := by
  cases request with
  | mk input mac ad nonce key => cases key <;> rfl

/-- An operation makes one call, with the arguments of the request and zeroed buffers. -/
theorem traces_perform (direction : Direction) (mode : Mode) (request : Request)
    (cipher : p.Cipher) :
    Traces (p.traced.perform direction mode request cipher)
      [Call.ofRequest algorithm direction mode request]
      (p.perform direction mode request cipher) := by
  cases direction <;> cases mode
  case encrypt.combined | decrypt.combined =>
    exact Traces.bind (.record _ _) fun result => (Traces.liftExcept result.accept).map _
  case encrypt.detached | decrypt.detached =>
    exact Traces.bind (.record _ _) fun result => .liftExcept (.ok _)

theorem erases_obtainCipher (key : KeyInput) :
    Erases (p.traced.obtainCipher key) (p.obtainCipher key) := by
  cases key with
  | raw key =>
    refine Erases.bind (Traces.record _ _).erases fun answer => ?_
    cases answer with
    | ok cipher => exact (Traces.liftExcept (.ok cipher)).erases
    | error status => exact (Traces.liftExcept (.error _)).erases
  | context context => exact (Traces.liftExcept (p.cipherOf context)).erases

/-- A recording primitive answers as the primitive itself does. -/
theorem erases_run (direction : Direction) (mode : Mode) (request : Request) :
    Erases (p.traced.run direction mode request) (p.run direction mode request) := by
  rw [run_eq, run_eq, requirements_traced]
  unfold guarded
  cases firstFailure (p.requirements direction mode request) with
  | some e => exact (Traces.liftExcept (.error e)).erases
  | none =>
    exact (p.erases_obtainCipher request.key).bind fun cipher =>
      (p.traces_perform direction mode request cipher).erases

/-- A requirement that is not met ends the run without a call. -/
theorem run_traced_of_failure {direction : Direction} {mode : Mode} {request : Request} {e : Error}
    (h : firstFailure (p.requirements direction mode request) = some e) (calls : List Call) :
    (p.traced.run direction mode request).run.run calls = pure (.error e, calls) := by
  rw [← requirements_traced] at h
  rw [run_of_failure p.traced h]
  rfl

end Primitive

end Aead
