import Aead.Proofs.ContextProtocol
import Aead.Proofs.HostCalls

/-!
# What a run calls, and with which arguments

A run that passes its checks calls the primitive as seldom as it can: it expands a key once, or
takes a context as it is, and then calls one function. What the function is given is what the
request says, byte for byte, and buffers of zeros to fill. Combined functions that a primitive gets
from its detached ones make one further call, of the detached function.

Results:

* `DetachedPrimitive.notes_sealCombined`, `DetachedPrimitive.notes_openCombined`: the one call that
  a combined function makes in turn.
* `Primitive.forwards_run`, `Primitive.forwards_run_nested`: the calls of a run, in order.
* `Provider.dispatch_absent`: the four algorithms do not tell absent associated data from empty
  ones.
* `Host.Denotes.isAssociatedData`: what the associated data of a host's call arrive as.
* `run_forwards_request`: all of this, for every request.
-/

namespace Aead

/-! ## Calls inside calls -/

/-- `x` adds the given calls to the notes and gives what `y` gives. -/
def Notes {m : Type → Type} [Monad m] {α : Type} (x : StateT (List Call) m α) (made : List Call)
    (y : m α) : Prop :=
  ∀ calls, x.run calls = (fun a => (a, calls ++ made)) <$> y

/-- `x`, after a note of the call; `x` may note calls of its own. -/
def Call.around {m : Type → Type} [Monad m] {α : Type} (call : Call)
    (x : StateT (List Call) m α) : StateT (List Call) m α := do
  modify (· ++ [call])
  x

namespace Notes

variable {m : Type → Type} [Monad m] [LawfulMonad m] {α β : Type}

protected theorem record (call : Call) (x : m α) : Notes (call.record x) [call] x := by
  intro calls
  simp [Call.record]

protected theorem around (call : Call) {x : StateT (List Call) m α} {made : List Call} {y : m α}
    (h : Notes x made y) : Notes (call.around x) (call :: made) y := by
  intro calls
  simp [Call.around, h (calls ++ [call])]

/-- What is made of a result is no call. -/
protected theorem bind_pure {x : StateT (List Call) m α} {made : List Call} {y : m α}
    (h : Notes x made y) (f : α → β) :
    Notes (x >>= fun a => pure (f a)) made (y >>= fun a => pure (f a)) := by
  intro calls
  simp [h calls]

theorem traces_lift {x : StateT (List Call) m α} {made : List Call} {y : m α}
    (h : Notes x made y) : Traces (ExceptT.lift x) made (ExceptT.lift y) := by
  intro calls
  simp [ExceptT.lift, h calls]

end Notes

namespace DetachedPrimitive

variable {m : Type → Type} [Monad m] {algorithm : Algorithm} (p : DetachedPrimitive m algorithm)

/-- The primitive with its combined functions from the detached ones, and a note of each call of
either kind. -/
def nested : Primitive (StateT (List Call) m) algorithm where
  toDetachedPrimitive := p.traced
  sealCombined cipher out message ad nonce :=
    (Call.sealCombined out.bytes message ad nonce).around
      (p.traced.sealCombined cipher out message ad nonce)
  openCombined cipher out ciphertext ad nonce :=
    (Call.openCombined out.bytes ciphertext ad nonce).around
      (p.traced.openCombined cipher out ciphertext ad nonce)

variable [LawfulMonad m]

/-- A combined seal makes one call, for the whole message and with the front of its buffer. -/
theorem notes_sealCombined (cipher : p.Cipher) {n : Nat} (out : Buffer n) (message : Bytes)
    (ad : Option Bytes) (nonce : Bytes)
    (h : message.length + algorithm.descriptor.tagLength ≤ n) :
    let front : 0 + message.length ≤ n := (Nat.zero_add _).trans_le (Nat.le_of_add_right_le h)
    Notes (p.traced.sealCombined cipher out message ad nonce)
      [.sealDetached (out.slice 0 message.length front).bytes
        (out.slice message.length algorithm.descriptor.tagLength h).bytes message ad nonce]
      (p.sealCombined cipher out message ad nonce) := by
  intro front
  unfold sealCombined
  dsimp only
  rw [dif_pos h, dif_pos h]
  exact Notes.bind_pure (.record _ _) _

/-- A combined open makes one call, for what stands before the tag and for the tag. -/
theorem notes_openCombined (cipher : p.Cipher) {n : Nat} (out : Buffer n) (ciphertext : Bytes)
    (ad : Option Bytes) (nonce : Bytes)
    (long : algorithm.descriptor.tagLength ≤ ciphertext.length)
    (h : ciphertext.length - algorithm.descriptor.tagLength ≤ n) :
    let length := ciphertext.length - algorithm.descriptor.tagLength
    Notes (p.traced.openCombined cipher out ciphertext ad nonce)
      [.openDetached (out.slice 0 length (by omega)).bytes (ciphertext.take length)
        (ciphertext.drop length) ad nonce]
      (p.openCombined cipher out ciphertext ad nonce) := by
  intro length
  unfold openCombined
  dsimp only
  rw [dif_pos ⟨long, h⟩, dif_pos ⟨long, h⟩]
  exact Notes.bind_pure (.record _ _) _

end DetachedPrimitive

namespace Call

/-- The associated data that a call is given. -/
def associatedData : Call → Option Bytes
  | expand _ => none
  | sealDetached _ _ _ ad _ => ad
  | openDetached _ _ _ ad _ => ad
  | sealCombined _ _ ad _ => ad
  | openCombined _ _ ad _ => ad

/-- The calls of an operation whose combined functions call the detached ones. To seal, such a
function calls for the whole message; to open, for the body and for the tag after it. -/
def chain (algorithm : Algorithm) (direction : Direction) (mode : Mode) (request : Request) :
    List Call :=
  let call := ofRequest algorithm direction mode request
  match direction, mode with
  | .encrypt, .combined => [call, ofRequest algorithm .encrypt .detached request]
  | .decrypt, .combined =>
    let length := request.input.length - algorithm.descriptor.tagLength
    let parts : Request :=
      { request with input := request.input.take length, mac := some (request.input.drop length) }
    [call, ofRequest algorithm .decrypt .detached parts]
  | _, .detached => [call]

theorem associatedData_ofRequest (algorithm : Algorithm) (direction : Direction) (mode : Mode)
    (request : Request) :
    (ofRequest algorithm direction mode request).associatedData =
      request.associatedData.toOption := by
  cases direction <;> cases mode <;> rfl

/-- Each call of a chain is given the associated data of the request. -/
theorem associatedData_of_mem_chain {algorithm : Algorithm} {direction : Direction} {mode : Mode}
    {request : Request} {call : Call} (h : call ∈ chain algorithm direction mode request) :
    call.associatedData = request.associatedData.toOption := by
  cases direction <;> cases mode
  case encrypt.detached | decrypt.detached =>
    rw [List.mem_singleton.1 h]
    exact associatedData_ofRequest algorithm _ .detached request
  case encrypt.combined | decrypt.combined =>
    rcases List.mem_pair.1 h with rfl | rfl
    · exact associatedData_ofRequest algorithm _ .combined request
    · exact associatedData_ofRequest algorithm _ .detached _

end Call

namespace DetachedPrimitive

variable {m : Type → Type} [Monad m] [LawfulMonad m] {algorithm : Algorithm}
  (p : DetachedPrimitive m algorithm)

/-- An operation makes the calls of its chain. -/
theorem traces_perform_nested {direction : Direction} {mode : Mode} {request : Request}
    (met : ∀ r ∈ Primitive.tagRequirements algorithm direction mode request, r.met)
    (cipher : p.Cipher) :
    Traces (p.nested.perform direction mode request cipher)
      (Call.chain algorithm direction mode request)
      (p.toPrimitive.perform direction mode request cipher) := by
  cases direction <;> cases mode
  case encrypt.detached | decrypt.detached =>
    exact Traces.bind (.record _ _) fun result => .liftExcept (.ok _)
  case encrypt.combined =>
    have notes := p.notes_sealCombined cipher
      (Buffer.zeros (request.input.length + algorithm.descriptor.tagLength)) request.input
      request.associatedData.toOption request.nonce (Nat.le_refl _)
    simp only [Buffer.slice_zeros] at notes
    exact Traces.bind (Notes.around _ notes).traces_lift fun result =>
      (Traces.liftExcept result.accept).map _
  case decrypt.combined =>
    have long : algorithm.descriptor.tagLength ≤ request.input.length :=
      of_decide_eq_true (met _ List.mem_cons_self)
    have length : (request.input.take
        (request.input.length - algorithm.descriptor.tagLength)).length =
        request.input.length - algorithm.descriptor.tagLength := by
      rw [List.length_take]
      omega
    have notes := p.notes_openCombined cipher
      (Buffer.zeros (request.input.length - algorithm.descriptor.tagLength)) request.input
      request.associatedData.toOption request.nonce long (Nat.le_refl _)
    simp only [Buffer.slice_zeros] at notes
    unfold Call.chain Call.ofRequest
    dsimp only
    rw [length]
    exact Traces.bind (Notes.around _ notes).traces_lift fun result =>
      (Traces.liftExcept result.accept).map _

end DetachedPrimitive

namespace Primitive

variable {m : Type → Type} [Monad m] {algorithm : Algorithm} (p : Primitive m algorithm)

/-- The combined function of the direction is the one from the detached functions. -/
def FromDetached : Direction → Prop
  | .encrypt => ∀ {n : Nat} (cipher : p.Cipher) (out : Buffer n) (message : Bytes)
      (ad : Option Bytes) (nonce : Bytes), p.sealCombined cipher out message ad nonce =
        p.toDetachedPrimitive.sealCombined cipher out message ad nonce
  | .decrypt => ∀ {n : Nat} (cipher : p.Cipher) (out : Buffer n) (ciphertext : Bytes)
      (ad : Option Bytes) (nonce : Bytes), p.openCombined cipher out ciphertext ad nonce =
        p.toDetachedPrimitive.openCombined cipher out ciphertext ad nonce

theorem perform_of_fromDetached {direction : Direction} (fromDetached : p.FromDetached direction)
    (mode : Mode) (request : Request) (cipher : p.Cipher) :
    p.perform direction mode request cipher =
      p.toDetachedPrimitive.toPrimitive.perform direction mode request cipher := by
  cases direction <;> cases mode
  case encrypt.detached | decrypt.detached => rfl
  case encrypt.combined | decrypt.combined =>
    unfold perform
    dsimp only
    rw [fromDetached cipher]
    rfl

end Primitive

/-! ## Runs -/

section Runs

open Requirement

variable {m : Type → Type} [Monad m] {algorithm : Algorithm}

/-- `x` obtains a cipher for the request and then makes the given calls, with the answer of the
operation under that cipher. A key is expanded, by one call; an expansion that fails is the failure
of the run, and nothing is called after it. A context is loaded without a call. -/
def Primitive.Forwards (p : Primitive m algorithm) (direction : Direction) (mode : Mode)
    (request : Request) (x : ExceptT Error (StateT (List Call) m) (Option Output))
    (made : List Call) : Prop :=
  match request.key with
  | .raw key => ∀ calls, x.run.run calls = p.expand key >>= fun expanded =>
      match expanded with
      | .error status =>
        pure (.error (.primitive "key expansion" status), calls ++ [.expand key])
      | .ok cipher =>
        (fun answer => (answer, calls ++ .expand key :: made)) <$>
          (p.perform direction mode request cipher).run
  | .context context =>
    ∃ cipher, p.load context = some cipher ∧
      Traces x made (p.perform direction mode request cipher)

variable [LawfulMonad m]

theorem Primitive.run_expandKey_bind (p : Primitive m algorithm) (key : Bytes) {α : Type}
    (f : p.Cipher → ExceptT Error m α) :
    (p.expandKey key >>= f).run = p.expand key >>= fun expanded =>
      match expanded with
      | .error status => pure (.error (.primitive "key expansion" status))
      | .ok cipher => (f cipher).run := by
  rw [expandKey_bind, ExceptT.run_bind_lift]
  exact bind_congr fun expanded => by cases expanded <;> rfl

/-- An expansion is one call, and nothing is called after one that fails. -/
theorem Primitive.run_traced_expandKey_bind (p : Primitive m algorithm) (key : Bytes) {α : Type}
    {f : p.Cipher → ExceptT Error (StateT (List Call) m) α} {g : p.Cipher → ExceptT Error m α}
    {made : List Call} (h : ∀ cipher, Traces (f cipher) made (g cipher)) (calls : List Call) :
    (p.traced.expandKey key >>= f).run.run calls = p.expand key >>= fun expanded =>
      match expanded with
      | .error status =>
        pure (.error (.primitive "key expansion" status), calls ++ [.expand key])
      | .ok cipher =>
        (fun answer => (answer, calls ++ .expand key :: made)) <$> (g cipher).run := by
  have noted : (p.traced.expand key).run calls =
      (fun expanded => (expanded, calls ++ [.expand key])) <$> p.expand key :=
    Notes.record (.expand key) (p.expand key) calls
  rw [p.traced.run_expandKey_bind key f, StateT.run_bind, noted]
  -- The recording primitive has the ciphers of the primitive, but only by unfolding.
  refine (bind_map_left _ (p.expand key) _).trans ?_
  congr 1
  funext expanded
  cases expanded with
  | error status => rfl
  | ok cipher =>
    have after := h cipher (calls ++ [.expand key])
    rw [List.append_assoc] at after
    exact after

section Valid

variable {direction : Direction} {mode : Mode} {request : Request}

/-- When the key meets its requirement, obtaining a cipher and going on is forwarding. -/
theorem Primitive.forwards_obtainCipher_bind (p : Primitive m algorithm)
    (met : (p.keyRequirement request.key).met)
    {f : p.Cipher → ExceptT Error (StateT (List Call) m) (Option Output)} {made : List Call}
    (h : ∀ cipher, Traces (f cipher) made (p.perform direction mode request cipher)) :
    p.Forwards direction mode request (p.traced.obtainCipher request.key >>= f) made := by
  unfold Forwards
  cases hkey : request.key with
  | raw key => exact p.run_traced_expandKey_bind key h
  | context context =>
    rw [hkey] at met
    obtain ⟨same, loaded⟩ := of_decide_eq_true met
    obtain ⟨cipher, hcipher⟩ := Option.isSome_iff_exists.1 loaded
    have opened : p.traced.obtainCipher (.context context) = pure cipher :=
      p.traced.obtainCipher_of_loaded same hcipher
    have goes_on : p.traced.obtainCipher (.context context) >>= f = f cipher :=
      (congrArg (· >>= f) opened).trans (pure_bind cipher f)
    exact ⟨cipher, hcipher, (congrArg (Traces · made _) goes_on).mpr (h cipher)⟩

/-- A run that passes its checks makes one call of an operation, with the arguments of the
request. -/
theorem Primitive.forwards_run (p : Primitive m algorithm)
    (valid : firstFailure (p.requirements direction mode request) = none) :
    p.Forwards direction mode request (p.traced.run direction mode request)
      [Call.ofRequest algorithm direction mode request] := by
  have met := firstFailure_eq_none_iff.1 valid (p.keyRequirement request.key)
    (by simp [requirements])
  rw [p.traced.run_of_met (by rw [requirements_traced, valid])]
  exact p.forwards_obtainCipher_bind met (p.traces_perform direction mode request)

omit [LawfulMonad m] in
/-- A cipher is obtained by the detached functions alone. -/
theorem Primitive.obtainCipher_nested (p : Primitive m algorithm) (key : KeyInput) :
    p.toDetachedPrimitive.nested.obtainCipher key = p.traced.obtainCipher key := by
  cases key with
  | raw key => exact bind_congr fun expanded => by cases expanded <;> rfl
  | context context => rfl

/-- When the combined function of the direction is the one from the detached functions, a run makes
the calls of a chain. -/
theorem Primitive.forwards_run_nested (p : Primitive m algorithm)
    (fromDetached : p.FromDetached direction)
    (valid : firstFailure (p.requirements direction mode request) = none) :
    p.Forwards direction mode request (p.toDetachedPrimitive.nested.run direction mode request)
      (Call.chain algorithm direction mode request) := by
  have all_met := firstFailure_eq_none_iff.1 valid
  have tags_met : ∀ r ∈ tagRequirements algorithm direction mode request, r.met :=
    fun r hr => all_met r (List.mem_append_left _ hr)
  have key_met := all_met (p.keyRequirement request.key) (by simp [requirements])
  have valid_nested :
      firstFailure (p.toDetachedPrimitive.nested.requirements direction mode request) = none :=
    (congrArg firstFailure (p.requirements_traced direction mode request)).trans valid
  have performs : ∀ cipher : p.Cipher,
      Traces (p.toDetachedPrimitive.nested.perform direction mode request cipher)
        (Call.chain algorithm direction mode request)
        (p.perform direction mode request cipher) := by
    intro cipher
    rw [p.perform_of_fromDetached fromDetached]
    exact p.toDetachedPrimitive.traces_perform_nested tags_met cipher
  rw [p.toDetachedPrimitive.nested.run_of_met valid_nested, p.obtainCipher_nested]
  exact p.forwards_obtainCipher_bind key_met performs

end Valid

end Runs

/-! ## Absent associated data -/

/-- The detached functions do not tell absent associated data from empty ones. -/
structure DetachedPrimitive.TakesAbsentAsEmpty {m : Type → Type} {algorithm : Algorithm}
    (p : DetachedPrimitive m algorithm) : Prop where
  sealDetached : ∀ {n k : Nat} (cipher : p.Cipher) (body : Buffer n) (mac : Buffer k)
    (message nonce : Bytes), p.sealDetached cipher body mac message none nonce =
      p.sealDetached cipher body mac message (some []) nonce
  openDetached : ∀ {n : Nat} (cipher : p.Cipher) (message : Buffer n) (body mac nonce : Bytes),
    p.openDetached cipher message body mac none nonce =
      p.openDetached cipher message body mac (some []) nonce

namespace DetachedPrimitive.TakesAbsentAsEmpty

variable {m : Type → Type} [Monad m] {algorithm : Algorithm} {p : DetachedPrimitive m algorithm}
  (h : p.TakesAbsentAsEmpty)
include h

theorem sealCombined_absent (cipher : p.Cipher) {n : Nat} (out : Buffer n)
    (message nonce : Bytes) :
    p.sealCombined cipher out message none nonce =
      p.sealCombined cipher out message (some []) nonce := by
  unfold DetachedPrimitive.sealCombined
  simp only [h.sealDetached]

theorem openCombined_absent (cipher : p.Cipher) {n : Nat} (out : Buffer n)
    (ciphertext nonce : Bytes) :
    p.openCombined cipher out ciphertext none nonce =
      p.openCombined cipher out ciphertext (some []) nonce := by
  unfold DetachedPrimitive.openCombined
  simp only [h.openDetached]

/-- Neither do the combined functions from them, so no run does. -/
theorem run_absent [LawfulMonad m] (direction : Direction) (mode : Mode) (request : Request) :
    p.toPrimitive.run direction mode { request with associatedData := .absent } =
      p.toPrimitive.run direction mode { request with associatedData := .present [] } := by
  have performs : p.toPrimitive.perform direction mode { request with associatedData := .absent } =
      p.toPrimitive.perform direction mode { request with associatedData := .present [] } := by
    funext cipher
    cases direction <;> cases mode
    case encrypt.combined =>
      exact congrArg (ExceptT.lift · >>= _) (h.sealCombined_absent cipher _ _ _)
    case encrypt.detached =>
      exact congrArg (ExceptT.lift · >>= _) (h.sealDetached cipher _ _ _ _)
    case decrypt.combined =>
      exact congrArg (ExceptT.lift · >>= _) (h.openCombined_absent cipher _ _ _)
    case decrypt.detached =>
      exact congrArg (ExceptT.lift · >>= _) (h.openDetached cipher _ _ _ _)
  rw [Primitive.run_eq, Primitive.run_eq, performs]
  cases direction <;> cases mode <;> rfl

end DetachedPrimitive.TakesAbsentAsEmpty

namespace Provider

theorem takesAbsentAsEmpty (algorithm : Algorithm) : (detached algorithm).TakesAbsentAsEmpty where
  sealDetached _ _ _ _ _ := rfl
  openDetached _ _ _ _ _ := rfl

/-- The four algorithms do not tell absent associated data from empty ones. -/
theorem dispatch_absent (algorithm : Algorithm) (direction : Direction) (mode : Mode)
    (request : Request) :
    dispatch algorithm direction mode { request with associatedData := .absent } =
      dispatch algorithm direction mode { request with associatedData := .present [] } :=
  congrArg answer ((takesAbsentAsEmpty algorithm).run_absent direction mode request)

end Provider

/-! ## Calls of a host -/

namespace Host

/-- The position of the associated data among the arguments. -/
def associatedDataIndex (op : Operation) : Nat :=
  if op.takesMac then 2 else 1

/-- A buffer stands for its bytes, even when it is empty, and an absent value for no bytes. -/
theorem IsAssociatedData.toOption_eq {value : Value} {ad : AssociatedData}
    (h : IsAssociatedData value ad) : ad.toOption = value.asBytes? := by
  cases h <;> rfl

theorem Denotes.isAssociatedData {op : Operation} {args : Arguments} {request : Request}
    (h : Denotes op args request) :
    IsAssociatedData (args.value (associatedDataIndex op)) request.associatedData := by
  unfold associatedDataIndex
  cases h with
  | withMac takesMac body mac nonce isAd isKey surplus =>
    rw [if_pos takesMac]
    exact isAd
  | withoutMac takesMac input nonce isAd isKey surplus =>
    rw [if_neg (Bool.eq_false_iff.1 takesMac)]
    exact isAd

/-- Whatever notes its calls, a call of a host makes those of the run of its request. -/
theorem Surface.run_callOn_of_denotes {m : Type → Type} [Monad m] [LawfulMonad m]
    (recording : Provider (StateT (List Call) m)) {surface : Surface} {name : String}
    {algorithm : Algorithm} {op : Operation}
    (hfind : surface.functions.find? name = some (.operation algorithm op false))
    {args : Arguments} {request : Request} (h : Denotes op args request) (calls : List Call) :
    (surface.callOn recording name args).run.run calls =
      (fun (answer, calls) => (valueOf <$> answer, calls)) <$>
        ((recording algorithm).run op.direction op.mode request).run.run calls := by
  rw [callOn_of_prepare_ok recording hfind (prepare_of_denotes algorithm h)]
  exact Call.run_map valueOf _ calls

end Host

/-! ## Forwarding -/

open Requirement Host in
/-- **Faithful forwarding.** A run of a request that passes its checks expands a key by one call,
and a context by none; an expansion that fails ends it; otherwise it makes the one call of its
direction and mode, which makes one call of a detached function if it is a combined function made
from those. Each of these calls is given the associated data of the request. A call of a host makes
the calls of the run of its request, where an absent value gives no associated data and a buffer,
even an empty one, gives its bytes. None of the four algorithms tells absent associated data from
empty ones. -/
theorem run_forwards_request {m : Type → Type} [Monad m] [LawfulMonad m] {algorithm : Algorithm}
    (p : Primitive m algorithm) (direction : Direction) (mode : Mode) (request : Request) :
    (firstFailure (p.requirements direction mode request) = none →
      p.Forwards direction mode request (p.traced.run direction mode request)
        [Call.ofRequest algorithm direction mode request] ∧
      (p.FromDetached direction →
        p.Forwards direction mode request
          (p.toDetachedPrimitive.nested.run direction mode request)
          (Call.chain algorithm direction mode request))) ∧
    (∀ call ∈ Call.chain algorithm direction mode request,
      call.associatedData = request.associatedData.toOption) ∧
    (∀ (recording : Provider (StateT (List Call) m)) (surface : Surface) name strategy args,
      let op : Operation := ⟨direction, mode, strategy⟩
      surface.functions.find? name = some (.operation algorithm op false) →
      Denotes op args request →
      (∀ calls, (surface.callOn recording name args).run.run calls =
        (fun (answer, calls) => (valueOf <$> answer, calls)) <$>
          ((recording algorithm).run direction mode request).run.run calls) ∧
      let value := args.value (associatedDataIndex op)
      (value = .undefined ∨ value = .null → request.associatedData.toOption = none) ∧
      ∀ bytes, value = .buffer bytes → request.associatedData.toOption = some bytes) ∧
    (Provider.detached algorithm).TakesAbsentAsEmpty ∧
    dispatch algorithm direction mode { request with associatedData := .absent } =
      dispatch algorithm direction mode { request with associatedData := .present [] } := by
  refine ⟨fun valid => ⟨p.forwards_run valid, fun fromDetached =>
      p.forwards_run_nested fromDetached valid⟩, fun call => Call.associatedData_of_mem_chain, ?_,
    Provider.takesAbsentAsEmpty algorithm,
    Provider.dispatch_absent algorithm direction mode request⟩
  intro recording surface name strategy args op hfind denotes
  have given := denotes.isAssociatedData.toOption_eq
  refine ⟨Surface.run_callOn_of_denotes recording hfind denotes, ?_, ?_⟩
  · rintro (absent | absent)
    all_goals rw [given, absent]; rfl
  · intro bytes present
    rw [given, present]
    rfl

open Requirement Host in
/-- Three bytes come back, from a call of a host too, and with them three calls: the expansion, the
combined function, and the detached one inside it. An expansion that fails is the last call. -/
theorem run_forwards_request_of_three_bytes :
    let key : Bytes := List.replicate 32 0
    let nonce : Bytes := List.replicate 12 0
    let mac : Bytes := [126, 112, 123, 27, 50, 230, 112, 173, 70, 185, 155, 48, 110, 186, 94, 185]
    let request : Request := ⟨[158, 5, 228] ++ mac, none, .absent, nonce, .raw key⟩
    let works := Provider.standard .chacha20Poly1305Ietf
    let fails : Primitive Id .chacha20Poly1305Ietf :=
      { works with expand := fun _ => pure (.error 7) }
    let calls : List Call :=
      [.expand key, .openCombined [0, 0, 0] ([158, 5, 228] ++ mac) none nonce,
        .openDetached [0, 0, 0] [158, 5, 228] mac none nonce]
    (works.toDetachedPrimitive.nested.run .decrypt .combined request).run.run [] =
        pure (.ok (some (.plaintext [1, 2, 3])), calls) ∧
      (fails.traced.run .decrypt .combined request).run.run [] =
        pure (.error (.primitive "key expansion" 7), [.expand key]) ∧
      ((Surface.register {} .chacha20Poly1305Ietf {} false).callOn
          (fun algorithm => (Provider.detached algorithm).nested)
          "crypto_aead_chacha20poly1305_ietf_decrypt"
          [.buffer ([158, 5, 228] ++ mac), .null, .buffer nonce, .buffer key]).run.run [] =
        (pure (.ok (.buffer [1, 2, 3]), calls) : Id _) := by
  intro key nonce mac request works fails calls
  have opened : (works.toDetachedPrimitive.nested.run .decrypt .combined request).run.run [] =
      pure (.ok (some (.plaintext [1, 2, 3])), calls) := by
    have forwards := ((run_forwards_request works .decrypt .combined request).1 rfl).2
      (fun _ _ _ _ _ => rfl)
    refine (forwards []).trans ?_
    have answered : Id.run (works.perform .decrypt .combined request ⟨key, rfl⟩).run =
        .ok (some (.plaintext [1, 2, 3])) := by decide +kernel
    exact congrArg (fun answer => (answer, calls)) answered
  have hfind : (Surface.register {} .chacha20Poly1305Ietf {} false).functions.find?
      "crypto_aead_chacha20poly1305_ietf_decrypt" =
      some (.operation .chacha20Poly1305Ietf ⟨.decrypt, .combined, .rawKey⟩ false) := by
    decide +kernel
  have denotes : Denotes ⟨.decrypt, .combined, .rawKey⟩
      [.buffer ([158, 5, 228] ++ mac), .null, .buffer nonce, .buffer key] request :=
    .withoutMac rfl _ nonce .null (.raw key) []
  refine ⟨opened, ?_, ?_⟩
  · exact ((run_forwards_request fails .decrypt .combined request).1 rfl).1 []
  · have called := ((run_forwards_request works .decrypt .combined request).2.2.1
      (fun algorithm => (Provider.detached algorithm).nested) _ _ _ _ hfind denotes).1 []
    refine called.trans ?_
    exact congrArg ((fun (answer, calls) => (valueOf <$> answer, calls)) <$> ·) opened

end Aead
