import Aead.Dispatch
import Mathlib

/-!
# The parts of a run

The four operations of the dispatcher have one shape. A request has to fulfil requirements, checked
in a fixed order. Then a cipher is obtained, and one function of the primitive is called. This
module separates the three parts, so that a property of runs is proved once and not once for each
operation.

Results:

* `Primitive.run_eq`: a run is `guarded` by its requirements, then `obtainCipher`, then `perform`.
* `Primitive.run_of_failure`: a requirement that is not met ends the run, without any effect.
* `Primitive.failsOnlyWith_run`: when all requirements are met, only the expansion of the key and
  the length that the primitive claims can make the run fail.
-/

namespace Aead

/-! ## Requirements -/

/-- Something that a request has to fulfil, with the failure of a request that does not. -/
structure Requirement where
  met : Bool
  error : Error

namespace Requirement

/-- The argument has `n` bytes. -/
def exactLength (argument : String) (n : Nat) (bytes : Bytes) : Requirement :=
  ⟨bytes.length = n, .lengthMismatch argument (.exactly n)⟩

/-- The argument has `n` bytes or more. -/
def minLength (argument : String) (n : Nat) (bytes : Bytes) : Requirement :=
  ⟨n ≤ bytes.length, .lengthMismatch argument (.atLeast n)⟩

/-- The failure of the first requirement that is not met. -/
def firstFailure (requirements : List Requirement) : Option Error :=
  (requirements.find? (!·.met)).map (·.error)

theorem firstFailure_cons (r : Requirement) (rest : List Requirement) :
    firstFailure (r :: rest) = if r.met then firstFailure rest else some r.error := by
  unfold firstFailure
  rw [List.find?_cons]
  cases r.met <;> rfl

variable {α β : Type}

/-- `x`, if all requirements are met; else the failure of the first that is not. -/
def guarded {m : Type → Type} [MonadExcept Error m] (requirements : List Requirement) (x : m α) :
    m α :=
  (firstFailure requirements).elim x throw

section Generic

variable {m : Type → Type} [MonadExcept Error m]

theorem guarded_nil (x : m α) : guarded [] x = x := rfl

theorem guarded_cons (r : Requirement) (rest : List Requirement) (x : m α) :
    guarded (r :: rest) x = if r.met then guarded rest x else throw r.error := by
  unfold guarded
  rw [firstFailure_cons]
  split_ifs <;> rfl

theorem guarded_cons_of_met {r : Requirement} (h : r.met) (rest : List Requirement) (x : m α) :
    guarded (r :: rest) x = guarded rest x := by
  rw [guarded_cons, if_pos h]

theorem guarded_cons_of_not_met {r : Requirement} (h : ¬r.met) (rest : List Requirement)
    (x : m α) : guarded (r :: rest) x = throw r.error := by
  rw [guarded_cons, if_neg h]

theorem guarded_append (first rest : List Requirement) (x : m α) :
    guarded (first ++ rest) x = guarded first (guarded rest x) := by
  induction first with
  | nil => rfl
  | cons r first ih => rw [List.cons_append, guarded_cons, guarded_cons, ih]

theorem guarded_of_failure {requirements : List Requirement} {e : Error}
    (h : firstFailure requirements = some e) (x : m α) : guarded requirements x = throw e := by
  rw [guarded, h]
  rfl

theorem guarded_of_met {requirements : List Requirement} (h : firstFailure requirements = none)
    (x : m α) : guarded requirements x = x := by
  rw [guarded, h]
  rfl

end Generic

theorem firstFailure_eq_none_iff {requirements : List Requirement} :
    firstFailure requirements = none ↔ ∀ r ∈ requirements, r.met := by
  simp [firstFailure]

/-- A length check is a requirement on its argument. -/
theorem check_exact (argument : String) (n : Nat) (bytes : Bytes) :
    (Constraint.exact n).check argument bytes =
      guarded [exactLength argument n bytes] (.ok bytes) := by
  rw [guarded_cons, guarded_nil]
  simp only [Constraint.check, exactLength, decide_eq_true_eq]
  rfl

theorem check_atLeast (argument : String) (n : Nat) (bytes : Bytes) :
    (Constraint.atLeast n).check argument bytes =
      guarded [minLength argument n bytes] (.ok bytes) := by
  rw [guarded_cons, guarded_nil]
  simp only [Constraint.check, minLength, decide_eq_true_eq]
  rfl

/-! ## Requirements inside effects -/

section Effects

variable {m : Type → Type} [Monad m]

theorem lift_guarded (requirements : List Requirement) (x : Except Error α) :
    (liftM (guarded requirements x) : ExceptT Error m α) = guarded requirements (liftM x) := by
  unfold guarded
  cases firstFailure requirements <;> rfl

theorem guarded_bind [LawfulMonad m] (requirements : List Requirement) (x : ExceptT Error m α)
    (f : α → ExceptT Error m β) :
    guarded requirements x >>= f = guarded requirements (x >>= f) := by
  unfold guarded
  cases firstFailure requirements with
  | none => rfl
  | some e => exact ExceptT.bind_throw f

theorem map_guarded [LawfulMonad m] (requirements : List Requirement) (x : ExceptT Error m α)
    (f : α → β) : f <$> guarded requirements x = guarded requirements (f <$> x) := by
  rw [map_eq_pure_bind, guarded_bind, ← map_eq_pure_bind]

theorem lift_ok (a : α) : (liftM (.ok a : Except Error α) : ExceptT Error m α) = pure a := rfl

theorem lift_error (e : Error) :
    (liftM (.error e : Except Error α) : ExceptT Error m α) = throw e := rfl

theorem lift_bind [LawfulMonad m] (x : Except Error α) (f : α → Except Error β) :
    (liftM (x >>= f) : ExceptT Error m β) = liftM x >>= fun a => liftM (f a) := by
  cases x with
  | error e => exact (ExceptT.bind_throw _).symm
  | ok a => exact (pure_bind (m := ExceptT Error m) a fun a => liftM (f a)).symm

/-- A length check ahead of effects is a requirement on all that follows. -/
theorem lift_check_exact_bind [LawfulMonad m] (argument : String) (n : Nat) (bytes : Bytes)
    (f : Bytes → ExceptT Error m β) :
    liftM ((Constraint.exact n).check argument bytes) >>= f =
      guarded [exactLength argument n bytes] (f bytes) := by
  rw [check_exact, lift_guarded, guarded_bind, lift_ok, pure_bind]

theorem lift_check_atLeast_bind [LawfulMonad m] (argument : String) (n : Nat) (bytes : Bytes)
    (f : Bytes → ExceptT Error m β) :
    liftM ((Constraint.atLeast n).check argument bytes) >>= f =
      guarded [minLength argument n bytes] (f bytes) := by
  rw [check_atLeast, lift_guarded, guarded_bind, lift_ok, pure_bind]

theorem lift_map [LawfulMonad m] (g : α → β) (x : m α) :
    ExceptT.lift (g <$> x) = g <$> (ExceptT.lift x : ExceptT Error m α) := by
  apply ExceptT.ext
  simp [Except.map]

/-- What is made of a call's result inside the call may as well be made of it afterwards. -/
theorem lift_map_bind [LawfulMonad m] {γ : Type} (g : α → β) (x : m α)
    (f : β → ExceptT Error m γ) :
    ExceptT.lift (g <$> x) >>= f = ExceptT.lift x >>= fun a => f (g a) := by
  rw [lift_map, bind_map_left]

theorem lift_bind_pure_bind [LawfulMonad m] {γ : Type} (x : m α) (g : α → β)
    (f : β → ExceptT Error m γ) :
    ExceptT.lift (x >>= fun a => pure (g a)) >>= f = ExceptT.lift x >>= fun a => f (g a) := by
  rw [← map_eq_pure_bind, lift_map_bind]

end Effects

end Requirement

namespace Primitive

open Requirement

variable {m : Type → Type} {algorithm : Algorithm} (p : Primitive m algorithm)

/-! ## What a request has to fulfil -/

/-- A key has the right length, and a context was made for the algorithm. -/
def keyRequirement : KeyInput → Requirement
  | .raw key => exactLength "key" algorithm.descriptor.keyLength key
  | .context context =>
    ⟨context.algorithm = algorithm ∧ (p.load context).isSome,
      .algorithmMismatch algorithm.name context.algorithm.name⟩

/-- Combined decryption needs a ciphertext that can hold a tag, and detached decryption a tag. -/
def tagRequirements (algorithm : Algorithm) (direction : Direction) (mode : Mode)
    (request : Request) : List Requirement :=
  match direction, mode with
  | .encrypt, _ => []
  | .decrypt, .combined =>
    [minLength "ciphertext" algorithm.descriptor.tagLength request.input]
  | .decrypt, .detached =>
    [⟨request.mac.isSome, .typeMismatch "mac"⟩,
      exactLength "mac" algorithm.descriptor.tagLength (request.mac.getD [])]

/-- What a request has to fulfil, in the order of the checks. -/
def requirements (direction : Direction) (mode : Mode) (request : Request) : List Requirement :=
  tagRequirements algorithm direction mode request ++
    [exactLength "nonce" algorithm.descriptor.nonceLength request.nonce,
      p.keyRequirement request.key]

/-! ## The cipher and the call -/

/-- A context of the algorithm always passes the checks on what the algorithm offers. -/
theorem cipherOf_of_algorithm_eq {context : Context} (h : context.algorithm = algorithm) :
    p.cipherOf context =
      (p.load context).elim
        (.error (.algorithmMismatch algorithm.name context.algorithm.name)) .ok := by
  have supported : algorithm.descriptor.supportsPrecompute = true :=
    h ▸ context.supportsPrecompute_algorithm
  have size : context.stateLength = algorithm.descriptor.stateSize := by
    rw [Context.stateLength, h]
  unfold cipherOf
  rw [if_neg (not_not_intro h), supported, if_neg (by simp), if_neg (not_not_intro size)]

/-- The failures of a context are those of its requirement. -/
theorem cipherOf_eq_guarded (context : Context) :
    p.cipherOf context = guarded [p.keyRequirement (.context context)] (p.cipherOf context) := by
  rw [guarded_cons, guarded_nil]
  split_ifs with h
  · rfl
  · simp only [keyRequirement, decide_eq_true_eq, not_and] at h
    by_cases same : context.algorithm = algorithm
    · rw [cipherOf_of_algorithm_eq p same, Option.not_isSome_iff_eq_none.1 (h same)]
      rfl
    · unfold cipherOf
      rw [if_pos same]
      rfl

theorem checkNonceAndKey_eq_guarded (nonce : Bytes) (key : KeyInput) :
    p.checkNonceAndKey nonce key =
      guarded [exactLength "nonce" algorithm.descriptor.nonceLength nonce] (p.checkKey key) := by
  unfold checkNonceAndKey
  rw [check_exact, guarded_cons, guarded_cons]
  split_ifs <;> rfl

variable [Monad m]

/-- The cipher of a key: a key is expanded, a context is opened. -/
def obtainCipher : KeyInput → ExceptT Error m p.Cipher
  | .raw key => p.expandKey key
  | .context context => p.cipherOf context

/-- A context that loads gives its cipher without effects. -/
theorem obtainCipher_of_loaded {context : Context} (same : context.algorithm = algorithm)
    {cipher : p.Cipher} (loaded : p.load context = some cipher) :
    p.obtainCipher (.context context) = pure cipher := by
  have opened : p.cipherOf context = .ok cipher := by
    rw [p.cipherOf_of_algorithm_eq same, loaded]
    rfl
  exact congrArg (fun found => (liftM found : ExceptT Error m p.Cipher)) opened

/-- One call of the primitive with zeroed buffers, and what is made of its result. -/
def perform (direction : Direction) (mode : Mode) (request : Request) (cipher : p.Cipher) :
    ExceptT Error m (Option Output) :=
  let n := algorithm.descriptor.tagLength
  let ad := request.associatedData.toOption
  match direction, mode with
  | .encrypt, .combined => do
    let out := Buffer.zeros (request.input.length + n)
    let result ← ExceptT.lift (p.sealCombined cipher out request.input ad request.nonce)
    Option.map .ciphertext <$> liftM result.accept
  | .encrypt, .detached => do
    let body := Buffer.zeros request.input.length
    let result ← ExceptT.lift
      (p.sealDetached cipher body (Buffer.zeros n) request.input ad request.nonce)
    return result.accept.map .detached
  | .decrypt, .combined => do
    let out := Buffer.zeros (request.input.length - n)
    let result ← ExceptT.lift (p.openCombined cipher out request.input ad request.nonce)
    Option.map .plaintext <$> liftM result.accept
  | .decrypt, .detached => do
    let message := Buffer.zeros request.input.length
    let result ← ExceptT.lift
      (p.openDetached cipher message request.input (request.mac.getD []) ad request.nonce)
    return result.accept.map .plaintext

/-! ## Runs -/

section Lawful

variable [LawfulMonad m]

/-- What follows an expansion comes after one that succeeds. -/
theorem expandKey_bind {β : Type} (key : Bytes) (f : p.Cipher → ExceptT Error m β) :
    p.expandKey key >>= f = ExceptT.lift (p.expand key) >>= fun expanded =>
      match expanded with
      | .error status => throw (.primitive "key expansion" status)
      | .ok cipher => f cipher := by
  unfold expandKey
  rw [bind_assoc]
  congr 1
  funext expanded
  cases expanded with
  | error status => exact ExceptT.bind_throw f
  | ok cipher => exact pure_bind cipher f

/-- The check of a key and the cipher of the checked key, in one. -/
theorem lift_checkKey_bind {β : Type} (key : KeyInput) (f : p.Cipher → ExceptT Error m β) :
    (liftM (p.checkKey key) >>= fun checked => p.obtain checked >>= f) =
      guarded [p.keyRequirement key] (p.obtainCipher key >>= f) := by
  cases key with
  | raw key =>
    simp only [checkKey, monadLift_map, bind_map_left, lift_check_exact_bind]
    rfl
  | context context =>
    simp only [checkKey, monadLift_map, bind_map_left, obtain, pure_bind, obtainCipher]
    rw [← guarded_bind, ← lift_guarded, ← cipherOf_eq_guarded]

/-- The checks of nonce and key, ahead of what is done with the cipher. -/
theorem lift_checkNonceAndKey_bind {β : Type} (nonce : Bytes) (key : KeyInput)
    (f : p.Cipher → ExceptT Error m β) :
    (liftM (p.checkNonceAndKey nonce key) >>= fun checked => p.obtain checked >>= f) =
      guarded [exactLength "nonce" algorithm.descriptor.nonceLength nonce, p.keyRequirement key]
        (p.obtainCipher key >>= f) := by
  rw [checkNonceAndKey_eq_guarded, lift_guarded, guarded_bind, lift_checkKey_bind, ← guarded_append]
  rfl

section Met

variable {nonce : Bytes} {key : KeyInput} {cipher : p.Cipher}
  (hnonce : nonce.length = algorithm.descriptor.nonceLength) (hkey : (p.keyRequirement key).met)
  (hcipher : p.obtainCipher key = pure cipher)
include hnonce hkey hcipher

theorem lift_checkNonceAndKey_bind_of_met {β : Type} (f : p.Cipher → ExceptT Error m β) :
    (liftM (p.checkNonceAndKey nonce key) >>= fun checked => p.obtain checked >>= f) =
      f cipher := by
  have nonce_met : (exactLength "nonce" algorithm.descriptor.nonceLength nonce).met :=
    decide_eq_true hnonce
  rw [lift_checkNonceAndKey_bind, guarded_cons_of_met nonce_met, guarded_cons_of_met hkey,
    guarded_nil, hcipher, pure_bind]

/-- With a right nonce and a cipher at hand, detached encryption is one call. -/
theorem encryptDetached_of_met (message : Bytes) (ad : AssociatedData) :
    p.encryptDetached message ad nonce key = (do
      let result ← ExceptT.lift (p.sealDetached cipher (Buffer.zeros message.length)
        (Buffer.zeros algorithm.descriptor.tagLength) message ad.toOption nonce)
      return result.accept) := by
  unfold encryptDetached
  rw [lift_checkNonceAndKey_bind_of_met p hnonce hkey hcipher]

/-- With a right tag length as well, detached decryption is one call. -/
theorem decryptDetached_of_met (body : Bytes) {mac : Bytes}
    (hmac : mac.length = algorithm.descriptor.tagLength) (ad : AssociatedData) :
    p.decryptDetached body mac ad nonce key = (do
      let result ← ExceptT.lift
        (p.openDetached cipher (Buffer.zeros body.length) body mac ad.toOption nonce)
      return result.accept) := by
  have mac_met : (exactLength "mac" algorithm.descriptor.tagLength mac).met := decide_eq_true hmac
  unfold decryptDetached
  rw [lift_check_exact_bind, guarded_cons_of_met mac_met, guarded_nil,
    lift_checkNonceAndKey_bind_of_met p hnonce hkey hcipher]

end Met

/-- A run checks its request, obtains a cipher and makes one call. -/
theorem run_eq (direction : Direction) (mode : Mode) (request : Request) :
    p.run direction mode request =
      guarded (p.requirements direction mode request)
        (p.obtainCipher request.key >>= p.perform direction mode request) := by
  obtain ⟨input, mac, ad, nonce, key⟩ := request
  unfold requirements
  rw [guarded_append, ← lift_checkNonceAndKey_bind]
  cases direction with
  | encrypt =>
    cases mode
    · simp only [run, encrypt, map_bind]
      rfl
    · simp only [run, encryptDetached, map_bind, map_pure]
      rfl
  | decrypt =>
    cases mode with
    | combined =>
      simp only [run, decrypt, lift_check_atLeast_bind, map_guarded, map_bind]
      rfl
    | detached =>
      cases mac with
      | none => rfl
      | some mac =>
        simp only [run, decryptDetached, lift_check_exact_bind, map_guarded, map_bind, map_pure]
        rfl

/-- A requirement that is not met ends the run, without any effect. -/
theorem run_of_failure {direction : Direction} {mode : Mode} {request : Request} {e : Error}
    (h : firstFailure (p.requirements direction mode request) = some e) :
    p.run direction mode request = throw e := by
  rw [run_eq, guarded_of_failure h]

theorem run_of_met {direction : Direction} {mode : Mode} {request : Request}
    (h : firstFailure (p.requirements direction mode request) = none) :
    p.run direction mode request =
      p.obtainCipher request.key >>= p.perform direction mode request := by
  rw [run_eq, guarded_of_met h]

end Lawful

end Primitive

/-! ## How a run fails -/

/-- Every failure of `x` is an allowed one, whatever the effects of `x`. -/
def FailsOnlyWith {m : Type → Type} [Monad m] {α : Type} (allowed : Error → Prop)
    (x : ExceptT Error m α) : Prop :=
  SatisfiesM (fun answer => ∀ e, answer = .error e → allowed e) x.run

namespace FailsOnlyWith

variable {m : Type → Type} [Monad m] [LawfulMonad m] {α β : Type} {allowed : Error → Prop}

protected theorem pure (a : α) : FailsOnlyWith allowed (pure a : ExceptT Error m α) :=
  SatisfiesM.pure fun e h => by cases h

protected theorem throw {e : Error} (h : allowed e) :
    FailsOnlyWith allowed (throw e : ExceptT Error m α) :=
  SatisfiesM.pure fun e' h' => by cases h'; exact h

/-- An effect by itself does not fail. -/
protected theorem lift (x : m α) : FailsOnlyWith allowed (ExceptT.lift x) := by
  show SatisfiesM _ (Except.ok <$> x)
  exact SatisfiesM.trivial.map fun _ e h => by cases h

protected theorem liftExcept {x : Except Error α} (h : ∀ e, x = .error e → allowed e) :
    FailsOnlyWith allowed (liftM x : ExceptT Error m α) :=
  SatisfiesM.pure h

protected theorem bind {x : ExceptT Error m α} {f : α → ExceptT Error m β}
    (hx : FailsOnlyWith allowed x) (hf : ∀ a, FailsOnlyWith allowed (f a)) :
    FailsOnlyWith allowed (x >>= f) := by
  unfold FailsOnlyWith
  rw [ExceptT.run_bind]
  refine SatisfiesM.bind hx fun answer h => ?_
  cases answer with
  | ok a => exact hf a
  | error e => exact SatisfiesM.pure fun e' h' => by cases h'; exact h e rfl

protected theorem map {x : ExceptT Error m α} (hx : FailsOnlyWith allowed x) (f : α → β) :
    FailsOnlyWith allowed (f <$> x) := by
  rw [map_eq_pure_bind]
  exact hx.bind fun a => FailsOnlyWith.pure (f a)

protected theorem mono {allowed' : Error → Prop} {x : ExceptT Error m α}
    (hx : FailsOnlyWith allowed x) (h : ∀ e, allowed e → allowed' e) : FailsOnlyWith allowed' x :=
  SatisfiesM.imp hx fun ha e he => h e (ha e he)

open Requirement in
/-- Requirements fail with errors of their own, and what they guard runs when all are met. -/
protected theorem guarded {requirements : List Requirement} {x : ExceptT Error m α}
    (hr : ∀ r ∈ requirements, allowed r.error)
    (hx : firstFailure requirements = none → FailsOnlyWith allowed x) :
    FailsOnlyWith allowed (guarded requirements x) := by
  cases h : firstFailure requirements with
  | none =>
    rw [guarded_of_met h]
    exact hx h
  | some e =>
    obtain ⟨r, found, rfl⟩ := Option.map_eq_some_iff.1 h
    rw [guarded_of_failure h]
    exact .throw (hr r (List.mem_of_find?_eq_some found))

end FailsOnlyWith

/-- The failures that a primitive causes: it does not expand the key, or claims a wrong length. -/
inductive Error.OfPrimitive : Error → Prop
  | expansion (status : Status) : OfPrimitive (.primitive "key expansion" status)
  | outputLength (expected written : Nat) : OfPrimitive (.outputLength expected written)

namespace Primitive

open Requirement

theorem accept_error {n : Nat} {result : CombinedResult n} {e : Error}
    (h : result.accept = .error e) : e.OfPrimitive := by
  unfold CombinedResult.accept at h
  split_ifs at h
  cases h
  exact .outputLength _ _

variable {m : Type → Type} [Monad m] [LawfulMonad m] {algorithm : Algorithm}
  (p : Primitive m algorithm)

theorem failsOnlyWith_expandKey (key : Bytes) :
    FailsOnlyWith Error.OfPrimitive (p.expandKey key) := by
  refine FailsOnlyWith.bind (.lift _) fun answer => ?_
  cases answer with
  | ok cipher => exact .pure cipher
  | error status => exact .throw (.expansion status)

theorem failsOnlyWith_obtainCipher {key : KeyInput} (h : (p.keyRequirement key).met) :
    FailsOnlyWith Error.OfPrimitive (p.obtainCipher key) := by
  cases key with
  | raw key => exact p.failsOnlyWith_expandKey key
  | context context =>
    obtain ⟨same, loaded⟩ := of_decide_eq_true h
    obtain ⟨cipher, hcipher⟩ := Option.isSome_iff_exists.1 loaded
    rw [p.obtainCipher_of_loaded same hcipher]
    exact .pure cipher

theorem failsOnlyWith_perform (direction : Direction) (mode : Mode) (request : Request)
    (cipher : p.Cipher) :
    FailsOnlyWith Error.OfPrimitive (p.perform direction mode request cipher) := by
  cases direction <;> cases mode
  case encrypt.combined | decrypt.combined =>
    exact FailsOnlyWith.bind (.lift _) fun result =>
      (FailsOnlyWith.liftExcept fun e he => accept_error he).map _
  case encrypt.detached | decrypt.detached =>
    exact FailsOnlyWith.bind (.lift _) fun result => .pure _

/-- When all requirements are met, only the primitive can make the run fail. -/
theorem failsOnlyWith_run {direction : Direction} {mode : Mode} {request : Request}
    (h : firstFailure (p.requirements direction mode request) = none) :
    FailsOnlyWith Error.OfPrimitive (p.run direction mode request) := by
  rw [run_of_met p h]
  have key_met : (p.keyRequirement request.key).met :=
    firstFailure_eq_none_iff.1 h _ (by simp [requirements])
  exact (p.failsOnlyWith_obtainCipher key_met).bind fun cipher =>
    p.failsOnlyWith_perform direction mode request cipher

end Primitive

end Aead
