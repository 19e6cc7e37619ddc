import Aead.Proofs.Precomputation

/-!
# Which calls a context saves and allows

A key is expanded once into a context, and the context is used many times. Expansion refuses what it
can before it calls the primitive, and then makes one call. A call with a context makes no
expansion: it is one call of the operation when the context is the algorithm's own, and it is
refused without a call when it is another's.

Results:

* `Primitive.traces_precompute`: precomputation makes one call, of the key.
* `Primitive.traces_run_of_loaded`, `Primitive.run_of_not_loaded`: a run with a context.
* `Primitive.context_protocol`: both, for any two primitives, one that makes the context and one
  that is given it.
-/

namespace Aead

/-- Only one algorithm has contexts, so each context is of every algorithm that has them, and has
the size that the algorithm reserves. -/
theorem Context.algorithm_eq_of_supported (context : Context) {algorithm : Algorithm}
    (supported : algorithm.descriptor.supportsPrecompute = true) :
    context.algorithm = algorithm ∧ context.stateLength = algorithm.descriptor.stateSize := by
  have same : context.algorithm = algorithm := by
    cases context
    cases algorithm with
    | aes256Gcm => rfl
    | _ => cases supported
  refine ⟨same, ?_⟩
  rw [Context.stateLength, same]

namespace Primitive

open Requirement

variable {m : Type → Type} [Monad m] [LawfulMonad m] {algorithm : Algorithm}
  (p : Primitive m algorithm)

/-! ## Making a context -/

omit [Monad m] [LawfulMonad m] in
/-- What precomputation makes of an expansion: a context if the primitive stores the cipher. -/
def contextOf : Except Status p.Cipher → Except Error Context
  | .error status => .error (.primitive "key expansion" status)
  | .ok cipher => (p.store cipher).elim (.error (.unsupportedAlgorithm algorithm.name)) .ok

theorem precompute_of_length_ne (supported : algorithm.descriptor.supportsPrecompute = true)
    {key : Bytes} (h : key.length ≠ algorithm.descriptor.keyLength) :
    p.precompute key = throw (.lengthMismatch "key" (.exactly algorithm.descriptor.keyLength)) := by
  have not_met : ¬(exactLength "key" algorithm.descriptor.keyLength key).met :=
    decide_eq_true_iff.not.2 h
  rw [p.precompute_eq supported, guarded_cons_of_not_met not_met]
  rfl

/-- With a key of the right length, precomputation is one expansion and what is made of it. -/
theorem precompute_of_length_eq (supported : algorithm.descriptor.supportsPrecompute = true)
    {key : Bytes} (h : key.length = algorithm.descriptor.keyLength) :
    p.precompute key =
      ExceptT.lift (p.expand key) >>= fun expanded => liftM (p.contextOf expanded) := by
  have met : (exactLength "key" algorithm.descriptor.keyLength key).met := decide_eq_true h
  rw [p.precompute_eq supported, guarded_cons_of_met met, guarded_nil, expandKey_bind]
  congr 1
  funext expanded
  cases expanded with
  | error status => rfl
  | ok cipher =>
    dsimp only [contextOf]
    cases p.store cipher <;> rfl

/-- Precomputation with a key of the right length makes one call, of that key. -/
theorem traces_precompute (supported : algorithm.descriptor.supportsPrecompute = true)
    {key : Bytes} (h : key.length = algorithm.descriptor.keyLength) :
    Traces (p.traced.precompute key) [.expand key] (p.precompute key) := by
  rw [p.precompute_of_length_eq supported h, p.traced.precompute_of_length_eq supported h]
  refine Traces.bind (.record _ _) fun expanded => ?_
  cases expanded with
  | error status => exact .liftExcept (.error _)
  | ok cipher => exact .liftExcept ((p.store cipher).elim _ _)

/-- The answer of precomputation, expansion by expansion. -/
theorem run_precompute (supported : algorithm.descriptor.supportsPrecompute = true)
    {key : Bytes} (h : key.length = algorithm.descriptor.keyLength) :
    (p.precompute key).run = p.contextOf <$> p.expand key := by
  rw [p.precompute_of_length_eq supported h, ExceptT.run_bind_lift, map_eq_pure_bind]
  rfl

/-! ## Using a context -/

/-- What a request has to fulfil apart from its key. -/
def lengthRequirements (algorithm : Algorithm) (direction : Direction) (mode : Mode)
    (request : Request) : List Requirement :=
  tagRequirements algorithm direction mode request ++
    [exactLength "nonce" algorithm.descriptor.nonceLength request.nonce]

section Context

variable {direction : Direction} {mode : Mode} {request : Request} {context : Context}
  (hkey : request.key = .context context)
  (valid : firstFailure (lengthRequirements algorithm direction mode request) = none)
include hkey valid

/-- When all else is right, a run with a context depends on the context. -/
theorem run_context_eq :
    p.run direction mode request =
      guarded [p.keyRequirement (.context context)]
        (p.obtainCipher (.context context) >>= p.perform direction mode request) := by
  have split : p.requirements direction mode request =
      lengthRequirements algorithm direction mode request ++
        [p.keyRequirement (.context context)] := by
    rw [lengthRequirements, List.append_assoc, requirements, hkey]
    rfl
  rw [run_eq, split, guarded_append, guarded_of_met valid, hkey]

/-- A context of the algorithm is used without an expansion. -/
theorem run_of_loaded (same : context.algorithm = algorithm) {cipher : p.Cipher}
    (loaded : p.load context = some cipher) :
    p.run direction mode request = p.perform direction mode request cipher := by
  have met : (p.keyRequirement (.context context)).met :=
    decide_eq_true ⟨same, Option.isSome_of_eq_some loaded⟩
  rw [p.run_context_eq hkey valid, guarded_cons_of_met met, guarded_nil,
    p.obtainCipher_of_loaded same loaded, pure_bind]

theorem traces_run_of_loaded (same : context.algorithm = algorithm) {cipher : p.Cipher}
    (loaded : p.load context = some cipher) :
    Traces (p.traced.run direction mode request) [Call.ofRequest algorithm direction mode request]
      (p.run direction mode request) := by
  rw [p.run_of_loaded hkey valid same loaded, p.traced.run_of_loaded hkey valid same loaded]
  exact p.traces_perform direction mode request cipher

/-- A context of another algorithm, or one that does not load, is refused. -/
theorem run_of_not_loaded (h : ¬(context.algorithm = algorithm ∧ (p.load context).isSome)) :
    p.run direction mode request =
      throw (.algorithmMismatch algorithm.name context.algorithm.name) := by
  have not_met : ¬(p.keyRequirement (.context context)).met := decide_eq_true_iff.not.2 h
  rw [p.run_context_eq hkey valid, guarded_cons_of_not_met not_met]
  rfl

theorem traces_run_of_not_loaded
    (h : ¬(context.algorithm = algorithm ∧ (p.load context).isSome)) :
    Traces (p.traced.run direction mode request) [] (p.run direction mode request) := by
  rw [p.run_of_not_loaded hkey valid h, p.traced.run_of_not_loaded hkey valid h]
  exact .liftExcept (.error _)

/-- A run with a context never asks whether there are contexts at all. -/
theorem failsOnlyWith_run_context :
    FailsOnlyWith (fun e => ∀ name, e ≠ .unsupportedAlgorithm name)
      (p.run direction mode request) := by
  by_cases h : context.algorithm = algorithm ∧ (p.load context).isSome
  · obtain ⟨same, loaded⟩ := h
    obtain ⟨cipher, hcipher⟩ := Option.isSome_iff_exists.1 loaded
    rw [p.run_of_loaded hkey valid same hcipher]
    refine (p.failsOnlyWith_perform direction mode request cipher).mono fun e he name => ?_
    cases he <;> simp
  · rw [p.run_of_not_loaded hkey valid h]
    exact .throw fun name => by simp

end Context

/-! ## The protocol -/

/-- **Context protocol.** An algorithm without contexts refuses every key, and one with contexts
refuses keys of a wrong length, both without a call. A key of the right length is expanded by one
call; it is a failure when the expansion fails or the primitive does not store the cipher, and
otherwise a context of the algorithm. With a context, whichever primitive made it, a request that
is otherwise right makes one call, of its operation, when the context is of the primitive's own
algorithm and loads; otherwise the context is refused without a call. A context is never expanded,
and never refused for want of contexts. -/
theorem context_protocol {m' : Type → Type} [Monad m'] [LawfulMonad m'] {other : Algorithm}
    (key : Bytes) (q : Primitive m' other) :
    (algorithm.descriptor.supportsPrecompute = false →
      p.precompute key = throw (.unsupportedAlgorithm algorithm.name) ∧
      Traces (p.traced.precompute key) [] (p.precompute key)) ∧
    (algorithm.descriptor.supportsPrecompute = true →
      (key.length ≠ algorithm.descriptor.keyLength →
        p.precompute key =
          throw (.lengthMismatch "key" (.exactly algorithm.descriptor.keyLength)) ∧
        Traces (p.traced.precompute key) [] (p.precompute key)) ∧
      (key.length = algorithm.descriptor.keyLength →
        Traces (p.traced.precompute key) [.expand key] (p.precompute key) ∧
        (p.precompute key).run = p.contextOf <$> p.expand key ∧
        ∀ expanded context, p.contextOf expanded = .ok context →
          context.algorithm = algorithm ∧
          context.stateLength = algorithm.descriptor.stateSize)) ∧
    ∀ context direction mode request, request.key = .context context →
      firstFailure (lengthRequirements other direction mode request) = none →
      let own := context.algorithm = other ∧ (q.load context).isSome
      let call := Call.ofRequest other direction mode request
      (own → call.isOperation = true ∧
        Traces (q.traced.run direction mode request) [call] (q.run direction mode request)) ∧
      (¬own →
        q.run direction mode request =
          throw (.algorithmMismatch other.name context.algorithm.name) ∧
        Traces (q.traced.run direction mode request) [] (q.run direction mode request)) ∧
      FailsOnlyWith (fun e => ∀ name, e ≠ .unsupportedAlgorithm name)
        (q.run direction mode request) := by
  refine ⟨fun unsupported => ⟨?_, ?_⟩, fun supported => ⟨fun wrong => ⟨?_, ?_⟩, fun right => ?_⟩,
    fun context direction mode request hkey valid => ⟨?_, ?_, ?_⟩⟩
  · exact p.precompute_of_not_supported unsupported key
  · rw [p.precompute_of_not_supported unsupported, p.traced.precompute_of_not_supported unsupported]
    exact .liftExcept (.error _)
  · exact p.precompute_of_length_ne supported wrong
  · rw [p.precompute_of_length_ne supported wrong, p.traced.precompute_of_length_ne supported wrong]
    exact .liftExcept (.error _)
  · exact ⟨p.traces_precompute supported right, p.run_precompute supported right,
      fun expanded context _ => context.algorithm_eq_of_supported supported⟩
  · rintro ⟨same, loaded⟩
    obtain ⟨cipher, hcipher⟩ := Option.isSome_iff_exists.1 loaded
    exact ⟨Call.isOperation_ofRequest other direction mode request,
      q.traces_run_of_loaded hkey valid same hcipher⟩
  · intro foreign
    exact ⟨q.run_of_not_loaded hkey valid foreign, q.traces_run_of_not_loaded hkey valid foreign⟩
  · exact q.failsOnlyWith_run_context hkey valid

/-- One algorithm with contexts and one without: their refusals, the one call that expands a key,
and the context of the key, under which the first makes one call and the second none. -/
theorem context_protocol_of_two_algorithms :
    let aes := Provider.standard .aes256Gcm
    let chacha := Provider.standard .chacha20Poly1305Ietf
    let key : Bytes := List.replicate 32 0
    let nonce : Bytes := List.replicate 12 0
    chacha.precompute [1] = throw (.unsupportedAlgorithm "chacha20poly1305_ietf") ∧
      aes.precompute [1] = throw (.lengthMismatch "key" (.exactly 32)) ∧
      Traces (aes.traced.precompute key) [.expand key] (aes.precompute key) ∧
      ∃ context, aes.precompute key = pure context ∧
        let request : Request := ⟨[1, 2, 3], none, .absent, nonce, .context context⟩
        Traces (aes.traced.run .encrypt .combined request)
          [.sealCombined (List.replicate 19 0) [1, 2, 3] none nonce]
          (aes.run .encrypt .combined request) ∧
        chacha.run .encrypt .combined request =
          throw (.algorithmMismatch "chacha20poly1305_ietf" "aes256gcm") := by
  intro aes chacha key nonce
  have hkey : key.length = 32 := rfl
  obtain ⟨cipher, hcipher⟩ := Algorithm.aes256Gcm.exists_cipher hkey
  obtain ⟨context, precomputed, loaded⟩ := Provider.exists_precompute rfl hcipher
  have same : context.algorithm = .aes256Gcm := (context.algorithm_eq_of_supported rfl).1
  have foreign : ¬(context.algorithm = .chacha20Poly1305Ietf ∧ (chacha.load context).isSome) := by
    rintro ⟨other, -⟩
    cases same.symm.trans other
  let request : Request := ⟨[1, 2, 3], none, .absent, nonce, .context context⟩
  have made := (context_protocol aes key aes).2.1 rfl
  have used := (context_protocol aes key aes).2.2 context .encrypt .combined request rfl rfl
  have refused := (context_protocol aes key chacha).2.2 context .encrypt .combined request rfl rfl
  refine ⟨?_, ?_, (made.2 rfl).1, context, precomputed, ?_, ?_⟩
  · exact ((context_protocol chacha [1] aes).1 rfl).1
  · exact (((context_protocol aes [1] aes).2.1 rfl).1 (by decide)).1
  · exact (used.1 ⟨same, Option.isSome_of_eq_some loaded⟩).2
  · have mismatch := (refused.2.1 foreign).1
    rwa [same] at mismatch

end Primitive

end Aead
