import Aead.Primitive.Standard
import Aead.Proofs.Trace

/-!
# Validation comes before every call

A request is checked as a whole before the primitive is called at all. The checks have one order:

1. detached decryption has a tag, and the tag has the right length; combined decryption has a
   ciphertext that is long enough for a tag;
2. the nonce has the right length;
3. the key has the right length, or the context is one that the primitive loads.

The first check that fails decides the answer, whatever else is wrong with the request.

Result:

* `Primitive.run_validates_before_calls`: the first check that fails is the answer, without effects
  and without calls; no check is the answer when all pass; a tag that the operation does not take is
  not looked at.
-/

namespace Aead

/-- The failures of checks on a request. -/
def Error.isRefusal : Error → Bool
  | typeMismatch _ | lengthMismatch _ _ | algorithmMismatch _ _ => true
  | _ => false

theorem Error.OfPrimitive.isRefusal_eq_false {e : Error} (h : e.OfPrimitive) :
    e.isRefusal = false := by
  cases h <;> rfl

namespace Primitive

open Requirement

variable {m : Type → Type} [Monad m] {algorithm : Algorithm} (p : Primitive m algorithm)

/-- Only detached decryption looks at the tag of a request. -/
theorem run_with_mac {direction : Direction} {mode : Mode}
    (h : (direction, mode) ≠ (.decrypt, .detached)) (request : Request) (mac : Option Bytes) :
    p.run direction mode { request with mac } = p.run direction mode request := by
  cases direction <;> cases mode
  case decrypt.detached => exact absurd rfl h
  all_goals rfl

/-- **Validation.** The requirements are checked in order. The first that is not met is the answer,
for every primitive and without a call of it; when all are met, no refusal is the answer. -/
theorem run_validates_before_calls [LawfulMonad m] (direction : Direction) (mode : Mode)
    (request : Request) :
    (∀ e, firstFailure (p.requirements direction mode request) = some e →
      p.run direction mode request = throw e ∧
      ∀ calls, (p.traced.run direction mode request).run.run calls = pure (.error e, calls)) ∧
    (firstFailure (p.requirements direction mode request) = none →
      FailsOnlyWith (fun e => e.isRefusal = false) (p.run direction mode request)) ∧
    ((direction, mode) ≠ (.decrypt, .detached) →
      ∀ mac, p.run direction mode { request with mac } = p.run direction mode request) := by
  refine ⟨fun e h => ?_, fun h => ?_, fun h mac => ?_⟩
  · have recorded := p.run_traced_of_failure h
    exact ⟨(p.erases_run direction mode request).eq_liftM (recorded []), recorded⟩
  · exact (p.failsOnlyWith_run h).mono fun e he => he.isRefusal_eq_false
  · exact p.run_with_mac h request mac

/-- A short tag is refused ahead of a short nonce and an empty key; with right lengths, a wrong tag
is not refused. -/
theorem run_validates_before_calls_of_short_mac :
    (Provider.standard .aes256Gcm).run .decrypt .detached
        ⟨[1], some [2, 3], .absent, [4], .raw []⟩ = throw (.lengthMismatch "mac" (.exactly 16)) ∧
      FailsOnlyWith (fun e => e.isRefusal = false)
        ((Provider.standard .aes256Gcm).run .decrypt .detached
          ⟨[1], some (List.replicate 16 2), .absent, List.replicate 12 4,
            .raw (List.replicate 32 5)⟩) := by
  constructor
  · exact ((run_validates_before_calls _ _ _ _).1 _ (by decide)).1
  · exact (run_validates_before_calls _ _ _ _).2.1 (by decide)

end Primitive

end Aead
