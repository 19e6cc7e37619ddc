import Aead.Proofs.HostCalls
import Aead.Proofs.Lookup
import Aead.Proofs.Precomputation
import Aead.Proofs.Trace

/-!
# The gate on hosts without AES hardware

A host without hardware support for AES-256-GCM may still run it in software, unless the settings
forbid it. Then the functions of the algorithm stay on the surface, and a gate closes all of them
but the one that tells about the hardware. A closed function answers nothing and calls nothing. An
open gate is no gate: nothing fails as unavailable, and every answer is that of a host with the
hardware. No other algorithm has a gate.

Results:

* `Primitive.failsOnlyWith_run_available`, `Primitive.failsOnlyWith_precompute_available`: the
  dispatcher never finds an algorithm unavailable.
* `Config.Offers.call_of_short`, `Config.Offers.call_of_closed`,
  `Config.Offers.traces_call_of_closed`: what a closed function refuses, and that it calls nothing.
* `Config.Offers.failsOnlyWith_call_of_open`: an open function is never unavailable.
* `Host.Surface.register_gates_aes`: the gate after a registration, for every function that the
  registration sets.
-/

namespace Aead

/-! ## Failures of an open function -/

/-- The failure says that an algorithm is not to be used on this host. -/
def Error.isUnavailable : Error → Bool
  | unavailable _ => true
  | _ => false

theorem Error.OfPrimitive.isUnavailable_eq_false {e : Error} (h : e.OfPrimitive) :
    e.isUnavailable = false := by
  cases h <;> rfl

namespace Primitive

open Requirement

variable {m : Type → Type} [Monad m] [LawfulMonad m] {algorithm : Algorithm}
  (p : Primitive m algorithm)

omit [Monad m] [LawfulMonad m] in
theorem isUnavailable_error_of_mem {direction : Direction} {mode : Mode} {request : Request}
    {r : Requirement} (h : r ∈ p.requirements direction mode request) :
    r.error.isUnavailable = false := by
  rcases List.mem_append.1 h with tag | other
  · cases direction <;> cases mode
    case encrypt.combined | encrypt.detached => cases tag
    case decrypt.combined =>
      rw [List.mem_singleton.1 tag]
      rfl
    case decrypt.detached =>
      rcases List.mem_pair.1 tag with rfl | rfl <;> rfl
  · rcases List.mem_pair.1 other with rfl | rfl
    · rfl
    · cases request.key <;> rfl

theorem failsOnlyWith_run_available (direction : Direction) (mode : Mode) (request : Request) :
    FailsOnlyWith (·.isUnavailable = false) (p.run direction mode request) := by
  rw [run_eq]
  refine FailsOnlyWith.guarded (fun r => p.isUnavailable_error_of_mem) fun met => ?_
  rw [← p.run_of_met met]
  exact (p.failsOnlyWith_run met).mono fun e => Error.OfPrimitive.isUnavailable_eq_false

theorem failsOnlyWith_precompute_available (key : Bytes) :
    FailsOnlyWith (·.isUnavailable = false) (p.precompute key) := by
  cases supported : algorithm.descriptor.supportsPrecompute with
  | false =>
    rw [p.precompute_of_not_supported supported]
    exact .throw rfl
  | true =>
    rw [p.precompute_eq supported]
    refine .guarded (fun r hr => ?_) fun _ => .bind ?_ fun cipher => ?_
    · rw [List.mem_singleton.1 hr]
      rfl
    · exact (p.failsOnlyWith_expandKey key).mono fun e => Error.OfPrimitive.isUnavailable_eq_false
    · cases p.store cipher with
      | none => exact .throw rfl
      | some context => exact .pure context

end Primitive

namespace Host

theorem isUnavailable_of_requireArity {names : List String} {args : Arguments} {e : Error}
    (h : requireArity names args = .error e) : e.isUnavailable = false := by
  by_cases enough : names.length ≤ args.length
  · rw [requireArity_of_enough enough] at h
    cases h
  · have short : args.length < names.length := by omega
    rw [requireArity_of_short short] at h
    cases h
    rfl

/-- The checks of an open operation's arguments name an argument that is of a wrong kind. -/
theorem isUnavailable_of_prepare {algorithm : Algorithm} {op : Operation} {args : Arguments}
    {e : Error} (h : prepare algorithm op false args = .error e) : e.isUnavailable = false := by
  by_cases enough : op.arity ≤ args.length
  · rw [prepare_of_open algorithm enough] at h
    have read := requestOf_readAs enough
    cases misfit : firstMisfit (parameters op) args with
    | some name =>
      rw [read.refused name misfit] at h
      cases h
      rfl
    | none =>
      obtain ⟨request, accepted, -⟩ := read.accepted misfit
      rw [accepted] at h
      cases h
  · have short : args.length < op.arity := by omega
    obtain ⟨parameter, -, refused⟩ := prepare_of_short algorithm false short
    rw [refused] at h
    cases h
    rfl

theorem isUnavailable_of_buffer {args : Arguments} {index : Nat} {name : String} {e : Error}
    (h : args.buffer index name .any = .error e) : e.isUnavailable = false := by
  have read := reads_buffer name
  cases fits : Kind.buffer.admits (args.value index) with
  | true =>
    obtain ⟨bytes, accepted, -⟩ := read.takes _ fits
    cases accepted.symm.trans h
  | false =>
    cases (read.refuses _ fits).symm.trans h
    rfl

end Host

/-! ## Offered functions -/

namespace Config

open Host Requirement

/-- The settings offer a function of the algorithm, by the end of its name, the names of its
arguments, and what it does when its gate is closed or open. -/
inductive Offers (config : Config) (algorithm : Algorithm) :
    String → List String → (Bool → Entry) → Prop
  | operation (op : Operation)
      (offered : op.key = .rawKey ∨ config.offersPrecompute algorithm = true) :
      Offers config algorithm op.suffix op.argumentNames (.operation algorithm op)
  | precompute (offered : config.offersPrecompute algorithm = true) :
      Offers config algorithm "beforenm" ["key"] (.precompute algorithm)

variable {config : Config} {algorithm : Algorithm} {suffix : String} {argumentNames : List String}
  {entry : Bool → Entry}

theorem Offers.mem_entriesOf (h : config.Offers algorithm suffix argumentNames entry)
    (hardware : Bool) :
    (suffix, entry (config.isGated algorithm hardware)) ∈ config.entriesOf algorithm hardware := by
  cases h with
  | operation op offered => exact config.mem_entriesOf_operation offered
  | precompute offered => exact config.mem_entriesOf_precompute offered

/-- What an algorithm contributes is what the settings offer, and for one of them the answer of the
hardware. -/
theorem offers_of_mem_entriesOf {hardware : Bool} {e : Entry}
    (h : (suffix, e) ∈ config.entriesOf algorithm hardware) :
    (algorithm = .aes256Gcm ∧ suffix = "is_available") ∨
      ∃ argumentNames entry, config.Offers algorithm suffix argumentNames entry := by
  unfold entriesOf at h
  rcases List.mem_append.1 h with h | h
  · rcases List.mem_append.1 h with h | h
    · split_ifs at h with aes
      · cases List.mem_singleton.1 h
        exact .inl ⟨aes, rfl⟩
      · cases h
    · obtain ⟨op, hop, ⟨⟩⟩ := List.mem_map.1 h
      have offered := (List.mem_filter.1 hop).2
      exact .inr ⟨_, _, .operation op (by simpa using offered)⟩
  · split_ifs at h with offered
    · cases List.mem_singleton.1 h
      exact .inr ⟨_, _, .precompute offered⟩
    · cases h

namespace Offers

variable {m : Type → Type} [Monad m] (provider : Provider m) {args : Arguments}
  (h : config.Offers algorithm suffix argumentNames entry)
include h

/-- All offered functions have one shape: the list has to be long enough, then the gate has to be
open, and the rest does not know of the gate. -/
theorem exists_call_eq (args : Arguments) :
    ∃ rest : ExceptT Error m Value, ∀ gated,
      (entry gated).call provider args =
        liftM (requireArity argumentNames args) >>= fun _ =>
          liftM (requireOpen algorithm gated) >>= fun _ => rest := by
  cases h with
  | operation op offered => exact ⟨_, fun gated => rfl⟩
  | precompute offered => exact ⟨_, fun gated => rfl⟩

variable [LawfulMonad m]

/-- A list that is too short is refused, by the first missing name. -/
theorem call_of_short (short : args.length < argumentNames.length) (gated : Bool) :
    (entry gated).call provider args = throw (.typeMismatch argumentNames[args.length]) := by
  obtain ⟨rest, shape⟩ := h.exists_call_eq provider args
  rw [shape, requireArity_of_short short, lift_error, ExceptT.bind_throw]

/-- A closed function refuses every other list. -/
theorem call_of_closed (enough : argumentNames.length ≤ args.length) :
    (entry true).call provider args = throw (.unavailable algorithm.name) := by
  obtain ⟨rest, shape⟩ := h.exists_call_eq provider args
  have closed : requireOpen algorithm true = .error (.unavailable algorithm.name) := rfl
  rw [shape, requireArity_of_enough enough, lift_ok, pure_bind, closed, lift_error,
    ExceptT.bind_throw]

/-- A closed function calls nothing. -/
theorem traces_call_of_closed (args : Arguments) :
    Traces ((entry true).call provider.traced args) [] ((entry true).call provider args) := by
  by_cases enough : argumentNames.length ≤ args.length
  · rw [h.call_of_closed provider.traced enough, h.call_of_closed provider enough]
    exact .liftExcept (.error _)
  · have short : args.length < argumentNames.length := by omega
    rw [h.call_of_short provider.traced short, h.call_of_short provider short]
    exact .liftExcept (.error _)

/-- An open function fails, but never as unavailable. -/
theorem failsOnlyWith_call_of_open (args : Arguments) :
    FailsOnlyWith (·.isUnavailable = false) ((entry false).call provider args) := by
  cases h with
  | operation op offered =>
    rw [Entry.call_operation]
    refine .bind (.liftExcept fun e => isUnavailable_of_prepare) fun request => ?_
    exact ((provider algorithm).failsOnlyWith_run_available _ _ request).map valueOf
  | precompute offered =>
    refine .bind (.liftExcept fun e => isUnavailable_of_requireArity) fun _ => ?_
    refine .bind (.pure ()) fun _ => ?_
    refine .bind (.liftExcept fun e => isUnavailable_of_buffer) fun key => ?_
    exact ((provider algorithm).failsOnlyWith_precompute_available key).map _

end Offers

/-- Only AES-256-GCM has a gate. -/
theorem isGated_of_ne (config : Config) {algorithm : Algorithm} (h : algorithm ≠ .aes256Gcm)
    (hardware : Bool) : config.isGated algorithm hardware = false := by
  cases algorithm with
  | aes256Gcm => exact absurd rfl h
  | _ => rfl

theorem isGated_aes (config : Config) (hardware : Bool) :
    config.isGated .aes256Gcm hardware = (!hardware && !config.allowSoftwareAes) := rfl

theorem isGated_aes_of_open {config : Config} {hardware : Bool}
    (h : hardware = true ∨ config.allowSoftwareAes = true) :
    config.isGated .aes256Gcm hardware = false := by
  rcases h with h | h <;> simp [isGated_aes, h]

end Config

/-! ## Registrations -/

namespace Host.Surface

variable {m : Type → Type} [Monad m] (provider : Provider m) (start : Surface) {config : Config}
  {algorithm : Algorithm} {suffix : String}

/-- A registration sets the functions that it contributes, whatever they were before. -/
theorem callOn_register {hardware : Bool} {entry : Entry}
    (h : (suffix, entry) ∈ config.entriesOf algorithm hardware) (args : Arguments) :
    (start.register algorithm config hardware).callOn provider
      (config.entryName algorithm suffix) args = entry.call provider args := by
  unfold callOn
  rw [find?_register_self start h]

/-- It sets the functions that the settings offer, for AES-256-GCM the answer of the hardware too,
and leaves all others. -/
theorem find?_register_of_not_offered {name : String} (hardware : Bool)
    (probe : algorithm = .aes256Gcm → name ≠ config.entryName .aes256Gcm "is_available")
    (offered : ∀ suffix argumentNames entry, config.Offers algorithm suffix argumentNames entry →
      name ≠ config.entryName algorithm suffix) :
    (start.register algorithm config hardware).functions.find? name =
      start.functions.find? name := by
  refine NameTable.find?_insertAll_of_not_mem _ fun h => ?_
  obtain ⟨⟨_, e⟩, hmem, rfl⟩ := List.mem_map.1 h
  obtain ⟨⟨suffix, e⟩, hentry, ⟨⟩⟩ := List.mem_map.1 hmem
  rcases Config.offers_of_mem_entriesOf hentry with ⟨rfl, rfl⟩ | ⟨argumentNames, entry, isOffered⟩
  · exact probe rfl rfl
  · exact offered suffix argumentNames entry isOffered rfl

/-- **Software gate.** After a registration of AES-256-GCM on any surface, its probe tells about the
hardware. When there is no hardware and the settings forbid software, every other function that the
registration sets refuses every list, one that is too short by the first missing name and any other
as unavailable, and calls nothing. Otherwise none of them is ever unavailable, and each answers as
it would on a host with the hardware. The functions of the other algorithms are never unavailable. A
registration sets no function but those meant here. -/
theorem register_gates_aes [LawfulMonad m] (config : Config) (args : Arguments) :
    (∀ hardware,
      let reached := start.register .aes256Gcm config hardware
      let name := config.entryName .aes256Gcm
      reached.callOn provider (name "is_available") args = pure (.bool hardware) ∧
      ∀ suffix argumentNames entry, config.Offers .aes256Gcm suffix argumentNames entry →
        (hardware = false → config.allowSoftwareAes = false →
          (∀ short : args.length < argumentNames.length,
            reached.callOn provider (name suffix) args =
              throw (.typeMismatch argumentNames[args.length])) ∧
          (argumentNames.length ≤ args.length →
            reached.callOn provider (name suffix) args = throw (.unavailable "aes256gcm")) ∧
          Traces (reached.callOn provider.traced (name suffix) args) []
            (reached.callOn provider (name suffix) args)) ∧
        (hardware = true ∨ config.allowSoftwareAes = true →
          FailsOnlyWith (·.isUnavailable = false)
            (reached.callOn provider (name suffix) args) ∧
          reached.callOn provider (name suffix) args =
            (start.register .aes256Gcm config true).callOn provider (name suffix) args)) ∧
    (∀ algorithm hardware, algorithm ≠ .aes256Gcm →
      ∀ suffix argumentNames entry, config.Offers algorithm suffix argumentNames entry →
        FailsOnlyWith (·.isUnavailable = false)
          ((start.register algorithm config hardware).callOn provider
            (config.entryName algorithm suffix) args)) ∧
    ∀ algorithm hardware name,
      (algorithm = .aes256Gcm → name ≠ config.entryName .aes256Gcm "is_available") →
      (∀ suffix argumentNames entry, config.Offers algorithm suffix argumentNames entry →
        name ≠ config.entryName algorithm suffix) →
      (start.register algorithm config hardware).functions.find? name =
        start.functions.find? name := by
  refine ⟨fun hardware => ⟨?_, fun suffix argumentNames entry h => ⟨fun missing forbidden => ?_,
    fun allowed => ?_⟩⟩, fun algorithm hardware other suffix argumentNames entry h => ?_,
    fun algorithm hardware name => find?_register_of_not_offered start hardware⟩
  · have probe : ("is_available", .probe hardware) ∈ config.entriesOf .aes256Gcm hardware :=
      List.mem_cons_self
    exact callOn_register provider start probe args
  · have closed : config.isGated .aes256Gcm hardware = true := by
      simp [Config.isGated_aes, missing, forbidden]
    have hmem := h.mem_entriesOf hardware
    rw [closed] at hmem
    rw [callOn_register provider start hmem, callOn_register provider.traced start hmem]
    exact ⟨fun short => h.call_of_short provider short true, h.call_of_closed provider,
      h.traces_call_of_closed provider args⟩
  · have hmem := h.mem_entriesOf hardware
    have hmem_hardware := h.mem_entriesOf true
    rw [Config.isGated_aes_of_open allowed] at hmem
    rw [Config.isGated_aes_of_open (.inl rfl)] at hmem_hardware
    rw [callOn_register provider start hmem, callOn_register provider start hmem_hardware]
    exact ⟨h.failsOnlyWith_call_of_open provider args, rfl⟩
  · have hmem := h.mem_entriesOf hardware
    rw [config.isGated_of_ne other] at hmem
    rw [callOn_register provider start hmem]
    exact h.failsOnlyWith_call_of_open provider args

/-- A host without the hardware. Under settings that forbid software, a lone message misses the next
argument, and arguments of the wrong kinds are as unavailable as right ones would be. Settings that
allow it answer as with the hardware, and another algorithm is not closed by either. -/
theorem register_gates_aes_of_no_hardware :
    let closed := register {} .aes256Gcm { allowSoftwareAes := false } false
    let opened := register {} .aes256Gcm {} false
    let other := register {} .chacha20Poly1305 { allowSoftwareAes := false } false
    closed.callOn Provider.standard "crypto_aead_aes256gcm_is_available" [.null] =
        pure (.bool false) ∧
      closed.callOn Provider.standard "crypto_aead_aes256gcm_beforenm" [.null] =
        throw (.unavailable "aes256gcm") ∧
      closed.callOn Provider.standard "crypto_aead_aes256gcm_encrypt" [.buffer [1]] =
        throw (.typeMismatch "associated_data") ∧
      closed.callOn Provider.standard "crypto_aead_aes256gcm_encrypt" [.null, .null, .null, .null] =
        throw (.unavailable "aes256gcm") ∧
      opened.callOn Provider.standard "crypto_aead_aes256gcm_encrypt" [.null, .null, .null, .null] =
        (register {} .aes256Gcm {} true).callOn Provider.standard "crypto_aead_aes256gcm_encrypt"
          [.null, .null, .null, .null] ∧
      FailsOnlyWith (·.isUnavailable = false)
        (other.callOn Provider.standard "crypto_aead_chacha20poly1305_encrypt"
          [.null, .null, .null, .null]) := by
  intro closed opened other
  let encrypt : Operation := ⟨.encrypt, .combined, .rawKey⟩
  let config : Config := { allowSoftwareAes := false }
  have gate := fun args => (register_gates_aes Provider.standard {} config args).1 false
  have beforenm : config.Offers .aes256Gcm "beforenm" ["key"] (.precompute .aes256Gcm) :=
    .precompute rfl
  have offered : ∀ algorithm, config.Offers algorithm encrypt.suffix encrypt.argumentNames
      (.operation algorithm encrypt) := fun algorithm => .operation encrypt (.inl rfl)
  refine ⟨(gate _).1, ?_, ?_, ?_, ?_, ?_⟩
  · exact (((gate [.null]).2 _ _ _ beforenm).1 rfl rfl).2.1 (by decide)
  · exact (((gate [.buffer [1]]).2 _ _ _ (offered _)).1 rfl rfl).1 (by decide)
  · exact (((gate [.null, .null, .null, .null]).2 _ _ _ (offered _)).1 rfl rfl).2.1 (by decide)
  · have allowed : ({} : Config).Offers .aes256Gcm encrypt.suffix encrypt.argumentNames
        (.operation .aes256Gcm encrypt) := .operation encrypt (.inl rfl)
    exact ((((register_gates_aes Provider.standard {} {} _).1 false).2 _ _ _ allowed).2
      (.inr rfl)).2
  · exact (register_gates_aes Provider.standard {} config _).2.1 _ false (by decide) _ _ _
      (offered .chacha20Poly1305)

end Host.Surface

end Aead
