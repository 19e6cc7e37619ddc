import Aead.Host.Registration
import Aead.Proofs.Dispatcher

/-!
# The answer of a host call

A host passes a list of loosely typed values. Which of several mistakes in it is reported is fixed
by one order: a name that no function has, too few arguments, a closed function, and then the first
argument from the left that is of the wrong kind. Lengths come after all of these. A list that makes
no such mistake stands for one request, and the call is the call of the dispatcher on it.

Results:

* `requestOf_readAs`: the arguments are read from the left, up to the first of a wrong kind.
* `Surface.callOn_checks_in_order`: the order of the mistakes, and the answer of a call without one.
-/

namespace Aead.Host

/-! ## Kinds of arguments -/

/-- What a position takes. -/
inductive Kind where
  | buffer
  | optionalBuffer
  | context
  deriving DecidableEq

/-- The value is right for the position. -/
def Kind.admits : Kind → Value → Bool
  | buffer, .buffer _ => true
  | optionalBuffer, .undefined => true
  | optionalBuffer, .null => true
  | optionalBuffer, .buffer _ => true
  | context, .external (.context _) => true
  | _, _ => false

/-- A position of an argument list. -/
structure Parameter where
  name : String
  kind : Kind
  deriving DecidableEq

/-- The positions of an operation's arguments. -/
def parameters (op : Operation) : List Parameter :=
  match op.direction, op.mode, op.key with
  | .encrypt, _, .rawKey =>
    [⟨"message", .buffer⟩, ⟨"associated_data", .optionalBuffer⟩, ⟨"nonce", .buffer⟩,
      ⟨"key", .buffer⟩]
  | .encrypt, _, .precomputed =>
    [⟨"message", .buffer⟩, ⟨"associated_data", .optionalBuffer⟩, ⟨"nonce", .buffer⟩,
      ⟨"context", .context⟩]
  | .decrypt, .combined, .rawKey =>
    [⟨"ciphertext", .buffer⟩, ⟨"associated_data", .optionalBuffer⟩, ⟨"nonce", .buffer⟩,
      ⟨"key", .buffer⟩]
  | .decrypt, .combined, .precomputed =>
    [⟨"ciphertext", .buffer⟩, ⟨"associated_data", .optionalBuffer⟩, ⟨"nonce", .buffer⟩,
      ⟨"context", .context⟩]
  | .decrypt, .detached, .rawKey =>
    [⟨"ciphertext", .buffer⟩, ⟨"mac", .buffer⟩, ⟨"associated_data", .optionalBuffer⟩,
      ⟨"nonce", .buffer⟩, ⟨"key", .buffer⟩]
  | .decrypt, .detached, .precomputed =>
    [⟨"ciphertext", .buffer⟩, ⟨"mac", .buffer⟩, ⟨"associated_data", .optionalBuffer⟩,
      ⟨"nonce", .buffer⟩, ⟨"context", .context⟩]

/-- The name of the first argument that is of the wrong kind. -/
def firstMisfit (parameters : List Parameter) (args : Arguments) : Option String :=
  ((parameters.zip args).find? fun (parameter, value) => !parameter.kind.admits value).map
    fun (parameter, _) => parameter.name

theorem firstMisfit_cons (parameter : Parameter) (rest : List Parameter) (value : Value)
    (args : Arguments) :
    firstMisfit (parameter :: rest) (value :: args) =
      if parameter.kind.admits value then firstMisfit rest args else some parameter.name := by
  unfold firstMisfit
  rw [List.zip_cons_cons, List.find?_cons]
  cases h : parameter.kind.admits value <;> simp [h]

theorem map_name_parameters (op : Operation) : (parameters op).map (·.name) = op.argumentNames := by
  obtain ⟨direction, mode, key⟩ := op
  cases direction <;> cases mode <;> cases key <;> rfl

theorem length_parameters (op : Operation) : (parameters op).length = op.arity := by
  rw [← List.length_map, map_name_parameters, Operation.arity]

/-- The kind of argument that a key or a context is. -/
def Kind.ofStrategy : KeyStrategy → Kind
  | .rawKey => buffer
  | .precomputed => context

/-- The positions from the associated data on. -/
def commonParameters (strategy : KeyStrategy) : List Parameter :=
  [⟨"associated_data", .optionalBuffer⟩, ⟨"nonce", .buffer⟩,
    ⟨strategy.argumentName, .ofStrategy strategy⟩]

theorem parameters_of_takesMac {op : Operation} (h : op.takesMac = true) :
    parameters op =
      ⟨op.direction.inputName, .buffer⟩ :: ⟨"mac", .buffer⟩ :: commonParameters op.key := by
  obtain ⟨direction, mode, key⟩ := op
  cases direction <;> cases mode <;> cases key <;> first | rfl | cases h

theorem parameters_of_not_takesMac {op : Operation} (h : op.takesMac = false) :
    parameters op = ⟨op.direction.inputName, .buffer⟩ :: commonParameters op.key := by
  obtain ⟨direction, mode, key⟩ := op
  cases direction <;> cases mode <;> cases key <;> first | rfl | cases h

/-! ## Requests -/

/-- The associated data that a value stands for. -/
inductive IsAssociatedData : Value → AssociatedData → Prop
  | undefined : IsAssociatedData .undefined .absent
  | null : IsAssociatedData .null .absent
  | buffer (bytes : Bytes) : IsAssociatedData (.buffer bytes) (.present bytes)

/-- The key or the context that a value stands for. -/
inductive IsKey : KeyStrategy → Value → KeyInput → Prop
  | raw (key : Bytes) : IsKey .rawKey (.buffer key) (.raw key)
  | context (context : Context) :
      IsKey .precomputed (.external (.context context)) (.context context)

/-- The request that an argument list stands for. Arguments beyond the last position say nothing. -/
inductive Denotes (op : Operation) : Arguments → Request → Prop
  | withMac {adValue keyValue : Value} {ad : AssociatedData} {key : KeyInput}
      (takesMac : op.takesMac = true) (body mac nonce : Bytes) (isAd : IsAssociatedData adValue ad)
      (isKey : IsKey op.key keyValue key) (surplus : Arguments) :
      Denotes op (.buffer body :: .buffer mac :: adValue :: .buffer nonce :: keyValue :: surplus)
        ⟨body, some mac, ad, nonce, key⟩
  | withoutMac {adValue keyValue : Value} {ad : AssociatedData} {key : KeyInput}
      (takesMac : op.takesMac = false) (input nonce : Bytes) (isAd : IsAssociatedData adValue ad)
      (isKey : IsKey op.key keyValue key) (surplus : Arguments) :
      Denotes op (.buffer input :: adValue :: .buffer nonce :: keyValue :: surplus)
        ⟨input, none, ad, nonce, key⟩

theorem IsAssociatedData.unique {value : Value} {ad ad' : AssociatedData}
    (h : IsAssociatedData value ad) (h' : IsAssociatedData value ad') : ad' = ad := by
  cases h <;> cases h' <;> rfl

theorem IsKey.unique {strategy : KeyStrategy} {value : Value} {key key' : KeyInput}
    (h : IsKey strategy value key) (h' : IsKey strategy value key') : key' = key := by
  cases h <;> cases h' <;> rfl

theorem Denotes.unique {op : Operation} {args : Arguments} {request request' : Request}
    (h : Denotes op args request) (h' : Denotes op args request') : request' = request := by
  cases h with
  | withMac takesMac body mac nonce isAd isKey surplus =>
    cases h' with
    | withMac _ _ _ _ isAd' isKey' _ => rw [isAd.unique isAd', isKey.unique isKey']
    | withoutMac takesMac' => cases takesMac.symm.trans takesMac'
  | withoutMac takesMac input nonce isAd isKey surplus =>
    cases h' with
    | withMac takesMac' => cases takesMac.symm.trans takesMac'
    | withoutMac _ _ _ isAd' isKey' _ => rw [isAd.unique isAd', isKey.unique isKey']

/-! ## Reading from the left -/

/-- `read` gives the meaning of a value of the parameter's kind, and refuses another by name. -/
structure Reads {α : Type} (parameter : Parameter) (read : Value → Except Error α)
    (Means : Value → α → Prop) : Prop where
  takes : ∀ value, parameter.kind.admits value = true → ∃ a, read value = .ok a ∧ Means value a
  refuses : ∀ value, parameter.kind.admits value = false →
    read value = .error (.typeMismatch parameter.name)

theorem reads_buffer (name : String) :
    Reads ⟨name, .buffer⟩ (fun value => value.requireBuffer name .any)
      (fun value bytes => value = .buffer bytes) where
  takes
    | .buffer bytes, _ => ⟨bytes, rfl, rfl⟩
  refuses value h := by
    cases value
    case buffer => cases h
    all_goals rfl

theorem reads_optionalBuffer (name : String) :
    Reads ⟨name, .optionalBuffer⟩ (fun value => value.optionalBuffer name) IsAssociatedData where
  takes
    | .undefined, _ => ⟨_, rfl, .undefined⟩
    | .null, _ => ⟨_, rfl, .null⟩
    | .buffer bytes, _ => ⟨_, rfl, .buffer bytes⟩
  refuses value h := by
    cases value
    case undefined | null | buffer => cases h
    all_goals rfl

theorem reads_key (strategy : KeyStrategy) :
    Reads ⟨strategy.argumentName, .ofStrategy strategy⟩
      (fun value => keyArgument strategy [value] 0) (IsKey strategy) := by
  cases strategy with
  | rawKey =>
    constructor
    · rintro (_ | _ | _ | _ | _ | bytes | _ | _) h
      case buffer => exact ⟨_, rfl, .raw bytes⟩
      all_goals cases h
    · intro value h
      cases value
      case buffer => cases h
      all_goals rfl
  | precomputed =>
    constructor
    · rintro (_ | _ | _ | _ | _ | _ | _ | ⟨context | _ | _⟩) h
      case external.context => exact ⟨_, rfl, .context context⟩
      all_goals cases h
    · rintro (_ | _ | _ | _ | _ | _ | _ | ⟨context | _ | _⟩) h
      case external.context => cases h
      all_goals rfl

/-- `x` is refused by the name of the first misfit, and has a meaning when nothing misfits. -/
structure ReadAs {α : Type} (parameters : List Parameter) (args : Arguments) (x : Except Error α)
    (Means : α → Prop) : Prop where
  refused : ∀ name, firstMisfit parameters args = some name → x = .error (.typeMismatch name)
  accepted : firstMisfit parameters args = none → ∃ a, x = .ok a ∧ Means a

section ReadAs

variable {α β : Type} {Means : β → Prop} {args : Arguments}

theorem ReadAs.nil {b : β} (h : Means b) : ReadAs [] args (pure b) Means where
  refused _ misfit := by cases misfit
  accepted _ := ⟨b, rfl, h⟩

/-- One more position on the left. -/
theorem ReadAs.cons {parameter : Parameter} {rest : List Parameter} {read : Value → Except Error α}
    {Reading : Value → α → Prop} {value : Value} {f : α → Except Error β}
    (hread : Reads parameter read Reading)
    (hrest : ∀ a, Reading value a → ReadAs rest args (f a) Means) :
    ReadAs (parameter :: rest) (value :: args) (read value >>= f) Means := by
  cases fits : parameter.kind.admits value with
  | true =>
    obtain ⟨a, hvalue, hmeans⟩ := hread.takes value fits
    rw [hvalue]
    constructor <;> rw [firstMisfit_cons, if_pos fits]
    · exact (hrest a hmeans).refused
    · exact (hrest a hmeans).accepted
  | false =>
    rw [hread.refuses value fits]
    constructor <;> rw [firstMisfit_cons, if_neg (by simp [fits])]
    · rintro name ⟨⟩
      rfl
    · intro h
      cases h

end ReadAs

/-- The arguments from the associated data on, read from the left. -/
theorem common_readAs {strategy : KeyStrategy} {input : Bytes} {mac : Option Bytes}
    {adValue nonceValue keyValue : Value} {Means : Request → Prop}
    (h : ∀ ad nonce key, IsAssociatedData adValue ad → nonceValue = .buffer nonce →
      IsKey strategy keyValue key → Means ⟨input, mac, ad, nonce, key⟩) (surplus : Arguments) :
    ReadAs (commonParameters strategy) (adValue :: nonceValue :: keyValue :: surplus)
      (do
        let ad ← adValue.optionalBuffer "associated_data"
        let nonce ← nonceValue.requireBuffer "nonce" .any
        let key ← keyArgument strategy [keyValue] 0
        return ⟨input, mac, ad, nonce, key⟩)
      Means := by
  refine .cons (reads_optionalBuffer _) fun ad isAd => ?_
  refine .cons (reads_buffer _) fun nonce isNonce => ?_
  refine .cons (reads_key strategy) fun key isKey => ?_
  exact .nil (h ad nonce key isAd isNonce isKey)

theorem requestOf_of_takesMac {op : Operation} (h : op.takesMac = true)
    (bodyValue macValue adValue nonceValue keyValue : Value) (surplus : Arguments) :
    requestOf op (bodyValue :: macValue :: adValue :: nonceValue :: keyValue :: surplus) = (do
      let body ← bodyValue.requireBuffer op.direction.inputName .any
      let mac ← macValue.requireBuffer "mac" .any
      let ad ← adValue.optionalBuffer "associated_data"
      let nonce ← nonceValue.requireBuffer "nonce" .any
      let key ← keyArgument op.key [keyValue] 0
      return ⟨body, some mac, ad, nonce, key⟩) := by
  unfold requestOf macArgument
  simp only [h, if_true, bind_map_left]
  cases op.key <;> rfl

theorem requestOf_of_not_takesMac {op : Operation} (h : op.takesMac = false)
    (inputValue adValue nonceValue keyValue : Value) (surplus : Arguments) :
    requestOf op (inputValue :: adValue :: nonceValue :: keyValue :: surplus) = (do
      let input ← inputValue.requireBuffer op.direction.inputName .any
      let ad ← adValue.optionalBuffer "associated_data"
      let nonce ← nonceValue.requireBuffer "nonce" .any
      let key ← keyArgument op.key [keyValue] 0
      return ⟨input, none, ad, nonce, key⟩) := by
  unfold requestOf macArgument
  simp only [h]
  cases op.key <;> rfl

/-- An argument list that is long enough is read from the left: the first misfit refuses it, and
without one it is the request that it stands for. -/
theorem requestOf_readAs {op : Operation} {args : Arguments} (h : op.arity ≤ args.length) :
    ReadAs (parameters op) args (requestOf op args) (Denotes op args) := by
  rw [← length_parameters] at h
  cases takesMac : op.takesMac with
  | true =>
    rw [parameters_of_takesMac takesMac] at h ⊢
    match args, h with
    | bodyValue :: macValue :: adValue :: nonceValue :: keyValue :: surplus, _ =>
      rw [requestOf_of_takesMac takesMac]
      refine .cons (reads_buffer _) fun body isBody => ?_
      refine .cons (reads_buffer _) fun mac isMac => ?_
      refine common_readAs (fun ad nonce key isAd isNonce isKey => ?_) surplus
      subst isBody isMac isNonce
      exact .withMac takesMac body mac nonce isAd isKey surplus
  | false =>
    rw [parameters_of_not_takesMac takesMac] at h ⊢
    match args, h with
    | inputValue :: adValue :: nonceValue :: keyValue :: surplus, _ =>
      rw [requestOf_of_not_takesMac takesMac]
      refine .cons (reads_buffer _) fun input isInput => ?_
      refine common_readAs (fun ad nonce key isAd isNonce isKey => ?_) surplus
      subst isInput isNonce
      exact .withoutMac takesMac input nonce isAd isKey surplus

/-! ## Lists that stand for a request -/

theorem optionalBuffer_of_isAssociatedData {value : Value} {ad : AssociatedData}
    (h : IsAssociatedData value ad) (name : String) : value.optionalBuffer name = .ok ad := by
  cases h <;> rfl

theorem keyArgument_of_isKey {strategy : KeyStrategy} {value : Value} {key : KeyInput}
    (h : IsKey strategy value key) : keyArgument strategy [value] 0 = .ok key := by
  cases h <;> rfl

theorem requestOf_of_denotes {op : Operation} {args : Arguments} {request : Request}
    (h : Denotes op args request) : requestOf op args = .ok request := by
  cases h with
  | withMac takesMac body mac nonce isAd isKey surplus =>
    rw [requestOf_of_takesMac takesMac, optionalBuffer_of_isAssociatedData isAd,
      keyArgument_of_isKey isKey]
    rfl
  | withoutMac takesMac input nonce isAd isKey surplus =>
    rw [requestOf_of_not_takesMac takesMac, optionalBuffer_of_isAssociatedData isAd,
      keyArgument_of_isKey isKey]
    rfl

theorem Denotes.arity_le {op : Operation} {args : Arguments} {request : Request}
    (h : Denotes op args request) : op.arity ≤ args.length := by
  rw [← length_parameters]
  cases h with
  | withMac takesMac =>
    rw [parameters_of_takesMac takesMac]
    simp [commonParameters]
  | withoutMac takesMac =>
    rw [parameters_of_not_takesMac takesMac]
    simp [commonParameters]

/-! ## The checks of a call -/

/-- The checks of an operation's arguments, and the request that they leave. -/
def prepare (algorithm : Algorithm) (op : Operation) (gated : Bool) (args : Arguments) :
    Except Error Request := do
  requireArity op.argumentNames args
  requireOpen algorithm gated
  requestOf op args

section Prepare

variable (algorithm : Algorithm) {op : Operation} {args : Arguments}

theorem requireArity_of_short {names : List String} (h : args.length < names.length) :
    requireArity names args = .error (.typeMismatch names[args.length]) := by
  unfold requireArity
  rw [List.getElem?_eq_getElem h]

theorem requireArity_of_enough {names : List String} (h : names.length ≤ args.length) :
    requireArity names args = .ok () := by
  unfold requireArity
  rw [List.getElem?_eq_none h]

theorem prepare_of_short (gated : Bool) (h : args.length < op.arity) :
    ∃ parameter, (parameters op)[args.length]? = some parameter ∧
      prepare algorithm op gated args = .error (.typeMismatch parameter.name) := by
  rw [← length_parameters] at h
  have short : requireArity ((parameters op).map (·.name)) args =
      .error (.typeMismatch (parameters op)[args.length].name) := by
    rw [requireArity_of_short (by rwa [List.length_map]), List.getElem_map]
  refine ⟨_, List.getElem?_eq_getElem h, ?_⟩
  unfold prepare
  rw [← map_name_parameters, short]
  rfl

theorem prepare_of_gated (h : op.arity ≤ args.length) :
    prepare algorithm op true args = .error (.unavailable algorithm.name) := by
  unfold prepare
  rw [requireArity_of_enough h]
  rfl

theorem prepare_of_open (h : op.arity ≤ args.length) :
    prepare algorithm op false args = requestOf op args := by
  unfold prepare
  rw [requireArity_of_enough h]
  rfl

/-- A list that stands for a request passes the checks of an open function. -/
theorem prepare_of_denotes {request : Request} (h : Denotes op args request) :
    prepare algorithm op false args = .ok request := by
  rw [prepare_of_open algorithm h.arity_le, requestOf_of_denotes h]

end Prepare

/-! ## Calls -/

section Calls

open Requirement

variable {m : Type → Type} [Monad m] (provider : Provider m) {surface : Surface} {name : String}
  {args : Arguments}

theorem Surface.callOn_of_none (h : surface.functions.find? name = none) :
    surface.callOn provider name args = throw (.unknownExport name) := by
  unfold callOn
  rw [h]

variable [LawfulMonad m]

/-- All checks of an operation come before its effects. -/
theorem Entry.call_operation (algorithm : Algorithm) (op : Operation) (gated : Bool)
    (args : Arguments) :
    Entry.call provider args (.operation algorithm op gated) =
      liftM (prepare algorithm op gated args) >>= fun request =>
        valueOf <$> (provider algorithm).run op.direction op.mode request := by
  unfold Entry.call prepare
  rw [lift_bind, lift_bind]
  simp only [bind_assoc]

section Operation

variable {algorithm : Algorithm} {op : Operation} {gated : Bool}
  (hfind : surface.functions.find? name = some (.operation algorithm op gated))
include hfind

theorem Surface.callOn_of_prepare_error {e : Error}
    (h : prepare algorithm op gated args = .error e) :
    surface.callOn provider name args = throw e := by
  unfold callOn
  rw [hfind]
  show Entry.call provider args _ = _
  rw [Entry.call_operation, h, lift_error, ExceptT.bind_throw]

theorem Surface.callOn_of_prepare_ok {request : Request}
    (h : prepare algorithm op gated args = .ok request) :
    surface.callOn provider name args =
      valueOf <$> (provider algorithm).run op.direction op.mode request := by
  unfold callOn
  rw [hfind]
  show Entry.call provider args _ = _
  rw [Entry.call_operation, h, lift_ok, pure_bind]

end Operation

/-- An answer as a host sees it. Refusal alone is undefined; the empty message is a buffer. -/
theorem valueOf_eq :
    valueOf none = .undefined ∧
    (∀ bytes, valueOf (some (.ciphertext bytes)) = .buffer bytes) ∧
    (∀ bytes, valueOf (some (.plaintext bytes)) = .buffer bytes) ∧
    ∀ body mac, valueOf (some (.detached ⟨body, mac⟩)) =
      .object [("cipherText", .buffer body), ("mac", .buffer mac)] :=
  ⟨rfl, fun _ => rfl, fun _ => rfl, fun _ _ => rfl⟩

/-- **Host calls.** A name without a function is unknown, whatever constant has it. A function that
runs an operation refuses, in this order, a list that is too short by the first missing name, every
list if it is closed, and the first argument of a wrong kind by its name. Any other list stands for
exactly one request, and the call gives the dispatcher's answer to it. -/
theorem Surface.callOn_checks_in_order (surface : Surface) (name : String) (args : Arguments) :
    (surface.functions.find? name = none →
      surface.callOn provider name args = throw (.unknownExport name)) ∧
    (∀ algorithm op gated,
      surface.functions.find? name = some (.operation algorithm op gated) →
      (args.length < op.arity → ∃ parameter, (parameters op)[args.length]? = some parameter ∧
        surface.callOn provider name args = throw (.typeMismatch parameter.name)) ∧
      (op.arity ≤ args.length → gated = true →
        surface.callOn provider name args = throw (.unavailable algorithm.name)) ∧
      (op.arity ≤ args.length → gated = false →
        (∀ argument, firstMisfit (parameters op) args = some argument →
          surface.callOn provider name args = throw (.typeMismatch argument)) ∧
        (firstMisfit (parameters op) args = none →
          ∃ request, (∀ other, Denotes op args other ↔ other = request) ∧
            surface.callOn provider name args =
              valueOf <$> (provider algorithm).run op.direction op.mode request))) ∧
    valueOf none = .undefined ∧
    (∀ bytes, valueOf (some (.ciphertext bytes)) = .buffer bytes) ∧
    (∀ bytes, valueOf (some (.plaintext bytes)) = .buffer bytes) ∧
    ∀ body mac, valueOf (some (.detached ⟨body, mac⟩)) =
      .object [("cipherText", .buffer body), ("mac", .buffer mac)] := by
  refine ⟨callOn_of_none provider, fun algorithm op gated hfind => ⟨fun hshort => ?_,
    fun hlong hgated => ?_, fun hlong hopen => ?_⟩, valueOf_eq⟩
  · obtain ⟨parameter, found, prepared⟩ := prepare_of_short algorithm gated hshort
    exact ⟨parameter, found, callOn_of_prepare_error provider hfind prepared⟩
  · subst hgated
    exact callOn_of_prepare_error provider hfind (prepare_of_gated algorithm hlong)
  · subst hopen
    have prepared := prepare_of_open algorithm hlong
    have read := requestOf_readAs hlong
    constructor
    · intro argument misfit
      exact callOn_of_prepare_error provider hfind (prepared.trans (read.refused argument misfit))
    · intro fits
      obtain ⟨request, hrequest, denoted⟩ := read.accepted fits
      refine ⟨request, fun other => ⟨denoted.unique, ?_⟩, ?_⟩
      · rintro rfl
        exact denoted
      · exact callOn_of_prepare_ok provider hfind (prepared.trans hrequest)

/-- On the surface of one algorithm: a constant is no function, a missing argument and a tag that is
no buffer are named ahead of a short nonce, and a list with only a short nonce reaches the
dispatcher. -/
theorem Surface.callOn_checks_in_order_of_decrypt_detached :
    let surface := register {} .chacha20Poly1305 {} false
    let name := "crypto_aead_chacha20poly1305_decrypt_detached"
    surface.callOn Provider.standard "crypto_aead_chacha20poly1305_KEYBYTES" [] =
        throw (.unknownExport "crypto_aead_chacha20poly1305_KEYBYTES") ∧
      surface.callOn Provider.standard name [.buffer [1], .null] =
        throw (.typeMismatch "associated_data") ∧
      surface.callOn Provider.standard name
          [.buffer [1], .null, .null, .buffer [2], .undefined] = throw (.typeMismatch "mac") ∧
      surface.callOn Provider.standard name
          [.buffer [1], .buffer [3], .null, .buffer [2], .buffer [4], .null] =
        valueOf <$> (Provider.standard .chacha20Poly1305).run .decrypt .detached
          ⟨[1], some [3], .absent, [2], .raw [4]⟩ := by
  intro surface name
  let op : Operation := ⟨.decrypt, .detached, .rawKey⟩
  have hnone : surface.functions.find? "crypto_aead_chacha20poly1305_KEYBYTES" = none := by
    decide +kernel
  have hfind : surface.functions.find? name = some (.operation .chacha20Poly1305 op false) := by
    decide +kernel
  have checks := fun args =>
    (callOn_checks_in_order Provider.standard surface name args).2.1 _ _ _ hfind
  refine ⟨(callOn_checks_in_order _ _ _ _).1 hnone, ?_, ?_, ?_⟩
  · obtain ⟨parameter, found, h⟩ := (checks [.buffer [1], .null]).1 (by decide)
    cases found
    exact h
  · exact ((checks _).2.2 (by decide) rfl).1 "mac" rfl
  · obtain ⟨request, only, h⟩ := ((checks [.buffer [1], .buffer [3], .null, .buffer [2],
      .buffer [4], .null]).2.2 (by decide) rfl).2 rfl
    have denoted : Denotes op _ ⟨[1], some [3], .absent, [2], .raw [4]⟩ :=
      .withMac rfl [1] [3] [2] .null (.raw [4]) [.null]
    rw [h, ← (only _).1 denoted]

end Calls

end Aead.Host
