import Aead.Proofs.HostCalls
import Aead.Proofs.Lookup
import Aead.Proofs.Precomputation

/-!
# Round trips on the surface of a host

A host reaches an algorithm by names and loosely typed values. Here the layers between a name and
the cipher come together: the settings put a function under its name, an argument list stands for a
request, the dispatcher answers it, and the answer is a value that a second call takes back.

Results:

* `Surface.call_of_denotes`: a call with arguments that stand for a request has the dispatcher's
  answer to the request.
* `Surface.call_decrypt_call_encrypt`: what a host encrypts it decrypts again, in both modes, with
  keys and with contexts.
-/

namespace Aead.Host

namespace Surface

/-! ## Calls of one function -/

variable {surface : Surface} {name : String} {algorithm : Algorithm}

/-- A call with arguments that stand for a request has the dispatcher's answer to the request. -/
theorem call_of_denotes {op : Operation}
    (hfind : surface.functions.find? name = some (.operation algorithm op false))
    {args : Arguments} {request : Request} (h : Denotes op args request) :
    surface.call name args =
      valueOf <$> dispatch algorithm op.direction op.mode request := by
  unfold call
  rw [callOn_of_prepare_ok Provider.standard hfind (prepare_of_denotes algorithm h), answer_map]
  rfl

/-- A call that expands a key gives its context. -/
theorem call_precompute
    (hfind : surface.functions.find? name = some (.precompute algorithm false)) {key : Bytes}
    {context : Context} (h : (Provider.standard algorithm).precompute key = pure context) :
    surface.call name [.buffer key] = .ok (.external (.context context)) := by
  unfold call callOn
  rw [hfind]
  show answer ((fun context => Value.external (.context context)) <$>
    (Provider.standard algorithm).precompute key) = _
  rw [h]
  rfl

/-! ## Functions of one algorithm -/

/-- The call of an operation under the name that the settings give it. -/
def callOperation (surface : Surface) (config : Config) (algorithm : Algorithm) (op : Operation)
    (args : Arguments) : Except Error Value :=
  surface.call (config.entryName algorithm op.suffix) args

/-- The call that expands a key, under the name that the settings give it. -/
def callPrecompute (surface : Surface) (config : Config) (algorithm : Algorithm)
    (args : Arguments) : Except Error Value :=
  surface.call (config.entryName algorithm "beforenm") args

/-- A value by which functions of a strategy take a key: the key itself or, where contexts are
offered, what the surface gave when it expanded the key. -/
inductive HoldsKey (surface : Surface) (config : Config) (algorithm : Algorithm) (key : Bytes) :
    KeyStrategy → Value → Prop
  | raw : HoldsKey surface config algorithm key .rawKey (.buffer key)
  | expanded {value : Value} (offered : config.offersPrecompute algorithm = true)
      (h : surface.callPrecompute config algorithm [.buffer key] = .ok value) :
      HoldsKey surface config algorithm key .precomputed value

section Bound

variable {config : Config} {hardware : Bool} (bound : ofConfig config hardware = .ok surface)
  (names : config.Names algorithm) (ungated : config.isGated algorithm hardware = false)
include bound names ungated

theorem callOperation_of_denotes {op : Operation}
    (offered : op.key = .rawKey ∨ config.offersPrecompute algorithm = true) {args : Arguments}
    {request : Request} (h : Denotes op args request) :
    surface.callOperation config algorithm op args =
      valueOf <$> dispatch algorithm op.direction op.mode request := by
  have hfind := find?_ofConfig bound names (config.mem_entriesOf_operation offered)
  rw [ungated] at hfind
  exact call_of_denotes hfind h

theorem callPrecompute_eq (offered : config.offersPrecompute algorithm = true) {key : Bytes}
    {context : Context} (h : (Provider.standard algorithm).precompute key = pure context) :
    surface.callPrecompute config algorithm [.buffer key] =
      .ok (.external (.context context)) := by
  have hfind := find?_ofConfig bound names (config.mem_entriesOf_precompute offered)
  rw [ungated] at hfind
  exact call_precompute hfind h

section Key

variable {key : Bytes} {cipher : algorithm.construction.Cipher}
  (hcipher : algorithm.cipher? (.raw key) = some cipher)
include hcipher

/-- The surface expands a key to a context with the key's cipher. -/
theorem exists_callPrecompute (offered : config.offersPrecompute algorithm = true) :
    ∃ context,
      surface.callPrecompute config algorithm [.buffer key] = .ok (.external (.context context)) ∧
      algorithm.cipher? (.context context) = some cipher := by
  have supported : algorithm.descriptor.supportsPrecompute = true :=
    (Bool.and_eq_true_iff.1 offered).1
  obtain ⟨context, precomputed, loaded⟩ := Provider.exists_precompute supported hcipher
  exact ⟨context, callPrecompute_eq bound names ungated offered precomputed, loaded⟩

/-- A value that holds a key stands for a key input with the key's cipher. -/
theorem HoldsKey.exists_isKey {strategy : KeyStrategy} {value : Value}
    (h : HoldsKey surface config algorithm key strategy value) :
    ∃ input, IsKey strategy value input ∧ algorithm.cipher? input = some cipher ∧
      (strategy = .rawKey ∨ config.offersPrecompute algorithm = true) := by
  cases h with
  | raw => exact ⟨.raw key, .raw key, hcipher, .inl rfl⟩
  | expanded offered returned =>
    obtain ⟨context, called, loaded⟩ :=
      exists_callPrecompute bound names ungated hcipher offered
    rw [called] at returned
    cases returned
    exact ⟨.context context, .context context, loaded, .inr offered⟩

end Key

end Bound

/-- **Round trip of a host.** On the surface of some settings, for a selected algorithm that is not
closed: what its encryption returns, its decryption takes back to the message, in both modes, also
when the associated data come as another value that stands for the same bytes. Where contexts are
offered, every key of the right length has one, and each call may bring the key or the context. -/
theorem call_decrypt_call_encrypt {config : Config} {hardware : Bool}
    (bound : ofConfig config hardware = .ok surface) (names : config.Names algorithm)
    (ungated : config.isGated algorithm hardware = false) {key nonce : Bytes}
    (hkey : key.length = 32) (hnonce : nonce.length = algorithm.descriptor.nonceLength)
    {adValue adValue' : Value} {ad ad' : AssociatedData} (isAd : IsAssociatedData adValue ad)
    (isAd' : IsAssociatedData adValue' ad') (same : ad'.bytes = ad.bytes) (message : Bytes) :
    (config.offersPrecompute algorithm = true →
      ∃ handle, surface.callPrecompute config algorithm [.buffer key] = .ok (.external handle)) ∧
    ∀ sealing opening keyValue keyValue',
      HoldsKey surface config algorithm key sealing keyValue →
      HoldsKey surface config algorithm key opening keyValue' →
      (∃ sealed,
        surface.callOperation config algorithm ⟨.encrypt, .combined, sealing⟩
          [.buffer message, adValue, .buffer nonce, keyValue] = .ok sealed ∧
        surface.callOperation config algorithm ⟨.decrypt, .combined, opening⟩
          [sealed, adValue', .buffer nonce, keyValue'] = .ok (.buffer message)) ∧
      ∃ parts body mac,
        surface.callOperation config algorithm ⟨.encrypt, .detached, sealing⟩
          [.buffer message, adValue, .buffer nonce, keyValue] = .ok parts ∧
        parts.get? "cipherText" = some body ∧ parts.get? "mac" = some mac ∧
        surface.callOperation config algorithm ⟨.decrypt, .detached, opening⟩
          [body, mac, adValue', .buffer nonce, keyValue'] = .ok (.buffer message) := by
  obtain ⟨cipher, hcipher⟩ := algorithm.exists_cipher hkey
  constructor
  · intro offered
    obtain ⟨context, called, -⟩ := exists_callPrecompute bound names ungated hcipher offered
    exact ⟨_, called⟩
  · intro sealing opening keyValue keyValue' hsealing hopening
    obtain ⟨input, isKey, hinput, offered⟩ :=
      hsealing.exists_isKey bound names ungated hcipher
    obtain ⟨input', isKey', hinput', offered'⟩ :=
      hopening.exists_isKey bound names ungated hcipher
    obtain ⟨⟨ciphertext, encrypted, decrypted⟩, body, mac, encryptedApart, decryptedApart⟩ :=
      Provider.dispatch_roundTrip hinput hinput' hnonce same message none none
    constructor
    · refine ⟨.buffer ciphertext, ?_, ?_⟩
      · rw [callOperation_of_denotes bound names ungated offered
          (.withoutMac rfl message nonce isAd isKey []), encrypted]
        rfl
      · rw [callOperation_of_denotes bound names ungated offered'
          (.withoutMac rfl ciphertext nonce isAd' isKey' []), decrypted]
        rfl
    · refine ⟨valueOf (some (.detached ⟨body, mac⟩)), .buffer body, .buffer mac, ?_, rfl, rfl, ?_⟩
      · rw [callOperation_of_denotes bound names ungated offered
          (.withoutMac rfl message nonce isAd isKey []), encryptedApart]
        rfl
      · rw [callOperation_of_denotes bound names ungated offered'
          (.withMac rfl body mac nonce isAd' isKey' []), decryptedApart]
        rfl

/-- Encryption under a key without associated data, and decryption under its context with empty
associated data, on a host without hardware support. -/
theorem call_decrypt_call_encrypt_of_mixed_keys :
    let config : Config :=
      { namePrefix := "x_", algorithms := ["ChaCha20Poly1305-IETF", " AES256GCM"] }
    let key : Bytes := List.replicate 32 0
    let nonce : Bytes := List.replicate 12 0
    ∃ surface handle sealed, ofConfig config false = .ok surface ∧ config.Names .aes256Gcm ∧
      config.isGated .aes256Gcm false = false ∧
      surface.call "x_aes256gcm_beforenm" [.buffer key] = .ok (.external handle) ∧
      surface.call "x_aes256gcm_encrypt" [.buffer [1, 2, 3], .null, .buffer nonce, .buffer key] =
        .ok sealed ∧
      surface.call "x_aes256gcm_decrypt_afternm"
        [sealed, .buffer [], .buffer nonce, .external handle] = .ok (.buffer [1, 2, 3]) := by
  intro config key nonce
  have selected : config.selected = .ok [.chacha20Poly1305Ietf, .aes256Gcm] := by decide +kernel
  have bound : ofConfig config false = .ok
      ((Surface.register {} .chacha20Poly1305Ietf config false).register .aes256Gcm config
        false) := by
    unfold ofConfig
    rw [selected]
    rfl
  have names : config.Names .aes256Gcm := (config.mem_selected_iff selected).1 (by decide)
  have beforenm : config.entryName .aes256Gcm "beforenm" = "x_aes256gcm_beforenm" := by
    decide +kernel
  have encrypt : config.entryName .aes256Gcm "encrypt" = "x_aes256gcm_encrypt" := by
    decide +kernel
  have decrypt : config.entryName .aes256Gcm "decrypt_afternm" = "x_aes256gcm_decrypt_afternm" := by
    decide +kernel
  have hkey : key.length = 32 := rfl
  have hnonce : nonce.length = Algorithm.aes256Gcm.descriptor.nonceLength := rfl
  obtain ⟨precomputed, roundTrip⟩ :=
    call_decrypt_call_encrypt bound names rfl hkey hnonce .null (.buffer []) rfl [1, 2, 3]
  obtain ⟨handle, called⟩ := precomputed rfl
  obtain ⟨⟨sealed, hsealed, hopened⟩, -⟩ := roundTrip _ _ _ _ .raw (.expanded rfl called)
  refine ⟨_, handle, sealed, bound, names, rfl, ?_, ?_, ?_⟩
  · rw [← beforenm]
    exact called
  · rw [← encrypt]
    exact hsealed
  · rw [← decrypt]
    exact hopened

end Surface

end Aead.Host
