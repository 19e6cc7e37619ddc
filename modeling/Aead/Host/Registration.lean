import Aead.Host.Surface

/-!
# Building a surface

An algorithm contributes its operations, its sizes as constants, and for AES-256-GCM the answer of
the hardware and the expansion of keys. A name that is defined again takes the later meaning, so the
order and the repetition of algorithms in the settings do not show.
-/

namespace Aead

namespace Config

open Host

/-- The algorithm has contexts and the settings offer them. -/
def offersPrecompute (config : Config) (algorithm : Algorithm) : Bool :=
  algorithm.descriptor.supportsPrecompute && config.exportPrecompute

/-- An algorithm that misses its hardware is closed unless the settings allow it in software. -/
def isGated (config : Config) (algorithm : Algorithm) (hardware : Bool) : Bool :=
  !algorithm.isAvailable hardware && !config.allowSoftwareAes

/-- The name of one of the algorithm's entries. -/
def entryName (config : Config) (algorithm : Algorithm) (suffix : String) : String :=
  config.exportName algorithm.name suffix

/-- The operations that the algorithm offers. -/
def operationsOf (config : Config) (algorithm : Algorithm) : List Operation :=
  Operation.all.filter fun op => op.key = .rawKey || config.offersPrecompute algorithm

/-- The functions that an algorithm contributes, by the ends of their names. -/
def entriesOf (config : Config) (algorithm : Algorithm) (hardware : Bool) : List (String × Entry) :=
  let gated := config.isGated algorithm hardware
  (if algorithm = .aes256Gcm then
    [("is_available", .probe (algorithm.isAvailable hardware))]
  else []) ++
  (config.operationsOf algorithm).map (fun op => (op.suffix, .operation algorithm op gated)) ++
  (if config.offersPrecompute algorithm then [("beforenm", .precompute algorithm gated)] else [])

/-- The sizes that an algorithm contributes, by the ends of their names. -/
def sizesOf (config : Config) (algorithm : Algorithm) : List (String × Nat) :=
  let sizes := algorithm.descriptor
  if config.exportConstants then
    [("KEYBYTES", sizes.keyLength), ("NPUBBYTES", sizes.nonceLength), ("ABYTES", sizes.tagLength),
      ("NSECBYTES", sizes.secretNonceLength)] ++
    (if sizes.supportsPrecompute then [("STATEBYTES", sizes.stateSize)] else [])
  else []

/-- The functions that an algorithm contributes. -/
def functionsOf (config : Config) (algorithm : Algorithm) (hardware : Bool) :
    List (String × Entry) :=
  (config.entriesOf algorithm hardware).map fun (suffix, entry) =>
    (config.entryName algorithm suffix, entry)

/-- The constants that an algorithm contributes. -/
def constantsOf (config : Config) (algorithm : Algorithm) : List (String × Value) :=
  (config.sizesOf algorithm).map fun (suffix, size) =>
    (config.entryName algorithm suffix, toValue size)

/-- The algorithms that the settings name, in order; the first unknown name is a failure. -/
def selected (config : Config) : Except Error (List Algorithm) :=
  config.algorithms.mapM fun name => (Algorithm.ofName name).mapError fun e => .config e.message

end Config

namespace Host.Surface

/-- The surface with the entries of one algorithm set. -/
def register (surface : Surface) (algorithm : Algorithm) (config : Config) (hardware : Bool) :
    Surface where
  functions := surface.functions.insertAll (config.functionsOf algorithm hardware)
  constants := surface.constants.insertAll (config.constantsOf algorithm)

/-- The surface of the settings on a host with or without hardware support. -/
def ofConfig (config : Config) (hardware : Bool) : Except Error Surface := do
  let algorithms ← config.selected
  return algorithms.foldl (fun surface a => surface.register a config hardware) {}

end Host.Surface

end Aead
