/-!
# What a surface offers

The settings of a surface: how its names begin, which groups of entries it has, whether AES-256-GCM
may run without hardware support, and the algorithms, by name and unchecked.
-/

namespace Aead

/-- The settings of a surface. -/
structure Config where
  namePrefix : String := "crypto_aead_"
  exportPrecompute : Bool := true
  exportConstants : Bool := true
  allowSoftwareAes : Bool := true
  algorithms : List String :=
    ["aes256gcm", "chacha20poly1305", "chacha20poly1305_ietf", "xchacha20poly1305_ietf"]
  deriving DecidableEq

namespace Config

/-- The name under which an entry of an algorithm is offered. -/
def exportName (config : Config) (algorithm suffix : String) : String :=
  config.namePrefix ++ algorithm ++ "_" ++ suffix

end Config

end Aead
