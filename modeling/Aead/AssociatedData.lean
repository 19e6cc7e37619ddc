import Aead.Bytes

/-!
# Associated data

Bytes that are authenticated with a message and not part of it. A caller may give none; that is kept
apart from giving the empty byte string, although no cipher tells the two apart.
-/

namespace Aead

/-- Associated data as the caller gave it. -/
inductive AssociatedData where
  | absent
  | present (bytes : Bytes)
  deriving DecidableEq

namespace AssociatedData

/-- The bytes, if any were given. -/
def toOption : AssociatedData → Option Bytes
  | absent => none
  | present bytes => some bytes

/-- Absent if there are no bytes. -/
def ofOption : Option Bytes → AssociatedData
  | none => absent
  | some bytes => present bytes

@[simp] theorem ofOption_toOption (ad : AssociatedData) : ofOption ad.toOption = ad := by
  cases ad <;> rfl

@[simp] theorem toOption_ofOption (ad : Option Bytes) : (ofOption ad).toOption = ad := by
  cases ad <;> rfl

/-- The bytes to authenticate: none when the data are absent. -/
def bytes (ad : AssociatedData) : Bytes :=
  ad.toOption.getD []

/-- The number of bytes to authenticate. -/
def length (ad : AssociatedData) : Nat :=
  ad.bytes.length

/-- No bytes were given. -/
def isAbsent : AssociatedData → Bool
  | absent => true
  | present _ => false

/-- The diagnostic text, with the bytes as decimal numbers. -/
def inspect : AssociatedData → String
  | absent => "Absent"
  | present bytes => "Present([" ++ ", ".intercalate (bytes.map fun b => toString b.toNat) ++ "])"

end AssociatedData

end Aead
