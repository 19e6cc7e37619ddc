import Aead.Bytes
import Aead.Error

/-!
# Lengths of arguments

Every byte string from a caller passes a length check before a cipher sees it.
-/

namespace Aead

/-- The lengths that an argument may have. -/
inductive Constraint where
  | any
  | exact (length : Nat)
  | atLeast (length : Nat)
  deriving DecidableEq

namespace Constraint

/-- The bytes, if their number fits the constraint. -/
def check (constraint : Constraint) (argument : String) (bytes : Bytes) : Except Error Bytes :=
  match constraint with
  | any => .ok bytes
  | exact n =>
    if bytes.length = n then .ok bytes else .error (.lengthMismatch argument (.exactly n))
  | atLeast n =>
    if n ≤ bytes.length then .ok bytes else .error (.lengthMismatch argument (.atLeast n))

end Constraint

end Aead
