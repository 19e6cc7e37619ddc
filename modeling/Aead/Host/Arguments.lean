import Aead.Host.Value

/-!
# Argument lists

Arguments are taken by position. One that was not passed reads as undefined, so a missing buffer
fails as one of the wrong kind does.
-/

namespace Aead.Host

/-- The arguments of one call. -/
abbrev Arguments := List Value

namespace Arguments

/-- The argument at a position. -/
def value (args : Arguments) (index : Nat) : Value :=
  args.getD index .undefined

/-- The bytes of a buffer argument. -/
def buffer (args : Arguments) (index : Nat) (argument : String) (constraint : Constraint) :
    Except Error Bytes :=
  (args.value index).requireBuffer argument constraint

/-- The bytes of an argument that may be absent. -/
def optional (args : Arguments) (index : Nat) (argument : String) : Except Error AssociatedData :=
  (args.value index).optionalBuffer argument

/-- What a native handle holds, if it is of the kind that `select` takes. -/
def external {α : Type} (args : Arguments) (index : Nat) (argument : String)
    (select : Handle → Option α) : Except Error α :=
  match (args.value index).asHandle?.bind select with
  | some x => .ok x
  | none => .error (.typeMismatch argument)

end Arguments

namespace Handle

/-- The expanded key, if the handle holds one. -/
def context? : Handle → Option Context
  | context c => some c
  | _ => none

/-- The number, if the handle holds one. -/
def number? : Handle → Option UInt32
  | number n => some n
  | _ => none

/-- The text, if the handle holds one. -/
def text? : Handle → Option String
  | text s => some s
  | _ => none

end Handle

end Aead.Host
