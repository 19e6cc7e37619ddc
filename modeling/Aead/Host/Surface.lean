import Aead.Config
import Aead.Dispatch
import Aead.Host.Arguments
import Aead.Primitive.Standard

/-!
# The surface of a host

A surface offers functions and constants by name. A function is known by what it does: it tells
whether the hardware supports an algorithm, runs an operation, or expands a key. A gated function
answers no call that has enough arguments.
-/

namespace Aead.Host

/-- What a function of a surface does. -/
inductive Entry where
  | probe (available : Bool)
  | operation (algorithm : Algorithm) (operation : Operation) (gated : Bool)
  | precompute (algorithm : Algorithm) (gated : Bool)
  deriving DecidableEq

/-- Functions and constants by name. -/
structure Surface where
  functions : NameTable Entry := {}
  constants : NameTable Value := {}

/-! ## Calls -/

/-- Refuses a call that has fewer arguments than names, by the first missing name. -/
def requireArity (names : List String) (args : Arguments) : Except Error Unit :=
  match names[args.length]? with
  | some argument => .error (.typeMismatch argument)
  | none => .ok ()

/-- Refuses a call of a gated function. -/
def requireOpen (algorithm : Algorithm) (gated : Bool) : Except Error Unit :=
  if gated then .error (.unavailable algorithm.name) else .ok ()

/-- The tag among the arguments of detached decryption; no other operation has one. -/
def macArgument (op : Operation) (args : Arguments) : Except Error (Option Bytes) :=
  if op.takesMac then some <$> args.buffer 1 "mac" .any else .ok none

/-- The key or the context at a position. -/
def keyArgument (strategy : KeyStrategy) (args : Arguments) (index : Nat) : Except Error KeyInput :=
  match strategy with
  | .rawKey => .raw <$> args.buffer index strategy.argumentName .any
  | .precomputed => .context <$> args.external index strategy.argumentName Handle.context?

/-- The arguments of an operation, taken from the first to the last. -/
def requestOf (op : Operation) (args : Arguments) : Except Error Request := do
  let input ← args.buffer 0 op.direction.inputName .any
  let mac ← macArgument op args
  let rest := if op.takesMac then 2 else 1
  let associatedData ← args.optional rest "associated_data"
  let nonce ← args.buffer (rest + 1) "nonce" .any
  let key ← keyArgument op.key args (rest + 2)
  return { input, mac, associatedData, nonce, key }

/-- The value of an answer. A message that does not authenticate is undefined. -/
def valueOf : Option Output → Value
  | none => .undefined
  | some (.ciphertext bytes) => toValue bytes
  | some (.plaintext bytes) => toValue bytes
  | some (.detached parts) =>
    .ofFields [("cipherText", toValue parts.ciphertext), ("mac", toValue parts.mac)]

namespace Entry

variable {m : Type → Type} [Monad m]

/-- The answer of a function. -/
def call (provider : Provider m) (args : Arguments) : Entry → ExceptT Error m Value
  | probe available => return .bool available
  | operation algorithm op gated => do
    requireArity op.argumentNames args
    requireOpen algorithm gated
    let request ← requestOf op args
    valueOf <$> (provider algorithm).run op.direction op.mode request
  | precompute algorithm gated => do
    requireArity ["key"] args
    requireOpen algorithm gated
    let key ← args.buffer 0 "key" .any
    (fun context => .external (.context context)) <$> (provider algorithm).precompute key

end Entry

namespace Surface

/-- The answer of the function with the given name. -/
def callOn {m : Type → Type} [Monad m] (provider : Provider m) (surface : Surface) (name : String)
    (args : Arguments) : ExceptT Error m Value :=
  match surface.functions.find? name with
  | some entry => entry.call provider args
  | none => throw (.unknownExport name)

/-- The answer of the function with the given name, over the four algorithms themselves. -/
def call (surface : Surface) (name : String) (args : Arguments) : Except Error Value :=
  answer (surface.callOn Provider.standard name args)

/-- The number of functions. -/
def functionCount (surface : Surface) : Nat :=
  surface.functions.size

/-- The number of constants. -/
def constantCount (surface : Surface) : Nat :=
  surface.constants.size

/-- A function or a constant has the name. -/
def contains (surface : Surface) (name : String) : Bool :=
  (surface.functions.find? name).isSome || (surface.constants.find? name).isSome

/-- The diagnostic text. -/
def inspect (surface : Surface) : String :=
  "Exports \x7b functions: [" ++ ", ".intercalate (surface.functions.names.map Text.quoted) ++
    "], constants: " ++ (Value.object surface.constants.entries).inspect ++ " \x7d"

end Surface

end Aead.Host
