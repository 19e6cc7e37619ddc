import Aead.AssociatedData
import Aead.Constraint
import Aead.Context
import Aead.Host.Number
import Aead.NameTable

/-!
# Values of a host

A host passes loosely typed arguments and gets loosely typed answers. Buffers are the values that
carry bytes. The diagnostic text of a value shows of a buffer its length alone, and of a native
handle nothing.
-/

namespace Aead.Host

/-- What a native handle holds. -/
inductive Handle where
  | context (context : Context)
  | number (n : UInt32)
  | text (s : String)
  deriving DecidableEq

/-- A value of a host. -/
inductive Value where
  | undefined
  | null
  | bool (b : Bool)
  | number (x : Number)
  | string (s : String)
  | buffer (bytes : Bytes)
  /-- Fields by name, the names ascending. -/
  | object (fields : List (String × Value))
  | external (handle : Handle)

namespace Value

/-- The object with the given fields; of equal names the last one counts. -/
def ofFields (fields : List (String × Value)) : Value :=
  object (NameTable.ofEntries fields).entries

/-- Undefined and null stand for what was not given. -/
def isAbsent : Value → Bool
  | undefined | null => true
  | _ => false

/-- The bytes of a buffer. -/
def asBytes? : Value → Option Bytes
  | buffer bytes => some bytes
  | _ => none

/-- The truth value of a boolean. -/
def asBool? : Value → Option Bool
  | bool b => some b
  | _ => none

/-- The number of a number value. -/
def asNumber? : Value → Option Number
  | number x => some x
  | _ => none

/-- The handle of a native value. -/
def asHandle? : Value → Option Handle
  | external handle => some handle
  | _ => none

/-- The field of an object. -/
def get? (key : String) : Value → Option Value
  | object fields => fields.lookup key
  | _ => none

/-- The name of the kind of value. -/
def typeName : Value → String
  | undefined => "undefined"
  | null => "null"
  | bool _ => "boolean"
  | number _ => "number"
  | string _ => "string"
  | buffer _ => "buffer"
  | object _ => "object"
  | external _ => "external"

/-! ## Diagnostic text -/

mutual

/-- The diagnostic text in one line. -/
def inspect : Value → String
  | undefined => "Undefined"
  | null => "Null"
  | bool b => "Bool(" ++ toString b ++ ")"
  | number x => "Number(" ++ x.text ++ ")"
  | string s => "String(" ++ Text.quoted s ++ ")"
  | buffer bytes => "Buffer(<" ++ toString bytes.length ++ " bytes>)"
  | object fields => "\x7b" ++ ", ".intercalate (inspectFields fields) ++ "\x7d"
  | external _ => "External(..)"

/-- The diagnostic texts of fields. -/
def inspectFields : List (String × Value) → List String
  | [] => []
  | (name, value) :: rest => (Text.quoted name ++ ": " ++ value.inspect) :: inspectFields rest

end

/-- A new line with the given depth of indentation. -/
def newLine (depth : Nat) : String :=
  String.ofList ('\n' :: List.replicate (4 * depth) ' ')

mutual

/-- The diagnostic text with every field on a line of its own. -/
def inspectIndented (depth : Nat) : Value → String
  | object [] => "\x7b\x7d"
  | object fields => "\x7b" ++ inspectIndentedFields (depth + 1) fields ++ newLine depth ++ "\x7d"
  | value => value.inspect

/-- The lines of fields. -/
def inspectIndentedFields (depth : Nat) : List (String × Value) → String
  | [] => ""
  | (name, value) :: rest =>
    newLine depth ++ Text.quoted name ++ ": " ++ value.inspectIndented depth ++ "," ++
      inspectIndentedFields depth rest

end

/-! ## Narrowing -/

/-- The bytes of a buffer whose length fits. -/
def requireBuffer (value : Value) (argument : String) (constraint : Constraint) :
    Except Error Bytes :=
  match value with
  | buffer bytes => constraint.check argument bytes
  | _ => .error (.typeMismatch argument)

/-- The bytes of a buffer, or none for an absent value. -/
def optionalBuffer (value : Value) (argument : String) : Except Error AssociatedData :=
  if value.isAbsent then .ok .absent
  else .present <$> value.requireBuffer argument .any

end Value

/-! ## Values of other types -/

/-- The types whose elements are passed to a host as values. -/
class ToValue (α : Type) where
  toValue : α → Value

export ToValue (toValue)

instance : ToValue Bytes := ⟨.buffer⟩

instance : ToValue Bool := ⟨.bool⟩

/-- Sizes are passed as the nearest number. -/
instance : ToValue Nat := ⟨fun n => .number (.ofNat n)⟩

/-- A missing element is passed as null. -/
instance {α : Type} [ToValue α] : ToValue (Option α) :=
  ⟨fun x => x.elim .null toValue⟩

end Aead.Host
