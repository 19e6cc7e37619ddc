import Aead.Text.Quoted

/-!
# Failures

A message that does not authenticate is no failure: operations answer it without a value. A failure
is a mistake of the caller or a broken cipher.
-/

namespace Aead

/-- The length that a rejected argument should have had. -/
inductive Expected where
  | exactly (length : Nat)
  | atLeast (length : Nat)
  deriving DecidableEq, Repr

/-- The result code of a primitive; zero is success. -/
abbrev Status := Int32

/-- Why a call failed. -/
inductive Error where
  | typeMismatch (argument : String)
  | lengthMismatch (argument : String) (expected : Expected)
  | unsupportedAlgorithm (algorithm : String)
  | algorithmMismatch (expected found : String)
  | unavailable (algorithm : String)
  | primitive (operation : String) (status : Status)
  | outputLength (expected written : Nat)
  | unknownAlgorithm (name : String)
  | unknownExport (name : String)
  | config (message : String)
  deriving DecidableEq

namespace Expected

/-- The text for the caller. -/
def message : Expected → String
  | exactly n => toString n ++ " bytes long"
  | atLeast n => "at least " ++ toString n ++ " bytes long"

/-- The diagnostic text. -/
def inspect : Expected → String
  | exactly n => "Exactly(" ++ toString n ++ ")"
  | atLeast n => "AtLeast(" ++ toString n ++ ")"

end Expected

namespace Error

/-- The text for the caller. -/
def message : Error → String
  | typeMismatch argument => "argument " ++ argument ++ " must be a buffer"
  | lengthMismatch argument expected => "argument " ++ argument ++ " must be " ++ expected.message
  | unsupportedAlgorithm algorithm => algorithm ++ " does not support precomputation"
  | algorithmMismatch expected found =>
    "context was expanded for " ++ found ++ ", not " ++ expected
  | unavailable algorithm => algorithm ++ " is not hardware accelerated on this host"
  | primitive operation status => operation ++ " failed with status " ++ toString status
  | outputLength expected written =>
    "primitive wrote " ++ toString written ++ " bytes, expected " ++ toString expected
  | unknownAlgorithm name => "unknown algorithm `" ++ name ++ "`"
  | unknownExport name => "no export named `" ++ name ++ "`"
  | config message => "invalid configuration: " ++ message

/-- The kind of failure, by name. -/
def kind : Error → String
  | typeMismatch .. => "TypeMismatch"
  | lengthMismatch .. => "LengthMismatch"
  | unsupportedAlgorithm .. => "UnsupportedAlgorithm"
  | algorithmMismatch .. => "AlgorithmMismatch"
  | unavailable .. => "Unavailable"
  | primitive .. => "Primitive"
  | outputLength .. => "OutputLength"
  | unknownAlgorithm .. => "UnknownAlgorithm"
  | unknownExport .. => "UnknownExport"
  | config .. => "Config"

/-- A field list in braces. -/
def braced (fields : List (String × String)) : String :=
  " \x7b " ++ ", ".intercalate (fields.map fun (name, text) => name ++ ": " ++ text) ++ " \x7d"

/-- The part of the diagnostic text after the kind. -/
def details : Error → String
  | typeMismatch argument => braced [("argument", Text.quoted argument)]
  | lengthMismatch argument expected =>
    braced [("argument", Text.quoted argument), ("expected", expected.inspect)]
  | unsupportedAlgorithm algorithm => braced [("algorithm", Text.quoted algorithm)]
  | algorithmMismatch expected found =>
    braced [("expected", Text.quoted expected), ("found", Text.quoted found)]
  | unavailable algorithm => braced [("algorithm", Text.quoted algorithm)]
  | primitive operation status =>
    braced [("operation", Text.quoted operation), ("status", toString status)]
  | outputLength expected written =>
    braced [("expected", toString expected), ("written", toString written)]
  | unknownAlgorithm name => "(" ++ Text.quoted name ++ ")"
  | unknownExport name => "(" ++ Text.quoted name ++ ")"
  | config message => "(" ++ Text.quoted message ++ ")"

/-- The diagnostic text: the kind and the fields. -/
def inspect (e : Error) : String :=
  e.kind ++ e.details

end Error

end Aead
