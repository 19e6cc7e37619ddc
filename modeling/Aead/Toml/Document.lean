import Aead.Toml.Header
import Aead.Toml.Numeral
import Aead.Toml.Value

/-!
# Documents

A document is a list of lines: names with values, and headers, each of which begins a section. The
names before the first header belong to the document itself.
-/

namespace Aead.Toml

/-- The names of a document and its sections. -/
structure Document where
  root : Table := []
  sections : List (Header × Table) := []

namespace Document

/-! ## Words and line ends -/

/-- The tokens from the first on that is no blank. -/
def skipBlank : List Token → List Token
  | .blank _ :: rest => skipBlank rest
  | tokens => tokens

/-- The tokens from the first on that is no blank, comment or line end. -/
def skipLines : List Token → List Token
  | .blank _ :: rest => skipLines rest
  | .comment :: rest => skipLines rest
  | .newline :: rest => skipLines rest
  | tokens => tokens

/-- The tokens of the next line, if no more than a comment is left on this one. -/
def endLine? (tokens : List Token) : Option (List Token) :=
  let tokens := match skipBlank tokens with
    | .comment :: rest => rest
    | tokens => tokens
  match tokens with
  | [] => some []
  | .newline :: rest => some rest
  | _ => none

/-- A name: a bare word or quoted text in one line. -/
def name? : List Token → Option (String × List Token)
  | .bare text :: rest => some (String.ofList text, rest)
  | .quoted text false :: rest => some (String.ofList text, rest)
  | _ => none

/-- The names of a path after its first one, each after a period. -/
def pathRest? : (tokens : List Token) → (fuel : Nat) → Option (List String × List Token)
  | tokens, 0 => some ([], tokens)
  | tokens, fuel + 1 =>
    match skipBlank tokens with
    | .period :: rest => do
      let (name, rest) ← name? (skipBlank rest)
      let (names, rest) ← pathRest? rest fuel
      return (name :: names, rest)
    | tokens => some ([], tokens)

/-- Names with periods between them, up to the next token that is no blank. -/
def path? (tokens : List Token) : Option (List String × List Token) := do
  let (name, rest) ← name? tokens
  let (names, rest) ← pathRest? rest rest.length
  return (name :: names, skipBlank rest)

/-! ## Values -/

/-- A value that is one word, or that a word begins. -/
def word? (word : List Char) (tokens : List Token) : Option (Value × List Token) :=
  if word = "true".toList then some (.bool true, tokens)
  else if word = "false".toList then some (.bool false, tokens)
  else
    let isNumeral := match word with
      | c :: _ => c = '-' || c.isDigit
      | [] => false
    if isNumeral || word = "inf".toList || word = "nan".toList then
      (Numeral.numberOrDate? word tokens).map (.scalar, ·)
    else none

mutual

/-- The value at the front; `fuel` bounds the calls that are needed. -/
def valueWith? : (fuel : Nat) → List Token → Option (Value × List Token)
  | 0, _ => none
  | fuel + 1, tokens =>
    match tokens with
    | .quoted text _ :: rest => some (.text (String.ofList text), rest)
    | .bare word :: rest => word? word rest
    | .plus :: .bare word :: rest => (Numeral.number? word rest).map (.scalar, ·)
    | .leftBracket :: rest => itemsWith? fuel [] rest
    | .leftBrace :: rest =>
      match skipBlank rest with
      | .rightBrace :: rest => some (.table false [], rest)
      | rest => entriesWith? fuel [] rest
    | _ => none

/-- The items of an array after the given ones, and its end. -/
def itemsWith? : (fuel : Nat) → List Value → List Token → Option (Value × List Token)
  | 0, _, _ => none
  | fuel + 1, items, tokens =>
    match skipLines tokens with
    | .rightBracket :: rest => some (.array items, rest)
    | tokens => do
      let (item, rest) ← valueWith? fuel tokens
      let items := items ++ [item]
      match skipLines rest with
      | .comma :: rest => itemsWith? fuel items rest
      | .rightBracket :: rest => some (.array items, rest)
      | _ => none

/-- The entries of a table in braces after the given ones, and its end. -/
def entriesWith? : (fuel : Nat) → Table → List Token → Option (Value × List Token)
  | 0, _, _ => none
  | fuel + 1, entries, tokens => do
    let (path, rest) ← path? (skipBlank tokens)
    match rest with
    | .equals :: rest =>
      let (value, rest) ← valueWith? fuel (skipBlank rest)
      let entries ← entries.add? path value
      match skipBlank rest with
      | .rightBrace :: rest => some (.table false entries, rest)
      | .comma :: rest => entriesWith? fuel entries rest
      | _ => none
    | _ => none

end

/-- The value at the front. Every second call at least takes a token away. -/
def value? (tokens : List Token) : Option (Value × List Token) :=
  valueWith? (2 * tokens.length + 1) tokens

/-! ## Lines -/

/-- A header after its first bracket. -/
def header? (tokens : List Token) : Option (Header × List Token) := do
  let (isArray, rest) := match tokens with
    | .leftBracket :: rest => (true, rest)
    | tokens => (false, tokens)
  let (path, rest) ← path? (skipBlank rest)
  match isArray, rest with
  | false, .rightBracket :: rest => return (⟨path, false⟩, ← endLine? rest)
  | true, .rightBracket :: .rightBracket :: rest => return (⟨path, true⟩, ← endLine? rest)
  | _, _ => none

/-- A name with its value. -/
def entry? (tokens : List Token) : Option ((List String × Value) × List Token) := do
  let (path, rest) ← path? tokens
  match rest with
  | .equals :: rest =>
    let (value, rest) ← value? (skipBlank rest)
    return ((path, value), ← endLine? rest)
  | _ => none

/-- The document with an entry added to its last section. -/
def addEntry? (document : Document) (path : List String) (value : Value) : Option Document :=
  match document.sections with
  | [] => (document.root.add? path value).map fun root => { document with root }
  | (header, table) :: earlier =>
    (table.add? path value).map fun table =>
      { document with sections := (header, table) :: earlier }

/-- The lines after those of `document`, whose sections stand with the last one first; every line
takes a token away. -/
def linesFrom? : (fuel : Nat) → Document → List Token → Option Document
  | 0, _, _ => none
  | fuel + 1, document, tokens =>
    match skipLines tokens with
    | [] => some { document with sections := document.sections.reverse }
    | .leftBracket :: rest => do
      let (header, rest) ← header? rest
      linesFrom? fuel { document with sections := (header, []) :: document.sections } rest
    | tokens => do
      let ((path, value), rest) ← entry? tokens
      linesFrom? fuel (← document.addEntry? path value) rest

/-- The document of the given tokens. -/
def ofTokens? (tokens : List Token) : Option Document :=
  linesFrom? (tokens.length + 1) {} tokens

/-- The document of a text, if the headers of its sections agree. -/
def ofText? (text : String) : Option Document := do
  let document ← ofTokens? (← Token.ofDocument? text.toList)
  if Header.agree (document.sections.map Prod.fst) then some document else none

end Document

end Aead.Toml
