/-!
# Tokens of a document

A document is read character by character. Between two characters the reader is in one of a few
modes, such as inside a bare word or inside quoted text; each character either extends the token at
hand or ends it and begins the next one.
-/

namespace Aead.Toml

/-- A token of a document. -/
inductive Token where
  | newline
  /-- Spaces and tabs. -/
  | blank (text : List Char)
  | comment
  | equals
  | period
  | comma
  | colon
  | plus
  | leftBrace
  | rightBrace
  | leftBracket
  | rightBracket
  /-- Letters, digits, underscores and hyphens. -/
  | bare (text : List Char)
  /-- Quoted text; a block is delimited by three quotes. -/
  | quoted (text : List Char) (isBlock : Bool)
  deriving DecidableEq

namespace Token

/-- The characters of bare names and words. -/
def isBareChar (c : Char) : Bool :=
  c.isAlphanum || c = '_' || c = '-'

/-- The characters between the tokens of a line. -/
def isBlankChar (c : Char) : Bool :=
  c = ' ' || c = '\t'

/-- Control characters other than the tab stand in no comment. -/
def isCommentChar (c : Char) : Bool :=
  c = '\t' || ' ' ≤ c

/-- Control characters other than the tab, DEL among them, stand in no quoted text. -/
def isTextChar (c : Char) : Bool :=
  isCommentChar c && c ≠ '\x7f'

/-- The token that is one character. -/
def punctuation? : Char → Option Token
  | '\n' => some newline
  | '=' => some equals
  | '.' => some period
  | ',' => some comma
  | ':' => some colon
  | '+' => some plus
  | '{' => some leftBrace
  | '}' => some rightBrace
  | '[' => some leftBracket
  | ']' => some rightBracket
  | _ => none

/-- Where the reader stands. Text is kept with the last character first. -/
inductive Mode where
  | between
  | blank (text : List Char)
  | comment
  | bare (text : List Char)
  /-- After one opening quote. -/
  | opened (quote : Char)
  /-- After two quotes: an empty text, unless a third one follows. -/
  | openedTwice (quote : Char)
  | line (quote : Char) (text : List Char)
  /-- A line end directly after the opening quotes is not part of the text. -/
  | block (quote : Char) (text : List Char) (isFresh : Bool)
  /-- After `count` quotes inside a block, which ends with the third. -/
  | closing (quote : Char) (text : List Char) (count : Nat)
  /-- After a backslash. -/
  | escape (isBlock : Bool) (text : List Char)
  /-- Before the last `digits` digits of a code point. -/
  | code (isBlock : Bool) (text : List Char) (digits value : Nat)
  /-- After a backslash and blanks that end the line. -/
  | gap (text : List Char)
  /-- After a backslash and a line end, before the next visible character. -/
  | fold (text : List Char)
  deriving DecidableEq

/-- The mode inside text, in which another character is expected. -/
def inside (isBlock : Bool) (text : List Char) : Mode :=
  if isBlock then .block '"' text false else .line '"' text

/-- The character that a short escape stands for. -/
def shortEscape? : Char → Option Char
  | '"' => some '"'
  | '\\' => some '\\'
  | 'b' => some '\x08'
  | 'f' => some '\x0c'
  | 'n' => some '\n'
  | 'r' => some '\r'
  | 't' => some '\t'
  | _ => none

/-- The value of a hexadecimal digit. -/
def hexDigit? (c : Char) : Option Nat :=
  if c.isDigit then some (c.toNat - '0'.toNat)
  else if 'a' ≤ c && c ≤ 'f' then some (c.toNat - 'a'.toNat + 10)
  else if 'A' ≤ c && c ≤ 'F' then some (c.toNat - 'A'.toNat + 10)
  else none

/-- The character of a code point that is one. -/
def charOf? (value : Nat) : Option Char :=
  if value.isValidChar then some (Char.ofNat value) else none

/-- The tokens read so far, the last one first, and the mode. -/
abbrev State := List Token × Mode

/-- The state after the first character of a token. -/
def start (done : List Token) (c : Char) : Option State :=
  if isBlankChar c then some (done, .blank [c])
  else if isBareChar c then some (done, .bare [c])
  else if c = '#' then some (done, .comment)
  else if c = '"' || c = '\'' then some (done, .opened c)
  else (punctuation? c).map fun token => (token :: done, .between)

/-- The mode after a character of text in one line. -/
def lineStep (done : List Token) (quote : Char) (text : List Char) (c : Char) : Option State :=
  if c = quote then some (.quoted text.reverse false :: done, .between)
  else if c = '\\' && quote = '"' then some (done, .escape false text)
  else if isTextChar c then some (done, .line quote (c :: text))
  else none

/-- The mode after a character of a block. -/
def blockStep (done : List Token) (quote : Char) (text : List Char) (isFresh : Bool) (c : Char) :
    Option State :=
  if c = '\n' then some (done, .block quote (if isFresh then text else c :: text) false)
  else if c = quote then some (done, .closing quote text 1)
  else if c = '\\' && quote = '"' then some (done, .escape true text)
  else if isTextChar c then some (done, .block quote (c :: text) false)
  else none

/-- The state after one more character. -/
def step (state : State) (c : Char) : Option State :=
  let (done, mode) := state
  match mode with
  | .between => start done c
  | .blank text =>
    if isBlankChar c then some (done, .blank (c :: text)) else start (.blank text.reverse :: done) c
  | .comment => if isCommentChar c then some (done, .comment) else start (.comment :: done) c
  | .bare text =>
    if isBareChar c then some (done, .bare (c :: text)) else start (.bare text.reverse :: done) c
  | .opened quote =>
    if c = quote then some (done, .openedTwice quote) else lineStep done quote [] c
  | .openedTwice quote =>
    if c = quote then some (done, .block quote [] true) else start (.quoted [] false :: done) c
  | .line quote text => lineStep done quote text c
  | .block quote text isFresh => blockStep done quote text isFresh c
  | .closing quote text count =>
    if c = quote then
      -- Two quotes more than the three that close a block belong to its text.
      if count < 3 then some (done, .closing quote text (count + 1))
      else if count = 3 then some (done, .closing quote (quote :: text) 4)
      else some (.quoted (quote :: text).reverse true :: done, .between)
    else if count < 3 then blockStep done quote (List.replicate count quote ++ text) false c
    else start (.quoted text.reverse true :: done) c
  | .escape isBlock text =>
    match shortEscape? c with
    | some e => some (done, inside isBlock (e :: text))
    | none =>
      if c = 'u' then some (done, .code isBlock text 4 0)
      else if c = 'U' then some (done, .code isBlock text 8 0)
      else if isBlock && isBlankChar c then some (done, .gap text)
      else if isBlock && c = '\n' then some (done, .fold text)
      else none
  | .code isBlock text digits value => do
    let value := 16 * value + (← hexDigit? c)
    if 1 < digits then some (done, .code isBlock text (digits - 1) value)
    else some (done, inside isBlock ((← charOf? value) :: text))
  | .gap text =>
    if isBlankChar c then some (done, .gap text)
    else if c = '\n' then some (done, .fold text)
    else none
  | .fold text =>
    if isBlankChar c || c = '\n' then some (done, .fold text) else blockStep done '"' text false c

/-- The tokens, the last one first, when the document ends. -/
def finish (state : State) : Option (List Token) :=
  let (done, mode) := state
  match mode with
  | .between => some done
  | .blank text => some (.blank text.reverse :: done)
  | .comment => some (.comment :: done)
  | .bare text => some (.bare text.reverse :: done)
  | .openedTwice _ => some (.quoted [] false :: done)
  | .closing _ text count => if count < 3 then none else some (.quoted text.reverse true :: done)
  | _ => none

/-- Line ends of two characters become one. -/
def foldLineEnds : List Char → List Char
  | '\r' :: '\n' :: rest => '\n' :: foldLineEnds rest
  | c :: rest => c :: foldLineEnds rest
  | [] => []

/-- A byte order mark may stand before everything else. -/
def dropMark : List Char → List Char
  | '\uFEFF' :: rest => rest
  | chars => chars

/-- The tokens of a document. -/
def ofDocument? (chars : List Char) : Option (List Token) := do
  let state ← (foldLineEnds (dropMark chars)).foldlM step ([], .between)
  return (← finish state).reverse

end Token

end Aead.Toml
