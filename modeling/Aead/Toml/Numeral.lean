import Aead.Toml.Token

/-!
# Numerals

A numeral is a whole number of at most 64 bits, in one of four bases, or a decimal fraction within
the range of 64-bit floating point. An underscore may stand between two digits. Settings hold no
numbers, so numerals are checked and their values are not kept.
-/

namespace Aead.Toml.Numeral

/-- The value of a digit of the given base. -/
def digit? (base : Nat) (c : Char) : Option Nat :=
  (Token.hexDigit? c).filter (· < base)

/-- A whole number at the front of a text, and what follows it. -/
structure Whole where
  isNegative : Bool
  digits : List Nat
  rest : List Char

/-- The digits of a whole number, the last one first, with underscores between digits. -/
def digits? (base : Nat) (leadingZeros : Bool) :
    (chars : List Char) → (seen : List Nat) → (afterUnderscore : Bool) →
      Option (List Nat × List Char)
  | [], seen, afterUnderscore => if seen = [] || afterUnderscore then none else some (seen, [])
  | c :: rest, seen, afterUnderscore =>
    match digit? base c with
    | some d =>
      if !leadingZeros && seen.getLast? = some 0 then none
      else digits? base leadingZeros rest (d :: seen) false
    | none =>
      if c = '_' && seen ≠ [] && !afterUnderscore then digits? base leadingZeros rest seen true
      else if seen = [] || afterUnderscore then none
      else some (seen, c :: rest)

/-- The whole number at the front of a text. -/
def whole? (base : Nat) (sign leadingZeros : Bool) (chars : List Char) : Option Whole := do
  let isNegative := sign && chars.head? = some '-'
  let unsigned := if isNegative then chars.drop 1 else chars
  let (digits, rest) ← digits? base leadingZeros unsigned [] false
  return ⟨isNegative, digits.reverse, rest⟩

/-- The value of digits, the first one the most significant. -/
def value (base : Nat) (digits : List Nat) : Nat :=
  digits.foldl (fun n d => base * n + d) 0

/-- The text is one whole number of 64 bits. -/
def isInteger (base : Nat) (chars : List Char) : Bool :=
  match whole? base (base = 10) (base ≠ 10) chars with
  | some n => n.rest = [] && value base n.digits < Nat.pow 2 63 + (if n.isNegative then 1 else 0)
  | none => false

/-- The decimal `digits * 10 ^ exponent` rounds to a finite number of 64 bits. -/
def isFinite (digits : Nat) (exponent : Int) : Bool :=
  let size : Int := (Nat.toDigits 10 digits).length + exponent
  let bound := Nat.pow 2 1024 - Nat.pow 2 970
  if digits = 0 || size < 300 then true
  else if 400 < size then false
  else digits * Nat.pow 10 exponent.toNat < bound * Nat.pow 10 (-exponent).toNat

/-- The letter before an exponent. -/
def isExponentMark (c : Char) : Bool :=
  c = 'e' || c = 'E'

/-- The number of the given digits before and after the point and exponent is finite. -/
def isFiniteDecimal (integral fraction : List Nat) (exponent : Option Whole) : Bool :=
  let e : Int := match exponent with
    | some x => if x.isNegative then -(value 10 x.digits : Int) else value 10 x.digits
    | none => 0
  isFinite (value 10 (integral ++ fraction)) (e - fraction.length)

/-- A fraction of which the text before its point, and the text after it, have been read; answers
the tokens that follow. An exponent may be written apart, after a plus sign. -/
def fraction? (before : List Char) (after : Option (List Char)) (tokens : List Token) :
    Option (List Token) := do
  let integral ← whole? 10 true false before
  let (fraction, rest) ← match after with
    | none => some ([], integral.rest)
    | some after => do
      let part ← whole? 10 false true after
      if integral.rest = [] then some (part.digits, part.rest) else none
  let accept (exponent : Option Whole) (tokens : List Token) : Option (List Token) :=
    if isFiniteDecimal integral.digits fraction exponent then some tokens else none
  let acceptExponent (exponent : Whole) (tokens : List Token) : Option (List Token) :=
    if exponent.rest = [] then accept (some exponent) tokens else none
  match rest with
  | [] => accept none tokens
  | c :: rest =>
    if isExponentMark c then
      match rest, tokens with
      | [], .plus :: .bare text :: tokens => do acceptExponent (← whole? 10 false true text) tokens
      | [], .bare text :: tokens => do acceptExponent (← whole? 10 false true text) tokens
      | [], _ => none
      | rest, tokens => do acceptExponent (← whole? 10 true true rest) tokens
    else none

/-- The texts of the numbers that have no digits. -/
def specials : List String :=
  ["inf", "-inf", "nan", "-nan"]

/-- A number whose first word has been read; answers the tokens that follow. -/
def number? (word : List Char) (tokens : List Token) : Option (List Token) :=
  let integer (base : Nat) (digits : List Char) : Option (List Token) :=
    if isInteger base digits then some tokens else none
  match word with
  | '0' :: 'x' :: digits => integer 16 digits
  | '0' :: 'o' :: digits => integer 8 digits
  | '0' :: 'b' :: digits => integer 2 digits
  | word =>
    if word.any isExponentMark then fraction? word none tokens
    else
      match tokens with
      | .period :: .bare after :: tokens => fraction? word (some after) tokens
      | .period :: _ => none
      | tokens => if String.ofList word ∈ specials then some tokens else integer 10 word

/-- Drops a token after which a word has to stand, and that word. -/
def dropPart (mark : Token) : List Token → Option (List Token)
  | token :: rest =>
    if token = mark then
      match rest with
      | .bare _ :: rest => some rest
      | _ => none
    else some (token :: rest)
  | [] => some []

/-- A date or a time whose first word has been read, with the colon after the hour in `afterColon`;
answers the tokens that follow. Only the shape of a time is checked. -/
def dateTime? (afterColon : Bool) (tokens : List Token) : Option (List Token) :=
  let tokens := match tokens with
    | .blank [' '] :: .bare _ :: rest => rest
    | tokens => tokens
  let time (tokens : List Token) : Option (List Token) :=
    match tokens with
    | .bare _ :: .colon :: .bare _ :: rest => do
      dropPart .colon (← dropPart .plus (← dropPart .period rest))
    | _ => none
  if afterColon then time tokens
  else
    match tokens with
    | .colon :: rest => time rest
    | tokens => some tokens

/-- The word begins a date: it has the letter that separates date and time, or a hyphen after its
first character that is not the sign of an exponent. -/
def beginsDate (word : List Char) : Bool :=
  let hasPair (e : Char) := (word.zip (word.drop 1)).contains (e, '-')
  word.contains 'T' || word.contains 't' ||
    ((word.drop 1).contains '-' && !hasPair 'e' && !hasPair 'E')

/-- A number or a date whose first word has been read; answers the tokens that follow. -/
def numberOrDate? (word : List Char) (tokens : List Token) : Option (List Token) :=
  if beginsDate word then dateTime? false tokens
  else
    match tokens with
    | .colon :: rest => dateTime? true rest
    | tokens => number? word tokens

end Aead.Toml.Numeral
