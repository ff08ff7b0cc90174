import TableGateway.Number.Integer
import TableGateway.Text.Ascii

/-!
# JSON as it is written

A JSON text is one value with white space around its tokens. It is read in two steps. The first one,
here, finds the values and keeps numbers and strings as they are written, without asking what they stand
for: a number may be too great, and an escape may be half of a character. Who needs a value takes the
second step, so that a value that nobody needs may stand for nothing.
-/

namespace TableGateway.Json

/-- A character of a string as it is written: the character itself, or the number of a sixteen-bit unit
of it. -/
inductive Letter where
  | char (c : Char)
  | unit (value : Nat)
  deriving DecidableEq

/-- A number as it is written: its digits before and after the point, and its exponent. -/
structure Numeral where
  negative : Bool
  whole : List Char
  fraction : Option (List Char)
  exponent : Option Int
  deriving DecidableEq

/-- A value as it is written. The members of an object are in the order of the text. -/
inductive Written where
  | null
  | bool (value : Bool)
  | number (value : Numeral)
  | string (letters : List Letter)
  | array (items : List Written)
  | object (members : List (List Letter × Written))

namespace Written

/-! ### Numbers -/

/-- The exponent of a number, if one follows, and the rest. -/
def exponent? : List Char → Option (Option Int × List Char)
  | 'e' :: rest | 'E' :: rest =>
    let (negative, rest) :=
      match rest with
      | '-' :: tail => (true, tail)
      | '+' :: tail => (false, tail)
      | _ => (false, rest)
    (Number.natOfDigits? (rest.takeWhile Char.isDigit)).map fun n =>
      (some (if negative then -n else n), rest.dropWhile Char.isDigit)
  | rest => some (none, rest)

/-- The digits after the point of a number, if a point follows, and the rest. -/
def fraction? : List Char → Option (Option (List Char) × List Char)
  | '.' :: rest =>
    let digits := rest.takeWhile Char.isDigit
    if digits.isEmpty then none else some (some digits, rest.dropWhile Char.isDigit)
  | rest => some (none, rest)

/-- A number, and the rest. Its digits before the point have no leading zero. -/
def numeral? (text : List Char) : Option (Numeral × List Char) := do
  let (negative, text) :=
    match text with
    | '-' :: rest => (true, rest)
    | _ => (false, text)
  let whole :=
    match text with
    | '0' :: _ => ['0']
    | _ => text.takeWhile Char.isDigit
  guard (!whole.isEmpty)
  let (fraction, text) ← fraction? (text.drop whole.length)
  let (exponent, text) ← exponent? text
  guard (!text.head?.any Char.isDigit)
  return (⟨negative, whole, fraction, exponent⟩, text)

/-! ### Strings -/

/-- The character of an escape of one letter. -/
def escaped? : Char → Option Char
  | '"' => some '"'
  | '\\' => some '\\'
  | '/' => some '/'
  | 'b' => some '\x08'
  | 'f' => some '\x0c'
  | 'n' => some '\n'
  | 'r' => some '\r'
  | 't' => some '\t'
  | _ => none

/-- The letters up to the closing quote, in reverse after `read`, and the rest. -/
def letters? (read : List Letter) : List Char → Option (List Letter × List Char)
  | [] => none
  | '"' :: rest => some (read.reverse, rest)
  | '\\' :: 'u' :: a :: b :: c :: d :: rest =>
    match Text.natOfHex? [a, b, c, d] with
    | some value => letters? (.unit value :: read) rest
    | none => none
  | '\\' :: c :: rest =>
    match escaped? c with
    | some c => letters? (.char c :: read) rest
    | none => none
  | c :: rest => if c < ' ' ∨ c = '\\' then none else letters? (.char c :: read) rest

/-! ### Values -/

/-- The white space between tokens. -/
def isSpace (c : Char) : Bool :=
  c == ' ' || c == '\t' || c == '\n' || c == '\r'

/-- The text after its leading white space. -/
def skipSpaces (text : List Char) : List Char :=
  text.dropWhile isSpace

/-- The value of a word at the start of a text, and the rest. -/
def word? (text : List Char) : Option (Written × List Char) :=
  [("null", null), ("true", bool true), ("false", bool false)].findSome? fun (word, value) =>
    if word.toList.isPrefixOf text then some (value, text.drop word.length) else none

mutual

/-- A value after white space, and the rest. -/
def value? : Nat → List Char → Option (Written × List Char)
  | 0, _ => none
  | fuel + 1, text =>
    match skipSpaces text with
    | '"' :: rest => (letters? [] rest).map fun (letters, rest) => (string letters, rest)
    | '[' :: rest =>
      match skipSpaces rest with
      | ']' :: rest => some (array [], rest)
      | _ => (items? [] fuel rest).map fun (items, rest) => (array items, rest)
    | '\x7b' :: rest =>
      match skipSpaces rest with
      | '\x7d' :: rest => some (object [], rest)
      | _ => (members? [] fuel rest).map fun (members, rest) => (object members, rest)
    | text => (word? text).or ((numeral? text).map fun (n, rest) => (number n, rest))

/-- The items of an array up to its end, in reverse after `read`, and the rest. -/
def items? (read : List Written) : Nat → List Char → Option (List Written × List Char)
  | 0, _ => none
  | fuel + 1, text => do
    let (item, rest) ← value? fuel text
    match skipSpaces rest with
    | ',' :: rest => items? (item :: read) fuel rest
    | ']' :: rest => some ((item :: read).reverse, rest)
    | _ => none

/-- The members of an object up to its end, in reverse after `read`, and the rest. -/
def members? (read : List (List Letter × Written)) :
    Nat → List Char → Option (List (List Letter × Written) × List Char)
  | 0, _ => none
  | fuel + 1, text => do
    let '"' :: rest := skipSpaces text | none
    let (name, rest) ← letters? [] rest
    let ':' :: rest := skipSpaces rest | none
    let (value, rest) ← value? fuel rest
    match skipSpaces rest with
    | ',' :: rest => members? ((name, value) :: read) fuel rest
    | '\x7d' :: rest => some (((name, value) :: read).reverse, rest)
    | _ => none

end

/-- The value that a text writes. At most two nested steps are taken for each character, which bounds
their number. -/
def ofText? (text : List Char) : Option Written := do
  let (value, rest) ← value? (2 * text.length + 2) text
  guard (skipSpaces rest).isEmpty
  return value

end Written

end TableGateway.Json
