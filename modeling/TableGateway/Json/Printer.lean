import TableGateway.Binary64.Shortest
import TableGateway.Json.Basic
import TableGateway.Number.Integer
import TableGateway.Text.Ascii

/-!
# Writing JSON

A value has a compact text, without spaces, and an indented text, with one item or member a line.
Characters outside ASCII stand for themselves in both.
-/

namespace TableGateway.Json

/-- The digits of a decimal in positional notation, with at least one digit on each side of the
point. -/
def positional (d : Binary64.Digits) : List Char :=
  if d.point ≤ 0 then
    '0' :: '.' :: (List.replicate (-d.point).toNat '0' ++ d.digits)
  else
    let whole := d.point.toNat
    let fraction := d.digits.drop whole
    d.digits.take whole ++ List.replicate (whole - d.digits.length) '0' ++
      '.' :: (if fraction.isEmpty then ['0'] else fraction)

/-- The digits of a decimal in scientific notation: one digit before the point, and an exponent with
a sign. -/
def scientific (d : Binary64.Digits) : List Char :=
  let exponent := d.point - 1
  let fraction := d.digits.drop 1
  d.digits.take 1 ++ (if fraction.isEmpty then [] else '.' :: fraction) ++
    'e' :: (if exponent < 0 then '-' else '+') :: Number.natDigits exponent.natAbs

/-- The text of a floating-point number: the shortest decimal that reads back, positional if its
first digit stands from five places after the point to sixteen before it. -/
def floatText (x : Binary64) : String :=
  if !x.isFinite then "null"
  else
    let sign := if x.isNegative then ['-'] else []
    if x.magnitudeBits = 0 then String.ofList (sign ++ ['0', '.', '0'])
    else
      let d := x.shortest
      String.ofList (sign ++ if -4 ≤ d.point ∧ d.point ≤ 16 then positional d else scientific d)

/-- The text of a number. -/
def Number.text : Number → String
  | .integer n => Number.intText n
  | .float x => floatText x

/-- A character inside a quoted string. Quotes, backslashes and control characters are escaped. -/
def escaped (c : Char) : List Char :=
  if c = '"' then ['\\', '"']
  else if c = '\\' then ['\\', '\\']
  else if c = '\x08' then ['\\', 'b']
  else if c = '\x0c' then ['\\', 'f']
  else if c = '\n' then ['\\', 'n']
  else if c = '\r' then ['\\', 'r']
  else if c = '\t' then ['\\', 't']
  else if c < ' ' then ['\\', 'u', '0', '0'] ++ Text.hexOctet (UInt8.ofNat c.toNat)
  else [c]

/-- A string between quotes. -/
def quoted (s : String) : String :=
  String.ofList ('"' :: (s.toList.flatMap escaped ++ ['"']))

mutual

/-- The text of a value without spaces. -/
def compact : Json → String
  | null => "null"
  | bool true => "true"
  | bool false => "false"
  | number n => n.text
  | string s => quoted s
  | array items => "[" ++ ",".intercalate (compactItems items) ++ "]"
  | object members => "\x7b" ++ ",".intercalate (compactMembers members) ++ "\x7d"

/-- The compact texts of the items of an array. -/
def compactItems : List Json → List String
  | [] => []
  | item :: rest => compact item :: compactItems rest

/-- The compact texts of the members of an object. -/
def compactMembers : List (String × Json) → List String
  | [] => []
  | (name, value) :: rest => (quoted name ++ ":" ++ compact value) :: compactMembers rest

end

/-- A line break and the indentation of a nesting depth, two spaces a level. -/
def newline (depth : Nat) : String :=
  String.ofList ('\n' :: List.replicate (2 * depth) ' ')

mutual

/-- The text of a value at a nesting depth, with one item or member a line. -/
def indentedAt (depth : Nat) : Json → String
  | array [] => "[]"
  | array (item :: rest) =>
    "[" ++ newline (depth + 1) ++ indentedAt (depth + 1) item ++ indentedItems (depth + 1) rest ++
      newline depth ++ "]"
  | object [] => "\x7b\x7d"
  | object ((name, value) :: rest) =>
    "\x7b" ++ newline (depth + 1) ++ quoted name ++ ": " ++ indentedAt (depth + 1) value ++
      indentedMembers (depth + 1) rest ++ newline depth ++ "\x7d"
  | null => "null"
  | bool true => "true"
  | bool false => "false"
  | number n => n.text
  | string s => quoted s

/-- The texts of the items after the first, each after a comma. -/
def indentedItems (depth : Nat) : List Json → String
  | [] => ""
  | item :: rest => "," ++ newline depth ++ indentedAt depth item ++ indentedItems depth rest

/-- The texts of the members after the first, each after a comma. -/
def indentedMembers (depth : Nat) : List (String × Json) → String
  | [] => ""
  | (name, value) :: rest =>
    "," ++ newline depth ++ quoted name ++ ": " ++ indentedAt depth value ++
      indentedMembers depth rest

end

/-- The text of a value with one item or member a line. -/
def indented (value : Json) : String :=
  indentedAt 0 value

end TableGateway.Json
