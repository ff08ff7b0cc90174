import TableGateway.Number.Integer
import TableGateway.Text.Percent
import TableGateway.Yaml.Scalar

/-!
# Tags and directives of YAML texts

A tag gives a node a type. It is written in full between angle brackets, or as a handle and a suffix; a
directive before a document says what the handle stands for. A tag is a sequence of octets, which need not
write any characters.
-/

namespace TableGateway.Yaml

/-- A tag as it is written. Without a handle the suffix is all of it. -/
structure Tag where
  handle : String
  suffix : List UInt8
  deriving DecidableEq

/-- A directive: the version of the language, or the expansion of a handle. -/
inductive Directive where
  | version (major minor : Nat)
  | handle (name : String) (expansion : List UInt8)
  deriving DecidableEq

/-- The characters of a tag. Commas and square brackets are among them between angle brackets and in
directives. -/
def isTagChar (verbatim : Bool) (c : Char) : Bool :=
  isNameChar c || ";/?:@&=+$.!~*'()%".toList.contains c || (verbatim && ",[]".toList.contains c)

/-- Whether every percent sign is followed by two hexadecimal digits. -/
def isPercentEncoded : List Char → Bool
  | '%' :: a :: b :: rest =>
    (Text.hexValue? a).isSome && (Text.hexValue? b).isSome && isPercentEncoded rest
  | c :: rest => c != '%' && isPercentEncoded rest
  | [] => true

/-- The number of octets that continue a character after its first one. -/
def continuations? (first : UInt8) : Option Nat :=
  if first < 0x80 then some 0
  else if first < 0xc0 then none
  else if first < 0xe0 then some 1
  else if first < 0xf0 then some 2
  else if first < 0xf8 then some 3
  else none

/-- Whether each character has as many octets as its first one says, after `missing` more of the one before
them. What the characters are does not matter. -/
def areCharacters (missing : Nat) : List UInt8 → Bool
  | [] => missing == 0
  | octet :: rest =>
    match missing with
    | 0 => (continuations? octet).any (areCharacters · rest)
    | missing + 1 => 0x80 ≤ octet && octet < 0xc0 && areCharacters missing rest

/-- The longest part of a tag at the start of a text, percent-decoded up to an octet of zero, and the
rest. -/
def tagText? (verbatim : Bool) (text : List Char) : Option (List UInt8 × List Char) := do
  let encoded := text.takeWhile (isTagChar verbatim)
  guard (isPercentEncoded encoded)
  let octets := Text.Percent.octets encoded
  guard (areCharacters 0 octets)
  return (octets.takeWhile (· != 0), text.dropWhile (isTagChar verbatim))

/-- The same, but not without any text. -/
def someTagText? (verbatim : Bool) (text : List Char) : Option (List UInt8 × List Char) :=
  if text.head?.any (isTagChar verbatim) then tagText? verbatim text else none

/-- A handle: an exclamation mark, and a name with or without another such mark after it. -/
def handle? : List Char → Option (List Char × List Char)
  | '!' :: text =>
    let name := text.takeWhile isNameChar
    match text.dropWhile isNameChar with
    | '!' :: rest => some ('!' :: name ++ ['!'], rest)
    | rest => some ('!' :: name, rest)
  | _ => none

/-- Whether a handle ends with an exclamation mark that is not its first. -/
def isNamedHandle (handle : List Char) : Bool :=
  1 < handle.length && handle.getLast? == some '!'

/-- A tag before the spacing after it. -/
def unendedTag? (text : List Char) : Option (Tag × List Char) := do
  match rest? ['!', '<'] text with
  | some text =>
    let (suffix, rest) ← someTagText? true text
    let '>' :: rest := rest | none
    return (⟨"", suffix⟩, rest)
  | none =>
    let (handle, text) ← handle? text
    if isNamedHandle handle then
      let (suffix, rest) ← someTagText? false text
      return (⟨String.ofList handle, suffix⟩, rest)
    else
      let (suffix, rest) ← tagText? false text
      let suffix := Text.utf8Octets (handle.drop 1) ++ suffix
      return (if suffix.isEmpty then ⟨"", Text.utf8Octets ['!']⟩ else ⟨"!", suffix⟩, rest)

/-- A tag, which spacing or, within a flow collection, a comma must follow. -/
def tag? (flow : Bool) (text : List Char) : Option (Tag × List Char) := do
  let (tag, rest) ← unendedTag? text
  guard (endsWord rest || (flow && rest.head? == some ','))
  return (tag, rest)

/-- A number of one to nine digits, and the rest. -/
def versionNumber? (text : List Char) : Option (Nat × List Char) := do
  let digits := text.takeWhile Char.isDigit
  guard (digits.length ≤ 9)
  return (← Number.natOfDigits? digits, text.dropWhile Char.isDigit)

/-- The two numbers of a version, and the rest. -/
def version? (text : List Char) : Option (Directive × List Char) := do
  let (major, text) ← versionNumber? text
  let '.' :: text := text | none
  let (minor, rest) ← versionNumber? text
  return (.version major minor, rest)

/-- A handle and its expansion with white space between them, and the rest. -/
def handleDirective? (text : List Char) : Option (Directive × List Char) := do
  let (handle, text) ← handle? text
  guard (isNamedHandle handle || handle == ['!'])
  guard (text.head?.any isWhite)
  let (expansion, rest) ← someTagText? true (text.dropWhile isWhite)
  guard (endsWord rest)
  return (.handle (String.ofList handle) expansion, rest)

/-- A directive after its percent sign, and the lines after it. -/
def directive? (text : List Char) : Option (Directive × List Char) := do
  let afterName := text.dropWhile isNameChar
  guard (endsWord afterName)
  let value := afterName.dropWhile isWhite
  let (directive, rest) ←
    match String.ofList (text.takeWhile isNameChar) with
    | "YAML" => version? value
    | "TAG" => handleDirective? value
    | _ => none
  return (directive, ← lineEnd? rest)

end TableGateway.Yaml
