import TableGateway.Yaml.Basic

/-!
# The content of YAML nodes

A node is read as what its place requires: a text, a number, a sequence or a mapping. Every scalar is a
text, however it is written. A plain scalar without characters is what is left out, and stands for an
empty sequence or mapping where one is required. Aliases are followed only to read what they mean, and
only up to a number for the whole document.
-/

namespace TableGateway.Yaml

/-- A reading of nodes, which may fail. It takes the number of aliases that may still be followed, and
leaves what is left of it. -/
abbrev Reading :=
  StateT Nat Option

namespace Document

variable (document : Document)

/-- The node that a node means. -/
def target : Node → Reading Node
  | .reference anchor => do
    match ← get with
    | 0 => failure
    | left + 1 =>
      set left
      document.withAnchor? anchor
  | node => return node

/-- What is read of a whole document. -/
def read? {α : Type} (reading : Reading α) : Option α :=
  reading.run' document.aliasLimit

/-- The text of a scalar. -/
def text (node : Node) : Reading String := do
  match ← document.target node with
  | .scalar _ _ text => return text
  | _ => failure

/-- The words for no value. -/
def isNullWord (text : String) : Bool :=
  text == "~" || text == "null" || text == "Null" || text == "NULL"

/-- The tag of the null type. -/
def nullTag : List UInt8 :=
  Text.utf8Octets "tag:yaml.org,2002:null".toList

/-- The tag of the type of integers. -/
def intTag : List UInt8 :=
  Text.utf8Octets "tag:yaml.org,2002:int".toList

/-- The text of a scalar, or no text for a plain scalar that is empty or a word for no value. With a tag
a plain scalar is such a word if the tag is that of the null type, and a text otherwise. -/
def optionalText (node : Node) : Reading (Option String) := do
  match ← document.target node with
  | .scalar properties .plain text =>
    match properties.tag with
    | none => return if text.isEmpty || isNullWord text then none else some text
    | some tag =>
      if tag = nullTag then if isNullWord text then return none else failure
      else return some text
  | .scalar _ _ text => return some text
  | _ => failure

/-- The value of a digit, which may be a letter of either case. -/
def digitValue? (base : Nat) (c : Char) : Option Nat :=
  (Text.hexValue? c).filter (· < base)

/-- The number written by one or more digits. -/
def ofDigits? (base : Nat) (text : List Char) : Option Nat :=
  if text.isEmpty then none
  else text.foldlM (fun value c => (base * value + ·) <$> digitValue? base c) 0

/-- The number that a text writes: decimal digits without a leading zero, or digits of another base after
its mark; a plus may stand in front. -/
def number? (text : List Char) : Option Nat :=
  match (rest? ['+'] text).getD text with
  | '0' :: 'x' :: digits => ofDigits? 16 digits
  | '0' :: 'o' :: digits => ofDigits? 8 digits
  | '0' :: 'b' :: digits => ofDigits? 2 digits
  | ['0'] => some 0
  | '0' :: _ => none
  | digits => ofDigits? 10 digits

/-- The number below `bound` that a plain scalar writes, or a literal one with the tag of integers. -/
def numberBelow (bound : Nat) (node : Node) : Reading Nat := do
  match ← document.target node with
  | .scalar properties style text =>
    if style = .plain ∨ (style = .literal ∧ properties.tag = some intTag) then
      (number? text.toList).filter (· < bound)
    else failure
  | _ => failure

/-- The items of a sequence. -/
def items (node : Node) : Reading (List Node) := do
  match ← document.target node with
  | .sequence _ items => return items
  | .scalar _ .plain "" => return []
  | _ => failure

/-- The members of a mapping, whose names must be scalars. -/
def members (node : Node) : Reading (List (String × Node)) := do
  match ← document.target node with
  | .mapping _ members =>
    members.mapM fun (name, value) => return (← document.text name, value)
  | .scalar _ .plain "" => return []
  | _ => failure

/-- The value of the member with a given name, if there is one; there may not be two. -/
def member? (members : List (String × Node)) (name : String) : Option (Option Node) :=
  match members.filter (·.1 = name) with
  | [] => some none
  | [(_, value)] => some (some value)
  | _ => none

end Document

end TableGateway.Yaml
