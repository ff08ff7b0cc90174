import TableGateway.Settings.Environment
import TableGateway.Text.Alphanumeric
import TableGateway.Text.Blank
import TableGateway.Text.Cut

/-!
# Environment files

An environment file sets variables, one a line: `NAME=value`, with `export` in front or not. Blank lines
and lines that start with `#` are skipped. Part of a value may stand between quotes, where white space and
`#` are part of it, and where a line may end without ending the assignment. A backslash takes the next
character as it is, except between single quotes, and `$NAME` stands for the value of a variable.

The file is read up to the first line that is no assignment. A variable that has a value keeps it.
-/

namespace TableGateway.EnvFile

/-! ### Lines -/

/-- Where a text stands with respect to quotes, escapes and comments. -/
inductive LineState where
  | bare
  | blank
  | escape
  | quoted (quote : Char)
  | quotedEscape (quote : Char)
  | comment
  deriving DecidableEq

/-- The state after one more character outside quotes. -/
def LineState.afterBare (c : Char) : LineState :=
  if c = '\\' then escape
  else if c = '"' ∨ c = '\'' then quoted c
  else bare

/-- The state after one more character. A comment starts after one blank. -/
def LineState.next (state : LineState) (c : Char) : LineState :=
  match state with
  | bare => if Text.isBlank c && c != '\n' && c != '\r' then blank else afterBare c
  | blank => if c = '#' then comment else afterBare c
  | escape => bare
  | quoted quote =>
    if c = '\\' then quotedEscape quote else if c = quote then bare else quoted quote
  | quotedEscape quote => quoted quote
  | comment => comment

/-- The state after a line, and the line without a comment at its end. -/
def scanLine (state : LineState) : List Char → LineState × List Char
  | [] => (state, [])
  | c :: rest =>
    if state.next c = .comment then (.comment, [])
    else
      let (last, text) := scanLine (state.next c) rest
      (last, c :: text)

/-- The lines of a text, with their line feeds. -/
def textLines : List Char → List (List Char)
  | [] => []
  | c :: rest =>
    if c = '\n' then [c] :: textLines rest
    else
      match textLines rest with
      | [] => [[c]]
      | line :: lines => (c :: line) :: lines

/-- Lines joined where quotes are open at their ends. `pending` has been read of the first assignment, and
has led to a state. An assignment that does not end is none. -/
def assignmentLines (pending : List Char) (state : LineState) :
    List (List Char) → List (List Char)
  | [] => []
  | line :: rest =>
    if (Text.trimStart (pending ++ line)).head? = some '#' then assignmentLines [] .bare rest
    else
      let (last, text) := scanLine state line
      if last = .bare ∨ last = .comment then
        (pending ++ text) :: assignmentLines [] .bare rest
      else assignmentLines (pending ++ text) last rest

/-! ### Assignments -/

/-- A name at the start of a text, and the rest. -/
def name? (text : List Char) : Option (List Char × List Char) :=
  if text.head?.any fun c => c.isAlpha || c == '_' then
    let isNameChar (c : Char) := c.isAlphanum || c == '_' || c == '.'
    some (text.takeWhile isNameChar, text.dropWhile isNameChar)
  else none

/-- The rest after an equality sign with blanks before it. -/
def afterEqual? (text : List Char) : Option (List Char) :=
  match Text.trimStart text with
  | '=' :: rest => some rest
  | _ => none

/-- The name that is assigned to, and the value as it is written. The word `export` is in front of a name
unless an equality sign follows it. -/
def target? (text : List Char) : Option (List Char × List Char) := do
  let (name, rest) ← name? text
  match afterEqual? rest with
  | some value => return (name, value)
  | none =>
    guard (name = "export".toList)
    let (name, rest) ← name? (Text.trimStart rest)
    return (name, ← afterEqual? rest)

/-- Where the reading of a value stands. `ended` is after the blank that ends it. In the other states
`quoted` tells whether double quotes are open. -/
inductive ValueState where
  | text (quoted : Bool)
  | literal
  | escape (quoted : Bool)
  | variable (quoted : Bool) (name : List Char)
  | braced (quoted : Bool) (name : List Char)
  | ended

/-- The characters that a backslash may stand before, with what they stand for then. -/
def escapes : List (Char × Char) :=
  [('\\', '\\'), ('\'', '\''), ('"', '"'), ('$', '$'), (' ', ' '), ('n', '\n')]

/-- The value of a variable that is named in a value; one that is not set is empty. -/
def substituted (environment : Environment) (name : List Char) : List Char :=
  ((environment.get? (String.ofList name)).getD "").toList

/-- The rest of a value. The character that ends the name of a variable stands for itself. -/
def value? (environment : Environment) : ValueState → List Char → Option (List Char)
  | .text quoted, [] => if quoted then none else some []
  | .escape quoted, [] => if quoted then none else some []
  | .variable quoted name, [] => if quoted then none else some (substituted environment name)
  | .ended, [] => some []
  | .literal, [] | .braced .., [] => none
  | .ended, c :: rest =>
    if c = ' ' ∨ c = '\t' then value? environment .ended rest
    else if c = '#' then some []
    else none
  | .escape quoted, c :: rest => do
    let escaped ← escapes.lookup c
    return escaped :: (← value? environment (.text quoted) rest)
  | .literal, c :: rest =>
    if c = '\'' then value? environment (.text false) rest
    else (c :: ·) <$> value? environment .literal rest
  | .variable quoted name, c :: rest =>
    if Text.isAlphanumeric c then value? environment (.variable quoted (name ++ [c])) rest
    else if c = '\x7b' ∧ name.isEmpty then value? environment (.braced quoted []) rest
    else if c = '$' then
      (substituted environment name ++ ·) <$> value? environment (.variable quoted []) rest
    else
      (substituted environment name ++ c :: ·) <$> value? environment (.text quoted) rest
  | .braced quoted name, c :: rest =>
    if c = '\x7d' then
      (substituted environment name ++ ·) <$> value? environment (.text quoted) rest
    else value? environment (.braced quoted (name ++ [c])) rest
  | .text quoted, c :: rest =>
    if c = '$' then value? environment (.variable quoted []) rest
    else if c = '\\' then value? environment (.escape quoted) rest
    else if c = '"' then value? environment (.text !quoted) rest
    else if c = '\'' ∧ !quoted then value? environment .literal rest
    else if (c = ' ' ∨ c = '\t') ∧ !quoted then value? environment .ended rest
    else (c :: ·) <$> value? environment (.text quoted) rest

/-- The environment after a line that is blank, a comment or an assignment. -/
def assign? (environment : Environment) (line : List Char) : Option Environment := do
  let line := Text.trim line
  if line.isEmpty ∨ line.head? = some '#' then return environment
  else
    let (name, written) ← target? line
    let written := Text.trimStart written
    let value ←
      if written.head? = some '#' then some []
      else value? environment (.text false) written
    return environment.setDefault (String.ofList name) (String.ofList value)

/-- The environment after lines, up to the first that is no assignment. -/
def assignAll (environment : Environment) : List (List Char) → Environment
  | [] => environment
  | line :: rest =>
    match assign? environment line with
    | some environment => assignAll environment rest
    | none => environment

/-- The environment after a file. A byte order mark at its start is no part of it. -/
def load (environment : Environment) (text : String) : Environment :=
  let text := (Text.dropWord? ['\ufeff'] text.toList).getD text.toList
  assignAll environment (assignmentLines [] .bare (textLines text))

end TableGateway.EnvFile
