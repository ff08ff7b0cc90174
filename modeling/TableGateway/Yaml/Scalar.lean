import TableGateway.Text.Ascii
import TableGateway.Yaml.Spacing

/-!
# Scalars of YAML texts

A scalar is written plainly, between single or double quotes, or as a block of lines, which is literal
or folded. Every reading function gives the text of the scalar and the rest after it.
-/

namespace TableGateway.Yaml

/-! ### Plain scalars -/

/-- The characters that separate the parts of a flow collection. -/
def isFlowIndicator (c : Char) : Bool :=
  c == ',' || c == '[' || c == ']' || c == '\x7b' || c == '\x7d'

/-- The word of a plain scalar at the start of a text. A colon ends it if spacing follows. Within a
flow collection the separators end it, and a colon may not stand before one of them. -/
def plainWord? (flow : Bool) : List Char → Option (List Char)
  | [] => some []
  | c :: rest =>
    if isSpacing c then some []
    else if flow && c == ':' && rest.head?.any fun d => isFlowIndicator d || d == '?' then none
    else if (c == ':' && endsWord rest) || (flow && isFlowIndicator c) then some []
    else (plainWord? flow rest).map (c :: ·)

/-- The result of reading a plain scalar; spacing after it has been read, too. -/
structure Plain where
  text : List Char
  brokeLine : Bool
  rest : List Char

/-- A plain scalar. Its lines after the first stand in column `indent` or after it, unless it is in a
flow collection. It ends before a comment and before a marker between documents. `lineStart` says
whether the text starts a line. -/
def plain? (flow : Bool) (indent : Nat) (lineStart : Bool) (text : List Char) : Option Plain :=
  if (lineStart && startsMarker text) || text.head? = some '#' then some ⟨[], false, text⟩
  else
    match _h : plainWord? flow text with
    | none => none
    | some [] => some ⟨[], false, text⟩
    | some (c :: word) =>
      let afterWord := text.drop (c :: word).length
      let spacing := afterWord.takeWhile isSpacing
      let rest := afterWord.dropWhile isSpacing
      let broken := spacing.any isBreak
      let column := (lastLine spacing).length
      if hasTabWithin indent spacing then none
      else if spacing.isEmpty || (broken && !flow && column < indent) then
        some ⟨c :: word, broken, rest⟩
      else
        (plain? flow indent (broken && column == 0) rest).map fun others =>
          if others.text.isEmpty then ⟨c :: word, broken, rest⟩
          else { others with text := c :: word ++ folded spacing ++ others.text }
termination_by text.length
decreasing_by
  have nonempty : text ≠ [] := by
    rintro rfl
    simp [plainWord?] at _h
  have positive := List.length_pos_iff.2 nonempty
  have shorter := (List.dropWhile_suffix (l := text.drop (c :: word).length) isSpacing).length_le
  simp only [List.length_drop, List.length_cons] at shorter ⊢
  omega

/-! ### Quoted scalars -/

/-- The number written by exactly `width` hexadecimal digits, and the rest. -/
def hexDigits? (width : Nat) (text : List Char) : Option (Nat × List Char) :=
  if (text.take width).length = width then
    (Text.natOfHex? (text.take width)).map (·, text.drop width)
  else none

/-- The character with a code point written by hexadecimal digits, and the rest. -/
def codePoint? (width : Nat) (text : List Char) : Option (Char × List Char) := do
  let (n, rest) ← hexDigits? width text
  guard n.isValidChar
  return (Char.ofNat n, rest)

/-- The characters that single letters after a backslash stand for. -/
def escapes : List (Char × Char) := [
  ('0', '\x00'), ('a', '\x07'), ('b', '\x08'), ('t', '\t'), ('\t', '\t'), ('n', '\n'),
  ('v', '\x0b'), ('f', '\x0c'), ('r', '\r'), ('e', '\x1b'), (' ', ' '), ('"', '"'), ('/', '/'),
  ('\\', '\\'), ('N', '\u0085'), ('_', '\u00a0'), ('L', '\u2028'), ('P', '\u2029')]

/-- The character of the escape after a backslash, and the rest. -/
def escape? : List Char → Option (Char × List Char)
  | 'x' :: rest => codePoint? 2 rest
  | 'u' :: rest => codePoint? 4 rest
  | 'U' :: rest => codePoint? 8 rest
  | c :: rest => (escapes.lookup c).map (·, rest)
  | [] => none

/-- The rest of a scalar between quotes, at most `fuel` steps away from its end. Spacing is folded; a
line break after a backslash is dropped with the spacing that follows in its line. A marker between
documents may not stand at the start of a line. -/
def quoted? (quote : Char) (lineStart : Bool) : Nat → List Char → Option (List Char × List Char)
  | 0, _ => none
  | fuel + 1, text =>
    if lineStart && startsMarker text then none
    else
      let prepend (start : List Char) := Option.map fun (more, rest) => (start ++ more, rest)
      let afterSpacing (spacing : List Char) :=
        quoted? quote (spacing.any isBreak && (lastLine spacing).isEmpty) fuel
      match text with
      | [] => none
      | '\'' :: '\'' :: rest =>
        if quote = '\'' then prepend ['\''] (quoted? quote false fuel rest)
        else prepend ['\''] (quoted? quote false fuel ('\'' :: rest))
      | c :: rest =>
        if c = quote then some ([], rest)
        else if isSpacing c then
          let spacing := text.takeWhile isSpacing
          prepend (folded spacing) (afterSpacing spacing (text.dropWhile isSpacing))
        else if c = '\\' ∧ quote = '"' then
          if rest.head?.any isBreak then
            let spacing := rest.takeWhile isSpacing
            prepend ((lineBreaks spacing).drop 1) (afterSpacing spacing (rest.dropWhile isSpacing))
          else
            match escape? rest with
            | some (escaped, rest) => prepend [escaped] (quoted? quote false fuel rest)
            | none => none
        else prepend [c] (quoted? quote false fuel rest)

/-! ### Block scalars -/

/-- What happens to the line breaks at the end of a block: one of them stays, none, or all. -/
inductive Chomping where
  | clip
  | strip
  | keep
  deriving DecidableEq

/-- Empty lines, by their breaks, and the line after them without its indentation. -/
structure EmptyLines where
  breaks : List Char
  width : Nat
  column : Nat
  rest : List Char

/-- The empty lines at the start of a text. Lines are indented by spaces, by at most `indent` of them if
that is given. The greatest number of spaces in a line is kept. -/
def emptyLines? (indent : Option Nat) (text : List Char) : Option EmptyLines :=
  let spaces := (text.takeWhile (· == ' ')).length
  let column := (indent.map (min spaces)).getD spaces
  match _line : text.drop column with
  | [] => some ⟨[], column, column, []⟩
  | c :: rest =>
    if c = '\t' ∧ indent.all (column < ·) then none
    else if _isEnd : isBreak c then
      (emptyLines? indent (afterBreak (c :: rest))).map fun lines =>
        { lines with
          breaks := keptBreak c :: lines.breaks
          width := max column lines.width }
    else some ⟨[], column, column, c :: rest⟩
termination_by text.length
decreasing_by
  have shorter : (afterBreak (c :: rest)).length < (c :: rest).length :=
    length_afterBreak_lt _isEnd
  have dropped := congrArg List.length _line
  simp only [List.length_drop] at dropped
  omega

/-- A line of a block, the break at its end if there is one, and the breaks of the empty lines after
it. -/
structure BlockLine where
  text : List Char
  ending : List Char
  emptyLines : List Char

/-- Whether a line starts with white space, so that it is not folded. -/
def BlockLine.isIndented (line : BlockLine) : Bool :=
  line.text.head?.any isWhite

/-- The lines of a block with indentation `indent`, at most `fuel` of them, and the rest. The text
starts in column `column`. -/
def blockLines? (indent : Nat) : Nat → Nat → List Char → Option (List BlockLine × List Char)
  | 0, _, _ => none
  | fuel + 1, column, text =>
    if column ≠ indent ∨ text.isEmpty then some ([], text)
    else
      let line := text.takeWhile fun c => !isBreak c
      let afterLine := text.dropWhile fun c => !isBreak c
      match emptyLines? (some indent) (afterBreak afterLine) with
      | none => none
      | some empty =>
        (blockLines? indent fuel empty.column empty.rest).map fun (lines, rest) =>
          (⟨line, (afterLine.take 1).map keptBreak, empty.breaks⟩ :: lines, rest)

/-- What stands between two lines of a block. -/
def BlockLine.joint (line next : BlockLine) (literal : Bool) : List Char :=
  if !literal && line.ending = ['\n'] && !line.isIndented && !next.isIndented then
    foldedBreaks (line.ending ++ line.emptyLines)
  else line.ending ++ line.emptyLines

/-- The text of the lines of a block. -/
def blockText (literal : Bool) (chomping : Chomping) : List BlockLine → List Char
  | [] => []
  | [line] =>
    line.text ++ (if chomping = .strip then [] else line.ending) ++
      (if chomping = .keep then line.emptyLines else [])
  | line :: next :: rest =>
    line.text ++ line.joint next literal ++ blockText literal chomping (next :: rest)

/-- The sign that says how a block is chomped, and the rest. -/
def chomping? : List Char → Option (Chomping × List Char)
  | '+' :: rest => some (.keep, rest)
  | '-' :: rest => some (.strip, rest)
  | _ => none

/-- The digit that gives the indentation of a block relative to its parent, and the rest. -/
def increment? : List Char → Option (Nat × List Char)
  | c :: rest => if c.isDigit then some (c.toNat - '0'.toNat, rest) else none
  | [] => none

/-- The signs after the indicator of a block, in either order, and the rest. -/
def blockHeader (text : List Char) : Chomping × Option Nat × List Char :=
  match chomping? text with
  | some (chomping, rest) =>
    match increment? rest with
    | some (n, rest) => (chomping, some n, rest)
    | none => (chomping, none, rest)
  | none =>
    match increment? text with
    | some (n, rest) =>
      match chomping? rest with
      | some (chomping, rest) => (chomping, some n, rest)
      | none => (.clip, some n, rest)
    | none => (.clip, none, text)

/-- The rest of a line without white space and a comment, which must be all of it. -/
def lineEnd? (text : List Char) : Option (List Char) :=
  let text := text.dropWhile isWhite
  let text := if text.head? = some '#' then text.dropWhile fun c => !isBreak c else text
  if endsLine text then some (afterBreak text) else none

/-- A block scalar after its indicator. Its lines have the indentation of the first line that is not
empty, which must be at least `indent`, unless the indentation is given relative to that of its
parent. -/
def block? (literal : Bool) (indent : Nat) (text : List Char) : Option (List Char × List Char) := do
  let (chomping, increment, text) := blockHeader text
  guard (increment ≠ some 0)
  let text ← lineEnd? text
  let given := increment.map fun n => indent - 1 + n
  let empty ← emptyLines? given text
  let indent := given.getD (max empty.width (max indent 1))
  let (lines, rest) ← blockLines? indent (text.length + 1) empty.column empty.rest
  let leading := if lines.isEmpty && chomping ≠ .keep then [] else empty.breaks
  return (leading ++ blockText literal chomping lines, rest)

end TableGateway.Yaml
