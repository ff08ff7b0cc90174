import TableGateway.Yaml.Tag

/-!
# Tokens of YAML texts

A YAML text is a sequence of tokens. Blocks are given by indentation: a token that stands further to the
right than the innermost open block may open a block, and a token that stands further to the left closes
blocks, so that every block has a token at its start and one at its end.

A key need not be marked. What may turn out to be one is remembered until the colon after it is read, and
then a token is put in front of it. Such a key is on one line and has at most 1024 octets; one that
stands in the column of the innermost block has to be a key.

A byte order mark may begin a line. It is spacing, but it has a column of its own.
-/

namespace TableGateway.Yaml

/-- The ways to write a scalar. -/
inductive Style where
  | plain
  | singleQuoted
  | doubleQuoted
  | literal
  | folded
  deriving DecidableEq

/-- A token. Anchors are given by their numbers. -/
inductive Token where
  | directive (directive : Directive)
  | documentStart
  | documentEnd
  | blockSequence
  | blockMapping
  | blockEnd
  | flowSequence
  | flowSequenceEnd
  | flowMapping
  | flowMappingEnd
  | entry
  | separator
  | key
  | value
  | anchor (number : Nat)
  | reference (number : Nat)
  | tag (tag : Tag)
  | scalar (style : Style) (text : String)
  deriving DecidableEq

/-- A place in a text: the number of octets before it, its line, and its column. -/
structure Place where
  index : Nat
  line : Nat
  column : Nat

/-- The place after a text that starts at a place. -/
def Place.after (place : Place) : List Char → Place
  | [] => place
  | '\r' :: '\n' :: rest => (⟨place.index + 2, place.line + 1, 0⟩ : Place).after rest
  | c :: rest =>
    if isBreak c then (⟨place.index + c.utf8Size, place.line + 1, 0⟩ : Place).after rest
    else (⟨place.index + c.utf8Size, place.line, place.column + 1⟩ : Place).after rest

/-- What may turn out to be a key: its place, the number of tokens before it, and whether it has to be
one. -/
structure PossibleKey where
  place : Place
  tokens : Nat
  required : Bool

/-- How far a text has been read. `tokens` are the tokens so far, the last first; `columns` are those of
the open blocks, the innermost first; `key` is what may be a key in the innermost flow collection, or in
a block if none is open, and `outerKeys` the same for what is around it. `keyAllowed` says whether a
token may be an unmarked key. The number of an anchor is the number of names that had been in use before
it. -/
structure Layout where
  rest : List Char
  place : Place
  tokens : List Token
  columns : List Nat
  key : Option PossibleKey
  outerKeys : List (Option PossibleKey)
  keyAllowed : Bool
  anchors : List (String × Nat)

namespace Layout

/-- Nothing of a text has been read. -/
def start (text : List Char) : Layout where
  rest := text
  place := ⟨0, 0, 0⟩
  tokens := []
  columns := []
  key := none
  outerKeys := []
  keyAllowed := true
  anchors := []

/-- Whether a flow collection is open. -/
def inFlow (s : Layout) : Bool :=
  !s.outerKeys.isEmpty

/-- The first column to the right of the innermost block. -/
def indent (s : Layout) : Nat :=
  match s.columns with
  | [] => 0
  | column :: _ => column + 1

/-- The text has been read up to `rest`. -/
def moveTo (s : Layout) (rest : List Char) : Layout :=
  { s with
    rest
    place := s.place.after (s.rest.take (s.rest.length - rest.length)) }

/-- One more token. -/
def push (s : Layout) (token : Token) : Layout :=
  { s with tokens := token :: s.tokens }

/-! ### Spacing -/

/-- The text after spacing and comments, and whether an unmarked key may follow. A line break allows one
in a block; where one is allowed, a tab is no spacing in a block. `lineStart` says whether the text starts
a line. -/
def afterSpacing (flow keyAllowed lineStart : Bool) (text : List Char) : List Char × Bool :=
  let line := if lineStart && text.head? == some '\ufeff' then text.drop 1 else text
  let word := line.dropWhile fun c => c == ' ' || (c == '\t' && (flow || !keyAllowed))
  let token := if word.head? = some '#' then word.dropWhile fun c => !isBreak c else word
  match _h : token with
  | [] => ([], keyAllowed)
  | c :: rest =>
    if _isEnd : isBreak c then
      afterSpacing flow (keyAllowed || !flow) true (afterBreak (c :: rest))
    else (c :: rest, keyAllowed)
termination_by text.length
decreasing_by
  have shorter : (afterBreak (c :: rest)).length < (c :: rest).length :=
    length_afterBreak_lt _isEnd
  have ofLine : line.length ≤ text.length := by
    simp only [line]
    split
    · exact (List.drop_suffix ..).length_le
    · exact Nat.le_refl _
  have ofWord : word.length ≤ line.length := (List.dropWhile_suffix _).length_le
  have ofToken : token.length ≤ word.length := by
    simp only [token]
    split
    · exact (List.dropWhile_suffix _).length_le
    · exact Nat.le_refl _
  rw [_h] at ofToken
  omega

/-- Spacing and comments have been read. -/
def skipSpacing (s : Layout) : Layout :=
  let (rest, keyAllowed) :=
    afterSpacing s.inFlow s.keyAllowed (s.place.column == 0) s.rest
  { s.moveTo rest with keyAllowed }

/-! ### Blocks -/

/-- The blocks to the right of a column have been closed, unless a flow collection is open. -/
def closeBlocks (s : Layout) (column : Nat) : Layout :=
  if s.inFlow then s
  else
    let closed := s.columns.takeWhile (column < ·)
    { s with
      columns := s.columns.drop closed.length
      tokens := closed.map (fun _ => Token.blockEnd) ++ s.tokens }

/-- All blocks have been closed, unless a flow collection is open. -/
def closeAllBlocks (s : Layout) : Layout :=
  if s.inFlow then s
  else { s with columns := [], tokens := s.columns.map (fun _ => Token.blockEnd) ++ s.tokens }

/-- A block has been opened in a column if it is to the right of the innermost block; its token stands
before the last `back` tokens. -/
def openBlock (s : Layout) (token : Token) (column back : Nat) : Layout :=
  if s.inFlow || column < s.indent then s
  else
    { s with
      columns := column :: s.columns
      tokens := s.tokens.take back ++ token :: s.tokens.drop back }

/-! ### Keys -/

/-- What may be a key is no key. -/
def dropKey? (s : Layout) : Option Layout :=
  if s.key.any PossibleKey.required then none else some { s with key := none }

/-- The next token may be a key, if one is allowed here. -/
def noteKey? (s : Layout) : Option Layout :=
  if s.keyAllowed then
    let required := !s.inFlow && s.columns.head? == some s.place.column
    s.dropKey?.map fun s => { s with key := some ⟨s.place, s.tokens.length, required⟩ }
  else some s

/-- What may be a key, unless it is too far back. -/
def freshKey? (s : Layout) (key : Option PossibleKey) : Option (Option PossibleKey) :=
  let isStale (key : PossibleKey) : Bool :=
    key.place.line < s.place.line || key.place.index + 1024 < s.place.index
  if key.any isStale then
    if key.any PossibleKey.required then none else some none
  else some key

/-- What is too far back is no key. -/
def dropStaleKeys? (s : Layout) : Option Layout := do
  let key ← s.freshKey? s.key
  let outerKeys ← s.outerKeys.mapM s.freshKey?
  return { s with key, outerKeys }

/-! ### Tokens -/

/-- A marker between documents. -/
def marker? (s : Layout) (token : Token) : Option Layout := do
  let s ← s.closeAllBlocks.dropKey?
  return { (s.moveTo (s.rest.drop 3)).push token with keyAllowed := false }

/-- A directive. -/
def takeDirective? (s : Layout) (rest : List Char) : Option Layout := do
  let s ← s.closeAllBlocks.dropKey?
  let (directive, rest) ← directive? rest
  return { (s.moveTo rest).push (.directive directive) with keyAllowed := false }

/-- The start of a flow collection. -/
def openFlow? (s : Layout) (token : Token) (rest : List Char) : Option Layout := do
  let s ← s.noteKey?
  return { (s.moveTo rest).push token with
    key := none
    outerKeys := s.key :: s.outerKeys
    keyAllowed := true }

/-- The end of a flow collection. -/
def closeFlow? (s : Layout) (token : Token) (rest : List Char) : Option Layout := do
  let s ← s.dropKey?
  return { (s.moveTo rest).push token with
    key := s.outerKeys.head?.getD none
    outerKeys := s.outerKeys.drop 1
    keyAllowed := false }

/-- A comma in a flow collection. -/
def takeSeparator? (s : Layout) (rest : List Char) : Option Layout := do
  let s ← s.dropKey?
  return { (s.moveTo rest).push .separator with keyAllowed := true }

/-- The mark of an entry of a block sequence. -/
def takeEntry? (s : Layout) (rest : List Char) : Option Layout := do
  guard (s.inFlow || s.keyAllowed)
  let s ← (s.openBlock .blockSequence s.place.column 0).dropKey?
  return { (s.moveTo rest).push .entry with keyAllowed := true }

/-- The mark of a key. -/
def takeKey? (s : Layout) (rest : List Char) : Option Layout := do
  guard (s.inFlow || s.keyAllowed)
  let s ← (s.openBlock .blockMapping s.place.column 0).dropKey?
  return { (s.moveTo rest).push .key with keyAllowed := !s.inFlow }

/-- The mark of a value. A token is put before its key if that was not marked. -/
def takeValue? (s : Layout) (rest : List Char) : Option Layout :=
  match s.key with
  | some key =>
    let back := s.tokens.length - key.tokens
    let marked := { s with
      key := none
      tokens := s.tokens.take back ++ Token.key :: s.tokens.drop back }
    let opened := marked.openBlock .blockMapping key.place.column (back + 1)
    some { (opened.moveTo rest).push .value with keyAllowed := false }
  | none => do
    guard (s.inFlow || s.keyAllowed)
    let s := s.openBlock .blockMapping s.place.column 0
    return { (s.moveTo rest).push .value with keyAllowed := !s.inFlow }

/-- The name of an anchor, and the rest. -/
def anchorName? (text : List Char) : Option (String × List Char) :=
  let name := text.takeWhile isNameChar
  let rest := text.dropWhile isNameChar
  let isEnd := endsWord rest || rest.head?.any "?:,]\x7d%@\x60".toList.contains
  if !name.isEmpty && isEnd then some (String.ofList name, rest) else none

/-- An anchor, which gets a number. -/
def takeAnchor? (s : Layout) (rest : List Char) : Option Layout := do
  let s ← s.noteKey?
  let (name, rest) ← anchorName? rest
  let number := s.anchors.length
  return { (s.moveTo rest).push (.anchor number) with
    anchors := (name, number) :: s.anchors.filter (·.1 != name)
    keyAllowed := false }

/-- An alias for an anchor before it. -/
def takeAlias? (s : Layout) (rest : List Char) : Option Layout := do
  let s ← s.noteKey?
  let (name, rest) ← anchorName? rest
  let number ← s.anchors.lookup name
  return { (s.moveTo rest).push (.reference number) with keyAllowed := false }

/-- A tag. -/
def takeTag? (s : Layout) : Option Layout := do
  let s ← s.noteKey?
  let (tag, rest) ← tag? s.inFlow s.rest
  return { (s.moveTo rest).push (.tag tag) with keyAllowed := false }

/-- A block scalar. -/
def takeBlock? (s : Layout) (style : Style) (rest : List Char) : Option Layout := do
  let s ← s.dropKey?
  let (text, rest) ← block? (style == .literal) s.indent rest
  return { (s.moveTo rest).push (.scalar style (String.ofList text)) with keyAllowed := true }

/-- A quoted scalar. -/
def takeQuoted? (s : Layout) (style : Style) (quote : Char) (rest : List Char) :
    Option Layout := do
  let s ← s.noteKey?
  let (text, rest) ← quoted? quote false (rest.length + 1) rest
  return { (s.moveTo rest).push (.scalar style (String.ofList text)) with keyAllowed := false }

/-- A plain scalar. -/
def takePlain? (s : Layout) : Option Layout := do
  let s ← s.noteKey?
  let scalar ← plain? s.inFlow s.indent false s.rest
  return { (s.moveTo scalar.rest).push (.scalar .plain (String.ofList scalar.text)) with
    keyAllowed := scalar.brokeLine }

/-- Characters that have a meaning of their own at the start of a token. -/
def isIndicator (c : Char) : Bool :=
  "-?:,[]\x7b\x7d#&*!|>'\"%@\x60".toList.contains c

/-- One more token of a text that does not start with spacing. -/
def next? (s : Layout) : Option Layout :=
  match s.rest with
  | [] => none
  | c :: rest =>
    if s.place.column = 0 ∧ c = '%' then s.takeDirective? rest
    else if s.place.column = 0 ∧ startsMarker s.rest then
      s.marker? (if c = '-' then .documentStart else .documentEnd)
    else if c = '[' then s.openFlow? .flowSequence rest
    else if c = '\x7b' then s.openFlow? .flowMapping rest
    else if c = ']' then s.closeFlow? .flowSequenceEnd rest
    else if c = '\x7d' then s.closeFlow? .flowMappingEnd rest
    else if c = ',' then s.takeSeparator? rest
    else if c = '-' ∧ endsWord rest then s.takeEntry? rest
    else if c = '?' ∧ (s.inFlow ∨ endsWord rest) then s.takeKey? rest
    else if c = ':' ∧ (s.inFlow ∨ endsWord rest) then s.takeValue? rest
    else if c = '*' then s.takeAlias? rest
    else if c = '&' then s.takeAnchor? rest
    else if c = '!' then s.takeTag?
    else if c = '|' ∧ !s.inFlow then s.takeBlock? .literal rest
    else if c = '>' ∧ !s.inFlow then s.takeBlock? .folded rest
    else if c = '\'' then s.takeQuoted? .singleQuoted c rest
    else if c = '"' then s.takeQuoted? .doubleQuoted c rest
    else if c = '-' ∨ c = '?' ∨ c = ':' ∨ !(isSpacing c || isIndicator c) then s.takePlain?
    else none

/-- The tokens of a text, at most `fuel` of them more. -/
def finish? : Nat → Layout → Option (List Token)
  | 0, _ => none
  | fuel + 1, s => do
    let s ← s.skipSpacing.dropStaleKeys?
    if s.rest.isEmpty then
      let s ← s.closeAllBlocks.dropKey?
      return s.tokens.reverse
    else
      let s ← (s.closeBlocks s.place.column).next?
      s.finish? fuel

end Layout

/-- The tokens of a text. Every token takes at least one character. -/
def Token.ofText? (text : List Char) : Option (List Token) :=
  if text.all isAllowed then (Layout.start text).finish? (text.length + 1) else none

end TableGateway.Yaml
