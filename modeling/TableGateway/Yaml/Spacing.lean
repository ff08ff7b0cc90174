/-!
# White space of YAML texts

Spaces and tabs separate the tokens of a line, and line breaks separate lines. White space between two
words of a scalar is folded: one line break stands for a space, and of several the first is dropped.
-/

namespace TableGateway.Yaml

/-- The characters that a text may have. -/
def isAllowed (c : Char) : Bool :=
  let n := c.toNat
  n == 0x9 || n == 0xa || n == 0xd || (0x20 ≤ n && n ≤ 0x7e) || n == 0x85 ||
    (0xa0 ≤ n && n ≤ 0xd7ff) || (0xe000 ≤ n && n ≤ 0xfffd) || 0x10000 ≤ n

/-- A space or a tab. -/
def isWhite (c : Char) : Bool :=
  c == ' ' || c == '\t'

/-- A line break; a carriage return before a line feed belongs to it. -/
def isBreak (c : Char) : Bool :=
  c == '\n' || c == '\r' || c == '\u0085' || c == '\u2028' || c == '\u2029'

/-- White space or a line break. -/
def isSpacing (c : Char) : Bool :=
  isWhite c || isBreak c

/-- Whether a text is at its end or starts with spacing. -/
def endsWord : List Char → Bool
  | [] => true
  | c :: _ => isSpacing c

/-- Whether a text is at the end of a line. -/
def endsLine : List Char → Bool
  | [] => true
  | c :: _ => isBreak c

/-- The letters, digits, underscores and hyphens that names of anchors and tag handles consist of. -/
def isNameChar (c : Char) : Bool :=
  c.isAlphanum || c == '_' || c == '-'

/-- The text after a word that it starts with. -/
def rest? (word text : List Char) : Option (List Char) :=
  if word.isPrefixOf text then some (text.drop word.length) else none

/-- Whether a text starts with one of the markers between documents. -/
def startsMarker (text : List Char) : Bool :=
  [['-', '-', '-'], ['.', '.', '.']].any fun marker => (rest? marker text).any endsWord

/-- A line break as it is kept in a scalar. -/
def keptBreak (c : Char) : Char :=
  if c == '\u2028' || c == '\u2029' then c else '\n'

/-- The line breaks in a text, as they are kept in a scalar. -/
def lineBreaks : List Char → List Char
  | '\r' :: '\n' :: rest => '\n' :: lineBreaks rest
  | c :: rest => if isBreak c then keptBreak c :: lineBreaks rest else lineBreaks rest
  | [] => []

/-- The text after the line break that it starts with. -/
def afterBreak : List Char → List Char
  | '\r' :: '\n' :: rest => rest
  | c :: rest => if isBreak c then rest else c :: rest
  | [] => []

/-- A line break takes at least one character. -/
theorem length_afterBreak_lt {c : Char} {rest : List Char} (h : isBreak c) :
  (afterBreak (c :: rest)).length < (c :: rest).length
  := by
  unfold afterBreak
  split
  next shorter text_eq =>
    rw [text_eq, List.length_cons, List.length_cons]
    omega
  · simp_all
  · simp_all

/-- The spacing that folded breaks leave between two words of a scalar. -/
def foldedBreaks : List Char → List Char
  | ['\n'] => [' ']
  | '\n' :: others => others
  | breaks => breaks

/-- The spacing between two words of a scalar, folded. White space within a line is kept. -/
def folded (spacing : List Char) : List Char :=
  match lineBreaks spacing with
  | [] => spacing
  | breaks => foldedBreaks breaks

/-- The text after the last line break of a text, or all of it. -/
def lastLine (text : List Char) : List Char :=
  (text.reverse.takeWhile fun c => !isBreak c).reverse

/-- The lines of a text after its first, without their breaks. -/
def laterLines (text : List Char) : List (List Char) :=
  (text.splitOnP isBreak).drop 1

/-- Whether a tab stands among the first `width` columns of a line after the first. -/
def hasTabWithin (width : Nat) (spacing : List Char) : Bool :=
  (laterLines spacing).any fun line => (line.take width).contains '\t'

end TableGateway.Yaml
