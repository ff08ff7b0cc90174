import TableGateway.Yaml.Basic

/-!
# Reading YAML documents

The nodes of a document are read from its tokens. Where a node is missing that a token announces, an
empty one stands for it. A text must have exactly one document.
-/

namespace TableGateway.Yaml

/-- The expansions of tag handles. -/
abbrev Handles := List (String × List UInt8)

/-- The handles that need no directive. -/
def defaultHandles : Handles :=
  [("!", Text.utf8Octets ['!']), ("!!", Text.utf8Octets "tag:yaml.org,2002:".toList)]

/-- The octets of a tag with its handle expanded. -/
def Tag.resolve? (tag : Tag) (handles : Handles) : Option (List UInt8) :=
  if tag.handle.isEmpty then some tag.suffix
  else (handles.lookup tag.handle).map (· ++ tag.suffix)

namespace Node

/-- The properties at the start of tokens, an anchor and a tag in either order, and the rest. -/
def properties? (handles : Handles) : List Token → Option (Properties × List Token)
  | .anchor n :: .tag tag :: rest | .tag tag :: .anchor n :: rest =>
    (tag.resolve? handles).map fun tag => (⟨n, tag⟩, rest)
  | .anchor n :: rest => some (⟨n, none⟩, rest)
  | .tag tag :: rest => (tag.resolve? handles).map fun tag => (⟨none, tag⟩, rest)
  | tokens => some (.none, tokens)

/-- Whether the first token is one of those given, so that no node is written before it. -/
def isMissing (ends : List Token) (tokens : List Token) : Bool :=
  tokens.head?.any ends.contains

mutual

/-- A node, and the rest of the tokens. `block` says whether it may be a block, and `indentless` whether
it may be a block sequence that is not indented. At most `fuel` nested steps are taken. -/
def ofTokens? (handles : Handles) (block indentless : Bool) :
    Nat → List Token → Option (Node × List Token)
  | 0, _ => none
  | _, .reference n :: rest => some (.reference n, rest)
  | fuel + 1, tokens => do
    let (properties, tokens) ← properties? handles tokens
    match tokens with
    | .scalar style text :: rest => return (scalar properties style text, rest)
    | .flowSequence :: rest =>
      let (items, rest) ← flowItems? handles true fuel rest
      return (sequence properties items, rest)
    | .flowMapping :: rest =>
      let (members, rest) ← flowMembers? handles true fuel rest
      return (mapping properties members, rest)
    | .entry :: _ =>
      if indentless then
        let (items, rest) ← indentlessItems? handles fuel tokens
        return (sequence properties items, rest)
      else if properties = .none then none
      else return (empty properties, tokens)
    | .blockSequence :: rest =>
      if block then
        let (items, rest) ← blockItems? handles fuel rest
        return (sequence properties items, rest)
      else none
    | .blockMapping :: rest =>
      if block then
        let (members, rest) ← blockMembers? handles fuel rest
        return (mapping properties members, rest)
      else none
    | _ =>
      if properties = .none then none
      else return (empty properties, tokens)

/-- A node, or an empty one if the first token is one of those given. -/
def ofTokensBefore? (handles : Handles) (block indentless : Bool) (ends : List Token) :
    Nat → List Token → Option (Node × List Token)
  | 0, _ => none
  | fuel + 1, tokens =>
    if isMissing ends tokens then some (empty .none, tokens)
    else ofTokens? handles block indentless fuel tokens

/-- The items of a block sequence up to its end. -/
def blockItems? (handles : Handles) : Nat → List Token → Option (List Node × List Token)
  | fuel + 1, .entry :: tokens => do
    let (item, tokens) ← ofTokensBefore? handles true false [.entry, .blockEnd] fuel tokens
    let (items, rest) ← blockItems? handles fuel tokens
    return (item :: items, rest)
  | _, .blockEnd :: rest => some ([], rest)
  | _, _ => none

/-- The items of a block sequence that is not indented. -/
def indentlessItems? (handles : Handles) : Nat → List Token → Option (List Node × List Token)
  | 0, _ => none
  | fuel + 1, .entry :: tokens => do
    let ends := [.entry, .key, .value, .blockEnd]
    let (item, tokens) ← ofTokensBefore? handles true false ends fuel tokens
    let (items, rest) ← indentlessItems? handles fuel tokens
    return (item :: items, rest)
  | _, tokens => some ([], tokens)

/-- The members of a block mapping up to its end. -/
def blockMembers? (handles : Handles) :
    Nat → List Token → Option (List (Node × Node) × List Token)
  | fuel + 1, .key :: tokens => do
    let ends := [.key, .value, .blockEnd]
    let (name, tokens) ← ofTokensBefore? handles true true ends fuel tokens
    let (value, tokens) ← memberValue? handles true ends fuel tokens
    let (members, rest) ← blockMembers? handles fuel tokens
    return ((name, value) :: members, rest)
  | _, .blockEnd :: rest => some ([], rest)
  | _, _ => none

/-- The value of a member, which is empty if it is not announced. -/
def memberValue? (handles : Handles) (block : Bool) (ends : List Token) :
    Nat → List Token → Option (Node × List Token)
  | 0, _ => none
  | fuel + 1, .value :: tokens => ofTokensBefore? handles block block ends fuel tokens
  | _, tokens => some (empty .none, tokens)

/-- The items of a flow sequence up to its end. A member of a mapping may stand in place of an item, and
is a mapping of its own. -/
def flowItems? (handles : Handles) (first : Bool) :
    Nat → List Token → Option (List Node × List Token)
  | 0, _ => none
  | _, .flowSequenceEnd :: rest => some ([], rest)
  | fuel + 1, tokens => do
    let tokens ←
      match first, tokens with
      | true, _ => some tokens
      | false, .separator :: rest => some rest
      | false, _ => none
    match tokens with
    | .flowSequenceEnd :: rest => return ([], rest)
    | .key :: tokens =>
      let (member, tokens) ← flowPair? handles fuel tokens
      let (items, rest) ← flowItems? handles false fuel tokens
      return (mapping .none [member] :: items, rest)
    | tokens =>
      let (item, tokens) ← ofTokens? handles false false fuel tokens
      let (items, rest) ← flowItems? handles false fuel tokens
      return (item :: items, rest)

/-- A member that stands in place of an item of a flow sequence. If its name is missing, so is its value,
and the token after the mark of the key is skipped. -/
def flowPair? (handles : Handles) : Nat → List Token → Option ((Node × Node) × List Token)
  | 0, _ => none
  | fuel + 1, tokens => do
    let (name, tokens) ←
      if isMissing [.value, .separator, .flowSequenceEnd] tokens then
        some (empty .none, tokens.drop 1)
      else ofTokens? handles false false fuel tokens
    let (value, rest) ← memberValue? handles false [.separator, .flowSequenceEnd] fuel tokens
    return ((name, value), rest)

/-- The members of a flow mapping up to its end. -/
def flowMembers? (handles : Handles) (first : Bool) :
    Nat → List Token → Option (List (Node × Node) × List Token)
  | 0, _ => none
  | _, .flowMappingEnd :: rest => some ([], rest)
  | fuel + 1, tokens => do
    let tokens ←
      match first, tokens with
      | true, _ => some tokens
      | false, .separator :: rest => some rest
      | false, _ => none
    match tokens with
    | .flowMappingEnd :: rest => return ([], rest)
    | .key :: tokens =>
      let (name, tokens) ←
        ofTokensBefore? handles false false [.value, .separator, .flowMappingEnd] fuel tokens
      let (value, tokens) ← memberValue? handles false [.separator, .flowMappingEnd] fuel tokens
      let (members, rest) ← flowMembers? handles false fuel tokens
      return ((name, value) :: members, rest)
    | tokens =>
      let (name, tokens) ← ofTokens? handles false false fuel tokens
      let (members, rest) ← flowMembers? handles false fuel tokens
      return ((name, empty .none) :: members, rest)

end

end Node

namespace Document

/-- The handles that directives give expansions to. No directive may occur twice, and the version must be
1.1 or 1.2. -/
def handles? : List Directive → Option Handles
  | [] => some []
  | .version major minor :: rest => do
    let isVersion (directive : Directive) := directive matches .version ..
    guard (major = 1 ∧ (minor = 1 ∨ minor = 2) ∧ !rest.any isVersion)
    handles? rest
  | .handle name expansion :: rest => do
    let handles ← handles? rest
    guard (handles.lookup name).isNone
    return (name, expansion) :: handles

/-- The directives at the start of tokens, and the rest. -/
def directives : List Token → List Directive × List Token
  | .directive directive :: tokens =>
    let (found, rest) := directives tokens
    (directive :: found, rest)
  | tokens => ([], tokens)

/-- Whether a document ends where the tokens start. -/
def endsDocument : List Token → Bool
  | [] | .directive _ :: _ | .documentStart :: _ | .documentEnd :: _ => true
  | _ => false

/-- The root of the only document of a text, given by its tokens. A document with directives must have a
marker at its start. At most three nested steps are taken for each token, which bounds their number. -/
def rootOfTokens? (tokens : List Token) : Option Node := do
  let fuel := 3 * tokens.length + 3
  let (directives, tokens) := directives tokens
  let handles := (← handles? directives) ++ defaultHandles
  let (root, rest) ←
    match tokens with
    | .documentStart :: tokens =>
      if endsDocument tokens then some (Node.empty .none, tokens)
      else Node.ofTokens? handles true false fuel tokens
    | tokens =>
      if directives.isEmpty then Node.ofTokens? handles true false fuel tokens else none
  guard (rest.all (· == .documentEnd))
  return root

/-- The only document of a text. -/
def ofText? (text : List Char) : Option Document := do
  let tokens ← Token.ofText? text
  let root ← rootOfTokens? tokens
  return ofRoot root

end Document

end TableGateway.Yaml
