import TableGateway.Text.Cut

/-!
# Filter operators

An operator compares a column with values, or tests it for null. In a request it is written as a
token. A table of operators assigns operators to tokens and finds the first token in a text: the
leftmost, and the longest of those at one place.
-/

namespace TableGateway

/-- An operator of a filter condition. -/
inductive Operator where
  | equal
  | notEqual
  | oneOf
  | noneOf
  | like
  | notLike
  | isNull
  | isNotNull
  | atMost
  | atLeast
  | below
  | above
  deriving DecidableEq

namespace Operator

/-- The spelling of an operator in a statement. -/
def sql : Operator → String
  | equal => "="
  | notEqual => "!="
  | oneOf => "IN"
  | noneOf => "NOT IN"
  | like => "LIKE"
  | notLike => "NOT LIKE"
  | isNull => "IS NULL"
  | isNotNull => "IS NOT NULL"
  | atMost => "<="
  | atLeast => ">="
  | below => "<"
  | above => ">"

/-- The operators that test for null and take no values. -/
def isNullTest : Operator → Bool
  | isNull | isNotNull => true
  | _ => false

/-- The operators that take a list of values in parentheses. -/
def isMembership : Operator → Bool
  | oneOf | noneOf => true
  | _ => false

end Operator

/-- Tokens with their operators, in the order in which they are tried. -/
structure OperatorTable where
  entries : List (String × Operator)

namespace OperatorTable

/-- Whether an entry is tried before another: the longer token in UTF-8 first, and the lesser one of
two of one length. -/
def precedes (a b : String × Operator) : Bool :=
  b.1.utf8ByteSize < a.1.utf8ByteSize ||
    (a.1.utf8ByteSize == b.1.utf8ByteSize && a.1 ≤ b.1)

/-- Entries in the order in which they are tried, with one more entry, which is tried before others of its
token. -/
def insert (entry : String × Operator) : List (String × Operator) → List (String × Operator)
  | [] => [entry]
  | first :: rest =>
    if precedes entry first then entry :: first :: rest else first :: insert entry rest

/-- The table of the given entries. Entries with one token keep their order, and the first counts. -/
def ofList (entries : List (String × Operator)) : OperatorTable :=
  ⟨entries.foldr insert []⟩

/-- The tokens in the order in which they are tried. -/
def tokens (table : OperatorTable) : List String :=
  table.entries.map Prod.fst

/-- The operator of a token. -/
def lookup? (table : OperatorTable) (token : String) : Option Operator :=
  (table.entries.find? (·.1 = token)).map Prod.snd

/-- A token found in a text, with the texts before and after it. -/
structure Found where
  before : List Char
  token : String
  operator : Operator
  after : List Char

/-- The octet of the text's UTF-8 form at which the token starts. -/
def Found.start (found : Found) : Nat :=
  (String.ofList found.before).utf8ByteSize

/-- The octet of the text's UTF-8 form after the token. -/
def Found.stop (found : Found) : Nat :=
  found.start + found.token.utf8ByteSize

/-- The first entry whose token begins the text. -/
def entryAt? (table : OperatorTable) (text : List Char) : Option (String × Operator) :=
  table.entries.find? fun entry => entry.1.toList.isPrefixOf text

/-- The first token in a text. Tokens are looked for where a character starts, so there is none in the
empty text. -/
def find? (table : OperatorTable) : List Char → Option Found
  | [] => none
  | c :: rest =>
    match table.entryAt? (c :: rest) with
    | some (token, operator) => some ⟨[], token, operator, (c :: rest).drop token.length⟩
    | none => (table.find? rest).map fun found => { found with before := c :: found.before }

/-- A found token stands in the text between the texts before and after it. -/
theorem eq_append_of_find?
    {table : OperatorTable} {text : List Char} {found : Found} (h : table.find? text = some found) :
  text = found.before ++ found.token.toList ++ found.after
  := by
  induction text generalizing found with
  | nil => simp [find?] at h
  | cons c rest ih =>
    simp only [find?] at h
    split at h
    · rename_i token operator hentry
      have hprefix : token.toList.isPrefixOf (c :: rest) = true :=
        List.find?_some (p := fun entry : String × Operator => entry.1.toList.isPrefixOf (c :: rest))
          hentry
      obtain ⟨suffix, hs⟩ := List.isPrefixOf_iff_prefix.1 hprefix
      simp only [Option.some.injEq] at h
      subst h
      simp [← hs, ← String.length_toList]
    · simp only [Option.map_eq_some_iff] at h
      obtain ⟨inner, hinner, rfl⟩ := h
      simp [ih hinner]

/-- The table of the tokens that requests use. -/
def standard : OperatorTable :=
  ofList [
    ("==", .equal), ("!=", .notEqual), ("=in=", .oneOf), ("=out=", .noneOf),
    ("=like=", .like), ("=notlike=", .notLike), ("=nk=", .notLike), ("=!like=", .notLike),
    ("=isnull=", .isNull), ("=na=", .isNull),
    ("=isnotnull=", .isNotNull), ("=notnull=", .isNotNull), ("=nn=", .isNotNull),
    ("=!null=", .isNotNull),
    ("<=", .atMost), (">=", .atLeast), ("=le=", .atMost), ("=ge=", .atLeast),
    ("<", .below), (">", .above), ("=lt=", .below), ("=gt=", .above)]

end OperatorTable

end TableGateway
