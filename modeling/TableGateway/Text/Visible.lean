import TableGateway.Text.Invisible

/-!
# Visible strings

A string is shown between quotes in a way that can be read off: quotes, backslashes and characters that
leave no mark of their own are escaped. In the path of a file an apostrophe is escaped as well.
-/

namespace TableGateway.Text

/-- The hexadecimal digits of a number. -/
def hexDigits (n : Nat) : List Char :=
  Nat.toDigits 16 n

/-- A character of a visible string. -/
def visibleChar (c : Char) : List Char :=
  if c = '"' then ['\\', '"']
  else if c = '\\' then ['\\', '\\']
  else if c = '\n' then ['\\', 'n']
  else if c = '\r' then ['\\', 'r']
  else if c = '\t' then ['\\', 't']
  else if c = '\x00' then ['\\', '0']
  else if isInvisible c then ['\\', 'u', '\x7b'] ++ hexDigits c.toNat ++ ['\x7d']
  else [c]

/-- A character of a visible path. -/
def visiblePathChar (c : Char) : List Char :=
  if c = '\'' then ['\\', '\''] else visibleChar c

/-- A string between quotes, with every character visible. -/
def visible (s : String) : String :=
  String.ofList ('"' :: (s.toList.flatMap visibleChar ++ ['"']))

/-- The path of a file between quotes, with every character visible. -/
def visiblePath (path : String) : String :=
  String.ofList ('"' :: (path.toList.flatMap visiblePathChar ++ ['"']))

end TableGateway.Text
