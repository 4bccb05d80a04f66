import StarPlan.Text.Hidden

/-!
# Quoted text

A text as it is shown inside a message: between double quotes, with an escape for the quote,
the backslash, the usual control characters and everything else that cannot be shown by
itself.
-/

namespace StarPlan.Text

/-- A character inside a quoted text. -/
def quoteChar (c : Char) : List Char :=
  if c = '"' then ['\\', '"']
  else if c = '\\' then ['\\', '\\']
  else if c = '\n' then ['\\', 'n']
  else if c = '\r' then ['\\', 'r']
  else if c = '\t' then ['\\', 't']
  else if c.toNat = 0 then ['\\', '0']
  else if isHidden c then ['\\', 'u', '{'] ++ Nat.toDigits 16 c.toNat ++ ['}']
  else [c]

/-- A text between double quotes. -/
def quoted (s : String) : String :=
  String.ofList ('"' :: (s.toList.flatMap quoteChar ++ ['"']))

end StarPlan.Text
