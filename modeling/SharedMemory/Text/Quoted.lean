import SharedMemory.Text.Hex
import SharedMemory.Text.Printable
/-!
# Quoted texts

A text in double quotes, as messages cite what they found. Quotes, backslashes and line ends are
escaped by a backslash; what would not show by itself is given by its number in braces.
-/
namespace SharedMemory.Text

/-- A character by its number. -/
def numbered (c : Char) : List Char := "\\u\x7b".toList ++ Hex.digits c.toNat ++ ['}']

def quotedChar (c : Char) : List Char :=
  if c = '"' then "\\\"".toList
  else if c = '\\' then "\\\\".toList
  else if c = '\n' then "\\n".toList
  else if c = '\r' then "\\r".toList
  else if c = '\t' then "\\t".toList
  else if c.toNat = 0 then "\\0".toList
  else if isExtender c ∨ ¬ isPrintable c then numbered c
  else [c]

def quoted (s : String) : String :=
  String.ofList ('"' :: s.toList.flatMap quotedChar ++ ['"'])

end SharedMemory.Text
