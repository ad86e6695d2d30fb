import StageRelay.Text.Unprintable

/-!
# Quoted text in messages

A message that shows a text puts it between double quotes. A quote and a
backslash inside get a backslash before them, the common controls their short
names, and any other character without a visible form its code in braces.
-/

namespace StageRelay.Text

/-- A code in lower-case hexadecimal, between braces. -/
def braced (n : Nat) : List Char := '{' :: (Nat.toDigits 16 n ++ ['}'])

/-- How one character is shown inside quotes. -/
def quotedChar (c : Char) : List Char :=
  if c = '"' then ['\\', '"']
  else if c = '\\' then ['\\', '\\']
  else if c = '\t' then ['\\', 't']
  else if c = '\n' then ['\\', 'n']
  else if c = '\r' then ['\\', 'r']
  else if c.toNat = 0 then ['\\', '0']
  else if isUnprintable c then '\\' :: 'u' :: braced c.toNat
  else [c]

def quoted (s : String) : String :=
  String.ofList ('"' :: (s.toList.flatMap quotedChar ++ ['"']))

end StageRelay.Text
