import WalletGate.Text.Printable
/-!
# Quoted text in messages

A message quotes a text between double quotes. Quote, backslash, NUL, tab and the two line ends have
escapes of one letter; any other character that does not show is written as `\u` with its code point
in braces.
-/

namespace WalletGate.Text

/-- A character between the quotes of a message. -/
def quotedChar (c : Char) : List Char :=
  if c = '"' then ['\\', '"']
  else if c = '\\' then ['\\', '\\']
  else if c = '\n' then ['\\', 'n']
  else if c = '\r' then ['\\', 'r']
  else if c = '\t' then ['\\', 't']
  else if c.toNat = 0 then ['\\', '0']
  else if isPlain c then [c]
  else '\\' :: 'u' :: '{' :: digits 16 c.toNat ++ ['}']

/-- A text as a message quotes it. -/
def quotedText (s : String) : String :=
  String.ofList ('"' :: s.toList.flatMap quotedChar ++ ['"'])

end WalletGate.Text
