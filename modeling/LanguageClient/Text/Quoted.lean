import LanguageClient.Text.Printable

/-!
Quoted texts for messages: double quotes around the text, a backslash before a quote or a
backslash, letters for the usual control characters, and the code point in hexadecimal for
characters that are not shown or that combine with the one before.
-/
namespace LanguageClient.Text

def quotedChar (c : Char) : List Char :=
  if c.toNat = 0 then ['\\', '0']
  else if c = '\t' then ['\\', 't']
  else if c = '\r' then ['\\', 'r']
  else if c = '\n' then ['\\', 'n']
  else if c = '"' then ['\\', '"']
  else if c = '\\' then ['\\', '\\']
  else if isCombining c || isHidden c then
    ['\\', 'u', '\x7b'] ++ Nat.toDigits 16 c.toNat ++ ['\x7d']
  else [c]

def quoted (s : String) : String :=
  String.ofList ('"' :: (s.toList.flatMap quotedChar ++ ['"']))

end LanguageClient.Text
