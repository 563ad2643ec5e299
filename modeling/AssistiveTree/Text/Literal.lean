import AssistiveTree.Text.Unprintable

/-!
# Texts in quotes

A text in a summary stands in quotes. Quotes, backslashes and unprintable
characters are written with a backslash.
-/

namespace AssistiveTree
namespace Text

/-- A character by its number, in hexadecimal digits between braces. -/
def numericEscape (character : Char) : List Char :=
  ['\\', 'u', '\x7b'] ++ Nat.toDigits 16 character.toNat ++ ['\x7d']

/-- A character inside quotes. -/
def quoteChar (character : Char) : List Char :=
  if character = '"' then ['\\', '"']
  else if character = '\\' then ['\\', '\\']
  else if character = '\t' then ['\\', 't']
  else if character = '\n' then ['\\', 'n']
  else if character = '\r' then ['\\', 'r']
  else if character = '\x00' then ['\\', '0']
  else if isUnprintable character then numericEscape character
  else [character]

/-- A text in quotes. -/
def quote (text : String) : String :=
  String.ofList (['"'] ++ text.toList.flatMap quoteChar ++ ['"'])

end Text
end AssistiveTree
