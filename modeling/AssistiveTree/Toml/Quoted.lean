import AssistiveTree.Toml.Layout

/-!
# Quoted strings

A string is basic, with escapes, or literal, without. Either form can span
lines when its quote is tripled. The readers below start just after the opening
quote and return the text of the string.
-/

namespace AssistiveTree
namespace Toml

/-- The value of a hexadecimal digit. -/
def hexDigit? (character : Char) : Option Nat :=
  if character.isDigit then some (character.toNat - '0'.toNat)
  else if 'a' ≤ character ∧ character ≤ 'f' then
    some (character.toNat - 'a'.toNat + 10)
  else if 'A' ≤ character ∧ character ≤ 'F' then
    some (character.toNat - 'A'.toNat + 10)
  else none

/-- The value of hexadecimal digits. -/
def hexValue? (digits : List Char) : Option Nat :=
  digits.foldl
    (fun value digit => do
      let high ← value
      let low ← hexDigit? digit
      return 16 * high + low)
    (some 0)

/-- The character with a code point given in hexadecimal digits. Surrogates
have none. -/
def codePoint? (digits : List Char) : Option Char := do
  let value ← hexValue? digits
  if value.isValidChar then return Char.ofNat value else none

/-- The character for which a letter stands after a backslash. -/
def escape? : Char → Option Char
  | 'b' => some '\x08'
  | 't' => some '\t'
  | 'n' => some '\n'
  | 'f' => some '\x0C'
  | 'r' => some '\r'
  | '"' => some '"'
  | '\\' => some '\\'
  | _ => none

/-- Put a character in front of the text that was read. -/
def push? (character : Option Char) :
    Option (List Char × List Char) → Option (List Char × List Char)
  | some (text, rest) => character.map fun first => (first :: text, rest)
  | none => none

/-- Read a basic string. -/
def readBasic? : Reader (List Char)
  | [] => none
  | '"' :: rest => some ([], rest)
  | '\\' :: 'u' :: a :: b :: c :: d :: rest =>
      push? (codePoint? [a, b, c, d]) (readBasic? rest)
  | '\\' :: 'U' :: a :: b :: c :: d :: e :: f :: g :: h :: rest =>
      push? (codePoint? [a, b, c, d, e, f, g, h]) (readBasic? rest)
  | '\\' :: letter :: rest => push? (escape? letter) (readBasic? rest)
  | character :: rest =>
      if isText character && character ≠ '\\' then
        push? (some character) (readBasic? rest)
      else none

/-- Read a literal string. -/
def readLiteral? : Reader (List Char)
  | [] => none
  | '\'' :: rest => some ([], rest)
  | character :: rest =>
      if isText character then push? (some character) (readLiteral? rest)
      else none

/-- The text without a line end at its front. -/
def dropLineFeed (text : List Char) : List Char :=
  (readLineFeed? text).getD text

/-- Whether only spaces stand before the next line end. -/
def endsLine (text : List Char) : Bool :=
  (readLineFeed? (skipSpaces text)).isSome

/-- Read the body of a basic string that may span lines. A backslash at the
end of a line drops the line end and the blanks and line ends that follow, and
the flag tells whether such blanks are being dropped. Before the closing
quotes, one or two quotes still belong to the text. -/
def readLongBasicFrom? : Bool → Reader (List Char)
  | _, [] => none
  | _, '"' :: '"' :: '"' :: '"' :: '"' :: rest => some (['"', '"'], rest)
  | _, '"' :: '"' :: '"' :: '"' :: rest => some (['"'], rest)
  | _, '"' :: '"' :: '"' :: rest => some ([], rest)
  | _, '\\' :: 'u' :: a :: b :: c :: d :: rest =>
      push? (codePoint? [a, b, c, d]) (readLongBasicFrom? false rest)
  | _, '\\' :: 'U' :: a :: b :: c :: d :: e :: f :: g :: h :: rest =>
      push? (codePoint? [a, b, c, d, e, f, g, h])
        (readLongBasicFrom? false rest)
  | dropping, '\r' :: '\n' :: rest =>
      if dropping then readLongBasicFrom? true rest
      else push? (some '\n') (readLongBasicFrom? false rest)
  | dropping, '\n' :: rest =>
      if dropping then readLongBasicFrom? true rest
      else push? (some '\n') (readLongBasicFrom? false rest)
  | _, '\\' :: letter :: rest =>
      if endsLine (letter :: rest) then readLongBasicFrom? true (letter :: rest)
      else push? (escape? letter) (readLongBasicFrom? false rest)
  | dropping, character :: rest =>
      if dropping && isSpace character then readLongBasicFrom? true rest
      else if isText character && character ≠ '\\' then
        push? (some character) (readLongBasicFrom? false rest)
      else none

/-- Read a basic string that may span lines. A line end right after the opening
quotes does not belong to the text. -/
def readLongBasic? : Reader (List Char) := fun text =>
  readLongBasicFrom? false (dropLineFeed text)

/-- Read the body of a literal string that may span lines. -/
def readLongLiteralFrom? : Reader (List Char)
  | [] => none
  | '\'' :: '\'' :: '\'' :: '\'' :: '\'' :: rest => some (['\'', '\''], rest)
  | '\'' :: '\'' :: '\'' :: '\'' :: rest => some (['\''], rest)
  | '\'' :: '\'' :: '\'' :: rest => some ([], rest)
  | '\r' :: '\n' :: rest => push? (some '\n') (readLongLiteralFrom? rest)
  | character :: rest =>
      if isText character || character = '\n' then
        push? (some character) (readLongLiteralFrom? rest)
      else none

/-- Read a literal string that may span lines. A line end right after the
opening quotes does not belong to the text. -/
def readLongLiteral? : Reader (List Char) := fun text =>
  readLongLiteralFrom? (dropLineFeed text)

/-- Read a string in any of its forms, from its opening quote on. -/
def readString? : Reader String := fun text =>
  let read : Option (List Char × List Char) :=
    match text with
    | '"' :: '"' :: '"' :: rest => readLongBasic? rest
    | '"' :: rest => readBasic? rest
    | '\'' :: '\'' :: '\'' :: rest => readLongLiteral? rest
    | '\'' :: rest => readLiteral? rest
    | _ => none
  read.map fun result => (String.ofList result.1, result.2)

end Toml
end AssistiveTree
