/-!
# Blanks, comments and line ends

A line ends with a line feed, which a carriage return may precede. Elsewhere a
carriage return is not allowed, and neither is any other control character but
the tab.
-/

namespace AssistiveTree
namespace Toml

/-- Reads a value from the front of a text and returns the rest. -/
abbrev Reader (Value : Type) := List Char → Option (Value × List Char)

/-- Spaces and tabs. -/
def isSpace (character : Char) : Bool := character = ' ' || character = '\t'

/-- Characters other than line ends that may stand in comments and, quotes
apart, in literal strings. -/
def isText (character : Char) : Bool :=
  character = '\t' || (0x20 ≤ character.toNat && character.toNat ≠ 0x7F)

/-- The text after its leading spaces and tabs. -/
def skipSpaces (text : List Char) : List Char := text.dropWhile isSpace

/-- The text after a line feed, with or without a carriage return. -/
def readLineFeed? : List Char → Option (List Char)
  | '\n' :: rest => some rest
  | '\r' :: '\n' :: rest => some rest
  | _ => none

/-- The text after a comment, if it starts with one. -/
def skipComment : List Char → List Char
  | '#' :: rest => rest.dropWhile isText
  | text => text

/-- The text after the end of a line, before which spaces and a comment may
stand. The end of the text ends a line as well. -/
def readLineEnd? (text : List Char) : Option (List Char) :=
  match skipComment (skipSpaces text) with
  | [] => some []
  | character :: rest => readLineFeed? (character :: rest)

/-- The text after spaces, line ends and whole-line or trailing comments. The
flag tells whether the text starts inside a comment. -/
def skipLayout : Bool → List Char → List Char
  | _, [] => []
  | _, '\n' :: rest => skipLayout false rest
  | _, '\r' :: '\n' :: rest => skipLayout false rest
  | false, '#' :: rest => skipLayout true rest
  | inComment, character :: rest =>
      if isSpace character || (inComment && isText character) then
        skipLayout inComment rest
      else character :: rest

end Toml
end AssistiveTree
