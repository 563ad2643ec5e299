/-!
# Written strings

A string is written in the first of these forms that fits: basic, literal,
basic over several lines, literal over several lines. Where none fits without
escapes, it is basic with escapes, over several lines if it has a line feed.
-/

namespace AssistiveTree
namespace Toml

/-- Control characters. -/
def isControl (character : Char) : Bool :=
  character.toNat ≤ 0x1F || character.toNat = 0x7F

/-- Length of the longest run of a character, given the length of the run that
the text continues. -/
def longestRunFrom (character : Char) : Nat → List Char → Nat
  | run, [] => run
  | run, first :: rest =>
      if first = character then longestRunFrom character (run + 1) rest
      else max run (longestRunFrom character 0 rest)

/-- Length of the longest run of a character. -/
def longestRun (character : Char) (text : List Char) : Nat :=
  longestRunFrom character 0 text

/-- The ways to write a string. -/
inductive StringForm
  | basic
  | literal
  | longBasic
  | longLiteral
  deriving DecidableEq

/-- The form in which a string is written. -/
def StringForm.of (text : List Char) : StringForm :=
  let controls := text.any fun character =>
    isControl character && character ≠ '\t' && character ≠ '\n'
  let backslash := text.any fun character => character = '\\'
  let lines := text.any fun character => character = '\n'
  let quotes := longestRun '"' text
  let apostrophes := longestRun '\'' text
  if !controls && !backslash && quotes = 0 && !lines then .basic
  else if !controls && apostrophes = 0 && !lines then .literal
  else if !controls && !backslash && quotes ≤ 2 then .longBasic
  else if !controls && apostrophes ≤ 2 then .longLiteral
  else if lines then .longBasic
  else .basic

/-- A hexadecimal digit. -/
def hexDigit (value : Nat) : Char := (Nat.digitChar value).toUpper

/-- A character of a basic string: with an escape if it is a control character
or a backslash, and as it is otherwise. -/
def writeChar (character : Char) : List Char :=
  if character = '\x08' then ['\\', 'b']
  else if character = '\t' then ['\\', 't']
  else if character = '\n' then ['\\', 'n']
  else if character = '\x0C' then ['\\', 'f']
  else if character = '\r' then ['\\', 'r']
  else if character = '\\' then ['\\', '\\']
  else if isControl character then
    ['\\', 'u', '0', '0', hexDigit (character.toNat / 16),
      hexDigit (character.toNat % 16)]
  else [character]

/-- The body of a basic string on one line. -/
def writeBasic : List Char → List Char
  | [] => []
  | '"' :: rest => '\\' :: '"' :: writeBasic rest
  | character :: rest => writeChar character ++ writeBasic rest

/-- The body of a basic string that may span lines, given how many quotes stand
right before it. A quote that would be the third in a row is escaped. -/
def writeLongBasic : Nat → List Char → List Char
  | _, [] => []
  | quotes, '"' :: rest =>
      if quotes = 2 then '\\' :: '"' :: writeLongBasic 0 rest
      else '"' :: writeLongBasic (quotes + 1) rest
  | _, '\n' :: rest => '\n' :: writeLongBasic 0 rest
  | _, character :: rest => writeChar character ++ writeLongBasic 0 rest

/-- The line feed after the opening quotes of a string with line feeds, which
does not belong to the text. -/
def openingLineFeed (text : List Char) : List Char :=
  if text.any fun character => character = '\n' then ['\n'] else []

/-- A string in a given form. -/
def StringForm.write (text : List Char) : StringForm → List Char
  | .basic => ['"'] ++ writeBasic text ++ ['"']
  | .literal => ['\''] ++ text ++ ['\'']
  | .longBasic =>
      ['"', '"', '"'] ++ openingLineFeed text ++ writeLongBasic 0 text ++
        ['"', '"', '"']
  | .longLiteral =>
      ['\'', '\'', '\''] ++ openingLineFeed text ++ text ++
        ['\'', '\'', '\'']

/-- A string in the form that fits it. -/
def writeString (text : List Char) : List Char :=
  (StringForm.of text).write text

end Toml
end AssistiveTree
