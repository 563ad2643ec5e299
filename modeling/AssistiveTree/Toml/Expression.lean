import AssistiveTree.Toml.Quoted
import AssistiveTree.Toml.Scalar

/-!
# Keys and values

A key is a dotted list of bare or quoted names. Arrays may span lines and end
with a comma, inline tables may not. Keys have fewer than eighty parts, and
brackets nest less than eighty deep.
-/

namespace AssistiveTree
namespace Toml

/-- Greatest number of parts of a key, and greatest depth of brackets. -/
def nestingLimit : Nat := 79

/-- Characters of a bare name. -/
def isBareChar (character : Char) : Bool :=
  character.isAlphanum || character = '-' || character = '_'

/-- Read one name of a key. -/
def readName? : Reader String := fun text =>
  match text with
  | '"' :: rest =>
      (readBasic? rest).map fun read => (String.ofList read.1, read.2)
  | '\'' :: rest =>
      (readLiteral? rest).map fun read => (String.ofList read.1, read.2)
  | _ =>
      let bare := text.takeWhile isBareChar
      if bare = [] then none
      else some (String.ofList bare, text.dropWhile isBareChar)

/-- Read a key of at most the given number of parts. Spaces around the parts do
not belong to the key. -/
def readKey? : (parts : Nat) → Reader (List String)
  | 0, _ => none
  | parts + 1, text => do
      let (name, rest) ← readName? (skipSpaces text)
      match skipSpaces rest with
      | '.' :: rest =>
          let (names, rest) ← readKey? parts rest
          return (name :: names, rest)
      | rest => return ([name], rest)

/-- Read a key and the sign that separates it from its value. The last part of
the key comes last. -/
def readAssignment? : Reader (List String × String) := fun text => do
  let (names, rest) ← readKey? nestingLimit text
  let name ← names.getLast?
  match rest with
  | '=' :: rest => return ((names.dropLast, name), skipSpaces rest)
  | _ => none

/-- The text after the elements of an array and its closing bracket, given a
reader of elements and a bound on their number. -/
def readElements? (element : Reader Value) : Nat → List Char →
    Option (List Char)
  | 0, _ => none
  | bound + 1, text =>
      match skipLayout false text with
      | ']' :: rest => some rest
      | text => do
          let (_, rest) ← element text
          match skipLayout false rest with
          | ',' :: rest => readElements? element bound rest
          | ']' :: rest => some rest
          | _ => none

/-- The text after the entries of an inline table and its closing brace, given
a reader of values, a bound on the number of entries, and the entries so
far. -/
def readEntries? (value : Reader Value) : Nat → Section → List Char →
    Option (List Char)
  | 0, _, _ => none
  | bound + 1, entries, text => do
      let ((path, name), rest) ← readAssignment? text
      let (read, rest) ← value rest
      let entries ← entries.assign read path name
      match skipSpaces rest with
      | ',' :: rest => readEntries? value bound entries rest
      | '}' :: rest => some rest
      | _ => none

/-- Read an unbracketed value. -/
def readPlain? : Reader Value := fun text =>
  match text with
  | '"' :: _ => (readString? text).map fun read => (.string read.1, read.2)
  | '\'' :: _ => (readString? text).map fun read => (.string read.1, read.2)
  | _ => readScalar? text

/-- Read a value whose brackets nest at most to the given depth. -/
def readValue? : (depth : Nat) → Reader Value
  | 0, text => readPlain? text
  | depth + 1, text =>
      match text with
      | '[' :: rest =>
          (readElements? (readValue? depth) text.length rest).map fun rest =>
            (.array, rest)
      | '{' :: rest =>
          match skipSpaces rest with
          | '}' :: rest => some (.table, rest)
          | _ =>
              (readEntries? (readValue? depth) text.length [] rest).map
                fun rest => (.table, rest)
      | _ => readPlain? text

end Toml
end AssistiveTree
