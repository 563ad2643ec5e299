import AssistiveTree.Toml.Expression

/-!
# Documents

A document is a list of lines. Each assigns a value to a key, opens a table or
holds no more than a comment. Assignments after a header go to its table.
-/

namespace AssistiveTree
namespace Toml

/-- A document read so far: its tables, and the path of the open one. -/
structure Document where
  entries : Section := []
  current : List String := []

namespace Document

/-- Assign a value to a key of the open table. -/
def assign
    (document : Document)
    (path : List String)
    (name : String)
    (value : Value) : Option Document := do
  let entries ←
    Section.within (Section.assign value path name) document.current
      document.entries
  return { document with entries }

/-- Open a table by its header. -/
def openTable (document : Document) (names : List String) :
    Option Document := do
  let name ← names.getLast?
  let entries ←
    Section.within (Section.openTable name) names.dropLast document.entries
  return { entries, current := names }

/-- Open the next table of a list of tables by its header. -/
def openSeries (document : Document) (names : List String) :
    Option Document := do
  let name ← names.getLast?
  let entries ←
    Section.within (Section.openSeries name) names.dropLast document.entries
  return { entries, current := names }

/-- Read what one line says, up to its comment. -/
def readStatement? (document : Document) : Reader Document := fun text =>
  match text with
  | '[' :: '[' :: rest => do
      let (names, rest) ← readKey? nestingLimit rest
      match rest with
      | ']' :: ']' :: rest => return (← document.openSeries names, rest)
      | _ => none
  | '[' :: rest => do
      let (names, rest) ← readKey? nestingLimit rest
      match rest with
      | ']' :: rest => return (← document.openTable names, rest)
      | _ => none
  | _ => do
      let ((path, name), rest) ← readAssignment? text
      let (value, rest) ← readValue? nestingLimit rest
      return (← document.assign path name value, rest)

/-- Whether nothing is left of a line but a comment. -/
def isLineDone : List Char → Bool
  | [] => true
  | '#' :: _ => true
  | '\n' :: _ => true
  | '\r' :: _ => true
  | _ => false

/-- Read one line. -/
def readLine? (document : Document) : Reader Document := fun text =>
  let text := skipSpaces text
  if isLineDone text then
    (readLineEnd? text).map fun rest => (document, rest)
  else do
    let (document, rest) ← document.readStatement? text
    let rest ← readLineEnd? rest
    return (document, rest)

/-- Read at most the given number of lines, up to the end of the text. -/
def readLines? : Nat → Document → List Char → Option Document
  | _, document, [] => some document
  | 0, _, _ :: _ => none
  | bound + 1, document, text => do
      let (document, rest) ← document.readLine? text
      readLines? bound document rest

/-- The text without the byte order mark that it may start with. -/
def dropByteOrderMark : List Char → List Char
  | '\uFEFF' :: rest => rest
  | text => text

/-- The top-level definitions of a document. -/
def parse? (text : String) : Option Section :=
  let characters := dropByteOrderMark text.toList
  (readLines? characters.length {} characters).map (·.entries)

end Document

end Toml
end AssistiveTree
