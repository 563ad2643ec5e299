/-!
# Tables of a document

A document defines nested tables by headers and by dotted keys. No key may be
defined twice, and a table that is complete may not be reopened. The tables
built so far record how each came about, which decides what may still be added
to it.
-/

namespace AssistiveTree
namespace Toml

/-- A value of a document. Texts, integers and truth values are kept, because
settings have these types. Of any other value only the type is kept. -/
inductive Value
  | string (text : String)
  | integer (value : Int)
  | boolean (value : Bool)
  | float
  | moment
  | array
  | table
  deriving DecidableEq

/-- How a table came about. -/
inductive Origin
  /-- By a header of its own. -/
  | header
  /-- As a parent of a table with a header. -/
  | parent
  /-- By a dotted key. -/
  | dotted
  deriving DecidableEq

/-- What a key of a document stands for. -/
inductive Definition
  | value (value : Value)
  | table (origin : Origin) (entries : List (String × Definition))
  /-- A list of tables, of which only the last can be added to. -/
  | series (last : List (String × Definition))

/-- The definitions of one table, in order. -/
abbrev Section := List (String × Definition)

namespace Section

/-- What a key stands for. -/
def get? (entries : Section) (key : String) : Option Definition :=
  entries.lookup key

/-- Define a key, in place of its earlier definition if it has one. -/
def put (entries : Section) (key : String) (definition : Definition) :
    Section :=
  match entries.get? key with
  | none => entries ++ [(key, definition)]
  | some _ =>
      entries.map fun entry =>
        if entry.1 = key then (key, definition) else entry

/-- Give a value to a key that is reached by dotted keys. Tables on the way are
opened unless they have a header, and the last one has to be a table that
dotted keys made. -/
def assign (value : Value) :
    (path : List String) → String → Section → Option Section
  | [], key, entries =>
      match entries.get? key with
      | none => some (entries.put key (.value value))
      | some _ => none
  | step :: path, key, entries =>
      match entries.get? step with
      | none => do
          let inner ← assign value path key []
          return entries.put step (.table .dotted inner)
      | some (.table .dotted inner) => do
          let inner ← assign value path key inner
          return entries.put step (.table .dotted inner)
      | some (.table .parent inner) =>
          if path = [] then none
          else do
            let inner ← assign value path key inner
            return entries.put step (.table .parent inner)
      | some (.series last) =>
          if path = [] then none
          else do
            let last ← assign value path key last
            return entries.put step (.series last)
      | some (.table .header _) => none
      | some (.value _) => none

/-- Change the table at the end of a path of headers. Missing tables on the way
are made as parents, and a list of tables is entered at its last. -/
def within (change : Section → Option Section) :
    (path : List String) → Section → Option Section
  | [], entries => change entries
  | step :: path, entries =>
      match entries.get? step with
      | none => do
          let inner ← within change path []
          return entries.put step (.table .parent inner)
      | some (.table origin inner) => do
          let inner ← within change path inner
          return entries.put step (.table origin inner)
      | some (.series last) => do
          let last ← within change path last
          return entries.put step (.series last)
      | some (.value _) => none

/-- Open a table by its header. Only a table that was no more than a parent so
far may exist already. -/
def openTable (key : String) (entries : Section) : Option Section :=
  match entries.get? key with
  | none => some (entries.put key (.table .header []))
  | some (.table .parent inner) =>
      some (entries.put key (.table .header inner))
  | some _ => none

/-- Open the next table of a list of tables. -/
def openSeries (key : String) (entries : Section) : Option Section :=
  match entries.get? key with
  | none => some (entries.put key (.series []))
  | some (.series _) => some (entries.put key (.series []))
  | some _ => none

end Section

end Toml
end AssistiveTree
