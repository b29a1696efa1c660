import TwinGraph.Number.Binary64

/-!
# TOML values and how tables grow

A document spreads a table over many lines, so each table remembers how it came to be: that alone
decides which later lines may add to it.  A table is written in full at one place, or declared once
by a header, or grown by dotted keys, and never two of these.
-/

namespace TwinGraph
namespace Toml

/-- How a table came to be. -/
inductive TableOrigin where
  /-- Written in braces, and complete with its closing brace. -/
  | inline
  /-- Declared by a header of its own. -/
  | declared
  /-- On the way to a table that a header declares. -/
  | implied
  /-- On the way to a value that a dotted key names. -/
  | dotted
  deriving DecidableEq

/-- A value of a document. -/
inductive Value where
  | string (value : String)
  | integer (value : Int)
  | float (value : Binary64)
  | boolean (value : Bool)
  /-- A date, a time or both, by its text. -/
  | dateTime (text : List Char)
  /-- An array in brackets. -/
  | array (elements : List Value)
  | table (origin : TableOrigin) (entries : List (String × Value))
  /-- Tables that repeated headers declare.  The latest one is still growing. -/
  | tables (earlier : List (List (String × Value))) (latest : List (String × Value))

/-- The entries of a table in the order in which their keys came up. -/
abbrev Entries := List (String × Value)

namespace Entries

/-- The value of a key. -/
def get? (entries : Entries) (key : String) : Option Value :=
  List.lookup key entries

/-- The entries with another value for a key that has one. -/
def replace (entries : Entries) (key : String) (value : Value) : Entries :=
  entries.map fun entry => if entry.1 = key then (key, value) else entry

/-- The entries with a new key, which may have no value yet. -/
def insertNew? (entries : Entries) (key : String) (value : Value) : Option Entries :=
  match entries.get? key with
  | some _ => none
  | none => some (entries ++ [(key, value)])

end Entries

/-- What kind of line leads to a table. -/
inductive Route where
  /-- A header, which names the tables from the root on. -/
  | header
  /-- A dotted key, which names the tables from the current one on. -/
  | dottedKey
  deriving DecidableEq

namespace Route

/-- How a table comes to be that stands on the way and is new. -/
def newOrigin : Route → TableOrigin
  | header => .implied
  | dottedKey => .dotted

/-- Whether a route may lead into a table.  A dotted key may pass a table that no header declared,
but it ends only in a table of dotted keys. -/
def mayEnter (route : Route) (last : Bool) (origin : TableOrigin) : Bool :=
  match route, origin with
  | _, .inline => false
  | header, _ => true
  | dottedKey, .dotted => true
  | dottedKey, .implied => !last
  | dottedKey, .declared => false

end Route

namespace Entries

/-- The entries with a change made to the table at the end of a path.  Tables on the path that do
not exist yet come to be. -/
def update? (route : Route) (change : Entries → Option Entries) :
    List String → Entries → Option Entries
  | [], entries => change entries
  | key :: path, entries =>
    match entries.get? key with
    | none => do
      let inner ← update? route change path []
      some (entries ++ [(key, .table route.newOrigin inner)])
    | some (.table origin inner) =>
      if route.mayEnter path.isEmpty origin then do
        let inner ← update? route change path inner
        some (entries.replace key (.table origin inner))
      else none
    | some (.tables earlier latest) =>
      if route.mayEnter path.isEmpty .implied then do
        let latest ← update? route change path latest
        some (entries.replace key (.tables earlier latest))
      else none
    | some _ => none

/-- The entries with a value for a dotted key. -/
def assign? (path : List String) (key : String) (value : Value) (entries : Entries) :
    Option Entries :=
  entries.update? .dottedKey (·.insertNew? key value) path

/-- The entries with a table that a header declares. -/
def declare? (key : String) (entries : Entries) : Option Entries :=
  match entries.get? key with
  | none => some (entries ++ [(key, .table .declared [])])
  | some (.table .implied inner) => some (entries.replace key (.table .declared inner))
  | some _ => none

/-- The entries with one more table of the tables that repeated headers declare. -/
def declareNext? (key : String) (entries : Entries) : Option Entries :=
  match entries.get? key with
  | none => some (entries ++ [(key, .tables [] [])])
  | some (.tables earlier latest) => some (entries.replace key (.tables (earlier ++ [latest]) []))
  | some _ => none

end Entries

end Toml
end TwinGraph
