import LspGateway.Json.Basic

/-!
# Tables

A document builds its tables bit by bit, and every table may be defined once: by
its own header, or by dotted keys under one header. A header may pass through
tables that exist in any way, and it may define a table that only longer headers
have mentioned. Everything a document says twice is refused.
-/

namespace LspGateway.Toml

/-- How a table came to be. -/
inductive Origin where
  /-- By its own header. -/
  | header
  /-- By the header of a table inside it. -/
  | mentioned
  /-- By a dotted key. -/
  | dotted
  deriving DecidableEq, Repr

/-- What stands under a key. -/
inductive Node where
  /-- A value that is complete. -/
  | value (value : Json)
  /-- A table. -/
  | table (origin : Origin) (entries : List (String × Node))
  /-- The tables of an array, the last one first. -/
  | tables (latest : List (String × Node)) (earlier : List (List (String × Node)))

/-- The entries of a table. -/
abbrev Entries := List (String × Node)

namespace Entries

/-- Puts something under a key, in place of what is there. -/
def put (entries : Entries) (key : String) (node : Node) : Entries :=
  entries.filter (fun entry => entry.1 != key) ++ [(key, node)]

/-- Gives a value to a dotted key. -/
def assign? (entries : Entries) : List String → Json → Option Entries
  | [], _ => none
  | [key], value =>
    match entries.lookup key with
    | none => some (entries.put key (.value value))
    | some _ => none
  | key :: path, value =>
    match entries.lookup key with
    | none => (assign? [] path value).map fun inner => entries.put key (.table .dotted inner)
    | some (.table .header _) | some (.value _) | some (.tables _ _) => none
    | some (.table origin inner) =>
      (assign? inner path value).map fun inner => entries.put key (.table origin inner)

/-- Changes the table at the end of the path of a header; tables that are missing on
the way count as mentioned from then on. -/
def within? (change : Entries → Option Entries) (entries : Entries) :
    List String → Option Entries
  | [] => change entries
  | key :: path =>
    match entries.lookup key with
    | none => (within? change [] path).map fun inner => entries.put key (.table .mentioned inner)
    | some (.value _) => none
    | some (.table origin inner) =>
      (within? change inner path).map fun inner => entries.put key (.table origin inner)
    | some (.tables latest earlier) =>
      (within? change latest path).map fun latest => entries.put key (.tables latest earlier)

/-- Defines the table of a key by its header. -/
def define? (key : String) (entries : Entries) : Option Entries :=
  match entries.lookup key with
  | none => some (entries.put key (.table .header []))
  | some (.table .mentioned inner) => some (entries.put key (.table .header inner))
  | some _ => none

/-- Adds a table to the array of a key. -/
def extend? (key : String) (entries : Entries) : Option Entries :=
  match entries.lookup key with
  | none => some (entries.put key (.tables [] []))
  | some (.tables latest earlier) => some (entries.put key (.tables [] (latest :: earlier)))
  | some _ => none

/-- A key that has a value is not given another one. -/
theorem assign?_taken (entries : Entries) (key : String) (value : Json) {node : Node}
    (h : entries.lookup key = some node) : entries.assign? [key] value = none := by
  simp [assign?, h]

end Entries

mutual

/-- What stands under a key as a value. -/
def Node.toJson : Node → Json
  | .value value => value
  | .table _ entries => .ofPairs (entriesToPairs entries)
  | .tables latest earlier =>
    .array ((tablesToJson earlier).reverse ++ [.ofPairs (entriesToPairs latest)])

/-- The entries of a table as members. -/
def entriesToPairs : List (String × Node) → List (String × Json)
  | [] => []
  | (key, node) :: rest => (key, node.toJson) :: entriesToPairs rest

/-- The tables of an array as values. -/
def tablesToJson : List (List (String × Node)) → List Json
  | [] => []
  | entries :: rest => .ofPairs (entriesToPairs entries) :: tablesToJson rest

end

/-- A whole document as a value. -/
def Entries.toJson (entries : Entries) : Json := .ofPairs (entriesToPairs entries)

end LspGateway.Toml
