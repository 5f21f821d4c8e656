/-!
# Open documents

The texts of the documents that the client has opened, by the text of their
URI. References are never normalised, so two spellings are two documents.
-/

namespace LspGateway.Engine

/-- An open document. -/
structure Document where
  /-- The version that the client gave last. -/
  version : Int
  /-- The whole text. -/
  text : String
  deriving DecidableEq, Repr

/-- The lines of a text: a line feed ends a line, and an empty rest is none. -/
def Document.lineCount (document : Document) : Nat :=
  let chars := document.text.toList
  chars.count '\n' + if chars.getLast?.all (· == '\n') then 0 else 1

/-- The open documents, one for each URI. -/
structure Documents where
  /-- The documents. -/
  entries : List (String × Document)
  deriving Repr

namespace Documents

/-- No documents. -/
def empty : Documents := ⟨[]⟩

/-- The document of a URI. -/
def get? (documents : Documents) (uri : String) : Option Document :=
  documents.entries.lookup uri

/-- Forgets a document. -/
def erase (documents : Documents) (uri : String) : Documents :=
  ⟨documents.entries.filter fun entry => entry.1 != uri⟩

/-- Keeps a document, in place of an earlier one. -/
def insert (documents : Documents) (uri : String) (document : Document) : Documents :=
  ⟨(uri, document) :: (documents.erase uri).entries⟩

/-- How many documents are open. -/
def size (documents : Documents) : Nat :=
  documents.entries.length

/-- What was put in is found. -/
theorem get?_insert (documents : Documents) (uri : String) (document : Document) :
    (documents.insert uri document).get? uri = some document := by
  simp [insert, get?]

end Documents

end LspGateway.Engine
