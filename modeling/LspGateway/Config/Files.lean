import LspGateway.Json.Overlay
import LspGateway.Text.Blank
import LspGateway.Toml.Reader

/-!
# Configuration files

Where configuration files are looked for, and how one is read. A file may name
another one that it extends, and is then laid over that one. How a file is looked up
is left to the caller.
-/

namespace LspGateway.Config

/-! ## Paths -/

/-- Whether a path does not depend on where one is. -/
def isAbsolute (path : String) : Bool := path.toList.head? == some '/'

/-- A path seen from a directory. -/
def joinPath (directory path : String) : String :=
  if isAbsolute path || directory.isEmpty then path
  else if directory.toList.getLast? == some '/' then directory ++ path
  else directory ++ "/" ++ path

/-- The directory that a path lies in. -/
def parentPath (path : String) : String :=
  let reversed := path.toList.reverse
  let name := reversed.takeWhile (· != '/')
  let directory := (reversed.drop name.length).dropWhile (· == '/')
  if directory.isEmpty && isAbsolute path then "/" else String.ofList directory.reverse

/-- The parts of a path between its slashes. -/
def pathParts (path : String) : List String :=
  go [] path.toList
where
  /-- The parts, given the characters of the first one read so far, the last one
  first. -/
  go (read : List Char) : List Char → List String
    | [] => [String.ofList read.reverse]
    | '/' :: rest => String.ofList read.reverse :: go [] rest
    | c :: rest => go (c :: read) rest

/-- What the name at the end of a path ends in after its last dot, in lower case; a dot
in front does not count. -/
def extension (path : String) : String :=
  let name := ((path.toList.reverse.takeWhile (· != '/')).reverse).drop 1
  if name.contains '.' then
    Text.lowerAscii (String.ofList (name.reverse.takeWhile (· != '.')).reverse)
  else ""

/-! ## Looking up a path -/

/-- What is found at a path. -/
inductive Lookup where
  /-- There is nothing. -/
  | absent
  /-- There is something that is not a text, or something that is no directory on the
  way there. -/
  | unreadable
  /-- There is a text. The path is the same for every way to the file. -/
  | text (path text : String)
  deriving DecidableEq, Repr

/-- Files held in memory, and the directory that one is in. -/
structure FileTree where
  /-- The parts of the path of the directory. -/
  current : List String
  /-- The parts of the paths of other directories. -/
  directories : List (List String)
  /-- The parts of the path of every file, and its text. -/
  files : List (List String × String)

namespace FileTree

/-- Whether a path, given by its parts, is that of a directory. -/
def isDirectory (tree : FileTree) (parts : List String) : Bool :=
  (tree.current :: tree.directories).any parts.isPrefixOf ||
    tree.files.any fun (path, _) => parts.isPrefixOf path && parts.length < path.length

/-- Looks up the end of a path, given by the parts that lead there without detours. -/
def lookHere (tree : FileTree) (place : List String) : Lookup :=
  match tree.files.lookup place with
  | some text => .text ("/" ++ "/".intercalate place) text
  | none => if tree.isDirectory place then .unreadable else .absent

/-- The longest name in a directory, in bytes. -/
def maxName : Nat := 255

/-- The longest path, in bytes. -/
def maxPath : Nat := 4095

/-- Walks along the parts of a path; every part but the last one has to lead to a
directory. -/
def walk (tree : FileTree) : List String → List String → Lookup
  | place, [] => tree.lookHere place
  | place, part :: rest =>
    if !tree.isDirectory place then
      if (tree.files.lookup place).isSome then .unreadable else .absent
    else if maxName < part.utf8ByteSize then .unreadable
    else if part == "" || part == "." then walk tree place rest
    else if part == ".." then walk tree place.dropLast rest
    else walk tree (place ++ [part]) rest

/-- Looks up a path. One that is too long, or holds the character that ends paths, leads
nowhere. -/
def look (tree : FileTree) (path : String) : Lookup :=
  if path.isEmpty then .absent
  else if maxPath < path.utf8ByteSize || path.toList.contains '\x00' then .unreadable
  else tree.walk (if isAbsolute path then [] else tree.current) (pathParts path)

/-- The parts of a path that are names. -/
def names (path : String) : List String :=
  (pathParts path).filter fun part => !part.isEmpty

/-- A tree of files below a directory, each given by a plain path from there. -/
def below (directory : String) (files : List (String × String)) : FileTree :=
  ⟨names directory, [], files.map fun (path, text) => (names directory ++ names path, text)⟩

end FileTree

/-! ## Reading -/

/-- What is wrong with a file. -/
inductive FileFault where
  /-- It is not there. -/
  | missing (path : String)
  /-- It cannot be read. -/
  | unreadable (path : String)
  /-- It extends itself. -/
  | circular (path : String)
  /-- It needs the newer edition of the format; how it is at fault in the older one. -/
  | outdated (message : String)
  deriving DecidableEq, Repr

/-- The wording of a fault. -/
def FileFault.message : FileFault → String
  | .missing path => s!"Configuration file error in '{path}': file not found"
  | .unreadable path => s!"Configuration file error in '{path}': file cannot be read"
  | .circular path => s!"Cyclic extends detected: {path}"
  | .outdated message =>
    s!"Failed to merge CLI with configuration: {message} in TOML source string"

/-- The endings of files in formats that are not read. -/
def foreignExtensions : List String := ["json", "json5", "yaml", "yml"]

/-- How many files are followed that extend each other. Files are told apart, so that
more of them than any directory holds are never met without a circle. -/
def maxExtensions : Nat := 1000000

/-- The path of the file that a file extends, if it extends one. -/
def extended (path : String) (json : Json) : Except FileFault (Option String) :=
  match json.get? "extends" with
  | none => .ok none
  | some (.string base) =>
    if base.isEmpty then .error (.unreadable path)
    else .ok (some (joinPath (parentPath path) base))
  | some _ => .error (.unreadable path)

/-- Reads the settings in the text of a file, without those of the file that it
extends. -/
def readText (path text : String) : Except FileFault Json :=
  if foreignExtensions.contains (extension path) then .error (.unreadable path)
  else match Toml.read text with
    | .entries json => .ok json
    | .outdated fault => .error (.outdated (fault.message text))
    | .nothing => .error (.unreadable path)

variable {m : Type → Type} [Monad m]

/-- Reads a file and those that it extends, given its text and the paths of the files
on the way to it. The first argument bounds the way. -/
def readFile (look : String → m Lookup) :
    Nat → List String → String → String → m (Except FileFault Json)
  | 0, _, path, _ => pure (.error (.circular path))
  | fuel + 1, visited, path, text =>
    match readText path text with
    | .error fault => pure (.error fault)
    | .ok json =>
      match extended path json with
      | .error fault => pure (.error fault)
      | .ok none => pure (.ok json)
      | .ok (some base) => do
        match ← look base with
        | .absent => pure (.error (.missing base))
        | .unreadable => pure (.error (.unreadable base))
        | .text basePath baseText =>
          if (path :: visited).contains basePath then pure (.error (.circular basePath))
          else
            let below ← readFile look fuel (path :: visited) basePath baseText
            pure (below.map fun below => below.overlay json)

/-! ## Looking for files -/

/-- The name of the variable that names a file. -/
def pathVariable : String := "COURIER_CONFIG_PATH"

/-- The name of a configuration file in a directory of its own. -/
def fileName : String := "courier/config.toml"

/-- The name of a configuration file among others. -/
def dotFileName : String := ".courier.toml"

/-- The files to look for in a directory for configuration files. -/
def inDirectory (directory : String) : List String :=
  [joinPath directory fileName, joinPath directory dotFileName]

/-- The parts of a list of directories. -/
def directories (list : String) : List String :=
  (go [] list.toList).filter fun directory => !directory.isEmpty
where
  /-- The directories, given the characters of the first one read so far, the last one
  first. -/
  go (read : List Char) : List Char → List String
    | [] => [String.ofList read.reverse]
    | ':' :: rest => String.ofList read.reverse :: go [] rest
    | c :: rest => go (c :: read) rest

/-- The names of variables for directories of the user for the files of programs, the
first ones looked at before the directories that all users share. -/
def ownDirectories : List String × List String := (["XDG_CONFIG_HOME"], ["APPDATA", "LOCALAPPDATA"])

/-- The directory of the user. -/
def homeDirectory? (environment : List (String × String)) : Option String :=
  (environment.lookup "HOME").or (environment.lookup "USERPROFILE")

/-- The directories that all users share. -/
def sharedDirectories (environment : List (String × String)) : List String :=
  match directories ((environment.lookup "XDG_CONFIG_DIRS").getD "") with
  | [] => ["/etc/xdg"]
  | shared => shared

/-- The files that are looked for if no flag names one, in order and each once. An
empty variable counts as the directory that one is in, but names no file. -/
def usualFiles (environment : List (String × String)) (current : String) : List String :=
  let ofVariables (names : List String) := names.filterMap fun name => environment.lookup name
  let home := (homeDirectory? environment).toList
  (((environment.lookup pathVariable).toList.filter fun path => !path.isEmpty) ++
    (ofVariables ownDirectories.1 ++ sharedDirectories environment ++
      ofVariables ownDirectories.2 ++
      home.map (joinPath · ".config")).flatMap inDirectory ++
    (home ++ [current]).map (joinPath · dotFileName)).eraseDups

/-- What the search for a file came to. -/
inductive Found where
  /-- No file can be read. This is wrong with those that are there. -/
  | nothing (faults : List FileFault)
  /-- The settings in the first file that can be read. -/
  | settings (json : Json)
  /-- The first file that can be read needs the newer edition of the format. -/
  | outdated (message : String)

/-- Looks for the first file that is there and can be read, given what is wrong with
the files before, the last fault first. -/
def firstFile (look : String → m Lookup) (faults : List FileFault) :
    List String → m Found
  | [] => pure (.nothing faults.reverse)
  | path :: rest => do
    match ← look path with
    | .absent => firstFile look faults rest
    | .unreadable => firstFile look (.unreadable path :: faults) rest
    | .text path text =>
      match ← readFile look maxExtensions [] path text with
      | .ok json => pure (.settings json)
      | .error (.outdated message) => pure (.outdated message)
      | .error fault => firstFile look (fault :: faults) rest

/-- Looks for settings in files; yields them with all that is wrong. What is wrong with a
file that a flag names always counts; what is wrong with others counts if there is none
that can be read. -/
def searchFiles (look : String → m Lookup) (named : Option String) (usual : List String) :
    m (Option Json × List FileFault) := do
  let first ← match named with
    | none => pure (.nothing [])
    | some path =>
      match ← look path with
      | .absent => pure (.nothing [.missing path])
      | _ => firstFile look [] [path]
  match first with
  | .settings json => pure (some json, [])
  | .outdated message => pure (none, [.outdated message])
  | .nothing faults =>
    match ← firstFile look [] usual with
    | .settings json => pure (some json, faults)
    | .outdated message => pure (none, faults ++ [.outdated message])
    | .nothing others => pure (none, faults ++ others)

end LspGateway.Config
