import IndexBasket.Action
import IndexBasket.Files.Error
import IndexBasket.Files.Path

namespace IndexBasket

/-- A disk in memory. Places are the names from the root on, and relative paths
start in the working directory. -/
structure Files where
  working : List String
  directories : List (List String)
  texts : List (List String × String) := []
deriving DecidableEq

namespace Files

inductive Kind
  | directory
  | text (content : String)
deriving DecidableEq

def empty : Files := { working := ["work"], directories := [[], ["work"]] }

def at? (files : Files) (place : List String) : Option Kind :=
  if files.directories.contains place then some .directory
  else (files.texts.lookup place).map .text

/-- The place that a name leads to from another place, which has to be a directory. -/
def enter (files : Files) (place : List String) (name : String) : Except FileError (List String) :=
  match files.at? place with
  | none => .error .notFound
  | some (.text _) => .error .notDirectory
  | some .directory =>
    if name = "" ∨ name = "." then .ok place
    else if name = ".." then .ok place.dropLast
    else if 255 < name.utf8ByteSize then .error .nameTooLong
    else .ok (place ++ [name])

/-- Where a list of names begins: an empty first name stands for the root. -/
def origin (files : Files) (names : List String) : List String :=
  if names.head? = some "" then [] else files.working

def resolve (files : Files) (names : List String) : Except FileError (List String) :=
  names.foldlM files.enter (files.origin names)

/-- What is wrong with a path wherever it leads. -/
def checkPath (path : String) : Except FileError Unit := do
  if path.toList.contains '\x00' then throw .zeroByte
  if path = "" then throw .notFound
  if 4095 < path.utf8ByteSize then throw .nameTooLong

def readText (files : Files) (path : String) : Except FileError String := do
  checkPath path
  match files.at? (← files.resolve (Path.names path)) with
  | none => throw .notFound
  | some .directory => throw .isDirectory
  | some (.text content) => return content

/-- Makes one directory. It may be there already. -/
def makeDirectory (names : List String) : Action FileError Files Unit := do
  let files ← get
  Action.ofExcept (checkPath (String.intercalate "/" names))
  let place ← Action.ofExcept (files.resolve names)
  match files.at? place with
  | some .directory => pure ()
  | some (.text _) => throw .alreadyExists
  | none => set { files with directories := files.directories ++ [place] }

/-- Makes a directory after those above it, which are only made if it cannot be
made without. The names come from the last to the first. -/
def makeDirectories : List String → Action FileError Files Unit
  | [] => pure ()
  | [""] => pure ()
  | name :: above => fun files =>
    match makeDirectory (name :: above).reverse files with
    | .error .notFound files =>
      (do
        makeDirectories above
        makeDirectory (name :: above).reverse : Action FileError Files Unit) files
    | outcome => outcome

/-- The place of a file that is to be written. A path that ends in a slash names
a directory. -/
def placeToWrite (files : Files) (path : String) : Except FileError (List String) := do
  checkPath path
  let names := Path.names path
  if names.getLast? = some "" then
    let place ← files.resolve ((names.reverse.dropWhile (· = "")).drop 1).reverse
    let _ ← files.enter place "."
    throw .isDirectory
  else
    let place ← files.resolve names
    if files.at? place = some .directory then throw .isDirectory
    return place

/-- Opens a file for writing, and makes it and its directories if they are missing. -/
def openLog (path : String) : Action FileError Files Unit := do
  if let some names := Path.parent? path then
    makeDirectories names.reverse
  let files ← get
  let place ← Action.ofExcept (files.placeToWrite path)
  if files.at? place = none then
    set { files with texts := files.texts ++ [(place, "")] }

/-- Adds lines to the text at a place. -/
def extend (files : Files) (place lines : List String) : Files :=
  { files with texts := files.texts.map fun entry =>
      if entry.1 = place then (place, entry.2 ++ String.join (lines.map (· ++ "\n"))) else entry }

def append (path line : String) : Action FileError Files Unit := do
  let files ← get
  let place ← Action.ofExcept (files.placeToWrite path)
  set (files.extend place [line])

def withText (files : Files) (path content : String) : Files :=
  match openLog path files with
  | .error _ files => files
  | .ok () files =>
    match files.placeToWrite path with
    | .error _ => files
    | .ok place => { files with texts := files.texts.map fun entry =>
        if entry.1 = place then (place, content) else entry }

end Files

end IndexBasket
