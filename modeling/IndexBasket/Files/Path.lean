namespace IndexBasket

namespace Path

def isAbsolute (path : String) : Bool := path.toList.head? = some '/'

/-- A file in a directory. An absolute file stands for itself. -/
def join (directory file : String) : String :=
  if isAbsolute file then file
  else if directory = "" ∨ directory.toList.getLast? = some '/' then directory ++ file
  else directory ++ "/" ++ file

def names (path : String) : List String := (path.toList.splitOn '/').map String.ofList

/-- The names that lead to a file. A dot stands for nothing, unless the path
begins with it. -/
def components (path : String) : List String :=
  match names path with
  | "." :: rest => "." :: rest.filter fun name => name ≠ "" && name ≠ "."
  | all => all.filter fun name => name ≠ "" && name ≠ "."

/-- The directory of a file, by its components; an absolute path begins with an
empty name. Neither the root nor the empty path has one. -/
def parent? (path : String) : Option (List String) :=
  match components path with
  | [] => none
  | names => some ((if isAbsolute path then [""] else []) ++ names.dropLast)

end Path

end IndexBasket
