/-!
Names of files and folders. A path is a text in which `/` separates the names. What ends a path
without adding a name to it, separators and references `.` to the folder itself, does not count when
the last name is looked for.
-/
namespace SmartCollections.Path

/-- Drops, from a path in reverse, what comes after the last name. -/
def trimEnd : List Char → List Char
  | '/' :: rest => if rest.isEmpty then ['/'] else trimEnd rest
  | '.' :: '/' :: rest => trimEnd ('/' :: rest)
  | path => path
  termination_by path => path.length

def backwards (path : String) : List Char := trimEnd path.toList.reverse

/-- The last name, unless it is a reference to a folder or there is none. -/
def name? (path : String) : Option String :=
  let name := String.ofList ((backwards path).takeWhile (· ≠ '/')).reverse
  if name = "" ∨ name = "." ∨ name = ".." then none else some name

/-- What the last name is in, as a text that the last name can be put after. -/
def before (path : String) : String :=
  String.ofList ((backwards path).dropWhile (· ≠ '/')).reverse

/-- The folder that the path leads to an entry of. The root folder is in none. -/
def parent? (path : String) : Option String :=
  if backwards path = ['/'] ∨ path = "" then none
  else some (String.ofList (trimEnd ((backwards path).dropWhile (· ≠ '/'))).reverse)

/-- A name up to its last dot, and what comes after the dot. A dot at the start does not count. -/
def splitName (name : String) : String × Option String :=
  let chars := name.toList.reverse
  match chars.dropWhile (· ≠ '.') with
  | '.' :: stem =>
    if stem.isEmpty then (name, none)
    else (String.ofList stem.reverse, some (String.ofList (chars.takeWhile (· ≠ '.')).reverse))
  | _ => (name, none)

def extension? (path : String) : Option String := (name? path).bind fun name => (splitName name).2

/-- The path with another extension. A path without a last name stays as it is. -/
def withExtension (path extension : String) : String :=
  match name? path with
  | some name => before path ++ (splitName name).1 ++ "." ++ extension
  | none => path

def isAbsolute (path : String) : Bool := path.toList.head? == some '/'

def namesFolder (path : String) : Bool := path.toList.getLast? == some '/'

/-- The path from a folder on. An absolute path stays as it is. -/
def join (folder path : String) : String :=
  if folder.isEmpty || isAbsolute path then path
  else if namesFolder folder then folder ++ path
  else folder ++ "/" ++ path

def split : List Char → List (List Char)
  | [] => [[]]
  | c :: rest =>
    if c = '/' then [] :: split rest
    else match split rest with
      | part :: parts => (c :: part) :: parts
      | [] => [[c]]

/-- The steps that lead to the end of a path. -/
def steps (path : String) : List String :=
  ((split path.toList).filter (· ≠ [])).map String.ofList

end SmartCollections.Path
