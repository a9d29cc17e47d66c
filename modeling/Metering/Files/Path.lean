/-!
# Paths

A path is a text of names with slashes between them. What it leads to depends
on the directory it starts from, unless it starts with a slash. A slash at its
end says that a directory is meant, which is the same as a further step to the
directory itself.
-/

namespace Metering.Path

def isAbsolute (path : String) : Bool :=
  path.toList.head? = some '/'

/-- Whether the last character is a slash. -/
def endsInSlash (path : String) : Bool :=
  path.toList.getLast? = some '/'

/-- The names between the slashes of a text, the empty ones too. -/
def split : List Char → List String
  | cs => go [] cs
where
  go (acc : List Char) : List Char → List String
    | [] => [String.ofList acc.reverse]
    | c :: cs => if c = '/' then String.ofList acc.reverse :: go [] cs else go (c :: acc) cs

/-- The names of a path. -/
def names (path : String) : List String :=
  (split path.toList).filter (! ·.isEmpty)

/-- The steps that a path takes: its names, and a step to where it is for a slash at its end. -/
def steps (path : String) : List String :=
  names path ++ if endsInSlash path then ["."] else []

/-- The names without the steps to where they are. -/
def properNames (path : String) : List String :=
  (names path).filter (· ≠ ".")

/-- The steps to the directory that a path's last name stands in, if the path has a name. -/
def parentSteps? (path : String) : Option (List String) :=
  match properNames path with
  | [] => none
  | ns => some ns.dropLast

/-- A path with a further name. -/
def join (path name : String) : String :=
  if endsInSlash path then path ++ name else path ++ "/" ++ name

/-- The place that a path names, by its text alone: a step up takes back the name before it. -/
def place (start : List String) (path : String) : List String :=
  (names path).foldl (fun here name =>
    if name = "." then here
    else if name = ".." then here.dropLast
    else here ++ [name]) (if isAbsolute path then [] else start)

end Metering.Path
