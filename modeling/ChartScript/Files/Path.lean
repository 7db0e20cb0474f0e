/-!
# Paths

A path is a text of names with slashes between them. Empty names and single points stay where
they are, two points go one directory up.
-/

set_option autoImplicit false

namespace ChartScript.Path

def names : List Char → List (List Char)
  | [] => [[]]
  | character :: rest =>
    if character = '/' then [] :: names rest
    else
      match names rest with
      | [] => [[character]]
      | first :: others => (character :: first) :: others

def components (path : String) : List String :=
  (names path.toList).map String.ofList

def beforeFinalSlash? (path : String) : Option (List String) :=
  match (components path).reverse with
  | "" :: others => some (others.dropWhile (· = "")).reverse
  | _ => none

/-- The name of a file without what stands from its last point on. A point at the front starts no
extension. -/
def withoutExtension (name : String) : String :=
  let reversed := name.toList.reverse
  let stem := (reversed.dropWhile (· ≠ '.')).tail.reverse
  if name = ".." || stem.isEmpty then name else String.ofList stem

/-- The name that a path gives to the file it leads to: its last name without the extension, or
the path itself where it ends in no name. -/
def stem (path : String) : String :=
  match ((components path).filter fun name => name ≠ "" && name ≠ ".").getLast? with
  | none => path
  | some name => if name = ".." then path else withoutExtension name

end ChartScript.Path
