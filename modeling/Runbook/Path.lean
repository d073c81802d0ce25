import Runbook.Text

/-! Paths as text. A path is read from its end: slashes and single dots there are not part
of its last name. What stands before the last name is kept as it is written. -/
namespace Runbook.Path

def isAbsolute (path : Text) : Bool := path.head? == some '/'

/-- The pieces between slashes, empty ones included. -/
def pieces : Text → List Text
  | [] => [[]]
  | c :: rest =>
    if c = '/' then [] :: pieces rest
    else match pieces rest with
      | [] => [[c]]
      | piece :: more => (c :: piece) :: more

/-- Pieces from the last to the first, without the empty ones and the single dots at the
end. The first piece of all stays: it is the root or the place where the path starts. -/
def dropIdle : List Text → List Text
  | [] => []
  | [first] => [first]
  | piece :: more => if piece.isEmpty || piece == ['.'] then dropIdle more else piece :: more

def reversedPieces (path : Text) : List Text := dropIdle (pieces path).reverse

/-- The last name, unless the path ends in a root, in two dots or in its own start. -/
def fileName? (path : Text) : Option Text :=
  match reversedPieces path with
  | [] => none
  | name :: _ =>
    if name.isEmpty || name == ['.'] || name == ['.', '.'] then none else some name

/-- Pieces from the last to the first, written as a path again. -/
def ofReversed (reversed : List Text) : Text :=
  match dropIdle reversed with
  | [[]] => ['/']
  | kept => Text.joined ['/'] kept.reverse

/-- The path without its last name. A root and an empty path have none. -/
def parent? (path : Text) : Option Text :=
  match reversedPieces path with
  | [] | [[]] => none
  | [_] => some []
  | _ :: more => some (ofReversed more)

/-- Appends a relative path or a name; an absolute one takes the place of the whole. -/
def join (path name : Text) : Text :=
  if isAbsolute name then name
  else if path.isEmpty || path.getLast? == some '/' then path ++ name
  else path ++ '/' :: name

/-- The paths above one given by its pieces from last to first, nearest first. -/
def above : List Text → List Text
  | [] | [_] => []
  | piece :: more =>
    if piece.isEmpty || piece == ['.'] then above more else ofReversed more :: above more

/-- A path and every path above it, except for a start that has no name. -/
def lineage (path : Text) : List Text := path :: above (pieces path).reverse

/-- The path from the root, without repeated slashes and single dots. A slash at the end
stays. -/
def absolute (here path : Text) : Text :=
  let start := if isAbsolute path then [] else pieces here
  let names := (start ++ pieces path).filter fun piece => !piece.isEmpty && piece != ['.']
  '/' :: Text.joined ['/'] names ++
    if !names.isEmpty && path.getLast? == some '/' then ['/'] else []

def withFileName (path name : Text) : Text :=
  match fileName? path with
  | some _ => join ((parent? path).getD []) name
  | none => join path name

/-- A name up to its last dot, if something stands before that dot. -/
def stem (name : Text) : Text :=
  match name.reverse.dropWhile (· != '.') with
  | [] | [_] => name
  | _ :: before => before.reverse

/-- The path beside this one that has its stem and another suffix. -/
def sibling (path suffix : Text) : Text :=
  withFileName path (((fileName? path).map stem).getD [] ++ suffix)

end Runbook.Path
