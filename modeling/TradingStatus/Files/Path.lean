import TradingStatus.Text.Split

/-! Paths as texts: names with slashes between them. -/

namespace TradingStatus.Path

/-- The names of a path; where slashes meet or end the path, a name is empty. -/
def names (path : String) : List String := Text.split (· == '/') path

/-- A path that starts at the root. -/
def isAbsolute (path : String) : Bool := path.toList.head? == some '/'

/-- Names without those that lead nowhere, each `..` cancelling the name before it; `above` holds the
names so far, the last one first. -/
def simplify (above : List String) : List String → List String
  | [] => above.reverse
  | name :: rest =>
    if name = "" ∨ name = "." then simplify above rest
    else if name = ".." then
      match above with
      | [] => simplify [".."] rest
      | last :: others =>
        if last = ".." then simplify (".." :: above) rest else simplify others rest
    else simplify (name :: above) rest

/-- A relative path without detours, a single dot if it leads nowhere. -/
def normalize (path : String) : String :=
  match simplify [] (names path) with
  | [] => "."
  | names => "/".intercalate names

/-- What an absolute path begins with: a slash, or two where there are exactly two. -/
def rootOf (path : String) : String :=
  match (path.toList.takeWhile (· == '/')).length with
  | 0 => ""
  | 2 => "//"
  | _ => "/"

/-- A path without empty names and single dots; `..` stays, since it may lead anywhere. -/
def tidy (path : String) : String :=
  let rest := "/".intercalate ((names path).filter fun name => name != "" && name != ".")
  if rootOf path = "" ∧ rest = "" then "." else rootOf path ++ rest

/-- A path with a name after it. -/
def append (path name : String) : String :=
  if path.toList.getLast? = some '/' then path ++ name else path ++ "/" ++ name

end TradingStatus.Path
