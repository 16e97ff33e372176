import TradingStatus.Files.Path
import TradingStatus.Settings.Environment

/-! The directory that all paths of an installation lead from: the one that a variable names, or else the
one that the program lies in. -/

namespace TradingStatus.Home

/-- The variable that names the directory. -/
def variableName : String := "ORACLE_HOME"

/-- The directory, in an environment, of a program that lies in a directory. -/
def directory (env : Environment) (installed : String) : String :=
  let named := Text.trim ((env.value? variableName).getD "")
  if named = "" then installed else named

/-- The names in a text with slashes of both kinds between them; those of nothing but blanks are left
out. -/
def segmentNames (segment : String) : List String :=
  (Text.split (fun c => c == '/' || c == '\\') segment).filter fun name => !Text.isBlankText name

/-- The path that leads from the directory on through some texts. -/
def path (home : String) (segments : List String) : String :=
  (segments.flatMap segmentNames).foldl Path.append home

end TradingStatus.Home
