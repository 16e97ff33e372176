import TradingStatus.Text.Digit

/-! The arguments of the command line: one market identifier at most, and one option at most, which says
what is asked for. An option may be cut short as long as no other one begins alike, and may be given
more than once. What stands after `--` is no option. -/

namespace TradingStatus.CommandLine

/-- What can be asked for instead of a receipt. -/
inductive Choice
  | schedule
  | exchanges
  | keys
  | health
deriving DecidableEq

/-- Arguments that were read. -/
structure Arguments where
  mic : Option String
  choice : Option Choice
deriving DecidableEq

/-- What ends a run before it begins. -/
inductive Ending
  | help
  | refused
deriving DecidableEq

/-- What an option does. -/
inductive Effect
  | help
  | choose (choice : Choice)
deriving DecidableEq

/-- What an argument is, taken by itself. -/
inductive Word
  /-- Not an option. -/
  | operand (text : String)
  | option (effect : Effect)
  /-- An option with something attached that it cannot have. -/
  | overfull
  /-- An option that there is not. -/
  | stray
  /-- The beginning of more than one option. -/
  | ambiguous
deriving DecidableEq

namespace Word

/-- The options with two dashes. -/
def options : List (List Char × Effect) := [
  ("--help".toList, .help),
  ("--schedule".toList, .choose .schedule),
  ("--exchanges".toList, .choose .exchanges),
  ("--keys".toList, .choose .keys),
  ("--health".toList, .choose .health)]

/-- A sequence of one decimal digit or more. -/
def isDigits (cs : List Char) : Bool :=
  !cs.isEmpty && cs.all fun c => (Text.decimalDigit? c).isSome

/-- What follows a dash is a number, perhaps with a point, and perhaps with a line end behind it. -/
def isNumber (cs : List Char) : Bool :=
  let cs := if cs.getLast? = some '\n' then cs.dropLast else cs
  let isDigit := fun c => (Text.decimalDigit? c).isSome
  match cs.dropWhile isDigit with
  | [] => !cs.isEmpty
  | c :: rest => c == '.' && isDigits rest

/-- What begins with a dash and is no option after all. -/
def leftover (cs : List Char) : Word :=
  if isNumber cs || cs.contains ' ' then .operand (String.ofList ('-' :: cs)) else .stray

/-- An argument with two dashes. -/
def long (cs : List Char) : Word :=
  let start := '-' :: '-' :: cs.takeWhile (· != '=')
  match options.filter fun entry => start.isPrefixOf entry.1 with
  | [] => leftover ('-' :: cs)
  | [(_, effect)] => if cs.contains '=' then .overfull else .option effect
  | _ => .ambiguous

/-- An argument with one dash whose first letter asks for help. It may ask more than once, with an
equals sign behind the first letter or without, and nothing else may be attached. -/
def help (cs : List Char) : Word :=
  let attached :=
    match cs with
    | '=' :: c :: rest => c :: rest
    | cs => cs
  if attached.all (· == 'h') then .option .help else .overfull

/-- An argument is an operand unless it begins with a dash and something else follows. -/
def ofChars : List Char → Word
  | '-' :: '-' :: cs => long cs
  | '-' :: 'h' :: cs => help cs
  | '-' :: c :: cs => leftover (c :: cs)
  | cs => .operand (String.ofList cs)

end Word

/-- What has been made of the arguments so far. -/
structure Progress where
  mic : Option String
  choice : Option Choice
  /-- An option stands behind the market identifier. -/
  closed : Bool
  /-- There is something that cannot be made use of. -/
  surplus : Bool

namespace Progress

/-- Nothing has been made of anything. -/
def start : Progress := ⟨none, none, false, false⟩

/-- The progress after an operand. -/
def operand (progress : Progress) (text : String) : Progress :=
  match progress.mic with
  | none => { progress with mic := some text }
  | some _ => { progress with surplus := true }

/-- The progress after any option. -/
def close (progress : Progress) : Progress := { progress with closed := progress.mic.isSome }

/-- The progress after a choice, which has to be the only one. -/
def choose (progress : Progress) (choice : Choice) : Except Ending Progress :=
  match progress.choice with
  | none => .ok { progress.close with choice := some choice }
  | some other => if other = choice then .ok progress.close else .error .refused

/-- The progress after a word. -/
def step (progress : Progress) : Word → Except Ending Progress
  | .operand text => .ok (progress.operand text)
  | .option .help => .error .help
  | .option (.choose choice) => progress.choose choice
  | .overfull | .ambiguous => .error .refused
  | .stray => .ok { progress.close with surplus := true }

/-- The progress after `--` and what stands behind it. -/
def separate (progress : Progress) (rest : List String) : Progress :=
  if progress.closed then { progress with surplus := true }
  else rest.foldl operand progress

/-- What the arguments come to in the end. -/
def finish (progress : Progress) : Except Ending Arguments :=
  if progress.surplus then .error .refused else .ok ⟨progress.mic, progress.choice⟩

end Progress

/-- The arguments that some texts stand for. An option that could be more than one refuses them all,
whatever stands before it. -/
def Arguments.ofTexts (texts : List String) : Except Ending Arguments := do
  let words := (texts.takeWhile (· != "--")).map fun text => Word.ofChars text.toList
  if words.contains .ambiguous then throw .refused
  let progress ← words.foldlM Progress.step .start
  match texts.dropWhile (· != "--") with
  | [] => progress.finish
  | _ :: rest => (progress.separate rest).finish

end TradingStatus.CommandLine
