import TradingStatus.Failure
import TradingStatus.Settings.Assignment

/-! Environments: the variables that a program is started with. A file of assignments adds variables and
replaces none. A value in it may refer to variables as `$` and a name in braces, with a default after
`:-`; a variable of the environment goes before one of the file. -/

namespace TradingStatus

/-- Variables with their values. -/
abbrev Environment := List (String × String)

/-- A reference to a variable, with what stands in for it where there is none. -/
structure Reference where
  name : String
  default : String

namespace Reference

/-- Braces. -/
def opening : Char := '\x7b'
def closing : Char := '\x7d'

/-- The default of a reference up to its end, and what follows. -/
def defaultAt? (cs : List Char) : Option (List Char × List Char) :=
  match cs.dropWhile (· != closing) with
  | _ :: rest => some (cs.takeWhile (· != closing), rest)
  | [] => none

/-- A character of a name in braces. -/
def isNameChar (c : Char) : Bool := c != closing && c != ':'

/-- The reference at the front of a text, and what follows it. -/
def read? : List Char → Option (Reference × List Char)
  | '$' :: c :: cs =>
    if c = opening then
      let name := String.ofList (cs.takeWhile isNameChar)
      match cs.dropWhile isNameChar with
      | ':' :: '-' :: rest =>
        (defaultAt? rest).map fun (default, rest) => (⟨name, String.ofList default⟩, rest)
      | ':' :: _ => none
      | _ :: rest => some (⟨name, ""⟩, rest)
      | [] => none
    else none
  | _ => none

theorem length_defaultAt? {cs : List Char} {found : List Char × List Char}
    (h : defaultAt? cs = some found) : found.2.length < cs.length := by
  unfold defaultAt? at h
  split at h
  · rename_i heq
    have := Assignment.length_dropWhile_le (p := (· != closing)) cs
    rw [heq] at this
    cases h
    exact this
  · simp at h

theorem length_read? {cs : List Char} {found : Reference × List Char} (h : read? cs = some found) :
    found.2.length < cs.length := by
  unfold read? at h
  split at h
  · rename_i c cs
    dsimp only at h
    have hle := Assignment.length_dropWhile_le (p := isNameChar) cs
    split at h
    · split at h
      · rename_i heq
        obtain ⟨inner, hin, rfl⟩ := Option.map_eq_some_iff.mp h
        have := length_defaultAt? hin
        rw [heq] at hle
        simp only [List.length_cons] at *
        omega
      · simp at h
      · rename_i heq
        rw [heq] at hle
        cases h
        simp only [List.length_cons] at *
        omega
      · simp at h
    · simp at h
  · simp at h

end Reference

namespace Environment

/-- The value of a variable. -/
def value? (env : Environment) (name : String) : Option String := env.lookup name

/-- A text with every reference replaced. -/
def expand (meaning : Reference → String) (cs : List Char) : List Char :=
  match _h : Reference.read? cs with
  | some (reference, rest) => (meaning reference).toList ++ expand meaning rest
  | none =>
    match cs with
    | [] => []
    | c :: cs => c :: expand meaning cs
termination_by cs.length
decreasing_by
  · exact Reference.length_read? _h
  · simp

/-- What a reference means between the environment and the variables of a file so far; one without a
value means nothing. -/
def meaning (env : Environment) (found : List (String × Option String)) (reference : Reference) :
    String :=
  match env.value? reference.name with
  | some value => value
  | none =>
    match found.lookup reference.name with
    | some value => value.getD ""
    | none => reference.default

/-- Variables with one more; one that is there already gets the new value and keeps its place. -/
def assign (found : List (String × Option String)) (name : String) (value : Option String) :
    List (String × Option String) :=
  match found with
  | [] => [(name, value)]
  | (n, v) :: rest => if n = name then (n, value) :: rest else (n, v) :: assign rest name value

/-- The variables of a file, every reference replaced. -/
def resolve (env : Environment) (assignments : List Assignment) : List (String × Option String) :=
  assignments.foldl (fun found assignment =>
    assign found assignment.name <| assignment.value.map fun value =>
      String.ofList (expand (meaning env found) value.toList)) []

/-- The environment with a variable that is not there yet. -/
def add (env : Environment) (name value : String) : Except Failure Environment :=
  if name.toList.contains '\x00' ∨ value.toList.contains '\x00' then .error .variableNul
  else if name.toList.contains '=' then .error .variableName
  else .ok (env ++ [(name, value)])

/-- The environment with the variables of a file that are not there yet. -/
def extend (env : Environment) (assignments : List Assignment) : Except Failure Environment :=
  (resolve env assignments).foldlM (fun extended (name, value) =>
    match env.value? name, value with
    | none, some value => extended.add name value
    | _, _ => .ok extended) env

/-- Every name that the text of assignments has to do with. -/
def namesIn (assignments : List Assignment) : List String :=
  assignments.flatMap fun assignment =>
    assignment.name :: (assignment.value.map fun value => references value.toList).getD []
where
  /-- The names that a text refers to. -/
  references : List Char → List String
    | [] => []
    | c :: cs => (Reference.read? (c :: cs)).toList.map (·.1.name) ++ references cs

end Environment

end TradingStatus
