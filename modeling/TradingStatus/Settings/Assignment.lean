import TradingStatus.Text.Blank
import TradingStatus.Text.Lines

/-! Files of assignments, as they are kept beside a program: on every line a name, an equals sign and a
value. The word `export` may stand before the name, the value may be in quotes of either kind and then
go on over several lines, and a hash sign begins a comment. A line that cannot be read counts for
nothing, and reading goes on behind it. -/

namespace TradingStatus

/-- A name with the value that it is given, if it is given one. -/
structure Assignment where
  name : String
  value : Option String
deriving DecidableEq

namespace Assignment

/-- A blank inside a line. -/
def isLineBlank (c : Char) : Bool := Text.isBlank c && c != '\n'

/-- What is left of a text after the blanks that the line goes on with. -/
def dropBlanks (cs : List Char) : List Char := cs.dropWhile isLineBlank

/-- What is left of a text after the line. -/
def dropLine (cs : List Char) : List Char := (cs.dropWhile (· != '\n')).drop 1

/-- What is left of a text after a comment, if the line goes on with one. -/
def dropComment (cs : List Char) : List Char :=
  if (dropBlanks cs).head? = some '#' then cs.dropWhile (· != '\n') else cs

/-- The word that may stand before a name. -/
def exportWord : List Char := "export".toList

/-- What is left of a text after the word that may stand before a name, if blanks follow it. -/
def dropExport (cs : List Char) : List Char :=
  let rest := cs.drop exportWord.length
  if exportWord.isPrefixOf cs && rest.head?.any isLineBlank then dropBlanks rest else cs

/-- A character of a name without quotes. -/
def isNameChar (c : Char) : Bool := !Text.isBlank c && c != '=' && c != '#'

/-- A part of a text, with what is left of the text after it. -/
abbrev Step (α : Type) := α × List Char

/-- The name at the front of a text, none if a comment is there instead. -/
def name? (cs : List Char) : Option (Step (Option String)) :=
  match cs with
  | '#' :: _ => some (none, cs)
  | '\'' :: cs =>
    let name := cs.takeWhile (· != '\'')
    match cs.dropWhile (· != '\'') with
    | _ :: rest => if name = [] then none else some (some (String.ofList name), rest)
    | [] => none
  | _ =>
    let name := cs.takeWhile isNameChar
    if name = [] then none else some (some (String.ofList name), cs.dropWhile isNameChar)

/-- The characters up to the closing quote, which is the first one that no backslash escapes. -/
def quoted? (quote : Char) : List Char → Option (Step (List Char))
  | [] => none
  | '\\' :: c :: rest => (quoted? quote rest).map fun (value, rest) => ('\\' :: c :: value, rest)
  | c :: rest =>
    if c = quote then some ([], rest)
    else (quoted? quote rest).map fun (value, rest) => (c :: value, rest)

/-- A text with each backslash and the character that it escapes replaced. -/
def unescape (escaped? : Char → Option Char) : List Char → List Char
  | [] => []
  | [c] => [c]
  | c :: d :: rest =>
    match if c = '\\' then escaped? d else none with
    | some e => e :: unescape escaped? rest
    | none => c :: unescape escaped? (d :: rest)

/-- What a character after a backslash stands for in single quotes. -/
def singleEscape? (c : Char) : Option Char := if c = '\\' ∨ c = '\'' then some c else none

/-- What a character after a backslash stands for in double quotes. -/
def doubleEscape? : Char → Option Char
  | '\\' => some '\\'
  | '\'' => some '\''
  | '"' => some '"'
  | 'a' => some '\x07'
  | 'b' => some '\x08'
  | 'f' => some '\x0c'
  | 'n' => some '\n'
  | 'r' => some '\r'
  | 't' => some '\t'
  | 'v' => some '\x0b'
  | _ => none

/-- The characters before a comment, which begins with a hash sign after a blank. -/
def beforeComment : List Char → List Char
  | c :: '#' :: rest => if Text.isBlank c then [] else c :: beforeComment ('#' :: rest)
  | c :: rest => c :: beforeComment rest
  | [] => []

/-- The value without quotes that the line goes on with. A comment may follow at once if blanks do. -/
def bareValue (cs : List Char) : List Char :=
  Text.trimChars (beforeComment (cs.takeWhile (· != '\n')))

/-- The value that a text goes on with, blanks apart. -/
def value? (cs : List Char) : Option (Step (List Char)) :=
  match dropBlanks cs with
  | '\'' :: rest => (quoted? '\'' rest).map fun (value, rest) => (unescape singleEscape? value, rest)
  | '"' :: rest => (quoted? '"' rest).map fun (value, rest) => (unescape doubleEscape? value, rest)
  | rest => some (bareValue cs, rest.dropWhile (· != '\n'))

/-- What follows a name: blanks, and a value after an equals sign. Where the value cannot be read, only
what is left of the text is known. -/
def binding (cs : List Char) : Except (List Char) (Step (Option String)) :=
  match dropBlanks cs with
  | '=' :: rest =>
    match value? rest with
    | some (value, rest) => .ok (some (String.ofList value), rest)
    | none => .error (dropBlanks rest)
  | rest => .ok (none, rest)

/-- What is left of a text after the end of the line, which only a comment may precede. -/
def endOfLine (cs : List Char) : Except (List Char) (List Char) :=
  let rest := dropComment cs
  match dropBlanks rest with
  | [] => .ok []
  | '\n' :: rest => .ok rest
  | _ => .error rest

/-- The assignment at the front of a text, if there is one. Where it cannot be read, only what is left
of the text is known. -/
def line (cs : List Char) : Except (List Char) (Step (Option Assignment)) := do
  let cs := dropExport cs
  let some (name, rest) := name? cs | throw cs
  let (value, rest) ← binding rest
  let rest ← endOfLine rest
  return (name.map fun name => ⟨name, value⟩, rest)

/-- The assignment at the front of a text, if there is a readable one, and what is left after it or
after the line that cannot be read. -/
def next (cs : List Char) : Step (Option Assignment) :=
  match line cs with
  | .ok step => step
  | .error rest => (none, dropLine rest)

theorem length_dropWhile_le {p : Char → Bool} (cs : List Char) :
    (cs.dropWhile p).length ≤ cs.length := (List.dropWhile_sublist p).length_le

theorem length_dropWhile_lt {p : Char → Bool} {cs : List Char} (h : cs.takeWhile p ≠ []) :
    (cs.dropWhile p).length < cs.length := by
  cases cs with
  | nil => simp at h
  | cons c cs =>
    by_cases hc : p c
    · simpa [hc, Nat.lt_succ_iff] using length_dropWhile_le cs
    · simp [hc] at h

theorem length_dropBlanks_le (cs : List Char) : (dropBlanks cs).length ≤ cs.length :=
  length_dropWhile_le cs

theorem length_dropLine_le (cs : List Char) : (dropLine cs).length ≤ cs.length := by
  have := length_dropWhile_le (p := (· != '\n')) cs
  simp only [dropLine, List.length_drop]
  omega

theorem length_dropLine_lt {cs : List Char} (h : cs ≠ []) : (dropLine cs).length < cs.length := by
  cases cs with
  | nil => simp at h
  | cons c cs =>
    by_cases hc : c = '\n'
    · simp [dropLine, hc]
    · have := length_dropWhile_le (p := (· != '\n')) cs
      simp only [dropLine, bne_iff_ne, ne_eq, hc, not_false_eq_true, List.dropWhile_cons_of_pos,
        List.length_drop, List.length_cons]
      omega

theorem length_dropComment_le (cs : List Char) : (dropComment cs).length ≤ cs.length := by
  unfold dropComment
  split
  · exact length_dropWhile_le cs
  · exact Nat.le_refl _

theorem length_dropExport (cs : List Char) :
    dropExport cs = cs ∨ (dropExport cs).length < cs.length := by
  unfold dropExport
  dsimp only
  split
  case isFalse => exact .inl rfl
  case isTrue h =>
    refine .inr ?_
    have := length_dropBlanks_le (cs.drop exportWord.length)
    have hlen : 0 < exportWord.length := by decide
    cases cs with
    | nil => simp at h
    | cons c cs => simp only [List.length_drop, List.length_cons] at *; omega

theorem length_quoted? {quote : Char} {cs : List Char} {step : Step (List Char)}
    (h : quoted? quote cs = some step) : step.2.length < cs.length := by
  fun_induction quoted? quote cs generalizing step with
  | case1 => simp at h
  | case2 c rest ih =>
    obtain ⟨inner, hin, rfl⟩ := Option.map_eq_some_iff.mp h
    have := ih hin
    simp only [List.length_cons] at *
    omega
  | case3 => cases h; simp
  | case4 c rest _ _ ih =>
    obtain ⟨inner, hin, rfl⟩ := Option.map_eq_some_iff.mp h
    have := ih hin
    simp only [List.length_cons] at *
    omega

theorem length_value? {cs : List Char} {step : Step (List Char)} (h : value? cs = some step) :
    step.2.length ≤ cs.length := by
  have hb := length_dropBlanks_le cs
  unfold value? at h
  split at h
  · rename_i heq
    obtain ⟨inner, hin, rfl⟩ := Option.map_eq_some_iff.mp h
    have := length_quoted? hin
    simp only [heq, List.length_cons] at hb
    dsimp only
    omega
  · rename_i heq
    obtain ⟨inner, hin, rfl⟩ := Option.map_eq_some_iff.mp h
    have := length_quoted? hin
    simp only [heq, List.length_cons] at hb
    dsimp only
    omega
  · cases h
    exact Nat.le_trans (length_dropWhile_le _) hb

/-- Reading a name moves on, except before a comment. -/
theorem length_name? {cs : List Char} {step : Step (Option String)} (h : name? cs = some step) :
    step.2.length < cs.length ∨ step.2 = cs ∧ cs.head? = some '#' := by
  unfold name? at h
  split at h
  · cases h; simp
  · rename_i cs
    dsimp only at h
    split at h
    · rename_i rest hrest
      split at h
      · simp at h
      · cases h
        have := length_dropWhile_le (p := (· != '\'')) cs
        rw [hrest] at this
        simp only [List.length_cons] at *
        omega
    · simp at h
  · simp only [Option.ite_none_left_eq_some] at h
    obtain ⟨hname, h⟩ := h
    cases h
    exact .inl (length_dropWhile_lt hname)

/-- What is left after reading, whether it succeeds or not. -/
def left {α : Type} : Except (List Char) (Step α) → List Char
  | .ok step => step.2
  | .error rest => rest

theorem length_binding (cs : List Char) : (left (binding cs)).length ≤ cs.length := by
  have hb := length_dropBlanks_le cs
  unfold binding
  split
  · rename_i rest heq
    have hr := length_dropBlanks_le rest
    rw [heq] at hb
    split
    · rename_i hv
      have := length_value? hv
      simp only [left, List.length_cons] at *
      omega
    · simp only [left, List.length_cons] at *
      omega
  · exact hb

theorem length_endOfLine {cs rest : List Char}
    (h : endOfLine cs = .ok rest ∨ endOfLine cs = .error rest) :
    rest.length ≤ (dropComment cs).length := by
  have hb := length_dropBlanks_le (dropComment cs)
  unfold endOfLine at h
  dsimp only at h
  split at h
  · simp only [Except.ok.injEq, reduceCtorEq, or_false] at h
    simp [← h]
  · rename_i heq
    simp only [Except.ok.injEq, reduceCtorEq, or_false] at h
    rw [heq] at hb
    subst h
    simp only [List.length_cons] at hb
    omega
  · simp only [reduceCtorEq, Except.error.injEq, false_or] at h
    simp [h]

/-- A comment is left behind. -/
theorem length_dropComment_lt {cs : List Char} (h : cs.head? = some '#') :
    (dropComment cs).length < cs.length := by
  obtain ⟨rest, rfl⟩ : ∃ rest, cs = '#' :: rest := by
    cases cs with
    | nil => simp at h
    | cons c rest => exact ⟨rest, by simpa using h⟩
  have hblank : isLineBlank '#' = false := by decide
  have := length_dropWhile_le (p := (· != '\n')) rest
  simp only [dropComment, dropBlanks, List.dropWhile_cons, hblank, Bool.false_eq_true, if_false,
    List.head?_cons, if_true, List.length_cons]
  simpa [Nat.lt_succ_iff] using this

theorem binding_of_head {cs : List Char} (h : cs.head? = some '#') : binding cs = .ok (none, cs) := by
  obtain ⟨rest, rfl⟩ : ∃ rest, cs = '#' :: rest := by
    cases cs with
    | nil => simp at h
    | cons c rest => exact ⟨rest, by simpa using h⟩
  have hblank : isLineBlank '#' = false := by decide
  simp [binding, dropBlanks, hblank]

/-- What is left after a line is less than the line, except where nothing could be read. -/
theorem length_line (cs : List Char) :
    (left (line cs)).length < cs.length ∨ line cs = .error cs := by
  have hexport := length_dropExport cs
  unfold line
  dsimp only
  split
  · rename_i name rest hname
    have hrest := length_name? hname
    have hle : (dropExport cs).length ≤ cs.length := by
      rcases hexport with h | h
      · simp [h]
      · omega
    refine .inl (Nat.lt_of_lt_of_le ?_ hle)
    have hb := length_binding rest
    rcases hrest with hrest | ⟨heq, hhash⟩
    · cases hbind : binding rest with
      | error after =>
        rw [hbind] at hb
        exact Nat.lt_of_le_of_lt hb hrest
      | ok step =>
        rw [hbind] at hb
        have hc := length_dropComment_le step.2
        cases hend : endOfLine step.2 with
        | error after =>
          have := length_endOfLine (.inr hend)
          simp only [left, bind, Except.bind, hend] at *
          omega
        | ok after =>
          have := length_endOfLine (.inl hend)
          simp only [left, bind, Except.bind, hend, pure, Except.pure] at *
          omega
    · simp only at heq
      subst heq
      have hc := length_dropComment_lt hhash
      rw [binding_of_head hhash]
      cases hend : endOfLine (dropExport cs) with
      | error after =>
        have := length_endOfLine (.inr hend)
        simp only [left, bind, Except.bind, hend] at *
        omega
      | ok after =>
        have := length_endOfLine (.inl hend)
        simp only [left, bind, Except.bind, hend, pure, Except.pure] at *
        omega
  · rcases hexport with h | h
    · exact .inr (by rw [h]; rfl)
    · exact .inl h

/-- Reading moves on. -/
theorem length_next_lt {cs : List Char} (h : cs ≠ []) : (next cs).2.length < cs.length := by
  have hl := length_line cs
  unfold next
  split
  · rename_i step heq
    rw [heq] at hl
    simpa [left] using hl
  · rename_i rest heq
    rw [heq] at hl
    rcases hl with hl | hl
    · exact Nat.lt_of_le_of_lt (length_dropLine_le rest) hl
    · simp only [Except.error.injEq] at hl
      subst hl
      exact length_dropLine_lt h

/-- The assignments of a text. -/
def all (cs : List Char) : List Assignment :=
  match _h : cs.dropWhile Text.isBlank with
  | [] => []
  | c :: rest => (next (c :: rest)).1.toList ++ all (next (c :: rest)).2
termination_by cs.length
decreasing_by
  have hle := length_dropWhile_le (p := Text.isBlank) cs
  rw [_h] at hle
  exact Nat.lt_of_lt_of_le (length_next_lt (List.cons_ne_nil c rest)) hle

/-- What is left of a file's text after the mark of its encoding, if the text begins with it. -/
def dropEncodingMark : List Char → List Char
  | '\ufeff' :: rest => rest
  | cs => cs

/-- The assignments of a file's text. -/
def ofText (text : String) : List Assignment :=
  all (dropEncodingMark (Text.unifyLineEnds text.toList))

end Assignment

end TradingStatus
