import TradingStatus.Text.Base64
import TradingStatus.Text.Blank
import TradingStatus.Text.Split

/-! Documents between marked lines: bytes in base 64, behind a mark that names what they are and before
one that names it again, with lines of properties in front of them if there are any. A text may hold any
number of such blocks and other text around them, but a single block that cannot be read spoils it. -/

namespace TradingStatus.Pem

/-- What follows a mark in a text; `left` is what is still to come of the mark. A character that does
not go on with the mark is passed over, even where the mark begins with it. -/
def behind? (mark : List Char) : List Char → List Char → Option (List Char)
  | [], cs => some cs
  | _ :: _, [] => none
  | m :: left, c :: cs => behind? mark (if c = m then left else mark) cs

/-- The text before a mark, and what follows the mark. -/
def cut? (mark cs : List Char) : Option (List Char × List Char) :=
  (behind? mark mark cs).map fun rest => (cs.take (cs.length - rest.length - mark.length), rest)

/-- What the marks are made of. -/
def opening : List Char := "-----BEGIN ".toList
def ending : List Char := "-----END ".toList
def dashes : List Char := "-----".toList

/-- What is left of a text after the gap behind a mark. -/
def dropGap (cs : List Char) : List Char :=
  cs.dropWhile fun c => c == ' ' || c == '\t' || c == '\r' || c == '\n'

/-- A stretch of a text between two marks, with the names in the marks. -/
structure Block where
  label : List Char
  body : List Char
  closing : List Char
deriving DecidableEq

/-- The first block of a text, and what follows it. -/
def block? (cs : List Char) : Option (Block × List Char) := do
  let (_, rest) ← cut? opening cs
  let (label, rest) ← cut? dashes rest
  let (body, rest) ← cut? ending (dropGap rest)
  let (closing, rest) ← cut? dashes rest
  return (⟨label, body, closing⟩, dropGap rest)

theorem length_behind?_le {mark left cs rest : List Char} (h : behind? mark left cs = some rest) :
    rest.length ≤ cs.length := by
  induction cs generalizing left with
  | nil => cases left <;> simp_all [behind?]
  | cons c cs ih =>
    cases left with
    | nil => cases h; exact Nat.le_refl _
    | cons m left => exact Nat.le_succ_of_le (ih h)

theorem length_cut?_le {mark cs : List Char} {parts : List Char × List Char}
    (h : cut? mark cs = some parts) : parts.2.length ≤ cs.length := by
  obtain ⟨rest, hrest, rfl⟩ := Option.map_eq_some_iff.mp h
  exact length_behind?_le hrest

/-- Cutting a text leaves less of it. -/
theorem length_cut?_lt {mark cs : List Char} {parts : List Char × List Char} (hmark : mark ≠ [])
    (h : cut? mark cs = some parts) : parts.2.length < cs.length := by
  obtain ⟨rest, hrest, rfl⟩ := Option.map_eq_some_iff.mp h
  cases mark with
  | nil => exact absurd rfl hmark
  | cons m mark =>
    cases cs with
    | nil => simp [behind?] at hrest
    | cons c cs => exact Nat.lt_succ_of_le (length_behind?_le hrest)

theorem length_dropGap_le (cs : List Char) : (dropGap cs).length ≤ cs.length :=
  (List.dropWhile_sublist _).length_le

theorem length_block?_lt {cs : List Char} {step : Block × List Char} (h : block? cs = some step) :
    step.2.length < cs.length := by
  simp only [block?, Option.bind_eq_bind, Option.bind_eq_some_iff, Option.pure_def,
    Option.some.injEq] at h
  obtain ⟨⟨_, afterOpening⟩, h1, ⟨_, afterLabel⟩, h2, ⟨_, afterBody⟩, h3, ⟨_, afterClosing⟩, h4, rfl⟩ := h
  have h1 := length_cut?_lt (by decide) h1
  have h2 := length_cut?_le h2
  have hgap := length_dropGap_le afterLabel
  have h3 := length_cut?_le h3
  have h4 := length_cut?_le h4
  have hend := length_dropGap_le afterClosing
  dsimp only at *
  omega

/-- The blocks of a text. What begins like a block and has no end is none. -/
def blocks (cs : List Char) : List Block :=
  match _h : block? cs with
  | none => []
  | some (block, rest) => block :: blocks rest
termination_by cs.length
decreasing_by exact length_block?_lt _h

/-- What a block holds: bytes under a label, with named properties. -/
structure Document where
  label : String
  properties : List (String × String)
  bytes : List UInt8
deriving DecidableEq

/-- The properties and the data of a block's body. An empty line parts them; without one, all of it is
data. -/
def partsOf (body : List Char) : List Char × List Char :=
  match cut? "\n\n".toList body with
  | some parts => parts
  | none => (cut? "\r\n\r\n".toList body).getD ([], body)

/-- A property: a name and a value with a colon between them. -/
def property? (line : List Char) : Option (String × String) :=
  let trimmed (cs : List Char) : String := String.ofList (Text.trimWhere Text.isSpacing cs)
  match line.dropWhile (· != ':') with
  | [] => none
  | _ :: value => some (trimmed (line.takeWhile (· != ':')), trimmed value)

/-- The lines of a text; there is no line behind the last line end. -/
def linesOf (cs : List Char) : List (List Char) :=
  let lines := Text.splitChars (· == '\n') cs
  if lines.getLast? = some [] then lines.dropLast else lines

/-- The bytes of data in base 64, between whose characters there may be spacing. Only what writing
produces is read. -/
def data? (cs : List Char) : Option (List UInt8) :=
  let text := String.ofList (cs.filter fun c => !Text.isSpacing c)
  match Text.Base64.decode? text with
  | some bytes => if Text.Base64.encode bytes = text then some bytes else none
  | none => none

/-- The document of a block whose two names are the same. -/
def Block.document? (block : Block) : Option Document := do
  guard (!block.label.isEmpty && block.closing == block.label)
  let (properties, data) := partsOf block.body
  return ⟨String.ofList block.label, ← (linesOf properties).mapM property?, ← data? data⟩

/-- The documents of a text, provided that every block is one. -/
def documents? (cs : List Char) : Option (List Document) := (blocks cs).mapM Block.document?

/-- The lines of a document that has no properties. -/
def encode (label : String) (bytes : List UInt8) : List (List Char) :=
  [opening ++ label.toList ++ dashes, (Text.Base64.encode bytes).toList,
    ending ++ label.toList ++ dashes]

theorem behind?_self (mark left rest : List Char) : behind? mark left (left ++ rest) = some rest := by
  induction left with
  | nil => cases rest <;> rfl
  | cons m left ih => simp [behind?, ih]

/-- A mark is found behind a text in which its first character does not occur. -/
theorem cut?_append {m : Char} {text : List Char} (h : m ∉ text) (mark rest : List Char) :
    cut? (m :: mark) (text ++ (m :: mark ++ rest)) = some (text, rest) := by
  have hbehind : behind? (m :: mark) (m :: mark) (text ++ (m :: mark ++ rest)) = some rest := by
    induction text with
    | nil => exact behind?_self (m :: mark) (m :: mark) rest
    | cons c text ih =>
      simp only [List.mem_cons, not_or] at h
      simp only [List.cons_append, behind?, if_neg (Ne.symm h.1)]
      exact ih h.2
  simp only [cut?, hbehind, Option.map_some, Option.some.injEq, Prod.mk.injEq, and_true]
  rw [List.take_left' (by simp; omega)]

end TradingStatus.Pem
