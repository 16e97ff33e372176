import Mathlib.Data.List.DropRight
import TradingStatus.Text.Blank

/-! Trimmed texts: they neither begin nor end with a blank, and trimming leaves them as they are. -/

namespace TradingStatus.Text

variable {c : Char} {cs : List Char}

theorem isBlank_of_mem_head?_dropWhile (h : c ∈ (cs.dropWhile isBlank).head?) :
    isBlank c = false := by
  have hhead := List.head?_dropWhile_not isBlank cs
  rw [Option.mem_def.mp h] at hhead
  exact hhead

theorem dropWhile_isBlank_eq_self (h : ∀ c ∈ cs.head?, isBlank c = false) :
    cs.dropWhile isBlank = cs := by
  cases cs with
  | nil => rfl
  | cons c cs => rw [List.dropWhile_cons_of_neg (by simp [h c rfl])]

/-- A text neither begins nor ends with a blank. -/
structure IsTrimmed (cs : List Char) : Prop where
  head : ∀ c ∈ cs.head?, isBlank c = false
  last : ∀ c ∈ cs.getLast?, isBlank c = false

theorem isTrimmed_trimChars (cs : List Char) : IsTrimmed (trimChars cs) where
  head c hc := by
    -- What is dropped at the end leaves the beginning as it is.
    obtain ⟨dropped, hdropped⟩ : trimChars cs <+: cs.dropWhile isBlank :=
      List.rdropWhile_prefix isBlank _
    have hne : trimChars cs ≠ [] := by
      rintro hnil
      rw [hnil] at hc
      cases hc
    have hhead : c ∈ (cs.dropWhile isBlank).head? := by
      rw [← hdropped, List.head?_append_of_ne_nil _ hne]
      exact hc
    exact isBlank_of_mem_head?_dropWhile hhead
  last c hc := by
    rw [trimChars, trimWhere, List.getLast?_reverse] at hc
    exact isBlank_of_mem_head?_dropWhile hc

theorem IsTrimmed.trimChars_eq (h : IsTrimmed cs) : trimChars cs = cs := by
  have hlast : ∀ c ∈ cs.reverse.head?, isBlank c = false := by
    rw [List.head?_reverse]
    exact h.last
  rw [trimChars, trimWhere, dropWhile_isBlank_eq_self h.head, dropWhile_isBlank_eq_self hlast,
    List.reverse_reverse]

theorem isTrimmed_of_not_blank (h : ∀ c ∈ cs, isBlank c = false) : IsTrimmed cs :=
  ⟨fun c hc => h c (List.mem_of_head? hc), fun c hc => h c (List.mem_of_getLast? hc)⟩

theorem trimChars_of_not_blank (h : ∀ c ∈ cs, isBlank c = false) : trimChars cs = cs :=
  (isTrimmed_of_not_blank h).trimChars_eq

/-- Trimming takes away what is around a trimmed text. -/
theorem IsTrimmed.trimChars_append {before after : List Char} (h : IsTrimmed cs)
    (hbefore : ∀ c ∈ before, isBlank c = true) (hafter : ∀ c ∈ after, isBlank c = true) :
    trimChars (before ++ (cs ++ after)) = cs := by
  have hreverse : ∀ c ∈ after.reverse, isBlank c = true := fun c hc =>
    hafter c (List.mem_reverse.mp hc)
  have hlast : ∀ c ∈ cs.reverse.head?, isBlank c = false := by
    rw [List.head?_reverse]
    exact h.last
  rw [trimChars, trimWhere, List.dropWhile_append_of_pos hbefore]
  cases cs with
  | nil => simp [List.dropWhile_eq_nil_iff.mpr hafter]
  | cons c cs =>
    rw [List.cons_append, List.dropWhile_cons_of_neg (by simp [h.head c rfl]), ← List.cons_append,
      List.reverse_append, List.dropWhile_append_of_pos hreverse, dropWhile_isBlank_eq_self hlast,
      List.reverse_reverse]

/-- Trimming leaves nothing of a blank text. -/
theorem trim_of_isBlankText {s : String} (h : isBlankText s = true) : trim s = "" := by
  rw [trim, (trimChars_eq_nil_iff s.toList).mpr h]

end TradingStatus.Text
