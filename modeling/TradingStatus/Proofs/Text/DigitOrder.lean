import Mathlib.Data.String.Basic
import TradingStatus.Proofs.Text.Numerals

/-! The order of texts that hold numbers. Numbers of one width are in the order of their digits,
whatever follows them; digits of any widths are in the order that they have with a mark behind them
that comes before all digits. -/

namespace TradingStatus.Text

variable {a b x y : List Char}

theorem digit_lt_digit {d e : Nat} (hde : d < e) (he : e < 10) :
    Char.ofNat ('0'.toNat + d) < Char.ofNat ('0'.toNat + e) := by
  have hall : ∀ e < 10, ∀ d < e, Char.ofNat ('0'.toNat + d) < Char.ofNat ('0'.toNat + e) := by
    decide
  exact hall e he d hde

theorem append_le_append (front : List Char) (h : x ≤ y) : front ++ x ≤ front ++ y := by
  obtain hlt | rfl := lt_or_eq_of_le h
  · exact le_of_lt (List.append_left_lt hlt)
  · exact le_refl _

theorem decimalDigits_append_lt {width m n : Nat} (hmn : m < n) (hn : n < tenTo width)
    (x y : List Char) : decimalDigits width m ++ x < decimalDigits width n ++ y := by
  induction width generalizing m n x y with
  | zero =>
    have hone : n < 1 := hn
    omega
  | succ width ih =>
    rw [tenTo_succ] at hn
    simp only [decimalDigits, List.append_assoc, List.singleton_append]
    by_cases hfront : m / 10 < n / 10
    · exact ih hfront (by omega) _ _
    · have hsame : m / 10 = n / 10 := by omega
      rw [hsame]
      apply List.append_left_lt
      exact List.cons_lt_cons_iff.mpr (.inl (digit_lt_digit (by omega) (by omega)))

/-- The number counts first, and then what follows it. -/
theorem decimalDigits_append_le {width m n : Nat} (hn : n < tenTo width)
    (h : m < n ∨ m = n ∧ x ≤ y) : decimalDigits width m ++ x ≤ decimalDigits width n ++ y := by
  obtain hmn | ⟨rfl, hxy⟩ := h
  · exact le_of_lt (decimalDigits_append_lt hmn hn x y)
  · exact append_le_append _ hxy

theorem append_mark_lt_iff {mark : Char} (ha : ∀ c ∈ a, mark < c) (hb : ∀ c ∈ b, mark < c)
    (hne : a ≠ b) : a ++ mark :: x < b ++ mark :: y ↔ a < b := by
  induction a generalizing b with
  | nil =>
    cases b with
    | nil => exact absurd rfl hne
    | cons d b =>
      have hd := hb d List.mem_cons_self
      exact iff_of_true (List.cons_lt_cons_iff.mpr (.inl hd)) (List.nil_lt_cons d b)
  | cons c a ih =>
    cases b with
    | nil =>
      have hc := ha c List.mem_cons_self
      refine iff_of_false ?_ (List.not_lt_nil _)
      intro h
      obtain hlt | ⟨heq, -⟩ := List.cons_lt_cons_iff.mp h
      · exact absurd hlt (not_lt_of_gt hc)
      · exact absurd heq (ne_of_gt hc)
    | cons d b =>
      rw [List.cons_append, List.cons_append, List.cons_lt_cons_iff, List.cons_lt_cons_iff]
      refine or_congr_right (and_congr_right ?_)
      rintro rfl
      apply ih
      · exact fun e he => ha e (List.mem_cons_of_mem _ he)
      · exact fun e he => hb e (List.mem_cons_of_mem _ he)
      · exact fun h => hne (h ▸ rfl)

theorem append_mark_le_iff {mark : Char} (ha : ∀ c ∈ a, mark < c) (hb : ∀ c ∈ b, mark < c)
    (hne : a ≠ b) : a ++ mark :: x ≤ b ++ mark :: y ↔ a ≤ b := by
  rw [← not_lt, ← not_lt, append_mark_lt_iff hb ha hne.symm]

end TradingStatus.Text
