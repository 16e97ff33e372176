import TradingStatus.Market.Mic
import TradingStatus.Proofs.Text.Trimmed
import TradingStatus.Proofs.Text.Utf8

/-! Trimmed upper-case texts. The upper-case forms in the tables have no further upper-case forms and
are no blanks; so a text that has been trimmed and raised to upper case once stays as it is when that
is done again. -/

namespace TradingStatus.Text

variable {c : Char} {cs : List Char} {n u : Nat}

/-! The tables -/

namespace UpperRun

/-- A run of one character that is its own upper-case form. -/
def single (n : Nat) : UpperRun := ⟨n, n, 1, n⟩

/-- The upper-case forms of a run are apart from the characters of another one: they lie before or
behind them, or are odd where those are even. -/
def misses (r s : UpperRun) : Bool :=
  Nat.blt (r.upper + (r.last - r.first)) s.first || Nat.blt s.last r.upper ||
    (Nat.beq s.step 2 && (Nat.beq r.step 2 || Nat.beq r.first r.last) &&
      Nat.beq ((r.upper + s.first) % 2) 1)

theorem upperOf?_eq_some_iff {r : UpperRun} :
    r.upperOf? n = some u ↔
      (r.first ≤ n ∧ n ≤ r.last ∧ (n - r.first) % r.step = 0) ∧ r.upper + (n - r.first) = u := by
  unfold upperOf?
  split <;> simp_all

theorem upperOf?_single : (single n).upperOf? u = if u = n then some n else none := by
  unfold upperOf? single
  simp only [Nat.mod_one, and_true]
  split <;> split <;> first | omega | simp_all

theorem upperOf?_of_misses {r s : UpperRun} (h : r.misses s = true)
    (hu : r.upperOf? n = some u) : s.upperOf? u = none := by
  obtain ⟨⟨hfirst, hlast, hstep⟩, rfl⟩ := upperOf?_eq_some_iff.mp hu
  simp only [misses, Bool.or_eq_true, Bool.and_eq_true, Nat.blt_eq, Nat.beq_eq] at h
  refine Option.eq_none_iff_forall_ne_some.mpr fun v hv => ?_
  obtain ⟨⟨hfirst', hlast', hstep'⟩, -⟩ := upperOf?_eq_some_iff.mp hv
  rcases h with (h | h) | ⟨⟨hs, hr | hr⟩, h⟩
  · omega
  · omega
  · rw [hs] at hstep'
    rw [hr] at hstep
    omega
  · rw [hs] at hstep'
    omega

end UpperRun

/-- All characters of the tables, as runs. -/
def lowerRuns : List UpperRun := upperRuns ++ upperExpansions.map fun e => .single e.1

/-- All upper-case forms of the tables, as those of runs. -/
def formRuns : List UpperRun :=
  upperRuns ++ upperExpansions.flatMap fun e => e.2.map .single

/-- Stretches of the characters between the blanks. -/
def stretches : List (Nat × Nat) :=
  [(0x21, 0x84), (0xA1, 0x167F), (0x1681, 0x1FFF), (0x2060, 0x2FFF), (0x3001, 0xD7FF),
    (0xE000, 0x10FFFF)]

theorem formRuns_miss_lowerRuns :
    (formRuns.all fun r => lowerRuns.all r.misses) = true := by decide +kernel

theorem formRuns_in_stretches :
    (formRuns.all fun r => stretches.any fun s =>
      Nat.ble s.1 r.upper && Nat.ble (r.upper + (r.last - r.first)) s.2) = true := by decide +kernel

theorem upperExpansions_ne_nil : ∀ e ∈ upperExpansions, e.2 ≠ [] := by decide +kernel

theorem upperCodes_of_not_lower (h : ∀ r ∈ lowerRuns, r.upperOf? u = none) :
    upperCodes u = [u] := by
  have hruns : upperRuns.findSome? (·.upperOf? u) = none :=
    List.findSome?_eq_none_iff.mpr fun r hr => h r (List.mem_append_left _ hr)
  have hkeys : upperExpansions.lookup u = none := by
    refine List.lookup_eq_none_iff.mpr fun e he => ?_
    have hsingle := h _ (List.mem_append_right _ (List.mem_map_of_mem he))
    rw [UpperRun.upperOf?_single] at hsingle
    simpa [bne_iff_ne] using hsingle
  simp [upperCodes, hruns, hkeys]

/-! Upper-case forms -/

theorem not_isBlank_of_stretch {s : Nat × Nat} (hs : s ∈ stretches) (hfirst : s.1 ≤ u)
    (hlast : u ≤ s.2) : u.isValidChar ∧ isBlank (Char.ofNat u) = false := by
  have hbounds : (0x21 ≤ u ∧ u ≤ 0x84) ∨ (0xA1 ≤ u ∧ u ≤ 0x167F) ∨ (0x1681 ≤ u ∧ u ≤ 0x1FFF) ∨
      (0x2060 ≤ u ∧ u ≤ 0x2FFF) ∨ (0x3001 ≤ u ∧ u ≤ 0xD7FF) ∨ (0xE000 ≤ u ∧ u ≤ 0x10FFFF) := by
    simp only [stretches, List.mem_cons, List.not_mem_nil, or_false] at hs
    rcases hs with rfl | rfl | rfl | rfl | rfl | rfl <;> simp_all
  have hvalid : u.isValidChar := by
    unfold Nat.isValidChar
    omega
  refine ⟨hvalid, ?_⟩
  simp only [isBlank, toNat_ofNat hvalid, Bool.or_eq_false_iff, Bool.and_eq_false_iff,
    decide_eq_false_iff_not, beq_eq_false_iff_ne]
  omega

/-- A code point of the upper-case form of another one: it stays as it is, and it is no blank. -/
structure IsSettled (u : Nat) : Prop where
  upper_eq : upperCodes u = [u]
  valid : u.isValidChar
  not_blank : isBlank (Char.ofNat u) = false

theorem isSettled_of_form {r : UpperRun} (hr : r ∈ formRuns) (hu : r.upperOf? n = some u) :
    IsSettled u := by
  obtain ⟨⟨hfirst, hlast, -⟩, hupper⟩ := UpperRun.upperOf?_eq_some_iff.mp hu
  obtain ⟨s, hs, hstretch⟩ := List.any_eq_true.mp (List.all_eq_true.mp formRuns_in_stretches r hr)
  rw [Bool.and_eq_true, Nat.ble_eq, Nat.ble_eq] at hstretch
  obtain ⟨hvalid, hblank⟩ : u.isValidChar ∧ isBlank (Char.ofNat u) = false :=
    not_isBlank_of_stretch hs (by omega) (by omega)
  have hmisses := List.all_eq_true.mp (List.all_eq_true.mp formRuns_miss_lowerRuns r hr)
  have hupper := upperCodes_of_not_lower fun s hs => UpperRun.upperOf?_of_misses (hmisses s hs) hu
  exact ⟨hupper, hvalid, hblank⟩

/-- A code point has itself as its upper-case form, or only ones that are settled. -/
theorem upperCodes_cases (n : Nat) :
    upperCodes n = [n] ∨ (upperCodes n ≠ [] ∧ ∀ u ∈ upperCodes n, IsSettled u) := by
  unfold upperCodes
  cases hrun : upperRuns.findSome? (·.upperOf? n) with
  | some u =>
    obtain ⟨r, hr, hu⟩ := List.exists_of_findSome?_eq_some hrun
    refine .inr ⟨List.cons_ne_nil _ _, List.forall_mem_singleton.mpr ?_⟩
    exact isSettled_of_form (List.mem_append_left _ hr) hu
  | none =>
    cases hcodes : upperExpansions.lookup n with
    | none => exact .inl rfl
    | some codes =>
      obtain ⟨_, _, hexpansions, -⟩ := List.lookup_eq_some_iff.mp hcodes
      have hmem : (n, codes) ∈ upperExpansions := by
        rw [hexpansions]
        exact List.mem_append_right _ List.mem_cons_self
      refine .inr ⟨upperExpansions_ne_nil _ hmem, fun u hu => ?_⟩
      have hform : UpperRun.single u ∈ formRuns := List.mem_append_right _
        (List.mem_flatMap.mpr ⟨_, hmem, List.mem_map_of_mem hu⟩)
      exact isSettled_of_form hform (UpperRun.upperOf?_single.trans (if_pos rfl))

theorem upperChar_cases (c : Char) :
    upperChar c = [c] ∨
      (upperChar c ≠ [] ∧ ∀ u ∈ upperChar c, upperChar u = [u] ∧ isBlank u = false) := by
  unfold upperChar
  rcases upperCodes_cases c.toNat with h | ⟨hne, h⟩
  · rw [h, List.map_singleton, Char.ofNat_toNat]
    exact .inl rfl
  · refine .inr ⟨List.map_eq_nil_iff.not.mpr hne, List.forall_mem_map.mpr fun u hu => ?_⟩
    obtain ⟨hupper, hvalid, hblank⟩ := h u hu
    rw [toNat_ofNat hvalid, hupper]
    exact ⟨rfl, hblank⟩

theorem upperChar_ne_nil (c : Char) : upperChar c ≠ [] := by
  rcases upperChar_cases c with h | h
  · rw [h]
    exact List.cons_ne_nil _ _
  · exact h.1

theorem isBlank_of_mem_upperChar {u : Char} (hc : isBlank c = false) (hu : u ∈ upperChar c) :
    isBlank u = false := by
  rcases upperChar_cases c with h | h
  · rw [h] at hu
    obtain rfl := List.mem_singleton.mp hu
    exact hc
  · exact (h.2 u hu).2

theorem flatMap_upperChar (c : Char) : (upperChar c).flatMap upperChar = upperChar c := by
  have hself : ∀ u ∈ upperChar c, upperChar u = [u] := by
    rcases upperChar_cases c with h | h
    · rw [h]
      exact List.forall_mem_singleton.mpr h
    · exact fun u hu => (h.2 u hu).1
  rw [List.flatMap_congr hself, List.flatMap_singleton']

@[simp] theorem upper_upper (s : String) : upper (upper s) = upper s := by
  simp only [upper, String.toList_ofList, List.flatMap_assoc, flatMap_upperChar]

/-! Trimmed texts -/

theorem IsTrimmed.flatMap_upperChar (h : IsTrimmed cs) : IsTrimmed (cs.flatMap upperChar) where
  head u hu := by
    cases cs with
    | nil => cases hu
    | cons c cs =>
      rw [List.flatMap_cons, List.head?_append_of_ne_nil _ (upperChar_ne_nil c)] at hu
      exact isBlank_of_mem_upperChar (h.head c rfl) (List.mem_of_head? hu)
  last u hu := by
    rcases List.eq_nil_or_concat cs with rfl | ⟨cs, c, rfl⟩
    · cases hu
    · rw [List.concat_eq_append] at h hu
      rw [List.flatMap_append, List.flatMap_singleton,
        List.getLast?_append_of_ne_nil _ (upperChar_ne_nil c)] at hu
      exact isBlank_of_mem_upperChar (h.last c List.getLast?_concat) (List.mem_of_getLast? hu)

theorem trim_upper_trim (s : String) : trim (upper (trim s)) = upper (trim s) := by
  simp only [trim, upper, String.toList_ofList]
  rw [(isTrimmed_trimChars s.toList).flatMap_upperChar.trimChars_eq]

end TradingStatus.Text

namespace TradingStatus.Mic

/-- An identifier means itself. -/
@[simp] theorem normalize_normalize (s : String) : normalize (normalize s) = normalize s := by
  rw [normalize, normalize, Text.trim_upper_trim, Text.upper_upper]

theorem normalize_of_isBlankText {s : String} (h : Text.isBlankText s = true) :
    normalize s = "" := by
  rw [normalize, Text.trim_of_isBlankText h]
  rfl

theorem orDefault_of_not_isBlankText {s : String} (h : Text.isBlankText s = false)
    (default : String) : orDefault (some s) default = normalize s := by
  simp [orDefault, h]

end TradingStatus.Mic
