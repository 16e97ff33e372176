import TradingStatus.Json.Reader
import TradingStatus.Json.Writer
import TradingStatus.Proofs.Text.Hex

/-! Texts are read back from what is written of them: character by character, each of them from its
escape, up to the quote that closes the text. -/

namespace TradingStatus.Json

/-! Characters -/

/-- A character is written with a backslash and one more character, as a control by its number, or
as itself. -/
theorem escaped_cases (c : Char) :
    (∃ e, e ≠ 'u' ∧ simpleEscape? e = some c ∧ escaped c = ['\\', e]) ∨
    (c.toNat < 0x20 ∧ escaped c = '\\' :: 'u' :: Text.hexDigits 4 c.toNat) ∨
    (c ≠ '"' ∧ c ≠ '\\' ∧ ¬c.toNat < 0x20 ∧ escaped c = [c]) := by
  by_cases hsimple : c ∈ ['"', '\\', '\n', '\r', '\t', '\x08', '\x0c']
  · left
    simp only [List.mem_cons, List.not_mem_nil, or_false] at hsimple
    rcases hsimple with rfl | rfl | rfl | rfl | rfl | rfl | rfl <;>
      exact ⟨_, by decide, rfl, rfl⟩
  · right
    simp only [List.mem_cons, List.not_mem_nil, or_false, not_or] at hsimple
    obtain ⟨hquote, hslash, hline, hreturn, htab, hback, hfeed⟩ := hsimple
    unfold escaped
    rw [if_neg hquote, if_neg hslash, if_neg hline, if_neg hreturn, if_neg htab, if_neg hback,
      if_neg hfeed]
    by_cases hc : c.toNat < 0x20
    · exact .inl ⟨hc, if_pos hc⟩
    · exact .inr ⟨hquote, hslash, hc, if_neg hc⟩

theorem length_le_flatMap_escaped (cs : List Char) : cs.length ≤ (cs.flatMap escaped).length := by
  induction cs with
  | nil => exact Nat.le_refl _
  | cons c cs ih =>
    have hescaped : 0 < (escaped c).length := by
      rcases escaped_cases c with ⟨e, -, -, h⟩ | ⟨-, h⟩ | ⟨-, -, -, h⟩ <;> rw [h] <;> simp
    rw [List.flatMap_cons, List.length_append, List.length_cons]
    omega

theorem fourHex?_hexDigits {n : Nat} (hn : n < 0x10000) (next : Char) (rest : List Char) :
    fourHex? (Text.hexDigits 4 n ++ next :: rest) = some (n, next :: rest) := by
  have hdigit (k : Nat) : Text.Hex.value? (Text.hexDigit (k % 16)) = some (k % 16) :=
    Text.Hex.value?_hexDigit _ (Nat.mod_lt _ (by decide))
  have hvalue : ((n / 16 / 16 / 16 % 16 * 16 + n / 16 / 16 % 16) * 16 + n / 16 % 16) * 16 +
      n % 16 = n := by
    omega
  simp only [Text.hexDigits, List.nil_append, List.cons_append, fourHex?, hdigit]
  exact congrArg (fun n => some (n, next :: rest)) hvalue

/-- What is no half of a pair stands alone. -/
theorem alone_of_unpaired {n : Nat} (hhigh : isHighSurrogate n = false)
    (hlow : isLowSurrogate n = false) (rest : List Char) :
    alone n rest = .ok (Char.ofNat n, rest) := by
  rw [alone, hhigh, hlow]
  rfl

/-- A control is read from its number, and does not go on with what follows. -/
theorem unicodeEscape_hexDigits {c : Char} (hc : c.toNat < 0x20) (next : Char) (rest : List Char) :
    unicodeEscape ('u' :: (Text.hexDigits 4 c.toNat ++ next :: rest)) = .ok (c, next :: rest) := by
  have hhigh : isHighSurrogate c.toNat = false := by
    unfold isHighSurrogate
    rw [decide_eq_false (by omega), Bool.false_and]
  have hlow : isLowSurrogate c.toNat = false := by
    unfold isLowSurrogate
    rw [decide_eq_false (by omega), Bool.false_and]
  have halone := alone_of_unpaired hhigh hlow (next :: rest)
  rw [Char.ofNat_toNat] at halone
  unfold unicodeEscape
  rw [List.tail_cons, fourHex?_hexDigits (by omega)]
  simp only [hhigh, ← halone]
  split <;> simp

theorem textBody_escaped (opening : List Char) (fuel : Nat) (c next : Char) (rest : List Char) :
    textBody opening (fuel + 1) (escaped c ++ next :: rest) =
      (textBody opening fuel (next :: rest)).map fun (cs, left) => (c :: cs, left) := by
  rw [textBody.eq_def]
  rcases escaped_cases c with ⟨e, he, hsimple, h⟩ | ⟨hc, h⟩ | ⟨hquote, hslash, hc, h⟩
  · rw [h]
    simp only [List.cons_append, List.nil_append, if_neg he, hsimple]
    cases textBody opening fuel (next :: rest) <;> rfl
  · rw [h]
    simp only [List.cons_append, unicodeEscape_hexDigits hc, bind, Except.bind]
    cases textBody opening fuel (next :: rest) <;> rfl
  · rw [h]
    simp only [List.cons_append, List.nil_append, if_neg hquote, if_neg hslash, if_neg hc]
    cases textBody opening fuel (next :: rest) <;> rfl

/-! Texts -/

theorem textBody_flatMap_escaped (opening cs rest : List Char) {fuel : Nat}
    (hfuel : cs.length < fuel) :
    textBody opening fuel (cs.flatMap escaped ++ '"' :: rest) = .ok (cs, rest) := by
  induction cs generalizing fuel with
  | nil =>
    obtain ⟨fuel, rfl⟩ : ∃ k, fuel = k + 1 := Nat.exists_eq_add_one.mpr hfuel
    rw [List.flatMap_nil, List.nil_append, textBody.eq_def]
    simp only [if_pos]
  | cons c cs ih =>
    obtain ⟨fuel, rfl⟩ : ∃ k, fuel = k + 1 := Nat.exists_eq_add_one.mpr (Nat.zero_lt_of_lt hfuel)
    have hrest : textBody opening fuel (cs.flatMap escaped ++ '"' :: rest) = .ok (cs, rest) :=
      ih (Nat.lt_of_succ_lt_succ hfuel)
    rw [List.flatMap_cons, List.append_assoc]
    -- What follows the character is not empty: the closing quote is there at least.
    cases hleft : cs.flatMap escaped ++ '"' :: rest with
    | nil => simp at hleft
    | cons next left =>
      rw [hleft] at hrest
      rw [textBody_escaped, hrest]
      rfl

theorem literal_append (s : String) (rest : List Char) :
    literal s ++ rest = '"' :: (s.toList.flatMap escaped ++ '"' :: rest) := by
  simp [literal]

/-- A text is read back, and nothing behind its closing quote is touched. -/
theorem text_literal (s : String) (rest : List Char) :
    text (literal s ++ rest) = .ok (s, rest) := by
  have hfuel : s.toList.length < (literal s ++ rest).length := by
    have := length_le_flatMap_escaped s.toList
    rw [literal_append, List.length_cons, List.length_append]
    omega
  have htail : (literal s ++ rest).tail = s.toList.flatMap escaped ++ '"' :: rest := by
    rw [literal_append, List.tail_cons]
  rw [text, htail, textBody_flatMap_escaped _ _ _ hfuel]
  exact congrArg (fun s => Except.ok (s, rest)) String.ofList_toList

theorem value_literal (room : Room) (fuel : Nat) (s : String) (rest : List Char) :
    value room (fuel + 1) (literal s ++ rest) = .ok (.str s, rest) := by
  have htext := text_literal s rest
  rw [literal_append] at htext ⊢
  rw [value.eq_def]
  simp only [if_pos, htext]
  rfl

/-! Objects -/

/-- The members of an object whose values are texts. -/
def texts (fields : List (String × String)) : List (String × Json) :=
  fields.map fun (name, value) => (name, .str value)

end TradingStatus.Json
