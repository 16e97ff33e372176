import TradingStatus.Proofs.Text.Hex
import TradingStatus.Text.Base64

/-! Bytes that are written in base 64 are read back. The text of bytes has neither blanks nor dashes
in it, and the first byte of what a text writes tells how the text begins. -/

namespace TradingStatus.Text.Base64

variable {bytes : List UInt8} {c : Char} {n : Nat}

/-! One character -/

theorem value?_char : ∀ n < 64, value? (char n) = some n := by decide

theorem toNat_lt_of_value? (h : value? c = some n) : c.toNat < 128 := by
  have hle : ∀ {last : Char}, c ≤ last → last.toNat < 128 → c.toNat < 128 := fun hc hlast =>
    Nat.lt_of_le_of_lt (UInt32.le_iff_toNat_le.mp hc) hlast
  unfold value? at h
  split_ifs at h with hupper hlower hdigit hplus hslash
  · exact hle hupper.2 (by decide)
  · exact hle hlower.2 (by decide)
  · exact hle hdigit.2 (by decide)
  · rw [hplus]
    decide
  · rw [hslash]
    decide

/-- A character stands for six bits that are written as that character. -/
theorem eq_char_of_value? (h : value? c = some n) : n < 64 ∧ c = char n := by
  have hc := forall_ascii
    (P := fun c => (value? c).all (fun n => decide (n < 64 ∧ c = char n)) = true) (by decide)
    (toNat_lt_of_value? h)
  rw [h] at hc
  exact of_decide_eq_true hc

/-! Writing and reading -/

/-- The groups of six bits that bytes consist of. What is missing of the last group is zero. -/
def sextets : List UInt8 → List Nat
  | [] => []
  | [a] => [a.toNat / 4, a.toNat % 4 * 16]
  | [a, b] => [a.toNat / 4, a.toNat % 4 * 16 + b.toNat / 16, b.toNat % 16 * 4]
  | a :: b :: c :: rest =>
    a.toNat / 4 :: (a.toNat % 4 * 16 + b.toNat / 16) :: (b.toNat % 16 * 4 + c.toNat / 64) ::
      c.toNat % 64 :: sextets rest

/-- How many characters fill up the text of a number of bytes. -/
def fillOf (count : Nat) : Nat := (3 - count % 3) % 3

theorem fillOf_add_three (count : Nat) : fillOf (count + 3) = fillOf count := by
  unfold fillOf
  omega

/-- Bytes are written as a character for each group, and the fill. -/
theorem encodeBytes_eq (bytes : List UInt8) :
    encodeBytes bytes = (sextets bytes).map char ++ List.replicate (fillOf bytes.length) '=' := by
  induction bytes using encodeBytes.induct with
  | case1 => rfl
  | case2 a => rfl
  | case3 a b => rfl
  | case4 a b c rest ih =>
    have hlength : (a :: b :: c :: rest).length = rest.length + 3 := rfl
    rw [hlength, fillOf_add_three, encodeBytes, sextets, ih]
    rfl

theorem sextets_lt (bytes : List UInt8) : ∀ n ∈ sextets bytes, n < 64 := by
  induction bytes using sextets.induct with
  | case1 => simp [sextets]
  | case2 a =>
    have ha := a.toNat_lt
    simp only [sextets, List.forall_mem_cons]
    exact ⟨by omega, by omega, by simp⟩
  | case3 a b =>
    have ha := a.toNat_lt
    have hb := b.toNat_lt
    simp only [sextets, List.forall_mem_cons]
    exact ⟨by omega, by omega, by omega, by simp⟩
  | case4 a b c rest ih =>
    have ha := a.toNat_lt
    have hb := b.toNat_lt
    have hc := c.toNat_lt
    simp only [sextets, List.forall_mem_cons]
    exact ⟨by omega, by omega, by omega, by omega, ih⟩

theorem length_sextets (bytes : List UInt8) :
    (sextets bytes).length = bytes.length + (bytes.length + 2) / 3 := by
  induction bytes using sextets.induct with
  | case1 => rfl
  | case2 a => simp [sextets]
  | case3 a b => simp [sextets]
  | case4 a b c rest ih =>
    simp only [sextets, List.length_cons, ih]
    omega

theorem length_encode (bytes : List UInt8) :
    (encode bytes).toList.length = (bytes.length + 2) / 3 * 4 := by
  rw [encode, String.toList_ofList, encodeBytes_eq, List.length_append, List.length_map,
    length_sextets, List.length_replicate, fillOf]
  omega

/-- The groups of bytes make up the bytes. -/
theorem pack_sextets (bytes : List UInt8) : pack (sextets bytes) = bytes := by
  have hbyte : ∀ (b : UInt8) (n : Nat), n = b.toNat → UInt8.ofNat n = b := by
    rintro b n rfl
    exact UInt8.ofNat_toNat
  induction bytes using sextets.induct with
  | case1 => rfl
  | case2 a =>
    simp only [sextets, pack]
    rw [hbyte a _ (by omega)]
  | case3 a b =>
    have hb := b.toNat_lt
    simp only [sextets, pack]
    rw [hbyte a _ (by omega), hbyte b _ (by omega)]
  | case4 a b c rest ih =>
    have hb := b.toNat_lt
    have hc := c.toNat_lt
    simp only [sextets, pack, ih]
    rw [hbyte a _ (by omega), hbyte b _ (by omega), hbyte c _ (by omega)]

/-- The fill is the one that the number of characters before it asks for. -/
theorem fillFits_sextets (bytes : List UInt8) :
    fillFits (sextets bytes).length (fillOf bytes.length) = true := by
  have hcases : bytes.length % 3 = 0 ∨ bytes.length % 3 = 1 ∨ bytes.length % 3 = 2 := by omega
  rw [length_sextets]
  unfold fillFits fillOf
  rcases hcases with h | h | h
  · rw [show (bytes.length + (bytes.length + 2) / 3) % 4 = 0 by omega, h]
    simp
  · rw [show (bytes.length + (bytes.length + 2) / 3) % 4 = 2 by omega, h]
    rfl
  · rw [show (bytes.length + (bytes.length + 2) / 3) % 4 = 3 by omega, h]
    rfl

/-- Bytes are read back from their text. -/
theorem decode?_encode (bytes : List UInt8) : decode? (encode bytes) = some bytes := by
  have hvalue : ∀ n ∈ sextets bytes, value? (char n) = some n := fun n hn =>
    value?_char n (sextets_lt bytes n hn)
  have hdata : ∀ c ∈ (sextets bytes).map char, (value? c).isSome = true := by
    intro c hc
    obtain ⟨n, hn, rfl⟩ := List.mem_map.mp hc
    rw [hvalue n hn]
    rfl
  have hvalues : ((sextets bytes).map char).filterMap value? = sextets bytes := by
    rw [List.filterMap_map]
    exact (List.filterMap_congr hvalue).trans List.filterMap_some
  -- The fill is where the data ends.
  have hfill : (List.replicate (fillOf bytes.length) '=').takeWhile
      (fun c => (value? c).isSome) = [] := by
    cases fillOf bytes.length <;> rfl
  have hrest : (List.replicate (fillOf bytes.length) '=').dropWhile
      (fun c => (value? c).isSome) = List.replicate (fillOf bytes.length) '=' := by
    cases fillOf bytes.length <;> rfl
  unfold decode?
  simp only [encode, String.toList_ofList, encodeBytes_eq]
  rw [List.takeWhile_append_of_pos hdata, List.dropWhile_append_of_pos hdata, hfill, hrest,
    List.append_nil, hvalues, List.length_map, List.length_replicate, fillFits_sextets,
    pack_sextets]
  simp

/-! What texts look like -/

theorem mem_encode (h : c ∈ (encode bytes).toList) : (∃ n < 64, c = char n) ∨ c = '=' := by
  rw [encode, String.toList_ofList, encodeBytes_eq] at h
  rcases List.mem_append.mp h with h | h
  · obtain ⟨n, hn, rfl⟩ := List.mem_map.mp h
    exact .inl ⟨n, sextets_lt bytes n hn, rfl⟩
  · exact .inr (List.mem_replicate.mp h).2

/-- A character is neither a blank nor a dash, and a byte could hold it. -/
structure IsPlain (c : Char) : Prop where
  blank : isBlank c = false
  dash : c ≠ '-'
  ascii : c.toNat < 128

theorem isPlain_char : ∀ n < 64,
    isBlank (char n) = false ∧ char n ≠ '-' ∧ (char n).toNat < 128 := by decide

theorem isPlain_of_mem_encode (h : c ∈ (encode bytes).toList) : IsPlain c := by
  rcases mem_encode h with ⟨n, hn, rfl⟩ | rfl
  · obtain ⟨hblank, hdash, hascii⟩ := isPlain_char n hn
    exact ⟨hblank, hdash, hascii⟩
  · exact ⟨rfl, by decide, by decide⟩

theorem pack_eq_cons {values : List Nat} {b : UInt8} (h : pack values = b :: bytes) :
    ∃ first second rest, values = first :: second :: rest ∧
      b = UInt8.ofNat (first * 4 + second / 16) := by
  cases values using pack.induct with
  | case1 first second third fourth rest => exact ⟨first, second, _, rfl, (List.cons.inj h).1.symm⟩
  | case2 first second third => exact ⟨first, second, _, rfl, (List.cons.inj h).1.symm⟩
  | case3 first second => exact ⟨first, second, _, rfl, (List.cons.inj h).1.symm⟩
  | case4 values h1 h2 h3 =>
    rw [pack] at h
    · cases h
    · exact h1
    · exact h2
    · exact h3

/-- A text begins with the character that stands for the first six bits of what it writes. -/
theorem exists_tail_of_decode? {text : String} {b : UInt8} (h : decode? text = some (b :: bytes)) :
    ∃ tail, text.toList = char (b.toNat / 4) :: tail := by
  unfold decode? at h
  simp only [Option.ite_none_right_eq_some, Option.some.injEq] at h
  obtain ⟨first, second, rest, hvalues, rfl⟩ := pack_eq_cons h.2
  have hmem : ∀ n ∈ [first, second], n < 64 := by
    intro n hn
    have hn : n ∈ (text.toList.takeWhile fun c => (value? c).isSome).filterMap value? := by
      rw [hvalues]
      exact List.mem_of_mem_take (i := 2) hn
    obtain ⟨c, -, hc⟩ := List.mem_filterMap.mp hn
    exact (eq_char_of_value? hc).1
  have hfirst := hmem first (by simp)
  have hsecond := hmem second (by simp)
  have hbyte : (UInt8.ofNat (first * 4 + second / 16)).toNat / 4 = first := by
    rw [UInt8.toNat_ofNat']
    omega
  rw [hbyte]
  cases htext : text.toList with
  | nil =>
    rw [htext] at hvalues
    cases hvalues
  | cons c tail =>
    rw [htext] at hvalues
    cases hc : value? c with
    | none =>
      rw [List.takeWhile_cons_of_neg (by simp [hc])] at hvalues
      cases hvalues
    | some n =>
      rw [List.takeWhile_cons_of_pos (by simp [hc]), List.filterMap_cons_some hc] at hvalues
      obtain rfl := (List.cons.inj hvalues).1
      exact ⟨tail, by rw [(eq_char_of_value? hc).2]⟩

end TradingStatus.Text.Base64
