import TradingStatus.Proofs.Text.Trimmed
import TradingStatus.Text.Hex

/-! Bytes that are written in hexadecimal digits are read back, whatever the case of the letters
among the digits, and trimming leaves the digits as they are. -/

namespace TradingStatus.Text

variable {c : Char} {cs : List Char} {n : Nat}

/-- What holds of the first 128 characters one by one holds of every one of them. -/
theorem forall_ascii {P : Char → Prop} (h : ∀ n < 128, P (Char.ofNat n)) (hc : c.toNat < 128) :
    P c := by
  have hchar := h c.toNat hc
  rwa [Char.ofNat_toNat] at hchar

theorem isBlank_of_isSpacing (h : isSpacing c = true) : isBlank c = true := by
  simp only [isSpacing, Bool.or_eq_true, beq_iff_eq] at h
  rcases h with rfl | h
  · rfl
  · simp [isBlank, h]

theorem not_isSpacing_of_not_isBlank (h : isBlank c = false) : isSpacing c = false := by
  cases hspacing : isSpacing c with
  | false => rfl
  | true =>
    rw [isBlank_of_isSpacing hspacing] at h
    cases h

theorem toNat_hexDigit_lt : ∀ n < 16, (hexDigit n).toNat < 128 := by decide

theorem exists_hexDigit_of_mem {width : Nat} (h : c ∈ hexDigits width n) :
    ∃ d < 16, c = hexDigit d := by
  induction width generalizing n with
  | zero => cases h
  | succ width ih =>
    rcases List.mem_append.mp h with h | h
    · exact ih h
    · exact ⟨n % 16, Nat.mod_lt _ (by decide), List.mem_singleton.mp h⟩

namespace Hex

variable {bytes : List UInt8}

theorem value?_hexDigit : ∀ n, n < 16 → value? (hexDigit n) = some n := by decide

/-! One digit, in lower case or in upper case -/

theorem toLower_hexDigit : ∀ n < 16, (hexDigit n).toLower = hexDigit n := by decide

theorem toNat_lt_of_toLower (hn : n < 16) (h : c.toLower = hexDigit n) : c.toNat < 128 := by
  have hlower : c.toLower.toNat < 128 := by
    rw [h]
    exact toNat_hexDigit_lt n hn
  unfold Char.toLower at hlower
  split at hlower
  · next hupper => exact Nat.lt_of_le_of_lt (UInt32.le_iff_toNat_le.mp hupper.2) (by decide)
  · exact hlower

theorem value?_of_toLower (hn : n < 16) (h : c.toLower = hexDigit n) : value? c = some n :=
  forall_ascii (P := fun c => ∀ n < 16, c.toLower = hexDigit n → value? c = some n) (by decide)
    (toNat_lt_of_toLower hn h) n hn h

theorem isBlank_of_toLower (hn : n < 16) (h : c.toLower = hexDigit n) : isBlank c = false :=
  forall_ascii (P := fun c => ∀ n < 16, c.toLower = hexDigit n → isBlank c = false) (by decide)
    (toNat_lt_of_toLower hn h) n hn h

theorem isSpacing_of_toLower (hn : n < 16) (h : c.toLower = hexDigit n) : isSpacing c = false :=
  not_isSpacing_of_not_isBlank (isBlank_of_toLower hn h)

/-! Texts of digits -/

/-- A text writes bytes in digits, whatever the case of the letters among them. -/
def Spells (cs : List Char) (bytes : List UInt8) : Prop :=
  cs.map Char.toLower = bytes.flatMap fun b => hexDigits 2 b.toNat

theorem spells_encode (bytes : List UInt8) : Spells (encode bytes).toList bytes := by
  rw [Spells, encode, String.toList_ofList]
  refine List.map_congr_left (fun c hc => ?_) |>.trans (List.map_id _)
  obtain ⟨b, -, hdigit⟩ := List.mem_flatMap.mp hc
  obtain ⟨d, hd, rfl⟩ := exists_hexDigit_of_mem hdigit
  exact toLower_hexDigit d hd

theorem Spells.exists_digit (h : Spells cs bytes) (hc : c ∈ cs) :
    ∃ d < 16, c.toLower = hexDigit d := by
  have hmem : c.toLower ∈ bytes.flatMap fun b => hexDigits 2 b.toNat := by
    rw [← h]
    exact List.mem_map_of_mem hc
  obtain ⟨b, -, hdigit⟩ := List.mem_flatMap.mp hmem
  exact exists_hexDigit_of_mem hdigit

theorem Spells.isTrimmed (h : Spells cs bytes) : IsTrimmed cs := by
  refine isTrimmed_of_not_blank fun c hc => ?_
  obtain ⟨d, hd, hdigit⟩ := h.exists_digit hc
  exact isBlank_of_toLower hd hdigit

theorem Spells.length (h : Spells cs bytes) : cs.length = 2 * bytes.length := by
  have hlength := congrArg List.length h
  rw [List.length_map] at hlength
  rw [hlength]
  clear h hlength
  induction bytes with
  | nil => rfl
  | cons b bytes ih =>
    rw [List.flatMap_cons, List.length_append, ih, List.length_cons]
    simp only [hexDigits, List.nil_append, List.cons_append, List.length_cons, List.length_nil]
    omega

/-- Bytes are read back from their digits, whatever the case of the letters. -/
theorem Spells.decodeChars? (h : Spells cs bytes) : Hex.decodeChars? cs = some bytes := by
  induction bytes generalizing cs with
  | nil =>
    obtain rfl := List.map_eq_nil_iff.mp h
    rfl
  | cons b bytes ih =>
    have hb := b.toNat_lt
    have hhigh : b.toNat / 16 % 16 < 16 := Nat.mod_lt _ (by decide)
    have hlow : b.toNat % 16 < 16 := Nat.mod_lt _ (by decide)
    have hbyte : UInt8.ofNat (b.toNat / 16 % 16 * 16 + b.toNat % 16) = b := by
      rw [show b.toNat / 16 % 16 * 16 + b.toNat % 16 = b.toNat by omega]
      exact UInt8.ofNat_toNat
    -- Two digits make a byte, and the rest spells the rest.
    obtain ⟨c, tail, rfl, hc, htail⟩ := List.map_eq_cons_iff.mp h
    obtain ⟨d, rest, rfl, hd, hrest⟩ := List.map_eq_cons_iff.mp htail
    rw [Hex.decodeChars?, isSpacing_of_toLower hhigh hc, value?_of_toLower hhigh hc,
      value?_of_toLower hlow hd, ih hrest]
    exact congrArg (fun b => some (b :: bytes)) hbyte

theorem Spells.decode? (h : Spells cs bytes) : Hex.decode? (String.ofList cs) = some bytes := by
  rw [Hex.decode?, String.toList_ofList, h.decodeChars?]

/-- Bytes are read back from their digits. -/
theorem decode?_encode (bytes : List UInt8) : decode? (encode bytes) = some bytes :=
  (spells_encode bytes).decodeChars?

/-- The digits of bytes have no blanks at their ends. -/
theorem trim_encode (bytes : List UInt8) : trim (encode bytes) = encode bytes := by
  rw [trim, (spells_encode bytes).isTrimmed.trimChars_eq, String.ofList_toList]

end Hex

end TradingStatus.Text
