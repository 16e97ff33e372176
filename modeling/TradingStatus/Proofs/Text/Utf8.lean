import TradingStatus.Text.Utf8

/-! Texts and their bytes. A character is written in one to four bytes, by the size of its number,
and each of the four forms is read as that number; no other bytes are read as a text. -/

namespace TradingStatus.Text

theorem toNat_ofNat {n : Nat} (h : n.isValidChar) : (Char.ofNat n).toNat = n := by
  rw [Char.ofNat, dif_pos h]
  rfl

namespace Utf8

theorem toNat_byte {n : Nat} (h : n < 0x100) : (UInt8.ofNat n).toNat = n := by
  rw [UInt8.toNat_ofNat']
  exact Nat.mod_eq_of_lt h

/-! The bytes that go on with a character -/

section Tail

variable {bits : Nat}

theorem isTail_byte (h : bits < 0x40) : isTail (UInt8.ofNat (0x80 + bits)) = true := by
  unfold isTail
  rw [toNat_byte (by omega), decide_eq_true (by omega), decide_eq_true (by omega)]
  rfl

theorem tailBits_byte (h : bits < 0x40) : tailBits (UInt8.ofNat (0x80 + bits)) = bits := by
  unfold tailBits
  rw [toNat_byte (by omega)]
  omega

variable {a : UInt8}

theorem isSecondOfThree_byte (h : bits < 0x40) (hshort : a.toNat = 0xE0 → 0x20 ≤ bits)
    (hhalf : a.toNat = 0xED → bits < 0x20) :
    isSecondOfThree a (UInt8.ofNat (0x80 + bits)) = true := by
  unfold isSecondOfThree
  rw [isTail_byte h, toNat_byte (by omega)]
  simp only [Bool.true_and, Bool.and_eq_true, Bool.or_eq_true, bne_iff_ne, decide_eq_true_eq]
  omega

theorem isSecondOfFour_byte (h : bits < 0x40) (hshort : a.toNat = 0xF0 → 0x10 ≤ bits)
    (hlast : a.toNat = 0xF4 → bits < 0x10) :
    isSecondOfFour a (UInt8.ofNat (0x80 + bits)) = true := by
  unfold isSecondOfFour
  rw [isTail_byte h, toNat_byte (by omega)]
  simp only [Bool.true_and, Bool.and_eq_true, Bool.or_eq_true, bne_iff_ne, decide_eq_true_eq]
  omega

end Tail

/-! The four forms of a character -/

variable {n : Nat} (position : Nat) (rest : List UInt8)

theorem decodeFrom_one (hn : n < 0x80) :
    decodeFrom position (UInt8.ofNat n :: rest) =
      (decodeFrom (position + 1) rest).map (Char.ofNat n :: ·) := by
  have ha : (UInt8.ofNat n).toNat = n := toNat_byte (by omega)
  rw [decodeFrom.eq_def]
  simp only [ha, if_pos hn]
  cases decodeFrom (position + 1) rest <;> rfl

theorem decodeFrom_two (hlow : 0x80 ≤ n) (hn : n < 0x800) :
    decodeFrom position (UInt8.ofNat (0xC0 + n / 0x40) :: UInt8.ofNat (0x80 + n % 0x40) :: rest) =
      (decodeFrom (position + 2) rest).map (Char.ofNat n :: ·) := by
  have ha : (UInt8.ofNat (0xC0 + n / 0x40)).toNat = 0xC0 + n / 0x40 := toNat_byte (by omega)
  have hb : n % 0x40 < 0x40 := Nat.mod_lt _ (by decide)
  have hbits : (0xC0 + n / 0x40 - 0xC0) * 0x40 + n % 0x40 = n := by omega
  rw [decodeFrom.eq_def]
  simp only [ha]
  rw [if_neg (by omega), if_neg (by omega), if_pos (by omega), if_pos (isTail_byte hb),
    tailBits_byte hb, hbits]
  cases decodeFrom (position + 2) rest <;> rfl

theorem decodeFrom_three (hlow : 0x800 ≤ n) (hn : n < 0x10000) (hhalf : n < 0xD800 ∨ 0xDFFF < n) :
    decodeFrom position (UInt8.ofNat (0xE0 + n / 0x1000) ::
        UInt8.ofNat (0x80 + n / 0x40 % 0x40) :: UInt8.ofNat (0x80 + n % 0x40) :: rest) =
      (decodeFrom (position + 3) rest).map (Char.ofNat n :: ·) := by
  have ha : (UInt8.ofNat (0xE0 + n / 0x1000)).toNat = 0xE0 + n / 0x1000 := toNat_byte (by omega)
  have hb : n / 0x40 % 0x40 < 0x40 := Nat.mod_lt _ (by decide)
  have hc : n % 0x40 < 0x40 := Nat.mod_lt _ (by decide)
  have hsecond : isSecondOfThree (UInt8.ofNat (0xE0 + n / 0x1000))
      (UInt8.ofNat (0x80 + n / 0x40 % 0x40)) = true :=
    isSecondOfThree_byte hb (by rw [ha]; omega) (by rw [ha]; omega)
  have hbits : ((0xE0 + n / 0x1000 - 0xE0) * 0x40 + n / 0x40 % 0x40) * 0x40 + n % 0x40 = n := by
    omega
  rw [decodeFrom.eq_def]
  simp only [ha]
  rw [if_neg (by omega), if_neg (by omega), if_neg (by omega), if_pos (by omega), hsecond,
    if_neg (by decide), if_pos (isTail_byte hc), tailBits_byte hb, tailBits_byte hc, hbits]
  cases decodeFrom (position + 3) rest <;> rfl

theorem decodeFrom_four (hlow : 0x10000 ≤ n) (hn : n < 0x110000) :
    decodeFrom position (UInt8.ofNat (0xF0 + n / 0x40000) ::
        UInt8.ofNat (0x80 + n / 0x1000 % 0x40) :: UInt8.ofNat (0x80 + n / 0x40 % 0x40) ::
        UInt8.ofNat (0x80 + n % 0x40) :: rest) =
      (decodeFrom (position + 4) rest).map (Char.ofNat n :: ·) := by
  have ha : (UInt8.ofNat (0xF0 + n / 0x40000)).toNat = 0xF0 + n / 0x40000 := toNat_byte (by omega)
  have hb : n / 0x1000 % 0x40 < 0x40 := Nat.mod_lt _ (by decide)
  have hc : n / 0x40 % 0x40 < 0x40 := Nat.mod_lt _ (by decide)
  have hd : n % 0x40 < 0x40 := Nat.mod_lt _ (by decide)
  have hsecond : isSecondOfFour (UInt8.ofNat (0xF0 + n / 0x40000))
      (UInt8.ofNat (0x80 + n / 0x1000 % 0x40)) = true :=
    isSecondOfFour_byte hb (by rw [ha]; omega) (by rw [ha]; omega)
  have hbits : (((0xF0 + n / 0x40000 - 0xF0) * 0x40 + n / 0x1000 % 0x40) * 0x40 +
      n / 0x40 % 0x40) * 0x40 + n % 0x40 = n := by
    omega
  rw [decodeFrom.eq_def]
  simp only [ha]
  rw [if_neg (by omega), if_neg (by omega), if_neg (by omega), if_neg (by omega), hsecond,
    if_neg (by decide), isTail_byte hc, if_neg (by decide), if_pos (isTail_byte hd),
    tailBits_byte hb, tailBits_byte hc, tailBits_byte hd, hbits]
  cases decodeFrom (position + 4) rest <;> rfl

/-- The bytes of a character are read as that character, whatever follows them. -/
theorem decodeFrom_encodeChar (c : Char) :
    decodeFrom position (encodeChar c ++ rest) =
      (decodeFrom (position + (encodeChar c).length) rest).map (c :: ·) := by
  -- The number of a character is at most 10FFFF, and none of the halves of pairs.
  have hvalid : c.toNat < 0xD800 ∨ 0xDFFF < c.toNat ∧ c.toNat < 0x110000 := c.valid
  have hc : Char.ofNat c.toNat = c := Char.ofNat_toNat c
  unfold encodeChar
  simp only
  split
  · rename_i hn
    have hone := decodeFrom_one position rest hn
    rwa [hc] at hone
  · rename_i hlow
    split
    · rename_i hn
      have htwo := decodeFrom_two position rest (Nat.not_lt.mp hlow) hn
      rwa [hc] at htwo
    · rename_i hlow
      split
      · rename_i hn
        have hthree := decodeFrom_three position rest (Nat.not_lt.mp hlow) hn (by omega)
        rwa [hc] at hthree
      · rename_i hlow
        have hfour := decodeFrom_four position rest (Nat.not_lt.mp hlow) (by omega)
        rwa [hc] at hfour

theorem decodeFrom_flatMap (cs : List Char) :
    decodeFrom position (cs.flatMap encodeChar) = .ok cs := by
  induction cs generalizing position with
  | nil => rw [List.flatMap_nil, decodeFrom.eq_def]
  | cons c cs ih =>
    rw [List.flatMap_cons, decodeFrom_encodeChar, ih]
    rfl

/-- A text is read back from its bytes. -/
theorem decode_encode (s : String) : decode (encode s) = .ok s := by
  rw [decode, encode, decodeFrom_flatMap]
  exact congrArg Except.ok String.ofList_toList

theorem encode_injective : Function.Injective encode := by
  intro s t h
  have hread := decode_encode s
  rw [h, decode_encode] at hread
  exact (Except.ok.inj hread).symm

/-! Characters that are read are written in the bytes that they are read from -/

section Read

variable {a b c d : UInt8}

theorem isTail_iff : isTail b = true ↔ 0x80 ≤ b.toNat ∧ b.toNat ≤ 0xBF := by
  simp [isTail]

theorem isSecondOfThree_iff : isSecondOfThree a b = true ↔
    (0x80 ≤ b.toNat ∧ b.toNat ≤ 0xBF) ∧ (a.toNat = 0xE0 → 0xA0 ≤ b.toNat) ∧
      (a.toNat = 0xED → b.toNat ≤ 0x9F) := by
  simp only [isSecondOfThree, Bool.and_eq_true, isTail_iff, Bool.or_eq_true, bne_iff_ne,
    decide_eq_true_eq]
  omega

theorem isSecondOfFour_iff : isSecondOfFour a b = true ↔
    (0x80 ≤ b.toNat ∧ b.toNat ≤ 0xBF) ∧ (a.toNat = 0xF0 → 0x90 ≤ b.toNat) ∧
      (a.toNat = 0xF4 → b.toNat ≤ 0x8F) := by
  simp only [isSecondOfFour, Bool.and_eq_true, isTail_iff, Bool.or_eq_true, bne_iff_ne,
    decide_eq_true_eq]
  omega

/-- A byte is the one with its number. -/
theorem ofNat_eq_byte {n : Nat} (h : n = a.toNat) : UInt8.ofNat n = a := by
  rw [h, UInt8.ofNat_toNat]

theorem encodeChar_one (ha : a.toNat < 0x80) : encodeChar (Char.ofNat a.toNat) = [a] := by
  have hn : (Char.ofNat a.toNat).toNat = a.toNat := toNat_ofNat (.inl (by omega))
  unfold encodeChar
  simp only [hn, if_pos ha, UInt8.ofNat_toNat]

theorem encodeChar_two (hlow : 0xC2 ≤ a.toNat) (ha : a.toNat < 0xE0) (hb : isTail b = true) :
    encodeChar (Char.ofNat ((a.toNat - 0xC0) * 0x40 + tailBits b)) = [a, b] := by
  rw [isTail_iff] at hb
  unfold tailBits
  have hn := toNat_ofNat (n := (a.toNat - 0xC0) * 0x40 + (b.toNat - 0x80))
    (.inl (by omega))
  unfold encodeChar
  simp only [hn]
  rw [if_neg (by omega), if_pos (by omega), ofNat_eq_byte (a := a) (by omega),
    ofNat_eq_byte (a := b) (by omega)]

theorem encodeChar_three (hlow : 0xE0 ≤ a.toNat) (ha : a.toNat < 0xF0)
    (hb : isSecondOfThree a b = true) (hc : isTail c = true) :
    encodeChar (Char.ofNat (((a.toNat - 0xE0) * 0x40 + tailBits b) * 0x40 + tailBits c)) =
      [a, b, c] := by
  rw [isSecondOfThree_iff] at hb
  rw [isTail_iff] at hc
  unfold tailBits
  have hn := toNat_ofNat
    (n := ((a.toNat - 0xE0) * 0x40 + (b.toNat - 0x80)) * 0x40 + (c.toNat - 0x80))
    (by unfold Nat.isValidChar; omega)
  unfold encodeChar
  simp only [hn]
  rw [if_neg (by omega), if_neg (by omega), if_pos (by omega), ofNat_eq_byte (a := a) (by omega),
    ofNat_eq_byte (a := b) (by omega), ofNat_eq_byte (a := c) (by omega)]

theorem encodeChar_four (hlow : 0xF0 ≤ a.toNat) (ha : a.toNat ≤ 0xF4)
    (hb : isSecondOfFour a b = true) (hc : isTail c = true) (hd : isTail d = true) :
    encodeChar (Char.ofNat ((((a.toNat - 0xF0) * 0x40 + tailBits b) * 0x40 + tailBits c) * 0x40 +
      tailBits d)) = [a, b, c, d] := by
  rw [isSecondOfFour_iff] at hb
  rw [isTail_iff] at hc hd
  unfold tailBits
  have hn := toNat_ofNat (n := (((a.toNat - 0xF0) * 0x40 + (b.toNat - 0x80)) * 0x40 +
    (c.toNat - 0x80)) * 0x40 + (d.toNat - 0x80)) (by unfold Nat.isValidChar; omega)
  unfold encodeChar
  simp only [hn]
  rw [if_neg (by omega), if_neg (by omega), if_neg (by omega), ofNat_eq_byte (a := a) (by omega),
    ofNat_eq_byte (a := b) (by omega), ofNat_eq_byte (a := c) (by omega),
    ofNat_eq_byte (a := d) (by omega)]

end Read

/-- A character in front of what is read has its bytes in front. -/
theorem flatMap_cons_of_read {c : Char} {cs : List Char} {read : Except Error (List Char)}
    {front rest : List UInt8} (hc : encodeChar c = front)
    (hrest : ∀ {cs : List Char}, read = .ok cs → cs.flatMap encodeChar = rest)
    (h : (do return c :: (← read)) = Except.ok cs) : cs.flatMap encodeChar = front ++ rest := by
  cases hread : read with
  | error error =>
    rw [hread] at h
    cases h
  | ok tail =>
    rw [hread] at h
    obtain rfl := Except.ok.inj h
    rw [List.flatMap_cons, hc, hrest hread]

theorem flatMap_of_decodeFrom {position : Nat} {bytes : List UInt8} {cs : List Char}
    (h : decodeFrom position bytes = .ok cs) : cs.flatMap encodeChar = bytes := by
  -- One case for each branch of the reader: four read a character, all others fail.
  fun_induction decodeFrom position bytes generalizing cs with
  | case1 =>
    obtain rfl := Except.ok.inj h
    rfl
  | case2 position a rest ha ih => exact flatMap_cons_of_read (encodeChar_one ha) ih h
  | case5 position a _ hstart ha b rest hb =>
    rename_i ih
    exact flatMap_cons_of_read (encodeChar_two (by omega) ha hb) ih h
  | case10 position a _ hstart hlow ha b hb c rest hc =>
    rename_i ih
    exact flatMap_cons_of_read (encodeChar_three (by omega) ha (by simpa using hb) hc) ih h
  | case17 position a _ hstart _ hlow b hb c hc d rest hd =>
    rename_i ih
    exact flatMap_cons_of_read
      (encodeChar_four (by omega) (by omega) (by simpa using hb) (by simpa using hc) hd) ih h
  | _ => cases h

/-- Bytes are read as the text that they are the bytes of, and as no other; what is read are bytes
of a text. -/
theorem decode_eq_ok_iff {bytes : List UInt8} {s : String} :
    decode bytes = .ok s ↔ bytes = encode s := by
  constructor
  · intro h
    unfold decode at h
    cases hread : decodeFrom 0 bytes with
    | error error =>
      rw [hread] at h
      cases h
    | ok cs =>
      rw [hread] at h
      obtain rfl := Except.ok.inj h
      rw [encode, String.toList_ofList, flatMap_of_decodeFrom hread]
  · rintro rfl
    exact decode_encode s

end Utf8

end TradingStatus.Text
