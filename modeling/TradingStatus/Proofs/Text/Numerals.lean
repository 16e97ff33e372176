import Mathlib.Data.List.TakeWhile
import TradingStatus.Powers
import TradingStatus.Proofs.Results
import TradingStatus.Text.Numeral

/-! Numbers that are written in ASCII digits and read back: numbers of a fixed width by the reader
of dates, numbers without leading zeros by the reader of numerals, as long as they have no more
digits than that one takes. What is read has no more digits than are written. -/

namespace TradingStatus.Text

variable {c : Char} {cs : List Char} {d n : Nat}

/-! Digits -/

theorem decimalDigit?_of_isDigit (h : c.isDigit = true) :
    decimalDigit? c = some (c.toNat - '0'.toNat) := by
  have hbounds : 48 ≤ c.toNat ∧ c.toNat ≤ 57 := Char.isDigit_iff_toNat.mp h
  unfold decimalDigit? decimalZeros
  rw [List.findSome?_cons, if_pos ⟨hbounds.1, by omega⟩]
  rfl

theorem decimalDigit?_lt (h : decimalDigit? c = some d) : d < 10 := by
  obtain ⟨first, -, hfirst⟩ := List.exists_of_findSome?_eq_some h
  split at hfirst
  · obtain rfl := Option.some.inj hfirst
    omega
  · cases hfirst

theorem isBlank_of_isDigit (h : c.isDigit = true) : isBlank c = false := by
  have hbounds : 48 ≤ c.toNat ∧ c.toNat ≤ 57 := Char.isDigit_iff_toNat.mp h
  simp [isBlank]
  omega

theorem isDigit_digit (n : Nat) : (Char.ofNat ('0'.toNat + n % 10)).isDigit = true := by
  have hall : ∀ d < 10, (Char.ofNat ('0'.toNat + d)).isDigit = true := by decide
  exact hall _ (Nat.mod_lt n (by decide))

theorem asciiDigit?_digit (n : Nat) :
    asciiDigit? (Char.ofNat ('0'.toNat + n % 10)) = some (n % 10) := by
  have hall : ∀ d < 10, asciiDigit? (Char.ofNat ('0'.toNat + d)) = some d := by decide
  exact hall _ (Nat.mod_lt n (by decide))

theorem asciiDigit?_lt (h : asciiDigit? c = some d) : d < 10 := by
  unfold asciiDigit? at h
  split at h
  · next hc =>
    have hle : c.toNat ≤ '9'.toNat := hc.2
    obtain rfl := Option.some.inj h
    simp at hle ⊢
    omega
  · cases h

/-- With a digit more behind it, a number is still below the next one in its place. -/
theorem succ_mul_tenTo_le {start : Nat} (hd : d < 10) (places : Nat) :
    (start * 10 + d + 1) * tenTo places ≤ (start + 1) * tenTo (places + 1) := by
  rw [tenTo_succ, Nat.mul_comm (tenTo places) 10, ← Nat.mul_assoc]
  exact Nat.mul_le_mul_right _ (by omega)

/-! Numbers of a fixed width -/

theorem isDigit_of_mem_decimalDigits {width : Nat} (h : c ∈ decimalDigits width n) :
    c.isDigit = true := by
  induction width generalizing n with
  | zero => cases h
  | succ width ih =>
    rcases List.mem_append.mp h with h | h
    · exact ih h
    · obtain rfl := List.mem_singleton.mp h
      exact isDigit_digit n

theorem foldlM_decimalDigits (width n start : Nat) :
    (decimalDigits width n).foldlM (fun n c => (asciiDigit? c).map (n * 10 + ·)) start =
      some (start * tenTo width + n % tenTo width) := by
  induction width generalizing n with
  | zero =>
    show some start = some (start * 1 + n % 1)
    rw [Nat.mod_one, Nat.mul_one, Nat.add_zero]
  | succ width ih =>
    rw [decimalDigits, List.foldlM_append, ih]
    have hvalue : (start * tenTo width + n / 10 % tenTo width) * 10 + n % 10 =
        start * tenTo (width + 1) + n % tenTo (width + 1) := by
      rw [tenTo_succ, Nat.mul_comm (tenTo width) 10, Nat.mod_mul, Nat.mul_left_comm]
      omega
    simp only [Option.bind_eq_bind, Option.bind_some, List.foldlM_cons, List.foldlM_nil,
      asciiDigit?_digit, Option.map_some]
    exact congrArg some hvalue

/-- A number is read back from as many digits as it takes, or more. -/
theorem asciiNat?_decimalDigits {width : Nat} (hwidth : 0 < width) (h : n < tenTo width) :
    asciiNat? (decimalDigits width n) = some n := by
  have hne : (decimalDigits width n).isEmpty = false := by
    rw [← Bool.not_eq_true, List.isEmpty_iff_length_eq_zero, length_decimalDigits]
    omega
  rw [asciiNat?, hne, if_neg Bool.false_ne_true, foldlM_decimalDigits, Nat.zero_mul, Nat.zero_add,
    Nat.mod_eq_of_lt h]

theorem lt_of_foldlM_asciiDigit? {start : Nat}
    (h : cs.foldlM (fun n c => (asciiDigit? c).map (n * 10 + ·)) start = some n) :
    n < (start + 1) * tenTo cs.length := by
  induction cs generalizing start with
  | nil =>
    obtain rfl := Option.some.inj h
    show start < (start + 1) * 1
    omega
  | cons c cs ih =>
    rw [List.foldlM_cons] at h
    obtain ⟨next, hnext, hrest⟩ := Option.bind_eq_some_iff.mp h
    obtain ⟨d, hd, rfl⟩ := Option.map_eq_some_iff.mp hnext
    exact Nat.lt_of_lt_of_le (ih hrest) (succ_mul_tenTo_le (asciiDigit?_lt hd) cs.length)

theorem asciiNat?_lt (h : asciiNat? cs = some n) : n < tenTo cs.length := by
  unfold asciiNat? at h
  split at h
  · cases h
  · simpa using lt_of_foldlM_asciiDigit? h

theorem utf8ByteSize_ofList_of_isDigit (h : ∀ c ∈ cs, c.isDigit = true) :
    (String.ofList cs).utf8ByteSize = cs.length := by
  induction cs with
  | nil => rfl
  | cons c cs ih =>
    have hone : c.utf8Size = 1 := by
      have hbounds : 48 ≤ c.toNat ∧ c.toNat ≤ 57 :=
        Char.isDigit_iff_toNat.mp (h c List.mem_cons_self)
      rw [Char.utf8Size_eq_one_iff, UInt32.le_iff_toNat_le]
      show c.toNat ≤ 127
      omega
    rw [String.ofList_cons, String.utf8ByteSize_append, String.utf8ByteSize_singleton, hone,
      ih fun c hc => h c (List.mem_cons_of_mem _ hc), List.length_cons, Nat.add_comm]

@[simp] theorem utf8ByteSize_padded (width n : Nat) : (padded width n).utf8ByteSize = width := by
  rw [padded, utf8ByteSize_ofList_of_isDigit fun c hc => isDigit_of_mem_decimalDigits hc,
    length_decimalDigits]

@[simp] theorem toList_padded (width n : Nat) :
    (padded width n).toList = decimalDigits width n :=
  String.toList_ofList

/-! Numerals without leading zeros -/

theorem isDigit_of_mem_toDigits (h : c ∈ Nat.toDigits 10 n) : c.isDigit = true :=
  Nat.isDigit_of_mem_toDigits (by decide) (by decide) h

theorem isDigitText_toString (n : Nat) : isDigitText (toString n) = true := by
  rw [Nat.toString_eq_ofList_toDigits, isDigitText, Bool.and_eq_true, Bool.not_eq_true',
    ← Bool.not_eq_true, String.isEmpty_iff, String.ofList_eq_empty_iff, String.toList_ofList,
    List.all_eq_true]
  refine ⟨Nat.toDigits_ne_nil, fun c hc => ?_⟩
  rw [isDigit, decimalDigit?_of_isDigit (isDigit_of_mem_toDigits hc)]
  rfl

theorem separatedDigits?_of_isDigit (hne : cs ≠ []) (h : ∀ c ∈ cs, c.isDigit = true) :
    separatedDigits? cs = some (cs.map fun c => c.toNat - '0'.toNat) := by
  induction cs with
  | nil => exact absurd rfl hne
  | cons c rest ih =>
    have hc := decimalDigit?_of_isDigit (h c List.mem_cons_self)
    cases rest with
    | nil => simp [separatedDigits?, hc]
    | cons next rest =>
      have hunderscore : next ≠ '_' := by
        rintro rfl
        exact absurd (h '_' (List.mem_cons_of_mem _ List.mem_cons_self)) (by decide)
      have hrest := ih (List.cons_ne_nil _ _) fun c hc => h c (List.mem_cons_of_mem _ hc)
      simp [separatedDigits?, hunderscore, hc, hrest]

theorem ofDigits_map (cs : List Char) :
    ofDigits (cs.map fun c => c.toNat - '0'.toNat) = Nat.ofDigitChars 10 cs 0 := by
  rw [ofDigits, List.foldl_map, Nat.ofDigitChars_eq_foldl]
  simp only [Nat.mul_comm]

/-- A number is read back from its digits, if they are not too many. -/
theorem readInteger_toString (h : (Nat.toDigits 10 n).length ≤ numeralLimit) :
    readInteger (toString n) = .ok (n : Int) := by
  have hdigit : ∀ c ∈ Nat.toDigits 10 n, c.isDigit = true := fun c hc => isDigit_of_mem_toDigits hc
  have hblank : (Nat.toDigits 10 n).dropWhile isNumeralBlank = Nat.toDigits 10 n := by
    refine List.dropWhile_eq_self_iff.mpr fun hpos => ?_
    simp [isNumeralBlank, isBlank_of_isDigit (hdigit _ (List.getElem_mem hpos))]
  have hrun : (Nat.toDigits 10 n).takeWhile (fun c => c == '_' || (decimalDigit? c).isSome) =
      Nat.toDigits 10 n := by
    refine List.takeWhile_eq_self_iff.mpr fun c hc => ?_
    simp [decimalDigit?_of_isDigit (hdigit c hc)]
  have hrest : (Nat.toDigits 10 n).dropWhile (fun c => c == '_' || (decimalDigit? c).isSome) =
      [] := by
    refine List.dropWhile_eq_nil_iff.mpr fun c hc => ?_
    simp [decimalDigit?_of_isDigit (hdigit c hc)]
  have hread := separatedDigits?_of_isDigit (Nat.toDigits_ne_nil (b := 10) (n := n)) hdigit
  obtain ⟨c, cs, hcs⟩ := List.exists_cons_of_ne_nil (Nat.toDigits_ne_nil (b := 10) (n := n))
  have hc : c.isDigit = true := hdigit c (hcs ▸ List.mem_cons_self)
  have hminus : c ≠ '-' := by
    rintro rfl
    exact absurd hc (by decide)
  have hplus : c ≠ '+' := by
    rintro rfl
    exact absurd hc (by decide)
  have hvalue : ofDigits ((Nat.toDigits 10 n).map fun c => c.toNat - '0'.toNat) = n := by
    rw [ofDigits_map, Nat.ofDigitChars_ten_toDigits]
  rw [← List.length_map fun c : Char => c.toNat - '0'.toNat] at h
  generalize (Nat.toDigits 10 n).map (fun c => c.toNat - '0'.toNat) = digits at h hread hvalue
  rw [readInteger, Nat.toString_eq_ofList_toDigits, String.toList_ofList, hblank]
  rw [hcs] at hrun hrest hread ⊢
  simp [hminus, hplus, hrun, hrest, hread, hvalue, Nat.not_lt.mpr h]

/-! What is read as a number can be written again -/

theorem of_separatedDigits? {digits : List Nat} (h : separatedDigits? cs = some digits) :
    digits ≠ [] ∧ ∀ d ∈ digits, d < 10 := by
  -- With an underscore before them or not, the other digits follow the first.
  have hcons {c : Char} {rest : List Char} {digits : List Nat}
      (ih : ∀ {digits}, separatedDigits? rest = some digits →
        digits ≠ [] ∧ ∀ d ∈ digits, d < 10)
      (h : (do return (← decimalDigit? c) :: (← separatedDigits? rest)) = some digits) :
      digits ≠ [] ∧ ∀ d ∈ digits, d < 10 := by
    obtain ⟨d, hd, h⟩ := Option.bind_eq_some_iff.mp h
    obtain ⟨others, hothers, h⟩ := Option.bind_eq_some_iff.mp h
    obtain rfl := Option.some.inj h
    exact ⟨List.cons_ne_nil _ _, List.forall_mem_cons.mpr ⟨decimalDigit?_lt hd, (ih hothers).2⟩⟩
  induction cs using separatedDigits?.induct generalizing digits with
  | case1 => cases h
  | case2 c =>
    obtain ⟨d, hd, rfl⟩ := Option.map_eq_some_iff.mp h
    exact ⟨List.cons_ne_nil _ _, List.forall_mem_singleton.mpr (decimalDigit?_lt hd)⟩
  | case3 c rest ih =>
    rw [separatedDigits?] at h
    exact hcons ih h
  | case4 c rest hrest hunderscore ih =>
    rw [separatedDigits?] at h
    · exact hcons ih h
    · exact hrest
    · exact hunderscore

theorem ofDigits_lt {digits : List Nat} (h : ∀ d ∈ digits, d < 10) :
    ofDigits digits < tenTo digits.length := by
  have hfold (start : Nat) : digits.foldl (fun n d => n * 10 + d) start <
      (start + 1) * tenTo digits.length := by
    induction digits generalizing start with
    | nil =>
      show start < (start + 1) * 1
      omega
    | cons d digits ih =>
      have hrest := ih (fun e he => h e (List.mem_cons_of_mem _ he)) (start * 10 + d)
      exact Nat.lt_of_lt_of_le hrest (succ_mul_tenTo_le (h d List.mem_cons_self) digits.length)
  have hzero := hfold 0
  rwa [Nat.zero_add, Nat.one_mul] at hzero

/-- A text of digits that is read as a number writes one that has no more digits than are taken. -/
theorem exists_nat_of_readInteger {s : String} {value : Int} (hdigits : isDigitText s = true)
    (h : readInteger s = .ok value) :
    ∃ n : Nat, value = n ∧ (Nat.toDigits 10 n).length ≤ numeralLimit := by
  have hall : ∀ c ∈ s.toList.dropWhile isNumeralBlank, isDigit c = true := fun c hc =>
    List.all_eq_true.mp (Bool.and_eq_true_iff.mp hdigits).2 c
      (List.dropWhile_sublist _ |>.mem hc)
  rw [readInteger] at h
  generalize s.toList.dropWhile isNumeralBlank = cs at h hall
  cases cs with
  | nil => cases h
  | cons c cs =>
    have hc := hall c List.mem_cons_self
    have hminus : c ≠ '-' := by
      rintro rfl
      exact absurd hc (by decide)
    have hplus : c ≠ '+' := by
      rintro rfl
      exact absurd hc (by decide)
    simp [hminus, hplus] at h
    split at h
    · cases h
    · rename_i digits hread
      obtain ⟨hne, hlt⟩ := of_separatedDigits? hread
      split at h
      · cases h
      · rename_i hlimit
        split at h
        · obtain rfl := Except.ok.inj h
          refine ⟨ofDigits digits, rfl, Nat.le_trans ?_ (Nat.not_lt.mp hlimit)⟩
          exact (Nat.length_toDigits_le_iff (by decide) (List.length_pos_iff.mpr hne)).mpr
            (ofDigits_lt hlt)
        · cases h

end TradingStatus.Text
