import TradingStatus.Proofs.Json.Progress
import TradingStatus.Proofs.Text.Lines

/-! Line ends within tokens: a name, a number or a text is read alike from a text and from the same
text with a line feed at the end of every line, for no line end is read within one. -/

namespace TradingStatus.Json

open Text (unifyLineEnds)

variable {α β : Type} {cs left : List Char}

/-- What was read, with the same line ends in what is left. -/
def unified (read : α × List Char) : α × List Char := (read.1, unifyLineEnds read.2)

theorem skipGap_unifyLineEnds (cs : List Char) :
    skipGap (unifyLineEnds cs) = unifyLineEnds (skipGap cs) :=
  Text.dropWhile_unifyLineEnds rfl cs

/-- A gap is followed by the end of the text or by something that is no line end. -/
theorem skipGap_eq_nil_or_exists (cs : List Char) :
    (skipGap cs = [] ∧ skipGap (unifyLineEnds cs) = []) ∨
      ∃ c rest, skipGap cs = c :: rest ∧
        skipGap (unifyLineEnds cs) = c :: unifyLineEnds rest := by
  rw [skipGap_unifyLineEnds]
  cases hskip : skipGap cs with
  | nil => exact .inl ⟨rfl, rfl⟩
  | cons c rest =>
    have hgap : isGap c = false := by
      have hhead := List.head?_dropWhile_not isGap cs
      rw [← skipGap, hskip] at hhead
      simpa using hhead
    have hc : c ≠ '\r' := by
      rintro rfl
      cases hgap
    exact .inr ⟨c, rest, rfl, Text.unifyLineEnds_cons hc rest⟩

/-- A mark stands behind the gap in both texts or in neither. -/
theorem skipGap_marks (c : Char) (cs : List Char) :
    (∃ left, skipGap cs = c :: left ∧ skipGap (unifyLineEnds cs) = c :: unifyLineEnds left) ∨
      (∀ left, skipGap cs ≠ c :: left) ∧ ∀ left, skipGap (unifyLineEnds cs) ≠ c :: left := by
  obtain ⟨hskip, hskip'⟩ | ⟨d, rest, hskip, hskip'⟩ := skipGap_eq_nil_or_exists cs
  · rw [hskip, hskip']
    exact .inr ⟨fun _ h => (nomatch h), fun _ h => (nomatch h)⟩
  · rw [hskip, hskip']
    by_cases hd : d = c
    · subst hd
      exact .inl ⟨rest, rfl, rfl⟩
    · exact .inr ⟨fun _ h => hd (List.cons.inj h).1, fun _ h => hd (List.cons.inj h).1⟩

/-! Names and numbers -/

theorem word?_eq_some_iff {word : List Char} :
    word? word cs = some left ↔ cs = word ++ left := by
  unfold word?
  split
  · next hprefix =>
    obtain ⟨rest, rfl⟩ := List.isPrefixOf_iff_prefix.mp hprefix
    simp
  · next hprefix =>
    constructor
    · intro h
      cases h
    · rintro rfl
      exact absurd (List.isPrefixOf_iff_prefix.mpr (List.prefix_append _ _)) hprefix

theorem word?_unifyLineEnds {word : List Char} (hreturn : '\r' ∉ word) (hfeed : '\n' ∉ word)
    (cs : List Char) : word? word (unifyLineEnds cs) = (word? word cs).map unifyLineEnds := by
  ext left
  rw [word?_eq_some_iff, Option.map_eq_some_iff]
  constructor
  · intro h
    obtain ⟨rest, hrest, hleft⟩ := Text.exists_of_unifyLineEnds_eq_append hfeed h
    exact ⟨rest, word?_eq_some_iff.mpr hrest, hleft.symm⟩
  · rintro ⟨rest, hrest, rfl⟩
    rw [word?_eq_some_iff.mp hrest, Text.unifyLineEnds_append hreturn]

theorem digitRun_unifyLineEnds (cs : List Char) :
    digitRun (unifyLineEnds cs) = unified (digitRun cs) := by
  rw [digitRun, Text.takeWhile_unifyLineEnds rfl rfl, Text.dropWhile_unifyLineEnds rfl]
  rfl

theorem fraction_point (rest : List Char) :
    fraction ('.' :: rest) =
      match digitRun rest with
      | ([], _) => ([], '.' :: rest)
      | found => found := rfl

theorem fraction_cons_of_ne {c : Char} (hc : c ≠ '.') (rest : List Char) :
    fraction (c :: rest) = ([], c :: rest) := by
  unfold fraction
  split
  · next h => exact absurd (List.cons.inj h).1 hc
  · rfl

theorem fraction_unifyLineEnds (cs : List Char) :
    fraction (unifyLineEnds cs) = unified (fraction cs) := by
  obtain ⟨rfl, -⟩ | ⟨c, rest, -, rfl, hcs⟩ | ⟨rest, behind, rfl, hcs⟩ := Text.unifyLineEnds_head cs
  · rfl
  · by_cases hc : c = '.'
    · subst hc
      rw [hcs, fraction_point, fraction_point, digitRun_unifyLineEnds]
      obtain ⟨_ | ⟨digit, digits⟩, left⟩ := digitRun rest
      · exact congrArg ([], ·) hcs.symm
      · rfl
    · rw [fraction_cons_of_ne hc, hcs, fraction_cons_of_ne hc, ← hcs]
      rfl
  · rw [hcs, fraction_cons_of_ne (by decide), ← hcs]
    rfl

theorem signed_cons_of_ne {c : Char} (hminus : c ≠ '-') (hplus : c ≠ '+') (rest : List Char) :
    signed (c :: rest) = (false, c :: rest) := by
  unfold signed
  split
  · next h => exact absurd (List.cons.inj h).1 hminus
  · next h => exact absurd (List.cons.inj h).1 hplus
  · rfl

theorem signed_unifyLineEnds (cs : List Char) :
    signed (unifyLineEnds cs) = unified (signed cs) := by
  obtain ⟨rfl, -⟩ | ⟨c, rest, -, rfl, hcs⟩ | ⟨rest, behind, rfl, hcs⟩ := Text.unifyLineEnds_head cs
  · rfl
  · by_cases hminus : c = '-'
    · subst hminus
      rw [hcs]
      rfl
    · by_cases hplus : c = '+'
      · subst hplus
        rw [hcs]
        rfl
      · rw [signed_cons_of_ne hminus hplus, hcs, signed_cons_of_ne hminus hplus, ← hcs]
        rfl
  · rw [hcs, signed_cons_of_ne (by decide) (by decide), ← hcs]
    rfl

theorem wholePart_cons_of_ne {c : Char} (hc : c ≠ '0') (rest : List Char) :
    wholePart (c :: rest) = digitRun (c :: rest) := by
  unfold wholePart
  split
  · next h => exact absurd (List.cons.inj h).1 hc
  · rfl

theorem wholePart_unifyLineEnds (cs : List Char) :
    wholePart (unifyLineEnds cs) = unified (wholePart cs) := by
  obtain ⟨rfl, -⟩ | ⟨c, rest, -, rfl, hcs⟩ | ⟨rest, behind, rfl, hcs⟩ := Text.unifyLineEnds_head cs
  · rfl
  · by_cases hc : c = '0'
    · subst hc
      rw [hcs]
      rfl
    · rw [wholePart_cons_of_ne hc, hcs, wholePart_cons_of_ne hc, ← hcs, digitRun_unifyLineEnds]
  · rw [hcs, wholePart_cons_of_ne (by decide), ← hcs, digitRun_unifyLineEnds]
    rfl

theorem power?_unifyLineEnds (cs : List Char) :
    power? (unifyLineEnds cs) = (power? cs).map unified := by
  obtain ⟨rfl, -⟩ | ⟨e, rest, -, rfl, hcs⟩ | ⟨rest, behind, rfl, hcs⟩ := Text.unifyLineEnds_head cs
  · rfl
  · rw [hcs, power?_cons, power?_cons, signed_unifyLineEnds]
    split
    · have hrun : digitRun (unified (signed rest)).2 = unified (digitRun (signed rest).2) :=
        digitRun_unifyLineEnds _
      rw [hrun]
      obtain ⟨_ | ⟨digit, digits⟩, left⟩ := digitRun (signed rest).2
      · rfl
      · rfl
    · rfl
  · rw [hcs]
    rfl

/-- Two readings that differ in line ends alone: they read the same, stop for a number of equally
many digits, or both find that the text is not JSON. -/
inductive Agree : Except Stop (α × List Char) → Except Stop (α × List Char) → Prop
  | ok (a : α) (left : List Char) : Agree (.ok (a, left)) (.ok (unified (a, left)))
  | tooLong (digits : Nat) : Agree (.error (.tooLong digits)) (.error (.tooLong digits))
  | tooDeep (container : Container) :
    Agree (.error (.tooDeep container)) (.error (.tooDeep container))
  | unpaired : Agree (.error .unpaired) (.error .unpaired)
  | malformed (complaint complaint' : Complaint) (place place' : List Char) :
    Agree (.error (.malformed complaint place)) (.error (.malformed complaint' place'))

theorem Agree.bind {x y : Except Stop (α × List Char)}
    {f g : α × List Char → Except Stop (β × List Char)} (h : Agree x y)
    (hnext : ∀ a left, x = .ok (a, left) → y = .ok (a, unifyLineEnds left) →
      Agree (f (a, left)) (g (a, unifyLineEnds left))) : Agree (x >>= f) (y >>= g) := by
  cases h with
  | ok a left => exact hnext a left rfl rfl
  | tooLong digits => exact .tooLong digits
  | tooDeep container => exact .tooDeep container
  | unpaired => exact .unpaired
  | malformed => exact .malformed ..

theorem Agree.enter (room : Room) (container : Container)
    {f g : Room → Except Stop (α × List Char)} (h : ∀ inner, Agree (f inner) (g inner)) :
    Agree (room.enter container >>= f) (room.enter container >>= g) := by
  rcases room with _ | _ | n
  · exact h none
  · exact .tooDeep container
  · exact h (some n)

theorem agree_unsigned (place place' : List Char) (negative : Bool) (cs : List Char) :
    Agree (unsigned place negative cs) (unsigned place' negative (unifyLineEnds cs)) := by
  rw [unsigned_eq, unsigned_eq, wholePart_unifyLineEnds]
  obtain ⟨_ | ⟨digit, digits⟩, rest⟩ := wholePart cs
  · exact .malformed ..
  · have hfraction : fraction (unified (digit :: digits, rest)).2 = unified (fraction rest) :=
      fraction_unifyLineEnds _
    dsimp only [unified] at hfraction ⊢
    rw [hfraction, power?_unifyLineEnds]
    obtain ⟨decimals, behind⟩ := fraction rest
    cases power? behind with
    | none =>
      cases decimals with
      | nil =>
        dsimp only [Option.map_none]
        split
        · exact .tooLong _
        · exact .ok ..
      | cons => exact .ok ..
    | some power =>
      cases decimals with
      | nil => exact .ok ..
      | cons => exact .ok ..

/-- A number, from its sign on. -/
def numberAt (cs : List Char) : Except Stop (Json × List Char) :=
  match cs with
  | '-' :: rest => unsigned cs true rest
  | _ => unsigned cs false cs

theorem agree_numberAt (cs : List Char) : Agree (numberAt cs) (numberAt (unifyLineEnds cs)) := by
  have numberAt_of_ne {c : Char} (hc : c ≠ '-') (rest : List Char) :
      numberAt (c :: rest) = unsigned (c :: rest) false (c :: rest) := by
    unfold numberAt
    split
    · next h => exact absurd (List.cons.inj h).1 hc
    · rfl
  obtain ⟨rfl, -⟩ | ⟨c, rest, -, rfl, hcs⟩ | ⟨rest, behind, rfl, hcs⟩ := Text.unifyLineEnds_head cs
  · exact .malformed ..
  · by_cases hc : c = '-'
    · subst hc
      rw [hcs]
      exact agree_unsigned _ _ true rest
    · rw [numberAt_of_ne hc, hcs, numberAt_of_ne hc, ← hcs]
      exact agree_unsigned _ _ false _
  · rw [numberAt_of_ne (by decide), hcs, numberAt_of_ne (by decide), ← hcs]
    exact agree_unsigned _ _ false _

theorem agree_plain (cs : List Char) : Agree (plain cs) (plain (unifyLineEnds cs)) := by
  unfold plain
  simp (disch := decide) only [word?_unifyLineEnds]
  cases word? "null".toList cs with
  | some rest => exact .ok ..
  | none =>
  cases word? "true".toList cs with
  | some rest => exact .ok ..
  | none =>
  cases word? "false".toList cs with
  | some rest => exact .ok ..
  | none =>
  cases word? "NaN".toList cs with
  | some rest => exact .ok ..
  | none =>
  cases word? "Infinity".toList cs with
  | some rest => exact .ok ..
  | none =>
  cases word? "-Infinity".toList cs with
  | some rest => exact .ok ..
  | none =>
  exact agree_numberAt cs

/-! Texts -/

/-- The number of four hexadecimal digits. -/
def fourDigits? (a b c d : Char) : Option Nat := do
  let a ← Text.Hex.value? a
  let b ← Text.Hex.value? b
  let c ← Text.Hex.value? c
  let d ← Text.Hex.value? d
  return ((a * 16 + b) * 16 + c) * 16 + d

theorem not_mem_of_fourDigits? {a b c d e : Char} {n : Nat} (h : fourDigits? a b c d = some n)
    (he : Text.Hex.value? e = none) : e ∉ [a, b, c, d] := by
  simp only [fourDigits?, Option.bind_eq_bind, Option.bind_eq_some_iff] at h
  obtain ⟨_, ha, _, hb, _, hc, _, hd, -⟩ := h
  simp only [List.mem_cons, List.not_mem_nil, or_false]
  rintro (rfl | rfl | rfl | rfl)
  · cases ha.symm.trans he
  · cases hb.symm.trans he
  · cases hc.symm.trans he
  · cases hd.symm.trans he

theorem fourHex?_eq_some_iff {n : Nat} :
    fourHex? cs = some (n, left) ↔
      ∃ a b c d, fourDigits? a b c d = some n ∧ left ≠ [] ∧ cs = [a, b, c, d] ++ left := by
  constructor
  · intro h
    unfold fourHex? at h
    split at h
    · next a b c d next rest =>
      simp only [Option.bind_eq_bind, Option.bind_eq_some_iff, Option.pure_def,
        Option.some.injEq, Prod.mk.injEq] at h
      obtain ⟨_, ha, _, hb, _, hc, _, hd, hn, rfl⟩ := h
      refine ⟨a, b, c, d, ?_, List.cons_ne_nil _ _, rfl⟩
      simp only [fourDigits?, ha, hb, hc, hd, ← hn]
      rfl
    · cases h
  · rintro ⟨a, b, c, d, hn, hleft, rfl⟩
    obtain ⟨next, rest, rfl⟩ := List.exists_cons_of_ne_nil hleft
    simp only [fourDigits?, Option.bind_eq_bind, Option.bind_eq_some_iff] at hn
    obtain ⟨_, ha, _, hb, _, hc, _, hd, hn⟩ := hn
    simp only [List.cons_append, List.nil_append, fourHex?, ha, hb, hc, hd, ← Option.some.inj hn]
    rfl

theorem fourHex?_unifyLineEnds (cs : List Char) :
    fourHex? (unifyLineEnds cs) = (fourHex? cs).map unified := by
  ext ⟨n, left⟩
  rw [Option.map_eq_some_iff, fourHex?_eq_some_iff]
  constructor
  · rintro ⟨a, b, c, d, hn, hleft, hcs⟩
    obtain ⟨rest, rfl, rfl⟩ :=
      Text.exists_of_unifyLineEnds_eq_append (not_mem_of_fourDigits? hn rfl) hcs
    have hrest : rest ≠ [] := mt Text.unifyLineEnds_eq_nil_iff.mpr hleft
    exact ⟨(n, rest), fourHex?_eq_some_iff.mpr ⟨a, b, c, d, hn, hrest, rfl⟩, rfl⟩
  · rintro ⟨⟨n, rest⟩, hread, heq⟩
    obtain ⟨rfl, rfl⟩ := Prod.mk.inj heq
    obtain ⟨a, b, c, d, hn, hrest, rfl⟩ := fourHex?_eq_some_iff.mp hread
    exact ⟨a, b, c, d, hn, mt Text.unifyLineEnds_eq_nil_iff.mp hrest,
      Text.unifyLineEnds_append (not_mem_of_fourDigits? hn rfl) rest⟩

theorem unicodeEscape_of_none (h : fourHex? cs = none) (e : Char) :
    unicodeEscape (e :: cs) = .error (.malformed .badUnicodeEscape (e :: cs)) := by
  rw [unicodeEscape, List.tail_cons, h]

theorem unicodeEscape_of_single {high : Nat} {rest : List Char}
    (h : fourHex? cs = some (high, rest)) (hrest : ∀ more, rest ≠ '\\' :: 'u' :: more) (e : Char) :
    unicodeEscape (e :: cs) = alone high rest := by
  rw [unicodeEscape, List.tail_cons, h]
  dsimp only
  split
  · next more => exact absurd rfl (hrest more)
  · rfl

theorem unicodeEscape_of_pair {high : Nat} {more : List Char}
    (h : fourHex? cs = some (high, '\\' :: 'u' :: more)) (e : Char) :
    unicodeEscape (e :: cs) =
      if isHighSurrogate high then
        match fourHex? more with
        | none => .error (.malformed .badUnicodeEscape ('u' :: more))
        | some (low, after) =>
          if isLowSurrogate low then
            .ok (Char.ofNat (0x10000 + (high - 0xD800) * 0x400 + (low - 0xDC00)), after)
          else alone high ('\\' :: 'u' :: more)
      else alone high ('\\' :: 'u' :: more) := by
  rw [unicodeEscape, List.tail_cons, h]
  rfl

theorem textBody_unicode (opening : List Char) (fuel : Nat) (after : List Char) :
    textBody opening (fuel + 1) ('\\' :: 'u' :: after) = do
      let (c, left) ← unicodeEscape ('u' :: after)
      let (cs, left) ← textBody opening fuel left
      return (c :: cs, left) := rfl

theorem Agree.cons {x y : Except Stop (List Char × List Char)} (h : Agree x y) (c : Char) :
    Agree (do let (cs, left) ← x; return (c :: cs, left))
      (do let (cs, left) ← y; return (c :: cs, left)) :=
  h.bind fun _ _ _ _ => .ok _ _

theorem agree_alone (n : Nat) (left : List Char) :
    Agree (alone n left) (alone n (unifyLineEnds left)) := by
  unfold alone
  split
  · exact .unpaired
  · exact .ok _ _

/-- A second number behind the first makes a pair with it, or the first one stands alone. -/
theorem agree_unicodeEscape_of_pair {after more : List Char} {high : Nat}
    (h : fourHex? after = some (high, '\\' :: 'u' :: more)) :
    Agree (unicodeEscape ('u' :: after)) (unicodeEscape ('u' :: unifyLineEnds after)) := by
  have hunified : unifyLineEnds ('\\' :: 'u' :: more) = '\\' :: 'u' :: unifyLineEnds more :=
    Text.unifyLineEnds_append (show '\r' ∉ ['\\', 'u'] by decide) more
  have h' : fourHex? (unifyLineEnds after) = some (high, '\\' :: 'u' :: unifyLineEnds more) := by
    rw [fourHex?_unifyLineEnds, h, Option.map_some, unified, hunified]
  have halone : Agree (alone high ('\\' :: 'u' :: more))
      (alone high ('\\' :: 'u' :: unifyLineEnds more)) :=
    hunified ▸ agree_alone high ('\\' :: 'u' :: more)
  rw [unicodeEscape_of_pair h, unicodeEscape_of_pair h', fourHex?_unifyLineEnds more]
  split
  · cases fourHex? more with
    | none => exact .malformed ..
    | some found =>
      obtain ⟨low, behind⟩ := found
      dsimp only [Option.map_some, unified]
      split
      · generalize Char.ofNat _ = c
        exact .ok c behind
      · exact halone
  · exact halone

/-- A number of four digits is read in both texts or in neither. -/
theorem agree_unicodeEscape (after : List Char) :
    Agree (unicodeEscape ('u' :: after)) (unicodeEscape ('u' :: unifyLineEnds after)) := by
  have hafter' := fourHex?_unifyLineEnds after
  cases hafter : fourHex? after with
  | none =>
    rw [hafter] at hafter'
    rw [unicodeEscape_of_none hafter, unicodeEscape_of_none hafter']
    exact .malformed ..
  | some found =>
    obtain ⟨high, rest⟩ := found
    rw [hafter] at hafter'
    by_cases hpair : ∃ more, rest = '\\' :: 'u' :: more
    · obtain ⟨more, rfl⟩ := hpair
      exact agree_unicodeEscape_of_pair hafter
    · have hsingle (more : List Char) : rest ≠ '\\' :: 'u' :: more :=
        fun h => hpair ⟨more, h⟩
      have hsingle' (more : List Char) : unifyLineEnds rest ≠ '\\' :: 'u' :: more := by
        intro h
        obtain ⟨more, hrest, -⟩ :=
          Text.exists_of_unifyLineEnds_eq_append (show '\n' ∉ ['\\', 'u'] by decide) h
        exact hpair ⟨more, hrest⟩
      rw [unicodeEscape_of_single hafter hsingle, unicodeEscape_of_single hafter' hsingle']
      exact agree_alone high rest

theorem agree_textBody_unicode (opening opening' : List Char) {after : List Char}
    {fuel fuel' : Nat}
    (hrest : ∀ left : List Char, left.length ≤ after.length →
      (unifyLineEnds left).length ≤ (unifyLineEnds after).length →
      Agree (textBody opening fuel left) (textBody opening' fuel' (unifyLineEnds left))) :
    Agree (textBody opening (fuel + 1) ('\\' :: 'u' :: after))
      (textBody opening' (fuel' + 1) ('\\' :: 'u' :: unifyLineEnds after)) := by
  rw [textBody_unicode, textBody_unicode]
  refine (agree_unicodeEscape after).bind fun c left h h' => ?_
  exact (hrest left (Nat.le_of_lt_succ (length_unicodeEscape h))
    (Nat.le_of_lt_succ (length_unicodeEscape h'))).cons c

theorem textBody_simple (opening : List Char) (fuel : Nat) {e : Char} (he : e ≠ 'u')
    (after : List Char) :
    textBody opening (fuel + 1) ('\\' :: e :: after) =
      match simpleEscape? e with
      | none => .error (.malformed .badEscape ('\\' :: e :: after))
      | some c => do
        let (cs, left) ← textBody opening fuel after
        return (c :: cs, left) := by
  rw [textBody.eq_def]
  simp only [if_neg he]
  rfl

theorem agree_textBody_escape (opening opening' : List Char) {cs : List Char} {fuel fuel' : Nat}
    (hrest : ∀ left : List Char, left.length < cs.length →
      (unifyLineEnds left).length < (unifyLineEnds cs).length →
      Agree (textBody opening fuel left) (textBody opening' fuel' (unifyLineEnds left))) :
    Agree (textBody opening (fuel + 1) ('\\' :: cs))
      (textBody opening' (fuel' + 1) ('\\' :: unifyLineEnds cs)) := by
  obtain ⟨rfl, -⟩ | ⟨e, after, -, rfl, hcs⟩ | ⟨rest, behind, rfl, hcs⟩ := Text.unifyLineEnds_head cs
  · exact .malformed ..
  · rw [hcs] at hrest ⊢
    by_cases hu : e = 'u'
    · subst hu
      exact agree_textBody_unicode opening opening' fun left hleft hleft' =>
        hrest left (Nat.lt_succ_of_le hleft) (Nat.lt_succ_of_le hleft')
    · rw [textBody_simple opening fuel hu, textBody_simple opening' fuel' hu]
      cases simpleEscape? e with
      | none => exact .malformed ..
      | some c =>
        exact (hrest after (Nat.lt_succ_self _) (Nat.lt_succ_self _)).cons c
  · rw [hcs]
    exact .malformed ..

theorem agree_textBody (opening opening' : List Char) {cs : List Char} {fuel fuel' : Nat}
    (hfuel : cs.length < fuel) (hfuel' : (unifyLineEnds cs).length < fuel') :
    Agree (textBody opening fuel cs) (textBody opening' fuel' (unifyLineEnds cs)) := by
  induction fuel generalizing cs fuel' with
  | zero => cases hfuel
  | succ fuel ih =>
    obtain ⟨fuel', rfl⟩ : ∃ k, fuel' = k + 1 :=
      Nat.exists_eq_add_one.mpr (Nat.zero_lt_of_lt hfuel')
    obtain ⟨rfl, -⟩ | ⟨c, rest, -, rfl, hcs⟩ | ⟨rest, behind, rfl, hcs⟩ := Text.unifyLineEnds_head cs
    · exact .malformed ..
    · rw [hcs] at hfuel' ⊢
      simp only [List.length_cons, Nat.add_lt_add_iff_right] at hfuel hfuel'
      by_cases hquote : c = '"'
      · subst hquote
        exact .ok ..
      by_cases hslash : c = '\\'
      · subst hslash
        exact agree_textBody_escape opening opening' fun left hleft hleft' =>
          ih (by omega) (by omega)
      by_cases hcontrol : c.toNat < 0x20
      · simp only [textBody, if_neg hquote, if_neg hslash, if_pos hcontrol]
        exact .malformed ..
      · simp only [textBody, if_neg hquote, if_neg hslash, if_neg hcontrol]
        exact (ih hfuel hfuel').cons c
    · rw [hcs]
      exact .malformed ..

theorem agree_text {c : Char} (rest : List Char) :
    Agree (text (c :: rest)) (text (c :: unifyLineEnds rest)) :=
  (agree_textBody _ _ (Nat.lt_succ_self _) (Nat.lt_succ_self _)).bind fun _ _ _ _ => .ok _ _

end TradingStatus.Json
