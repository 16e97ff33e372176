import TradingStatus.Text.Lines

/-! Unifying line ends touches nothing but line ends: every other character stays, and in its
place. -/

namespace TradingStatus.Text

variable {cs : List Char}

theorem unifyLineEnds_cons {c : Char} (hc : c ≠ '\r') (rest : List Char) :
    unifyLineEnds (c :: rest) = c :: unifyLineEnds rest := by
  rw [unifyLineEnds]
  · intro _ h
    exact absurd h hc
  · exact hc

theorem exists_unifyLineEnds_return (rest : List Char) :
    ∃ behind, unifyLineEnds ('\r' :: rest) = '\n' :: unifyLineEnds behind := by
  cases rest with
  | nil => exact ⟨[], rfl⟩
  | cons c rest =>
    by_cases hc : c = '\n'
    · subst hc
      exact ⟨rest, rfl⟩
    · exact ⟨c :: rest, by rw [unifyLineEnds]; intro _ h; exact absurd (List.cons.inj h).1 hc⟩

/-- The first character stays as it is, unless it ends a line. -/
theorem unifyLineEnds_head (cs : List Char) :
    (cs = [] ∧ unifyLineEnds cs = []) ∨
      (∃ c rest, c ≠ '\r' ∧ cs = c :: rest ∧ unifyLineEnds cs = c :: unifyLineEnds rest) ∨
      ∃ rest behind, cs = '\r' :: rest ∧ unifyLineEnds cs = '\n' :: unifyLineEnds behind := by
  cases cs with
  | nil => exact .inl ⟨rfl, rfl⟩
  | cons c rest =>
    by_cases hc : c = '\r'
    · subst hc
      obtain ⟨behind, hbehind⟩ := exists_unifyLineEnds_return rest
      exact .inr (.inr ⟨rest, behind, rfl, hbehind⟩)
    · exact .inr (.inl ⟨c, rest, hc, rfl, unifyLineEnds_cons hc rest⟩)

theorem unifyLineEnds_append {front : List Char} (hfront : '\r' ∉ front) (rest : List Char) :
    unifyLineEnds (front ++ rest) = front ++ unifyLineEnds rest := by
  induction front with
  | nil => rfl
  | cons c front ih =>
    rw [List.mem_cons, not_or] at hfront
    rw [List.cons_append, unifyLineEnds_cons (Ne.symm hfront.1), ih hfront.2, List.cons_append]

/-- What has no line feed is there from the start. -/
theorem exists_of_unifyLineEnds_eq_append {front behind : List Char} (hfront : '\n' ∉ front)
    (h : unifyLineEnds cs = front ++ behind) :
    ∃ rest, cs = front ++ rest ∧ behind = unifyLineEnds rest := by
  induction front generalizing cs with
  | nil => exact ⟨cs, rfl, h.symm⟩
  | cons c front ih =>
    rw [List.mem_cons, not_or] at hfront
    cases cs with
    | nil => cases h
    | cons d rest =>
      by_cases hd : d = '\r'
      · subst hd
        obtain ⟨_, hreturn⟩ := exists_unifyLineEnds_return rest
        rw [hreturn] at h
        exact absurd (List.cons.inj h).1 hfront.1
      · rw [unifyLineEnds_cons hd] at h
        obtain ⟨rfl, hrest⟩ := List.cons.inj h
        obtain ⟨rest, rfl, hbehind⟩ := ih hfront.2 hrest
        exact ⟨rest, rfl, hbehind⟩

theorem unifyLineEnds_eq_nil_iff : unifyLineEnds cs = [] ↔ cs = [] := by
  fun_cases unifyLineEnds cs <;> simp

theorem dropWhile_unifyLineEnds {p : Char → Bool} (hp : p '\r' = p '\n') (cs : List Char) :
    (unifyLineEnds cs).dropWhile p = unifyLineEnds (cs.dropWhile p) := by
  fun_induction unifyLineEnds cs with
  | case1 => rfl
  | case2 rest ih =>
    cases hend : p '\n' with
    | true => simpa [hp, hend] using ih
    | false => simp [hp, hend, unifyLineEnds]
  | case3 rest hne ih =>
    cases hend : p '\n' with
    | true => simpa [hp, hend] using ih
    | false =>
      simp only [List.dropWhile_cons, hp, hend, Bool.false_eq_true, if_false]
      rw [unifyLineEnds]
      exact hne
  | case4 c rest _ hc ih =>
    cases hp : p c with
    | true => simpa [hp] using ih
    | false => simp [hp, unifyLineEnds_cons hc]

theorem takeWhile_unifyLineEnds {p : Char → Bool} (hreturn : p '\r' = false)
    (hfeed : p '\n' = false) (cs : List Char) :
    (unifyLineEnds cs).takeWhile p = cs.takeWhile p := by
  fun_induction unifyLineEnds cs with
  | case1 => rfl
  | case2 rest ih => simp [hreturn, hfeed]
  | case3 rest _ ih => simp [hreturn, hfeed]
  | case4 c rest _ _ ih => simp [List.takeWhile_cons, ih]

end TradingStatus.Text
