import TradingStatus.Proofs.Json.Tokens

/-! Line ends mean nothing to the reader: a text and the same text with a line feed at the end of
every line write the same document, if any. Between tokens a line end is a blank, and within one
none is read. -/

namespace TradingStatus.Json

open Text (unifyLineEnds)

/-! Values -/

/-- With so much fuel, and with enough for the text whose line ends are unified, what follows a gap
is read alike. -/
structure ReadsAlike (fuel : Nat) : Prop where
  value : ∀ {room : Room} {cs : List Char} {fuel' : Nat}, 2 * cs.length + 1 ≤ fuel →
    2 * (unifyLineEnds cs).length + 1 ≤ fuel' →
    Agree (value room fuel (skipGap cs)) (value room fuel' (skipGap (unifyLineEnds cs)))
  items : ∀ {room : Room} {cs : List Char} {fuel' : Nat}, 2 * cs.length + 2 ≤ fuel →
    2 * (unifyLineEnds cs).length + 2 ≤ fuel' →
    Agree (items room fuel (skipGap cs)) (items room fuel' (skipGap (unifyLineEnds cs)))
  members : ∀ {room : Room} {found : List (String × Json)} {cs : List Char} {fuel' : Nat},
    2 * cs.length + 2 ≤ fuel → 2 * (unifyLineEnds cs).length + 2 ≤ fuel' →
    Agree (members room fuel found (skipGap cs))
      (members room fuel' found (skipGap (unifyLineEnds cs)))

variable {room : Room}

theorem ReadsAlike.listBehind {fuel fuel' : Nat} (h : ReadsAlike fuel) {rest : List Char}
    (hfuel : 2 * rest.length + 2 ≤ fuel) (hfuel' : 2 * (unifyLineEnds rest).length + 2 ≤ fuel')
    (room : Room) :
    Agree (Json.listBehind fuel rest room) (Json.listBehind fuel' (unifyLineEnds rest) room) := by
  obtain ⟨left, hclosed, hclosed'⟩ | ⟨hopen, hopen'⟩ := skipGap_marks ']' rest
  · rw [listBehind_of_closed hclosed, listBehind_of_closed hclosed']
    exact .ok ..
  · rw [listBehind_of_open hopen, listBehind_of_open hopen']
    exact (h.items hfuel hfuel').bind fun _ _ _ _ => .ok _ _

theorem ReadsAlike.objectBehind {fuel fuel' : Nat} (h : ReadsAlike fuel) {rest : List Char}
    (hfuel : 2 * rest.length + 2 ≤ fuel) (hfuel' : 2 * (unifyLineEnds rest).length + 2 ≤ fuel')
    (room : Room) :
    Agree (Json.objectBehind fuel rest room)
      (Json.objectBehind fuel' (unifyLineEnds rest) room) := by
  obtain ⟨left, hclosed, hclosed'⟩ | ⟨hopen, hopen'⟩ := skipGap_marks '\x7d' rest
  · rw [objectBehind_of_closed hclosed, objectBehind_of_closed hclosed']
    exact .ok ..
  · rw [objectBehind_of_open hopen, objectBehind_of_open hopen']
    exact (h.members hfuel hfuel').bind fun _ _ _ _ => .ok _ _

theorem ReadsAlike.value_succ {fuel fuel' : Nat} (h : ReadsAlike fuel) {cs : List Char}
    (hfuel : 2 * cs.length + 1 ≤ fuel + 1)
    (hfuel' : 2 * (unifyLineEnds cs).length + 1 ≤ fuel' + 1) :
    Agree (Json.value room (fuel + 1) (skipGap cs))
      (Json.value room (fuel' + 1) (skipGap (unifyLineEnds cs))) := by
  obtain ⟨hskip, hskip'⟩ | ⟨c, rest, hskip, hskip'⟩ := skipGap_eq_nil_or_exists cs
  · rw [hskip, hskip']
    exact .malformed ..
  · have hlength := length_skipGap_of_eq hskip
    have hlength' := length_skipGap_of_eq hskip'
    rw [hskip, hskip']
    by_cases hquote : c = '"'
    · subst hquote
      exact (agree_text rest).bind fun _ _ _ _ => .ok _ _
    by_cases hlist : c = '['
    · subst hlist
      rw [value_list, value_list]
      exact .enter room .list fun inner => h.listBehind (by omega) (by omega) inner
    by_cases hobject : c = '\x7b'
    · subst hobject
      rw [value_object, value_object]
      exact .enter room .object fun inner => h.objectBehind (by omega) (by omega) inner
    · rw [value_plain fuel hquote hlist hobject, value_plain fuel' hquote hlist hobject]
      have hc : unifyLineEnds (c :: rest) = c :: unifyLineEnds rest := by
        rw [← hskip, ← hskip', skipGap_unifyLineEnds]
      rw [← hc]
      exact agree_plain _

theorem ReadsAlike.itemsBehind {fuel fuel' : Nat} (h : ReadsAlike fuel) {left : List Char}
    (hfuel : 2 * left.length ≤ fuel) (hfuel' : 2 * (unifyLineEnds left).length ≤ fuel')
    (item : Json) :
    Agree (Json.itemsBehind room fuel item left)
      (Json.itemsBehind room fuel' item (unifyLineEnds left)) := by
  obtain ⟨hskip, hskip'⟩ | ⟨c, rest, hskip, hskip'⟩ := skipGap_eq_nil_or_exists left
  · unfold Json.itemsBehind
    rw [hskip, hskip']
    exact .malformed ..
  · have hlength := length_skipGap_of_eq hskip
    have hlength' := length_skipGap_of_eq hskip'
    by_cases hclosed : c = ']'
    · subst hclosed
      unfold Json.itemsBehind
      rw [hskip, hskip']
      exact .ok ..
    by_cases hcomma : c = ','
    · subst hcomma
      unfold Json.itemsBehind
      rw [hskip, hskip']
      exact (h.items (by omega) (by omega)).bind fun _ _ _ _ => .ok _ _
    · rw [itemsBehind_of_ne hskip hclosed hcomma, itemsBehind_of_ne hskip' hclosed hcomma]
      exact .malformed ..

theorem ReadsAlike.items_succ {fuel fuel' : Nat} (h : ReadsAlike fuel) {cs : List Char}
    (hfuel : 2 * cs.length + 2 ≤ fuel + 1)
    (hfuel' : 2 * (unifyLineEnds cs).length + 2 ≤ fuel' + 1) :
    Agree (Json.items room (fuel + 1) (skipGap cs))
      (Json.items room (fuel' + 1) (skipGap (unifyLineEnds cs))) := by
  rw [Json.items_succ, Json.items_succ]
  refine (h.value (by omega) (by omega)).bind fun item left hitem hitem' => ?_
  have hleft := (goesForward fuel).value hitem
  have hleft' := (goesForward fuel').value hitem'
  have hgap := length_skipGap_le cs
  have hgap' := length_skipGap_le (unifyLineEnds cs)
  exact h.itemsBehind (by omega) (by omega) item

theorem ReadsAlike.membersBehind {fuel fuel' : Nat} (h : ReadsAlike fuel) {left : List Char}
    (hfuel : 2 * left.length ≤ fuel) (hfuel' : 2 * (unifyLineEnds left).length ≤ fuel')
    (found : List (String × Json)) :
    Agree (Json.membersBehind room fuel found left)
      (Json.membersBehind room fuel' found (unifyLineEnds left)) := by
  obtain ⟨hskip, hskip'⟩ | ⟨c, rest, hskip, hskip'⟩ := skipGap_eq_nil_or_exists left
  · unfold Json.membersBehind
    rw [hskip, hskip']
    exact .malformed ..
  · have hlength := length_skipGap_of_eq hskip
    have hlength' := length_skipGap_of_eq hskip'
    by_cases hclosed : c = '\x7d'
    · subst hclosed
      unfold Json.membersBehind
      rw [hskip, hskip']
      exact .ok ..
    by_cases hcomma : c = ','
    · subst hcomma
      unfold Json.membersBehind
      rw [hskip, hskip']
      exact h.members (by omega) (by omega)
    · rw [membersBehind_of_ne hskip hclosed hcomma, membersBehind_of_ne hskip' hclosed hcomma]
      exact .malformed ..

theorem ReadsAlike.memberBehind {fuel fuel' : Nat} (h : ReadsAlike fuel) {left : List Char}
    (hfuel : 2 * left.length ≤ fuel) (hfuel' : 2 * (unifyLineEnds left).length ≤ fuel')
    (found : List (String × Json)) (name : String) :
    Agree (Json.memberBehind room fuel found name left)
      (Json.memberBehind room fuel' found name (unifyLineEnds left)) := by
  obtain ⟨rest, hskip, hskip'⟩ | ⟨hno, hno'⟩ := skipGap_marks ':' left
  · have hlength := length_skipGap_of_eq hskip
    have hlength' := length_skipGap_of_eq hskip'
    unfold Json.memberBehind
    rw [hskip, hskip']
    refine (h.value (by omega) (by omega)).bind fun v behind hvalue hvalue' => ?_
    have hbehind := (goesForward fuel).value hvalue
    have hbehind' := (goesForward fuel').value hvalue'
    have hgap := length_skipGap_le rest
    have hgap' := length_skipGap_le (unifyLineEnds rest)
    exact h.membersBehind (by omega) (by omega) _
  · rw [memberBehind_of_no_colon hno, memberBehind_of_no_colon hno']
    exact .malformed ..

theorem ReadsAlike.members_succ {fuel fuel' : Nat} (h : ReadsAlike fuel)
    {found : List (String × Json)} {cs : List Char} (hfuel : 2 * cs.length + 2 ≤ fuel + 1)
    (hfuel' : 2 * (unifyLineEnds cs).length + 2 ≤ fuel' + 1) :
    Agree (Json.members room (fuel + 1) found (skipGap cs))
      (Json.members room (fuel' + 1) found (skipGap (unifyLineEnds cs))) := by
  obtain ⟨rest, hskip, hskip'⟩ | ⟨hno, hno'⟩ := skipGap_marks '"' cs
  · rw [hskip, hskip', Json.members_succ, Json.members_succ]
    refine (agree_text rest).bind fun name left htext htext' => ?_
    have hleft := length_text htext
    have hleft' := length_text htext'
    have hlength := length_skipGap_of_eq hskip
    have hlength' := length_skipGap_of_eq hskip'
    simp only [List.length_cons] at hleft hleft'
    exact h.memberBehind (by omega) (by omega) found name
  · rw [members_of_no_name hno, members_of_no_name hno']
    exact .malformed ..

/-- By induction on the fuel of the first reading; the fuel of the second goes along. -/
theorem readsAlike : ∀ fuel : Nat, ReadsAlike fuel
  | 0 => {
      value := fun h _ => by omega
      items := fun h _ => by omega
      members := fun h _ => by omega }
  | fuel + 1 =>
    have h := readsAlike fuel
    { value := fun hfuel hfuel' => by
        obtain ⟨_, rfl⟩ := Nat.exists_eq_add_one.mpr (Nat.lt_of_lt_of_le (Nat.succ_pos _) hfuel')
        exact h.value_succ hfuel hfuel'
      items := fun hfuel hfuel' => by
        obtain ⟨_, rfl⟩ := Nat.exists_eq_add_one.mpr (Nat.lt_of_lt_of_le (Nat.succ_pos _) hfuel')
        exact h.items_succ hfuel hfuel'
      members := fun hfuel hfuel' => by
        obtain ⟨_, rfl⟩ := Nat.exists_eq_add_one.mpr (Nat.lt_of_lt_of_le (Nat.succ_pos _) hfuel')
        exact h.members_succ hfuel hfuel' }

/-! Documents -/

theorem document_of_no_mark {cs : List Char} (h : ∀ rest, cs ≠ '\uFEFF' :: rest) :
    document room cs = value room (2 * cs.length + 2) (skipGap cs) >>= fun (v, left) =>
      match skipGap left with
      | [] => return v
      | left => .error (.malformed .extraData left) := by
  unfold document
  split
  · exact absurd rfl (h _)
  · rfl

/-- Two readings of a document come to the same: one document, or one reason, but that what is
malformed may be so at different places. -/
inductive SameDocument : Except Stop Json → Except Stop Json → Prop
  | ok (v : Json) : SameDocument (.ok v) (.ok v)
  | tooLong (digits : Nat) : SameDocument (.error (.tooLong digits)) (.error (.tooLong digits))
  | tooDeep (container : Container) :
    SameDocument (.error (.tooDeep container)) (.error (.tooDeep container))
  | unpaired : SameDocument (.error .unpaired) (.error .unpaired)
  | malformed (complaint complaint' : Complaint) (place place' : List Char) :
    SameDocument (.error (.malformed complaint place)) (.error (.malformed complaint' place'))

/-- The document is the same, whichever way the lines end. -/
theorem document_unifyLineEnds (room : Room) (cs : List Char) :
    SameDocument (document room cs) (document room (unifyLineEnds cs)) := by
  by_cases hmark : ∃ rest, cs = '\uFEFF' :: rest
  · obtain ⟨rest, rfl⟩ := hmark
    rw [Text.unifyLineEnds_cons (by decide)]
    exact .malformed ..
  · have hno (rest : List Char) : cs ≠ '\uFEFF' :: rest := fun h => hmark ⟨rest, h⟩
    have hno' (rest : List Char) : unifyLineEnds cs ≠ '\uFEFF' :: rest := by
      intro h
      obtain ⟨rest, hrest, -⟩ :=
        Text.exists_of_unifyLineEnds_eq_append (show '\n' ∉ ['\uFEFF'] by decide) h
      exact hno rest hrest
    rw [document_of_no_mark hno, document_of_no_mark hno']
    have hvalue : Agree (value room (2 * cs.length + 2) (skipGap cs))
        (value room (2 * (unifyLineEnds cs).length + 2) (skipGap (unifyLineEnds cs))) :=
      (readsAlike (2 * cs.length + 2)).value (Nat.le_succ _)
        (Nat.le_succ (2 * (unifyLineEnds cs).length + 1))
    revert hvalue
    generalize value room (2 * cs.length + 2) (skipGap cs) = read
    generalize value room (2 * (unifyLineEnds cs).length + 2) (skipGap (unifyLineEnds cs)) = read'
    rintro (⟨v, left⟩ | ⟨digits⟩ | ⟨container⟩ | _ | ⟨_, _, _, _⟩)
    · simp only [bind, Except.bind, unified]
      obtain ⟨hskip, hskip'⟩ | ⟨c, rest, hskip, hskip'⟩ := skipGap_eq_nil_or_exists left
      · rw [hskip, hskip']
        exact .ok v
      · rw [hskip, hskip']
        exact .malformed ..
    · exact .tooLong digits
    · exact .tooDeep container
    · exact .unpaired
    · exact .malformed ..

/-- What a reading comes to, places and wording apart. -/
def ending : Except ReadError Json → Except (Option ReadError) Json
  | .ok v => .ok v
  | .error (.malformed ..) => .error none
  | .error error => .error (some error)

/-- Reading comes to the same, whichever way the lines end. -/
theorem ending_readWithin_unifyLineEnds (room : Room) (s : String) :
    ending (readWithin room (String.ofList (unifyLineEnds s.toList))) =
      ending (readWithin room s) := by
  unfold readWithin
  rw [String.toList_ofList]
  have h := document_unifyLineEnds room s.toList
  revert h
  generalize document room s.toList = read
  generalize document room (unifyLineEnds s.toList) = read'
  rintro (_ | _ | _ | _ | _) <;> rfl

variable {s : String}

theorem readWithin_unifyLineEnds_eq_ok_iff {v : Json} :
    readWithin room (String.ofList (unifyLineEnds s.toList)) = .ok v ↔
      readWithin room s = .ok v := by
  have hok (read : Except ReadError Json) : read = .ok v ↔ ending read = .ok v := by
    rcases read with (_ | _ | _ | _) | _ <;> simp [ending]
  rw [hok, hok, ending_readWithin_unifyLineEnds]

/-- What is not malformed and no document either stops reading for the same reason. -/
theorem readWithin_unifyLineEnds_eq_error_iff {error : ReadError}
    (h : ∀ complaint line column position, error ≠ .malformed complaint line column position) :
    readWithin room (String.ofList (unifyLineEnds s.toList)) = .error error ↔
      readWithin room s = .error error := by
  have herror (read : Except ReadError Json) : read = .error error ↔
      ending read = .error (some error) := by
    rcases read with ⟨complaint, line, column, position⟩ | _ | _ | _ | _ <;>
      simp [ending, Ne.symm (h _ _ _ _)]
  rw [herror, herror, ending_readWithin_unifyLineEnds]

end TradingStatus.Json
