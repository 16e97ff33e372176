import TradingStatus.Json.Reader
import TradingStatus.Proofs.Results

/-! The reader goes forward: whatever it reads, less of the text is left than there was. -/

namespace TradingStatus.Json

variable {cs left : List Char} {room : Room}

theorem length_skipGap_le (cs : List Char) : (skipGap cs).length ≤ cs.length :=
  (List.dropWhile_suffix _).length_le

/-! Texts -/

theorem length_fourHex? {n : Nat} (h : fourHex? cs = some (n, left)) :
    left.length + 4 = cs.length := by
  unfold fourHex? at h
  split at h
  · simp only [Option.bind_eq_bind, Option.bind_eq_some_iff, Option.pure_def,
      Option.some.injEq, Prod.mk.injEq] at h
    obtain ⟨_, -, _, -, _, -, _, -, -, rfl⟩ := h
    rfl
  · cases h

theorem eq_of_alone {n : Nat} {c : Char} {rest : List Char} (h : alone n rest = .ok (c, left)) :
    left = rest := by
  unfold alone at h
  split at h
  · cases h
  · exact (Prod.mk.inj (Except.ok.inj h)).2.symm

theorem length_unicodeEscape {c : Char} (h : unicodeEscape cs = .ok (c, left)) :
    left.length < cs.length := by
  have htail : cs.tail.length ≤ cs.length := by
    rw [List.length_tail]
    omega
  unfold unicodeEscape at h
  split at h
  · cases h
  · next high rest hhigh =>
    have hrest := length_fourHex? hhigh
    split at h
    · next more =>
      simp only [List.length_cons] at hrest
      split at h
      · split at h
        · cases h
        · next low after hlow =>
          have hafter := length_fourHex? hlow
          split at h
          · obtain ⟨-, rfl⟩ := Prod.mk.inj (Except.ok.inj h)
            omega
          · obtain rfl := eq_of_alone h
            simp only [List.length_cons]
            omega
      · obtain rfl := eq_of_alone h
        simp only [List.length_cons]
        omega
    · obtain rfl := eq_of_alone h
      omega

theorem exists_of_cons {c : Char} {body : List Char} {read : Except Stop (List Char × List Char)}
    (h : (do let (cs, left) ← read; return (c :: cs, left)) = Except.ok (body, left)) :
    ∃ cs, read = .ok (cs, left) := by
  obtain ⟨⟨cs, rest⟩, hread, hcons⟩ := bind_eq_ok_iff.mp h
  obtain ⟨-, rfl⟩ := Prod.mk.inj (Except.ok.inj hcons)
  exact ⟨cs, hread⟩

theorem length_textBody {opening body : List Char} {fuel : Nat}
    (h : textBody opening fuel cs = .ok (body, left)) : left.length < cs.length := by
  fun_induction textBody opening fuel cs generalizing body left with
  | case3 fuel rest =>
    obtain ⟨-, rfl⟩ := Prod.mk.inj (Except.ok.inj h)
    exact Nat.lt_succ_self _
  | case5 fuel after _ ih =>
    obtain ⟨⟨c, rest⟩, hescape, hrest⟩ := bind_eq_ok_iff.mp h
    obtain ⟨cs, hcs⟩ := exists_of_cons hrest
    have hescape := length_unicodeEscape hescape
    have hcs := ih rest hcs
    simp only [List.length_cons] at hescape ⊢
    omega
  | case7 fuel e after _ c _ _ ih =>
    obtain ⟨cs, hcs⟩ := exists_of_cons h
    have hcs := ih hcs
    simp only [List.length_cons]
    omega
  | case9 fuel c rest _ _ _ ih =>
    obtain ⟨cs, hcs⟩ := exists_of_cons h
    have hcs := ih hcs
    simp only [List.length_cons]
    omega
  | _ => cases h

theorem length_text {s : String} (h : text cs = .ok (s, left)) : left.length < cs.length := by
  obtain ⟨⟨body, rest⟩, hbody, hrest⟩ := bind_eq_ok_iff.mp h
  obtain ⟨-, rfl⟩ := Prod.mk.inj (Except.ok.inj hrest)
  have hlength := length_textBody hbody
  rw [List.length_tail] at hlength
  omega

/-! Names and numbers -/

theorem length_digitRun_le (cs : List Char) : (digitRun cs).2.length ≤ cs.length :=
  (List.dropWhile_suffix _).length_le

theorem length_digitRun_lt (h : (digitRun cs).1 ≠ []) : (digitRun cs).2.length < cs.length := by
  have hsplit : (cs.takeWhile Char.isDigit ++ cs.dropWhile Char.isDigit).length = cs.length := by
    rw [List.takeWhile_append_dropWhile]
  have hdigits : 0 < (cs.takeWhile Char.isDigit).length := by
    rw [List.length_pos_iff]
    intro hnone
    exact h (by rw [digitRun, hnone, List.map_nil])
  rw [List.length_append] at hsplit
  show (cs.dropWhile Char.isDigit).length < _
  omega

theorem length_fraction_le (cs : List Char) : (fraction cs).2.length ≤ cs.length := by
  unfold fraction
  split
  · next rest =>
    have hrun := length_digitRun_le rest
    split
    · exact Nat.le_refl _
    · exact Nat.le_succ_of_le hrun
  · exact Nat.le_refl _

/-- A sign, if there is one, and what follows it. -/
def signed (cs : List Char) : Bool × List Char :=
  match cs with
  | '-' :: rest => (true, rest)
  | '+' :: rest => (false, rest)
  | _ => (false, cs)

/-- The digits of a whole number, a zero being alone, and what follows them. -/
def wholePart (cs : List Char) : List Nat × List Char :=
  match cs with
  | '0' :: rest => ([0], rest)
  | _ => digitRun cs

theorem power?_cons (e : Char) (rest : List Char) : power? (e :: rest) =
    if e = 'e' ∨ e = 'E' then
      match digitRun (signed rest).2 with
      | ([], _) => none
      | (digits, left) =>
        let n : Int := Text.ofDigits digits
        some (if (signed rest).1 then -n else n, left)
    else none := rfl

theorem unsigned_eq (place : List Char) (negative : Bool) (cs : List Char) :
    unsigned place negative cs =
      match wholePart cs with
      | ([], _) => .error (.malformed .expectingValue place)
      | (digits, rest) =>
        match (fraction rest).1, power? (fraction rest).2 with
        | [], none =>
          if digits.length > Text.numeralLimit then .error (.tooLong digits.length)
          else
            let n : Int := Text.ofDigits digits
            .ok (.int (if negative then -n else n), (fraction rest).2)
        | decimals, power =>
          let (e, left) := power.getD (0, (fraction rest).2)
          let value := Binary64.ofDecimal negative (Text.ofDigits (digits ++ decimals))
            (e - decimals.length)
          .ok (.float value, left) := rfl

theorem length_signed_le (cs : List Char) : (signed cs).2.length ≤ cs.length := by
  unfold signed
  split <;> simp

theorem length_wholePart_lt (h : (wholePart cs).1 ≠ []) :
    (wholePart cs).2.length < cs.length := by
  unfold wholePart at h ⊢
  split at h
  · exact Nat.lt_succ_self _
  · exact length_digitRun_lt h

theorem length_power? {n : Int} (h : power? cs = some (n, left)) : left.length < cs.length := by
  cases cs with
  | nil => cases h
  | cons e rest =>
    rw [power?_cons] at h
    have hsign := length_signed_le rest
    have hrun := length_digitRun_le (signed rest).2
    split at h
    · split at h
      · cases h
      · next hdigits =>
        obtain ⟨-, rfl⟩ := Prod.mk.inj (Option.some.inj h)
        rw [hdigits] at hrun
        simp only [List.length_cons] at hrun ⊢
        omega
    · cases h

theorem length_unsigned {place : List Char} {negative : Bool} {v : Json}
    (h : unsigned place negative cs = .ok (v, left)) : left.length < cs.length := by
  rw [unsigned_eq] at h
  have hwhole : (wholePart cs).1 ≠ [] → (wholePart cs).2.length < cs.length :=
    length_wholePart_lt
  split at h
  · cases h
  · next digits rest hne hdigits =>
    rw [hdigits] at hwhole
    have hrest : rest.length < cs.length := hwhole hne
    have hfraction := length_fraction_le rest
    split at h
    · split at h
      · cases h
      · obtain ⟨-, rfl⟩ := Prod.mk.inj (Except.ok.inj h)
        omega
    · obtain ⟨-, rfl⟩ := Prod.mk.inj (Except.ok.inj h)
      cases hpower : power? (fraction rest).2 with
      | none =>
        dsimp only
        omega
      | some power =>
        have hpower := length_power? hpower
        dsimp only
        omega

theorem length_word?_lt {word : List Char} (h : word? word cs = some left) (hword : word ≠ []) :
    left.length < cs.length := by
  unfold word? at h
  split at h
  · next hprefix =>
    have hpositive := List.length_pos_iff.mpr hword
    have hle := (List.isPrefixOf_iff_prefix.mp hprefix).length_le
    rw [← Option.some.inj h, List.length_drop]
    omega
  · cases h

theorem length_plain {v : Json} (h : plain cs = .ok (v, left)) : left.length < cs.length := by
  unfold plain at h
  split at h
  case h_7 =>
    split at h
    · exact Nat.lt_succ_of_lt (length_unsigned h)
    · exact length_unsigned h
  all_goals
    obtain ⟨-, rfl⟩ := Prod.mk.inj (Except.ok.inj h)
    apply length_word?_lt (by assumption)
    decide

/-! Values -/

theorem value_plain (fuel : Nat) {c : Char} (hquote : c ≠ '"') (hlist : c ≠ '[')
    (hobject : c ≠ '\x7b') (rest : List Char) :
    value room (fuel + 1) (c :: rest) = plain (c :: rest) := by
  rw [value.eq_def]
  simp only [if_neg hquote, if_neg hlist, if_neg hobject]

/-- What may follow the bracket that opens a list: its end, or the items. -/
def listBehind (fuel : Nat) (rest : List Char) (room : Room) : Except Stop (Json × List Char) :=
  match skipGap rest with
  | ']' :: left => return (.arr [], left)
  | inner => do
    let (all, left) ← items room fuel inner
    return (.arr all, left)

theorem value_list (fuel : Nat) (rest : List Char) :
    value room (fuel + 1) ('[' :: rest) = room.enter .list >>= listBehind fuel rest := by
  rw [value.eq_def]
  simp only [Char.reduceEq, if_true, if_false]
  rfl

theorem listBehind_of_closed {rest left : List Char} (h : skipGap rest = ']' :: left)
    (fuel : Nat) (room : Room) : listBehind fuel rest room = .ok (.arr [], left) := by
  unfold listBehind
  rw [h]
  rfl

theorem listBehind_of_open {rest : List Char} (h : ∀ left, skipGap rest ≠ ']' :: left)
    (fuel : Nat) (room : Room) :
    listBehind fuel rest room = do
      let (all, left) ← items room fuel (skipGap rest)
      return (.arr all, left) := by
  unfold listBehind
  split
  · next heq => exact absurd heq (h _)
  · rfl

/-- What may follow the brace that opens an object: its end, or the members. -/
def objectBehind (fuel : Nat) (rest : List Char) (room : Room) : Except Stop (Json × List Char) :=
  match skipGap rest with
  | '\x7d' :: left => return (.obj [], left)
  | inner => do
    let (all, left) ← members room fuel [] inner
    return (.obj all, left)

theorem value_object (fuel : Nat) (rest : List Char) :
    value room (fuel + 1) ('\x7b' :: rest) = room.enter .object >>= objectBehind fuel rest := by
  rw [value.eq_def]
  simp only [Char.reduceEq, if_true, if_false]
  rfl

theorem objectBehind_of_closed {rest left : List Char} (h : skipGap rest = '\x7d' :: left)
    (fuel : Nat) (room : Room) : objectBehind fuel rest room = .ok (.obj [], left) := by
  unfold objectBehind
  rw [h]
  rfl

theorem objectBehind_of_open {rest : List Char} (h : ∀ left, skipGap rest ≠ '\x7d' :: left)
    (fuel : Nat) (room : Room) :
    objectBehind fuel rest room = do
      let (all, left) ← members room fuel [] (skipGap rest)
      return (.obj all, left) := by
  unfold objectBehind
  split
  · next heq => exact absurd heq (h _)
  · rfl

/-- What may follow an item: the end of the list, or a comma and the next item. -/
def itemsBehind (room : Room) (fuel : Nat) (item : Json) (left : List Char) :
    Except Stop (List Json × List Char) :=
  match skipGap left with
  | ']' :: left => return ([item], left)
  | ',' :: left => do
    let (rest, left) ← items room fuel (skipGap left)
    return (item :: rest, left)
  | left => .error (.malformed .expectingComma left)

theorem items_succ (fuel : Nat) (cs : List Char) :
    items room (fuel + 1) cs =
      value room fuel cs >>= fun (item, left) => itemsBehind room fuel item left := rfl

theorem itemsBehind_of_ne {left rest : List Char} {c : Char} (h : skipGap left = c :: rest)
    (hclosed : c ≠ ']') (hcomma : c ≠ ',') (fuel : Nat) (item : Json) :
    itemsBehind room fuel item left = .error (.malformed .expectingComma (c :: rest)) := by
  unfold itemsBehind
  rw [h]
  split
  · next heq => exact absurd (List.cons.inj heq).1 hclosed
  · next heq => exact absurd (List.cons.inj heq).1 hcomma
  · rfl

/-- What may follow a member: the end of the object, or a comma and the next member. -/
def membersBehind (room : Room) (fuel : Nat) (found : List (String × Json)) (left : List Char) :
    Except Stop (List (String × Json) × List Char) :=
  match skipGap left with
  | '\x7d' :: left => return (found, left)
  | ',' :: left => members room fuel found (skipGap left)
  | left => .error (.malformed .expectingComma left)

theorem membersBehind_of_ne {left rest : List Char} {c : Char} (h : skipGap left = c :: rest)
    (hclosed : c ≠ '\x7d') (hcomma : c ≠ ',') (fuel : Nat) (found : List (String × Json)) :
    membersBehind room fuel found left = .error (.malformed .expectingComma (c :: rest)) := by
  unfold membersBehind
  rw [h]
  split
  · next heq => exact absurd (List.cons.inj heq).1 hclosed
  · next heq => exact absurd (List.cons.inj heq).1 hcomma
  · rfl

/-- What must follow the name of a member: a colon and its value. -/
def memberBehind (room : Room) (fuel : Nat) (found : List (String × Json)) (name : String)
    (left : List Char) : Except Stop (List (String × Json) × List Char) :=
  match skipGap left with
  | ':' :: left => do
    let (v, left) ← value room fuel (skipGap left)
    membersBehind room fuel (insert found name v) left
  | left => .error (.malformed .expectingColon left)

theorem memberBehind_of_no_colon {left : List Char} (h : ∀ rest, skipGap left ≠ ':' :: rest)
    (fuel : Nat) (found : List (String × Json)) (name : String) :
    memberBehind room fuel found name left = .error (.malformed .expectingColon (skipGap left)) := by
  unfold memberBehind
  split
  · next heq => exact absurd heq (h _)
  · rfl

theorem members_succ (fuel : Nat) (found : List (String × Json)) (rest : List Char) :
    members room (fuel + 1) found ('"' :: rest) =
      text ('"' :: rest) >>= fun (name, left) => memberBehind room fuel found name left := rfl

theorem members_of_no_name {cs : List Char} (h : ∀ rest, cs ≠ '"' :: rest) (fuel : Nat)
    (found : List (String × Json)) :
    members room fuel found cs = .error (.malformed .expectingName cs) := by
  cases fuel with
  | zero => rfl
  | succ fuel =>
    rw [members.eq_def]
    dsimp only
    split
    · exact absurd rfl (h _)
    · rfl

/-- With so much fuel, what is read leaves less of the text. -/
structure GoesForward (fuel : Nat) : Prop where
  value : ∀ {room cs left v}, value room fuel cs = .ok (v, left) → left.length < cs.length
  items : ∀ {room cs left all}, items room fuel cs = .ok (all, left) → left.length < cs.length
  members : ∀ {room found cs left all}, members room fuel found cs = .ok (all, left) →
    left.length < cs.length

theorem length_skipGap_of_eq {c : Char} {rest : List Char} (h : skipGap cs = c :: rest) :
    rest.length < cs.length := by
  have hle := length_skipGap_le cs
  rw [h, List.length_cons] at hle
  omega

theorem GoesForward.listBehind {fuel : Nat} (h : GoesForward fuel) {v : Json}
    (hread : Json.listBehind fuel cs room = .ok (v, left)) : left.length < cs.length := by
  unfold Json.listBehind at hread
  split at hread
  · next hclosed =>
    obtain ⟨-, rfl⟩ := Prod.mk.inj (Except.ok.inj hread)
    exact length_skipGap_of_eq hclosed
  · obtain ⟨⟨all, after⟩, hitems, hafter⟩ := bind_eq_ok_iff.mp hread
    obtain ⟨-, rfl⟩ := Prod.mk.inj (Except.ok.inj hafter)
    exact Nat.lt_of_lt_of_le (h.items hitems) (length_skipGap_le cs)

theorem GoesForward.objectBehind {fuel : Nat} (h : GoesForward fuel) {v : Json}
    (hread : Json.objectBehind fuel cs room = .ok (v, left)) : left.length < cs.length := by
  unfold Json.objectBehind at hread
  split at hread
  · next hclosed =>
    obtain ⟨-, rfl⟩ := Prod.mk.inj (Except.ok.inj hread)
    exact length_skipGap_of_eq hclosed
  · obtain ⟨⟨all, after⟩, hmembers, hafter⟩ := bind_eq_ok_iff.mp hread
    obtain ⟨-, rfl⟩ := Prod.mk.inj (Except.ok.inj hafter)
    exact Nat.lt_of_lt_of_le (h.members hmembers) (length_skipGap_le cs)

theorem GoesForward.value_succ {fuel : Nat} (h : GoesForward fuel) {v : Json}
    (hread : Json.value room (fuel + 1) cs = .ok (v, left)) : left.length < cs.length := by
  cases cs with
  | nil => cases hread
  | cons c rest =>
    by_cases hquote : c = '"'
    · subst hquote
      obtain ⟨⟨s, after⟩, htext, hafter⟩ := bind_eq_ok_iff.mp hread
      obtain ⟨-, rfl⟩ := Prod.mk.inj (Except.ok.inj hafter)
      exact length_text htext
    by_cases hlist : c = '['
    · subst hlist
      rw [value_list] at hread
      obtain ⟨_, -, hbehind⟩ := bind_eq_ok_iff.mp hread
      exact Nat.lt_succ_of_lt (h.listBehind hbehind)
    by_cases hobject : c = '\x7b'
    · subst hobject
      rw [value_object] at hread
      obtain ⟨_, -, hbehind⟩ := bind_eq_ok_iff.mp hread
      exact Nat.lt_succ_of_lt (h.objectBehind hbehind)
    · rw [value_plain fuel hquote hlist hobject] at hread
      exact length_plain hread

theorem GoesForward.itemsBehind {fuel : Nat} (h : GoesForward fuel) {item : Json} {all : List Json}
    (hread : Json.itemsBehind room fuel item cs = .ok (all, left)) : left.length < cs.length := by
  unfold Json.itemsBehind at hread
  split at hread
  · next hclosed =>
    obtain ⟨-, rfl⟩ := Prod.mk.inj (Except.ok.inj hread)
    exact length_skipGap_of_eq hclosed
  · next _ behind hcomma =>
    obtain ⟨⟨rest, after⟩, hrest, hafter⟩ := bind_eq_ok_iff.mp hread
    obtain ⟨-, rfl⟩ := Prod.mk.inj (Except.ok.inj hafter)
    have hcomma := length_skipGap_of_eq hcomma
    have hrest := h.items hrest
    have hgap := length_skipGap_le behind
    show after.length < cs.length
    omega
  · cases hread

theorem GoesForward.items_succ {fuel : Nat} (h : GoesForward fuel) {all : List Json}
    (hread : Json.items room (fuel + 1) cs = .ok (all, left)) : left.length < cs.length := by
  rw [Json.items_succ] at hread
  obtain ⟨⟨item, after⟩, hitem, hafter⟩ := bind_eq_ok_iff.mp hread
  exact Nat.lt_trans (h.itemsBehind hafter) (h.value hitem)

theorem GoesForward.membersBehind {fuel : Nat} (h : GoesForward fuel)
    {found all : List (String × Json)}
    (hread : Json.membersBehind room fuel found cs = .ok (all, left)) : left.length < cs.length := by
  unfold Json.membersBehind at hread
  split at hread
  · next hclosed =>
    obtain ⟨-, rfl⟩ := Prod.mk.inj (Except.ok.inj hread)
    exact length_skipGap_of_eq hclosed
  · next _ behind hcomma =>
    have hcomma := length_skipGap_of_eq hcomma
    have hmembers := h.members hread
    have hgap := length_skipGap_le behind
    omega
  · cases hread

theorem GoesForward.memberBehind {fuel : Nat} (h : GoesForward fuel)
    {found all : List (String × Json)} {name : String}
    (hread : Json.memberBehind room fuel found name cs = .ok (all, left)) :
    left.length < cs.length := by
  unfold Json.memberBehind at hread
  split at hread
  · next _ written hcolon =>
    obtain ⟨⟨v, after⟩, hvalue, hafter⟩ := bind_eq_ok_iff.mp hread
    have hcolon := length_skipGap_of_eq hcolon
    have hvalue := h.value hvalue
    have hgap := length_skipGap_le written
    have hbehind := h.membersBehind hafter
    omega
  · cases hread

theorem GoesForward.members_succ {fuel : Nat} (h : GoesForward fuel)
    {found all : List (String × Json)}
    (hread : Json.members room (fuel + 1) found cs = .ok (all, left)) : left.length < cs.length := by
  by_cases hname : ∃ rest, cs = '"' :: rest
  · obtain ⟨rest, rfl⟩ := hname
    rw [Json.members_succ] at hread
    obtain ⟨⟨name, after⟩, htext, hafter⟩ := bind_eq_ok_iff.mp hread
    exact Nat.lt_trans (h.memberBehind hafter) (length_text htext)
  · rw [members_of_no_name fun rest h => hname ⟨rest, h⟩] at hread
    cases hread

theorem goesForward : ∀ fuel : Nat, GoesForward fuel
  | 0 => {
      value := fun h => by cases h
      items := fun h => by cases h
      members := fun h => by cases h }
  | fuel + 1 =>
    have h := goesForward fuel
    { value := h.value_succ
      items := h.items_succ
      members := h.members_succ }

end TradingStatus.Json
