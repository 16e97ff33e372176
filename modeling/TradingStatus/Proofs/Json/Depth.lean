import TradingStatus.Platform
import TradingStatus.Proofs.Json.Progress
import TradingStatus.Proofs.Text.Numerals

/-! How deep a document goes. A limit on the depth changes nothing about what is read, but that it
may stop reading; and what is read within a limit can be shown where there is room for one value
more. -/

namespace TradingStatus

namespace Json

variable {α β : Type} {n : Nat}

/-! The limit -/

/-- A reading is the other one, or it was stopped by its depth. -/
def IsCutOf (x y : Except Stop α) : Prop := x = y ∨ ∃ container, x = .error (.tooDeep container)

theorem IsCutOf.refl (x : Except Stop α) : IsCutOf x x := .inl rfl

theorem IsCutOf.bind {x y : Except Stop α} {f g : α → Except Stop β} (h : IsCutOf x y)
    (hnext : ∀ a, IsCutOf (f a) (g a)) : IsCutOf (x >>= f) (y >>= g) := by
  obtain rfl | ⟨container, rfl⟩ := h
  · cases x with
    | error stop => exact .refl _
    | ok a => exact hnext a
  · exact .inr ⟨container, rfl⟩

/-- With so much fuel, a limit on the depth does nothing but stop. -/
structure OnlyStops (fuel : Nat) : Prop where
  value : ∀ n cs, IsCutOf (value (some n) fuel cs) (value none fuel cs)
  items : ∀ n cs, IsCutOf (items (some n) fuel cs) (items none fuel cs)
  members : ∀ n found cs, IsCutOf (members (some n) fuel found cs) (members none fuel found cs)

theorem OnlyStops.listBehind {fuel : Nat} (h : OnlyStops fuel) (n : Nat) (cs : List Char) :
    IsCutOf (Json.listBehind fuel cs (some n)) (Json.listBehind fuel cs none) := by
  unfold Json.listBehind
  split
  · exact .refl _
  · exact (h.items n _).bind fun _ => .refl _

theorem OnlyStops.objectBehind {fuel : Nat} (h : OnlyStops fuel) (n : Nat) (cs : List Char) :
    IsCutOf (Json.objectBehind fuel cs (some n)) (Json.objectBehind fuel cs none) := by
  unfold Json.objectBehind
  split
  · exact .refl _
  · exact (h.members n [] _).bind fun _ => .refl _

theorem IsCutOf.enter (n : Nat) (container : Container) {f : Room → Except Stop α}
    (h : ∀ n, IsCutOf (f (some n)) (f none)) :
    IsCutOf (Room.enter container (some n) >>= f) (Room.enter container none >>= f) := by
  cases n with
  | zero => exact .inr ⟨container, rfl⟩
  | succ n => exact h n

theorem OnlyStops.value_succ {fuel : Nat} (h : OnlyStops fuel) (n : Nat) (cs : List Char) :
    IsCutOf (Json.value (some n) (fuel + 1) cs) (Json.value none (fuel + 1) cs) := by
  cases cs with
  | nil => exact .refl _
  | cons c rest =>
    by_cases hquote : c = '"'
    · subst hquote
      exact .refl _
    by_cases hlist : c = '['
    · subst hlist
      rw [value_list, value_list]
      exact .enter n .list fun n => h.listBehind n rest
    by_cases hobject : c = '\x7b'
    · subst hobject
      rw [value_object, value_object]
      exact .enter n .object fun n => h.objectBehind n rest
    · rw [value_plain fuel hquote hlist hobject, value_plain fuel hquote hlist hobject]
      exact .refl _

theorem OnlyStops.items_succ {fuel : Nat} (h : OnlyStops fuel) (n : Nat) (cs : List Char) :
    IsCutOf (Json.items (some n) (fuel + 1) cs) (Json.items none (fuel + 1) cs) := by
  rw [Json.items_succ, Json.items_succ]
  refine (h.value n cs).bind fun ⟨item, left⟩ => ?_
  dsimp only
  unfold itemsBehind
  split
  · exact .refl _
  · exact (h.items n _).bind fun _ => .refl _
  · exact .refl _

theorem OnlyStops.members_succ {fuel : Nat} (h : OnlyStops fuel) (n : Nat)
    (found : List (String × Json)) (cs : List Char) :
    IsCutOf (Json.members (some n) (fuel + 1) found cs)
      (Json.members none (fuel + 1) found cs) := by
  by_cases hname : ∃ rest, cs = '"' :: rest
  · obtain ⟨rest, rfl⟩ := hname
    rw [Json.members_succ, Json.members_succ]
    refine (IsCutOf.refl _).bind fun ⟨name, left⟩ => ?_
    dsimp only
    unfold memberBehind
    split
    · refine (h.value n _).bind fun ⟨v, behind⟩ => ?_
      dsimp only
      unfold membersBehind
      split
      · exact .refl _
      · exact h.members n _ _
      · exact .refl _
    · exact .refl _
  · have hno (rest : List Char) : cs ≠ '"' :: rest := fun h => hname ⟨rest, h⟩
    rw [members_of_no_name hno, members_of_no_name hno]
    exact .refl _

theorem onlyStops : ∀ fuel : Nat, OnlyStops fuel
  | 0 => {
      value := fun _ _ => .refl _
      items := fun _ _ => .refl _
      members := fun _ _ _ => .refl _ }
  | fuel + 1 =>
    have h := onlyStops fuel
    { value := h.value_succ
      items := h.items_succ
      members := h.members_succ }

theorem document_isCutOf (n : Nat) (cs : List Char) :
    IsCutOf (document (some n) cs) (document none cs) := by
  unfold document
  split
  · exact .refl _
  · exact ((onlyStops _).value n _).bind fun _ => .refl _

/-- Reading within a limit comes to what reading without one does, or is stopped by the depth. -/
theorem readWithin_eq_read_or (n : Nat) (s : String) :
    readWithin (some n) s = read s ∨
      ∃ container, readWithin (some n) s = .error (.tooDeep container) := by
  unfold read readWithin
  obtain heq | ⟨container, heq⟩ := document_isCutOf n s.toList
  · exact .inl (by rw [heq])
  · exact .inr ⟨container, by rw [heq]; rfl⟩

/-- Without a limit, depth stops nothing. -/
theorem readWithin_eq_ok_iff {s : String} {v : Json} :
    readWithin (some n) s = .ok v ↔
      read s = .ok v ∧ ∀ container, readWithin (some n) s ≠ .error (.tooDeep container) := by
  obtain heq | ⟨container, heq⟩ := readWithin_eq_read_or n s
  · rw [heq]
    refine ⟨fun h => ⟨h, fun container hdeep => ?_⟩, And.left⟩
    cases h.symm.trans hdeep
  · exact iff_of_false (fun h => by cases h.symm.trans heq) fun h => h.2 container heq

theorem skipGap_brackets (n : Nat) : skipGap (List.replicate n '[') = List.replicate n '[' := by
  cases n with
  | zero => rfl
  | succ n => exact List.dropWhile_cons_of_neg (by decide)

/-- With one bracket more than there is room for, reading stops at it. -/
theorem value_brackets {n m fuel : Nat} (hroom : n < m) (hfuel : 2 * n < fuel) :
    value (some n) fuel (List.replicate m '[') = .error (.tooDeep .list) := by
  induction n generalizing m fuel with
  | zero =>
    obtain ⟨m, rfl⟩ : ∃ k, m = k + 1 := Nat.exists_eq_add_one.mpr hroom
    obtain ⟨fuel, rfl⟩ : ∃ k, fuel = k + 1 := Nat.exists_eq_add_one.mpr hfuel
    rw [List.replicate_succ, value_list]
    rfl
  | succ n ih =>
    obtain ⟨m, rfl⟩ : ∃ k, m = k + 2 := ⟨m - 2, by omega⟩
    obtain ⟨fuel, rfl⟩ : ∃ k, fuel = k + 2 := ⟨fuel - 2, by omega⟩
    have hinside : value (some n) fuel (List.replicate (m + 1) '[') = .error (.tooDeep .list) :=
      ih (by omega) (by omega)
    have hitems : items (some n) (fuel + 1) (List.replicate (m + 1) '[') =
        .error (.tooDeep .list) := by
      rw [Json.items_succ, hinside]
      rfl
    rw [List.replicate_succ, value_list]
    show listBehind (fuel + 1) (List.replicate (m + 1) '[') (some n) = _
    rw [listBehind_of_open, skipGap_brackets, hitems]
    · rfl
    · rw [skipGap_brackets]
      exact fun left hclosed => absurd (List.cons.inj hclosed).1 (by decide)

/-- Brackets alone are read until there is no room left. -/
theorem readWithin_brackets {n m : Nat} (h : n < m) :
    readWithin (some n) (String.ofList (List.replicate m '[')) = .error (.tooDeep .list) := by
  obtain ⟨k, rfl⟩ : ∃ k, m = k + 1 := Nat.exists_eq_add_one.mpr (Nat.zero_lt_of_lt h)
  have hvalue : value (some n) (2 * (List.replicate (k + 1) '[').length + 2)
      (List.replicate (k + 1) '[') = .error (.tooDeep .list) := by
    refine value_brackets h ?_
    rw [List.length_replicate]
    omega
  have hdocument : document (some n) (List.replicate (k + 1) '[') = .error (.tooDeep .list) := by
    unfold document
    split
    · next hmark => exact absurd (List.cons.inj hmark).1 (by decide)
    · rw [skipGap_brackets, hvalue]
      rfl
  rw [readWithin, String.toList_ofList, hdocument]
  rfl

/-! Showing -/

/-- A value can be shown where values may lie so many deep. -/
def CanShow (room : Nat) (v : Json) : Prop := v.obstacle? room = none

theorem obstacleItems?_eq_none_iff {items : List Json} {room : Nat} :
    obstacleItems? items room = none ↔ ∀ item ∈ items, CanShow room item := by
  induction items with
  | nil => simp [obstacleItems?]
  | cons item rest ih =>
    rw [obstacleItems?, Option.or_eq_none_iff, ih, List.forall_mem_cons]
    rfl

theorem obstacleMembers?_eq_none_iff {members : List (String × Json)} {room : Nat} :
    obstacleMembers? members room = none ↔ ∀ member ∈ members, CanShow room member.2 := by
  induction members with
  | nil => simp [obstacleMembers?]
  | cons member rest ih =>
    obtain ⟨name, v⟩ := member
    rw [obstacleMembers?, Option.or_eq_none_iff, ih, List.forall_mem_cons]
    rfl

theorem canShow_arr_iff {items : List Json} {room : Nat} :
    CanShow (room + 1) (.arr items) ↔ ∀ item ∈ items, CanShow room item :=
  obstacleItems?_eq_none_iff

theorem canShow_obj_iff {members : List (String × Json)} {room : Nat} :
    CanShow (room + 1) (.obj members) ↔ ∀ member ∈ members, CanShow room member.2 :=
  obstacleMembers?_eq_none_iff

theorem canShow_str (room : Nat) (s : String) : CanShow (room + 1) (.str s) := rfl

theorem canShow_null (room : Nat) : CanShow (room + 1) .null := rfl

theorem canShow_int {i : Int} (h : isShort i = true) (room : Nat) :
    CanShow (room + 1) (.int i) := by
  show (if isShort i = true then none else some ShowError.tooLong) = none
  rw [if_pos h]

theorem isShort_neg (i : Int) : isShort (-i) = isShort i := by
  rw [isShort, isShort, Int.natAbs_neg]

theorem tenTo_le_tenTo {m n : Nat} (h : m ≤ n) : tenTo m ≤ tenTo n :=
  Nat.pow_le_pow_right (by decide) h

/-- A number with as many digits as are converted is short. -/
theorem isShort_ofDigits {digits : List Nat} (h : ∀ d ∈ digits, d < 10)
    (hlength : digits.length ≤ Text.numeralLimit) : isShort (Text.ofDigits digits) = true := by
  unfold isShort
  exact decide_eq_true (Nat.lt_of_lt_of_le (Text.ofDigits_lt h) (tenTo_le_tenTo hlength))

/-- What can be shown can be shown from higher up. -/
theorem CanShow.succ {room : Nat} {v : Json} (h : CanShow room v) : CanShow (room + 1) v := by
  induction room generalizing v with
  | zero => cases v <;> cases h
  | succ room ih =>
    cases v with
    | arr items => exact canShow_arr_iff.mpr fun item hitem => ih (canShow_arr_iff.mp h item hitem)
    | obj members => exact canShow_obj_iff.mpr fun m hm => ih (canShow_obj_iff.mp h m hm)
    | _ => exact h

theorem CanShow.mono {room more : Nat} {v : Json} (h : CanShow room v) (hle : room ≤ more) :
    CanShow more v := by
  induction hle with
  | refl => exact h
  | step _ ih => exact ih.succ

theorem canShow_of_mem_arr {room : Nat} {items : List Json} {item : Json}
    (h : CanShow room (.arr items)) (hitem : item ∈ items) : CanShow room item := by
  cases room with
  | zero => cases h
  | succ room => exact (canShow_arr_iff.mp h item hitem).succ

theorem canShow_of_mem_obj {room : Nat} {members : List (String × Json)} {m : String × Json}
    (h : CanShow room (.obj members)) (hm : m ∈ members) : CanShow room m.2 := by
  cases room with
  | zero => cases h
  | succ room => exact (canShow_obj_iff.mp h m hm).succ

theorem canShow_member {room : Nat} {members : List (String × Json)}
    (h : CanShow room (.obj members)) (name : String) : CanShow room (member members name) := by
  cases hlookup : members.lookup name with
  | none =>
    cases room with
    | zero => cases h
    | succ room =>
      rw [member, hlookup]
      exact canShow_null room
  | some v =>
    rw [member, hlookup]
    have hmem : (name, v) ∈ members := by
      obtain ⟨before, after, rfl, -⟩ := List.lookup_eq_some_iff.mp hlookup
      simp
    exact canShow_of_mem_obj h hmem

/-! What is read -/

theorem digitRun_lt {cs : List Char} {d : Nat} (h : d ∈ (digitRun cs).1) : d < 10 := by
  obtain ⟨c, hc, rfl⟩ := List.mem_map.mp h
  have hdigit := List.mem_takeWhile_imp hc
  simp only [Char.isDigit, Bool.and_eq_true, decide_eq_true_eq] at hdigit
  have hle : c.toNat ≤ '9'.toNat := hdigit.2
  show c.toNat - 48 < 10
  have hnine : '9'.toNat = 57 := rfl
  omega

theorem wholePart_lt {cs : List Char} {d : Nat} (h : d ∈ (wholePart cs).1) : d < 10 := by
  unfold wholePart at h
  split at h
  · rw [List.mem_singleton.mp h]
    decide
  · exact digitRun_lt h

theorem canShow_of_unsigned {place cs left : List Char} {negative : Bool} {v : Json}
    (h : unsigned place negative cs = .ok (v, left)) (room : Nat) : CanShow (room + 1) v := by
  have hdigits : ∀ d ∈ (wholePart cs).1, d < 10 := fun d => wholePart_lt
  rw [unsigned_eq] at h
  split at h
  · cases h
  · next digits rest hne heq =>
    rw [heq] at hdigits
    split at h
    · split at h
      · cases h
      · next hlength =>
        obtain ⟨rfl, -⟩ := Prod.mk.inj (Except.ok.inj h)
        have hshort := isShort_ofDigits hdigits (Nat.le_of_not_gt hlength)
        refine canShow_int ?_ room
        cases negative with
        | true => exact (isShort_neg _).trans hshort
        | false => exact hshort
    · obtain ⟨rfl, -⟩ := Prod.mk.inj (Except.ok.inj h)
      rfl

theorem canShow_of_plain {cs left : List Char} {v : Json} (h : plain cs = .ok (v, left))
    (room : Nat) : CanShow (room + 1) v := by
  unfold plain at h
  split at h
  case h_7 =>
    split at h
    · exact canShow_of_unsigned h room
    · exact canShow_of_unsigned h room
  all_goals
    obtain ⟨rfl, -⟩ := Prod.mk.inj (Except.ok.inj h)
    rfl

theorem canShow_insert {room : Nat} {found : List (String × Json)} {name : String} {v : Json}
    (hfound : ∀ m ∈ found, CanShow room m.2) (hv : CanShow room v) :
    ∀ m ∈ insert found name v, CanShow room m.2 := by
  induction found with
  | nil =>
    intro m hm
    rw [List.mem_singleton.mp hm]
    exact hv
  | cons first rest ih =>
    obtain ⟨n, w⟩ := first
    obtain ⟨hw, hrest⟩ := List.forall_mem_cons.mp hfound
    rw [insert]
    split
    · exact List.forall_mem_cons.mpr ⟨hv, hrest⟩
    · exact List.forall_mem_cons.mpr ⟨hw, ih hrest⟩

/-- With so much fuel, what is read within a limit can be shown with room for one value more. -/
structure ReadsShowable (fuel : Nat) : Prop where
  value : ∀ {n cs v left}, value (some n) fuel cs = .ok (v, left) → CanShow (n + 1) v
  items : ∀ {n cs all left}, items (some n) fuel cs = .ok (all, left) →
    ∀ item ∈ all, CanShow (n + 1) item
  members : ∀ {n found cs all left}, members (some n) fuel found cs = .ok (all, left) →
    (∀ m ∈ found, CanShow (n + 1) m.2) → ∀ m ∈ all, CanShow (n + 1) m.2

theorem ReadsShowable.listBehind {fuel : Nat} (h : ReadsShowable fuel) {cs left : List Char}
    {v : Json} (hread : Json.listBehind fuel cs (some n) = .ok (v, left)) : CanShow (n + 2) v := by
  unfold Json.listBehind at hread
  split at hread
  · obtain ⟨rfl, -⟩ := Prod.mk.inj (Except.ok.inj hread)
    rfl
  · obtain ⟨⟨all, after⟩, hitems, hafter⟩ := bind_eq_ok_iff.mp hread
    obtain ⟨rfl, -⟩ := Prod.mk.inj (Except.ok.inj hafter)
    exact canShow_arr_iff.mpr (h.items hitems)

theorem ReadsShowable.objectBehind {fuel : Nat} (h : ReadsShowable fuel) {cs left : List Char}
    {v : Json} (hread : Json.objectBehind fuel cs (some n) = .ok (v, left)) :
    CanShow (n + 2) v := by
  unfold Json.objectBehind at hread
  split at hread
  · obtain ⟨rfl, -⟩ := Prod.mk.inj (Except.ok.inj hread)
    rfl
  · obtain ⟨⟨all, after⟩, hmembers, hafter⟩ := bind_eq_ok_iff.mp hread
    obtain ⟨rfl, -⟩ := Prod.mk.inj (Except.ok.inj hafter)
    exact canShow_obj_iff.mpr (h.members hmembers fun m hm => absurd hm List.not_mem_nil)

/-- The room that is entered is one less than there was. -/
theorem eq_succ_of_enter {container : Container} {inner : Room}
    (h : Room.enter container (some n) = .ok inner) : ∃ k, n = k + 1 ∧ inner = some k := by
  cases n with
  | zero => cases h
  | succ k => exact ⟨k, rfl, (Except.ok.inj h).symm⟩

theorem ReadsShowable.value_succ {fuel : Nat} (h : ReadsShowable fuel) {cs left : List Char}
    {v : Json} (hread : Json.value (some n) (fuel + 1) cs = .ok (v, left)) :
    CanShow (n + 1) v := by
  cases cs with
  | nil => cases hread
  | cons c rest =>
    by_cases hquote : c = '"'
    · subst hquote
      obtain ⟨⟨s, after⟩, -, hafter⟩ := bind_eq_ok_iff.mp hread
      obtain ⟨rfl, -⟩ := Prod.mk.inj (Except.ok.inj hafter)
      exact canShow_str n s
    by_cases hlist : c = '['
    · subst hlist
      rw [value_list] at hread
      obtain ⟨inner, henter, hbehind⟩ := bind_eq_ok_iff.mp hread
      obtain ⟨k, rfl, rfl⟩ := eq_succ_of_enter henter
      exact h.listBehind hbehind
    by_cases hobject : c = '\x7b'
    · subst hobject
      rw [value_object] at hread
      obtain ⟨inner, henter, hbehind⟩ := bind_eq_ok_iff.mp hread
      obtain ⟨k, rfl, rfl⟩ := eq_succ_of_enter henter
      exact h.objectBehind hbehind
    · rw [value_plain fuel hquote hlist hobject] at hread
      exact canShow_of_plain hread n

theorem ReadsShowable.itemsBehind {fuel : Nat} (h : ReadsShowable fuel) {cs left : List Char}
    {item : Json} {all : List Json} (hitem : CanShow (n + 1) item)
    (hread : Json.itemsBehind (some n) fuel item cs = .ok (all, left)) :
    ∀ item ∈ all, CanShow (n + 1) item := by
  unfold Json.itemsBehind at hread
  split at hread
  · obtain ⟨rfl, -⟩ := Prod.mk.inj (Except.ok.inj hread)
    exact List.forall_mem_singleton.mpr hitem
  · obtain ⟨⟨rest, behind⟩, hrest, hcons⟩ := bind_eq_ok_iff.mp hread
    obtain ⟨rfl, -⟩ := Prod.mk.inj (Except.ok.inj hcons)
    exact List.forall_mem_cons.mpr ⟨hitem, h.items hrest⟩
  · cases hread

theorem ReadsShowable.items_succ {fuel : Nat} (h : ReadsShowable fuel) {cs left : List Char}
    {all : List Json} (hread : Json.items (some n) (fuel + 1) cs = .ok (all, left)) :
    ∀ item ∈ all, CanShow (n + 1) item := by
  rw [Json.items_succ] at hread
  obtain ⟨⟨item, after⟩, hitem, hafter⟩ := bind_eq_ok_iff.mp hread
  exact h.itemsBehind (h.value hitem) hafter

theorem ReadsShowable.membersBehind {fuel : Nat} (h : ReadsShowable fuel) {cs left : List Char}
    {found all : List (String × Json)} (hfound : ∀ m ∈ found, CanShow (n + 1) m.2)
    (hread : Json.membersBehind (some n) fuel found cs = .ok (all, left)) :
    ∀ m ∈ all, CanShow (n + 1) m.2 := by
  unfold Json.membersBehind at hread
  split at hread
  · obtain ⟨rfl, -⟩ := Prod.mk.inj (Except.ok.inj hread)
    exact hfound
  · exact h.members hread hfound
  · cases hread

theorem ReadsShowable.memberBehind {fuel : Nat} (h : ReadsShowable fuel) {cs left : List Char}
    {found all : List (String × Json)} {name : String} (hfound : ∀ m ∈ found, CanShow (n + 1) m.2)
    (hread : Json.memberBehind (some n) fuel found name cs = .ok (all, left)) :
    ∀ m ∈ all, CanShow (n + 1) m.2 := by
  unfold Json.memberBehind at hread
  split at hread
  · obtain ⟨⟨v, behind⟩, hvalue, hbehind⟩ := bind_eq_ok_iff.mp hread
    exact h.membersBehind (canShow_insert hfound (h.value hvalue)) hbehind
  · cases hread

theorem ReadsShowable.members_succ {fuel : Nat} (h : ReadsShowable fuel) {cs left : List Char}
    {found all : List (String × Json)}
    (hread : Json.members (some n) (fuel + 1) found cs = .ok (all, left))
    (hfound : ∀ m ∈ found, CanShow (n + 1) m.2) : ∀ m ∈ all, CanShow (n + 1) m.2 := by
  by_cases hname : ∃ rest, cs = '"' :: rest
  · obtain ⟨rest, rfl⟩ := hname
    rw [Json.members_succ] at hread
    obtain ⟨⟨name, after⟩, -, hafter⟩ := bind_eq_ok_iff.mp hread
    exact h.memberBehind hfound hafter
  · rw [members_of_no_name fun rest h => hname ⟨rest, h⟩] at hread
    cases hread

theorem readsShowable : ∀ fuel : Nat, ReadsShowable fuel
  | 0 => {
      value := fun h => by cases h
      items := fun h => by cases h
      members := fun h => by cases h }
  | fuel + 1 =>
    have h := readsShowable fuel
    { value := h.value_succ
      items := h.items_succ
      members := h.members_succ }

/-- What is read within a limit can be shown where there is room for one value more. -/
theorem canShow_of_readWithin {s : String} {v : Json} (h : readWithin (some n) s = .ok v) :
    CanShow (n + 1) v := by
  have hdocument : document (some n) s.toList = .ok v := by
    unfold readWithin at h
    split at h
    · next w hw => rw [hw, Except.ok.inj h]
    · cases h
  unfold document at hdocument
  split at hdocument
  · cases hdocument
  · obtain ⟨⟨w, left⟩, hvalue, hend⟩ := bind_eq_ok_iff.mp hdocument
    dsimp only at hend
    split at hend
    · obtain rfl := Except.ok.inj hend
      exact (readsShowable _).value hvalue
    · cases hend

end Json

/-! On a platform -/

variable [Platform] {value : Json} {failure : Failure}

theorem Failure.showing_of_canShow (h : value.CanShow Platform.showingDepth) :
    showing value failure = failure := by
  unfold showing
  rw [show value.obstacle? Platform.showingDepth = none from h]

theorem Failure.showing_eq_or (value : Json) (failure : Failure) :
    showing value failure = failure ∨ ∃ error, showing value failure = .unshown error := by
  unfold showing
  split
  · exact .inl rfl
  · next error _ => exact .inr ⟨error, rfl⟩

theorem Failure.showing_eq_unshown_iff {error : Json.ShowError} (hne : failure ≠ .unshown error) :
    showing value failure = .unshown error ↔
      value.obstacle? Platform.showingDepth = some error := by
  unfold showing
  cases value.obstacle? Platform.showingDepth <;> simp [hne]

namespace Json

variable {text : String}

/-- What is read can be shown. -/
theorem canShow_of_load (h : load text = .ok value) : value.CanShow Platform.showingDepth :=
  (canShow_of_readWithin h).mono Platform.readingDepth_lt

theorem load_eq_ok_iff : load text = .ok value ↔
    read text = .ok value ∧ ∀ container, load text ≠ .error (.tooDeep container) :=
  readWithin_eq_ok_iff

end Json

end TradingStatus
