import TradingStatus.Proofs.Json.Progress
import TradingStatus.Proofs.Json.Texts

/-! Documents are read back from the layouts that they are written in. A layout leaves a gap after
every colon, and one before every item or member and at the end of a list or an object, which may
depend on how deep they lie; on one line all gaps are empty. Reading goes through a document as
writing does, part by part, and does not depend on what stands behind. -/

namespace TradingStatus.Json

/-- A document without numbers, in which no object has two members of one name. -/
inductive IsPlain : Json → Prop
  | null : IsPlain .null
  | bool (b : Bool) : IsPlain (.bool b)
  | str (s : String) : IsPlain (.str s)
  | arr (items : List Json) (h : ∀ item ∈ items, IsPlain item) : IsPlain (.arr items)
  | obj (members : List (String × Json)) (hnames : (members.map Prod.fst).Nodup)
      (h : ∀ member ∈ members, IsPlain member.2) : IsPlain (.obj members)

@[simp] theorem isPlain_null : IsPlain .null := .null

@[simp] theorem isPlain_str (s : String) : IsPlain (.str s) := .str s

@[simp] theorem isPlain_arr_iff {items : List Json} :
    IsPlain (.arr items) ↔ ∀ item ∈ items, item.IsPlain :=
  ⟨fun | .arr _ h => h, .arr items⟩

@[simp] theorem isPlain_obj_iff {members : List (String × Json)} : IsPlain (.obj members) ↔
    (members.map Prod.fst).Nodup ∧ ∀ member ∈ members, member.2.IsPlain :=
  ⟨fun | .obj _ hnames h => ⟨hnames, h⟩, fun h => .obj members h.1 h.2⟩

mutual

/-- A document as it is laid out `depth` steps in. -/
def laid (colon : List Char) (gap : Nat → List Char) (depth : Nat) : Json → List Char
  | arr (item :: rest) =>
    '[' :: gap (depth + 1) ++ laidItems colon gap (depth + 1) (item :: rest) ++ gap depth ++ [']']
  | obj (member :: rest) =>
    '\x7b' :: gap (depth + 1) ++ laidMembers colon gap (depth + 1) (member :: rest) ++ gap depth ++
      ['\x7d']
  | value => scalar value

def laidItems (colon : List Char) (gap : Nat → List Char) (depth : Nat) : List Json → List Char
  | [] => []
  | [item] => laid colon gap depth item
  | item :: rest =>
    laid colon gap depth item ++ ',' :: gap depth ++ laidItems colon gap depth rest

def laidMembers (colon : List Char) (gap : Nat → List Char) (depth : Nat) :
    List (String × Json) → List Char
  | [] => []
  | [(name, value)] => literal name ++ ':' :: colon ++ laid colon gap depth value
  | (name, value) :: rest =>
    literal name ++ ':' :: colon ++ laid colon gap depth value ++ ',' :: gap depth ++
      laidMembers colon gap depth rest

end

theorem skipGap_cons {c : Char} (hc : isGap c = false) (rest : List Char) :
    skipGap (c :: rest) = c :: rest :=
  List.dropWhile_cons_of_neg (by simp [hc])

theorem skipGap_append {gap : List Char} (hgap : ∀ c ∈ gap, isGap c = true) {c : Char}
    (hc : isGap c = false) (rest : List Char) : skipGap (gap ++ c :: rest) = c :: rest := by
  unfold skipGap
  rw [List.dropWhile_append_of_pos hgap]
  exact skipGap_cons hc rest

/-- What a plain document can begin with. -/
def openings : List Char := ['n', 't', 'f', '"', '[', '\x7b']

theorem of_mem_openings {c : Char} (h : c ∈ openings) :
    isGap c = false ∧ c ≠ ']' ∧ c ≠ '\x7d' ∧ c ≠ '\uFEFF' := by
  simp only [openings, List.mem_cons, List.not_mem_nil, or_false] at h
  rcases h with rfl | rfl | rfl | rfl | rfl | rfl <;> simp [isGap]

/-- A text begins as a plain document can. -/
def Opens (cs : List Char) : Prop := ∃ c ∈ openings, ∃ tail, cs = c :: tail

theorem skipGap_of_opens {before cs : List Char} (hbefore : ∀ c ∈ before, isGap c = true)
    (hcs : Opens cs) (rest : List Char) : skipGap (before ++ (cs ++ rest)) = cs ++ rest := by
  obtain ⟨c, hc, tail, rfl⟩ := hcs
  exact skipGap_append hbefore (of_mem_openings hc).1 (tail ++ rest)

section Beginnings

variable (colon : List Char) (gap : Nat → List Char) (depth : Nat)

theorem opens_laid {v : Json} (h : v.IsPlain) : Opens (laid colon gap depth v) := by
  cases h with
  | null => exact ⟨'n', by decide, _, rfl⟩
  | bool b => cases b <;> exact ⟨_, by decide, _, rfl⟩
  | str s => exact ⟨'"', by decide, _, rfl⟩
  | arr items =>
    cases items with
    | nil => exact ⟨'[', by decide, _, rfl⟩
    | cons item rest => exact ⟨'[', by decide, _, by rw [laid]; rfl⟩
  | obj members =>
    cases members with
    | nil => exact ⟨'\x7b', by decide, _, rfl⟩
    | cons member rest => exact ⟨'\x7b', by decide, _, by rw [laid]; rfl⟩

theorem laidItems_cons_cons (item next : Json) (rest : List Json) :
    laidItems colon gap depth (item :: next :: rest) =
      laid colon gap depth item ++ ',' :: gap depth ++
        laidItems colon gap depth (next :: rest) := by
  rw [laidItems]
  simp

theorem laidMembers_cons_cons (name : String) (value : Json) (next : String × Json)
    (rest : List (String × Json)) :
    laidMembers colon gap depth ((name, value) :: next :: rest) =
      literal name ++ ':' :: colon ++ laid colon gap depth value ++ ',' :: gap depth ++
        laidMembers colon gap depth (next :: rest) := by
  rw [laidMembers]
  simp

theorem opens_laidItems {item : Json} (h : item.IsPlain) (rest : List Json) :
    Opens (laidItems colon gap depth (item :: rest)) := by
  obtain ⟨c, hc, tail, htail⟩ := opens_laid colon gap depth h
  cases rest with
  | nil => exact ⟨c, hc, tail, htail⟩
  | cons next rest =>
    rw [laidItems_cons_cons, htail]
    exact ⟨c, hc, _, rfl⟩

theorem opens_laidMembers (member : String × Json) (rest : List (String × Json)) :
    Opens (laidMembers colon gap depth (member :: rest)) := by
  obtain ⟨name, value⟩ := member
  cases rest with
  | nil => exact ⟨'"', by decide, _, rfl⟩
  | cons next rest =>
    rw [laidMembers_cons_cons]
    exact ⟨'"', by decide, _, rfl⟩

/-- A document is read from its layout, whatever stands behind it. -/
def IsReadBack (v : Json) : Prop :=
  ∀ (fuel : Nat) (rest : List Char), 2 * (laid colon gap depth v).length < fuel →
    value none fuel (laid colon gap depth v ++ rest) = .ok (v, rest)

end Beginnings

section Reading

variable {colon : List Char} {gap : Nat → List Char} {depth : Nat}
  (hcolon : ∀ c ∈ colon, isGap c = true) (hgap : ∀ depth, ∀ c ∈ gap depth, isGap c = true)

include hgap in
/-- Items are read one after the other. -/
theorem items_laidItems {all : List Json} (hne : all ≠ []) (hplain : ∀ item ∈ all, item.IsPlain)
    (hread : ∀ item ∈ all, IsReadBack colon gap depth item) {finish : List Char}
    (hfinish : ∀ c ∈ finish, isGap c = true) (rest : List Char) {fuel : Nat}
    (hfuel : 2 * (laidItems colon gap depth all).length + 1 < fuel) :
    items none fuel (laidItems colon gap depth all ++ (finish ++ ']' :: rest)) =
      .ok (all, rest) := by
  induction all generalizing fuel with
  | nil => exact absurd rfl hne
  | cons item all ih =>
    obtain ⟨fuel, rfl⟩ : ∃ k, fuel = k + 1 := Nat.exists_eq_add_one.mpr (Nat.zero_lt_of_lt hfuel)
    have hitem := hread item List.mem_cons_self fuel
    rw [items.eq_def]
    cases all with
    | nil =>
      have hend : skipGap (finish ++ ']' :: rest) = ']' :: rest := skipGap_append hfinish rfl rest
      rw [laidItems] at hfuel ⊢
      simp only [bind, Except.bind, hitem _ (by omega), hend]
      rfl
    | cons next all =>
      have hopens := opens_laidItems colon gap depth (hplain next (by simp)) all
      have hskip := skipGap_of_opens (hgap depth) hopens (finish ++ ']' :: rest)
      have hcomma (left : List Char) : skipGap (',' :: left) = ',' :: left := skipGap_cons rfl left
      rw [laidItems_cons_cons] at hfuel ⊢
      simp only [List.length_append, List.length_cons] at hfuel
      have hrest :
          items none fuel (laidItems colon gap depth (next :: all) ++ (finish ++ ']' :: rest)) =
            .ok (next :: all, rest) :=
        ih (by simp) (fun v h => hplain v (List.mem_cons_of_mem _ h))
          (fun v h => hread v (List.mem_cons_of_mem _ h)) (by omega)
      simp only [List.append_assoc, List.cons_append, bind, Except.bind, hitem _ (by omega), hcomma,
        hskip, hrest]
      rfl

theorem insert_of_not_mem {members : List (String × Json)} {name : String} (v : Json)
    (h : name ∉ members.map Prod.fst) : insert members name v = members ++ [(name, v)] := by
  induction members with
  | nil => rfl
  | cons m rest ih =>
    obtain ⟨n, w⟩ := m
    rw [List.map_cons, List.mem_cons, not_or] at h
    rw [insert, if_neg (Ne.symm h.1), ih h.2]
    rfl

include hcolon in
/-- A member is read up to what is behind its value. -/
theorem members_cons (found : List (String × Json)) {name : String} {v : Json}
    (hplain : v.IsPlain) (hread : IsReadBack colon gap depth v)
    (hfresh : name ∉ found.map Prod.fst) (rest : List Char) {fuel : Nat}
    (hfuel : 2 * (laid colon gap depth v).length < fuel) :
    members none (fuel + 1) found
        (literal name ++ ':' :: (colon ++ (laid colon gap depth v ++ rest))) =
      match skipGap rest with
      | '\x7d' :: left => .ok (found ++ [(name, v)], left)
      | ',' :: left => members none fuel (found ++ [(name, v)]) (skipGap left)
      | left => .error (.malformed .expectingComma left) := by
  have hname := text_literal name (':' :: (colon ++ (laid colon gap depth v ++ rest)))
  have hcut (left : List Char) : skipGap (':' :: left) = ':' :: left := skipGap_cons rfl left
  have hskip := skipGap_of_opens hcolon (opens_laid colon gap depth hplain) rest
  rw [literal_append] at hname ⊢
  rw [members.eq_def]
  simp only [hname, bind, Except.bind, hcut, hskip, hread fuel rest hfuel,
    insert_of_not_mem v hfresh]
  rfl

include hcolon hgap in
/-- Members are read one by one, each put behind those already found. -/
theorem members_laidMembers {all : List (String × Json)} (hne : all ≠ [])
    (hplain : ∀ member ∈ all, member.2.IsPlain)
    (hread : ∀ member ∈ all, IsReadBack colon gap depth member.2) {finish : List Char}
    (hfinish : ∀ c ∈ finish, isGap c = true) (rest : List Char) {found : List (String × Json)}
    (hnodup : (found.map Prod.fst ++ all.map Prod.fst).Nodup) {fuel : Nat}
    (hfuel : 2 * (laidMembers colon gap depth all).length + 1 < fuel) :
    members none fuel found (laidMembers colon gap depth all ++ (finish ++ '\x7d' :: rest)) =
      .ok (found ++ all, rest) := by
  induction all generalizing fuel found with
  | nil => exact absurd rfl hne
  | cons member all ih =>
    obtain ⟨name, v⟩ := member
    obtain ⟨fuel, rfl⟩ : ∃ k, fuel = k + 1 := Nat.exists_eq_add_one.mpr (Nat.zero_lt_of_lt hfuel)
    have hfresh : name ∉ found.map Prod.fst := by
      intro hmem
      exact (List.nodup_append.mp hnodup).2.2 _ hmem _ List.mem_cons_self rfl
    have hvalue : IsReadBack colon gap depth v := hread (name, v) List.mem_cons_self
    have hplainValue : v.IsPlain := hplain (name, v) List.mem_cons_self
    have hmember := members_cons hcolon found hplainValue hvalue hfresh
    cases all with
    | nil =>
      have hend : skipGap (finish ++ '\x7d' :: rest) = '\x7d' :: rest :=
        skipGap_append hfinish rfl rest
      rw [laidMembers] at hfuel ⊢
      simp only [List.length_append, List.length_cons] at hfuel
      have hstep := @hmember (finish ++ '\x7d' :: rest) fuel (by omega)
      simp only [hend] at hstep
      simpa using hstep
    | cons next all =>
      have hopens := opens_laidMembers colon gap depth next all
      have hskip := skipGap_of_opens (hgap depth) hopens (finish ++ '\x7d' :: rest)
      rw [laidMembers_cons_cons] at hfuel ⊢
      simp only [List.length_append, List.length_cons] at hfuel
      have hcomma (left : List Char) : skipGap (',' :: left) = ',' :: left := skipGap_cons rfl left
      have hstep := @hmember (',' :: (gap depth ++
        (laidMembers colon gap depth (next :: all) ++ (finish ++ '\x7d' :: rest)))) fuel (by omega)
      have hrest : members none fuel (found ++ [(name, v)])
          (laidMembers colon gap depth (next :: all) ++ (finish ++ '\x7d' :: rest)) =
            .ok (found ++ [(name, v)] ++ next :: all, rest) :=
        ih (by simp) (fun v h => hplain v (List.mem_cons_of_mem _ h))
          (fun v h => hread v (List.mem_cons_of_mem _ h)) (by simpa using hnodup) (by omega)
      simp only [hcomma, hskip, hrest] at hstep
      simpa using hstep

/-- Reading takes one step at least. -/
theorem isReadBack_of_succ {v : Json} (h : ∀ (fuel : Nat) (rest : List Char),
      2 * (laid colon gap depth v).length ≤ fuel →
        value none (fuel + 1) (laid colon gap depth v ++ rest) = .ok (v, rest)) :
    IsReadBack colon gap depth v := by
  intro fuel rest hfuel
  obtain ⟨fuel, rfl⟩ : ∃ k, fuel = k + 1 := Nat.exists_eq_add_one.mpr (Nat.zero_lt_of_lt hfuel)
  exact h fuel rest (Nat.le_of_lt_succ hfuel)

theorem value_of_items {before inner rest left : List Char} {all : List Json} {fuel : Nat}
    (hbefore : ∀ c ∈ before, isGap c = true) (hinner : Opens inner)
    (hitems : items none fuel (inner ++ rest) = .ok (all, left)) :
    value none (fuel + 1) ('[' :: (before ++ (inner ++ rest))) = .ok (.arr all, left) := by
  have hskip := skipGap_of_opens hbefore hinner rest
  have hopen : ∀ left, skipGap (before ++ (inner ++ rest)) ≠ ']' :: left := by
    obtain ⟨c, hc, tail, rfl⟩ := hinner
    intro left heq
    exact (of_mem_openings hc).2.1 (List.cons.inj (hskip.symm.trans heq)).1
  have hbehind := listBehind_of_open hopen fuel none
  rw [hskip, hitems] at hbehind
  rw [value_list]
  exact hbehind

theorem value_of_members {before inner rest left : List Char} {all : List (String × Json)}
    {fuel : Nat} (hbefore : ∀ c ∈ before, isGap c = true) (hinner : Opens inner)
    (hmembers : members none fuel [] (inner ++ rest) = .ok (all, left)) :
    value none (fuel + 1) ('\x7b' :: (before ++ (inner ++ rest))) = .ok (.obj all, left) := by
  have hskip := skipGap_of_opens hbefore hinner rest
  have hopen : ∀ left, skipGap (before ++ (inner ++ rest)) ≠ '\x7d' :: left := by
    obtain ⟨c, hc, tail, rfl⟩ := hinner
    intro left heq
    exact (of_mem_openings hc).2.2.1 (List.cons.inj (hskip.symm.trans heq)).1
  have hbehind := objectBehind_of_open hopen fuel none
  rw [hskip, hmembers] at hbehind
  rw [value_object]
  exact hbehind

include hcolon hgap in
/-- A plain document is read back from every layout. -/
theorem isReadBack_of_isPlain {v : Json} (h : v.IsPlain) : IsReadBack colon gap depth v := by
  induction h generalizing depth with
  | null =>
    refine isReadBack_of_succ fun fuel rest _ => ?_
    rw [value.eq_def]
    rfl
  | bool b =>
    refine isReadBack_of_succ fun fuel rest _ => ?_
    rw [value.eq_def]
    cases b <;> rfl
  | str s => exact isReadBack_of_succ fun fuel rest _ => value_literal none fuel s rest
  | arr items hplain ih =>
    refine isReadBack_of_succ fun fuel rest hfuel => ?_
    cases items with
    | nil =>
      rw [value.eq_def]
      rfl
    | cons item items =>
      rw [laid] at hfuel ⊢
      have hinner : 2 * (laidItems colon gap (depth + 1) (item :: items)).length + 1 < fuel := by
        simp only [List.length_append, List.length_cons] at hfuel
        omega
      have hopens := opens_laidItems colon gap (depth + 1) (hplain item List.mem_cons_self) items
      have hread : ∀ v ∈ item :: items, IsReadBack colon gap (depth + 1) v := fun v hv => ih v hv
      have hitems := items_laidItems hgap (by simp) hplain hread (hgap depth) rest hinner
      simpa using value_of_items (hgap (depth + 1)) hopens hitems
  | obj members hnames hplain ih =>
    refine isReadBack_of_succ fun fuel rest hfuel => ?_
    cases members with
    | nil =>
      rw [value.eq_def]
      rfl
    | cons member members =>
      rw [laid] at hfuel ⊢
      have hinner :
          2 * (laidMembers colon gap (depth + 1) (member :: members)).length + 1 < fuel := by
        simp only [List.length_append, List.length_cons] at hfuel
        omega
      have hopens := opens_laidMembers colon gap (depth + 1) member members
      have hread : ∀ m ∈ member :: members, IsReadBack colon gap (depth + 1) m.2 :=
        fun m hm => ih m hm
      have hmembers := members_laidMembers hcolon hgap (by simp) hplain hread (hgap depth) rest
        (show (([] : List (String × Json)).map Prod.fst ++ _).Nodup from hnames) hinner
      simpa using value_of_members (hgap (depth + 1)) hopens hmembers

include hcolon hgap in
theorem document_laid {v : Json} (h : v.IsPlain) {behind : List Char}
    (hbehind : ∀ c ∈ behind, isGap c = true) :
    document none (laid colon gap 0 v ++ behind) = .ok v := by
  have hfuel : 2 * (laid colon gap 0 v).length < 2 * (laid colon gap 0 v ++ behind).length + 2 := by
    rw [List.length_append]
    omega
  have hvalue := isReadBack_of_isPlain hcolon hgap h _ behind hfuel
  have hend : skipGap behind = [] := by
    unfold skipGap
    rw [← List.append_nil behind, List.dropWhile_append_of_pos hbehind]
    rfl
  obtain ⟨c, hc, tail, htail⟩ := opens_laid colon gap 0 h
  rw [htail, List.cons_append] at hvalue ⊢
  unfold document
  split
  · next heq => exact absurd (List.cons.inj heq).1 (of_mem_openings hc).2.2.2
  · rw [skipGap_cons (of_mem_openings hc).1, hvalue]
    simp only [bind, Except.bind, hend]
    rfl

end Reading

/-! One line -/

/-- On one line there are no gaps. -/
def noGap (_depth : Nat) : List Char := []

mutual

theorem compact_eq_laid (depth : Nat) : (v : Json) → compact v = laid [] noGap depth v
  | .arr (item :: rest) => by
    rw [compact, laid, compactItems_eq_laidItems (depth + 1)]
    simp [noGap]
  | .obj (member :: rest) => by
    rw [compact, laid, compactMembers_eq_laidMembers (depth + 1)]
    simp [noGap]
  | .null | .bool _ | .int _ | .float _ | .str _ | .arr [] | .obj [] => rfl

theorem compactItems_eq_laidItems (depth : Nat) :
    (all : List Json) → compactItems all = laidItems [] noGap depth all
  | [] => rfl
  | [item] => compact_eq_laid depth item
  | item :: next :: rest => by
    rw [laidItems_cons_cons, ← compact_eq_laid depth item,
      ← compactItems_eq_laidItems depth (next :: rest), compactItems]
    · simp [noGap]
    · simp

theorem compactMembers_eq_laidMembers (depth : Nat) :
    (all : List (String × Json)) → compactMembers all = laidMembers [] noGap depth all
  | [] => rfl
  | [(name, value)] => by
    rw [compactMembers, laidMembers, ← compact_eq_laid depth value]
    simp
  | (name, value) :: next :: rest => by
    rw [laidMembers_cons_cons, ← compact_eq_laid depth value,
      ← compactMembers_eq_laidMembers depth (next :: rest), compactMembers]
    · simp [noGap]
    · simp

end

/-- A plain document is read back from one line. -/
theorem read_render {v : Json} (h : v.IsPlain) : read v.render = .ok v := by
  have hgap : ∀ c ∈ ([] : List Char), isGap c = true := fun c hc => absurd hc List.not_mem_nil
  have hdocument : document none (compact v) = .ok v := by
    rw [compact_eq_laid 0 v, ← List.append_nil (laid [] noGap 0 v)]
    exact document_laid hgap (fun _ => hgap) h hgap
  rw [read, readWithin, render, String.toList_ofList, hdocument]

/-! Many lines -/

mutual

theorem indentedAt_eq_laid (depth : Nat) :
    (v : Json) → indentedAt depth v = laid [' '] lineBreak depth v
  | .arr (item :: rest) => by
    rw [indentedAt, laid, indentedItems_eq_laidItems (depth + 1)]
  | .obj (member :: rest) => by
    rw [indentedAt, laid, indentedMembers_eq_laidMembers (depth + 1)]
  | .null | .bool _ | .int _ | .float _ | .str _ | .arr [] | .obj [] => rfl

theorem indentedItems_eq_laidItems (depth : Nat) :
    (all : List Json) → indentedItems depth all = laidItems [' '] lineBreak depth all
  | [] => rfl
  | [item] => indentedAt_eq_laid depth item
  | item :: next :: rest => by
    rw [laidItems_cons_cons, ← indentedAt_eq_laid depth item,
      ← indentedItems_eq_laidItems depth (next :: rest), indentedItems]
    simp

theorem indentedMembers_eq_laidMembers (depth : Nat) :
    (all : List (String × Json)) → indentedMembers depth all = laidMembers [' '] lineBreak depth all
  | [] => rfl
  | [(name, value)] => by
    rw [indentedMembers, laidMembers, ← indentedAt_eq_laid depth value]
    simp
  | (name, value) :: next :: rest => by
    rw [laidMembers_cons_cons, ← indentedAt_eq_laid depth value,
      ← indentedMembers_eq_laidMembers depth (next :: rest), indentedMembers]
    · simp
    · simp

end

theorem isGap_of_mem_lineBreak (depth : Nat) : ∀ c ∈ lineBreak depth, isGap c = true := by
  intro c hc
  rcases List.mem_cons.mp hc with rfl | hc
  · rfl
  · obtain rfl := List.eq_of_mem_replicate hc
    rfl

/-- A plain document is read back from many lines, with a line end behind them. -/
theorem read_indented {v : Json} (h : v.IsPlain) : read (v.indented ++ "\n") = .ok v := by
  have hdocument : document none (indentedAt 0 v ++ ['\n']) = .ok v := by
    rw [indentedAt_eq_laid 0 v]
    exact document_laid (by simp [isGap]) isGap_of_mem_lineBreak h (by simp [isGap])
  have hend : "\n".toList = ['\n'] := rfl
  rw [read, readWithin, indented, String.toList_append, String.toList_ofList, hend, hdocument]

/-! Texts -/

theorem isPlain_texts {fields : List (String × String)} (hnodup : (fields.map Prod.fst).Nodup) :
    IsPlain (.obj (texts fields)) := by
  have hnames : ((texts fields).map Prod.fst).Nodup := by
    rw [texts, List.map_map]
    exact hnodup
  refine .obj _ hnames fun member hmember => ?_
  obtain ⟨field, -, rfl⟩ := List.mem_map.mp hmember
  exact .str field.2

end TradingStatus.Json
