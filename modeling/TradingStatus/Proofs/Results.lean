import Mathlib.Data.List.Forall2
import TradingStatus.Journal.Logged

/-! Results of computations: what it takes for one that may fail to succeed, what it may fail with,
what it takes for a look-up among entries to find something, and what is left of a computation that
keeps a journal without its journal. -/

namespace TradingStatus

variable {ε α β : Type}

/-- A computation in two steps succeeds when both succeed. -/
theorem bind_eq_ok_iff {x : Except ε α} {f : α → Except ε β} {b : β} :
    x >>= f = .ok b ↔ ∃ a, x = .ok a ∧ f a = .ok b := by
  cases x with
  | error e => simp [bind, Except.bind]
  | ok a => simp [bind, Except.bind]

/-- A computation in two steps fails when the first does, or the second after it. -/
theorem bind_eq_error_iff {x : Except ε α} {f : α → Except ε β} {e : ε} :
    x >>= f = .error e ↔ x = .error e ∨ ∃ a, x = .ok a ∧ f a = .error e := by
  cases x with
  | error e' => simp [bind, Except.bind]
  | ok a => simp [bind, Except.bind]

theorem map_eq_ok_iff {x : Except ε α} {f : α → β} {b : β} :
    f <$> x = .ok b ↔ ∃ a, x = .ok a ∧ f a = b := by
  cases x with
  | error e => simp [Functor.map, Except.map]
  | ok a => simp [Functor.map, Except.map]

@[simp] theorem pure_eq_ok_iff {a b : α} : (pure a : Except ε α) = .ok b ↔ a = b := by
  simp [pure, Except.pure]

/-- A computation at every element of a list succeeds when all of them do. -/
theorem mapM_eq_ok_iff {f : α → Except ε β} {as : List α} {bs : List β} :
    as.mapM f = .ok bs ↔ List.Forall₂ (fun a b => f a = .ok b) as bs := by
  induction as generalizing bs with
  | nil => rw [List.mapM_nil, pure_eq_ok_iff, List.forall₂_nil_left_iff, eq_comm]
  | cons a as ih =>
    simp only [List.mapM_cons, bind_eq_ok_iff, pure_eq_ok_iff, ih, List.forall₂_cons_left_iff]
    exact ⟨fun ⟨b, hb, bs, hbs, heq⟩ => ⟨b, bs, hb, hbs, heq.symm⟩,
      fun ⟨b, bs, hb, hbs, heq⟩ => ⟨b, hb, bs, hbs, heq.symm⟩⟩

theorem mem_iff_of_mapM {f : α → Except ε β} {as : List α} {bs : List β} (h : as.mapM f = .ok bs)
    {b : β} : b ∈ bs ↔ ∃ a ∈ as, f a = .ok b := by
  rw [mapM_eq_ok_iff] at h
  induction h with
  | nil => simp
  | cons hb _ ih => simp [ih, hb, eq_comm]

theorem exists_of_mem_of_mapM {f : α → Except ε β} {as : List α} {bs : List β}
    (h : as.mapM f = .ok bs) {a : α} (ha : a ∈ as) : ∃ b ∈ bs, f a = .ok b := by
  rw [mapM_eq_ok_iff] at h
  induction h with
  | nil => cases ha
  | cons hb _ ih =>
    rcases List.mem_cons.mp ha with rfl | ha
    · exact ⟨_, List.mem_cons_self, hb⟩
    · obtain ⟨b, hmem, hb⟩ := ih ha
      exact ⟨b, List.mem_cons_of_mem _ hmem, hb⟩

theorem exists_mapM_eq_ok_iff {f : α → Except ε β} {as : List α} :
    (∃ bs, as.mapM f = .ok bs) ↔ ∀ a ∈ as, ∃ b, f a = .ok b := by
  constructor
  · rintro ⟨bs, hbs⟩ a ha
    obtain ⟨b, -, hb⟩ := exists_of_mem_of_mapM hbs ha
    exact ⟨b, hb⟩
  · intro h
    induction as with
    | nil => exact ⟨[], rfl⟩
    | cons a as ih =>
      obtain ⟨b, hb⟩ := h a List.mem_cons_self
      obtain ⟨bs, hbs⟩ := ih fun a ha => h a (List.mem_cons_of_mem _ ha)
      rw [mapM_eq_ok_iff] at hbs
      exact ⟨b :: bs, mapM_eq_ok_iff.mpr (.cons hb hbs)⟩

/-- Whatever is read back when it is written alone is read back in a list. -/
theorem mapM_map_eq_ok {f : α → Except ε β} {g : β → α} {bs : List β}
    (h : ∀ b ∈ bs, f (g b) = .ok b) : (bs.map g).mapM f = .ok bs := by
  rw [mapM_eq_ok_iff, List.forall₂_map_left_iff, List.forall₂_same]
  exact h

/-- Elements may be left out before a computation as well as afterwards. -/
theorem mapM_filter_eq_ok {f : α → Except ε β} {as : List α} {bs : List β} {p : α → Bool}
    {q : β → Bool} (h : as.mapM f = .ok bs) (hpq : ∀ a b, f a = .ok b → p a = q b) :
    (as.filter p).mapM f = .ok (bs.filter q) := by
  rw [mapM_eq_ok_iff] at h ⊢
  induction h with
  | nil => exact .nil
  | @cons a b as bs hb _ ih =>
    have hsame := hpq a b hb
    cases hq : q b with
    | false =>
      rw [List.filter_cons_of_neg (by simp [hsame, hq]), List.filter_cons_of_neg (by simp [hq])]
      exact ih
    | true =>
      rw [List.filter_cons_of_pos (by simp [hsame, hq]), List.filter_cons_of_pos hq]
      exact .cons hb ih

/-- Whatever a computation fails with is of one sort. -/
def FailsOnlyWith (sort : ε → Prop) (x : Except ε α) : Prop := ∀ e, x = .error e → sort e

namespace FailsOnlyWith

variable {sort : ε → Prop}

theorem ok (a : α) : FailsOnlyWith sort (.ok a) := fun _ h => by cases h

theorem error {e : ε} (h : sort e) : FailsOnlyWith sort (.error e : Except ε α) := by
  rintro _ ⟨⟩
  exact h

theorem mono {other : ε → Prop} {x : Except ε α} (hx : FailsOnlyWith sort x)
    (h : ∀ e, sort e → other e) : FailsOnlyWith other x := fun e he => h e (hx e he)

theorem bind {x : Except ε α} {f : α → Except ε β} (hx : FailsOnlyWith sort x)
    (hf : ∀ a, x = .ok a → FailsOnlyWith sort (f a)) : FailsOnlyWith sort (x >>= f) := by
  cases x with
  | error e => exact .error (hx e rfl)
  | ok a => exact hf a rfl

theorem map {x : Except ε α} (f : α → β) (hx : FailsOnlyWith sort x) :
    FailsOnlyWith sort (f <$> x) := by
  cases x with
  | error e => exact .error (hx e rfl)
  | ok a => exact .ok (f a)

theorem mapM {f : α → Except ε β} {as : List α} (hf : ∀ a ∈ as, FailsOnlyWith sort (f a)) :
    FailsOnlyWith sort (as.mapM f) := by
  induction as with
  | nil => exact .ok []
  | cons a as ih =>
    rw [List.mapM_cons]
    refine (hf a List.mem_cons_self).bind fun b _ => ?_
    exact (ih fun a ha => hf a (List.mem_cons_of_mem _ ha)).bind fun bs _ => .ok (b :: bs)

theorem foldlM {f : β → α → Except ε β} {as : List α}
    (hf : ∀ b, ∀ a ∈ as, FailsOnlyWith sort (f b a)) (b : β) :
    FailsOnlyWith sort (as.foldlM f b) := by
  induction as generalizing b with
  | nil => exact .ok b
  | cons a as ih =>
    rw [List.foldlM_cons]
    exact (hf b a List.mem_cons_self).bind fun b _ =>
      ih (fun b a ha => hf b a (List.mem_cons_of_mem _ ha)) b

end FailsOnlyWith

theorem toOption_eq_some_iff {x : Except ε α} {a : α} : x.toOption = some a ↔ x = .ok a := by
  cases x with
  | error e => simp [Except.toOption]
  | ok b => simp [Except.toOption]

/-- Under different names, what is found under a name is what is there with it. -/
theorem lookup_eq_some_iff_mem {entries : List (String × β)} (h : (entries.map Prod.fst).Nodup)
    {name : String} {value : β} : entries.lookup name = some value ↔ (name, value) ∈ entries := by
  rw [List.lookup_eq_some_iff]
  constructor
  · rintro ⟨before, after, rfl, -⟩
    exact List.mem_append_right _ List.mem_cons_self
  · intro hmem
    obtain ⟨before, after, rfl⟩ := List.append_of_mem hmem
    refine ⟨before, after, rfl, fun entry hentry => ?_⟩
    rw [List.map_append, List.map_cons] at h
    have hne := (List.nodup_append.mp h).2.2 entry.1 (List.mem_map_of_mem hentry) name
      List.mem_cons_self
    exact bne_iff_ne.mpr (Ne.symm hne)

/-- Under different names, what is found by its name is what is there with that name. -/
theorem find?_eq_some_iff_of_nodup {name : α → String} {as : List α} (h : (as.map name).Nodup)
    {sought : String} {a : α} :
    as.find? (fun a => name a == sought) = some a ↔ a ∈ as ∧ name a = sought := by
  constructor
  · intro hfound
    exact ⟨List.mem_of_find?_eq_some hfound, by simpa using List.find?_some hfound⟩
  · rintro ⟨hmem, rfl⟩
    induction as with
    | nil => cases hmem
    | cons first rest ih =>
      obtain ⟨hfirst, hrest⟩ := List.nodup_cons.mp h
      rcases List.mem_cons.mp hmem with rfl | hmem
      · simp
      · have hne : name first ≠ name a := fun heq => hfirst (heq ▸ List.mem_map_of_mem hmem)
        rw [List.find?_cons_of_neg (by simpa using hne)]
        exact ih hrest hmem

@[simp] theorem Logged.value_map (f : α → β) (a : Logged α) : (f <$> a).value = f a.value := rfl

end TradingStatus
