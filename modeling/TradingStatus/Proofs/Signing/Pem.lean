import Mathlib.Data.List.Chain
import TradingStatus.Proofs.Text.Base64
import TradingStatus.Signing.Pem

/-! Documents between marked lines are read back, into however many lines their data is cut and
however these lines end. Since no line is empty, nothing of the data is taken for properties, and
since there are no dashes in it, it ends where the closing mark begins. -/

namespace TradingStatus.Pem

open Text.Base64 (IsPlain)

variable {mark left cs body rest eol : List Char} {lines : List (List Char)} {bytes : List UInt8}

/-- What is behind a mark is behind an occurrence of it. -/
theorem eq_append_of_behind? (h : behind? mark left cs = some rest) :
    cs = left ++ rest ∨ ∃ front, cs = front ++ mark ++ rest := by
  induction cs generalizing left with
  | nil =>
    cases left with
    | nil => exact .inl (Option.some.inj h)
    | cons m left => cases h
  | cons c cs ih =>
    cases left with
    | nil => exact .inl (Option.some.inj h)
    | cons m left =>
      rw [behind?] at h
      split at h
      · next hc =>
        rcases ih h with hcs | ⟨front, hcs⟩
        · exact .inl (by rw [hc, hcs, List.cons_append])
        · exact .inr ⟨c :: front, by rw [hcs, List.cons_append, List.cons_append]⟩
      · rcases ih h with hcs | ⟨front, hcs⟩
        · exact .inr ⟨[c], by rw [hcs, List.append_assoc, List.singleton_append]⟩
        · exact .inr ⟨c :: front, by rw [hcs, List.cons_append, List.cons_append]⟩

theorem cut?_eq_none (h : ¬mark <:+: cs) : cut? mark cs = none := by
  rw [cut?, Option.map_eq_none_iff, Option.eq_none_iff_forall_ne_some]
  intro rest hrest
  rcases eq_append_of_behind? hrest with rfl | ⟨front, rfl⟩
  · exact h ⟨[], rest, rfl⟩
  · exact h ⟨front, rest, rfl⟩

/-- The ways to end a line. -/
def lineEnds : List (List Char) := [['\n'], ['\r', '\n']]

/-- A text is the document of bytes under a label: a mark on a line of its own, the bytes in base
64, cut into lines that are not empty, and the closing mark. All lines end in one way. -/
def Writes (label : String) (bytes : List UInt8) (cs : List Char) : Prop :=
  ∃ eol ∈ lineEnds, ∃ lines : List (List Char), (∀ line ∈ lines, line ≠ []) ∧
    lines.flatten = (Text.Base64.encode bytes).toList ∧
    cs = opening ++ label.toList ++ dashes ++ eol ++ lines.flatMap (· ++ eol) ++
      ending ++ label.toList ++ dashes

/-- A document whose data stands in one line is written so. -/
theorem writes_encode (label : String) (hbytes : bytes ≠ []) (heol : eol ∈ lineEnds) :
    Writes label bytes (eol.intercalate (encode label bytes)) := by
  refine ⟨eol, heol, [(Text.Base64.encode bytes).toList], ?_, List.flatten_singleton, ?_⟩
  · have hlength := List.length_pos_of_ne_nil hbytes
    refine List.forall_mem_singleton.mpr (List.ne_nil_of_length_pos ?_)
    rw [Text.Base64.length_encode]
    omega
  · simp [encode, List.intercalate]

theorem ne_of_isBlank {c other : Char} (h : IsPlain c)
    (hother : Text.isBlank other = true) : c ≠ other := by
  rintro rfl
  rw [h.blank] at hother
  cases hother

theorem isPlain_of_mem_lines (hflatten : lines.flatten = (Text.Base64.encode bytes).toList) :
    ∀ line ∈ lines, ∀ c ∈ line, IsPlain c := by
  intro line hline c hc
  have hmem : c ∈ (Text.Base64.encode bytes).toList := by
    rw [← hflatten]
    exact List.mem_flatten_of_mem hline hc
  exact Text.Base64.isPlain_of_mem_encode hmem

theorem blank_of_mem_lineEnds (heol : eol ∈ lineEnds) {c : Char} (hc : c ∈ eol) :
    c = '\n' ∨ c = '\r' := by
  rcases List.mem_pair.mp heol with rfl | rfl
  · exact .inl (List.mem_singleton.mp hc)
  · exact (List.mem_pair.mp hc).symm

/-- After a line feed, another line begins that is not empty. -/
def HasNoEmptyLine (cs : List Char) : Prop :=
  cs.IsChain fun c next => c = '\n' → next ≠ '\n' ∧ next ≠ '\r'

theorem head_of_lines (hlines : ∀ line ∈ lines, line ≠ [])
    (hdata : ∀ line ∈ lines, ∀ c ∈ line, IsPlain c) {c : Char}
    (hc : c ∈ (lines.flatMap (· ++ eol)).head?) : IsPlain c := by
  cases lines with
  | nil => cases hc
  | cons line lines =>
    cases line with
    | nil => exact absurd rfl (hlines [] List.mem_cons_self)
    | cons first line =>
      obtain rfl : first = c := Option.some.inj hc
      exact hdata _ List.mem_cons_self _ List.mem_cons_self

theorem hasNoEmptyLine_of_lines (heol : eol ∈ lineEnds) (hlines : ∀ line ∈ lines, line ≠ [])
    (hdata : ∀ line ∈ lines, ∀ c ∈ line, IsPlain c) :
    HasNoEmptyLine (lines.flatMap (· ++ eol)) := by
  induction lines with
  | nil => exact .nil
  | cons line lines ih =>
    rw [List.forall_mem_cons] at hlines hdata
    have hline : ∀ c ∈ line, c ≠ '\n' := fun c hc => ne_of_isBlank (hdata.1 c hc) rfl
    have hchain : HasNoEmptyLine line :=
      (List.isChain_isInfix line).imp fun c next hpair hfeed =>
        absurd hfeed (hline c (hpair.subset List.mem_cons_self))
    have hend : HasNoEmptyLine eol := by
      rcases List.mem_pair.mp heol with rfl | rfl
      · exact .singleton _
      · exact .cons_cons (fun h => absurd h (by decide)) (.singleton _)
    rw [List.flatMap_cons]
    refine List.isChain_append.mpr ⟨List.isChain_append.mpr ⟨hchain, hend, ?_⟩,
      ih hlines.2 hdata.2, ?_⟩
    · intro c hc next _ hfeed
      exact absurd hfeed (hline c (List.mem_of_getLast? hc))
    · -- A line feed ends the line, so what follows it begins the next one.
      intro c _ next hnext _
      have hnext := head_of_lines hlines.2 hdata.2 hnext
      exact ⟨ne_of_isBlank hnext rfl, ne_of_isBlank hnext rfl⟩

/-- Data in lines of which none is empty is all of a body: no properties stand in front of it. -/
theorem partsOf_of_hasNoEmptyLine (h : HasNoEmptyLine body) : partsOf body = ([], body) := by
  have hfeeds : ¬"\n\n".toList <:+: body := by
    rintro ⟨front, rest, rfl⟩
    have hpair := (List.isChain_cons_cons.mp h.left_of_append.right_of_append).1
    exact (hpair rfl).1 rfl
  have hreturns : ¬"\r\n\r\n".toList <:+: body := by
    rintro ⟨front, rest, rfl⟩
    have hpairs := (List.isChain_cons_cons.mp h.left_of_append.right_of_append).2
    exact ((List.isChain_cons_cons.mp hpairs).1 rfl).2 rfl
  rw [partsOf, cut?_eq_none hfeeds, cut?_eq_none hreturns]
  rfl

theorem filter_lines (heol : eol ∈ lineEnds) (hdata : ∀ line ∈ lines, ∀ c ∈ line, IsPlain c) :
    (lines.flatMap (· ++ eol)).filter (fun c => !Text.isSpacing c) = lines.flatten := by
  have hend : eol.filter (fun c => !Text.isSpacing c) = [] := by
    rcases List.mem_pair.mp heol with rfl | rfl <;> rfl
  induction lines with
  | nil => rfl
  | cons line lines ih =>
    rw [List.forall_mem_cons] at hdata
    have hline : line.filter (fun c => !Text.isSpacing c) = line := by
      refine List.filter_eq_self.mpr fun c hc => ?_
      rw [Text.not_isSpacing_of_not_isBlank (hdata.1 c hc).blank]
      rfl
    rw [List.flatMap_cons, List.filter_append, List.filter_append, hline, hend, ih hdata.2,
      List.append_nil, List.flatten_cons]

theorem data?_of_filter
    (h : body.filter (fun c => !Text.isSpacing c) = (Text.Base64.encode bytes).toList) :
    data? body = some bytes := by
  unfold data?
  simp only [h, String.ofList_toList, Text.Base64.decode?_encode, if_true]

theorem blocks_nil : blocks [] = [] := by
  rw [blocks]
  rfl

theorem blocks_of_block? {block : Block} (h : block? cs = some (block, rest)) :
    blocks cs = block :: blocks rest := by
  rw [blocks]
  split
  · next hnone =>
    rw [h] at hnone
    cases hnone
  · next hsome =>
    rw [h] at hsome
    cases hsome
    rfl

theorem dropGap_of_head (h : ∀ c ∈ cs.head?, Text.isBlank c = false) (heol : eol ∈ lineEnds) :
    dropGap (eol ++ cs) = cs := by
  have hhead : dropGap cs = cs := by
    cases cs with
    | nil => rfl
    | cons c cs =>
      refine List.dropWhile_cons_of_neg fun hgap => ?_
      have hblank : Text.isBlank c = true := by
        simp only [Bool.or_eq_true, beq_iff_eq] at hgap
        rcases hgap with ((rfl | rfl) | rfl) | rfl <;> rfl
      rw [h c rfl] at hblank
      cases hblank
  rcases List.mem_pair.mp heol with rfl | rfl
  · exact hhead
  · exact hhead

theorem cut?_of_dash {text : List Char} (hmark : mark.head? = some '-') (h : '-' ∉ text)
    (rest : List Char) : cut? mark (text ++ (mark ++ rest)) = some (text, rest) := by
  cases mark with
  | nil => cases hmark
  | cons m mark =>
    obtain rfl := Option.some.inj hmark
    exact cut?_append h mark rest

/-- A block is read between its marks, if there are no dashes in its label and in its body. -/
theorem block?_of_marks {label : List Char} (after : List Char) (hlabel : '-' ∉ label)
    (hbody : '-' ∉ body) (hgap : dropGap rest = body ++ (ending ++ (label ++ (dashes ++ after)))) :
    block? (opening ++ (label ++ (dashes ++ rest))) =
      some (⟨label, body, label⟩, dropGap after) := by
  have hopening : cut? opening (opening ++ (label ++ (dashes ++ rest))) =
      some ([], label ++ (dashes ++ rest)) := cut?_of_dash rfl List.not_mem_nil _
  have hdashes : dashes.head? = some '-' := rfl
  have hending : ending.head? = some '-' := rfl
  unfold block?
  simp only [hopening, Option.bind_eq_bind, Option.bind_some, Option.pure_def, hgap,
    cut?_of_dash hdashes hlabel, cut?_of_dash hending hbody]

/-- The document of bytes under a label is the only block of its text. -/
theorem blocks_of_writes {label : String} (hlabel : '-' ∉ label.toList)
    (h : Writes label bytes cs) :
    ∃ body, blocks cs = [⟨label.toList, body, label.toList⟩] ∧ partsOf body = ([], body) ∧
      data? body = some bytes := by
  obtain ⟨eol, heol, lines, hlines, hflatten, rfl⟩ := h
  have hdata := isPlain_of_mem_lines hflatten
  have hhead : ∀ c ∈ (lines.flatMap (· ++ eol) ++
      (ending ++ (label.toList ++ (dashes ++ [])))).head?, Text.isBlank c = false := by
    intro c hc
    rw [List.head?_append] at hc
    rcases Option.or_eq_some_iff.mp hc with hc | ⟨-, hc⟩
    · exact (head_of_lines hlines hdata hc).blank
    · obtain rfl : '-' = c := Option.some.inj hc
      rfl
  have hdash : '-' ∉ lines.flatMap (· ++ eol) := by
    intro hmem
    obtain ⟨line, hline, hmem⟩ := List.mem_flatMap.mp hmem
    rcases List.mem_append.mp hmem with hmem | hmem
    · exact (hdata line hline _ hmem).dash rfl
    · rcases blank_of_mem_lineEnds heol hmem with h | h <;> cases h
  refine ⟨lines.flatMap (· ++ eol), ?_,
    partsOf_of_hasNoEmptyLine (hasNoEmptyLine_of_lines heol hlines hdata),
    data?_of_filter ((filter_lines heol hdata).trans hflatten)⟩
  have hblock := block?_of_marks [] hlabel hdash (dropGap_of_head hhead heol)
  rw [List.append_nil] at hblock
  simp only [List.append_assoc]
  rw [blocks_of_block? hblock]
  exact congrArg _ blocks_nil

/-- The document of bytes under a label is read back. -/
theorem documents?_of_writes {label : String} (hlabel : '-' ∉ label.toList)
    (hne : label.toList ≠ []) (h : Writes label bytes cs) :
    documents? cs = some [⟨label, [], bytes⟩] := by
  obtain ⟨body, hblocks, hparts, hbytes⟩ := blocks_of_writes hlabel h
  have hdocument : Block.document? ⟨label.toList, body, label.toList⟩ = some ⟨label, [], bytes⟩ := by
    have hnames : (!label.toList.isEmpty && label.toList == label.toList) = true := by
      simpa using hne
    have hlines : (linesOf []).mapM property? = some [] := rfl
    refine Option.bind_eq_some_iff.mpr ⟨(), if_pos hnames, ?_⟩
    simp only [hparts, hlines, hbytes, Option.pure_def, Option.bind_eq_bind, Option.bind_some,
      String.ofList_toList]
  rw [documents?, hblocks, List.mapM_cons, hdocument]
  rfl

theorem isAscii_of_lines (heol : eol ∈ lineEnds) (hdata : ∀ line ∈ lines, ∀ c ∈ line, IsPlain c) :
    (lines.flatMap (· ++ eol)).all (fun c => c.toNat < 128) = true := by
  refine List.all_eq_true.mpr fun c hc => decide_eq_true ?_
  obtain ⟨line, hline, hc⟩ := List.mem_flatMap.mp hc
  rcases List.mem_append.mp hc with hc | hc
  · exact (hdata line hline c hc).ascii
  · rcases blank_of_mem_lineEnds heol hc with rfl | rfl <;> decide

/-- A byte could hold each character of a document. -/
theorem isAscii_of_writes {label : String}
    (hlabel : label.toList.all (fun c => c.toNat < 128) = true) (h : Writes label bytes cs) :
    cs.all (fun c => c.toNat < 128) = true := by
  obtain ⟨eol, heol, lines, hlines, hflatten, rfl⟩ := h
  have hend : eol.all (fun c => c.toNat < 128) = true := by
    rcases List.mem_pair.mp heol with rfl | rfl <;> rfl
  have hopening : opening.all (fun c => c.toNat < 128) = true := rfl
  have hending : ending.all (fun c => c.toNat < 128) = true := rfl
  have hdashes : dashes.all (fun c => c.toNat < 128) = true := rfl
  simp only [List.all_append, hlabel, hend, hopening, hending, hdashes,
    isAscii_of_lines heol (isPlain_of_mem_lines hflatten), Bool.and_self]

/-- A document begins with its mark and ends with a dash. -/
theorem ends_of_writes {label : String} (h : Writes label bytes cs) :
    (∃ rest, cs = opening ++ rest) ∧ cs.getLast? = some '-' := by
  obtain ⟨eol, -, lines, -, -, rfl⟩ := h
  constructor
  · simp only [List.append_assoc]
    exact ⟨_, rfl⟩
  · rw [List.getLast?_append]
    rfl

end TradingStatus.Pem
