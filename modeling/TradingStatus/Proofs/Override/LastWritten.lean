import TradingStatus.Override.Table

/-! What is left in a table of all that was written into it. Identifiers are written in any spelling
and looked up in one, so what is found under an identifier is what the last step left there whose
spelling means it, and what the table began with where there is no such step. -/

namespace TradingStatus

namespace OverrideTable

/-- What can be done to a table: an entry is written for a market, or what is there is cleared. -/
inductive Step
  | put (spelling : String) (entry : Json)
  | clear (spelling : String)

/-- The identifier of the market that a step is about. -/
def Step.mic : Step → String
  | put spelling _ => Mic.normalize spelling
  | clear spelling => Mic.normalize spelling

/-- What a step leaves under the identifier of its market. -/
def Step.left? : Step → Option Json
  | put _ entry => some entry
  | clear _ => none

/-- The table that a step leaves. -/
def step (table : OverrideTable) : Step → OverrideTable
  | .put spelling entry => table.put spelling entry
  | .clear spelling => table.clear spelling

/-- The table that steps leave, taken one after another. -/
def run (table : OverrideTable) (steps : List Step) : OverrideTable := steps.foldl step table

/-- The last of some steps that is about a market. -/
def lastAbout? (mic : String) (steps : List Step) : Option Step :=
  steps.reverse.find? fun step => step.mic == mic

/-- What is written under an identifier comes to an answer: null to nothing, a text to what the JSON
in it means as an entry, or to a failure if there is none in it or what is there cannot be read, and
any other value to what it means as an entry itself. -/
inductive ComesTo [Platform] (mic : String) : Json → Except Failure (Option Override) → Prop
  | nothing : ComesTo mic .null (.ok none)
  | value {entry : Json} (hnull : entry ≠ .null) (htext : entry.text? = none) :
      ComesTo mic entry ((Override.ofEntry entry).map some)
  | text {text : String} {entry : Json} (hread : Json.load text = .ok entry) :
      ComesTo mic (.str text) ((Override.ofEntry entry).map some)
  | malformed {text : String} {complaint : Json.Complaint} {line column offset : Nat}
      (hread : Json.load text = .error (.malformed complaint line column offset)) :
      ComesTo mic (.str text) (.error (.overrideNotJson mic))
  | unreadable {text : String} {error : Json.ReadError} (hread : Json.load text = .error error)
      (hform : ∀ complaint line column offset, error ≠ .malformed complaint line column offset) :
      ComesTo mic (.str text) (.error (.document error))

variable {table : OverrideTable} {mic : String} {raw : Json}
  {result : Except Failure (Option Override)}

theorem comesTo_parse [Platform] (mic : String) (raw : Json) : ComesTo mic raw (parse mic raw) := by
  cases raw with
  | null => exact .nothing
  | str text =>
    cases hread : Json.load text with
    | ok entry =>
      simp only [parse, hread]
      exact .text hread
    | error error =>
      cases error with
      | malformed complaint line column offset =>
        simp only [parse, hread]
        exact .malformed hread
      | _ =>
        simp only [parse, hread]
        exact .unreadable hread (by simp)
  | bool value => exact .value (by simp) rfl
  | int value => exact .value (by simp) rfl
  | float value => exact .value (by simp) rfl
  | arr items => exact .value (by simp) rfl
  | obj members => exact .value (by simp) rfl

/-- What is written comes to one answer. -/
theorem comesTo_iff [Platform] : ComesTo mic raw result ↔ parse mic raw = result := by
  constructor
  · intro h
    cases h with
    | nothing => rfl
    | value hnull htext =>
      cases raw with
      | null => exact absurd rfl hnull
      | str text => cases htext
      | _ => rfl
    | text hread => simp only [parse, hread]
    | malformed hread => simp only [parse, hread]
    | @unreadable text error hread hform =>
      cases error with
      | malformed complaint line column offset =>
        exact absurd rfl (hform complaint line column offset)
      | _ => simp only [parse, hread]
  · rintro rfl
    exact comesTo_parse mic raw

/-- A step changes what is under the identifier of its market, and nothing else. -/
theorem lookup_step (table : OverrideTable) (step : Step) (mic : String) :
    (table.step step).entries.lookup mic =
      if step.mic = mic then step.left? else table.entries.lookup mic := by
  cases step with
  | put spelling entry =>
    by_cases hmic : (Step.put spelling entry).mic = mic
    · rw [if_pos hmic, ← hmic]
      exact Json.lookup_insert_self ..
    · rw [if_neg hmic]
      exact Json.lookup_insert_of_ne _ _ (Ne.symm hmic)
  | clear spelling =>
    refine (lookup_filter_ne table.entries (Mic.normalize spelling) mic).trans ?_
    simp only [Step.mic, Step.left?, eq_comm]

theorem lastAbout?_cons (mic : String) (step : Step) (steps : List Step) :
    lastAbout? mic (step :: steps) =
      (lastAbout? mic steps).or (if step.mic = mic then some step else none) := by
  unfold lastAbout?
  rw [List.reverse_cons, List.find?_append, List.find?_singleton]
  simp only [beq_iff_eq]

/-- Under an identifier is what the last step about its market left, or else what was there. -/
theorem lookup_run (table : OverrideTable) (steps : List Step) (mic : String) :
    (table.run steps).entries.lookup mic =
      match lastAbout? mic steps with
      | some step => step.left?
      | none => table.entries.lookup mic := by
  induction steps generalizing table with
  | nil => rfl
  | cons step steps ih =>
    have hrun : table.run (step :: steps) = (table.step step).run steps := rfl
    rw [hrun, ih, lastAbout?_cons, lookup_step]
    -- What the first step left counts only where no later one is about the market.
    cases lastAbout? mic steps with
    | some later => rfl
    | none =>
      by_cases hmic : step.mic = mic
      · rw [if_pos hmic, if_pos hmic]
        rfl
      · rw [if_neg hmic, if_neg hmic]
        rfl

/-- The last write wins, by market. Whatever a table begins with, and in whatever spellings entries
are written into it and cleared, the answer under an identifier is what the entry comes to that the
last step about the market wrote, and nothing if that step cleared it. If no step is about the
market, it is what the entry comes to that the table held from the start under exactly this
identifier, and nothing if there is none. -/
theorem lookup_is_what_was_last_written [Platform] (table : OverrideTable) (steps : List Step)
    (mic : String) (result : Except Failure (Option Override)) :
    (table.run steps).lookup mic = result ↔
      match lastAbout? mic steps with
      | some (.put _ entry) => ComesTo mic entry result
      | some (.clear _) => result = .ok none
      | none =>
        match table.entries.lookup mic with
        | some entry => ComesTo mic entry result
        | none => result = .ok none := by
  have hnothing : (parse mic .null = result) ↔ result = .ok none := eq_comm
  unfold lookup Json.member
  rw [lookup_run]
  cases lastAbout? mic steps with
  | some step =>
    cases step with
    | put spelling entry => exact comesTo_iff.symm
    | clear spelling => exact hnothing
  | none =>
    cases table.entries.lookup mic with
    | some entry => exact comesTo_iff.symm
    | none => exact hnothing

end OverrideTable

end TradingStatus
