import TradingStatus.Journal.Level

/-! Computations that keep a journal. The journal is part of the result, so that what a computation
reports can be told apart from what it answers. -/

namespace TradingStatus

/-- A line of a journal. -/
structure LogLine where
  level : LogLevel
  text : String
deriving DecidableEq

/-- A result with the lines that were written on the way, in order. -/
structure Logged (α : Type) where
  value : α
  log : List LogLine

namespace Logged

instance : Monad Logged where
  pure value := ⟨value, []⟩
  bind a f :=
    let b := f a.value
    ⟨b.value, a.log ++ b.log⟩

instance : LawfulMonad Logged := LawfulMonad.mk' Logged
  (fun a => by simp [Functor.map])
  (fun a f => by simp [bind, pure])
  (fun a f g => by simp [bind])

/-- Writes a line. -/
def write (level : LogLevel) (text : String) : Logged Unit := ⟨(), [⟨level, text⟩]⟩

@[simp] theorem value_pure {α : Type} (a : α) : (pure a : Logged α).value = a := rfl

@[simp] theorem log_pure {α : Type} (a : α) : (pure a : Logged α).log = [] := rfl

@[simp] theorem value_bind {α β : Type} (a : Logged α) (f : α → Logged β) :
    (a >>= f).value = (f a.value).value := rfl

@[simp] theorem log_bind {α β : Type} (a : Logged α) (f : α → Logged β) :
    (a >>= f).log = a.log ++ (f a.value).log := rfl

@[simp] theorem value_write (level : LogLevel) (text : String) : (write level text).value = () := rfl

@[simp] theorem log_write (level : LogLevel) (text : String) :
    (write level text).log = [⟨level, text⟩] := rfl

/-- A computation whose lines are heard at a level. If there is no such level, the first line that
is written ends the computation. -/
def heard {α : Type} (level : Except Failure LogLevel) (logged : Logged (Except Failure α)) :
    Logged (Except Failure α) :=
  match level, logged.log with
  | .error failure, _ :: _ => ⟨.error failure, []⟩
  | _, _ => logged

theorem heard_of_no_level {α : Type} {logged : Logged (Except Failure α)} (h : logged.log ≠ [])
    (failure : Failure) : logged.heard (.error failure) = ⟨.error failure, []⟩ := by
  unfold heard
  split
  · next heq _ => rw [Except.error.inj heq]
  · next hquiet =>
    obtain ⟨line, lines, hlog⟩ := List.exists_cons_of_ne_nil h
    exact absurd hlog (hquiet failure line lines rfl)

theorem value_of_heard {α : Type} {level : Except Failure LogLevel}
    {logged : Logged (Except Failure α)} {result : α}
    (h : (logged.heard level).value = .ok result) : logged.value = .ok result := by
  unfold heard at h
  split at h
  · cases h
  · exact h

end Logged

/-- The lines that pass a level. -/
def LogLine.passing (level : LogLevel) (lines : List LogLine) : List LogLine :=
  lines.filter fun line => level.rank ≤ line.level.rank

/-- The line that sets parts of a journal apart. -/
def LogLine.separator : LogLine := ⟨.info, String.ofList (List.replicate 60 '-')⟩

end TradingStatus
