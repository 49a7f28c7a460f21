import ReportCheck.Cell.Text

/-! # Traced evaluation

  Checks and runs leave a log. An evaluation has an outcome, which may be a failure, and
  the lines that it logged up to there, also before a failure.

  - `LogLine` lists what is logged, by cause; `LogLine.text` is the wording.
  - `Traced` is the type of evaluations, a monad in which the lines of a second step
    follow those of the first.
  - `Traced.collect` joins the results of a step on all members of a list.
-/

namespace ReportCheck

/-- **Log lines.** -/
inductive LogLine where
  /-- A check needs a part of the file's name that is not known. -/
  | partMissing (part : String)
  /-- A check needs reference lists, and there are none. -/
  | listsMissing (list : String)
  /-- A cell was looked up in a reference list. -/
  | listSearched (list : String) (value : Cell) (found : Bool)
  /-- The records of a tab were checked. -/
  | tabChecked (tab : String) (records findings : Nat)
  /-- Only the first findings of a tab are kept. -/
  | tabCut (tab : String) (kept findings : Nat)
  deriving BEq, Repr

namespace LogLine

/-- Whether a line reports that a check could not be made. -/
def isWarning : LogLine → Bool
  | partMissing _ => true
  | listsMissing _ => true
  | _ => false

/-- The level of a line. -/
def level (line : LogLine) : String := if line.isWarning then "WARNING" else "DEBUG"

/-- The part of the program that logs a line. -/
def source : LogLine → String
  | tabChecked .. => "runner"
  | tabCut .. => "runner"
  | _ => "predicates"

/-- A number in decimal. -/
def natText (n : Nat) : String := String.ofList (Nat.toDigits 10 n)

/-- The wording of a line. -/
def text : LogLine → String
  | partMissing part =>
    "File name part " ++ Text.quoted part ++ " is not available; failing check closed."
  | listsMissing list =>
    "Dropdown values are not initialized; " ++ Text.quoted list ++ " check fails closed."
  | listSearched list value found =>
    list ++ ":" ++ value.plain ++ " is " ++ (if found then "present" else "missing")
  | tabChecked tab records findings =>
    "Tab " ++ tab ++ ": " ++ natText records ++ " records, " ++ natText findings ++ " findings"
  | tabCut tab kept findings =>
    "Tab " ++ tab ++ ": keeping first " ++ natText kept ++ " of " ++ natText findings ++ " findings"

end LogLine

/-- **Traced evaluations**, with failures of type `ε`. -/
structure Traced (ε α : Type) where
  log : List LogLine
  outcome : Except ε α

namespace Traced

variable {ε ε' α β : Type}

/-- A result that logs nothing. -/
def pure (a : α) : Traced ε α := ⟨[], .ok a⟩

/-- A second step that depends on the result of a first one. -/
def bind (t : Traced ε α) (f : α → Traced ε β) : Traced ε β :=
  match t.outcome with
  | .ok a => ⟨t.log ++ (f a).log, (f a).outcome⟩
  | .error e => ⟨t.log, .error e⟩

instance : Monad (Traced ε) where
  pure := pure
  bind := bind

/-- An outcome without a log. -/
def ofExcept (outcome : Except ε α) : Traced ε α := ⟨[], outcome⟩

/-- A step that only logs a line. -/
def note (line : LogLine) : Traced ε Unit := ⟨[line], .ok ()⟩

/-- A step that only logs some lines. -/
def noteAll (lines : List LogLine) : Traced ε Unit := ⟨lines, .ok ()⟩

/-- The same evaluation with another type of failures. -/
def mapError (f : ε → ε') (t : Traced ε α) : Traced ε' α where
  log := t.log
  outcome := match t.outcome with
    | .ok a => .ok a
    | .error e => .error (f e)

/-- The results of a step on all members of a list, in order. -/
def collect {γ : Type} (step : γ → Traced ε (List α)) : List γ → Traced ε (List α)
  | [] => pure []
  | x :: rest => bind (step x) fun first => bind (collect step rest) fun others => pure (first ++ others)

/-! ### Laws -/

variable {γ : Type}

@[simp] theorem outcome_pure (a : α) : (Pure.pure a : Traced ε α).outcome = .ok a := rfl

@[simp] theorem log_pure (a : α) : (Pure.pure a : Traced ε α).log = [] := rfl

@[simp] theorem outcome_bind (t : Traced ε α) (f : α → Traced ε β) :
    (t >>= f).outcome = t.outcome >>= fun a => (f a).outcome := by
  change (bind t f).outcome = _
  unfold bind
  cases t.outcome <;> rfl

theorem bind_pure (t : Traced ε α) : bind t (fun a => pure (id a)) = t := by
  obtain ⟨log, outcome⟩ := t
  cases outcome <;> simp [bind, pure]

theorem bind_bind (t : Traced ε α) (f : α → Traced ε β) (g : β → Traced ε γ) :
    bind (bind t f) g = bind t fun a => bind (f a) g := by
  obtain ⟨log, outcome⟩ := t
  cases outcome with
  | error e => rfl
  | ok a =>
    -- The log of the first step stands in front on both sides.
    simp only [bind]
    cases (f a).outcome <;> simp

instance : LawfulMonad (Traced ε) :=
  LawfulMonad.mk' (Traced ε) bind_pure (fun a f => by simp [Bind.bind, Pure.pure, bind, pure]) bind_bind

@[simp] theorem collect_nil (step : γ → Traced ε (List α)) : collect step [] = Pure.pure [] := rfl

theorem collect_cons (step : γ → Traced ε (List α)) (x : γ) (rest : List γ) :
    collect step (x :: rest) = do
      let first ← step x
      let others ← collect step rest
      return first ++ others := rfl

end Traced

end ReportCheck
