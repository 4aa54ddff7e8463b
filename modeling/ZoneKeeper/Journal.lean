import ZoneKeeper.Text.Basic

/-!
# Journals

An activity that can fail and that reports what it does on the way. Its journal is part of its value
and is kept when it fails, so that the reports made before the failure are there too.
-/

namespace ZoneKeeper

/-- How much a report matters. -/
inductive Weight where
  /-- Of interest when looking for the cause of something. -/
  | debug
  /-- Worth knowing in normal running. -/
  | info
  deriving DecidableEq, Repr

/-- One report. -/
structure Report where
  /-- How much it matters. -/
  weight : Weight
  /-- What it says. -/
  message : Text
  deriving DecidableEq, Repr

/-- The outcome of an activity together with its reports in order. -/
structure Journaled (ε α : Type) where
  /-- The reports, first to last. -/
  journal : List Report
  /-- What came of the activity. -/
  outcome : Except ε α

namespace Journaled

variable {ε ε' α β : Type}

/-- Reports nothing. -/
def ofExcept (outcome : Except ε α) : Journaled ε α := ⟨[], outcome⟩

/-- Makes one report. -/
def report (weight : Weight) (message : Text) : Journaled ε Unit := ⟨[⟨weight, message⟩], .ok ()⟩

/-- Goes on with what came of the first activity, if it did not fail. -/
def bind (x : Journaled ε α) (f : α → Journaled ε β) : Journaled ε β :=
  match x.outcome with
  | .error e => ⟨x.journal, .error e⟩
  | .ok a => ⟨x.journal ++ (f a).journal, (f a).outcome⟩

instance : Monad (Journaled ε) where
  pure a := ofExcept (.ok a)
  bind := bind

/-- Says of a failure what it means for a larger activity. -/
def mapError (f : ε → ε') (x : Journaled ε α) : Journaled ε' α := ⟨x.journal, x.outcome.mapError f⟩

@[simp] theorem outcome_ofExcept (x : Except ε α) : (ofExcept x).outcome = x := rfl

@[simp] theorem outcome_report (w : Weight) (m : Text) :
    (report w m : Journaled ε Unit).outcome = .ok () := rfl

@[simp] theorem outcome_pure (a : α) : (pure a : Journaled ε α).outcome = .ok a := rfl

@[simp] theorem outcome_mapError (f : ε → ε') (x : Journaled ε α) :
    (x.mapError f).outcome = x.outcome.mapError f := rfl

/-- What comes of two activities in turn does not depend on the reports. -/
@[simp] theorem outcome_bind (x : Journaled ε α) (f : α → Journaled ε β) :
    (x >>= f).outcome = x.outcome >>= fun a => (f a).outcome := by
  show (bind x f).outcome = _
  unfold bind
  cases x.outcome <;> rfl

end Journaled

end ZoneKeeper
