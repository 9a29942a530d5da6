/-
# Runs

A run is a computation together with what can be observed of it beside its
result: the events it logged, in order, those of its machine steps that
overflowed, and the values it went on with.  Runs compose: the second run may
use the result of the first, and what is observed of it follows what was
observed of the first.
-/

import Calculator.Event
import Calculator.Machine

namespace Calculator

/-- The result of a computation, what it logged, which steps overflowed and which values it held. -/
structure Run (α : Type) where
  /-- What the computation gives. -/
  result : α
  /-- The events, in the order they were logged. -/
  events : List Event
  /-- The machine steps that do not fit, in the order they were taken. -/
  overflows : List MachineStep
  /-- The values held on the way, placeholders included, in the order they were found. -/
  values : List Int
deriving DecidableEq

namespace Run

variable {α β : Type}

instance : Monad Run where
  pure result := ⟨result, [], [], []⟩
  bind first next :=
    let second := next first.result
    ⟨second.result, first.events ++ second.events, first.overflows ++ second.overflows,
      first.values ++ second.values⟩

instance : LawfulMonad Run :=
  .mk' Run (fun run => by cases run; simp [Functor.map]) (fun _ _ => rfl)
    (fun first next last => by simp [bind])

/-- A run that logs one event. -/
def report (event : Event) : Run Unit := ⟨(), [event], [], []⟩

/-- A run that takes one machine step. -/
def perform (step : MachineStep) : Run Int :=
  ⟨step.exact, [], if step.Fits then [] else [step], []⟩

/-- A run that holds a value: one that an outcome is given, or a literal that is being read. -/
def hold (value : Int) : Run Int := ⟨value, [], [], [value]⟩

@[simp] theorem result_pure (a : α) : (pure a : Run α).result = a := rfl

@[simp] theorem events_pure (a : α) : (pure a : Run α).events = [] := rfl

@[simp] theorem overflows_pure (a : α) : (pure a : Run α).overflows = [] := rfl

@[simp] theorem values_pure (a : α) : (pure a : Run α).values = [] := rfl

@[simp] theorem result_bind (first : Run α) (next : α → Run β) :
    (first >>= next).result = (next first.result).result := rfl

@[simp] theorem events_bind (first : Run α) (next : α → Run β) :
    (first >>= next).events = first.events ++ (next first.result).events := rfl

@[simp] theorem overflows_bind (first : Run α) (next : α → Run β) :
    (first >>= next).overflows = first.overflows ++ (next first.result).overflows := rfl

@[simp] theorem values_bind (first : Run α) (next : α → Run β) :
    (first >>= next).values = first.values ++ (next first.result).values := rfl

@[simp] theorem result_map (f : α → β) (run : Run α) : (f <$> run).result = f run.result := rfl

@[simp] theorem events_map (f : α → β) (run : Run α) : (f <$> run).events = run.events :=
  List.append_nil _

@[simp] theorem overflows_map (f : α → β) (run : Run α) :
    (f <$> run).overflows = run.overflows := List.append_nil _

@[simp] theorem values_map (f : α → β) (run : Run α) : (f <$> run).values = run.values :=
  List.append_nil _

@[simp] theorem result_report (event : Event) : (report event).result = () := rfl

@[simp] theorem events_report (event : Event) : (report event).events = [event] := rfl

@[simp] theorem overflows_report (event : Event) : (report event).overflows = [] := rfl

@[simp] theorem values_report (event : Event) : (report event).values = [] := rfl

@[simp] theorem result_perform (step : MachineStep) : (perform step).result = step.exact := rfl

@[simp] theorem events_perform (step : MachineStep) : (perform step).events = [] := rfl

@[simp] theorem values_perform (step : MachineStep) : (perform step).values = [] := rfl

/-- A run hands on its result and nothing else. -/
theorem bind_congr {first : Run α} {next next' : α → Run β}
    (h : next first.result = next' first.result) : first >>= next = first >>= next' := by
  show Run.mk _ _ _ _ = Run.mk _ _ _ _
  rw [h]

/-- **A step overflows exactly when it does not fit.** -/
@[simp] theorem overflows_perform_eq_nil_iff {step : MachineStep} :
    (perform step).overflows = [] ↔ step.Fits := by
  simp [perform]

theorem perform_eq_pure {step : MachineStep} (h : step.Fits) : perform step = pure step.exact := by
  rw [perform, if_pos h]
  rfl

@[simp] theorem result_hold (value : Int) : (hold value).result = value := rfl

@[simp] theorem events_hold (value : Int) : (hold value).events = [] := rfl

@[simp] theorem overflows_hold (value : Int) : (hold value).overflows = [] := rfl

@[simp] theorem values_hold (value : Int) : (hold value).values = [value] := rfl

end Run
end Calculator
