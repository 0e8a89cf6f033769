import ScaleMetrics.Telemetry

/-!
# Telemetry — Trail

Computations that leave steps behind and end in a value or an error.  The outcome of a sequence
is the sequence of the outcomes (`outcome_bind`), so what a computation returns can be told
without its steps.  The steps of a sequence are those of its parts as far as it gets
(`bind_of_ok`, `bind_of_error`).
-/

namespace ScaleMetrics

/-- Steps, and what they led to. -/
structure Trail (α : Type) where
  steps : List Step
  outcome : Except GatherError α

namespace Trail

variable {α β : Type}

/-- One computation after another; nothing follows an error. -/
def andThen (x : Trail α) (f : α → Trail β) : Trail β :=
  match x.outcome with
  | .ok a => ⟨x.steps ++ (f a).steps, (f a).outcome⟩
  | .error e => ⟨x.steps, .error e⟩

instance : Monad Trail where
  pure a := ⟨[], .ok a⟩
  bind := andThen

/-- A step, and nothing else. -/
def note (step : Step) : Trail Unit :=
  ⟨[step], .ok ()⟩

/-- An event for the log. -/
def log (event : Event) : Trail Unit :=
  note (.logged event)

/-- An outcome without steps. -/
def ofExcept (outcome : Except GatherError α) : Trail α :=
  ⟨[], outcome⟩

/-- An error. -/
def fail (e : GatherError) : Trail α :=
  ofExcept (.error e)

/-- The error of a computation, in the context of an operation. -/
def within (context : String) (x : Trail α) : Trail α :=
  ⟨x.steps, x.outcome.mapError (.within context)⟩

/-- A question put to the cluster; a failure is reported in its context. -/
def ask (call : Call) (context : String) (answer : Except String α) : Trail α :=
  ⟨[.called call], answer.mapError (.fetch context)⟩

@[simp] theorem outcome_pure (a : α) : (pure a : Trail α).outcome = .ok a := rfl

@[simp] theorem outcome_note (step : Step) : (note step).outcome = .ok () := rfl

@[simp] theorem outcome_log (event : Event) : (log event).outcome = .ok () := rfl

@[simp] theorem outcome_ofExcept (outcome : Except GatherError α) :
    (ofExcept outcome).outcome = outcome := rfl

@[simp] theorem outcome_fail (e : GatherError) : (fail e : Trail α).outcome = .error e := rfl

@[simp] theorem outcome_within (context : String) (x : Trail α) :
    (x.within context).outcome = x.outcome.mapError (.within context) := rfl

@[simp] theorem outcome_ask (call : Call) (context : String) (answer : Except String α) :
    (ask call context answer).outcome = answer.mapError (.fetch context) := rfl

theorem outcome_ask_of_ok {answer : Except String α} {a : α} (h : answer = .ok a) (call : Call)
    (context : String) : (ask call context answer).outcome = .ok a := by
  rw [outcome_ask, h]
  rfl

@[simp] theorem outcome_bind (x : Trail α) (f : α → Trail β) :
    (x >>= f).outcome = x.outcome >>= fun a => (f a).outcome := by
  change (andThen x f).outcome = _
  unfold andThen
  cases x.outcome <;> rfl

theorem bind_of_ok {x : Trail α} {a : α} (h : x.outcome = .ok a) (f : α → Trail β) :
    x >>= f = ⟨x.steps ++ (f a).steps, (f a).outcome⟩ := by
  change andThen x f = _
  rw [andThen, h]

theorem bind_of_error {x : Trail α} {e : GatherError} (h : x.outcome = .error e)
    (f : α → Trail β) : x >>= f = ⟨x.steps, .error e⟩ := by
  change andThen x f = _
  rw [andThen, h]

end Trail

end ScaleMetrics
