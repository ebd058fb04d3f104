import FirmwareCapsule.Fault
import FirmwareCapsule.Log

namespace FirmwareCapsule

/-! Operations that may be refused and that leave a trace. The trace is a list
of events, in the order in which they happened; a refused operation keeps the
trace up to its refusal. Decoders and encoders leave log records; signing also
leaves the requests to the signer and the processes that it started. -/

structure Traced (event fault α : Type) where
  events : List event
  outcome : Except fault α

namespace Traced

variable {event otherEvent fault otherFault α β : Type}

def andThen (operation : Traced event fault α) (next : α → Traced event fault β) :
    Traced event fault β :=
  match operation.outcome with
  | .ok value =>
      let rest := next value
      ⟨operation.events ++ rest.events, rest.outcome⟩
  | .error reason => ⟨operation.events, .error reason⟩

instance : Monad (Traced event fault) where
  pure value := ⟨[], .ok value⟩
  bind := andThen

def emit (happened : event) : Traced event fault Unit :=
  ⟨[happened], .ok ()⟩

def refuse (reason : fault) : Traced event fault α :=
  ⟨[], .error reason⟩

def ofExcept (outcome : Except fault α) : Traced event fault α :=
  ⟨[], outcome⟩

def require (reason : fault) : Option α → Traced event fault α
  | some value => pure value
  | none => refuse reason

def mapEvents (wrap : event → otherEvent) (operation : Traced event fault α) :
    Traced otherEvent fault α :=
  ⟨operation.events.map wrap, operation.outcome⟩

/-- Go on from a refusal. What had happened before it stays in the trace. -/
def recover (operation : Traced event fault α)
    (handle : fault → Traced event otherFault α) : Traced event otherFault α :=
  match operation.outcome with
  | .ok value => ⟨operation.events, .ok value⟩
  | .error reason =>
      let rest := handle reason
      ⟨operation.events ++ rest.events, rest.outcome⟩

/-! ## Equations -/

instance : LawfulMonad (Traced event fault) :=
  LawfulMonad.mk' _
    (fun operation => by
      show andThen operation _ = operation
      obtain ⟨events, outcome⟩ := operation
      cases outcome <;> simp [andThen])
    (fun value next => by
      show andThen (pure value) next = next value
      simp [andThen, pure])
    (fun operation next last => by
      show andThen (andThen operation next) last =
        andThen operation fun value => andThen (next value) last
      obtain ⟨events, outcome⟩ := operation
      cases outcome with
      | error reason => simp [andThen]
      | ok value =>
          cases rest : (next value).outcome <;> simp [andThen, rest])

@[simp] theorem events_pure (value : α) :
    (pure value : Traced event fault α).events = [] := rfl

@[simp] theorem outcome_pure (value : α) :
    (pure value : Traced event fault α).outcome = .ok value := rfl

@[simp] theorem outcome_refuse (reason : fault) :
    (refuse reason : Traced event fault α).outcome = .error reason := rfl

@[simp] theorem outcome_ofExcept (outcome : Except fault α) :
    (ofExcept outcome : Traced event fault α).outcome = outcome := rfl

@[simp] theorem ofExcept_ok (value : α) :
    (ofExcept (.ok value) : Traced event fault α) = pure value := rfl

@[simp] theorem require_some (reason : fault) (value : α) :
    (require reason (some value) : Traced event fault α) = pure value := rfl

@[simp] theorem require_none (reason : fault) :
    (require reason none : Traced event fault α) = refuse reason := rfl

theorem outcome_require_eq_ok_iff {reason : fault} {found : Option α} {value : α} :
    (require reason found : Traced event fault α).outcome = .ok value ↔ found = some value := by
  cases found with
  | none => simp
  | some present => simp

theorem outcome_bind (operation : Traced event fault α) (next : α → Traced event fault β) :
    (operation >>= next).outcome = operation.outcome.bind fun value => (next value).outcome := by
  show (andThen operation next).outcome = _
  unfold andThen
  cases operation.outcome <;> rfl

theorem outcome_bind_of_ok {operation : Traced event fault α} {value : α}
    (done : operation.outcome = .ok value) (next : α → Traced event fault β) :
    (operation >>= next).outcome = (next value).outcome := by
  rw [outcome_bind, done]
  rfl

theorem outcome_bind_of_error {operation : Traced event fault α} {reason : fault}
    (refused : operation.outcome = .error reason) (next : α → Traced event fault β) :
    (operation >>= next).outcome = .error reason := by
  rw [outcome_bind, refused]
  rfl

theorem outcome_bind_eq_ok_iff {operation : Traced event fault α}
    {next : α → Traced event fault β} {result : β} :
    (operation >>= next).outcome = .ok result ↔
      ∃ value, operation.outcome = .ok value ∧ (next value).outcome = .ok result := by
  rw [outcome_bind]
  cases operation.outcome with
  | error reason => simp [Except.bind]
  | ok value => simp [Except.bind]

theorem outcome_bind_eq_error_iff {operation : Traced event fault α}
    {next : α → Traced event fault β} {reason : fault} :
    (operation >>= next).outcome = .error reason ↔
      operation.outcome = .error reason ∨
        ∃ value, operation.outcome = .ok value ∧ (next value).outcome = .error reason := by
  rw [outcome_bind]
  cases operation.outcome with
  | error first => simp [Except.bind]
  | ok value => simp [Except.bind]

theorem events_bind_of_ok {operation : Traced event fault α} {value : α}
    (done : operation.outcome = .ok value) (next : α → Traced event fault β) :
    (operation >>= next).events = operation.events ++ (next value).events := by
  show (andThen operation next).events = _
  simp [andThen, done]

theorem events_bind_of_error {operation : Traced event fault α} {reason : fault}
    (refused : operation.outcome = .error reason) (next : α → Traced event fault β) :
    (operation >>= next).events = operation.events := by
  show (andThen operation next).events = _
  simp [andThen, refused]

theorem outcome_mapM_eq_ok_iff {step : α → Traced event fault β} {values : List α}
    {results : List β} :
    (values.mapM step).outcome = .ok results ↔
      values.map (fun value => (step value).outcome) = results.map .ok := by
  induction values generalizing results with
  | nil =>
      cases results with
      | nil => simp
      | cons result results => simp
  | cons value values induction =>
      rw [List.mapM_cons, outcome_bind_eq_ok_iff]
      simp only [outcome_bind_eq_ok_iff, induction, outcome_pure]
      constructor
      · intro done
        rcases done with ⟨first, firstDone, rest, restDone, equal⟩
        cases equal
        rw [List.map_cons, List.map_cons, firstDone, restDone]
      · intro done
        cases results with
        | nil => simp at done
        | cons result results =>
            rw [List.map_cons, List.map_cons] at done
            exact ⟨result, (List.cons.inj done).1, results, (List.cons.inj done).2, rfl⟩

theorem outcome_mapM_concat_of_error {step : α → Traced event fault β} {values : List α}
    {results : List β} {last : α} {reason : fault}
    (done : values.map (fun value => (step value).outcome) = results.map .ok)
    (refused : (step last).outcome = .error reason) :
    ((values ++ [last]).mapM step).outcome = .error reason := by
  have lastRefused : ([last].mapM step).outcome = .error reason := by
    rw [List.mapM_cons]
    exact outcome_bind_of_error refused _
  rw [List.mapM_append, outcome_bind_of_ok (outcome_mapM_eq_ok_iff.mpr done)]
  exact outcome_bind_of_error lastRefused _

/-- Recovering by a refusal changes which refusal it is, and nothing else. -/
theorem outcome_recover_eq_ok_iff {operation : Traced event fault α}
    {handle : fault → Traced event otherFault α}
    (refuses : ∀ reason, ∃ other, (handle reason).outcome = .error other) {value : α} :
    (operation.recover handle).outcome = .ok value ↔ operation.outcome = .ok value := by
  unfold recover
  cases operation.outcome with
  | ok found => simp
  | error reason =>
      rcases refuses reason with ⟨other, refused⟩
      simp [refused]

theorem eq_of_outcome_recover {operation : Traced event fault α}
    {handle : fault → Traced event otherFault α} {reason other : otherFault}
    (refuses : ∀ first, (handle first).outcome = .error reason)
    (refused : (operation.recover handle).outcome = .error other) : other = reason := by
  unfold recover at refused
  cases failed : operation.outcome with
  | ok found =>
      rw [failed] at refused
      cases refused
  | error first =>
      rw [failed] at refused
      change (handle first).outcome = .error other at refused
      rw [refuses] at refused
      exact (Except.error.inj refused).symm

@[simp] theorem outcome_mapEvents (wrap : event → otherEvent)
    (operation : Traced event fault α) :
    (operation.mapEvents wrap).outcome = operation.outcome := rfl

end Traced

/-! ## Operations that only log -/

abbrev Logged (α : Type) := Traced Log.Record Fault α

namespace Logged

def debug (source : Log.Source) (text : String) : Logged Unit :=
  .emit ⟨.debug, source, text⟩

def warn (source : Log.Source) (text : String) : Logged Unit :=
  .emit ⟨.warn, source, text⟩

def info (source : Log.Source) (text : String) : Logged Unit :=
  .emit ⟨.info, source, text⟩

def reject {α : Type} (source : Log.Source) (text : String) (fault : Fault) : Logged α :=
  ⟨[⟨.error, source, text⟩], .error fault⟩

@[simp] theorem outcome_reject {α : Type} (source : Log.Source) (text : String) (fault : Fault) :
    (reject source text fault : Logged α).outcome = .error fault := rfl

@[simp] theorem outcome_debug_bind {α : Type} (source : Log.Source) (text : String)
    (next : Unit → Logged α) : (debug source text >>= next).outcome = (next ()).outcome :=
  Traced.outcome_bind_of_ok rfl next

@[simp] theorem outcome_warn_bind {α : Type} (source : Log.Source) (text : String)
    (next : Unit → Logged α) : (warn source text >>= next).outcome = (next ()).outcome :=
  Traced.outcome_bind_of_ok rfl next

end Logged

end FirmwareCapsule
