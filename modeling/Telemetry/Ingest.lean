import Telemetry.Store

/-!
# Applying updates

An update is validated before a store sees it.  A batch is validated as a whole and then
applied element by element; a policy says what becomes of the rest when one element cannot be
stored.
-/

namespace Telemetry

/-- What becomes of a batch when an element cannot be stored. -/
inductive BatchPolicy
  /-- The rest is applied. -/
  | continue
  /-- The rest is left out. -/
  | abort
  deriving DecidableEq

def BatchPolicy.word : BatchPolicy → String
  | .continue => "continue"
  | .abort => "abort"

namespace Ingest

/-- Why an update or a batch could not be applied. -/
inductive Error
  | invalid (reason : Invalid)
  | storage (fault : Store.Fault)
  /-- Some elements of a batch could not be stored. -/
  | batch (failed applied : Nat) (first : Store.Fault)
  | unexpected (failure : Failure)
  deriving DecidableEq

def Error.message : Error → String
  | invalid reason => reason.message
  | storage fault => fault.message
  | batch failed applied first =>
      toString failed ++ " batch element(s) failed to persist, " ++ toString applied
        ++ " applied: " ++ first.message
  | unexpected failure => failure.message

/-- The error of a store as one of an update. -/
def Error.ofStore : Store.Error → Error
  | .overflow name => invalid (.overflow name)
  | .storage fault => storage fault
  | .unexpected failure => unexpected failure

abbrev Doing (α : Type) : Type := Dialogue Store.Call Store.Call.Answer α

def ask (call : Store.Call) : Doing (Outcome Error call.Result) := do
  let outcome ← (Dialogue.say call : Doing call.Answer)
  pure (outcome.mapFailure Error.ofStore)

/-- Update a store by a reading: a gauge is overwritten, and a counter grows. -/
def update : Reading → Doing (Outcome Error Unit)
  | .gauge name value => ask (.updateGauge name value)
  | .counter name amount => ask (.updateCounter name amount)

/-- The state of a metric, if it has one. -/
def read (name : String) : Option Kind → Doing (Outcome Error (Option Reading))
  | some .gauge =>
      (ask (.getGauge name)).andThen fun (value : Option Double) =>
        pure (.value (value.map (.gauge name)))
  | some .counter =>
      (ask (.getCounter name)).andThen fun (amount : Option Int) =>
        pure (.value (amount.map (.counter name)))
  | none => pure (.failure (.invalid (.unknownKind name)))

/-- The state of a metric after an update: a gauge has the value given, and a counter has its
sum. -/
def stateAfter : Reading → Doing (Outcome Error Reading)
  | .gauge name value => pure (.value (.gauge name value))
  | .counter name amount =>
      (ask (.getCounter name)).andThen fun (sum : Option Int) =>
        pure (.value (.counter name (sum.getD amount)))

/-- Validate an update, apply it, and give the state after it. -/
def apply (m : Metric) : Doing (Outcome Error Reading) :=
  match m.reading with
  | .error reason => pure (.failure (.invalid reason))
  | .ok reading => (update reading).andThen fun _ => stateAfter reading

/-- How far a batch has come. -/
structure Progress where
  applied : Nat := 0
  failed : Nat := 0
  first : Option Store.Fault := none

def Progress.success (p : Progress) : Progress := { p with applied := p.applied + 1 }

def Progress.failure (p : Progress) (fault : Store.Fault) : Progress :=
  { p with failed := p.failed + 1, first := some (p.first.getD fault) }

/-- Apply readings one after the other, under a policy. -/
def updateAll (policy : BatchPolicy) : List Reading → Progress → Doing (Outcome Error Progress)
  | [], p => pure (.value p)
  | reading :: later, p => do
      match ← update reading with
      | .value () => updateAll policy later p.success
      | .failure (.storage fault) =>
          match policy with
          | .continue => updateAll policy later (p.failure fault)
          | .abort => pure (.value (p.failure fault))
      | .failure e => pure (.failure e)
      | .cancelled => pure .cancelled

/-- Validate a batch and apply it under a policy.  The answer is the batch itself. -/
def applyBatch (policy : BatchPolicy) (batch : List Metric) : Doing (Outcome Error (List Metric)) :=
  match Metric.readings batch with
  | .error reason => pure (.failure (.invalid reason))
  | .ok readings =>
      (updateAll policy readings {}).andThen fun p =>
      match p.first with
      | none => pure (.value batch)
      | some first => pure (.failure (.batch p.failed p.applied first))

end Ingest
end Telemetry
