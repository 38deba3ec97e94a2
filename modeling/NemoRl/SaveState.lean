import NemoRl.Validate

/-!
# The progress record and its stale validation metrics

`DPOSaveState` is a typed dictionary with five declared fields – epoch, step
within the epoch, total steps, consumed samples and total valid tokens – to
which `dpo_train` adds, at every checkpoint, the flattened metrics of that
step's validation. Before adding them it walks every key of the record and
deletes each one that looks like a validation metric of another step: a key
that starts with `val`, ends in `_<m>` for a metric name `m` other than
`num_valid_samples`, and that the fresh metrics do not refresh.

The record here keeps the declared fields typed and the added keys in a
`PyDict`. The walk visits the declared fields too, and deletes none of them:
no field name starts with `val` (`isOutdated_fieldName`), so filtering the added
keys is the whole of it. What the walk and the update leave is one law
(`mergeValMetrics_get?`): a validation-metric key reads what the fresh metrics
hold for it, and every other key reads the fresh value if there is one and its
old value otherwise. A `*_num_valid_samples` key is never a validation-metric
key (`isValMetricKey_of_num_valid_samples`), so a sample count survives until a
validation of its dataset replaces it.
-/

namespace NemoRl

/-- **`DPOSaveState`**: the declared fields, and the keys validation adds. -/
structure DPOSaveState where
  /-- The epoch of the step that wrote the record. -/
  epoch : Nat
  /-- The step within the epoch to resume at, modulo the epoch length. -/
  step : Nat
  totalSteps : Nat
  consumedSamples : Nat
  /-- Absent in checkpoints written before it was tracked. -/
  totalValidTokens : Option ℚ
  /-- Every key beyond the declared ones. -/
  metrics : PyDict ℚ

namespace DPOSaveState

/-- `_default_dpo_save_state()`. -/
def default : DPOSaveState := ⟨0, 0, 0, 0, some 0, PyDict.empty⟩

/-- The keys of the declared fields. -/
def fieldNames : List String :=
  ["epoch", "step", "total_steps", "consumed_samples", "total_valid_tokens"]

/-- `key in dpo_save_state`. -/
def contains (s : DPOSaveState) (key : String) : Bool :=
  ["epoch", "step", "total_steps", "consumed_samples"].contains key ||
    (key == "total_valid_tokens" && s.totalValidTokens.isSome) || (s.metrics.get? key).isSome

end DPOSaveState

/-- **A validation-metric key**: `key.startswith("val")` and `key.endswith(f"_{m}")`
for some metric name `m` other than `num_valid_samples`. -/
def isValMetricKey (key : String) : Bool :=
  startswith key "val" &&
    (DPOValMetric.all.filter (· != .numValidSamples)).any (fun m => endswith key ("_" ++ m.name))

/-- The deletion test of the walk: a validation-metric key that `val_metrics`
(absent when the step did not validate) does not hold. -/
def isOutdated (valMetrics : Option (PyDict ℚ)) (key : String) : Bool :=
  isValMetricKey key && (valMetrics.map (fun vm => (vm.get? key).isNone)).getD true

/-- **Merging a step's metrics into the record**: delete the outdated validation
metrics, then `dpo_save_state.update(val_metrics)` if the step validated. -/
def mergeValMetrics (valMetrics : Option (PyDict ℚ)) (s : DPOSaveState) : DPOSaveState :=
  let kept := s.metrics.filter (fun key => !isOutdated valMetrics key)
  { s with metrics := kept.update (valMetrics.getD .empty) }

/-- The best-of-N warning, when the selection key is not in the record. -/
def topKWarning (metricName : Option String) (s : DPOSaveState) : Option String :=
  match metricName with
  | some name =>
    if s.contains name then none
    else some (s!"You asked to save checkpoints based on {name} but the metric is not found " ++
      "in the save state. This checkpoint will not be saved as top-k.")
  | none => none

/-! ## What the merge leaves -/

/-- No declared field is ever deleted by the walk. -/
theorem isOutdated_fieldName (valMetrics : Option (PyDict ℚ)) :
    ∀ key ∈ DPOSaveState.fieldNames, isOutdated valMetrics key = false := by
  simp only [DPOSaveState.fieldNames, List.mem_cons, List.mem_singleton, List.not_mem_nil,
    or_false, forall_eq_or_imp, forall_eq, isOutdated, Bool.and_eq_false_imp]
  refine ⟨?_, ?_, ?_, ?_, ?_⟩ <;> intro h <;> exact absurd h (by decide)

/-- A sample-count key is never a validation-metric key: `_num_valid_samples`
and `_<m>` for another metric are not suffixes of one another. -/
theorem isValMetricKey_of_num_valid_samples {key : String}
    (h : endswith key "_num_valid_samples" = true) : isValMetricKey key = false := by
  simp only [isValMetricKey, Bool.and_eq_false_imp, List.any_eq_false]
  intro _ m hm hend
  rcases endswith_of_endswith h hend with h' | h' <;> revert h' <;>
    cases m <;> simp_all [DPOValMetric.all] <;> decide

/-- A validation-metric key is in the record exactly when its metrics hold it. -/
theorem contains_of_isValMetricKey {key : String} (h : isValMetricKey key = true)
    (s : DPOSaveState) : s.contains key = (s.metrics.get? key).isSome := by
  have hfield : key ∉ DPOSaveState.fieldNames := fun hmem => by
    simpa [isOutdated, h] using isOutdated_fieldName none key hmem
  simp only [DPOSaveState.fieldNames, List.mem_cons, List.mem_singleton, List.not_mem_nil,
    or_false, not_or] at hfield
  simp [DPOSaveState.contains, hfield]

/-- **The merge law.** A validation-metric key reads what the step's metrics
hold for it – nothing when the step did not validate – and any other key reads
the step's value if there is one and its old value otherwise. -/
theorem mergeValMetrics_get? (valMetrics : Option (PyDict ℚ)) (s : DPOSaveState) (key : String) :
    (mergeValMetrics valMetrics s).metrics.get? key =
      if isValMetricKey key then (valMetrics.getD .empty).get? key
      else ((valMetrics.getD .empty).get? key).or (s.metrics.get? key) := by
  cases valMetrics with
  | none => by_cases h : isValMetricKey key <;> simp [mergeValMetrics, isOutdated, h]
  | some vm =>
    by_cases h : isValMetricKey key <;> cases hv : vm.get? key <;>
      simp [mergeValMetrics, isOutdated, h, hv]

@[simp] theorem mergeValMetrics_epoch (v : Option (PyDict ℚ)) (s : DPOSaveState) :
    (mergeValMetrics v s).epoch = s.epoch := rfl
@[simp] theorem mergeValMetrics_step (v : Option (PyDict ℚ)) (s : DPOSaveState) :
    (mergeValMetrics v s).step = s.step := rfl
@[simp] theorem mergeValMetrics_totalSteps (v : Option (PyDict ℚ)) (s : DPOSaveState) :
    (mergeValMetrics v s).totalSteps = s.totalSteps := rfl
@[simp] theorem mergeValMetrics_consumedSamples (v : Option (PyDict ℚ)) (s : DPOSaveState) :
    (mergeValMetrics v s).consumedSamples = s.consumedSamples := rfl
@[simp] theorem mergeValMetrics_totalValidTokens (v : Option (PyDict ℚ)) (s : DPOSaveState) :
    (mergeValMetrics v s).totalValidTokens = s.totalValidTokens := rfl

end NemoRl
