import Mathlib.Tactic.NormNum.Basic
import Mathlib.Tactic.NormNum.Inv
import NemoRl.RefLogprobs

/-!
# Validation: sample-weighted means over held-out sets

`validate_one_dataset` pulls batches from the validation generator, runs the
policy forward on each, and reduces every batch's per-micro-batch metrics: by
`np.mean` for the two pre-aggregated denominators `global_valid_seqs` and
`global_valid_toks`, by `sum` for the rest. A batch that reports no
micro-batch metrics is skipped with a warning. After at most `val_batches`
batches it weights the six loss and reward metrics by each batch's sample
count, sums the counts and the denominators, and, when no batch reported
metrics at all, returns zeros with a warning.

The guard on that last case counts *batches with metrics*, not samples. A batch
can report metrics with `num_valid_samples = 0` – every micro-batch masked – and
then the weighted means divide the float sum by a zero sample total, which
Python refuses (`reduceValidation_raises_of_zero_samples`).

`validate` runs this per dataset and flattens the results into one dictionary
under keys `validation-<dataset>_<metric>`. The flattening is not injective,
but its collisions are few and known (`valMetricKey_eq_iff`): reading a key
back, the dataset name can only be cut short where a metric name has an
underscore, and only `sft_loss` and `preference_loss` end in another metric
name after one. So `"a"` with `sft_loss` and `"a_sft"` with `loss` share a key,
and the later dataset's value replaces the earlier one; when no dataset name is
another followed by `_sft` or `_preference`, no two pairs collide and every
metric survives (`validate_keeps_every_metric`).
-/

namespace NemoRl

/-- The warning for a batch that reports no micro-batch metrics. -/
def noBatchMetricsWarning : String :=
  "No validation metrics were collected for this batch. " ++
    "This is likely because there were no valid samples."

/-- The warning for a pass where no batch reported metrics. -/
def noMetricsWarning : String :=
  "No validation metrics were collected. " ++
    "This is likely because there were no valid samples in the validation set."

/-- The message of Python's float `/` by zero. -/
def floatDivisionByZero : String := "ZeroDivisionError: float division by zero"

/-- `a / b` on Python floats: raises on a zero divisor. -/
def pyDiv (a b : ℚ) : Except String ℚ := if b = 0 then .error floatDivisionByZero else .ok (a / b)

/-! ## One batch -/

/-- The reduction of a metric over a batch's micro-batches: `np.mean` for
`global_valid_seqs` and `global_valid_toks`, `sum` for every other name. -/
def reduceBatchMetric (m : DPOValMetric) (xs : List ℚ) : ℚ :=
  if m = .globalValidSeqs ∨ m = .globalValidToks then mean xs else xs.sum

/-- One batch's micro-batch metrics, reduced. -/
def reduceBatch (mbMetrics : List DPOValMetrics) : DPOValMetrics :=
  fun m => reduceBatchMetric m (mbMetrics.map (· m))

/-- **The loop's state**: `val_metrics`, a `defaultdict(list)` kept here as one
reduced record per batch that reported metrics; `num_valid_batches`; and the
warnings issued so far. -/
structure ValAcc where
  valMetrics : List DPOValMetrics
  numValidBatches : Nat
  warnings : List String

namespace ValAcc

/-- Nothing seen yet. -/
def init : ValAcc := ⟨[], 0, []⟩

/-- The loop body on one batch's results: skip it with a warning, or record its
reduced metrics. -/
def add (acc : ValAcc) (valResults : TrainResults) : ValAcc :=
  if valResults.allMbMetrics.length = 0 then
    { acc with warnings := acc.warnings ++ [noBatchMetricsWarning] }
  else
    { acc with
      valMetrics := acc.valMetrics ++ [reduceBatch valResults.allMbMetrics]
      numValidBatches := acc.numValidBatches + 1 }

end ValAcc

/-- **The `for batch_idx, val_batch in enumerate(...)` loop**, over the results
of each batch as it is pulled and evaluated (pulling may raise): it stops when
the stream ends, or after the batch of index `val_batches - 1`. -/
def validationLoop (valBatches : Nat) :
    Nat → List (Except String TrainResults) → ValAcc → Except String ValAcc
  | _, [], acc => .ok acc
  | batchIdx, r :: rs, acc =>
    match r with
    | .error e => .error e
    | .ok valResults =>
      let acc := acc.add valResults
      if 0 < valBatches ∧ valBatches - 1 ≤ batchIdx then .ok acc
      else validationLoop valBatches (batchIdx + 1) rs acc

/-- The sum over the recorded batches of one metric. -/
def ValAcc.total (acc : ValAcc) (m : DPOValMetric) : ℚ := (acc.valMetrics.map (· m)).sum

/-- `sum(value * weight for value, weight in zip(val_metrics[m], val_metrics["num_valid_samples"]))`. -/
def ValAcc.weightedTotal (acc : ValAcc) (m : DPOValMetric) : ℚ :=
  (acc.valMetrics.map (fun v => v m * v .numValidSamples)).sum

/-- **After the loop**: sample-weighted means of the six loss and reward
metrics, sums of the three counts; zeros with a warning when no batch reported
metrics. The six divisions are made in declaration order. -/
def finishValidation (acc : ValAcc) : Except String (DPOValMetrics × List String) :=
  if 0 < acc.numValidBatches then do
    let sumNumValidSamples := acc.total .numValidSamples
    let weighted := fun m => pyDiv (acc.weightedTotal m) sumNumValidSamples
    let loss ← weighted .loss
    let sftLoss ← weighted .sftLoss
    let preferenceLoss ← weighted .preferenceLoss
    let accuracy ← weighted .accuracy
    let rewardsChosenMean ← weighted .rewardsChosenMean
    let rewardsRejectedMean ← weighted .rewardsRejectedMean
    pure (fun
      | .loss => loss
      | .sftLoss => sftLoss
      | .preferenceLoss => preferenceLoss
      | .accuracy => accuracy
      | .rewardsChosenMean => rewardsChosenMean
      | .rewardsRejectedMean => rewardsRejectedMean
      | .numValidSamples => sumNumValidSamples
      | .globalValidSeqs => acc.total .globalValidSeqs
      | .globalValidToks => acc.total .globalValidToks, acc.warnings)
  else .ok (fun _ => 0, acc.warnings ++ [noMetricsWarning])

/-- The loop and the aggregation of `validate_one_dataset`, over the results of
the batches as they are pulled. -/
def reduceValidation (valBatches : Nat) (results : List (Except String TrainResults)) :
    Except String (DPOValMetrics × List String) := do
  let acc ← validationLoop valBatches 0 results .init
  finishValidation acc

section Validate

variable (policy : Policy) (maybePadLastBatch : BatchedDataDict → Nat → Nat → BatchedDataDict)
  (masterConfig : MasterConfig)

/-- **`validate_one_dataset`** at step `step` on the batches of one validation
data loader: the metrics and the warnings issued. -/
def validateOneDataset (step : Nat) (valDataloader : List BatchedDataDict) :
    Except String (DPOValMetrics × List String) :=
  reduceValidation masterConfig.dpo.valBatches
    (valDataloader.map (fun b => (refBatch policy maybePadLastBatch masterConfig true b).map
      (policy.eval step)))

/-- The key a dataset's metric is flattened under: `f"validation-{name}_{metric}"`. -/
def valMetricKey (valDatasetName : String) (m : DPOValMetric) : String :=
  "validation-" ++ valDatasetName ++ "_" ++ m.name

/-- `val_metrics[f"{prefix}_{metric_name}"] = k_val_metrics[metric_name]` for
every metric name, in order. -/
def flattenMetrics (valMetrics : PyDict ℚ) (valDatasetName : String)
    (kValMetrics : DPOValMetrics) : PyDict ℚ :=
  DPOValMetric.all.foldl
    (fun d m => d.set (valMetricKey valDatasetName m) (kValMetrics m)) valMetrics

/-- The body of `validate`'s loop on one `(val_dataset_name, v)` entry. -/
def validateDataset (step : Nat) (valMetrics : PyDict ℚ)
    (entry : String × List BatchedDataDict) : Except String (PyDict ℚ) := do
  let res ← validateOneDataset policy maybePadLastBatch masterConfig step entry.2
  pure (flattenMetrics valMetrics entry.1 res.1)

/-- **`validate`** at step `step`: every dataset in turn, flattened into one
dictionary (the timings it also returns are wall-clock and not modelled). -/
def validate (step : Nat) (valDataloader : PyDict (List BatchedDataDict)) :
    Except String (PyDict ℚ) :=
  valDataloader.entries.foldlM (validateDataset policy maybePadLastBatch masterConfig step)
    PyDict.empty

end Validate

/-! ## The loop in closed form -/

/-- Whether a batch reported micro-batch metrics. -/
def hasMetrics (r : TrainResults) : Bool := r.allMbMetrics.length != 0

/-- **The loop's state after a run of batches**: the reduced records of the
batches with metrics, their count, and one warning per batch without. -/
theorem ValAcc.foldl_add (acc : ValAcc) (rs : List TrainResults) :
    rs.foldl ValAcc.add acc =
      { valMetrics := acc.valMetrics ++ (rs.filter hasMetrics).map (reduceBatch ·.allMbMetrics)
        numValidBatches := acc.numValidBatches + (rs.filter hasMetrics).length
        warnings := acc.warnings ++
          (rs.filter (!hasMetrics ·)).map (fun _ => noBatchMetricsWarning) } := by
  induction rs generalizing acc with
  | nil => simp
  | cons r rs ih =>
    rw [List.foldl_cons, ih]
    by_cases h : r.allMbMetrics.length = 0
    · simp [ValAcc.add, hasMetrics, h]
    · simp [ValAcc.add, hasMetrics, h]; omega

/-- The batches `validate_one_dataset` evaluates: the first `val_batches` of
them, or all when `val_batches` is `0`. -/
def evaluatedBatches (valBatches : Nat) (results : List TrainResults) : List TrainResults :=
  if 0 < valBatches then results.take valBatches else results

/-- **The loop's course**, from batch index `i`: it pulls the results up to index
`val_batches - 1`, stops at the first that raises, and otherwise folds them. -/
theorem validationLoop_eq (valBatches : Nat) (results : List (Except String TrainResults)) :
    ∀ (i : Nat) (acc : ValAcc), (0 < valBatches → i < valBatches) →
      validationLoop valBatches i results acc =
        ((if 0 < valBatches then results.take (valBatches - i) else results).mapM id).map
          (·.foldl ValAcc.add acc) := by
  induction results with
  | nil => intro i acc _; split <;> simp only [validationLoop, List.take_nil, List.mapM_nil] <;> rfl
  | cons r rs ih =>
    intro i acc hi
    -- the first result is pulled whatever the cut
    have hcut : (if 0 < valBatches then (r :: rs).take (valBatches - i) else r :: rs) =
        r :: if 0 < valBatches then rs.take (valBatches - (i + 1)) else rs := by
      split
      · rw [show valBatches - i = valBatches - (i + 1) + 1 by have := hi ‹_›; omega,
          List.take_succ_cons]
      · rfl
    rw [hcut]
    cases r with
    | error e => rfl
    | ok v =>
      by_cases hb : 0 < valBatches ∧ valBatches - 1 ≤ i
      · have hnil : valBatches - (i + 1) = 0 := by omega
        simp [validationLoop, hb, hnil, List.mapM_cons]
        rfl
      · simp only [validationLoop, hb, if_false, List.mapM_cons, id, ok_bind]
        rw [ih (i + 1) _ (fun h => by have := hi h; omega)]
        cases (if 0 < valBatches then rs.take (valBatches - (i + 1)) else rs).mapM id <;> rfl

theorem mapM_id_map_ok {α : Type} (rs : List α) :
    ((rs.map Except.ok : List (Except String α)).mapM id) = .ok rs := by
  induction rs with
  | nil => rfl
  | cons r rs ih => rw [List.map_cons, List.mapM_cons, ih]; rfl

/-- The loop over results that all arrive folds exactly the evaluated batches. -/
theorem reduceValidation_map_ok (valBatches : Nat) (results : List TrainResults) :
    reduceValidation valBatches (results.map .ok) =
      finishValidation ((evaluatedBatches valBatches results).foldl ValAcc.add .init) := by
  rw [reduceValidation, validationLoop_eq valBatches _ 0 .init id, Nat.sub_zero]
  split
  · rw [← List.map_take, mapM_id_map_ok, evaluatedBatches, if_pos ‹_›]; rfl
  · rw [mapM_id_map_ok, evaluatedBatches, if_neg ‹_›]; rfl

/-! ## The aggregation -/

/-- The sample count of a batch: its micro-batches' `num_valid_samples`, summed. -/
def sampleCount (r : TrainResults) : ℚ := (r.allMbMetrics.map (· .numValidSamples)).sum

/-- **The aggregate as the specification states it**, over the batches kept:
`Σ v_b(m)·n_b / Σ n_b` for the six loss and reward metrics, `Σ n_b` for the
sample count, and the sum of the per-batch means for the two denominators. -/
def specAggregate (kept : List TrainResults) : DPOValMetrics
  | .numValidSamples => (kept.map sampleCount).sum
  | .globalValidSeqs =>
    (kept.map fun b => mean (b.allMbMetrics.map (· .globalValidSeqs))).sum
  | .globalValidToks =>
    (kept.map fun b => mean (b.allMbMetrics.map (· .globalValidToks))).sum
  | m => (kept.map fun b => (b.allMbMetrics.map (· m)).sum * sampleCount b).sum /
      (kept.map sampleCount).sum

/-- **Division by a non-zero sample total**: every metric is the sample-weighted
mean `specAggregate` gives. -/
theorem finishValidation_of_samples (kept : List TrainResults) (w : List String)
    (hb : 0 < kept.length) (hs : (kept.map sampleCount).sum ≠ 0) :
    finishValidation ⟨kept.map (reduceBatch ·.allMbMetrics), kept.length, w⟩ =
      .ok (specAggregate kept, w) := by
  have hn : ValAcc.total ⟨kept.map (reduceBatch ·.allMbMetrics), kept.length, w⟩
      .numValidSamples = (kept.map sampleCount).sum := by
    simp [ValAcc.total, reduceBatch, reduceBatchMetric, Function.comp_def]; rfl
  simp only [finishValidation, hb, if_true, hn, pyDiv, hs, if_false, ok_bind, pure_eq_ok,
    Except.ok.injEq, Prod.mk.injEq, and_true]
  funext m
  cases m <;> simp [specAggregate, ValAcc.total, ValAcc.weightedTotal, reduceBatch,
    reduceBatchMetric, sampleCount, Function.comp_def]

/-- **`validate_one_dataset` returns the sample-weighted means.** Whatever the
results of the batches and `val_batches`: the loop evaluates the first
`val_batches` batches (all of them when it is `0`), skips with a warning each
one without micro-batch metrics, and when the kept batches carry a positive
sample total the metrics are the specification's `specAggregate`. -/
theorem reduceValidation_weighted (valBatches : Nat) (results : List TrainResults)
    (h : 0 < (((evaluatedBatches valBatches results).filter hasMetrics).map sampleCount).sum) :
    reduceValidation valBatches (results.map .ok) =
      .ok (specAggregate ((evaluatedBatches valBatches results).filter hasMetrics),
        ((evaluatedBatches valBatches results).filter (!hasMetrics ·)).map
          (fun _ => noBatchMetricsWarning)) := by
  rw [reduceValidation_map_ok, ValAcc.foldl_add]
  have hb : 0 < ((evaluatedBatches valBatches results).filter hasMetrics).length := by
    refine List.length_pos.2 (fun hnil => ?_)
    rw [hnil] at h
    simp at h
  simpa [ValAcc.init] using finishValidation_of_samples _ _ hb (ne_of_gt h)

/-- A micro-batch reporting a loss over `n` samples, and `0` for every other
metric. -/
def lossOverSamples (loss n : ℚ) : DPOValMetrics
  | .loss => loss
  | .numValidSamples => n
  | _ => 0

/-- Four validation batches: one of two micro-batches, one without metrics, one
of one micro-batch, and one past `val_batches = 3`. -/
def threeValBatches : List TrainResults :=
  [⟨[lossOverSamples 1 2, lossOverSamples 4 1]⟩, ⟨[]⟩, ⟨[lossOverSamples 2 4]⟩,
    ⟨[lossOverSamples 7 5]⟩]

/-- The fourth batch is cut, the second skipped with a warning, and the loss is
the mean of `5` over `3` samples and `2` over `4`, weighted: `23 / 7`. -/
theorem reduceValidation_weighted_three_batches :
    0 < (((evaluatedBatches 3 threeValBatches).filter hasMetrics).map sampleCount).sum ∧
      reduceValidation 3 (threeValBatches.map .ok) =
        .ok (specAggregate ((evaluatedBatches 3 threeValBatches).filter hasMetrics),
          ((evaluatedBatches 3 threeValBatches).filter (!hasMetrics ·)).map
            (fun _ => noBatchMetricsWarning)) ∧
      specAggregate ((evaluatedBatches 3 threeValBatches).filter hasMetrics) .loss = 23 / 7 ∧
      ((evaluatedBatches 3 threeValBatches).filter (!hasMetrics ·)).length = 1 :=
  have h : 0 < (((evaluatedBatches 3 threeValBatches).filter hasMetrics).map sampleCount).sum := by
    norm_num [evaluatedBatches, threeValBatches, hasMetrics, sampleCount, lossOverSamples]
  ⟨h, reduceValidation_weighted 3 _ h,
    by norm_num [specAggregate, evaluatedBatches, threeValBatches, hasMetrics, sampleCount,
      lossOverSamples], by decide⟩

/-- **No batch with metrics**: every metric is `0`, with the pass's warning after
the batches' own. -/
theorem reduceValidation_no_metrics (valBatches : Nat) (results : List TrainResults)
    (h : ∀ r ∈ evaluatedBatches valBatches results, r.allMbMetrics = []) :
    reduceValidation valBatches (results.map .ok) =
      .ok (fun _ => 0, (evaluatedBatches valBatches results).map (fun _ => noBatchMetricsWarning) ++
        [noMetricsWarning]) := by
  have hk : (evaluatedBatches valBatches results).filter hasMetrics = [] :=
    List.filter_eq_nil_iff.2 (fun r hr => by simp [hasMetrics, h r hr])
  have hs : (evaluatedBatches valBatches results).filter (!hasMetrics ·) =
      evaluatedBatches valBatches results :=
    List.filter_eq_self.2 (fun r hr => by simp [hasMetrics, h r hr])
  rw [reduceValidation_map_ok, ValAcc.foldl_add, hk, hs]
  simp [finishValidation, ValAcc.init]

/-- **Batches with metrics but no samples**: the first weighted mean divides by
a zero total, and Python raises. -/
theorem reduceValidation_raises_of_zero_samples (valBatches : Nat) (results : List TrainResults)
    (hm : ∃ r ∈ evaluatedBatches valBatches results, r.allMbMetrics ≠ [])
    (hs : (((evaluatedBatches valBatches results).filter hasMetrics).map sampleCount).sum = 0) :
    reduceValidation valBatches (results.map .ok) = .error floatDivisionByZero := by
  obtain ⟨r, hr, hne⟩ := hm
  have hb : 0 < ((evaluatedBatches valBatches results).filter hasMetrics).length :=
    List.length_pos_of_mem (List.mem_filter.2 ⟨hr, by simpa [hasMetrics] using hne⟩)
  have hn : ValAcc.total (List.foldl ValAcc.add .init (evaluatedBatches valBatches results))
      .numValidSamples = 0 := by
    rw [ValAcc.foldl_add, ← hs]
    simp [ValAcc.total, ValAcc.init, reduceBatch, reduceBatchMetric, Function.comp_def]; rfl
  rw [reduceValidation_map_ok, finishValidation, if_pos (by simpa [ValAcc.foldl_add, ValAcc.init]),
    hn]
  simp [pyDiv]

/-- Once every evaluated pull has arrived, the cut has done its work: the loop
folds those results as it would with no cut. -/
theorem reduceValidation_eq_of_mapM {valBatches : Nat} {results : List (Except String TrainResults)}
    {rs : List TrainResults}
    (h : (if 0 < valBatches then results.take valBatches else results).mapM id = .ok rs) :
    reduceValidation valBatches results = reduceValidation 0 (rs.map .ok) := by
  rw [reduceValidation, validationLoop_eq valBatches _ 0 .init id, Nat.sub_zero, h, reduceValidation,
    validationLoop_eq 0 _ 0 .init (fun h => absurd h (Nat.lt_irrefl 0)), if_neg (Nat.lt_irrefl 0),
    mapM_id_map_ok]

/-- **Every outcome of `validate_one_dataset`'s loop and aggregation.** Whatever
the results of the pulls and `val_batches`: a pull or an evaluation that raises
among the evaluated ones makes the pass raise the same; otherwise, over the
evaluated results, the pass returns all zeros with one warning per batch and
the pass's own when no batch reported metrics, raises `ZeroDivisionError` when
some did but their sample total is `0`, and returns the sample-weighted means,
with one warning per skipped batch, whenever that total is not `0`. -/
theorem reduceValidation_outcome (valBatches : Nat) (results : List (Except String TrainResults)) :
    (∀ e, (if 0 < valBatches then results.take valBatches else results).mapM id = .error e →
      reduceValidation valBatches results = .error e) ∧
    ∀ rs, (if 0 < valBatches then results.take valBatches else results).mapM id = .ok rs →
      ((∀ r ∈ rs, r.allMbMetrics = []) →
        reduceValidation valBatches results =
          .ok (fun _ => 0, rs.map (fun _ => noBatchMetricsWarning) ++ [noMetricsWarning])) ∧
      ((∃ r ∈ rs, r.allMbMetrics ≠ []) → ((rs.filter hasMetrics).map sampleCount).sum = 0 →
        reduceValidation valBatches results = .error floatDivisionByZero) ∧
      (((rs.filter hasMetrics).map sampleCount).sum ≠ 0 →
        reduceValidation valBatches results =
          .ok (specAggregate (rs.filter hasMetrics),
            (rs.filter (!hasMetrics ·)).map (fun _ => noBatchMetricsWarning))) := by
  refine ⟨fun e he => ?_, fun rs hrs => ?_⟩
  · rw [reduceValidation, validationLoop_eq valBatches _ 0 .init id, Nat.sub_zero, he]; rfl
  rw [reduceValidation_eq_of_mapM hrs]
  have hev : evaluatedBatches 0 rs = rs := if_neg (Nat.lt_irrefl 0)
  refine ⟨fun h => ?_, fun hm hs => ?_, fun hs => ?_⟩
  · simpa only [hev] using reduceValidation_no_metrics 0 rs (hev ▸ h)
  · exact reduceValidation_raises_of_zero_samples 0 rs (hev ▸ hm) (hev ▸ hs)
  · have hb : 0 < (rs.filter hasMetrics).length :=
      List.length_pos.2 fun hnil => hs (by rw [hnil]; rfl)
    rw [reduceValidation_map_ok, ValAcc.foldl_add, hev]
    simpa [ValAcc.init] using finishValidation_of_samples _ _ hb hs

/-- Three pulls: a batch with metrics, one without, and one whose pull raises. -/
def pullsThenRaise : List (Except String TrainResults) :=
  [.ok ⟨[lossOverSamples 1 2]⟩, .ok ⟨[]⟩, .error integerModuloByZero]

/-- Cut before the raising pull at `val_batches = 2`, the pass weighs the first
batch and skips the second with a warning; with `val_batches = 3` it raises. -/
theorem reduceValidation_outcome_cut_before_raise :
    (if 0 < 2 then pullsThenRaise.take 2 else pullsThenRaise).mapM id =
        .ok [⟨[lossOverSamples 1 2]⟩, ⟨[]⟩] ∧
      reduceValidation 2 pullsThenRaise =
        .ok (specAggregate [⟨[lossOverSamples 1 2]⟩], [noBatchMetricsWarning]) ∧
      reduceValidation 3 pullsThenRaise = .error integerModuloByZero := by
  have hcut : (if 0 < 2 then pullsThenRaise.take 2 else pullsThenRaise).mapM id =
      .ok [⟨[lossOverSamples 1 2]⟩, ⟨[]⟩] := rfl
  refine ⟨hcut, ((reduceValidation_outcome 2 _).2 _ hcut).2.2 (by norm_num [hasMetrics, sampleCount,
    lossOverSamples]), (reduceValidation_outcome 3 _).1 _ rfl⟩

/-- **A batch whose only micro-batch has no valid sample makes
`validate_one_dataset` raise.** One validation batch of two rows, one
data-parallel rank, micro-batches of one pair, and a policy that reports every
metric of the batch's micro-batch as `0`. -/
theorem validateOneDataset_zero_sample_batch :
    validateOneDataset
      { dpSize := 1, getReferencePolicyLogprobs := fun _ _ => [], train := fun _ => ⟨[]⟩,
        eval := fun _ _ => ⟨[fun _ => 0]⟩ }
      (fun b _ _ => b)
      { policy := { trainGlobalBatchSize := 1, trainMicroBatchSize := 1,
                    dynamicBatchingEnabled := false, sequencePackingEnabled := false }
        dpo := { maxNumEpochs := 1, maxNumSteps := 1, valPeriod := 1, valBatches := 0,
                 valMicroBatchSize := 1, valAtStart := false }
        checkpointing := { enabled := true, savePeriod := 1, metricName := none } }
      1 [⟨2, [], none⟩] = .error floatDivisionByZero := by
  have h := reduceValidation_raises_of_zero_samples 0 [⟨[fun _ => 0]⟩]
    ⟨_, List.mem_singleton_self _, by simp⟩ (by simp [evaluatedBatches, hasMetrics, sampleCount])
  simpa [validateOneDataset, refBatch, shardableBatch, refMicroBatchSize, pyMod,
    Except.map] using h

/-! ## Flattening the datasets' metrics -/

/-- **Which metric names end in another after an underscore**: only `sft_loss`
and `preference_loss`, each in `loss`. -/
theorem DPOValMetric.name_eq_append {m₁ m₂ : DPOValMetric} {x : List Char}
    (h : m₁.name.data = x ++ '_' :: m₂.name.data) :
    m₂ = .loss ∧ (m₁ = .sftLoss ∧ x = "sft".data ∨ m₁ = .preferenceLoss ∧ x = "preference".data) := by
  have hsuffix : ∀ m₁ m₂ : DPOValMetric, ('_' :: m₂.name.data) <:+ m₁.name.data →
      m₂ = .loss ∧ (m₁ = .sftLoss ∨ m₁ = .preferenceLoss) := by
    intro m₁ m₂; cases m₁ <;> cases m₂ <;> decide
  obtain ⟨rfl, rfl | rfl⟩ := hsuffix m₁ m₂ ⟨x, h.symm⟩
  · have h' : "sft".data ++ '_' :: DPOValMetric.loss.name.data = x ++ '_' :: _ := h
    exact ⟨rfl, .inl ⟨rfl, (List.append_cancel_right h').symm⟩⟩
  · have h' : "preference".data ++ '_' :: DPOValMetric.loss.name.data = x ++ '_' :: _ := h
    exact ⟨rfl, .inr ⟨rfl, (List.append_cancel_right h').symm⟩⟩

theorem valMetricKey_data (d : String) (m : DPOValMetric) :
    (valMetricKey d m).data = "validation-".data ++ (d.data ++ '_' :: m.name.data) := by
  simp only [valMetricKey, String.data_append, List.append_assoc]; rfl

/-- A key read back with the dataset name cut short at an underscore names a
dataset followed by `_sft` or `_preference`. -/
theorem valMetricKey_collision_side {d₁ d₂ : String} {m₁ m₂ : DPOValMetric} {x : List Char}
    (hd : d₂.data = d₁.data ++ '_' :: x) (hm : m₁.name.data = x ++ '_' :: m₂.name.data) :
    m₂ = .loss ∧
      (m₁ = .sftLoss ∧ d₂ = d₁ ++ "_sft" ∨ m₁ = .preferenceLoss ∧ d₂ = d₁ ++ "_preference") := by
  obtain ⟨rfl, ⟨rfl, rfl⟩ | ⟨rfl, rfl⟩⟩ := DPOValMetric.name_eq_append hm
  · exact ⟨rfl, .inl ⟨rfl, String.ext (by rw [hd, String.data_append])⟩⟩
  · exact ⟨rfl, .inr ⟨rfl, String.ext (by rw [hd, String.data_append])⟩⟩

/-- **The collisions of the flattening.** Two pairs share a key exactly when they
are equal, or one is a dataset `d` with `sft_loss` or `preference_loss` and the
other the dataset `d_sft` or `d_preference` with `loss`. -/
theorem valMetricKey_eq_iff {d₁ d₂ : String} {m₁ m₂ : DPOValMetric} :
    valMetricKey d₁ m₁ = valMetricKey d₂ m₂ ↔ d₁ = d₂ ∧ m₁ = m₂ ∨
      m₂ = .loss ∧ (m₁ = .sftLoss ∧ d₂ = d₁ ++ "_sft" ∨
        m₁ = .preferenceLoss ∧ d₂ = d₁ ++ "_preference") ∨
      m₁ = .loss ∧ (m₂ = .sftLoss ∧ d₁ = d₂ ++ "_sft" ∨
        m₂ = .preferenceLoss ∧ d₁ = d₂ ++ "_preference") := by
  constructor
  · intro h
    have hd := congrArg String.data h
    rw [valMetricKey_data, valMetricKey_data, List.append_cancel_left_eq] at hd
    -- cut the two keys where the shorter dataset name ends
    rcases List.append_eq_append_iff.1 hd with ⟨_ | ⟨c, x⟩, h₂, h₁⟩ | ⟨_ | ⟨c, x⟩, h₁, h₂⟩
    · simp only [List.append_nil, List.nil_append, List.cons.injEq, true_and] at h₁ h₂
      exact .inl ⟨String.ext h₂.symm, DPOValMetric.name_injective (String.ext h₁)⟩
    · simp only [List.cons_append, List.cons.injEq] at h₁
      obtain ⟨rfl, h₁⟩ := h₁
      exact .inr (.inl (valMetricKey_collision_side h₂ h₁))
    · simp only [List.append_nil, List.nil_append, List.cons.injEq, true_and] at h₁ h₂
      exact .inl ⟨String.ext h₁, DPOValMetric.name_injective (String.ext h₂.symm)⟩
    · simp only [List.cons_append, List.cons.injEq] at h₂
      obtain ⟨rfl, h₂⟩ := h₂
      exact .inr (.inr (valMetricKey_collision_side h₁ h₂))
  · rintro (⟨rfl, rfl⟩ | ⟨rfl, ⟨rfl, rfl⟩ | ⟨rfl, rfl⟩⟩ | ⟨rfl, ⟨rfl, rfl⟩ | ⟨rfl, rfl⟩⟩) <;>
      first
      | rfl
      | exact String.ext (by rw [valMetricKey_data, valMetricKey_data, String.data_append,
          List.append_assoc]; rfl)

/-- **Two datasets neither of which is the other followed by `_sft` or
`_preference` flatten injectively.** -/
theorem valMetricKey_injective {d₁ d₂ : String} {m₁ m₂ : DPOValMetric}
    (h₁₂ : d₂ ≠ d₁ ++ "_sft" ∧ d₂ ≠ d₁ ++ "_preference")
    (h₂₁ : d₁ ≠ d₂ ++ "_sft" ∧ d₁ ≠ d₂ ++ "_preference")
    (h : valMetricKey d₁ m₁ = valMetricKey d₂ m₂) : d₁ = d₂ ∧ m₁ = m₂ := by
  rcases valMetricKey_eq_iff.1 h with h | ⟨-, ⟨-, h⟩ | ⟨-, h⟩⟩ | ⟨-, ⟨-, h⟩ | ⟨-, h⟩⟩
  exacts [h, absurd h h₁₂.1, absurd h h₁₂.2, absurd h h₂₁.1, absurd h h₂₁.2]

/-- For one dataset, the nine keys are distinct. -/
theorem valMetricKey_inj_metric {d : String} {m₁ m₂ : DPOValMetric}
    (h : valMetricKey d m₁ = valMetricKey d m₂) : m₁ = m₂ := by
  have hd := congrArg String.data h
  simp only [valMetricKey, String.data_append, List.append_assoc, List.append_cancel_left_eq] at hd
  exact DPOValMetric.name_injective (String.ext hd)

theorem flattenMetrics_eq (d : PyDict ℚ) (name : String) (k : DPOValMetrics) :
    flattenMetrics d name k =
      (DPOValMetric.all.map (fun m => (valMetricKey name m, k m))).foldl
        (fun d kv => d.set kv.1 kv.2) d := by
  simp [flattenMetrics, List.foldl_map]

theorem all_keys_nodup (name : String) :
    ((DPOValMetric.all.map (fun m => (valMetricKey name m, (0 : ℚ)))).map Prod.fst).Nodup := by
  simp only [List.map_map]
  exact (List.nodup_map_iff_inj_on (by decide)).2
    (fun _ _ _ _ h => valMetricKey_inj_metric h)

theorem lookup_valMetricKey (name : String) (k : DPOValMetrics) {l : List DPOValMetric}
    {m : DPOValMetric} (hm : m ∈ l) :
    (l.map (fun m => (valMetricKey name m, k m))).lookup (valMetricKey name m) = some (k m) := by
  induction l with
  | nil => simp at hm
  | cons a l ih =>
    rw [List.map_cons, PyDict.lookup_cons_ite]
    by_cases h : valMetricKey name m = valMetricKey name a
    · rw [if_pos h, valMetricKey_inj_metric h]
    · rw [if_neg h, ih ((List.mem_cons.1 hm).resolve_left (fun e => h (e ▸ rfl)))]

/-- A dataset's flattened metric reads the value computed for it. -/
theorem flattenMetrics_get?_self (d : PyDict ℚ) (name : String) (k : DPOValMetrics)
    (m : DPOValMetric) : (flattenMetrics d name k).get? (valMetricKey name m) = some (k m) := by
  rw [flattenMetrics_eq, PyDict.get?_foldl_set _ (by simpa using all_keys_nodup name),
    lookup_valMetricKey name k (DPOValMetric.mem_all m)]
  rfl

/-- Flattening one dataset leaves every other key as it was. -/
theorem flattenMetrics_get?_of_ne (d : PyDict ℚ) (name : String) (k : DPOValMetrics)
    {key : String} (h : ∀ m, key ≠ valMetricKey name m) :
    (flattenMetrics d name k).get? key = d.get? key := by
  have hk : key ∉ (DPOValMetric.all.map (fun m => (valMetricKey name m, k m))).map Prod.fst := by
    simp only [List.map_map, List.mem_map, Function.comp_apply, not_exists, not_and]
    exact fun m _ e => h m e.symm
  rw [flattenMetrics_eq, PyDict.get?_foldl_set _ (by simpa using all_keys_nodup name),
    PyDict.lookup_eq_none_of_not_mem hk]
  rfl

/-- **Two pairs share a key.** `"a"` with `sft_loss` and `"a_sft"` with `loss`
flatten alike, and once both datasets are flattened the key holds the second
dataset's `loss`: the first dataset's `sft_loss` is gone. -/
theorem valMetricKey_collision :
    valMetricKey "a_sft" .loss = valMetricKey "a" .sftLoss ∧
      (flattenMetrics (flattenMetrics PyDict.empty "a" (fun _ => 0)) "a_sft" (fun _ => 1)).get?
        (valMetricKey "a" .sftLoss) = some 1 := by
  have h : valMetricKey "a_sft" .loss = valMetricKey "a" .sftLoss := by decide
  exact ⟨h, h ▸ flattenMetrics_get?_self _ "a_sft" (fun _ => 1) .loss⟩

section ValidateFold

variable {policy : Policy} {maybePadLastBatch : BatchedDataDict → Nat → Nat → BatchedDataDict}
  {masterConfig : MasterConfig} {step : Nat}

theorem validateDataset_ok {acc acc' : PyDict ℚ} {e : String × List BatchedDataDict}
    (h : validateDataset policy maybePadLastBatch masterConfig step acc e = .ok acc') :
    ∃ res, validateOneDataset policy maybePadLastBatch masterConfig step e.2 = .ok res ∧
      acc' = flattenMetrics acc e.1 res.1 := by
  unfold validateDataset at h
  cases hv : validateOneDataset policy maybePadLastBatch masterConfig step e.2 with
  | error _ => rw [hv] at h; cases h
  | ok res => rw [hv] at h; exact ⟨res, rfl, (Except.ok.inj h).symm⟩

/-- Datasets flattened later leave every key that is not theirs alone. -/
theorem validate_fold_frame (L : List (String × List BatchedDataDict)) {acc vm : PyDict ℚ}
    (h : L.foldlM (validateDataset policy maybePadLastBatch masterConfig step) acc = .ok vm)
    {key : String} (hk : ∀ e ∈ L, ∀ m, key ≠ valMetricKey e.1 m) : vm.get? key = acc.get? key := by
  induction L generalizing acc with
  | nil =>
    simp only [List.foldlM_nil, pure_eq_ok, Except.ok.injEq] at h
    rw [h]
  | cons e L ih =>
    rw [List.foldlM_cons] at h
    cases hv : validateDataset policy maybePadLastBatch masterConfig step acc e with
    | error _ => rw [hv] at h; cases h
    | ok acc' =>
      rw [hv, ok_bind] at h
      obtain ⟨res, -, hacc⟩ := validateDataset_ok hv
      rw [ih h (fun e' he' => hk e' (List.mem_cons_of_mem _ he')), hacc,
        flattenMetrics_get?_of_ne _ _ _ (hk e (List.mem_cons_self _ _))]

/-- Over datasets with distinct names whose keys do not collide, every dataset's
metrics survive the fold under their own keys. -/
theorem validate_fold_get? (L : List (String × List BatchedDataDict))
    (hnodup : (L.map Prod.fst).Nodup)
    (hinj : ∀ e ∈ L, ∀ e' ∈ L, ∀ m m', valMetricKey e.1 m = valMetricKey e'.1 m' → e.1 = e'.1)
    {acc vm : PyDict ℚ}
    (h : L.foldlM (validateDataset policy maybePadLastBatch masterConfig step) acc = .ok vm) :
    ∀ e ∈ L, ∃ res, validateOneDataset policy maybePadLastBatch masterConfig step e.2 = .ok res ∧
      ∀ m, vm.get? (valMetricKey e.1 m) = some (res.1 m) := by
  induction L generalizing acc with
  | nil => simp
  | cons e L ih =>
    simp only [List.map_cons, List.nodup_cons] at hnodup
    rw [List.foldlM_cons] at h
    cases hv : validateDataset policy maybePadLastBatch masterConfig step acc e with
    | error _ => rw [hv] at h; cases h
    | ok acc' =>
      rw [hv, ok_bind] at h
      intro e' he'
      rcases List.mem_cons.1 he' with he' | he'
      · obtain ⟨res, hres, hacc⟩ := validateDataset_ok hv
        refine ⟨res, he' ▸ hres, fun m => ?_⟩
        have hfresh : ∀ e'' ∈ L, ∀ m'', valMetricKey e.1 m ≠ valMetricKey e''.1 m'' := by
          intro e'' he'' m'' hkey
          have hname : e.1 = e''.1 :=
            hinj _ (List.mem_cons_self _ _) _ (List.mem_cons_of_mem _ he'') _ _ hkey
          exact hnodup.1 (by rw [hname]; exact List.mem_map_of_mem Prod.fst he'')
        rw [he', validate_fold_frame L h hfresh, hacc, flattenMetrics_get?_self]
      · exact ih hnodup.2 (fun e₁ h₁ e₂ h₂ => hinj e₁ (List.mem_cons_of_mem _ h₁) e₂
          (List.mem_cons_of_mem _ h₂)) h e' he'

end ValidateFold

/-- **Without a dataset named after another and `_sft` or `_preference`, no
metric is lost.** The flattening is injective on the datasets' names and
metrics, and `validate` returns, under `validation-<d>_<m>`, the value
`validate_one_dataset` computed for `d` and `m`. -/
theorem validate_keeps_every_metric (policy : Policy)
    (maybePadLastBatch : BatchedDataDict → Nat → Nat → BatchedDataDict)
    (masterConfig : MasterConfig) (step : Nat) (valDataloader : PyDict (List BatchedDataDict))
    (hnames : ∀ d₁ ∈ valDataloader.keys, ∀ d₂ ∈ valDataloader.keys,
      d₂ ≠ d₁ ++ "_sft" ∧ d₂ ≠ d₁ ++ "_preference") :
    (∀ d₁ ∈ valDataloader.keys, ∀ d₂ ∈ valDataloader.keys, ∀ m₁ m₂,
      valMetricKey d₁ m₁ = valMetricKey d₂ m₂ → d₁ = d₂ ∧ m₁ = m₂) ∧
    ∀ valMetrics, validate policy maybePadLastBatch masterConfig step valDataloader = .ok valMetrics →
      ∀ d batches, valDataloader.get? d = some batches →
        ∃ res, validateOneDataset policy maybePadLastBatch masterConfig step batches = .ok res ∧
          ∀ m, valMetrics.get? (valMetricKey d m) = some (res.1 m) := by
  have hinj : ∀ d₁ ∈ valDataloader.keys, ∀ d₂ ∈ valDataloader.keys, ∀ m₁ m₂,
      valMetricKey d₁ m₁ = valMetricKey d₂ m₂ → d₁ = d₂ ∧ m₁ = m₂ :=
    fun d₁ h₁ d₂ h₂ _ _ h => valMetricKey_injective (hnames d₁ h₁ d₂ h₂) (hnames d₂ h₂ d₁ h₁) h
  refine ⟨hinj, fun valMetrics h d batches hd => ?_⟩
  exact validate_fold_get? valDataloader.entries valDataloader.nodup
    (fun e he e' he' m m' hkey => (hinj e.1 (List.mem_map_of_mem Prod.fst he) e'.1
      (List.mem_map_of_mem Prod.fst he') m m' hkey).1) h (d, batches)
    (PyDict.mem_entries_of_get? hd)

/-- A policy whose evaluation reports a loss of `1` over two samples. -/
def evalPolicy : Policy := { unitPolicy with eval := fun _ _ => ⟨[lossOverSamples 1 2]⟩ }

/-- Two validation sets of one batch each, one named with an underscore. -/
def twoValDatasets : PyDict (List BatchedDataDict) :=
  ⟨[("hh_rlhf", [⟨2, [], none⟩]), ("hh", [⟨2, [], none⟩])], by decide⟩

/-- The statement over two datasets, `hh_rlhf` and `hh`, each of which
validation gets through. -/
theorem validate_keeps_every_metric_two_datasets :
    (∀ d₁ ∈ twoValDatasets.keys, ∀ d₂ ∈ twoValDatasets.keys,
      d₂ ≠ d₁ ++ "_sft" ∧ d₂ ≠ d₁ ++ "_preference") ∧
      (∃ vm, validate evalPolicy (fun b _ _ => b) zeroTrainMicroBatchConfig 1 twoValDatasets =
        .ok vm) ∧
      ∀ valMetrics, validate evalPolicy (fun b _ _ => b) zeroTrainMicroBatchConfig 1 twoValDatasets =
          .ok valMetrics →
        ∀ d batches, twoValDatasets.get? d = some batches →
          ∃ res, validateOneDataset evalPolicy (fun b _ _ => b) zeroTrainMicroBatchConfig 1 batches =
              .ok res ∧
            ∀ m, valMetrics.get? (valMetricKey d m) = some (res.1 m) :=
  have h : ∀ d₁ ∈ twoValDatasets.keys, ∀ d₂ ∈ twoValDatasets.keys,
      d₂ ≠ d₁ ++ "_sft" ∧ d₂ ≠ d₁ ++ "_preference" := by decide
  ⟨h, by simp [validate, validateDataset, validateOneDataset, twoValDatasets, reduceValidation,
    validationLoop, refBatch, shardableBatch, pyMod, Except.map, evalPolicy, unitPolicy,
    zeroTrainMicroBatchConfig, refMicroBatchSize, ValAcc.add, finishValidation, pyDiv, ValAcc.total,
    reduceBatch, reduceBatchMetric, lossOverSamples, ValAcc.init],
    (validate_keeps_every_metric _ _ _ 1 _ h).2⟩

end NemoRl
