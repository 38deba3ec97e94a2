import Mathlib.Algebra.Order.Field.Rat
import NemoRl.Python

/-!
# What `dpo_train` reads: configuration, batches, and the policy

`dpo.py` drives collaborators it does not define: a policy that trains and
scores, a data loader, a checkpoint store, a timeout checker. This module fixes
the part of each that the modelled functions read, field by field, under the
source's names. What only the collaborators read (token tensors, loss
hyper-parameters, cluster shape) is left out.

Python's integers in the configuration are counts here. Where the source
compares a field with `> 0` before using it (`val_period`, `val_batches`) a
negative value behaves as `0`, and the ceilings `max_num_epochs`,
`max_num_steps` only ever bound counters that start at `0`; so `Nat` loses no
behaviour of the source.

The metric table is closed: `DPOValMetric` lists the nine names of the
`DPOValMetrics` typed dictionary in declaration order, which is the order of
`DPOValMetrics.__annotations__.keys()` every loop of the source walks.
-/

namespace NemoRl

/-- The names of `DPOValMetrics`, one constructor per annotated field. -/
inductive DPOValMetric
  | loss
  | sftLoss
  | preferenceLoss
  | accuracy
  | rewardsChosenMean
  | rewardsRejectedMean
  | numValidSamples
  | globalValidSeqs
  | globalValidToks
  deriving DecidableEq, Repr

namespace DPOValMetric

/-- `DPOValMetrics.__annotations__.keys()`, in declaration order. -/
def all : List DPOValMetric :=
  [loss, sftLoss, preferenceLoss, accuracy, rewardsChosenMean, rewardsRejectedMean,
    numValidSamples, globalValidSeqs, globalValidToks]

/-- The key of the metric, as the source spells it. -/
def name : DPOValMetric → String
  | loss => "loss"
  | sftLoss => "sft_loss"
  | preferenceLoss => "preference_loss"
  | accuracy => "accuracy"
  | rewardsChosenMean => "rewards_chosen_mean"
  | rewardsRejectedMean => "rewards_rejected_mean"
  | numValidSamples => "num_valid_samples"
  | globalValidSeqs => "global_valid_seqs"
  | globalValidToks => "global_valid_toks"

theorem mem_all (m : DPOValMetric) : m ∈ all := by cases m <;> decide

theorem name_injective : Function.Injective name := by
  intro a b h; cases a <;> cases b <;> first | rfl | exact absurd h (by decide)

end DPOValMetric

/-- One value per metric name: what the loss function reports for one
micro-batch, and what a validation pass returns for one dataset. -/
abbrev DPOValMetrics := DPOValMetric → ℚ

/-- `np.mean`, over a non-empty list of micro-batch values (a step or a batch
with metrics has at least one micro-batch). -/
def mean (xs : List ℚ) : ℚ := xs.sum / xs.length

/-! ## Configuration -/

/-- The part of `PolicyConfig` the loop reads. -/
structure PolicyConfig where
  trainGlobalBatchSize : Nat
  trainMicroBatchSize : Nat
  /-- `policy.dynamic_batching.enabled`. -/
  dynamicBatchingEnabled : Bool
  /-- `policy.sequence_packing.enabled`. -/
  sequencePackingEnabled : Bool

/-- The part of `DPOConfig` the loop reads. -/
structure DPOConfig where
  maxNumEpochs : Nat
  maxNumSteps : Nat
  /-- `0` disables periodic validation. -/
  valPeriod : Nat
  /-- `0` validates on the whole dataset. -/
  valBatches : Nat
  valMicroBatchSize : Nat
  valAtStart : Bool

/-- The part of `CheckpointingConfig` the loop reads. -/
structure CheckpointingConfig where
  enabled : Bool
  savePeriod : Nat
  /-- The key best-of-N checkpoint selection ranks by, if any. -/
  metricName : Option String

/-- `MasterConfig`, as far as `setup` and `dpo_train` read it. -/
structure MasterConfig where
  policy : PolicyConfig
  dpo : DPOConfig
  checkpointing : CheckpointingConfig

/-! ## Batches and the policy -/

/-- **A collated batch**, as much of a `BatchedDataDict` as the modelled code and
the policy read. -/
structure BatchedDataDict where
  /-- `batch.size`: rows, a chosen and a rejected response counted apart. -/
  size : Nat
  /-- The token ids of each row, read only by the policy. -/
  inputIds : List (List Nat)
  /-- `batch["reference_policy_logprobs"]`, once set. -/
  referencePolicyLogprobs : Option (List (List ℚ))

/-- What `policy.train` returns, as far as the loop reads it: one record of
metrics per micro-batch (`all_mb_metrics`, transposed). -/
structure TrainResults where
  allMbMetrics : List DPOValMetrics

/-- **The policy**, as the loop calls it. Its training results are an oracle
indexed by the step they belong to: what a step returns depends on weights the
model does not track. -/
structure Policy where
  /-- `policy.sharding_annotations.get_axis_size("data_parallel")`. -/
  dpSize : Nat
  /-- `policy.get_reference_policy_logprobs(batch, micro_batch_size=...)`,
  its `"reference_logprobs"` entry: one row of log-probabilities per batch row. -/
  getReferencePolicyLogprobs : BatchedDataDict → Nat → List (List ℚ)
  /-- `policy.train(batch, loss_fn, eval_mode=False, ...)` at the step labelled `t`. -/
  train : Nat → TrainResults
  /-- `policy.train(val_batch, loss_fn, eval_mode=True, ...)` during the
  validation run at step `t` (`0` for the one before training). -/
  eval : Nat → BatchedDataDict → TrainResults

end NemoRl
