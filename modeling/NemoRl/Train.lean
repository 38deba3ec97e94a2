import NemoRl.SaveState

/-!
# The training loop of `dpo_train` as a state machine

`dpo_train` is two nested loops: a `while` over epochs guarded by the epoch and
step ceilings, and inside it a `for` over the reference-augmented train
batches whose body trains, maybe validates, maybe checkpoints, and may return.
This module turns the pair of loops into a machine whose control point is the
head of one loop or the other (`Pc`), and whose state holds the locals the body
reads and writes (`TrainState`). `next` runs one iteration and emits the
step's observable record – its label, its epoch, its validation metrics, its
checkpoint – when the iteration was a training step.

The collaborators are oracles of the trainer (`DPOTrainer`): the policy's train
and eval results are indexed by the step they belong to, and so are the
timeout checker's answers. The train data loader is a `StatefulDataLoader`:
each pass over it yields the batches from the position its iterator resumes at
to `len(train_dataloader)`; a pass resumes where `load_state_dict` left it the
first time it is iterated after a restore, and at `0` otherwise
(`LoaderState`). Of `setup`, the model keeps what bears on the loop: the
configuration checks it makes first (`setupChecks`) and the step count it gives
the scheduler (`totalTrainIters`).

The loop always halts: `measure` bounds the iterations left and falls at every
one (`measure_next_lt`), so running the machine for `measure` iterations
(`exec`) reaches a halted point. Every later result about runs is proved along
`Reaches`, the executions of the machine with the records they emit, from one
description of what an iteration can do (`LoopStep`, `next_step`).
-/

namespace NemoRl

/-- **The train data loader**: its length, and what each pass yields. The batch
at position `j` of the pass of epoch `e` is `batchAt e j`; a shuffled loader
whose sampler state is saved and restored yields the same batches in a resumed
pass as in the interrupted one. -/
structure TrainDataloader where
  /-- `len(train_dataloader)`: whole batches per pass (`drop_last=True`). -/
  len : Nat
  batchAt : Nat → Nat → BatchedDataDict

/-- **The arguments of `dpo_train` that stay fixed over a run.** -/
structure DPOTrainer where
  policy : Policy
  /-- `maybe_pad_last_batch`, used by the validation augmenter. -/
  maybePadLastBatch : BatchedDataDict → Nat → Nat → BatchedDataDict
  masterConfig : MasterConfig
  trainDataloader : TrainDataloader
  valDataloader : PyDict (List BatchedDataDict)
  /-- `timeout.check_save()` after the step labelled `t`. -/
  checkSave : Nat → Bool

/-- **The iteration state of the train data loader**: the position a restored
loader resumes at (`next_iter_state`), and the batches the active pass has
yielded, which is what `state_dict()` saves. -/
structure LoaderState where
  nextIterState : Option Nat
  numYielded : Nat

/-- `iter(train_dataloader)`: a new pass, resumed at the restored position if
there is one. -/
def LoaderState.iter (l : LoaderState) : LoaderState := ⟨none, l.nextIterState.getD 0⟩

/-- **A finalized checkpoint**: the step passed to `init_tmp_checkpoint`, the
progress record (`training_info`) and `train_dataloader.state_dict()`. The
weights are the policy's and are not modelled. -/
structure Checkpoint where
  step : Nat
  trainingInfo : DPOSaveState
  trainDataloader : Nat

/-- **What a training step shows**: its label `total_steps + 1`, its epoch, the
metrics of its validation if it ran one, its checkpoint if it wrote one, and
the best-of-N warning that checkpoint raised. -/
structure StepRecord where
  totalSteps : Nat
  epoch : Nat
  valMetrics : Option (PyDict ℚ)
  checkpoint : Option Checkpoint
  topKWarning : Option String

/-- **The locals of `dpo_train`** that outlive one iteration. -/
structure TrainState where
  currentEpoch : Nat
  currentStep : Nat
  totalSteps : Nat
  totalValidTokens : ℚ
  dpoSaveState : DPOSaveState
  loader : LoaderState

/-- How `dpo_train` ended: the `while` test failed, a `return` in the batch
loop, or an exception. -/
inductive Outcome
  | finished
  | returned
  | raised (message : String)
  deriving DecidableEq, Repr

/-- The control point: the `while` test, the `for` loop pulling its next
batch, or the end of the function. -/
inductive Pc
  | epochHead
  | batchHead
  | halted (outcome : Outcome)
  deriving DecidableEq, Repr

/-- A configuration of the machine. -/
structure Loop where
  pc : Pc
  state : TrainState

/-- A configuration that still runs. -/
def Loop.active (c : Loop) : Bool :=
  match c.pc with
  | .halted _ => false
  | _ => true

@[simp] theorem Loop.active_halted (o : Outcome) (st : TrainState) :
    (Loop.mk (.halted o) st).active = false := rfl
@[simp] theorem Loop.active_epochHead (st : TrainState) : (Loop.mk .epochHead st).active = true :=
  rfl
@[simp] theorem Loop.active_batchHead (st : TrainState) : (Loop.mk .batchHead st).active = true :=
  rfl

@[simp] theorem LoaderState.iter_nextIterState (l : LoaderState) : l.iter.nextIterState = none :=
  rfl
@[simp] theorem LoaderState.iter_numYielded (l : LoaderState) :
    l.iter.numYielded = l.nextIterState.getD 0 := rfl

/-- `metrics["global_valid_toks"]` after the step's reduction: the mean over its
micro-batches. With no micro-batch the policy reports an empty
`all_mb_metrics`, and the key is missing. -/
def stepValidToks (trainResults : TrainResults) : Except String ℚ :=
  if trainResults.allMbMetrics.isEmpty then .error (keyError "global_valid_toks")
  else .ok (mean (trainResults.allMbMetrics.map (· .globalValidToks)))

section Loop

variable (trainer : DPOTrainer)

/-- `is_last_step` of a step taken from `st`. -/
def isLastStep (st : TrainState) : Bool :=
  decide (trainer.masterConfig.dpo.maxNumSteps ≤ st.totalSteps + 1) ||
    (st.currentEpoch + 1 == trainer.masterConfig.dpo.maxNumEpochs &&
      st.currentStep + 1 == trainer.trainDataloader.len)

/-- The validation of the step labelled `t`, when `val_period` divides it. -/
def stepValidation (t : Nat) : Except String (Option (PyDict ℚ)) :=
  if 0 < trainer.masterConfig.dpo.valPeriod ∧ t % trainer.masterConfig.dpo.valPeriod = 0 then do
    let valMetrics ← validate trainer.policy trainer.maybePadLastBatch trainer.masterConfig t
      trainer.valDataloader
    pure (some valMetrics)
  else pure none

/-- `should_save_by_step`: `is_last_step or (total_steps + 1) % save_period == 0`,
whose modulo runs, and may raise, only when the step is not the last. -/
def shouldSaveByStep (isLastStep : Bool) (t : Nat) : Except String Bool :=
  if isLastStep then pure true
  else do
    let r ← pyMod t trainer.masterConfig.checkpointing.savePeriod
    pure (r == 0)

/-- `dpo_save_state["consumed_samples"] += train_global_batch_size`, done at
every step. -/
def countConsumedSamples (dpoSaveState : DPOSaveState) : DPOSaveState :=
  { dpoSaveState with
    consumedSamples := dpoSaveState.consumedSamples + trainer.masterConfig.policy.trainGlobalBatchSize }

/-- **The progress record a checkpoint after a step from `st` writes**: the
position fields set from the locals, then the stale validation metrics merged
out. `dpoSaveState` already counts the step's samples. -/
def checkpointRecord (st : TrainState) (totalValidTokens : ℚ) (valMetrics : Option (PyDict ℚ))
    (dpoSaveState : DPOSaveState) : DPOSaveState :=
  mergeValMetrics valMetrics
    { dpoSaveState with
      step := (st.currentStep + 1) % trainer.trainDataloader.len
      totalSteps := st.totalSteps + 1
      epoch := st.currentEpoch
      totalValidTokens := some totalValidTokens }

/-- **The rest of a training step once nothing has raised**: the counters, the
checkpoint decision and record, and whether the step returns. -/
def finishStep (st : TrainState) (valMetrics : Option (PyDict ℚ)) (validToks : ℚ)
    (byStep : Bool) : StepRecord × TrainState × Bool :=
  let t := st.totalSteps + 1
  let totalValidTokens := st.totalValidTokens + validToks
  let dpoSaveState := countConsumedSamples trainer st.dpoSaveState
  let byTimeout := trainer.checkSave t
  let checkpoint : Option Checkpoint :=
    if trainer.masterConfig.checkpointing.enabled && (byStep || byTimeout) then
      some ⟨t, checkpointRecord trainer st totalValidTokens valMetrics dpoSaveState,
        st.loader.numYielded + 1⟩
    else none
  (⟨t, st.currentEpoch, valMetrics, checkpoint,
      checkpoint.bind (fun ck => topKWarning trainer.masterConfig.checkpointing.metricName
        ck.trainingInfo)⟩,
    ⟨st.currentEpoch, st.currentStep + 1, t, totalValidTokens,
      (checkpoint.map (·.trainingInfo)).getD dpoSaveState,
      { st.loader with numYielded := st.loader.numYielded + 1 }⟩,
    byTimeout || decide (trainer.masterConfig.dpo.maxNumSteps ≤ t))

/-- **One pass of the batch loop's body**, from pulling the batch at the loader's
position through the augmenter to the early-return test. -/
def trainStep (st : TrainState) : Except String (StepRecord × TrainState × Bool) := do
  let _ ← refBatch trainer.policy trainer.maybePadLastBatch trainer.masterConfig false
    (trainer.trainDataloader.batchAt st.currentEpoch st.loader.numYielded)
  let valMetrics ← stepValidation trainer (st.totalSteps + 1)
  let validToks ← stepValidToks (trainer.policy.train (st.totalSteps + 1))
  let byStep ← shouldSaveByStep trainer (isLastStep trainer st) (st.totalSteps + 1)
  pure (finishStep trainer st valMetrics validToks byStep)

/-- **One iteration of the machine**, and the record of the step it took, if any. -/
def next (c : Loop) : Option StepRecord × Loop :=
  match c.pc with
  | .halted _ => (none, c)
  | .epochHead =>
    if c.state.currentEpoch < trainer.masterConfig.dpo.maxNumEpochs ∧
        c.state.totalSteps < trainer.masterConfig.dpo.maxNumSteps then
      (none, ⟨.batchHead, { c.state with loader := c.state.loader.iter }⟩)
    else (none, ⟨.halted .finished, c.state⟩)
  | .batchHead =>
    if c.state.loader.numYielded < trainer.trainDataloader.len then
      match trainStep trainer c.state with
      | .error e => (none, ⟨.halted (.raised e), c.state⟩)
      | .ok (record, st, stop) => (some record, ⟨if stop then .halted .returned else .batchHead, st⟩)
    else (none, ⟨.epochHead, { c.state with currentEpoch := c.state.currentEpoch + 1, currentStep := 0 }⟩)

/-- **A bound on the iterations left**: a full epoch takes at most `len + 2`
of them, and the batch loop at most one per batch left in its pass. -/
def measure (c : Loop) : Nat :=
  match c.pc with
  | .halted _ => 0
  | .epochHead => (trainer.masterConfig.dpo.maxNumEpochs - c.state.currentEpoch) *
      (trainer.trainDataloader.len + 2) + 1
  | .batchHead => (trainer.trainDataloader.len - c.state.loader.numYielded) +
      (trainer.masterConfig.dpo.maxNumEpochs - (c.state.currentEpoch + 1)) *
        (trainer.trainDataloader.len + 2) + 2

/-- `fuel` iterations of the machine, and the records they emit. -/
def run : Nat → Loop → List StepRecord × Loop
  | 0, c => ([], c)
  | fuel + 1, c =>
    if c.active then
      Prod.map ((next trainer c).1.toList ++ ·) id (run fuel (next trainer c).2)
    else ([], c)

/-- The machine run until it halts, which `measure` iterations suffice for. -/
def exec (c : Loop) : List StepRecord × Loop := run trainer (measure trainer c) c

/-- **`dpo_train`'s restore of its locals** from the progress record (lines
505–517), or from the default record on a fresh run; `total_valid_tokens` is
read with a default of `0`. -/
def initialState (trainDataloaderState : Option Nat) (dpoSaveState : Option DPOSaveState) :
    TrainState :=
  let s := dpoSaveState.getD DPOSaveState.default
  ⟨s.epoch, s.step, s.totalSteps, s.totalValidTokens.getD 0, s, ⟨trainDataloaderState, 0⟩⟩

/-- The validation `dpo_train` runs before its loop when `val_at_start` holds and
no step has been taken yet. -/
def initialValidation (st : TrainState) : Except String (Option (PyDict ℚ)) :=
  if trainer.masterConfig.dpo.valAtStart ∧ st.totalSteps = 0 then do
    let valMetrics ← validate trainer.policy trainer.maybePadLastBatch trainer.masterConfig 0
      trainer.valDataloader
    pure (some valMetrics)
  else pure none

end Loop

/-- **A run of `dpo_train`**: the metrics of its initial validation, the records
of its steps, and the configuration it halted in. -/
structure TrainRun where
  initialValidation : Option (PyDict ℚ)
  steps : List StepRecord
  final : Loop

/-- **`dpo_train`**, given the state `setup` restored into the train data loader
and the progress record it loaded (both absent on a fresh run). -/
def dpoTrain (trainer : DPOTrainer) (trainDataloaderState : Option Nat)
    (dpoSaveState : Option DPOSaveState) : TrainRun :=
  let st := initialState trainDataloaderState dpoSaveState
  match initialValidation trainer st with
  | .error e => ⟨none, [], ⟨.halted (.raised e), st⟩⟩
  | .ok valMetrics => ⟨valMetrics, (exec trainer ⟨.epochHead, st⟩).1, (exec trainer ⟨.epochHead, st⟩).2⟩

/-- The message of `setup`'s assertion that `feature` is off. -/
def unsupportedWithDpo (feature : String) : String :=
  feature ++ " is currently not supported with DPO. See https://github.com/NVIDIA-NeMo/RL/issues/719"

/-- **The checks `setup` makes of the configuration** before it builds anything:
DPO keeps a chosen and a rejected response next to each other in a batch, which
dynamic batching and sequence packing would reorder. -/
def setupChecks (masterConfig : MasterConfig) : Except String Unit := do
  pyAssert (!masterConfig.policy.dynamicBatchingEnabled) (unsupportedWithDpo "Dynamic batching")
  pyAssert (!masterConfig.policy.sequencePackingEnabled) (unsupportedWithDpo "Sequence packing")

/-- `total_train_iters`, the step count `setup` gives the Megatron scheduler. -/
def totalTrainIters (masterConfig : MasterConfig) (len : Nat) : Nat :=
  min masterConfig.dpo.maxNumSteps (masterConfig.dpo.maxNumEpochs * len)

section Steps

variable (trainer : DPOTrainer)

/-! ## What one iteration can do -/

/-- **What one iteration can do**, one constructor per path through the loop:
the `while` test passing or failing, the augmenter running dry, a step raising,
and a step completing with the values its fallible parts produced. -/
inductive LoopStep : Loop → Option StepRecord → Loop → Prop
  | startEpoch {st : TrainState}
      (hepoch : st.currentEpoch < trainer.masterConfig.dpo.maxNumEpochs)
      (hsteps : st.totalSteps < trainer.masterConfig.dpo.maxNumSteps) :
      LoopStep ⟨.epochHead, st⟩ none ⟨.batchHead, { st with loader := st.loader.iter }⟩
  | finish {st : TrainState}
      (h : ¬(st.currentEpoch < trainer.masterConfig.dpo.maxNumEpochs ∧
        st.totalSteps < trainer.masterConfig.dpo.maxNumSteps)) :
      LoopStep ⟨.epochHead, st⟩ none ⟨.halted .finished, st⟩
  | endEpoch {st : TrainState} (hend : trainer.trainDataloader.len ≤ st.loader.numYielded) :
      LoopStep ⟨.batchHead, st⟩ none
        ⟨.epochHead, { st with currentEpoch := st.currentEpoch + 1, currentStep := 0 }⟩
  | raise {st : TrainState} {e : String} (hpull : st.loader.numYielded < trainer.trainDataloader.len)
      (h : trainStep trainer st = .error e) :
      LoopStep ⟨.batchHead, st⟩ none ⟨.halted (.raised e), st⟩
  | train {st : TrainState} {valMetrics : Option (PyDict ℚ)} {validToks : ℚ} {byStep : Bool}
      (hpull : st.loader.numYielded < trainer.trainDataloader.len)
      (hval : stepValidation trainer (st.totalSteps + 1) = .ok valMetrics)
      (htoks : stepValidToks (trainer.policy.train (st.totalSteps + 1)) = .ok validToks)
      (hsave : shouldSaveByStep trainer (isLastStep trainer st) (st.totalSteps + 1) = .ok byStep) :
      LoopStep ⟨.batchHead, st⟩ (some (finishStep trainer st valMetrics validToks byStep).1)
        ⟨if (finishStep trainer st valMetrics validToks byStep).2.2 then .halted .returned
          else .batchHead, (finishStep trainer st valMetrics validToks byStep).2.1⟩

/-- A step that does not raise produced each of its fallible values. -/
theorem trainStep_eq_ok {st : TrainState} {x : StepRecord × TrainState × Bool}
    (h : trainStep trainer st = .ok x) :
    ∃ valMetrics validToks byStep,
      stepValidation trainer (st.totalSteps + 1) = .ok valMetrics ∧
      stepValidToks (trainer.policy.train (st.totalSteps + 1)) = .ok validToks ∧
      shouldSaveByStep trainer (isLastStep trainer st) (st.totalSteps + 1) = .ok byStep ∧
      x = finishStep trainer st valMetrics validToks byStep := by
  unfold trainStep at h
  cases hb : refBatch trainer.policy trainer.maybePadLastBatch trainer.masterConfig false
    (trainer.trainDataloader.batchAt st.currentEpoch st.loader.numYielded) <;>
    simp only [hb, error_bind, ok_bind, reduceCtorEq] at h
  cases hv : stepValidation trainer (st.totalSteps + 1) <;> simp only [hv, error_bind, ok_bind,
    reduceCtorEq] at h
  cases ht : stepValidToks (trainer.policy.train (st.totalSteps + 1)) <;>
    simp only [ht, error_bind, ok_bind, reduceCtorEq] at h
  cases hs : shouldSaveByStep trainer (isLastStep trainer st) (st.totalSteps + 1) <;>
    simp only [hs, error_bind, ok_bind, pure_eq_ok, reduceCtorEq, Except.ok.injEq] at h
  exact ⟨_, _, _, rfl, rfl, rfl, h.symm⟩

/-- **Every iteration of a running machine is a `LoopStep`.** -/
theorem next_step {c : Loop} (hc : c.active) : LoopStep trainer c (next trainer c).1 (next trainer c).2 := by
  obtain ⟨pc, st⟩ := c
  cases pc with
  | halted o => cases hc
  | epochHead =>
    by_cases h : st.currentEpoch < trainer.masterConfig.dpo.maxNumEpochs ∧
        st.totalSteps < trainer.masterConfig.dpo.maxNumSteps
    · simpa only [next, if_pos h] using LoopStep.startEpoch h.1 h.2
    · simpa only [next, if_neg h] using LoopStep.finish h
  | batchHead =>
    by_cases hpull : st.loader.numYielded < trainer.trainDataloader.len
    · cases hs : trainStep trainer st with
      | error e => simpa only [next, if_pos hpull, hs] using LoopStep.raise hpull hs
      | ok x =>
        obtain ⟨vm, tok, byStep, hval, htoks, hsave, rfl⟩ := trainStep_eq_ok trainer hs
        simpa only [next, if_pos hpull, hs] using LoopStep.train hpull hval htoks hsave
    · simpa only [next, if_neg hpull] using LoopStep.endEpoch (Nat.le_of_not_lt hpull)

/-! ## Small lemmas of a completed step -/

section Finish

variable {st : TrainState} {vm : Option (PyDict ℚ)} {tok : ℚ} {byStep : Bool}

/-- Whether a completed step writes a checkpoint. -/
def savesCheckpoint (st : TrainState) (byStep : Bool) : Bool :=
  trainer.masterConfig.checkpointing.enabled && (byStep || trainer.checkSave (st.totalSteps + 1))

@[simp] theorem finishStep_totalSteps :
    (finishStep trainer st vm tok byStep).1.totalSteps = st.totalSteps + 1 := rfl
@[simp] theorem finishStep_epoch : (finishStep trainer st vm tok byStep).1.epoch = st.currentEpoch :=
  rfl
@[simp] theorem finishStep_valMetrics : (finishStep trainer st vm tok byStep).1.valMetrics = vm := rfl
theorem finishStep_checkpoint : (finishStep trainer st vm tok byStep).1.checkpoint =
    if savesCheckpoint trainer st byStep then
      some ⟨st.totalSteps + 1, checkpointRecord trainer st (st.totalValidTokens + tok) vm
        (countConsumedSamples trainer st.dpoSaveState), st.loader.numYielded + 1⟩
    else none := rfl
@[simp] theorem finishStep_topKWarning : (finishStep trainer st vm tok byStep).1.topKWarning =
    (finishStep trainer st vm tok byStep).1.checkpoint.bind
      (fun ck => topKWarning trainer.masterConfig.checkpointing.metricName ck.trainingInfo) := rfl
@[simp] theorem finishStep_currentEpoch :
    (finishStep trainer st vm tok byStep).2.1.currentEpoch = st.currentEpoch := rfl
@[simp] theorem finishStep_currentStep :
    (finishStep trainer st vm tok byStep).2.1.currentStep = st.currentStep + 1 := rfl
@[simp] theorem finishStep_state_totalSteps :
    (finishStep trainer st vm tok byStep).2.1.totalSteps = st.totalSteps + 1 := rfl
@[simp] theorem finishStep_totalValidTokens :
    (finishStep trainer st vm tok byStep).2.1.totalValidTokens = st.totalValidTokens + tok := rfl
@[simp] theorem finishStep_loader : (finishStep trainer st vm tok byStep).2.1.loader =
    { st.loader with numYielded := st.loader.numYielded + 1 } := rfl
/-- After a step the record holds the checkpoint's progress record if one was
written, and otherwise the old one with the step's samples counted. -/
theorem finishStep_dpoSaveState : (finishStep trainer st vm tok byStep).2.1.dpoSaveState =
    (((finishStep trainer st vm tok byStep).1.checkpoint).map (·.trainingInfo)).getD
      (countConsumedSamples trainer st.dpoSaveState) := rfl

/-- **A step's checkpoint**, when it writes one: the step's label, the record of
`checkpointRecord`, and the loader position after the step's batch; the
progress record the loop keeps is then that record. -/
theorem finishStep_checkpoint_eq_some {ck : Checkpoint}
    (h : (finishStep trainer st vm tok byStep).1.checkpoint = some ck) :
    savesCheckpoint trainer st byStep = true ∧
      ck = ⟨st.totalSteps + 1, checkpointRecord trainer st (st.totalValidTokens + tok) vm
        (countConsumedSamples trainer st.dpoSaveState), st.loader.numYielded + 1⟩ ∧
      (finishStep trainer st vm tok byStep).2.1.dpoSaveState = ck.trainingInfo := by
  rw [finishStep_dpoSaveState, h]
  rw [finishStep_checkpoint] at h
  split at h
  · exact ⟨‹_›, (Option.some.inj h).symm, rfl⟩
  · cases h

theorem finishStep_checkpoint_eq_none
    (h : (finishStep trainer st vm tok byStep).1.checkpoint = none) :
    (finishStep trainer st vm tok byStep).2.1.dpoSaveState =
      countConsumedSamples trainer st.dpoSaveState := by
  rw [finishStep_dpoSaveState, h]; rfl

@[simp] theorem countConsumedSamples_metrics (s : DPOSaveState) :
    (countConsumedSamples trainer s).metrics = s.metrics := rfl
@[simp] theorem countConsumedSamples_consumedSamples (s : DPOSaveState) :
    (countConsumedSamples trainer s).consumedSamples =
      s.consumedSamples + trainer.masterConfig.policy.trainGlobalBatchSize := rfl

/-- Every step counts its samples, whether or not it checkpoints. -/
@[simp] theorem finishStep_consumedSamples :
    (finishStep trainer st vm tok byStep).2.1.dpoSaveState.consumedSamples =
      st.dpoSaveState.consumedSamples + trainer.masterConfig.policy.trainGlobalBatchSize := by
  rw [finishStep_dpoSaveState, finishStep_checkpoint]
  split <;> rfl
@[simp] theorem finishStep_stop : (finishStep trainer st vm tok byStep).2.2 =
    (trainer.checkSave (st.totalSteps + 1) ||
      decide (trainer.masterConfig.dpo.maxNumSteps ≤ st.totalSteps + 1)) := rfl

@[simp] theorem checkpointRecord_epoch (st : TrainState) (v : ℚ) (vm : Option (PyDict ℚ))
    (s : DPOSaveState) : (checkpointRecord trainer st v vm s).epoch = st.currentEpoch := rfl
@[simp] theorem checkpointRecord_step (st : TrainState) (v : ℚ) (vm : Option (PyDict ℚ))
    (s : DPOSaveState) : (checkpointRecord trainer st v vm s).step =
      (st.currentStep + 1) % trainer.trainDataloader.len := rfl
@[simp] theorem checkpointRecord_totalSteps (st : TrainState) (v : ℚ) (vm : Option (PyDict ℚ))
    (s : DPOSaveState) : (checkpointRecord trainer st v vm s).totalSteps = st.totalSteps + 1 := rfl
@[simp] theorem checkpointRecord_consumedSamples (st : TrainState) (v : ℚ)
    (vm : Option (PyDict ℚ)) (s : DPOSaveState) :
    (checkpointRecord trainer st v vm s).consumedSamples = s.consumedSamples := rfl
@[simp] theorem checkpointRecord_totalValidTokens (st : TrainState) (v : ℚ)
    (vm : Option (PyDict ℚ)) (s : DPOSaveState) :
    (checkpointRecord trainer st v vm s).totalValidTokens = some v := rfl

end Finish

/-! ## Halting -/

/-- **Every iteration lowers the measure.** -/
theorem measure_next_lt {c : Loop} (hc : c.active) :
    measure trainer (next trainer c).2 < measure trainer c := by
  have hstep := next_step trainer hc
  generalize (next trainer c).1 = o, (next trainer c).2 = c' at hstep
  cases hstep with
  | @startEpoch st hepoch =>
    simp only [measure]
    have : trainer.masterConfig.dpo.maxNumEpochs - st.currentEpoch =
        trainer.masterConfig.dpo.maxNumEpochs - (st.currentEpoch + 1) + 1 := by omega
    rw [this, Nat.add_mul]
    omega
  | finish => simp [measure]
  | endEpoch => simp only [measure]; omega
  | raise => simp [measure]
  | train hpull =>
    split
    · simp [measure]
    · simp only [measure, finishStep_loader, finishStep_currentEpoch]; omega

theorem measure_pos {c : Loop} (hc : c.active) : 0 < measure trainer c := by
  obtain ⟨pc, st⟩ := c
  cases pc <;> simp_all [measure]

@[simp] theorem run_zero (c : Loop) : run trainer 0 c = ([], c) := rfl

theorem run_succ_of_active {c : Loop} (hc : c.active) (fuel : Nat) :
    run trainer (fuel + 1) c =
      ((next trainer c).1.toList ++ (run trainer fuel (next trainer c).2).1,
        (run trainer fuel (next trainer c).2).2) := by
  rw [run, if_pos hc]; rfl

theorem run_of_not_active {c : Loop} (hc : c.active = false) (fuel : Nat) :
    run trainer fuel c = ([], c) := by
  cases fuel <;> simp [run, hc]

/-- **`measure` iterations suffice**: the machine has halted by then. -/
theorem run_halts {c : Loop} {fuel : Nat} (h : measure trainer c ≤ fuel) :
    (run trainer fuel c).2.active = false := by
  induction fuel generalizing c with
  | zero =>
    cases hc : c.active
    · exact hc
    · exact absurd h (Nat.not_le_of_lt (measure_pos trainer hc))
  | succ fuel ih =>
    cases hc : c.active
    · rw [run_of_not_active trainer hc]; exact hc
    · rw [run_succ_of_active trainer hc]
      exact ih (by have := measure_next_lt trainer hc; omega)

/-- Once halted, more fuel changes nothing. -/
theorem run_add_of_halted {c : Loop} {fuel : Nat} (h : (run trainer fuel c).2.active = false)
    (extra : Nat) : run trainer (fuel + extra) c = run trainer fuel c := by
  induction fuel generalizing c with
  | zero => simp only [run_zero] at h; simp [run_of_not_active trainer h]
  | succ fuel ih =>
    cases hc : c.active
    · simp [run_of_not_active trainer hc]
    · rw [run_succ_of_active trainer hc] at h
      rw [Nat.add_right_comm, run_succ_of_active trainer hc, run_succ_of_active trainer hc, ih h]

theorem run_eq_exec {c : Loop} {fuel : Nat} (h : measure trainer c ≤ fuel) :
    run trainer fuel c = exec trainer c := by
  obtain ⟨extra, rfl⟩ := Nat.exists_eq_add_of_le h
  exact run_add_of_halted trainer (run_halts trainer le_rfl) extra

theorem exec_halted (c : Loop) : (exec trainer c).2.active = false := run_halts trainer le_rfl

theorem exec_of_not_active {c : Loop} (hc : c.active = false) : exec trainer c = ([], c) :=
  run_of_not_active trainer hc _

/-- **The unfolding of `exec`**: a running machine takes its iteration and
carries on. -/
theorem exec_of_active {c : Loop} (hc : c.active) :
    exec trainer c = ((next trainer c).1.toList ++ (exec trainer (next trainer c).2).1,
      (exec trainer (next trainer c).2).2) := by
  have hlt := measure_next_lt trainer hc
  obtain ⟨m, hm⟩ : ∃ m, measure trainer c = m + 1 := ⟨_, (Nat.succ_pred_eq_of_pos
    (measure_pos trainer hc)).symm⟩
  rw [exec, hm, run_succ_of_active trainer hc, run_eq_exec trainer (by omega)]

/-- An iteration that emits nothing leaves the execution's records alone. -/
theorem exec_of_silent {c : Loop} (hc : c.active) (hsilent : (next trainer c).1 = none) :
    exec trainer c = exec trainer (next trainer c).2 := by
  rw [exec_of_active trainer hc, hsilent]; rfl

/-! ## Executions -/

/-- **`Reaches c rs d`**: the machine goes from `c` to `d`, emitting the records
`rs` on the way. -/
inductive Reaches : Loop → List StepRecord → Loop → Prop
  | refl (c : Loop) : Reaches c [] c
  | step {c : Loop} {rs : List StepRecord} {d : Loop} (hc : c.active)
      (h : Reaches (next trainer c).2 rs d) : Reaches c ((next trainer c).1.toList ++ rs) d

/-- **The run invariant**: a property of the records so far and the
configuration that every `LoopStep` preserves holds wherever the machine goes. -/
theorem Reaches.inv {Inv : List StepRecord → Loop → Prop}
    (hstep : ∀ rs c o c', Inv rs c → LoopStep trainer c o c' → Inv (rs ++ o.toList) c')
    {c d : Loop} {rs rs₀ : List StepRecord} (h : Reaches trainer c rs d) (h₀ : Inv rs₀ c) :
    Inv (rs₀ ++ rs) d := by
  induction h generalizing rs₀ with
  | refl => simpa using h₀
  | step hc _ ih => simpa using ih (hstep _ _ _ _ h₀ (next_step trainer hc))

theorem reaches_exec (c : Loop) : Reaches trainer c (exec trainer c).1 (exec trainer c).2 := by
  obtain ⟨m, hm⟩ : ∃ m, measure trainer c = m := ⟨_, rfl⟩
  induction m using Nat.strong_induction_on generalizing c with
  | _ m ih =>
    cases hc : c.active
    · rw [exec_of_not_active trainer hc]; exact .refl c
    · rw [exec_of_active trainer hc]
      exact .step hc (ih _ (hm ▸ measure_next_lt trainer hc) _ rfl)

theorem exec_of_reaches {c d : Loop} {rs : List StepRecord} (h : Reaches trainer c rs d) :
    exec trainer c = (rs ++ (exec trainer d).1, (exec trainer d).2) := by
  induction h with
  | refl => rfl
  | step hc _ ih => rw [exec_of_active trainer hc, ih]; simp

/-- **Cutting an execution at one of its records**: the `i`-th record is emitted
by an iteration between an execution emitting the first `i` and one emitting
the rest. -/
theorem Reaches.split {c d : Loop} {rs : List StepRecord} (h : Reaches trainer c rs d) {i : Nat}
    {r : StepRecord} (hi : rs[i]? = some r) :
    ∃ e, Reaches trainer c (rs.take i) e ∧ e.active ∧ (next trainer e).1 = some r ∧
      Reaches trainer (next trainer e).2 (rs.drop (i + 1)) d := by
  induction h generalizing i with
  | refl => simp at hi
  | @step c rs d hc hrest ih =>
    cases ho : (next trainer c).1 with
    | none =>
      simp only [ho, Option.toList_none, List.nil_append] at hi ⊢
      obtain ⟨e, he, hea, her, hed⟩ := ih hi
      exact ⟨e, by simpa [ho] using Reaches.step hc he, hea, her, hed⟩
    | some r' =>
      simp only [ho, Option.toList_some, List.singleton_append] at hi ⊢
      cases i with
      | zero =>
        simp only [List.getElem?_cons_zero, Option.some.injEq] at hi
        subst hi
        exact ⟨c, .refl c, hc, ho, by simpa using hrest⟩
      | succ i =>
        simp only [List.getElem?_cons_succ] at hi
        obtain ⟨e, he, hea, her, hed⟩ := ih hi
        exact ⟨e, by simpa [ho] using Reaches.step hc he, hea, her, by simpa using hed⟩

/-- **The only iteration that emits a record is a completed step.** -/
theorem LoopStep.eq_train {c c' : Loop} {r : StepRecord} (h : LoopStep trainer c (some r) c') :
    ∃ st valMetrics validToks byStep, c = ⟨.batchHead, st⟩ ∧
      st.loader.numYielded < trainer.trainDataloader.len ∧
      stepValidation trainer (st.totalSteps + 1) = .ok valMetrics ∧
      stepValidToks (trainer.policy.train (st.totalSteps + 1)) = .ok validToks ∧
      shouldSaveByStep trainer (isLastStep trainer st) (st.totalSteps + 1) = .ok byStep ∧
      r = (finishStep trainer st valMetrics validToks byStep).1 ∧
      c' = ⟨if (finishStep trainer st valMetrics validToks byStep).2.2 then .halted .returned
        else .batchHead, (finishStep trainer st valMetrics validToks byStep).2.1⟩ := by
  cases h with
  | train hpull hval htoks hsave => exact ⟨_, _, _, _, rfl, hpull, hval, htoks, hsave, rfl, rfl⟩

/-- **A step that raises ends the execution**, emitting nothing and leaving the
state as it was. -/
theorem exec_of_trainStep_error {st : TrainState} {e : String}
    (hpull : st.loader.numYielded < trainer.trainDataloader.len)
    (he : trainStep trainer st = .error e) :
    exec trainer ⟨.batchHead, st⟩ = ([], ⟨.halted (.raised e), st⟩) := by
  have hnext : next trainer ⟨.batchHead, st⟩ = (none, ⟨.halted (.raised e), st⟩) := by
    simp only [next, if_pos hpull, he]
  rw [exec_of_silent trainer (Loop.active_batchHead _) (by rw [hnext]), hnext,
    exec_of_not_active trainer (Loop.active_halted _ st)]

/-- **From the head of the batch loop with a batch left, the machine takes a step
or raises**: an execution from there that emits nothing has raised. -/
theorem exec_pull_silent {st : TrainState}
    (hpull : st.loader.numYielded < trainer.trainDataloader.len)
    (hnil : (exec trainer ⟨.batchHead, st⟩).1 = []) :
    ∃ e, (exec trainer ⟨.batchHead, st⟩).2.pc = .halted (.raised e) := by
  cases ht : trainStep trainer st with
  | error e => exact ⟨e, by rw [exec_of_trainStep_error trainer hpull ht]⟩
  | ok x =>
    rw [exec_of_active trainer (Loop.active_batchHead _)] at hnil
    simp [next, hpull, ht] at hnil

variable {trainer}

section Runs

variable {s : Option Nat} {d : Option DPOSaveState}

theorem dpoTrain_of_error {e : String} (h : initialValidation trainer (initialState s d) = .error e) :
    dpoTrain trainer s d = ⟨none, [], ⟨.halted (.raised e), initialState s d⟩⟩ := by
  simp only [dpoTrain, h]

theorem dpoTrain_of_ok {vm : Option (PyDict ℚ)}
    (h : initialValidation trainer (initialState s d) = .ok vm) :
    dpoTrain trainer s d = ⟨vm, (exec trainer ⟨.epochHead, initialState s d⟩).1,
      (exec trainer ⟨.epochHead, initialState s d⟩).2⟩ := by
  simp only [dpoTrain, h]

/-- The initial validation runs only on a run that has taken no step. -/
theorem initialValidation_of_ne_zero {st : TrainState} (h : st.totalSteps ≠ 0) :
    initialValidation trainer st = .ok none := by
  simp [initialValidation, h]

theorem dpoTrain_final_halted : (dpoTrain trainer s d).final.active = false := by
  cases hv : initialValidation trainer (initialState s d)
  · rw [dpoTrain_of_error hv]; rfl
  · rw [dpoTrain_of_ok hv]; exact exec_halted trainer _

/-- A run with records got past its initial validation, and is an execution of
the machine from the restored state. -/
theorem dpoTrain_reaches (h : (dpoTrain trainer s d).steps ≠ []) :
    Reaches trainer ⟨.epochHead, initialState s d⟩ (dpoTrain trainer s d).steps
      (dpoTrain trainer s d).final := by
  cases hv : initialValidation trainer (initialState s d)
  · rw [dpoTrain_of_error hv] at h; exact absurd rfl h
  · rw [dpoTrain_of_ok hv]; exact reaches_exec trainer _

/-- **A run invariant at a record**: the `i`-th record of a run is emitted by a
completed step from a configuration where an invariant of the first `i`
records holds. -/
theorem dpoTrain_record_inv {Inv : List StepRecord → Loop → Prop}
    (hstep : ∀ rs c o c', Inv rs c → LoopStep trainer c o c' → Inv (rs ++ o.toList) c')
    (h₀ : Inv [] ⟨.epochHead, initialState s d⟩)
    {i : Nat} {r : StepRecord} (h : (dpoTrain trainer s d).steps[i]? = some r) :
    ∃ c c', Inv ((dpoTrain trainer s d).steps.take i) c ∧ LoopStep trainer c (some r) c' := by
  have hne : (dpoTrain trainer s d).steps ≠ [] := by rintro h'; simp [h'] at h
  obtain ⟨e, he, hea, her, -⟩ := (dpoTrain_reaches hne).split trainer h
  exact ⟨e, _, by simpa using he.inv trainer hstep h₀, her ▸ next_step trainer hea⟩

end Runs

end Steps

end NemoRl
