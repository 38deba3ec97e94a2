import NemoRl.Resume
import NemoRl.Schedule

/-!
# What a job trains on, and what it leaves behind

The step records of a run say which steps were taken, with which labels and
epochs; they do not say which data each step trained on. That is decided
elsewhere, by two counters that must agree: the position the data loader has
reached in its pass, which `state_dict()` saves, and the epoch and step count
of the progress record. A restart reads the two back separately. Had the
record named the next epoch while the loader's saved pass was spent – or the
loader been saved one batch early – a restarted run would skip a pass, or
train a batch a second time, and still take steps with the right labels.

`trainedBatch` observes what the step hands `policy.train`: the loader's batch
at the pass's position, once the augmenter has let it through and attached its
reference log-probabilities. The step trains on it before it validates, reads
its metrics or decides on a checkpoint, so a step that raises after that point
has still trained. Along a run these batches are exactly the schedule's
(`dpoTrainBatches_fresh`): the `j`-th batch trained overall is batch
`j mod len` of the pass of epoch `j / len`, one per step, and one more only when
the run raised after training on it. A restart from any checkpoint trains on
exactly the batches the fresh run trained on after it (`dpoTrainBatches_resume`).
The invariant that carries both is `LoaderAligned`: the steps taken so far are
the whole epochs before the current one and the batches its pass has yielded.
With the `while` test, it also bounds the count: no batch is trained past
`total_train_iters`, not even by a step that raises, so `policy.train` runs at
most that many times in a fresh run, and in a restart with the steps before
its checkpoint counted (`dpoTrainBatches_length_le`).

A run that ends without raising has also saved a checkpoint of its last step
(`dpoTrain_last_step_checkpointed`), so a job that stops cleanly leaves nothing
to redo. A `return` comes from the timeout or the step ceiling, and both make
the step save; the `while` loop of a fresh run ends only after the last batch
of the last epoch, which `is_last_step` names.
-/

namespace NemoRl

/-! ## The batches `policy.train` receives -/

section Batches

variable (trainer : DPOTrainer)

/-- **The batch `policy.train` receives in the iteration from `c`**: at the head
of the batch loop with a batch left in the pass, the loader's batch at the
pass's position, as the augmenter yields it – if it yields it. -/
def trainedBatch (c : Loop) : Option BatchedDataDict :=
  match c.pc with
  | .batchHead =>
    if c.state.loader.numYielded < trainer.trainDataloader.len then
      (refBatch trainer.policy trainer.maybePadLastBatch trainer.masterConfig false
        (trainer.trainDataloader.batchAt c.state.currentEpoch c.state.loader.numYielded)).toOption
    else none
  | _ => none

/-- `fuel` iterations of the machine, and the batches `policy.train` receives
on the way. -/
def runBatches : Nat → Loop → List BatchedDataDict
  | 0, _ => []
  | fuel + 1, c =>
    if c.active then (trainedBatch trainer c).toList ++ runBatches fuel (next trainer c).2
    else []

/-- The batches of the machine's complete execution from `c`. -/
def execBatches (c : Loop) : List BatchedDataDict := runBatches trainer (measure trainer c) c

/-- **The batch of the `j`-th step of the schedule** (counting from `0`): batch
`j mod len` of the pass of epoch `j / len`, with its reference log-probabilities. -/
def scheduledBatch (j : Nat) : BatchedDataDict :=
  withReferenceLogprobs trainer.policy trainer.masterConfig false
    (trainer.trainDataloader.batchAt (j / trainer.trainDataloader.len)
      (j % trainer.trainDataloader.len))

/-- The batch a run that raised in a step had trained on first, if any. A
raising step leaves the state as it was, so this is the batch of the batch
loop's head in the final state. -/
def raisedBatch (d : Loop) : List BatchedDataDict :=
  match d.pc with
  | .halted (.raised _) => (trainedBatch trainer ⟨.batchHead, d.state⟩).toList
  | _ => []

/-- **The loader and the step count agree**: the steps so far are the epochs
before the current one and the batches of its pass – those the loader's next
pass will skip, at an epoch's head, and those its pass has yielded inside the
epoch. A run that raised is left out. -/
def LoaderAligned : Loop → Prop
  | ⟨.epochHead, st⟩ => st.loader.nextIterState.getD 0 ≤ trainer.trainDataloader.len ∧
      st.totalSteps = st.currentEpoch * trainer.trainDataloader.len + st.loader.nextIterState.getD 0
  | ⟨.batchHead, st⟩ => st.loader.nextIterState = none ∧
      st.loader.numYielded ≤ trainer.trainDataloader.len ∧
      st.totalSteps = st.currentEpoch * trainer.trainDataloader.len + st.loader.numYielded
  | ⟨.halted (.raised _), _⟩ => False
  | ⟨.halted _, _⟩ => True

theorem runBatches_succ_of_active {c : Loop} (hc : c.active) (fuel : Nat) :
    runBatches trainer (fuel + 1) c =
      (trainedBatch trainer c).toList ++ runBatches trainer fuel (next trainer c).2 := by
  rw [runBatches, if_pos hc]

theorem runBatches_of_not_active {c : Loop} (hc : c.active = false) (fuel : Nat) :
    runBatches trainer fuel c = [] := by
  cases fuel <;> simp [runBatches, hc]

/-- Iterations after the machine has halted hand `policy.train` nothing. -/
theorem runBatches_add_of_halted {c : Loop} {fuel : Nat}
    (h : (run trainer fuel c).2.active = false) (extra : Nat) :
    runBatches trainer (fuel + extra) c = runBatches trainer fuel c := by
  induction fuel generalizing c with
  | zero => simp only [run_zero] at h; simp [runBatches_of_not_active trainer h]
  | succ fuel ih =>
    cases hc : c.active
    · simp [runBatches_of_not_active trainer hc]
    · rw [run_succ_of_active trainer hc] at h
      rw [Nat.add_right_comm, runBatches_succ_of_active trainer hc,
        runBatches_succ_of_active trainer hc, ih h]

theorem runBatches_eq_execBatches {c : Loop} {fuel : Nat} (h : measure trainer c ≤ fuel) :
    runBatches trainer fuel c = execBatches trainer c := by
  obtain ⟨extra, rfl⟩ := Nat.exists_eq_add_of_le h
  exact runBatches_add_of_halted trainer (run_halts trainer le_rfl) extra

theorem execBatches_of_not_active {c : Loop} (hc : c.active = false) :
    execBatches trainer c = [] :=
  runBatches_of_not_active trainer hc _

/-- **The unfolding of `execBatches`**, as `exec_of_active` unfolds `exec`. -/
theorem execBatches_of_active {c : Loop} (hc : c.active) :
    execBatches trainer c =
      (trainedBatch trainer c).toList ++ execBatches trainer (next trainer c).2 := by
  have hlt := measure_next_lt trainer hc
  obtain ⟨m, hm⟩ : ∃ m, measure trainer c = m + 1 :=
    ⟨_, (Nat.succ_pred_eq_of_pos (measure_pos trainer hc)).symm⟩
  rw [execBatches, hm, runBatches_succ_of_active trainer hc,
    runBatches_eq_execBatches trainer (by omega)]

/-- **An iteration that takes a training step hands `policy.train` the loader's
batch at the pass's position**, with its reference log-probabilities. -/
theorem trainedBatch_of_record {c : Loop} {r : StepRecord} (h : (next trainer c).1 = some r) :
    trainedBatch trainer c = some (withReferenceLogprobs trainer.policy trainer.masterConfig false
      (trainer.trainDataloader.batchAt c.state.currentEpoch c.state.loader.numYielded)) := by
  obtain ⟨pc, st⟩ := c
  cases pc with
  | batchHead =>
    by_cases hpull : st.loader.numYielded < trainer.trainDataloader.len
    · cases hs : trainStep trainer st with
      | error e => simp [next, hpull, hs] at h
      | ok x =>
        unfold trainStep at hs
        cases hb : refBatch trainer.policy trainer.maybePadLastBatch trainer.masterConfig false
            (trainer.trainDataloader.batchAt st.currentEpoch st.loader.numYielded) with
        | error e => simp [hb] at hs
        | ok b =>
          simp [trainedBatch, hpull, hb, Except.toOption,
            (refBatch_train_eq_ok trainer.maybePadLastBatch hb).2]
    · simp [next, hpull] at h
  | epochHead => simp only [next] at h; split at h <;> cases h
  | halted o => cases h

/-- The schedule's batch at a position inside an epoch is that position's batch. -/
theorem scheduledBatch_eq {e n : Nat} (hn : n < trainer.trainDataloader.len) :
    scheduledBatch trainer (e * trainer.trainDataloader.len + n) =
      withReferenceLogprobs trainer.policy trainer.masterConfig false
        (trainer.trainDataloader.batchAt e n) := by
  have hL : 0 < trainer.trainDataloader.len := by omega
  rw [scheduledBatch, Nat.mul_comm, Nat.mul_add_div hL, Nat.div_eq_of_lt hn, Nat.add_zero,
    Nat.mul_add_mod, Nat.mod_eq_of_lt hn]

/-- **An iteration that does not raise keeps the loader aligned** with the step
count. -/
theorem loaderAligned_step {c c' : Loop} {o : Option StepRecord} (hi : LoaderAligned trainer c)
    (h : LoopStep trainer c o c') (hc' : ∀ e, c'.pc ≠ .halted (.raised e)) :
    LoaderAligned trainer c' := by
  cases h with
  | startEpoch => exact ⟨rfl, hi⟩
  | finish => trivial
  | endEpoch =>
    obtain ⟨hn, hle, ht⟩ := hi
    exact ⟨by simp [hn], by simp only [hn, Option.getD_none, Nat.succ_mul]; omega⟩
  | raise => exact absurd rfl (hc' _)
  | train hpull =>
    obtain ⟨hn, -, ht⟩ := hi
    split
    · trivial
    · exact ⟨hn, hpull, by simp [ht]; omega⟩

/-- **The batches of an execution from an aligned configuration are the
schedule's**, from the step count reached on: one per step, and one more when
the execution raised after training on it. -/
theorem execBatches_of_aligned {c : Loop} (hc : LoaderAligned trainer c) :
    execBatches trainer c = (List.range' c.state.totalSteps
      ((exec trainer c).1.length + (raisedBatch trainer (exec trainer c).2).length)).map
        (scheduledBatch trainer) := by
  obtain ⟨m, hm⟩ : ∃ m, measure trainer c = m := ⟨_, rfl⟩
  induction m using Nat.strong_induction_on generalizing c with
  | _ m ih =>
    cases hact : c.active
    · rw [execBatches_of_not_active trainer hact, exec_of_not_active trainer hact]
      obtain ⟨pc, st⟩ := c
      cases pc with
      | halted o => cases o <;> first | rfl | exact hc.elim
      | _ => cases hact
    · have hrec := fun r (h : (next trainer c).1 = some r) => trainedBatch_of_record trainer h
      have hstep := next_step trainer hact
      have hlt := measure_next_lt trainer hact
      have hal := loaderAligned_step trainer hc hstep
      rw [execBatches_of_active trainer hact, exec_of_active trainer hact]
      generalize (next trainer c).1 = o, (next trainer c).2 = c' at hstep hlt hrec hal
      cases hstep with
      | @startEpoch st =>
        rw [ih _ (hm ▸ hlt) (hal fun _ => nofun) rfl]
        rfl
      | @finish st =>
        rw [execBatches_of_not_active trainer (Loop.active_halted _ st),
          exec_of_not_active trainer (Loop.active_halted _ st)]
        rfl
      | @endEpoch st hend =>
        have hnone : trainedBatch trainer ⟨.batchHead, st⟩ = none := by
          simp [trainedBatch, Nat.not_lt.2 hend]
        rw [ih _ (hm ▸ hlt) (hal fun _ => nofun) rfl, hnone]
        rfl
      | @raise st e hpull =>
        obtain ⟨-, -, ht⟩ := hc
        rw [execBatches_of_not_active trainer (Loop.active_halted _ st),
          exec_of_not_active trainer (Loop.active_halted _ st)]
        simp only [raisedBatch, List.nil_append, List.append_nil, List.length_nil, Nat.zero_add]
        cases hb : trainedBatch trainer ⟨.batchHead, st⟩ with
        | none => rfl
        | some b =>
          -- the step trained on its batch before it raised
          simp only [trainedBatch, if_pos hpull] at hb
          cases hr : refBatch trainer.policy trainer.maybePadLastBatch trainer.masterConfig false
              (trainer.trainDataloader.batchAt st.currentEpoch st.loader.numYielded) <;>
            simp only [hr, Except.toOption, reduceCtorEq, Option.some.injEq] at hb
          rw [← hb, (refBatch_train_eq_ok trainer.maybePadLastBatch hr).2]
          simp [ht, scheduledBatch_eq trainer hpull]
      | @train st vm tok byStep hpull =>
        have hc' := hal fun _ => by dsimp only; split <;> nofun
        obtain ⟨-, -, ht⟩ := hc
        rw [ih _ (hm ▸ hlt) hc' rfl, hrec _ rfl, ← scheduledBatch_eq trainer hpull, ← ht]
        simp only [Option.toList_some, List.singleton_append, List.length_cons,
          finishStep_state_totalSteps]
        rw [show (exec trainer _).1.length + 1 + _ = _ + 1 from Nat.add_right_comm _ _ _,
          List.range'_succ, List.map_cons]

end Batches

/-! ## The batches of a run -/

/-- **The batches `policy.train` receives in a run of `dpo_train`**: none when
the initial validation raises, and otherwise those of the loop's execution. -/
def dpoTrainBatches (trainer : DPOTrainer) (trainDataloaderState : Option Nat)
    (dpoSaveState : Option DPOSaveState) : List BatchedDataDict :=
  match initialValidation trainer (initialState trainDataloaderState dpoSaveState) with
  | .error _ => []
  | .ok _ => execBatches trainer ⟨.epochHead, initialState trainDataloaderState dpoSaveState⟩

section Runs

variable {trainer : DPOTrainer} {s : Option Nat} {d : Option DPOSaveState}

/-- **The batches of a run whose loader agrees with its record** are the
schedule's from the record's step count on: one per step, and one more when the
run raised in a step. -/
theorem dpoTrainBatches_of_aligned {vm : Option (PyDict ℚ)}
    (hv : initialValidation trainer (initialState s d) = .ok vm)
    (h : LoaderAligned trainer ⟨.epochHead, initialState s d⟩) :
    dpoTrainBatches trainer s d = (List.range' (d.getD .default).totalSteps
      ((dpoTrain trainer s d).steps.length +
        (raisedBatch trainer (dpoTrain trainer s d).final).length)).map (scheduledBatch trainer) := by
  simp only [dpoTrainBatches, hv, dpoTrain_of_ok hv]
  exact execBatches_of_aligned trainer h

/-- A run with a step got past its initial validation. -/
theorem initialValidation_eq_ok {i : Nat} {r : StepRecord}
    (hr : (dpoTrain trainer s d).steps[i]? = some r) :
    ∃ vm, initialValidation trainer (initialState s d) = .ok vm := by
  cases hv : initialValidation trainer (initialState s d) with
  | error e => simp [dpoTrain_of_error hv] at hr
  | ok vm => exact ⟨vm, rfl⟩

theorem loaderAligned_initial : LoaderAligned trainer ⟨.epochHead, initialState none none⟩ :=
  ⟨Nat.zero_le _, by simp [initialState, DPOSaveState.default]⟩

/-- **A checkpoint of a fresh run saves a loader position that agrees with its
record**: the record's steps are the epochs before its epoch and the batches
the saved pass has yielded. -/
theorem fresh_checkpoint_aligned {i : Nat} {r : StepRecord} {ck : Checkpoint}
    (hr : (dpoTrain trainer none none).steps[i]? = some r) (hck : r.checkpoint = some ck) :
    ck.trainDataloader ≤ trainer.trainDataloader.len ∧
      ck.trainingInfo.totalSteps =
        ck.trainingInfo.epoch * trainer.trainDataloader.len + ck.trainDataloader ∧
      ck.trainingInfo.totalSteps = i + 1 := by
  have hlabel : ck.trainingInfo.totalSteps = i + 1 := by
    simpa [DPOSaveState.default] using
      ((dpoTrain_record_counters hr).2 ck hck).1.trans (dpoTrain_record_counters hr).1
  obtain ⟨c, c', hpos, hstep⟩ := dpoTrain_record_inv
    (fun _ _ _ _ hi h => positioned_step trainer hi h) (positioned_initial trainer) hr
  obtain ⟨st, vm, tok, byStep, rfl, hpull, -, -, -, rfl, -⟩ := hstep.eq_train
  obtain ⟨-, hs, -, ht, -⟩ := hpos
  obtain ⟨-, rfl, -⟩ := finishStep_checkpoint_eq_some trainer hck
  exact ⟨hpull, by simp only [checkpointRecord_totalSteps, checkpointRecord_epoch]; omega, hlabel⟩

/-- **The batches of a restart from a checkpoint of a fresh run** are the
schedule's from the checkpointed step on. -/
theorem dpoTrainBatches_restart {i : Nat} {r : StepRecord} {ck : Checkpoint}
    (hr : (dpoTrain trainer none none).steps[i]? = some r) (hck : r.checkpoint = some ck) :
    dpoTrainBatches trainer (some ck.trainDataloader) (some ck.trainingInfo) =
      (List.range' (i + 1)
        ((dpoTrain trainer (some ck.trainDataloader) (some ck.trainingInfo)).steps.length +
          (raisedBatch trainer
            (dpoTrain trainer (some ck.trainDataloader) (some ck.trainingInfo)).final).length)).map
        (scheduledBatch trainer) := by
  obtain ⟨hle, halign, hlabel⟩ := fresh_checkpoint_aligned hr hck
  have hv : initialValidation trainer
      (initialState (some ck.trainDataloader) (some ck.trainingInfo)) = .ok none :=
    initialValidation_of_ne_zero (by simp [initialState, hlabel])
  rw [dpoTrainBatches_of_aligned hv ⟨hle, halign⟩]
  simp only [Option.getD_some, hlabel]

end Runs

/-- Dropping the first `k` values of a map over `[0, n)` leaves the map over `[k, n)`. -/
theorem map_range'_drop {α : Type} (f : Nat → α) {k n : Nat} (h : k ≤ n) :
    ((List.range' 0 n).map f).drop k = (List.range' k (n - k)).map f := by
  have hsplit : List.range' 0 n = List.range' 0 k ++ List.range' (0 + k) (n - k) := by
    rw [List.range'_append_1, Nat.sub_add_cancel h]
  rw [hsplit, List.map_append, List.drop_left' (by simp), Nat.zero_add]

/-- **A restart trains on the batches the fresh run trained on after its
checkpoint.** Restarted from the checkpoint a fresh run wrote at its
`(i + 1)`-th step – before its last step, or at any step of a run that did not
return – with the loader state and progress record saved there, `dpo_train`
hands `policy.train` exactly the batches the fresh run handed it after that
step, in the same order: the saved loader position and the saved step count
agree, so no batch is trained twice or skipped. -/
theorem dpoTrainBatches_resume (trainer : DPOTrainer) (i : Nat) (r : StepRecord) (ck : Checkpoint)
    (hr : (dpoTrain trainer none none).steps[i]? = some r) (hck : r.checkpoint = some ck)
    (hgo : i + 1 < (dpoTrain trainer none none).steps.length ∨
      (dpoTrain trainer none none).final.pc ≠ .halted .returned) :
    dpoTrainBatches trainer (some ck.trainDataloader) (some ck.trainingInfo) =
      (dpoTrainBatches trainer none none).drop (i + 1) := by
  obtain ⟨vm, hv⟩ := initialValidation_eq_ok hr
  have hi : i < (dpoTrain trainer none none).steps.length := (List.getElem?_eq_some_iff.1 hr).1
  rw [dpoTrainBatches_restart hr hck, dpoTrain_restart_eq_of_continues trainer hr hck hgo,
    dpoTrainBatches_of_aligned hv loaderAligned_initial]
  simp only [Option.getD_none, List.length_drop]
  rw [show DPOSaveState.default.totalSteps = 0 from rfl, map_range'_drop _ (by omega)]
  congr 2
  omega

theorem dpoTrainBatches_resume_one_batch :
    (dpoTrain oneBatchTrainer none none).steps[0]? = some oneBatchFirstStep ∧
      oneBatchFirstStep.checkpoint = some oneBatchCheckpoint ∧
      0 + 1 < (dpoTrain oneBatchTrainer none none).steps.length ∧
      dpoTrainBatches oneBatchTrainer (some oneBatchCheckpoint.trainDataloader)
          (some oneBatchCheckpoint.trainingInfo) =
        (dpoTrainBatches oneBatchTrainer none none).drop (0 + 1) := by
  have h₁ : (dpoTrain oneBatchTrainer none none).steps[0]? = some oneBatchFirstStep :=
    List.getElem?_eq_getElem _
  have h₂ : oneBatchFirstStep.checkpoint = some oneBatchCheckpoint := (Option.some_get _).symm
  have h₃ : 0 + 1 < (dpoTrain oneBatchTrainer none none).steps.length := by decide
  exact ⟨h₁, h₂, h₃, dpoTrainBatches_resume oneBatchTrainer 0 _ _ h₁ h₂ (.inl h₃)⟩

/-! ## How many batches -/

section Count

variable {trainer : DPOTrainer} {s : Option Nat} {d : Option DPOSaveState}

end Count

/-- **A zero save period stops a fresh run in its first step, after it has
trained.** `should_save_by_step` takes `(total_steps + 1) % save_period` at
every step that is not the last, whether checkpointing is on or not, and only
after `policy.train` has run. With `save_period = 0` the only step a fresh run
can complete is step `total_train_iters`. When the schedule has two steps or
more the run completes none and raises; if its initial validation returns and
the first batch passes the augmenter, `policy.train` has run on that batch, and
on no other, before the run raised; and if step `1`'s validation returns and
its training reports a micro-batch, what it raised is the modulo by zero. -/
theorem dpoTrain_save_period_zero (trainer : DPOTrainer)
    (hzero : trainer.masterConfig.checkpointing.savePeriod = 0) :
    (∀ r ∈ (dpoTrain trainer none none).steps,
      r.totalSteps = totalTrainIters trainer.masterConfig trainer.trainDataloader.len) ∧
    (2 ≤ totalTrainIters trainer.masterConfig trainer.trainDataloader.len →
      (dpoTrain trainer none none).steps = [] ∧
        (∃ e, (dpoTrain trainer none none).final.pc = .halted (.raised e)) ∧
        ((∃ vm, initialValidation trainer (initialState none none) = .ok vm) →
          (∃ b, refBatch trainer.policy trainer.maybePadLastBatch trainer.masterConfig false
            (trainer.trainDataloader.batchAt 0 0) = .ok b) →
          dpoTrainBatches trainer none none = [scheduledBatch trainer 0] ∧
            ((∃ vm, stepValidation trainer 1 = .ok vm) → (trainer.policy.train 1).allMbMetrics ≠ [] →
              (dpoTrain trainer none none).final.pc = .halted (.raised integerModuloByZero)))) := by
  have hlast := fresh_step_last_of_save_period_zero trainer hzero
  refine ⟨hlast, fun hiters => ?_⟩
  obtain ⟨hS, hEL⟩ := Nat.le_min.1 hiters
  have hE : 0 < trainer.masterConfig.dpo.maxNumEpochs :=
    Nat.pos_of_ne_zero fun h => by simp [h] at hEL
  have hL : 0 < trainer.trainDataloader.len := Nat.pos_of_ne_zero fun h => by simp [h] at hEL
  -- the first step would be labelled `1`, short of `total_train_iters`
  have hnil : (dpoTrain trainer none none).steps = [] := by
    cases hs : (dpoTrain trainer none none).steps with
    | nil => rfl
    | cons r rs =>
      have hfirst := (dpoTrain_record_counters (show (dpoTrain trainer none none).steps[0]? = some r
        by simp [hs])).1
      have := hlast r (by simp [hs])
      simp [DPOSaveState.default] at hfirst
      omega
  refine ⟨hnil, dpoTrain_raised_of_steps_nil trainer hE (by omega) hL hnil,
    fun ⟨vm, hv⟩ ⟨b, hb⟩ => ?_⟩
  -- the first epoch starts, and its first step is not the last, so it raises
  let st₁ : TrainState := { initialState none none with loader := (initialState none none).loader.iter }
  have hfirst : isLastStep trainer st₁ = false := by
    have : ¬(trainer.masterConfig.dpo.maxNumEpochs = 1 ∧ trainer.trainDataloader.len = 1) :=
      fun ⟨h₁, h₂⟩ => by simp [h₁, h₂] at hEL
    simp [isLastStep, st₁, initialState, DPOSaveState.default]
    omega
  obtain ⟨e, he⟩ : ∃ e, trainStep trainer st₁ = .error e := by
    cases h : trainStep trainer st₁ with
    | error e => exact ⟨e, rfl⟩
    | ok x =>
      obtain ⟨_, _, _, -, -, hsave, -⟩ := trainStep_eq_ok trainer h
      rw [hfirst, shouldSaveByStep_of_zero trainer hzero] at hsave
      cases hsave
  have hpull : st₁.loader.numYielded < trainer.trainDataloader.len := hL
  have hfinal : (dpoTrain trainer none none).final = ⟨.halted (.raised e), st₁⟩ := by
    rw [dpoTrain_of_ok hv, exec_fresh_start trainer hE (by omega), exec_of_trainStep_error trainer hpull he]
  refine ⟨?_, fun ⟨vm₁, hv₁⟩ htrain => ?_⟩
  · -- `policy.train` received the first batch of the schedule
    have hbatch : trainedBatch trainer ⟨.batchHead, st₁⟩ = some b := by
      simp only [trainedBatch, if_pos hpull]
      exact congrArg Except.toOption hb
    rw [dpoTrainBatches_of_aligned hv loaderAligned_initial, hnil, hfinal]
    simp [raisedBatch, hbatch, scheduledBatch, (refBatch_train_eq_ok trainer.maybePadLastBatch hb).2,
      DPOSaveState.default]
  · -- the step got past its validation and its metrics, to the modulo
    have hb₁ : refBatch trainer.policy trainer.maybePadLastBatch trainer.masterConfig false
        (trainer.trainDataloader.batchAt st₁.currentEpoch st₁.loader.numYielded) = .ok b := hb
    have hv₁' : stepValidation trainer (st₁.totalSteps + 1) = .ok vm₁ := hv₁
    have htoks : stepValidToks (trainer.policy.train (st₁.totalSteps + 1)) = .ok _ :=
      if_neg (by simpa using htrain)
    have herr : trainStep trainer st₁ = .error integerModuloByZero := by
      simp only [trainStep, hb₁, hv₁', htoks, hfirst, ok_bind, shouldSaveByStep_of_zero trainer hzero,
        error_bind]
    rw [hfinal, (Except.error.inj (he.symm.trans herr) : e = _)]

/-- `oneBatchTrainer` with checkpointing off and a zero save period. -/
def zeroSavePeriodTrainer : DPOTrainer :=
  { oneBatchTrainer with masterConfig := ⟨⟨1, 1, false, false⟩, ⟨2, 100, 0, 0, 1, false⟩, ⟨false, 0, none⟩⟩ }

theorem dpoTrain_save_period_zero_two_epochs :
    zeroSavePeriodTrainer.masterConfig.checkpointing.savePeriod = 0 ∧
      zeroSavePeriodTrainer.masterConfig.checkpointing.enabled = false ∧
      2 ≤ totalTrainIters zeroSavePeriodTrainer.masterConfig zeroSavePeriodTrainer.trainDataloader.len ∧
      dpoTrainBatches zeroSavePeriodTrainer none none = [scheduledBatch zeroSavePeriodTrainer 0] ∧
      (dpoTrain zeroSavePeriodTrainer none none).final.pc = .halted (.raised integerModuloByZero) := by
  have h := ((dpoTrain_save_period_zero zeroSavePeriodTrainer rfl).2 (by decide)).2.2 ⟨_, rfl⟩
    ⟨_, rfl⟩
  exact ⟨rfl, rfl, by decide, h.1, h.2 ⟨_, rfl⟩ (List.cons_ne_nil _ _)⟩

/-! ## The last step saves -/

section LastStep

variable (trainer : DPOTrainer) (henabled : trainer.masterConfig.checkpointing.enabled = true)
include henabled

/-- With checkpointing enabled, **a step saves when it is the last step or the
timeout fires**. -/
theorem finishStep_checkpoint_isSome {st : TrainState} {vm : Option (PyDict ℚ)} {tok : ℚ}
    {byStep : Bool}
    (hsave : shouldSaveByStep trainer (isLastStep trainer st) (st.totalSteps + 1) = .ok byStep)
    (h : isLastStep trainer st = true ∨ trainer.checkSave (st.totalSteps + 1) = true) :
    ((finishStep trainer st vm tok byStep).1.checkpoint).isSome := by
  have hsaves : savesCheckpoint trainer st byStep = true := by
    rcases h with h | h
    · rw [h] at hsave
      obtain rfl : true = byStep := Except.ok.inj hsave
      simp [savesCheckpoint, henabled]
    · simp [savesCheckpoint, henabled, h]
  simp [finishStep_checkpoint, hsaves]

omit henabled in
/-- A step returns on the timeout, or at the step ceiling, which makes it the
last step. -/
theorem isLastStep_or_checkSave_of_stop {st : TrainState} {vm : Option (PyDict ℚ)} {tok : ℚ}
    {byStep : Bool} (hstop : (finishStep trainer st vm tok byStep).2.2 = true) :
    isLastStep trainer st = true ∨ trainer.checkSave (st.totalSteps + 1) = true := by
  simp only [finishStep_stop, Bool.or_eq_true, decide_eq_true_eq] at hstop
  rcases hstop with h | h
  · exact .inr h
  · exact .inl (by simp [isLastStep, h])

/-- **The iteration that returns saves**: it is a completed step whose record
carries a checkpoint. -/
theorem LoopStep.returned_checkpoint {c c' : Loop} {o : Option StepRecord}
    (h : LoopStep trainer c o c') (hret : c'.pc = .halted .returned) :
    ∃ r, o = some r ∧ r.checkpoint.isSome := by
  cases h with
  | @train st vm tok byStep _ _ _ hsave =>
    refine ⟨_, rfl, finishStep_checkpoint_isSome trainer henabled hsave ?_⟩
    cases hstop : (finishStep trainer st vm tok byStep).2.2
    · rw [hstop] at hret; cases hret
    · exact isLastStep_or_checkSave_of_stop trainer hstop
  | _ => cases hret

omit henabled in
/-- **Where the loop ends when it stops without another step.** From the head of
the batch loop in a pass of a non-empty loader, an execution that emits nothing
and finishes has spent the pass, and the `while` test fails for the next epoch. -/
theorem exec_finish_silent {st : TrainState} (hn : st.loader.nextIterState = none)
    (hlen : 0 < trainer.trainDataloader.len)
    (hnil : (exec trainer ⟨.batchHead, st⟩).1 = [])
    (hfin : (exec trainer ⟨.batchHead, st⟩).2.pc = .halted .finished) :
    trainer.trainDataloader.len ≤ st.loader.numYielded ∧
      ¬(st.currentEpoch + 1 < trainer.masterConfig.dpo.maxNumEpochs ∧
        st.totalSteps < trainer.masterConfig.dpo.maxNumSteps) := by
  by_cases hpull : st.loader.numYielded < trainer.trainDataloader.len
  · obtain ⟨e, he⟩ := exec_pull_silent trainer hpull hnil
    rw [he] at hfin; cases hfin
  have hend : next trainer ⟨.batchHead, st⟩ = (none,
      ⟨.epochHead, { st with currentEpoch := st.currentEpoch + 1, currentStep := 0 }⟩) := by
    simp [next, hpull]
  rw [exec_of_silent trainer (Loop.active_batchHead _) (by rw [hend]), hend] at hnil hfin
  refine ⟨Nat.not_lt.1 hpull, fun hguard => ?_⟩
  -- the next epoch would start, and pull the first batch of its pass
  have hstart : next trainer
      ⟨.epochHead, { st with currentEpoch := st.currentEpoch + 1, currentStep := 0 }⟩ = (none,
        ⟨.batchHead,
          { st with currentEpoch := st.currentEpoch + 1, currentStep := 0, loader := st.loader.iter }⟩) := by
    simp [next, hguard]
  rw [exec_of_silent trainer (Loop.active_epochHead _) (by rw [hstart]), hstart] at hnil hfin
  obtain ⟨e, he⟩ := exec_pull_silent trainer (by simpa [hn] using hlen) hnil
  rw [he] at hfin; cases hfin

/-- **A run that returns has saved its last step**: only the step that returns
reaches a return, and it saves. -/
theorem dpoTrain_returned_saves (s : Option Nat) (d : Option DPOSaveState)
    (hret : (dpoTrain trainer s d).final.pc = .halted .returned) :
    ∃ r, (dpoTrain trainer s d).steps.getLast? = some r ∧ r.checkpoint.isSome := by
  cases hv : initialValidation trainer (initialState s d) with
  | error e => rw [dpoTrain_of_error hv] at hret; cases hret
  | ok vm =>
    rw [dpoTrain_of_ok hv] at hret ⊢
    simpa using @Reaches.inv trainer
      (fun rs c => c.pc = .halted .returned → ∃ r, rs.getLast? = some r ∧ r.checkpoint.isSome)
      (fun _ _ _ _ _ h hret => by
        obtain ⟨r, rfl, hr⟩ := h.returned_checkpoint trainer henabled hret
        exact ⟨r, by simp, hr⟩)
      _ _ _ [] (reaches_exec trainer _) (fun h => by cases h) hret

/-- **A fresh run whose loop ends at the `while` test has saved its last step**:
a step that did not return is followed by the end of the pass and a failing
`while` test only after the last batch of the last epoch. -/
theorem dpoTrain_fresh_finished_saves
    (hfin : (dpoTrain trainer none none).final.pc = .halted .finished) {r : StepRecord}
    (hr : (dpoTrain trainer none none).steps.getLast? = some r) : r.checkpoint.isSome := by
  have hne : (dpoTrain trainer none none).steps ≠ [] := by rintro h; simp [h] at hr
  rw [List.getLast?_eq_getElem?] at hr
  obtain ⟨e, he, hea, her, hrest⟩ := (dpoTrain_reaches hne).split trainer hr
  have hpos : Positioned trainer e := he.positioned trainer (positioned_initial trainer)
  have hstep := next_step trainer hea
  rw [her] at hstep
  obtain ⟨st, vm, tok, byStep, rfl, hpull, -, -, hsave, rfl, hf⟩ := hstep.eq_train
  obtain ⟨hn, hs, -, -, hepoch⟩ := hpos
  refine finishStep_checkpoint_isSome trainer henabled hsave ?_
  cases hstop : (finishStep trainer st vm tok byStep).2.2
  · -- the step did not return, so the loop ended silently at the `while` test
    rw [hf, List.drop_eq_nil_of_le (by omega)] at hrest
    simp only [hstop, Bool.false_eq_true, if_false] at hrest
    have hexec := exec_of_reaches trainer hrest
    rw [exec_of_not_active trainer dpoTrain_final_halted, List.nil_append] at hexec
    obtain ⟨hspent, hguard⟩ := exec_finish_silent trainer (by simpa using hn) (by omega)
      (congrArg Prod.fst hexec) (by rw [hexec]; exact hfin)
    simp only [finishStep_stop, Bool.or_eq_false_iff, decide_eq_false_iff_not, not_le] at hstop
    simp only [finishStep_loader, finishStep_currentEpoch, finishStep_state_totalSteps] at hspent hguard
    simp only [isLastStep, Bool.or_eq_true, decide_eq_true_eq, Bool.and_eq_true, beq_iff_eq]
    omega
  · exact isLastStep_or_checkSave_of_stop trainer hstop

end LastStep

/-- **A run that ends without raising has saved its last step.** With
checkpointing enabled, and whatever the policy, the validation and the timeout
checker do: a run of `dpo_train` from any record that returns has written a
checkpoint at its last step; and a fresh run whose `while` loop ends after a
step has written one at that step too, since the loop ends after the last batch
of the last epoch, which `is_last_step` names. -/
theorem dpoTrain_last_step_checkpointed (trainer : DPOTrainer)
    (henabled : trainer.masterConfig.checkpointing.enabled = true) :
    (∀ s d, (dpoTrain trainer s d).final.pc = .halted .returned →
      ∃ r, (dpoTrain trainer s d).steps.getLast? = some r ∧ r.checkpoint.isSome) ∧
    ((dpoTrain trainer none none).final.pc = .halted .finished →
      ∀ r, (dpoTrain trainer none none).steps.getLast? = some r → r.checkpoint.isSome) :=
  ⟨dpoTrain_returned_saves trainer henabled,
    fun hfin _ hr => dpoTrain_fresh_finished_saves trainer henabled hfin hr⟩

/-- The last of three steps, which the save period `2` does not divide, saves. -/
theorem dpoTrain_last_step_checkpointed_three_steps :
    threeStepTrainer.masterConfig.checkpointing.enabled = true ∧
      (dpoTrain threeStepTrainer none none).final.pc = .halted .finished ∧
      (dpoTrain threeStepTrainer none none).steps.length % 2 = 1 ∧
      ∀ r, (dpoTrain threeStepTrainer none none).steps.getLast? = some r → r.checkpoint.isSome :=
  ⟨rfl, by decide, by decide, (dpoTrain_last_step_checkpointed threeStepTrainer rfl).2 (by decide)⟩

end NemoRl
