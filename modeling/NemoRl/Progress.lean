import Mathlib.Algebra.BigOperators.Group.List
import NemoRl.Train

/-!
# What the checkpoints of a run record

A checkpoint's progress record is put together from three places. The step
count and the token count are locals of `dpo_train`, copied into the record
only when a checkpoint is written; the sample count lives in the record itself
and is bumped at every step, checkpoint or not; the validation keys are merged
in from the step's own validation, after the stale ones are deleted. Each is
an invariant of the loop between the records a run has emitted and the state
it is in (`Counted`, `Positioned`, `MetricsKept`), and each theorem below reads
the invariant off at the step that wrote the checkpoint.

The position the record gives is not quite the position of the next step. A
checkpoint after step `t` of a fresh run records the step's own epoch and
`t mod len(train_dataloader)`: after the last step of an epoch that is the
finished epoch with step `0`, one epoch behind the step that comes next
(`dpoTrain_checkpoint_position`). A resumed run is not thrown off by it: the
data loader's saved position says the interrupted pass is spent, and the
resumed loop runs the empty rest of that epoch before it moves on (see the
module on resumption).

The deletion of stale validation keys has a consequence for best-of-N
checkpointing: ranked by a validation metric, a checkpoint is left out of the
ranking exactly when its own step did not return that metric
(`dpoTrain_topK_warning`), which is the case at every step that does not
validate.

A fourth invariant, `UnderCeilings`, holds of every run, whatever it was
restored from: inside the batch loop the `while` test still holds, since a
step that reaches `max_num_steps` returns. So no step is labelled past
`max_num_steps` or runs in an epoch past the last, and a fresh run takes at
most `total_train_iters` steps (`dpoTrain_within_ceilings`).
-/

namespace NemoRl

/-- The `global_valid_toks` the steps labelled `t₀ + 1` to `t₀ + n` add to
`total_valid_tokens`: each the mean over its step's micro-batches. -/
def validTokensAfter (trainer : DPOTrainer) (t₀ n : Nat) : ℚ :=
  ((List.range n).map fun j =>
    mean ((trainer.policy.train (t₀ + j + 1)).allMbMetrics.map (· .globalValidToks))).sum

/-- The progress record in force after the records `rs`: that of the last
checkpoint among them, or the one the run started from. -/
def lastRecord (start : DPOSaveState) (rs : List StepRecord) : DPOSaveState :=
  rs.foldl (fun s r => (r.checkpoint.map (·.trainingInfo)).getD s) start

theorem lastRecord_snoc (start : DPOSaveState) (rs : List StepRecord) (r : StepRecord) :
    lastRecord start (rs ++ [r]) = (r.checkpoint.map (·.trainingInfo)).getD (lastRecord start rs) := by
  simp [lastRecord]

theorem validTokensAfter_succ (trainer : DPOTrainer) (t₀ n : Nat) :
    validTokensAfter trainer t₀ (n + 1) = validTokensAfter trainer t₀ n +
      mean ((trainer.policy.train (t₀ + n + 1)).allMbMetrics.map (· .globalValidToks)) := by
  simp [validTokensAfter, List.range_succ, List.sum_append]

theorem stepValidToks_eq_ok {r : TrainResults} {tok : ℚ} (h : stepValidToks r = .ok tok) :
    tok = mean (r.allMbMetrics.map (· .globalValidToks)) := by
  unfold stepValidToks at h
  split at h
  · cases h
  · exact (Except.ok.inj h).symm

section Invariants

variable (trainer : DPOTrainer)

/-- **A step validates exactly when `val_period` divides its label**, and what it
records is what `validate` returned. -/
theorem stepValidation_eq_ok {t : Nat} {vm : Option (PyDict ℚ)}
    (h : stepValidation trainer t = .ok vm) :
    (vm.isSome ↔ 0 < trainer.masterConfig.dpo.valPeriod ∧ t % trainer.masterConfig.dpo.valPeriod = 0) ∧
      ∀ m, vm = some m → validate trainer.policy trainer.maybePadLastBatch trainer.masterConfig t
        trainer.valDataloader = .ok m := by
  unfold stepValidation at h
  by_cases hc : 0 < trainer.masterConfig.dpo.valPeriod ∧ t % trainer.masterConfig.dpo.valPeriod = 0
  · rw [if_pos hc] at h
    cases hv : validate trainer.policy trainer.maybePadLastBatch trainer.masterConfig t
      trainer.valDataloader <;> simp only [hv, error_bind, ok_bind, pure_eq_ok, reduceCtorEq,
        Except.ok.injEq] at h
    subst h
    exact ⟨by simpa using hc, fun m hm => by cases hm; rfl⟩
  · rw [if_neg hc, pure_eq_ok, Except.ok.injEq] at h
    subst h
    exact ⟨by simpa using hc, by simp⟩

/-! ## Counters -/

/-- **The counters after the records `rs`** of a run started in `st₀`: one step,
one global batch and one step's valid tokens per record. -/
def Counted (st₀ : TrainState) (rs : List StepRecord) (c : Loop) : Prop :=
  c.state.totalSteps = st₀.totalSteps + rs.length ∧
    c.state.dpoSaveState.consumedSamples = st₀.dpoSaveState.consumedSamples +
      rs.length * trainer.masterConfig.policy.trainGlobalBatchSize ∧
    c.state.totalValidTokens = st₀.totalValidTokens +
      validTokensAfter trainer st₀.totalSteps rs.length

theorem counted_step (st₀ : TrainState) {rs : List StepRecord} {c c' : Loop}
    {o : Option StepRecord} (hi : Counted trainer st₀ rs c) (h : LoopStep trainer c o c') :
    Counted trainer st₀ (rs ++ o.toList) c' := by
  obtain ⟨h₁, h₂, h₃⟩ := hi
  cases h with
  | train _ _ htoks =>
    dsimp only at h₁ h₂ h₃
    simp only [Counted, Option.toList_some, List.length_append, List.length_singleton,
      finishStep_state_totalSteps, finishStep_consumedSamples, finishStep_totalValidTokens]
    refine ⟨by omega, by rw [h₂, Nat.add_mul, Nat.one_mul, Nat.add_assoc], ?_⟩
    rw [h₃, stepValidToks_eq_ok htoks, validTokensAfter_succ, h₁, add_assoc]
  | _ => simp only [Counted, Option.toList_none, List.append_nil]; exact ⟨h₁, h₂, h₃⟩

/-! ## Position -/

/-- **Where a fresh run is in its epoch**: at the head of an epoch after whole
epochs, and inside one at the batch its loader has reached. -/
def Positioned : Loop → Prop
  | ⟨.epochHead, st⟩ => st.loader.nextIterState = none ∧ st.currentStep = 0 ∧
      st.totalSteps = st.currentEpoch * trainer.trainDataloader.len ∧
      st.currentEpoch ≤ trainer.masterConfig.dpo.maxNumEpochs
  | ⟨.batchHead, st⟩ => st.loader.nextIterState = none ∧ st.currentStep = st.loader.numYielded ∧
      st.loader.numYielded ≤ trainer.trainDataloader.len ∧
      st.totalSteps = st.currentEpoch * trainer.trainDataloader.len + st.currentStep ∧
      st.currentEpoch < trainer.masterConfig.dpo.maxNumEpochs
  | ⟨.halted _, _⟩ => True

theorem positioned_initial : Positioned trainer ⟨.epochHead, initialState none none⟩ :=
  ⟨rfl, rfl, by simp [initialState, DPOSaveState.default], Nat.zero_le _⟩

theorem positioned_step {c c' : Loop} {o : Option StepRecord} (hi : Positioned trainer c)
    (h : LoopStep trainer c o c') : Positioned trainer c' := by
  cases h with
  | startEpoch hepoch =>
    obtain ⟨hn, hs, ht, -⟩ := hi
    exact ⟨rfl, by simp [hn, hs], by simp [hn], by simp [ht, hs], hepoch⟩
  | endEpoch hend =>
    obtain ⟨hn, hs, hle, ht, he⟩ := hi
    exact ⟨hn, rfl, by rw [ht, Nat.succ_mul]; omega, he⟩
  | train hpull =>
    obtain ⟨hn, hs, -, ht, he⟩ := hi
    split
    · trivial
    · refine ⟨hn, ?_, ?_, ?_, he⟩ <;>
        simp only [finishStep_loader, finishStep_currentStep, finishStep_currentEpoch,
          finishStep_state_totalSteps] <;> omega
  | _ => trivial

/-- Wherever a fresh run goes, it is positioned. -/
theorem Reaches.positioned {c d : Loop} {rs : List StepRecord} (h : Reaches trainer c rs d)
    (hc : Positioned trainer c) : Positioned trainer d :=
  @Reaches.inv trainer (fun _ c => Positioned trainer c)
    (fun _ _ _ _ hi h => positioned_step trainer hi h) c d rs [] h hc

/-! ## Validation keys -/

/-- **The keys of the record the loop keeps** are those of the last checkpoint,
or of the record the run started from. -/
def MetricsKept (start : DPOSaveState) (rs : List StepRecord) (c : Loop) : Prop :=
  c.state.dpoSaveState.metrics = (lastRecord start rs).metrics

theorem metricsKept_step (start : DPOSaveState) {rs : List StepRecord} {c c' : Loop}
    {o : Option StepRecord} (hi : MetricsKept start rs c) (h : LoopStep trainer c o c') :
    MetricsKept start (rs ++ o.toList) c' := by
  cases h with
  | train =>
    simp only [MetricsKept, Option.toList_some, lastRecord_snoc]
    cases hck : (finishStep trainer _ _ _ _).1.checkpoint with
    | none => rw [finishStep_checkpoint_eq_none trainer hck]; exact hi
    | some ck => rw [(finishStep_checkpoint_eq_some trainer hck).2.2]; rfl
  | _ => simpa using hi

/-- **Inside the batch loop the `while` test still holds**: the epoch began
below both ceilings, and a step that reached `max_num_steps` returned. -/
def UnderCeilings : Loop → Prop
  | ⟨.batchHead, st⟩ => st.currentEpoch < trainer.masterConfig.dpo.maxNumEpochs ∧
      st.totalSteps < trainer.masterConfig.dpo.maxNumSteps
  | _ => True

theorem underCeilings_step {c c' : Loop} {o : Option StepRecord} (hi : UnderCeilings trainer c)
    (h : LoopStep trainer c o c') : UnderCeilings trainer c' := by
  cases h with
  | startEpoch hepoch hsteps => exact ⟨hepoch, hsteps⟩
  | train =>
    split
    · trivial
    · rename_i hstop
      simp only [finishStep_stop, Bool.or_eq_true, decide_eq_true_eq, not_or, not_le] at hstop
      exact ⟨hi.1, hstop.2⟩
  | _ => trivial

end Invariants

/-! ## Counters along a run -/

section Counters

variable {trainer : DPOTrainer} {s : Option Nat} {d : Option DPOSaveState}

theorem counted_initial : Counted trainer (initialState s d) [] ⟨.epochHead, initialState s d⟩ :=
  ⟨rfl, by simp, by simp [validTokensAfter]⟩

/-- The `i`-th record of a run is the step labelled `T₀ + i + 1`, and its
checkpoint, if any, records that label and the counters after it. -/
theorem dpoTrain_record_counters {i : Nat} {r : StepRecord}
    (hr : (dpoTrain trainer s d).steps[i]? = some r) :
    r.totalSteps = (d.getD .default).totalSteps + (i + 1) ∧ ∀ ck, r.checkpoint = some ck →
      ck.trainingInfo.totalSteps = r.totalSteps ∧
      ck.trainingInfo.consumedSamples = (d.getD .default).consumedSamples +
        (i + 1) * trainer.masterConfig.policy.trainGlobalBatchSize ∧
      ck.trainingInfo.totalValidTokens = some ((d.getD .default).totalValidTokens.getD 0 +
        validTokensAfter trainer (d.getD .default).totalSteps (i + 1)) := by
  have hi : i < (dpoTrain trainer s d).steps.length := (List.getElem?_eq_some_iff.1 hr).1
  obtain ⟨c, c', ⟨h₁, h₂, h₃⟩, hstep⟩ := dpoTrain_record_inv
    (fun _ _ _ _ hi h => counted_step trainer _ hi h) counted_initial hr
  obtain ⟨st, vm, tok, byStep, rfl, -, -, htoks, -, rfl, -⟩ := hstep.eq_train
  simp only [List.length_take, Nat.min_eq_left hi.le] at h₁ h₂ h₃
  refine ⟨by simp [h₁, initialState]; omega, fun ck hck => ?_⟩
  obtain ⟨-, rfl, -⟩ := finishStep_checkpoint_eq_some trainer hck
  refine ⟨rfl, ?_, ?_⟩
  · rw [checkpointRecord_consumedSamples, countConsumedSamples_consumedSamples, h₂, Nat.add_mul,
      Nat.one_mul, Nat.add_assoc]
    rfl
  · rw [checkpointRecord_totalValidTokens, h₃, stepValidToks_eq_ok htoks, validTokensAfter_succ,
      h₁, add_assoc]
    rfl

/-- **The labels of a run's steps are consecutive**, from the record's
`total_steps + 1` on. -/
theorem dpoTrain_labels : (dpoTrain trainer s d).steps.map (·.totalSteps) =
    List.range' ((d.getD .default).totalSteps + 1) (dpoTrain trainer s d).steps.length := by
  refine List.ext_getElem (by simp) fun i h₁ _ => ?_
  rw [List.length_map] at h₁
  simp only [List.getElem_map, List.getElem_range']
  rw [(dpoTrain_record_counters (List.getElem?_eq_getElem h₁)).1]
  omega

/-- A run ends with its step counter advanced by its number of steps. -/
theorem dpoTrain_final_totalSteps : (dpoTrain trainer s d).final.state.totalSteps =
    (d.getD .default).totalSteps + (dpoTrain trainer s d).steps.length := by
  cases hv : initialValidation trainer (initialState s d) with
  | error e => rw [dpoTrain_of_error hv]; simp [initialState]
  | ok vm =>
    rw [dpoTrain_of_ok hv]
    exact ((reaches_exec trainer _).inv trainer
      (fun _ _ _ _ hi h => counted_step trainer _ hi h) counted_initial).1

/-! ## Ceilings -/

/-- Every step of a run runs below both ceilings. -/
theorem dpoTrain_record_under_ceilings {r : StepRecord} (hr : r ∈ (dpoTrain trainer s d).steps) :
    r.totalSteps ≤ trainer.masterConfig.dpo.maxNumSteps ∧
      r.epoch < trainer.masterConfig.dpo.maxNumEpochs := by
  obtain ⟨i, hi⟩ := List.mem_iff_getElem?.1 hr
  obtain ⟨c, c', hc, hstep⟩ := dpoTrain_record_inv
    (fun _ _ _ _ hi h => underCeilings_step trainer hi h) trivial hi
  obtain ⟨st, vm, tok, byStep, rfl, -, -, -, -, rfl, -⟩ := hstep.eq_train
  exact ⟨hc.2, hc.1⟩

/-- The label of a step inside epoch `e < E` at position `s < len` is at most
`E × len`, with equality exactly at the last position of the last epoch. -/
theorem step_label_le {e E s len : Nat} (he : e < E) (hs : s < len) : e * len + s + 1 ≤ E * len :=
  calc e * len + s + 1 ≤ e * len + len := by omega
    _ = (e + 1) * len := (Nat.succ_mul e len).symm
    _ ≤ E * len := Nat.mul_le_mul_right len he

/-- **Where each step of a fresh run stands**: the step at position `n` of its
epoch is labelled `epoch × len + n + 1`, with `n` below `len` and the epoch
below its ceiling. -/
theorem dpoTrain_fresh_record_position {r : StepRecord}
    (hr : r ∈ (dpoTrain trainer none none).steps) :
    ∃ n, n < trainer.trainDataloader.len ∧ r.epoch < trainer.masterConfig.dpo.maxNumEpochs ∧
      r.totalSteps = r.epoch * trainer.trainDataloader.len + n + 1 := by
  obtain ⟨i, hi⟩ := List.mem_iff_getElem?.1 hr
  obtain ⟨c, c', hpos, hstep⟩ := dpoTrain_record_inv
    (fun _ _ _ _ hi h => positioned_step trainer hi h) (positioned_initial trainer) hi
  obtain ⟨st, vm, tok, byStep, rfl, hpull, -, -, -, rfl, -⟩ := hstep.eq_train
  obtain ⟨-, hs, -, ht, he⟩ := hpos
  exact ⟨st.currentStep, hs ▸ hpull, he, by simp [ht]⟩

/-- A fresh run takes at most `total_train_iters` steps. -/
theorem dpoTrain_fresh_length_le : (dpoTrain trainer none none).steps.length ≤
    totalTrainIters trainer.masterConfig trainer.trainDataloader.len := by
  cases hn : (dpoTrain trainer none none).steps.length with
  | zero => exact Nat.zero_le _
  | succ n =>
    -- the last step is labelled with the number of steps
    obtain ⟨r, hr⟩ : ∃ r, (dpoTrain trainer none none).steps[n]? = some r :=
      ⟨_, List.getElem?_eq_getElem (by omega)⟩
    have hlabel : r.totalSteps = n + 1 := by
      simpa [DPOSaveState.default] using (dpoTrain_record_counters hr).1
    have hmem := List.getElem?_mem hr
    obtain ⟨k, hk, he, ht⟩ := dpoTrain_fresh_record_position hmem
    exact Nat.le_min.2 ⟨hlabel ▸ (dpoTrain_record_under_ceilings hmem).1,
      hlabel ▸ ht ▸ step_label_le he hk⟩

end Counters

/-! ## What every checkpoint records -/

/-- **The progress counters of every checkpoint.** A run started from the record
`d` (the default one when fresh) labels its steps `T₀ + 1, T₀ + 2, …`, and the
checkpoint after its `(i + 1)`-th step records `T₀ + i + 1` steps,
`C₀ + (i + 1) · train_global_batch_size` samples, and `V₀` plus the mean
`global_valid_toks` of each of those steps; the checkpoints come in strictly
increasing step order. -/
theorem dpoTrain_progress_counters (trainer : DPOTrainer) (s : Option Nat)
    (d : Option DPOSaveState) :
    (dpoTrain trainer s d).steps.map (·.totalSteps) =
        List.range' ((d.getD .default).totalSteps + 1) (dpoTrain trainer s d).steps.length ∧
      (∀ (i : Nat) (r : StepRecord) (ck : Checkpoint), (dpoTrain trainer s d).steps[i]? = some r →
        r.checkpoint = some ck →
        ck.trainingInfo.totalSteps = (d.getD .default).totalSteps + (i + 1) ∧
        ck.trainingInfo.consumedSamples = (d.getD .default).consumedSamples +
          (i + 1) * trainer.masterConfig.policy.trainGlobalBatchSize ∧
        ck.trainingInfo.totalValidTokens = some ((d.getD .default).totalValidTokens.getD 0 +
          validTokensAfter trainer (d.getD .default).totalSteps (i + 1))) ∧
      ((dpoTrain trainer s d).steps.filterMap (·.checkpoint)).Pairwise
        (fun ck ck' => ck.trainingInfo.totalSteps < ck'.trainingInfo.totalSteps) := by
  refine ⟨dpoTrain_labels, fun i r ck hr hck => ?_, ?_⟩
  · obtain ⟨hr₁, hr₂⟩ := dpoTrain_record_counters hr
    exact ⟨(hr₂ ck hck).1.trans hr₁, (hr₂ ck hck).2⟩
  · have hsorted : (dpoTrain trainer s d).steps.Pairwise
        (fun r r' => r.totalSteps < r'.totalSteps) := by
      rw [← List.pairwise_map, dpoTrain_labels]
      exact List.pairwise_lt_range' _ _
    refine (List.Pairwise.and_mem.1 hsorted).filterMap _ ?_
    rintro r r' ⟨hr, hr', hlt⟩ ck hck ck' hck'
    obtain ⟨i, hi⟩ := List.mem_iff_getElem?.1 hr
    obtain ⟨i', hi'⟩ := List.mem_iff_getElem?.1 hr'
    rw [((dpoTrain_record_counters hi).2 ck hck).1, ((dpoTrain_record_counters hi').2 ck' hck').1]
    exact hlt

/-- **The position a fresh run's checkpoints record.** After step `t` the record
holds the epoch of step `t`, which is `(t - 1) / len`, and `t mod len`; so
`epoch × len + step = t` except after the last step of an epoch, where `step`
is `0` and `epoch` is the epoch just finished. -/
theorem dpoTrain_checkpoint_position (trainer : DPOTrainer) :
    ∀ r ∈ (dpoTrain trainer none none).steps, ∀ ck, r.checkpoint = some ck →
      ck.trainingInfo.epoch = (ck.trainingInfo.totalSteps - 1) / trainer.trainDataloader.len ∧
      ck.trainingInfo.step = ck.trainingInfo.totalSteps % trainer.trainDataloader.len ∧
      ck.trainingInfo.epoch = r.epoch := by
  intro r hr ck hck
  obtain ⟨i, hi⟩ := List.mem_iff_getElem?.1 hr
  obtain ⟨c, c', hpos, hstep⟩ := dpoTrain_record_inv
    (fun _ _ _ _ hi h => positioned_step trainer hi h) (positioned_initial trainer) hi
  obtain ⟨st, vm, tok, byStep, rfl, hpull, -, -, -, rfl, -⟩ := hstep.eq_train
  obtain ⟨-, hs, -, ht, -⟩ := hpos
  obtain ⟨-, rfl, -⟩ := finishStep_checkpoint_eq_some trainer hck
  have hs' : st.currentStep < trainer.trainDataloader.len := hs ▸ hpull
  have hL : 0 < trainer.trainDataloader.len := by omega
  simp only [checkpointRecord_epoch, checkpointRecord_step, checkpointRecord_totalSteps,
    finishStep_epoch, Nat.add_sub_cancel, and_true]
  rw [ht]
  constructor
  · rw [Nat.mul_comm, Nat.mul_add_div hL, Nat.div_eq_of_lt hs', Nat.add_zero]
  · rw [Nat.add_assoc, Nat.mul_comm, Nat.mul_add_mod]

/-- A fresh run over one batch per epoch that checkpoints every step. -/
def oneBatchTrainer : DPOTrainer where
  policy := ⟨1, fun _ _ => [], fun _ => ⟨[fun _ => 1]⟩, fun _ _ => ⟨[]⟩⟩
  maybePadLastBatch := fun batch _ _ => batch
  masterConfig := ⟨⟨1, 1, false, false⟩, ⟨2, 100, 0, 0, 1, false⟩, ⟨true, 1, none⟩⟩
  trainDataloader := ⟨1, fun _ _ => ⟨2, [], none⟩⟩
  valDataloader := .empty
  checkSave := fun _ => false

/-- With one batch per epoch, the checkpoint after step `1` records epoch `0`
and step `0`: `epoch × len + step = 0`, not `total_steps = 1`. -/
theorem dpoTrain_epoch_end_record :
    ((dpoTrain oneBatchTrainer none none).steps.head?.bind (·.checkpoint)).map
        (fun ck => (ck.trainingInfo.epoch, ck.trainingInfo.step, ck.trainingInfo.totalSteps)) =
      some (0, 0, 1) := by
  decide

/-- The first step of the fresh run of `oneBatchTrainer`, which checkpoints. -/
def oneBatchFirstStep : StepRecord :=
  (dpoTrain oneBatchTrainer none none).steps.get ⟨0, by decide⟩

/-- The checkpoint of that step. -/
def oneBatchCheckpoint : Checkpoint := oneBatchFirstStep.checkpoint.get (by decide)

theorem dpoTrain_checkpoint_position_one_batch :
    oneBatchFirstStep ∈ (dpoTrain oneBatchTrainer none none).steps ∧
      oneBatchFirstStep.checkpoint = some oneBatchCheckpoint ∧
      oneBatchCheckpoint.trainingInfo.epoch =
        (oneBatchCheckpoint.trainingInfo.totalSteps - 1) / oneBatchTrainer.trainDataloader.len ∧
      oneBatchCheckpoint.trainingInfo.step =
        oneBatchCheckpoint.trainingInfo.totalSteps % oneBatchTrainer.trainDataloader.len := by
  have h₁ : oneBatchFirstStep ∈ (dpoTrain oneBatchTrainer none none).steps := List.get_mem _ _ _
  have h₂ : oneBatchFirstStep.checkpoint = some oneBatchCheckpoint := (Option.some_get _).symm
  exact ⟨h₁, h₂, (dpoTrain_checkpoint_position oneBatchTrainer _ h₁ _ h₂).1,
    (dpoTrain_checkpoint_position oneBatchTrainer _ h₁ _ h₂).2.1⟩

/-- **A checkpoint's validation-metric keys are its step's**, in every run: under
each such key it holds what the step's validation returned, and nothing when
the step did not validate. -/
theorem dpoTrain_checkpoint_valKeys (trainer : DPOTrainer) (s : Option Nat) (d : Option DPOSaveState) :
    ∀ r ∈ (dpoTrain trainer s d).steps, ∀ ck ∈ r.checkpoint, ∀ key, isValMetricKey key = true →
      ck.trainingInfo.metrics.get? key = (r.valMetrics.getD .empty).get? key := by
  intro r hr ck hck key hkey
  obtain ⟨i, hi⟩ := List.mem_iff_getElem?.1 hr
  obtain ⟨c, c', -, hstep⟩ := @dpoTrain_record_inv trainer s d (fun _ _ => True)
    (fun _ _ _ _ _ _ => trivial) trivial i r hi
  obtain ⟨st, vm, tok, byStep, rfl, -, -, -, -, rfl, -⟩ := hstep.eq_train
  obtain ⟨-, rfl, -⟩ := finishStep_checkpoint_eq_some trainer hck
  simp [checkpointRecord, mergeValMetrics_get?, hkey]

/-- **The validation keys of every checkpoint.** The checkpoint after a step holds,
under every validation-metric key, exactly what that step's validation returned
for it – nothing when the step did not validate, which is when `val_period`
does not divide its label – keeps each sample count of the record in force
unless that validation refreshed it, and keeps the five declared fields. -/
theorem dpoTrain_checkpoint_val_metrics (trainer : DPOTrainer) (s : Option Nat)
    (d : Option DPOSaveState) :
    ∀ (i : Nat) (r : StepRecord) (ck : Checkpoint), (dpoTrain trainer s d).steps[i]? = some r →
      r.checkpoint = some ck →
      (r.valMetrics.isSome ↔ 0 < trainer.masterConfig.dpo.valPeriod ∧
        r.totalSteps % trainer.masterConfig.dpo.valPeriod = 0) ∧
      (∀ vm, r.valMetrics = some vm → validate trainer.policy trainer.maybePadLastBatch
        trainer.masterConfig r.totalSteps trainer.valDataloader = .ok vm) ∧
      (∀ key, isValMetricKey key = true →
        ck.trainingInfo.metrics.get? key = (r.valMetrics.getD .empty).get? key) ∧
      (∀ key, endswith key "_num_valid_samples" = true →
        ck.trainingInfo.metrics.get? key = ((r.valMetrics.getD .empty).get? key).or
          ((lastRecord (d.getD .default) ((dpoTrain trainer s d).steps.take i)).metrics.get? key)) ∧
      ∀ key ∈ DPOSaveState.fieldNames, ck.trainingInfo.contains key = true := by
  intro i r ck hr hck
  obtain ⟨c, c', hkept, hstep⟩ := dpoTrain_record_inv
    (fun _ _ _ _ hi h => metricsKept_step trainer _ hi h)
    (show MetricsKept (d.getD .default) [] ⟨.epochHead, initialState s d⟩ from rfl) hr
  obtain ⟨st, vm, tok, byStep, rfl, -, hval, -, -, rfl, -⟩ := hstep.eq_train
  obtain ⟨-, rfl, -⟩ := finishStep_checkpoint_eq_some trainer hck
  obtain ⟨hiff, hvalidate⟩ := stepValidation_eq_ok trainer hval
  refine ⟨hiff, hvalidate, dpoTrain_checkpoint_valKeys trainer s d _ (List.getElem?_mem hr) _ hck,
    fun key hkey => ?_, ?_⟩
  · simp only [checkpointRecord, mergeValMetrics_get?, isValMetricKey_of_num_valid_samples hkey,
      finishStep_valMetrics, Bool.false_eq_true, if_false]
    rw [← hkept]; rfl
  · simp [DPOSaveState.fieldNames, DPOSaveState.contains, checkpointRecord]

/-- Three steps in one epoch, validated on dataset `a` at every second step,
checkpointed at every step and ranked by the loss on `a`. Its evaluation
reports no micro-batch, so each validation returns zeros. -/
def validatingTrainer : DPOTrainer where
  policy := ⟨1, fun _ _ => [], fun _ => ⟨[fun _ => 1]⟩, fun _ _ => ⟨[]⟩⟩
  maybePadLastBatch := fun batch _ _ => batch
  masterConfig := ⟨⟨1, 1, false, false⟩, ⟨1, 100, 2, 0, 1, false⟩, ⟨true, 1, some "validation-a_loss"⟩⟩
  trainDataloader := ⟨3, fun _ _ => ⟨2, [], none⟩⟩
  valDataloader := ⟨[("a", [⟨2, [], none⟩])], by decide⟩
  checkSave := fun _ => false

/-- A record written after step `1` by an earlier job: the loss and the sample
count of a dataset `b` this job does not validate, and a loss on `a`. -/
def staleRecord : DPOSaveState :=
  ⟨0, 1, 1, 1, some 0, ⟨[("validation-b_loss", 5), ("validation-b_num_valid_samples", 3),
    ("validation-a_loss", 7)], by decide⟩⟩

/-- The first step of the run resumed from that record, which validates, and
its checkpoint. -/
def staleResumeStep : StepRecord :=
  (dpoTrain validatingTrainer (some 1) (some staleRecord)).steps.get ⟨0, by decide⟩

def staleResumeCheckpoint : Checkpoint := staleResumeStep.checkpoint.get (by decide)

/-- Resumed from a record with stale keys, the validating step's checkpoint
holds under each validation-metric key what its validation returned – the loss
on `b` is gone – and keeps the sample count of `b`. -/
theorem dpoTrain_checkpoint_val_metrics_stale_record :
    (dpoTrain validatingTrainer (some 1) (some staleRecord)).steps[0]? = some staleResumeStep ∧
      staleResumeStep.checkpoint = some staleResumeCheckpoint ∧
      staleRecord.metrics.get? "validation-b_loss" = some 5 ∧ staleResumeStep.valMetrics.isSome ∧
      (∀ key, isValMetricKey key = true → staleResumeCheckpoint.trainingInfo.metrics.get? key =
        (staleResumeStep.valMetrics.getD .empty).get? key) ∧
      (∀ key, endswith key "_num_valid_samples" = true →
        staleResumeCheckpoint.trainingInfo.metrics.get? key =
          ((staleResumeStep.valMetrics.getD .empty).get? key).or
            ((lastRecord ((some staleRecord).getD .default)
              ((dpoTrain validatingTrainer (some 1) (some staleRecord)).steps.take 0)).metrics.get? key)) ∧
      (staleResumeCheckpoint.trainingInfo.metrics.get? "validation-b_loss").isNone ∧
      (staleResumeCheckpoint.trainingInfo.metrics.get? "validation-b_num_valid_samples").isSome := by
  have h₁ : (dpoTrain validatingTrainer (some 1) (some staleRecord)).steps[0]? = some staleResumeStep :=
    List.getElem?_eq_getElem _
  have h₂ : staleResumeStep.checkpoint = some staleResumeCheckpoint := (Option.some_get _).symm
  have h := dpoTrain_checkpoint_val_metrics validatingTrainer (some 1) (some staleRecord) 0 _ _ h₁ h₂
  exact ⟨h₁, h₂, rfl, by decide, h.2.2.1, h.2.2.2.1, by decide, by decide⟩

/-- **Ranking checkpoints by a validation metric.** When
`checkpointing.metric_name` is a validation-metric key, a checkpoint carries the
top-k warning – it is not ranked – exactly when the validation of its own step
did not return that key: the merge has deleted the key the previous validation
wrote. So a checkpoint of a step that did not validate, one whose label
`val_period` does not divide, is never ranked. -/
theorem dpoTrain_topK_warning (trainer : DPOTrainer) (s : Option Nat) (d : Option DPOSaveState)
    (key : String) (hname : trainer.masterConfig.checkpointing.metricName = some key)
    (hkey : isValMetricKey key = true) :
    ∀ r ∈ (dpoTrain trainer s d).steps, r.checkpoint.isSome →
      (r.topKWarning.isSome ↔ (r.valMetrics.getD .empty).get? key = none) ∧
      (¬(0 < trainer.masterConfig.dpo.valPeriod ∧
          r.totalSteps % trainer.masterConfig.dpo.valPeriod = 0) → r.topKWarning.isSome) := by
  intro r hr hck
  obtain ⟨i, hi⟩ := List.mem_iff_getElem?.1 hr
  obtain ⟨c, c', -, hstep⟩ := @dpoTrain_record_inv trainer s d (fun _ _ => True)
    (fun _ _ _ _ _ _ => trivial) trivial i r hi
  obtain ⟨st, vm, tok, byStep, rfl, -, hval, -, -, rfl, -⟩ := hstep.eq_train
  obtain ⟨ck, hck⟩ := Option.isSome_iff_exists.1 hck
  have hwarn : (finishStep trainer st vm tok byStep).1.topKWarning.isSome ↔
      (vm.getD .empty).get? key = none := by
    rw [finishStep_topKWarning, hck, hname]
    obtain ⟨-, rfl, -⟩ := finishStep_checkpoint_eq_some trainer hck
    simp [topKWarning, contains_of_isValMetricKey hkey, checkpointRecord, mergeValMetrics_get?,
      hkey]
  refine ⟨hwarn, fun hnot => hwarn.2 ?_⟩
  -- a step whose label `val_period` does not divide did not validate
  cases vm with
  | none => rfl
  | some m => exact absurd ((stepValidation_eq_ok trainer hval).1.1 rfl) hnot

/-- The first step of `validatingTrainer`'s fresh run does not validate, and its
checkpoint carries the warning; the second validates, and its checkpoint holds
the key and does not. -/
theorem dpoTrain_topK_warning_validating :
    validatingTrainer.masterConfig.checkpointing.metricName = some "validation-a_loss" ∧
      isValMetricKey "validation-a_loss" = true ∧
      ((dpoTrain validatingTrainer none none).steps.get ⟨0, by decide⟩).topKWarning.isSome = true ∧
      (((dpoTrain validatingTrainer none none).steps.get ⟨1, by decide⟩).checkpoint.bind
        (·.trainingInfo.metrics.get? "validation-a_loss")).isSome = true ∧
      ((dpoTrain validatingTrainer none none).steps.get ⟨1, by decide⟩).topKWarning.isSome = false := by
  have hkey : isValMetricKey "validation-a_loss" = true := by decide
  have h := dpoTrain_topK_warning validatingTrainer none none _ rfl hkey
  -- the second step's validation returned the key
  exact ⟨rfl, hkey, (h _ (List.get_mem _ _ _) (by decide)).2 (by decide), by decide,
    Bool.eq_false_iff.2 fun hw => absurd ((h _ (List.get_mem _ _ _) (by decide)).1.1 hw) (by decide)⟩

/-- **No run trains past its ceilings.** Whatever the policy, the validation
and the timeout checker do, raising included, every step of a run – fresh or
resumed – is labelled at most `max_num_steps` and runs in an epoch below
`max_num_epochs`; and a fresh run takes at most `total_train_iters` steps, the
number `setup` gives the learning-rate scheduler. -/
theorem dpoTrain_within_ceilings (trainer : DPOTrainer) (s : Option Nat)
    (d : Option DPOSaveState) :
    (∀ r ∈ (dpoTrain trainer s d).steps, r.totalSteps ≤ trainer.masterConfig.dpo.maxNumSteps ∧
        r.epoch < trainer.masterConfig.dpo.maxNumEpochs) ∧
      (dpoTrain trainer none none).steps.length ≤
        totalTrainIters trainer.masterConfig trainer.trainDataloader.len :=
  ⟨fun _ hr => dpoTrain_record_under_ceilings hr, dpoTrain_fresh_length_le⟩

end NemoRl
