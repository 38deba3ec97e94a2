import NemoRl.Progress

/-!
# When a fresh run checkpoints, and when it stops

The loop has three ways to stop after a step: the step ceiling
(`total_steps >= max_num_steps`), the timeout checker, and the `while` test
failing once the last epoch's pass is spent. `is_last_step` anticipates the
first and the third, so every run that does not raise stops at
`T = min(max_num_steps, max_num_epochs × len, t*)`, `t*` the first step after
which the timeout checker fires, and writes a checkpoint at `T` as well as at
every multiple of `save_period` before it (`dpoTrain_checkpoint_schedule`).

A run may raise, though, and then it stops short of `T` with no checkpoint at
its end. `NeverRaises` names what rules that out: every train batch splits
evenly into shards (the augmenter asserts it), validation returns (it divides
by the sample count of the batches it kept), training reports at least one
micro-batch (the step reads its `global_valid_toks`), and `save_period` is
positive (the step takes a modulo by it). Each is needed:
`dpoTrain_partial_batch_raises` is a run that stops at its first batch, and a
zero save period stops every fresh run of two steps or more in its first step,
with checkpointing on or off (`fresh_step_last_of_save_period_zero`; the module
on what a job trains on says what that first step has done by then).

Forgetting everything but the label and the epoch of each step, a fresh run is
a prefix of the schedule the configuration fixes – step `j + 1` in epoch
`j / len`, for `total_train_iters` steps – whatever its oracles do, and the
whole schedule when nothing raises and the timeout never fires
(`dpoTrain_refines_schedule`).

Every run halts, raising or not, fresh or resumed: each iteration of the loop
lowers `measure`, a bound of `len + 2` iterations per epoch left, so the loop
stops within `(max_num_epochs - epoch) × (len + 2) + 1` iterations
(`dpoTrain_terminates`).
-/

namespace NemoRl

/-- **A trainer none of whose steps raises**, stated over the calls a fresh run
can make: the batches of the epochs below `max_num_epochs`, the validations
before the loop and at the steps `val_period` divides, and the training of the
steps up to `total_train_iters`. -/
structure NeverRaises (trainer : DPOTrainer) : Prop where
  shards : 0 < shardRows trainer.policy trainer.masterConfig false
  evenlySharded : ∀ e j, e < trainer.masterConfig.dpo.maxNumEpochs → j < trainer.trainDataloader.len →
    evenlySharded trainer.policy trainer.masterConfig false (trainer.trainDataloader.batchAt e j) = true
  validates : ∀ t, t ≤ totalTrainIters trainer.masterConfig trainer.trainDataloader.len →
    (t = 0 ∧ trainer.masterConfig.dpo.valAtStart = true ∨
      0 < t ∧ 0 < trainer.masterConfig.dpo.valPeriod ∧ t % trainer.masterConfig.dpo.valPeriod = 0) →
    ∃ vm, validate trainer.policy trainer.maybePadLastBatch trainer.masterConfig t
      trainer.valDataloader = .ok vm
  trains : ∀ t, 0 < t → t ≤ totalTrainIters trainer.masterConfig trainer.trainDataloader.len →
    (trainer.policy.train t).allMbMetrics ≠ []
  savePeriod : 0 < trainer.masterConfig.checkpointing.savePeriod

/-- No timeout fired after any of the steps `1 … t`. -/
def NoTimeoutUpTo (checkSave : Nat → Bool) (t : Nat) : Prop :=
  ∀ t', 1 ≤ t' → t' ≤ t → checkSave t' = false

/-- **The step count a run stops at**: at most `total_train_iters`, no timeout
before it, and either `total_train_iters` itself or a step after which the
timeout fired. This is `min(total_train_iters, t*)`. -/
def EndsAt (trainer : DPOTrainer) (T : Nat) : Prop :=
  T ≤ totalTrainIters trainer.masterConfig trainer.trainDataloader.len ∧
    (∀ t, 1 ≤ t → t < T → trainer.checkSave t = false) ∧
    (T = totalTrainIters trainer.masterConfig trainer.trainDataloader.len ∨
      (1 ≤ T ∧ trainer.checkSave T = true))

theorem step_label_eq_iff {e E s len : Nat} (he : e < E) (hs : s < len) :
    e * len + s + 1 = E * len ↔ e + 1 = E ∧ s + 1 = len := by
  constructor
  · intro h
    obtain ⟨k, rfl⟩ := Nat.exists_eq_add_of_lt he
    rw [Nat.add_mul, Nat.add_mul, Nat.one_mul] at h
    have hk0 : k * len = 0 := by omega
    rcases Nat.mul_eq_zero.1 hk0 with hk0 | hk0 <;> omega
  · rintro ⟨rfl, rfl⟩
    rw [Nat.succ_mul]; omega

section Schedule

variable {trainer : DPOTrainer}

/-- Under `NeverRaises`, the body of the batch loop runs through, at a step the
schedule holds. -/
theorem trainStep_ne_error (h : NeverRaises trainer) {st : TrainState}
    (hpull : st.loader.numYielded < trainer.trainDataloader.len)
    (he : st.currentEpoch < trainer.masterConfig.dpo.maxNumEpochs)
    (hle : st.totalSteps + 1 ≤ totalTrainIters trainer.masterConfig trainer.trainDataloader.len)
    (e : String) : trainStep trainer st ≠ .error e := by
  have hb := shardableBatch_of_evenlySharded trainer.maybePadLastBatch h.shards
    (h.evenlySharded st.currentEpoch _ he hpull)
  obtain ⟨v, hv⟩ : ∃ v, stepValidation trainer (st.totalSteps + 1) = .ok v := by
    unfold stepValidation
    split
    · obtain ⟨vm, hvm⟩ := h.validates _ hle (.inr ⟨Nat.succ_pos _, ‹_›⟩)
      exact ⟨_, by rw [hvm]; rfl⟩
    · exact ⟨_, rfl⟩
  obtain ⟨b, hs⟩ : ∃ b, shouldSaveByStep trainer (isLastStep trainer st) (st.totalSteps + 1) = .ok b := by
    unfold shouldSaveByStep
    split
    · exact ⟨_, rfl⟩
    · exact ⟨_, by rw [pyMod_of_pos h.savePeriod]; rfl⟩
  simp [trainStep, refBatch, hb, hv, hs, Except.map, stepValidToks, h.trains _ (Nat.succ_pos _) hle]

/-- **`is_last_step` is the step `total_train_iters`**, for a step of a fresh run
taken inside an epoch below both ceilings. -/
theorem isLastStep_iff {st : TrainState}
    (hs : st.currentStep < trainer.trainDataloader.len)
    (ht : st.totalSteps = st.currentEpoch * trainer.trainDataloader.len + st.currentStep)
    (he : st.currentEpoch < trainer.masterConfig.dpo.maxNumEpochs)
    (hmax : st.totalSteps < trainer.masterConfig.dpo.maxNumSteps) :
    isLastStep trainer st = true ↔
      st.totalSteps + 1 = totalTrainIters trainer.masterConfig trainer.trainDataloader.len := by
  have hle := step_label_le he hs
  have hiff := step_label_eq_iff he hs
  simp only [isLastStep, totalTrainIters, Bool.or_eq_true, decide_eq_true_eq, Bool.and_eq_true,
    beq_iff_eq]
  omega

/-- The condition of the schedule invariant on the machine's configurations:
below the step ceiling with no timeout yet while running, stopped at `EndsAt`
otherwise, and never stopped by an exception. -/
def Scheduled (trainer : DPOTrainer) : Loop → Prop
  | ⟨.epochHead, st⟩ => st.totalSteps ≤ trainer.masterConfig.dpo.maxNumSteps ∧
      NoTimeoutUpTo trainer.checkSave st.totalSteps
  | ⟨.batchHead, st⟩ => st.totalSteps < trainer.masterConfig.dpo.maxNumSteps ∧
      NoTimeoutUpTo trainer.checkSave st.totalSteps
  | ⟨.halted (.raised _), _⟩ => False
  | ⟨.halted _, st⟩ => EndsAt trainer st.totalSteps

theorem scheduled_step (h : NeverRaises trainer) {c c' : Loop} {o : Option StepRecord}
    (hpos : Positioned trainer c) (hi : Scheduled trainer c) (hstep : LoopStep trainer c o c') :
    Scheduled trainer c' := by
  cases hstep with
  | startEpoch _ hsteps => exact ⟨hsteps, hi.2⟩
  | @finish st hstop =>
    obtain ⟨-, -, ht, he⟩ := hpos
    obtain ⟨hmax, hnone⟩ := hi
    have hmul := Nat.mul_le_mul_right trainer.trainDataloader.len he
    have hend : st.totalSteps = totalTrainIters trainer.masterConfig trainer.trainDataloader.len := by
      rw [totalTrainIters, Nat.min_def]
      rcases not_and_or.1 hstop with hE | hS
      · rw [Nat.le_antisymm he (Nat.not_lt.1 hE)] at ht
        split <;> omega
      · split <;> omega
    exact ⟨hend.le, fun t ht₁ ht₂ => hnone t ht₁ ht₂.le, .inl hend⟩
  | endEpoch => exact ⟨hi.1.le, hi.2⟩
  | raise hpull herr =>
    obtain ⟨-, hs, -, ht, he⟩ := hpos
    exact trainStep_ne_error h hpull he
      (Nat.le_min.2 ⟨hi.1, ht ▸ step_label_le he (hs ▸ hpull)⟩) _ herr
  | @train st vm tok byStep hpull =>
    obtain ⟨-, hs, -, ht, he⟩ := hpos
    obtain ⟨hmax, hnone⟩ := hi
    have hle := step_label_le he (hs ▸ hpull)
    rw [← ht] at hle
    split
    · rename_i hstop
      simp only [finishStep_stop, Bool.or_eq_true, decide_eq_true_eq] at hstop
      simp only [EndsAt, Scheduled, finishStep_state_totalSteps, totalTrainIters, Nat.min_def]
      refine ⟨by split <;> omega, fun t ht₁ ht₂ => hnone t ht₁ (by omega), ?_⟩
      rcases hstop with hto | hmax'
      · exact .inr ⟨by omega, hto⟩
      · exact .inl (by split <;> omega)
    · rename_i hstop
      simp only [finishStep_stop, Bool.or_eq_true, decide_eq_true_eq, not_or, not_le,
        Bool.not_eq_true] at hstop
      refine ⟨by simpa using hstop.2, fun t ht₁ ht₂ => ?_⟩
      rcases Nat.lt_or_eq_of_le (by simpa using ht₂ : t ≤ st.totalSteps + 1) with hlt | rfl
      · exact hnone t ht₁ (by omega)
      · exact hstop.1

/-! ## Along a fresh run -/

theorem scheduled_initial : Scheduled trainer ⟨.epochHead, initialState none none⟩ :=
  ⟨Nat.zero_le _, fun _ h₁ h₂ => absurd (h₁.trans h₂) (by simp [initialState, DPOSaveState.default])⟩

/-- Wherever a fresh run of a trainer that never raises goes, it is positioned
and on schedule. -/
theorem Reaches.scheduled (h : NeverRaises trainer) {c d : Loop} {rs : List StepRecord}
    (hr : Reaches trainer c rs d) (hc : Positioned trainer c ∧ Scheduled trainer c) :
    Positioned trainer d ∧ Scheduled trainer d :=
  @Reaches.inv trainer (fun _ c => Positioned trainer c ∧ Scheduled trainer c)
    (fun _ _ _ _ hi hs => ⟨positioned_step trainer hi.1 hs, scheduled_step h hi.1 hi.2 hs⟩)
    c d rs [] hr hc

theorem initialValidation_ok (h : NeverRaises trainer) (st : TrainState) :
    ∃ vm, initialValidation trainer st = .ok vm := by
  unfold initialValidation
  split
  · obtain ⟨vm, hvm⟩ := h.validates 0 (Nat.zero_le _) (.inl ⟨rfl, ‹_ ∧ _›.1⟩)
    exact ⟨_, by rw [hvm]; rfl⟩
  · exact ⟨_, rfl⟩

/-- **A fresh run that never raises stops at `EndsAt`**, by the `while` test or
a `return`. -/
theorem dpoTrain_ends (h : NeverRaises trainer) :
    ((dpoTrain trainer none none).final.pc = .halted .finished ∨
      (dpoTrain trainer none none).final.pc = .halted .returned) ∧
      EndsAt trainer (dpoTrain trainer none none).final.state.totalSteps := by
  obtain ⟨vm, hvm⟩ := initialValidation_ok h (initialState none none)
  rw [dpoTrain_of_ok hvm]
  have hsched := (Reaches.scheduled h (reaches_exec trainer _)
    ⟨positioned_initial trainer, scheduled_initial⟩).2
  have hhalt := exec_halted trainer ⟨.epochHead, initialState none none⟩
  generalize (exec trainer ⟨.epochHead, initialState none none⟩).2 = c at hsched hhalt
  obtain ⟨pc, st⟩ := c
  cases pc with
  | halted o => cases o <;> simp_all [Scheduled]
  | _ => cases hhalt

/-- **Which steps of a fresh run checkpoint**: with checkpointing on, those at
`total_train_iters`, at a multiple of `save_period`, or after which the timeout
fired. -/
theorem dpoTrain_record_checkpoint (h : NeverRaises trainer)
    (henabled : trainer.masterConfig.checkpointing.enabled = true) {i : Nat} {r : StepRecord}
    (hr : (dpoTrain trainer none none).steps[i]? = some r) :
    r.checkpoint.map (·.step) =
      if r.totalSteps = totalTrainIters trainer.masterConfig trainer.trainDataloader.len ∨
          r.totalSteps % trainer.masterConfig.checkpointing.savePeriod = 0 ∨
          trainer.checkSave r.totalSteps = true then some r.totalSteps
      else none := by
  obtain ⟨c, c', ⟨hpos, hsched⟩, hstep⟩ :=
    @dpoTrain_record_inv trainer none none (fun _ c => Positioned trainer c ∧ Scheduled trainer c)
      (fun _ _ _ _ hi hs => ⟨positioned_step trainer hi.1 hs, scheduled_step h hi.1 hi.2 hs⟩)
      ⟨positioned_initial trainer, scheduled_initial⟩ i r hr
  obtain ⟨st, vm, tok, byStep, rfl, hpull, -, -, hsave, rfl, -⟩ := hstep.eq_train
  obtain ⟨-, hs, -, ht, he⟩ := hpos
  have hlast := isLastStep_iff (hs ▸ hpull) ht he hsched.1
  have hbyStep : byStep = (isLastStep trainer st ||
      (st.totalSteps + 1) % trainer.masterConfig.checkpointing.savePeriod == 0) := by
    unfold shouldSaveByStep at hsave
    split at hsave
    · rename_i hl; simpa [hl] using (Except.ok.inj hsave).symm
    · rename_i hl
      rw [pyMod_of_pos h.savePeriod] at hsave
      simpa [hl] using (Except.ok.inj hsave).symm
  rw [finishStep_checkpoint]
  simp only [finishStep_totalSteps, savesCheckpoint, henabled, hbyStep, Bool.true_and,
    Bool.or_eq_true, beq_iff_eq, hlast, or_assoc]
  split <;> rfl

/-- The checkpoint steps of records read off their labels. -/
theorem filterMap_checkpoint_step {rs : List StepRecord} {p : Nat → Bool}
    (h : ∀ r ∈ rs, r.checkpoint.map (·.step) = if p r.totalSteps then some r.totalSteps else none) :
    (rs.filterMap (·.checkpoint)).map (·.step) = (rs.map (·.totalSteps)).filter p := by
  induction rs with
  | nil => rfl
  | cons r rs ih =>
    have hr := h r (List.mem_cons_self _ _)
    rw [List.filterMap_cons, List.map_cons, List.filter_cons,
      ← ih (fun r' hr' => h r' (List.mem_cons_of_mem _ hr'))]
    cases hck : r.checkpoint <;> cases hp : p r.totalSteps <;> simp_all

end Schedule

/-- **Checkpoint schedule and termination.** With checkpointing on, a fresh run
of a trainer none of whose steps raises takes the steps `1 … T` for the `T` of
`EndsAt` – `total_train_iters` when the timeout never fires – checkpoints after
step `t` exactly when `t` is a multiple of `save_period` or `t = T`, in
increasing order, and stops right after step `T`. -/
theorem dpoTrain_checkpoint_schedule (trainer : DPOTrainer)
    (henabled : trainer.masterConfig.checkpointing.enabled = true) (hsafe : NeverRaises trainer) :
    let T := (dpoTrain trainer none none).steps.length
    EndsAt trainer T ∧
      ((∀ t, trainer.checkSave t = false) →
        T = totalTrainIters trainer.masterConfig trainer.trainDataloader.len) ∧
      (dpoTrain trainer none none).steps.map (·.totalSteps) = List.range' 1 T ∧
      ((dpoTrain trainer none none).steps.filterMap (·.checkpoint)).map (·.step) =
        (List.range' 1 T).filter
          (fun t => t % trainer.masterConfig.checkpointing.savePeriod == 0 || t == T) ∧
      ((dpoTrain trainer none none).final.pc = .halted .finished ∨
        (dpoTrain trainer none none).final.pc = .halted .returned) ∧
      (dpoTrain trainer none none).final.state.totalSteps = T := by
  intro T
  obtain ⟨hpc, hends⟩ := dpoTrain_ends hsafe
  have hT : (dpoTrain trainer none none).final.state.totalSteps = T := by
    simpa [DPOSaveState.default] using @dpoTrain_final_totalSteps trainer none none
  rw [hT] at hends
  have hlabels : (dpoTrain trainer none none).steps.map (·.totalSteps) = List.range' 1 T := by
    simpa [DPOSaveState.default] using @dpoTrain_labels trainer none none
  refine ⟨hends, fun hnever => hends.2.2.resolve_right (by simp [hnever]), hlabels, ?_, hpc, hT⟩
  rw [← hlabels]
  refine filterMap_checkpoint_step fun r hr => ?_
  obtain ⟨i, hi⟩ := List.mem_iff_getElem?.1 hr
  rw [dpoTrain_record_checkpoint hsafe henabled hi]
  have hmem : r.totalSteps ∈ List.range' 1 T := hlabels ▸ List.mem_map_of_mem _ hr
  rw [List.mem_range'_1] at hmem
  obtain ⟨hle, hto, hend⟩ := hends
  by_cases hlt : r.totalSteps < T
  · have : r.totalSteps ≠ totalTrainIters trainer.masterConfig trainer.trainDataloader.len := by omega
    simp [this, hto _ hmem.1 hlt, Nat.ne_of_lt hlt]
  · have hEq : r.totalSteps = T := by omega
    have hcond : r.totalSteps = totalTrainIters trainer.masterConfig trainer.trainDataloader.len ∨
        r.totalSteps % trainer.masterConfig.checkpointing.savePeriod = 0 ∨
        trainer.checkSave r.totalSteps = true := by
      rcases hend with h | h
      · exact .inl (hEq.trans h)
      · exact .inr (.inr (hEq ▸ h.2))
    rw [if_pos hcond, if_pos (by simp [hEq])]

theorem oneBatchTrainer_neverRaises : NeverRaises oneBatchTrainer where
  shards := by decide
  evenlySharded := fun _ _ _ _ => by
    simp [evenlySharded, shardRows, refMicroBatchSize, oneBatchTrainer]
  validates := fun _ _ _ => ⟨_, rfl⟩
  trains := fun _ _ _ => List.cons_ne_nil _ _
  savePeriod := by decide

/-- One epoch of three batches, checkpointed every second step. -/
def threeStepTrainer : DPOTrainer :=
  { oneBatchTrainer with
    masterConfig := ⟨⟨1, 1, false, false⟩, ⟨1, 100, 0, 0, 1, false⟩, ⟨true, 2, none⟩⟩
    trainDataloader := ⟨3, fun _ _ => ⟨2, [], none⟩⟩ }

theorem threeStepTrainer_neverRaises : NeverRaises threeStepTrainer where
  shards := by decide
  evenlySharded := fun _ _ _ _ => by
    simp [evenlySharded, shardRows, refMicroBatchSize, threeStepTrainer, oneBatchTrainer]
  validates := fun _ _ _ => ⟨_, rfl⟩
  trains := fun _ _ _ => List.cons_ne_nil _ _
  savePeriod := by decide

/-- Step `1` does not save, step `2` saves by the period, and step `3`, which the
period does not divide, saves as the last. -/
theorem dpoTrain_checkpoint_schedule_three_steps :
    threeStepTrainer.masterConfig.checkpointing.enabled = true ∧ NeverRaises threeStepTrainer ∧
      ((dpoTrain threeStepTrainer none none).steps.filterMap (·.checkpoint)).map (·.step) =
        (List.range' 1 (dpoTrain threeStepTrainer none none).steps.length).filter
          (fun t => t % 2 == 0 || t == (dpoTrain threeStepTrainer none none).steps.length) ∧
      ((dpoTrain threeStepTrainer none none).steps.filterMap (·.checkpoint)).map (·.step) = [2, 3] :=
  ⟨rfl, threeStepTrainer_neverRaises,
    (dpoTrain_checkpoint_schedule threeStepTrainer rfl threeStepTrainer_neverRaises).2.2.2.1,
    by decide⟩

/-- `oneBatchTrainer` with train batches of six rows – three pairs – and
micro-batches of two pairs: shards of four rows do not divide them. -/
def partialBatchTrainer : DPOTrainer :=
  { oneBatchTrainer with
    masterConfig := ⟨⟨3, 2, false, false⟩, ⟨2, 100, 0, 0, 1, false⟩, ⟨true, 1, none⟩⟩
    trainDataloader := ⟨1, fun _ _ => ⟨6, [], none⟩⟩ }

theorem dpoTrain_partial_batch_raises :
    totalTrainIters partialBatchTrainer.masterConfig partialBatchTrainer.trainDataloader.len = 2 ∧
      (dpoTrain partialBatchTrainer none none).steps.length = 0 ∧
      (dpoTrain partialBatchTrainer none none).final.pc =
        .halted (.raised ("AssertionError: " ++ partialBatchMessage)) := by
  decide

/-! ## A zero save period -/

/-- With `save_period = 0`, `should_save_by_step` raises at a step that is not
the last. -/
theorem shouldSaveByStep_of_zero (trainer : DPOTrainer)
    (hzero : trainer.masterConfig.checkpointing.savePeriod = 0) (t : Nat) :
    shouldSaveByStep trainer false t = .error integerModuloByZero := by
  simp [shouldSaveByStep, pyMod, hzero]

/-- With a zero save period every step a fresh run completes is its last: the
modulo raises at any other. -/
theorem fresh_step_last_of_save_period_zero (trainer : DPOTrainer)
    (hzero : trainer.masterConfig.checkpointing.savePeriod = 0) :
    ∀ r ∈ (dpoTrain trainer none none).steps,
      r.totalSteps = totalTrainIters trainer.masterConfig trainer.trainDataloader.len := by
  intro r hr
  obtain ⟨i, hi⟩ := List.mem_iff_getElem?.1 hr
  obtain ⟨c, c', hpos, hstep⟩ := dpoTrain_record_inv
    (fun _ _ _ _ hi h => positioned_step trainer hi h) (positioned_initial trainer) hi
  obtain ⟨st, vm, tok, byStep, rfl, hpull, -, -, hsave, rfl, -⟩ := hstep.eq_train
  obtain ⟨-, hs, -, ht, he⟩ := hpos
  have hceil := (dpoTrain_record_under_ceilings hr).1
  rw [finishStep_totalSteps] at hceil ⊢
  cases hl : isLastStep trainer st
  · rw [hl, shouldSaveByStep_of_zero trainer hzero] at hsave; cases hsave
  · exact (isLastStep_iff (hs ▸ hpull) ht he (by omega)).1 hl

/-- **A fresh run enters its first epoch and pulls its first batch**, when the
loop has an epoch and a step to enter. -/
theorem exec_fresh_start (trainer : DPOTrainer) (hE : 0 < trainer.masterConfig.dpo.maxNumEpochs)
    (hS : 0 < trainer.masterConfig.dpo.maxNumSteps) :
    exec trainer ⟨.epochHead, initialState none none⟩ = exec trainer ⟨.batchHead,
      { initialState none none with loader := (initialState none none).loader.iter }⟩ := by
  have hstart : next trainer ⟨.epochHead, initialState none none⟩ = (none, ⟨.batchHead,
      { initialState none none with loader := (initialState none none).loader.iter }⟩) := by
    simp [next, initialState, DPOSaveState.default, hE, hS]
  rw [exec_of_silent trainer (Loop.active_epochHead _) (by rw [hstart]), hstart]

/-- **A fresh run that completes no step raised**, when the loop has an epoch
and a step to enter and the pass a batch to pull: the first step is not taken
only if it raises. -/
theorem dpoTrain_raised_of_steps_nil (trainer : DPOTrainer)
    (hE : 0 < trainer.masterConfig.dpo.maxNumEpochs) (hS : 0 < trainer.masterConfig.dpo.maxNumSteps)
    (hL : 0 < trainer.trainDataloader.len) (hnil : (dpoTrain trainer none none).steps = []) :
    ∃ e, (dpoTrain trainer none none).final.pc = .halted (.raised e) := by
  cases hv : initialValidation trainer (initialState none none) with
  | error e => exact ⟨e, by rw [dpoTrain_of_error hv]⟩
  | ok vm =>
    rw [dpoTrain_of_ok hv, exec_fresh_start trainer hE hS] at hnil ⊢
    exact exec_pull_silent trainer (by simpa [initialState] using hL) hnil

/-! ## The schedule the configuration fixes -/

/-- **The schedule of a fresh run, as the configuration fixes it**: the `j`-th
step overall is labelled `j + 1` and belongs to epoch `j / len`, for
`total_train_iters` steps. -/
def trainSchedule (masterConfig : MasterConfig) (len : Nat) : List (Nat × Nat) :=
  (List.range (totalTrainIters masterConfig len)).map fun j => (j + 1, j / len)

/-- The labels and epochs of a fresh run's steps are those of the schedule's
first steps. -/
theorem dpoTrain_fresh_trace (trainer : DPOTrainer) :
    (dpoTrain trainer none none).steps.map (fun r => (r.totalSteps, r.epoch)) =
      (List.range (dpoTrain trainer none none).steps.length).map
        (fun j => (j + 1, j / trainer.trainDataloader.len)) := by
  refine List.ext_getElem (by simp) fun i h₁ _ => ?_
  rw [List.length_map] at h₁
  have hr := List.getElem?_eq_getElem h₁
  have hlabel := (dpoTrain_record_counters hr).1
  obtain ⟨n, hn, -, ht⟩ := dpoTrain_fresh_record_position (List.getElem?_mem hr)
  simp only [List.getElem_map, List.getElem_range]
  generalize (dpoTrain trainer none none).steps[i] = r at hlabel ht
  simp only [Option.getD_none, DPOSaveState.default, Nat.zero_add] at hlabel
  have hepoch : i / trainer.trainDataloader.len = r.epoch :=
    Nat.div_eq_of_lt_le (by omega) (by rw [Nat.succ_mul]; omega)
  rw [hlabel, hepoch]

/-- **A fresh run follows the schedule.** Whatever the policy, the validation
and the timeout checker do, the labels and epochs of a fresh run's steps are a
prefix of the schedule; when no step raises and the timeout never fires, they
are the whole schedule. -/
theorem dpoTrain_refines_schedule (trainer : DPOTrainer) :
    (dpoTrain trainer none none).steps.map (fun r => (r.totalSteps, r.epoch)) <+:
        trainSchedule trainer.masterConfig trainer.trainDataloader.len ∧
      (NeverRaises trainer → (∀ t, trainer.checkSave t = false) →
        (dpoTrain trainer none none).steps.map (fun r => (r.totalSteps, r.epoch)) =
          trainSchedule trainer.masterConfig trainer.trainDataloader.len) := by
  rw [dpoTrain_fresh_trace, trainSchedule]
  refine ⟨?_, fun hsafe hnever => ?_⟩
  · rw [List.prefix_iff_eq_take, ← List.map_take, List.take_range, List.length_map,
      List.length_range, Nat.min_eq_left dpoTrain_fresh_length_le]
  · have hends := (dpoTrain_ends hsafe).2
    rw [dpoTrain_final_totalSteps] at hends
    simp only [Option.getD_none, DPOSaveState.default, Nat.zero_add] at hends
    rw [hends.2.2.resolve_right (by simp [hnever])]

theorem dpoTrain_refines_schedule_one_batch :
    NeverRaises oneBatchTrainer ∧ (∀ t, oneBatchTrainer.checkSave t = false) ∧
      (dpoTrain oneBatchTrainer none none).steps.map (fun r => (r.totalSteps, r.epoch)) =
        trainSchedule oneBatchTrainer.masterConfig oneBatchTrainer.trainDataloader.len :=
  ⟨oneBatchTrainer_neverRaises, fun _ => rfl,
    (dpoTrain_refines_schedule oneBatchTrainer).2 oneBatchTrainer_neverRaises (fun _ => rfl)⟩

/-! ## Termination -/

/-- **`dpo_train` terminates.** Whatever the policy, the validation and the
timeout checker do, and whatever state the run was restored from, its loop
halts within `(max_num_epochs - epoch) × (len + 2) + 1` iterations: run for
that many or more, it has halted, with the records and state of its complete
execution. -/
theorem dpoTrain_terminates (trainer : DPOTrainer) (s : Option Nat) (d : Option DPOSaveState)
    (fuel : Nat)
    (hfuel : (trainer.masterConfig.dpo.maxNumEpochs - (initialState s d).currentEpoch) *
      (trainer.trainDataloader.len + 2) + 1 ≤ fuel) :
    (run trainer fuel ⟨.epochHead, initialState s d⟩).2.active = false ∧
      run trainer fuel ⟨.epochHead, initialState s d⟩ = exec trainer ⟨.epochHead, initialState s d⟩ :=
  ⟨run_halts trainer hfuel, run_eq_exec trainer hfuel⟩

theorem dpoTrain_terminates_one_batch :
    (oneBatchTrainer.masterConfig.dpo.maxNumEpochs - (initialState none none).currentEpoch) *
        (oneBatchTrainer.trainDataloader.len + 2) + 1 ≤ 7 ∧
      (run oneBatchTrainer 7 ⟨.epochHead, initialState none none⟩).2.active = false :=
  ⟨by decide, (dpoTrain_terminates oneBatchTrainer none none 7 (by decide)).1⟩

end NemoRl
