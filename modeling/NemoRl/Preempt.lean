import NemoRl.Job

/-!
# Preemption by the timeout

`timeout.check_save()` lets a job stop before its allocation runs out: the step
after which it fires saves a checkpoint and `dpo_train` returns, and the job is
resumed from that checkpoint. That is harmless only if the resumed job goes on
as the job would have gone on had the timeout not fired. `withoutTimeoutAt
trainer t` is that job: the same trainer, whose timeout checker stays silent
after step `t`.

Both are the job with one timeout checker or another (`withCheckSave`), and two
such jobs take the same iteration wherever their checkers agree on the step it
completes. Before step `t` the two jobs are one run, since their checkers agree
on every step taken (`Reaches.withCheckSave`). After it they differ in one respect.
The preempted job's checkpoint at `t` merged that step's validation metrics into
the progress record, and the record carries the keys the merge does not prune –
the sample counts of past validations among them – into every later
checkpoint. Nothing else of the record is read again: a completed step reads it
for its sample count only (`finishStep_congr_locals`). So from states that agree
on the loop's locals and that count, the two jobs take the same steps, with the
same checkpoints but for their metric entries (`exec_withCheckSave_agree`).

A restart from the preempted step's checkpoint goes on from the state that step
left (`dpoTrain_restart_of_step`), and that state agrees with the one the
uninterrupted job reaches after step `t`. Hence `dpoTrain_preempted_resume`: the
resumed job takes the uninterrupted job's steps after `t`, trains on the same
batches, and ends at the same control point with the same counters. Its
checkpoints differ from the uninterrupted job's in the carried-over entries
only: under a validation-metric key each holds what its own step's validation
returned (`dpoTrain_checkpoint_valKeys`), and the two steps validated alike.

A job may be stopped many times. A checkpoint of a resumed run differs from the
uninterrupted job's checkpoint at the same step in its metric entries only, and
restarts from two such checkpoints agree (`dpoTrain_restart_withCheckSave_agree`).
By induction over the resumes, a job resumed after the steps `ts` trains as the
job whose timeout never fired at them (`Resumed.suffix_without_timeouts`).
-/

namespace NemoRl

/-- **The job the timeout did not preempt at step `t`**: the same trainer, with a
timeout checker that does not fire after that step. -/
def withoutTimeoutAt (trainer : DPOTrainer) (t : Nat) : DPOTrainer :=
  { trainer with checkSave := fun u => u != t && trainer.checkSave u }

/-- **The job with another timeout checker**: `trainer`, with `f` answering
`timeout.check_save()`. -/
def withCheckSave (trainer : DPOTrainer) (f : Nat → Bool) : DPOTrainer :=
  { trainer with checkSave := f }

/-- A progress record without its metric entries. -/
def DPOSaveState.eraseMetrics (s : DPOSaveState) : DPOSaveState := { s with metrics := .empty }

/-- A checkpoint whose progress record has no metric entries. -/
def Checkpoint.eraseMetrics (ck : Checkpoint) : Checkpoint :=
  { ck with trainingInfo := ck.trainingInfo.eraseMetrics }

/-- **A step record without the metric entries of its checkpoint**, nor the
best-of-N warning read off them. -/
def StepRecord.eraseMetrics (r : StepRecord) : StepRecord :=
  { r with checkpoint := r.checkpoint.map Checkpoint.eraseMetrics, topKWarning := none }

/-- **What the rest of a run reads of a state**: the locals and the loader, and
of the progress record only its sample count. -/
def TrainState.locals (st : TrainState) : Nat × Nat × Nat × ℚ × LoaderState × Nat :=
  (st.currentEpoch, st.currentStep, st.totalSteps, st.totalValidTokens, st.loader,
    st.dpoSaveState.consumedSamples)

/-- **Two steps whose checkpoints hold the same validation metrics**: the same
entry under every validation-metric key. -/
def StepRecord.ValKeysAgree (r₁ r₂ : StepRecord) : Prop :=
  ∀ ck₁ ∈ r₁.checkpoint, ∀ ck₂ ∈ r₂.checkpoint, ∀ key, isValMetricKey key = true →
    ck₁.trainingInfo.metrics.get? key = ck₂.trainingInfo.metrics.get? key

/-! ## What a step reads of the progress record -/

section Agree

variable (trainer : DPOTrainer)

/-- The record of a completed step, without its metric entries. -/
theorem finishStep_eraseMetrics {st : TrainState} {vm : Option (PyDict ℚ)} {tok : ℚ}
    {byStep : Bool} : (finishStep trainer st vm tok byStep).1.eraseMetrics =
      ⟨st.totalSteps + 1, st.currentEpoch, vm,
        if savesCheckpoint trainer st byStep then
          some ⟨st.totalSteps + 1, ⟨st.currentEpoch, (st.currentStep + 1) % trainer.trainDataloader.len,
            st.totalSteps + 1,
            st.dpoSaveState.consumedSamples + trainer.masterConfig.policy.trainGlobalBatchSize,
            some (st.totalValidTokens + tok), .empty⟩, st.loader.numYielded + 1⟩
        else none, none⟩ := by
  simp only [StepRecord.eraseMetrics, finishStep_checkpoint]
  split <;> rfl

/-- **A completed step reads the progress record only for its sample count**:
from states that agree on the locals it gives the same record up to the metric
entries of its checkpoint, and states that agree on the locals. -/
theorem finishStep_congr_locals {st₁ st₂ : TrainState} (h : st₁.locals = st₂.locals)
    (vm : Option (PyDict ℚ)) (tok : ℚ) (byStep : Bool) :
    (finishStep trainer st₁ vm tok byStep).1.eraseMetrics =
        (finishStep trainer st₂ vm tok byStep).1.eraseMetrics ∧
      (finishStep trainer st₁ vm tok byStep).2.1.locals =
        (finishStep trainer st₂ vm tok byStep).2.1.locals := by
  simp only [TrainState.locals, Prod.mk.injEq] at h
  obtain ⟨hE, hS, hT, hV, hL, hC⟩ := h
  simp only [finishStep_eraseMetrics, savesCheckpoint, TrainState.locals, finishStep_currentEpoch,
    finishStep_currentStep, finishStep_state_totalSteps, finishStep_totalValidTokens,
    finishStep_loader, finishStep_consumedSamples, hE, hS, hT, hV, hL, hC, and_self]

end Agree

/-! ## Another timeout checker

Two jobs that differ only in their timeout checker take the same iteration
wherever the two checkers agree on the step it completes. -/

section Checker

variable (trainer : DPOTrainer) (f : Nat → Bool)

@[simp] theorem withCheckSave_policy : (withCheckSave trainer f).policy = trainer.policy := rfl
@[simp] theorem withCheckSave_maybePadLastBatch :
    (withCheckSave trainer f).maybePadLastBatch = trainer.maybePadLastBatch := rfl
@[simp] theorem withCheckSave_masterConfig :
    (withCheckSave trainer f).masterConfig = trainer.masterConfig := rfl
@[simp] theorem withCheckSave_trainDataloader :
    (withCheckSave trainer f).trainDataloader = trainer.trainDataloader := rfl
@[simp] theorem withCheckSave_checkSave : (withCheckSave trainer f).checkSave = f := rfl
@[simp] theorem stepValidation_withCheckSave :
    stepValidation (withCheckSave trainer f) = stepValidation trainer := rfl
@[simp] theorem shouldSaveByStep_withCheckSave :
    shouldSaveByStep (withCheckSave trainer f) = shouldSaveByStep trainer := rfl
@[simp] theorem isLastStep_withCheckSave :
    isLastStep (withCheckSave trainer f) = isLastStep trainer := rfl
@[simp] theorem countConsumedSamples_withCheckSave :
    countConsumedSamples (withCheckSave trainer f) = countConsumedSamples trainer := rfl
@[simp] theorem checkpointRecord_withCheckSave :
    checkpointRecord (withCheckSave trainer f) = checkpointRecord trainer := rfl
@[simp] theorem initialValidation_withCheckSave :
    initialValidation (withCheckSave trainer f) = initialValidation trainer := rfl

/-- **The body of the batch loop raises in both jobs or in neither**, from states
that agree on the locals, and otherwise completes with the same values. -/
theorem trainStep_withCheckSave {st₁ st₂ : TrainState} (h : st₁.locals = st₂.locals) :
    (∃ e, trainStep trainer st₁ = .error e ∧ trainStep (withCheckSave trainer f) st₂ = .error e) ∨
    ∃ vm tok byStep, trainStep trainer st₁ = .ok (finishStep trainer st₁ vm tok byStep) ∧
      trainStep (withCheckSave trainer f) st₂ =
        .ok (finishStep (withCheckSave trainer f) st₂ vm tok byStep) := by
  simp only [TrainState.locals, Prod.mk.injEq] at h
  obtain ⟨hE, hS, hT, -, hL, -⟩ := h
  have hlast : isLastStep trainer st₂ = isLastStep trainer st₁ := by
    simp [isLastStep, hE, hS, hT]
  simp only [trainStep, withCheckSave_policy, withCheckSave_maybePadLastBatch,
    withCheckSave_masterConfig, withCheckSave_trainDataloader, stepValidation_withCheckSave,
    shouldSaveByStep_withCheckSave, isLastStep_withCheckSave, hlast, ← hE, ← hT, ← hL]
  generalize refBatch _ _ _ _ _ = b, stepValidation _ _ = v,
    stepValidToks _ = k, shouldSaveByStep _ _ _ = s
  cases b <;> try exact .inl ⟨_, rfl, rfl⟩
  cases v <;> try exact .inl ⟨_, rfl, rfl⟩
  cases k <;> try exact .inl ⟨_, rfl, rfl⟩
  cases s <;> try exact .inl ⟨_, rfl, rfl⟩
  exact .inr ⟨_, _, _, rfl, rfl⟩

/-- Where the two checkers agree on a step, so do the step's counters,
checkpoint and return. -/
theorem finishStep_withCheckSave_of_eq {st : TrainState}
    (h : f (st.totalSteps + 1) = trainer.checkSave (st.totalSteps + 1))
    (vm : Option (PyDict ℚ)) (tok : ℚ) (byStep : Bool) :
    finishStep (withCheckSave trainer f) st vm tok byStep = finishStep trainer st vm tok byStep := by
  simp [finishStep, h]

/-- **An iteration whose step the two checkers agree on is the same in both jobs.** -/
theorem next_withCheckSave_of_eq {c : Loop}
    (h : ∀ r, (next trainer c).1 = some r → f r.totalSteps = trainer.checkSave r.totalSteps) :
    next (withCheckSave trainer f) c = next trainer c := by
  obtain ⟨pc, st⟩ := c
  cases pc with
  | batchHead =>
    by_cases hpull : st.loader.numYielded < trainer.trainDataloader.len
    · rcases trainStep_withCheckSave trainer f (rfl : st.locals = st.locals) with
        ⟨e, h₁, h₂⟩ | ⟨vm, tok, byStep, h₁, h₂⟩
      · simp [next, hpull, h₁, h₂]
      · have heq := h (finishStep trainer st vm tok byStep).1 (by simp [next, hpull, h₁])
        simp only [finishStep_totalSteps] at heq
        simp [next, hpull, h₁, h₂, finishStep_withCheckSave_of_eq trainer f heq]
    · simp [next, hpull]
  | _ => rfl

/-- **Runs whose steps the two checkers agree on are the same in both jobs.** -/
theorem Reaches.withCheckSave {c d : Loop} {rs : List StepRecord}
    (h : Reaches trainer c rs d) (hrs : ∀ r ∈ rs, f r.totalSteps = trainer.checkSave r.totalSteps) :
    Reaches (withCheckSave trainer f) c rs d := by
  induction h with
  | refl c => exact .refl c
  | @step c rs d hc _ ih =>
    have heq := @next_withCheckSave_of_eq trainer f c (fun r hr => hrs r (by simp [hr]))
    rw [← heq] at ih ⊢
    exact .step hc (ih fun r hr => hrs r (by simp [hr]))

/-- A run of the job with another checker gets past the same initial validation. -/
theorem dpoTrain_withCheckSave_of_ok {s : Option Nat} {d : Option DPOSaveState}
    {vm : Option (PyDict ℚ)} (hv : initialValidation trainer (initialState s d) = .ok vm) :
    dpoTrain (withCheckSave trainer f) s d =
      ⟨vm, (exec (withCheckSave trainer f) ⟨.epochHead, initialState s d⟩).1,
        (exec (withCheckSave trainer f) ⟨.epochHead, initialState s d⟩).2⟩ :=
  dpoTrain_of_ok hv

end Checker

/-! ## After the checkers part -/

section After

variable (trainer : DPOTrainer) (f : Nat → Bool) (t : Nat)
  (hf : ∀ u, t < u → f u = trainer.checkSave u)
include hf

/-- **An iteration after step `t` agrees in both jobs**, from configurations at
the same control point whose states agree on the locals. -/
theorem next_withCheckSave_agree {c₁ c₂ : Loop} (hpc : c₁.pc = c₂.pc)
    (hst : c₁.state.locals = c₂.state.locals) (ht : t ≤ c₁.state.totalSteps) :
    (next trainer c₁).1.map StepRecord.eraseMetrics =
        (next (withCheckSave trainer f) c₂).1.map StepRecord.eraseMetrics ∧
      (next trainer c₁).2.pc = (next (withCheckSave trainer f) c₂).2.pc ∧
      (next trainer c₁).2.state.locals = (next (withCheckSave trainer f) c₂).2.state.locals ∧
      t ≤ (next trainer c₁).2.state.totalSteps := by
  obtain ⟨pc, st₁⟩ := c₁
  obtain ⟨pc₂, st₂⟩ := c₂
  simp only at hpc hst ht
  subst hpc
  have hloc := hst
  simp only [TrainState.locals, Prod.mk.injEq] at hst
  obtain ⟨hE, hS, hT, hV, hL, hC⟩ := hst
  cases pc with
  | halted o => exact ⟨rfl, rfl, hloc, ht⟩
  | epochHead =>
    by_cases hg : st₁.currentEpoch < trainer.masterConfig.dpo.maxNumEpochs ∧
        st₁.totalSteps < trainer.masterConfig.dpo.maxNumSteps <;>
      simp [next, hg, TrainState.locals, ← hE, ← hS, ← hT, ← hV, ← hL, ← hC, ht]
  | batchHead =>
    by_cases hpull : st₁.loader.numYielded < trainer.trainDataloader.len
    · rcases trainStep_withCheckSave trainer f hloc with
        ⟨e, h₁, h₂⟩ | ⟨vm, tok, byStep, h₁, h₂⟩
      · simp [next, hpull, ← hL, h₁, h₂, hloc, ht]
      · -- the checkers agree after `t`
        rw [finishStep_withCheckSave_of_eq trainer f (hf _ (by omega))] at h₂
        obtain ⟨h₃, h₄⟩ := finishStep_congr_locals trainer hloc vm tok byStep
        simp [next, hpull, ← hL, ← hT, h₁, h₂, h₃, h₄]
        omega
    · simp [next, hpull, TrainState.locals, ← hE, ← hS, ← hT, ← hV, ← hL, ← hC, ht]

/-- **The executions of both jobs after step `t` agree**: the same records up to
the metric entries of their checkpoints, and final configurations at the same
control point whose states agree on the locals. -/
theorem exec_withCheckSave_agree {c₁ c₂ : Loop} (hpc : c₁.pc = c₂.pc)
    (hst : c₁.state.locals = c₂.state.locals) (ht : t ≤ c₁.state.totalSteps) :
    (exec trainer c₁).1.map StepRecord.eraseMetrics =
        (exec (withCheckSave trainer f) c₂).1.map StepRecord.eraseMetrics ∧
      (exec trainer c₁).2.pc = (exec (withCheckSave trainer f) c₂).2.pc ∧
      (exec trainer c₁).2.state.locals = (exec (withCheckSave trainer f) c₂).2.state.locals := by
  obtain ⟨m, hm⟩ : ∃ m, measure trainer c₁ = m := ⟨_, rfl⟩
  induction m using Nat.strong_induction_on generalizing c₁ c₂ with
  | _ m ih =>
    have hact : c₂.active = c₁.active := by simp only [Loop.active, hpc]
    cases hc : c₁.active
    · rw [exec_of_not_active trainer hc, exec_of_not_active _ (hact.trans hc)]
      exact ⟨rfl, hpc, hst⟩
    · rw [exec_of_active trainer hc, exec_of_active _ (hact.trans hc)]
      obtain ⟨h₁, h₂, h₃, h₄⟩ := next_withCheckSave_agree trainer f t hf hpc hst ht
      obtain ⟨ih₁, ih₂, ih₃⟩ := ih _ (hm ▸ measure_next_lt trainer hc) h₂ h₃ h₄ rfl
      refine ⟨?_, ih₂, ih₃⟩
      have hmap (o : Option StepRecord) :
          o.toList.map StepRecord.eraseMetrics = (o.map StepRecord.eraseMetrics).toList := by
        cases o <;> rfl
      rw [List.map_append, List.map_append, hmap, hmap, h₁, ih₁]

end After

/-- The batch a step that raised had trained on is read off the locals. -/
theorem raisedBatch_withCheckSave (trainer : DPOTrainer) (f : Nat → Bool) {d₁ d₂ : Loop}
    (hpc : d₁.pc = d₂.pc) (hst : d₁.state.locals = d₂.state.locals) :
    raisedBatch trainer d₁ = raisedBatch (withCheckSave trainer f) d₂ := by
  obtain ⟨pc, st₁⟩ := d₁
  obtain ⟨pc₂, st₂⟩ := d₂
  simp only at hpc hst
  subst hpc
  simp only [TrainState.locals, Prod.mk.injEq] at hst
  obtain ⟨hE, -, -, -, hL, -⟩ := hst
  simp [raisedBatch, trainedBatch, hE, hL]

/-- **Steps that agree but for their metric entries agree on the validation
metrics**, where each checkpoint holds its own step's validation metrics: the
steps validated alike. -/
theorem valKeysAgree_of_eraseMetrics {rs₁ rs₂ : List StepRecord}
    (h : rs₁.map StepRecord.eraseMetrics = rs₂.map StepRecord.eraseMetrics)
    (h₁ : ∀ r ∈ rs₁, ∀ ck ∈ r.checkpoint, ∀ key, isValMetricKey key = true →
      ck.trainingInfo.metrics.get? key = (r.valMetrics.getD .empty).get? key)
    (h₂ : ∀ r ∈ rs₂, ∀ ck ∈ r.checkpoint, ∀ key, isValMetricKey key = true →
      ck.trainingInfo.metrics.get? key = (r.valMetrics.getD .empty).get? key) :
    List.Forall₂ StepRecord.ValKeysAgree rs₁ rs₂ := by
  induction rs₁ generalizing rs₂ with
  | nil => cases rs₂ <;> first | exact .nil | cases h
  | cons r₁ rs₁ ih =>
    cases rs₂ with
    | nil => cases h
    | cons r₂ rs₂ =>
      simp only [List.map_cons, List.cons.injEq] at h
      have hvm : r₁.valMetrics = r₂.valMetrics := (congrArg StepRecord.valMetrics h.1 :)
      refine .cons (fun ck₁ hck₁ ck₂ hck₂ key hkey => ?_)
        (ih h.2 (fun r hr => h₁ r (.tail _ hr)) fun r hr => h₂ r (.tail _ hr))
      rw [h₁ r₁ (.head _) ck₁ hck₁ key hkey, h₂ r₂ (.head _) ck₂ hck₂ key hkey, hvm]

/-! ## Resuming after a preemption -/

theorem withoutTimeoutAt_eq (trainer : DPOTrainer) (t : Nat) :
    withoutTimeoutAt trainer t = withCheckSave trainer fun u => u != t && trainer.checkSave u :=
  rfl

/-- The steps of a fresh run before its `(i + 1)`-th are labelled below it. -/
theorem dpoTrain_take_label_lt {trainer : DPOTrainer} (i : Nat) :
    ∀ r ∈ (dpoTrain trainer none none).steps.take i, r.totalSteps < i + 1 := by
  intro r hr
  obtain ⟨j, hj⟩ := List.mem_iff_getElem?.1 hr
  rw [List.getElem?_take] at hj
  split at hj
  · rw [(dpoTrain_record_counters hj).1]; simp [DPOSaveState.default]; omega
  · cases hj

/-- **The resumed job and the uninterrupted one, step by step**: the steps, the
final control point and the final locals, and the uninterrupted job's steps
reach past `t`. -/
theorem dpoTrain_preempted_exec (trainer : DPOTrainer) (i : Nat) (r : StepRecord)
    (ck : Checkpoint) (hr : (dpoTrain trainer none none).steps[i]? = some r)
    (hck : r.checkpoint = some ck) (hceil : r.totalSteps < trainer.masterConfig.dpo.maxNumSteps) :
    (dpoTrain trainer (some ck.trainDataloader) (some ck.trainingInfo)).steps.map
          StepRecord.eraseMetrics =
        ((dpoTrain (withoutTimeoutAt trainer r.totalSteps) none none).steps.drop (i + 1)).map
          StepRecord.eraseMetrics ∧
      (dpoTrain trainer (some ck.trainDataloader) (some ck.trainingInfo)).final.pc =
        (dpoTrain (withoutTimeoutAt trainer r.totalSteps) none none).final.pc ∧
      (dpoTrain trainer (some ck.trainDataloader) (some ck.trainingInfo)).final.state.locals =
        (dpoTrain (withoutTimeoutAt trainer r.totalSteps) none none).final.state.locals ∧
      i + 1 ≤ (dpoTrain (withoutTimeoutAt trainer r.totalSteps) none none).steps.length := by
  rw [withoutTimeoutAt_eq]
  have hi : i < (dpoTrain trainer none none).steps.length := (List.getElem?_eq_some_iff.1 hr).1
  have hlabel : r.totalSteps = i + 1 := by
    simpa [DPOSaveState.default] using (dpoTrain_record_counters hr).1
  obtain ⟨vm₀, hv⟩ := initialValidation_eq_ok hr
  have hne : (dpoTrain trainer none none).steps ≠ [] := by rintro h; simp [h] at hr
  obtain ⟨e, he, hea, her, -⟩ := (dpoTrain_reaches hne).split trainer hr
  have hpos : Positioned trainer e := he.positioned trainer (positioned_initial trainer)
  have hstep := next_step trainer hea
  rw [her] at hstep
  obtain ⟨st, -, -, -, rfl, hpull, -⟩ := hstep.eq_train
  -- before the preempted step the two jobs are one run
  have hbefore := he.withCheckSave trainer (fun u => u != r.totalSteps && trainer.checkSave u)
    fun r' hr' => by simp [Nat.ne_of_lt (hlabel ▸ dpoTrain_take_label_lt i r' hr')]
  -- the preempted step, in both jobs
  rcases trainStep_withCheckSave trainer (fun u => u != r.totalSteps && trainer.checkSave u)
      (rfl : st.locals = st.locals) with
    ⟨err, h₁, -⟩ | ⟨vm, tok, byStep, h₁, h₂⟩
  · simp [next, hpull, h₁] at her
  simp only [next, hpull, if_true, h₁, Option.some.injEq] at her
  subst her
  simp only [finishStep_totalSteps] at hceil hbefore h₂ ⊢
  -- without the timeout it does not return
  have hnext : next (withCheckSave trainer fun u => u != st.totalSteps + 1 && trainer.checkSave u)
      ⟨.batchHead, st⟩ = (some (finishStep (withCheckSave trainer fun u => u != st.totalSteps + 1 &&
        trainer.checkSave u) st vm tok byStep).1, ⟨.batchHead, (finishStep (withCheckSave trainer
          fun u => u != st.totalSteps + 1 && trainer.checkSave u) st vm tok byStep).2.1⟩) := by
    simp [next, hpull, h₂, Nat.not_le.2 hceil]
  have hloc : (finishStep trainer st vm tok byStep).2.1.locals = (finishStep (withCheckSave trainer
      fun u => u != st.totalSteps + 1 && trainer.checkSave u) st vm tok byStep).2.1.locals := by
    simp [TrainState.locals]
  rw [dpoTrain_restart_of_step trainer hpos hpull hck hceil, dpoTrain_withCheckSave_of_ok trainer _ hv,
    exec_of_reaches _ hbefore, exec_of_active _ (Loop.active_batchHead st), hnext,
    Option.toList_some, List.singleton_append, List.append_cons,
    List.drop_left' (by simp [Nat.min_eq_left hi.le])]
  -- after it the two jobs agree
  obtain ⟨h₃, h₄, h₅⟩ := @exec_withCheckSave_agree trainer
    (fun u => u != st.totalSteps + 1 && trainer.checkSave u) (st.totalSteps + 1)
    (fun u hu => by simp [Nat.ne_of_gt hu]) ⟨.batchHead, (finishStep trainer st vm tok byStep).2.1⟩
    ⟨.batchHead, (finishStep (withCheckSave trainer fun u => u != st.totalSteps + 1 &&
      trainer.checkSave u) st vm tok byStep).2.1⟩ (rfl : Pc.batchHead = .batchHead) hloc (by simp)
  exact ⟨h₃, h₄, h₅, by simp [Nat.min_eq_left hi.le]⟩

/-- **Preemption by the timeout is transparent.** Take a fresh run of `dpo_train`,
its `(i + 1)`-th step `t`, below the step ceiling, and the checkpoint that step
wrote – because the timeout checker fired there, or for any other reason.
Resumed from that checkpoint, with the same policy, validation and timeout
checker, `dpo_train` takes the steps the job would have taken after `t` had the
timeout not fired there – the same labels, epochs, validations, and checkpoints
with the same positions and counters, all but the metric entries the progress
record carries over, and with the same validation metrics – hands
`policy.train` the same batches, and ends at the same control point with the
same counters and loader position. -/
theorem dpoTrain_preempted_resume (trainer : DPOTrainer) (i : Nat) (r : StepRecord)
    (ck : Checkpoint) (hr : (dpoTrain trainer none none).steps[i]? = some r)
    (hck : r.checkpoint = some ck) (hceil : r.totalSteps < trainer.masterConfig.dpo.maxNumSteps) :
    (dpoTrain trainer (some ck.trainDataloader) (some ck.trainingInfo)).steps.map
          StepRecord.eraseMetrics =
        ((dpoTrain (withoutTimeoutAt trainer r.totalSteps) none none).steps.drop (i + 1)).map
          StepRecord.eraseMetrics ∧
      List.Forall₂ StepRecord.ValKeysAgree
        (dpoTrain trainer (some ck.trainDataloader) (some ck.trainingInfo)).steps
        ((dpoTrain (withoutTimeoutAt trainer r.totalSteps) none none).steps.drop (i + 1)) ∧
      (dpoTrain trainer (some ck.trainDataloader) (some ck.trainingInfo)).final.pc =
        (dpoTrain (withoutTimeoutAt trainer r.totalSteps) none none).final.pc ∧
      (dpoTrain trainer (some ck.trainDataloader) (some ck.trainingInfo)).final.state.locals =
        (dpoTrain (withoutTimeoutAt trainer r.totalSteps) none none).final.state.locals ∧
      dpoTrainBatches trainer (some ck.trainDataloader) (some ck.trainingInfo) =
        (dpoTrainBatches (withoutTimeoutAt trainer r.totalSteps) none none).drop (i + 1) := by
  obtain ⟨h₁, h₂, h₃, hlen⟩ := dpoTrain_preempted_exec trainer i r ck hr hck hceil
  refine ⟨h₁, valKeysAgree_of_eraseMetrics h₁ (dpoTrain_checkpoint_valKeys trainer _ _)
    fun r' hr' => dpoTrain_checkpoint_valKeys _ none none r' (List.mem_of_mem_drop hr'), h₂, h₃, ?_⟩
  obtain ⟨vm, hv⟩ := initialValidation_eq_ok hr
  have hl := congrArg List.length h₁
  simp only [List.length_map, List.length_drop] at hl
  have hraised : raisedBatch trainer _ = raisedBatch (withoutTimeoutAt trainer r.totalSteps) _ :=
    raisedBatch_withCheckSave trainer _ h₂ h₃
  rw [dpoTrainBatches_restart hr hck,
    dpoTrainBatches_of_aligned (show initialValidation (withoutTimeoutAt trainer r.totalSteps)
      (initialState none none) = .ok vm from hv) loaderAligned_initial, hl,
    hraised]
  simp only [Option.getD_none]
  rw [show DPOSaveState.default.totalSteps = 0 from rfl, map_range'_drop _ (by omega)]
  congr 2
  omega

/-- `oneBatchTrainer` whose timeout checker fires after step `1`. -/
def preemptedTrainer : DPOTrainer := { oneBatchTrainer with checkSave := fun t => t == 1 }

/-- The step the timeout stopped, and its checkpoint. -/
def preemptedStep : StepRecord := (dpoTrain preemptedTrainer none none).steps.get ⟨0, by decide⟩

def preemptedCheckpoint : Checkpoint := preemptedStep.checkpoint.get (by decide)

theorem dpoTrain_preempted_resume_first_step :
    (dpoTrain preemptedTrainer none none).steps[0]? = some preemptedStep ∧
      preemptedStep.checkpoint = some preemptedCheckpoint ∧
      preemptedTrainer.checkSave preemptedStep.totalSteps = true ∧
      preemptedStep.totalSteps < preemptedTrainer.masterConfig.dpo.maxNumSteps ∧
      (dpoTrain preemptedTrainer (some preemptedCheckpoint.trainDataloader)
          (some preemptedCheckpoint.trainingInfo)).final.pc =
        (dpoTrain (withoutTimeoutAt preemptedTrainer preemptedStep.totalSteps) none none).final.pc := by
  have h₁ : (dpoTrain preemptedTrainer none none).steps[0]? = some preemptedStep :=
    List.getElem?_eq_getElem _
  have h₂ : preemptedStep.checkpoint = some preemptedCheckpoint := (Option.some_get _).symm
  have h₃ : preemptedStep.totalSteps < preemptedTrainer.masterConfig.dpo.maxNumSteps := by decide
  exact ⟨h₁, h₂, by decide, h₃, (dpoTrain_preempted_resume preemptedTrainer 0 _ _ h₁ h₂ h₃).2.2.1⟩

/-! ## Repeated preemption -/

/-- **The job none of whose timeouts at the steps `ts` fired.** -/
def withoutTimeoutsAt (trainer : DPOTrainer) (ts : List Nat) : DPOTrainer :=
  withCheckSave trainer fun u => !decide (u ∈ ts) && trainer.checkSave u

theorem withoutTimeoutsAt_nil (trainer : DPOTrainer) : withoutTimeoutsAt trainer [] = trainer := by
  cases trainer
  simp [withoutTimeoutsAt, withCheckSave]

theorem withoutTimeoutsAt_append_singleton (trainer : DPOTrainer) (ts : List Nat) (t : Nat) :
    withoutTimeoutsAt trainer (ts ++ [t]) = withoutTimeoutAt (withoutTimeoutsAt trainer ts) t := by
  simp only [withoutTimeoutsAt, withoutTimeoutAt, withCheckSave, DPOTrainer.mk.injEq, true_and]
  funext u
  by_cases hu : u = t <;> simp [hu]

/-- **Restarts from two checkpoints that differ only in their metric entries
agree**, in two jobs whose timeout checkers agree after the checkpointed step. -/
theorem dpoTrain_restart_withCheckSave_agree (trainer : DPOTrainer) (f : Nat → Bool)
    {ck ck' : Checkpoint} (h : ck.eraseMetrics = ck'.eraseMetrics)
    (hpos : ck.trainingInfo.totalSteps ≠ 0)
    (hf : ∀ u, ck.trainingInfo.totalSteps < u → f u = trainer.checkSave u) :
    (dpoTrain trainer (some ck.trainDataloader) (some ck.trainingInfo)).steps.map
          StepRecord.eraseMetrics =
        (dpoTrain (withCheckSave trainer f) (some ck'.trainDataloader)
          (some ck'.trainingInfo)).steps.map StepRecord.eraseMetrics ∧
      (dpoTrain trainer (some ck.trainDataloader) (some ck.trainingInfo)).final.pc =
        (dpoTrain (withCheckSave trainer f) (some ck'.trainDataloader)
          (some ck'.trainingInfo)).final.pc ∧
      (dpoTrain trainer (some ck.trainDataloader) (some ck.trainingInfo)).final.state.locals =
        (dpoTrain (withCheckSave trainer f) (some ck'.trainDataloader)
          (some ck'.trainingInfo)).final.state.locals := by
  simp only [Checkpoint.eraseMetrics, DPOSaveState.eraseMetrics, Checkpoint.mk.injEq,
    DPOSaveState.mk.injEq] at h
  obtain ⟨-, ⟨hE, hS, hT, hC, hV, -⟩, hD⟩ := h
  have hv : ∀ c : Checkpoint, c.trainingInfo.totalSteps ≠ 0 → initialValidation trainer
      (initialState (some c.trainDataloader) (some c.trainingInfo)) = .ok none :=
    fun c hc => initialValidation_of_ne_zero (by simpa [initialState] using hc)
  rw [dpoTrain_of_ok (hv ck hpos), dpoTrain_withCheckSave_of_ok trainer f (hv ck' (hT ▸ hpos))]
  exact @exec_withCheckSave_agree trainer f ck.trainingInfo.totalSteps hf
    ⟨.epochHead, initialState (some ck.trainDataloader) (some ck.trainingInfo)⟩
    ⟨.epochHead, initialState (some ck'.trainDataloader) (some ck'.trainingInfo)⟩
    (rfl : Pc.epochHead = .epochHead)
    (by simp [TrainState.locals, initialState, hE, hS, hT, hC, hV, hD]) (by simp [initialState])

/-- **The runs of a job that is stopped and resumed**: the fresh run, and a
resume, with the same policy, validation and timeout checker, from the
checkpoint one of its runs wrote at a step below the step ceiling – the step
the timeout checker stopped it after, or an earlier one. `ts` lists the steps
it was resumed after. -/
inductive Resumed (trainer : DPOTrainer) : List Nat → TrainRun → Prop
  | fresh : Resumed trainer [] (dpoTrain trainer none none)
  | resume {ts : List Nat} {run : TrainRun} {i : Nat} {r : StepRecord} {ck : Checkpoint}
      (hrun : Resumed trainer ts run) (hr : run.steps[i]? = some r)
      (hck : r.checkpoint = some ck)
      (hceil : r.totalSteps < trainer.masterConfig.dpo.maxNumSteps) :
      Resumed trainer (ts ++ [r.totalSteps])
        (dpoTrain trainer (some ck.trainDataloader) (some ck.trainingInfo))

/-- A run of a resumed job is a run of `dpo_train`. -/
theorem Resumed.eq_dpoTrain {trainer : DPOTrainer} {ts : List Nat} {run : TrainRun}
    (h : Resumed trainer ts run) : ∃ s d, run = dpoTrain trainer s d := by
  cases h <;> exact ⟨_, _, rfl⟩

/-- A job resumed after the steps `ts` takes the steps of the job without those
timeouts after the last of them, up to the metric entries of the checkpoints. -/
theorem Resumed.suffix_eraseMetrics {trainer : DPOTrainer} {ts : List Nat} {run : TrainRun}
    (h : Resumed trainer ts run) :
    ∃ k, k = ts.getLast?.getD 0 ∧ run.steps.map StepRecord.eraseMetrics =
        ((dpoTrain (withoutTimeoutsAt trainer ts) none none).steps.drop k).map
          StepRecord.eraseMetrics ∧
      run.final.pc = (dpoTrain (withoutTimeoutsAt trainer ts) none none).final.pc ∧
      run.final.state.locals =
        (dpoTrain (withoutTimeoutsAt trainer ts) none none).final.state.locals ∧
      (∀ t ∈ ts, t ≤ k) ∧ k ≤ (dpoTrain (withoutTimeoutsAt trainer ts) none none).steps.length := by
  induction h with
  | fresh => exact ⟨0, rfl, by simp [withoutTimeoutsAt_nil]⟩
  | @resume ts run i r ck _ hr hck hceil ih =>
    obtain ⟨k, -, hsteps, -, -, hts, -⟩ := ih
    -- the step resumed after, and its checkpoint, in the uninterrupted job
    obtain ⟨rF, hrF, hrFe⟩ : ∃ rF, (dpoTrain (withoutTimeoutsAt trainer ts) none none).steps[k + i]? =
        some rF ∧ rF.eraseMetrics = r.eraseMetrics := by
      have := congrArg (·[i]?) hsteps
      simp only [List.getElem?_map, List.getElem?_drop, hr, Option.map_some'] at this
      exact Option.map_eq_some'.1 this.symm
    have hlab : rF.totalSteps = r.totalSteps := (congrArg StepRecord.totalSteps hrFe :)
    obtain ⟨ckF, hckF, hckFe⟩ : ∃ ckF, rF.checkpoint = some ckF ∧
        ckF.eraseMetrics = ck.eraseMetrics := by
      have := congrArg StepRecord.checkpoint hrFe
      simp only [StepRecord.eraseMetrics, hck, Option.map_some'] at this
      exact Option.map_eq_some'.1 this
    have hlabF : rF.totalSteps = k + i + 1 := by
      simpa [DPOSaveState.default, Nat.add_assoc] using (dpoTrain_record_counters hrF).1
    have hckT : ckF.trainingInfo.totalSteps = rF.totalSteps :=
      ((dpoTrain_record_counters hrF).2 ckF hckF).1
    -- the uninterrupted job resumed there goes on as the job without that timeout
    obtain ⟨p₁, p₂, p₃, p₄⟩ := dpoTrain_preempted_exec (withoutTimeoutsAt trainer ts) (k + i) rF ckF
      hrF hckF (by simpa [withoutTimeoutsAt, hlab] using hceil)
    -- and the job resumed from its own checkpoint goes on as the uninterrupted one
    have hT : ck.trainingInfo.totalSteps = k + i + 1 := by
      rw [← hlabF, ← hckT]
      exact (congrArg (·.trainingInfo.totalSteps) hckFe).symm
    obtain ⟨q₁, q₂, q₃⟩ := dpoTrain_restart_withCheckSave_agree trainer
      (fun u => !decide (u ∈ ts) && trainer.checkSave u) hckFe.symm (by omega) fun u hu => by
        have : u ∉ ts := fun hm => by have := hts u hm; omega
        simp [this]
    rw [withoutTimeoutsAt_append_singleton, ← hlab]
    refine ⟨k + i + 1, by simp [hlabF], q₁.trans p₁, q₂.trans p₂, q₃.trans p₃,
      fun t ht => ?_, p₄⟩
    rcases List.mem_append.1 ht with ht | ht
    · have := hts t ht; omega
    · rw [List.mem_singleton.1 ht]; omega

/-- **However often a job is stopped and resumed, it trains as the job whose
timeout never fired at those steps.** Whatever the policy, the validation and
the timeout checker do: a run of a job resumed after the steps `ts`, each time
from a checkpoint below the step ceiling, takes the steps the fresh job without
the timeouts at `ts` takes after the last step in `ts` (after none, for the
fresh run) – the same labels, epochs, validations, and checkpoints with the
same positions and counters, all but their metric entries, and with the same
validation metrics – and ends at the same control point with the same counters
and loader position. -/
theorem Resumed.suffix_without_timeouts {trainer : DPOTrainer} {ts : List Nat} {run : TrainRun}
    (h : Resumed trainer ts run) :
    ∃ k, k = ts.getLast?.getD 0 ∧ run.steps.map StepRecord.eraseMetrics =
        ((dpoTrain (withoutTimeoutsAt trainer ts) none none).steps.drop k).map
          StepRecord.eraseMetrics ∧
      List.Forall₂ StepRecord.ValKeysAgree run.steps
        ((dpoTrain (withoutTimeoutsAt trainer ts) none none).steps.drop k) ∧
      run.final.pc = (dpoTrain (withoutTimeoutsAt trainer ts) none none).final.pc ∧
      run.final.state.locals =
        (dpoTrain (withoutTimeoutsAt trainer ts) none none).final.state.locals ∧
      (∀ t ∈ ts, t ≤ k) ∧ k ≤ (dpoTrain (withoutTimeoutsAt trainer ts) none none).steps.length := by
  obtain ⟨k, hk, h₁, h₂⟩ := h.suffix_eraseMetrics
  obtain ⟨s, d, rfl⟩ := h.eq_dpoTrain
  exact ⟨k, hk, h₁, valKeysAgree_of_eraseMetrics h₁ (dpoTrain_checkpoint_valKeys trainer s d)
    fun r hr => dpoTrain_checkpoint_valKeys _ none none r (List.mem_of_mem_drop hr), h₂⟩

/-- A job of three one-batch epochs whose timeout checker fires after steps `1`
and `2`. -/
def twiceStoppedTrainer : DPOTrainer :=
  { threeEpochTrainer with checkSave := fun t => t == 1 || t == 2 }

/-- The step the fresh run stops after, and its checkpoint. -/
def firstStopStep : StepRecord := (dpoTrain twiceStoppedTrainer none none).steps.get ⟨0, by decide⟩

def firstStopCheckpoint : Checkpoint := firstStopStep.checkpoint.get (by decide)

/-- The step the run resumed from it stops after, and its checkpoint. -/
def secondStopStep : StepRecord :=
  (dpoTrain twiceStoppedTrainer (some firstStopCheckpoint.trainDataloader)
    (some firstStopCheckpoint.trainingInfo)).steps.get ⟨0, by decide⟩

def secondStopCheckpoint : Checkpoint := secondStopStep.checkpoint.get (by decide)

theorem Resumed.suffix_without_timeouts_twice :
    Resumed twiceStoppedTrainer [1, 2] (dpoTrain twiceStoppedTrainer
        (some secondStopCheckpoint.trainDataloader) (some secondStopCheckpoint.trainingInfo)) ∧
      (dpoTrain twiceStoppedTrainer (some secondStopCheckpoint.trainDataloader)
          (some secondStopCheckpoint.trainingInfo)).final.pc =
        (dpoTrain (withoutTimeoutsAt twiceStoppedTrainer [1, 2]) none none).final.pc := by
  have hr₁ : (dpoTrain twiceStoppedTrainer none none).steps[0]? = some firstStopStep :=
    List.getElem?_eq_getElem _
  have hr₂ : (dpoTrain twiceStoppedTrainer (some firstStopCheckpoint.trainDataloader)
      (some firstStopCheckpoint.trainingInfo)).steps[0]? = some secondStopStep :=
    List.getElem?_eq_getElem _
  have hck₁ : firstStopStep.checkpoint = some firstStopCheckpoint := (Option.some_get _).symm
  have hck₂ : secondStopStep.checkpoint = some secondStopCheckpoint := (Option.some_get _).symm
  have h := (Resumed.fresh.resume hr₁ hck₁ (by decide)).resume hr₂ hck₂ (by decide)
  have hts : [] ++ [firstStopStep.totalSteps] ++ [secondStopStep.totalSteps] = [1, 2] := by decide
  rw [hts] at h
  exact ⟨h, (Resumed.suffix_without_timeouts h).elim fun _ hk => hk.2.2.2.1⟩

end NemoRl
