import NemoRl.Progress

/-!
# Resuming from a checkpoint

A restarted `dpo_train` rebuilds its locals from the checkpoint's progress
record and gets its data loader back in the state `state_dict()` saved. Two
things could go wrong. The record's step within the epoch is reduced modulo
the epoch length, so a checkpoint after the last step of an epoch reads as
"step `0` of the finished epoch"; and the restored loop first re-tests the
`while` condition, which the interrupted loop did not do between the step and
the next one.

Neither does. The `while` test passes, because the interrupted run was inside
that epoch and went on to another step. The loader resumes the pass at the
position it had reached: mid-epoch that is the position the step counter
names, and the restarted state is the interrupted one (`exec_restart`); at the
end of an epoch the resumed pass is spent, both runs close the epoch at once,
and the step counter the modulo lost is reset by both. From there on the two
runs are one execution of the machine, so the restart takes exactly the steps
the interrupted run had left (`dpoTrain_resume`). Only a step that returned
breaks this: the run stopped where its loop would have gone on. So a restart
from the last checkpoint of a run that finished or raised takes no step and ends
as that run did (`dpoTrain_resume_of_not_returned`). For a finished run the
record of its last step names the last epoch, so the `while` test lets the
restart in, but the spent pass closes the epoch at once and the test then fails.

A job may be interrupted more than once. Since a restart is the rest of the
fresh run, its checkpoints are checkpoints of the fresh run, and a restart from
one of them is again a rest of the fresh run: by induction over the restarts,
no step is run twice or lost however often the job stops
(`Restarted.suffix_of_fresh`).
-/

namespace NemoRl

section Restart

variable (trainer : DPOTrainer)

/-- **The state a restart begins in**, in terms of the state the interrupted run
was in after the checkpointing step: its locals, with the step within the epoch
reduced modulo the epoch length, and a loader set to resume the pass where it
stood. -/
def restartState (st : TrainState) : TrainState :=
  { st with
    currentStep := st.currentStep % trainer.trainDataloader.len
    loader := ⟨some st.loader.numYielded, 0⟩ }

/-- **What a restart reads back from a checkpoint** is the restart of the state
the checkpointing step left. -/
theorem initialState_checkpoint {st : TrainState} {vm : Option (PyDict ℚ)} {tok : ℚ}
    {byStep : Bool} {ck : Checkpoint}
    (hck : (finishStep trainer st vm tok byStep).1.checkpoint = some ck) :
    initialState (some ck.trainDataloader) (some ck.trainingInfo) =
      restartState trainer (finishStep trainer st vm tok byStep).2.1 := by
  obtain ⟨-, rfl, hsave⟩ := finishStep_checkpoint_eq_some trainer hck
  simp only [restartState, hsave]
  rfl

/-- **The restarted loop joins the interrupted one.** From the restart of a state
inside an epoch below both ceilings, the machine runs the `while` test and, if
the pass was spent, closes the epoch; either way it goes on exactly as the
interrupted machine does. -/
theorem exec_restart {st : TrainState} (hn : st.loader.nextIterState = none)
    (hs : st.currentStep = st.loader.numYielded)
    (hle : st.loader.numYielded ≤ trainer.trainDataloader.len)
    (he : st.currentEpoch < trainer.masterConfig.dpo.maxNumEpochs)
    (ht : st.totalSteps < trainer.masterConfig.dpo.maxNumSteps) :
    exec trainer ⟨.epochHead, restartState trainer st⟩ = exec trainer ⟨.batchHead, st⟩ := by
  have hstart : next trainer ⟨.epochHead, restartState trainer st⟩ =
      (none, ⟨.batchHead, { st with currentStep := st.currentStep % trainer.trainDataloader.len }⟩) := by
    obtain ⟨e, s, t, v, d, ⟨n, y⟩⟩ := st
    simp only at hn hs he ht
    subst hn hs
    simp [next, restartState, he, ht, LoaderState.iter]
  rw [exec_of_silent trainer (Loop.active_epochHead _) (by rw [hstart]), hstart]
  rcases Nat.lt_or_eq_of_le hle with hlt | heq
  · -- mid-epoch: the restarted state is the interrupted one
    rw [Nat.mod_eq_of_lt (hs ▸ hlt)]
  · -- the pass was spent: both runs close the epoch
    have hend : ∀ k, next trainer ⟨.batchHead, { st with currentStep := k }⟩ =
        (none, ⟨.epochHead, { st with currentEpoch := st.currentEpoch + 1, currentStep := 0 }⟩) := by
      intro k
      simp [next, heq]
    have hend' : next trainer ⟨.batchHead, st⟩ = _ := hend st.currentStep
    rw [exec_of_silent trainer (Loop.active_batchHead _) (by rw [hend]), hend,
      exec_of_silent trainer (Loop.active_batchHead _) (by rw [hend']), hend']

/-- **A restart from the checkpoint of a step of a fresh run** below the step
ceiling goes on from the state that step left, with no initial validation. -/
theorem dpoTrain_restart_of_step {st : TrainState} {vm : Option (PyDict ℚ)} {tok : ℚ}
    {byStep : Bool} {ck : Checkpoint} (hpos : Positioned trainer ⟨.batchHead, st⟩)
    (hpull : st.loader.numYielded < trainer.trainDataloader.len)
    (hck : (finishStep trainer st vm tok byStep).1.checkpoint = some ck)
    (hsteps : st.totalSteps + 1 < trainer.masterConfig.dpo.maxNumSteps) :
    dpoTrain trainer (some ck.trainDataloader) (some ck.trainingInfo) =
      ⟨none, (exec trainer ⟨.batchHead, (finishStep trainer st vm tok byStep).2.1⟩).1,
        (exec trainer ⟨.batchHead, (finishStep trainer st vm tok byStep).2.1⟩).2⟩ := by
  obtain ⟨hn, hs, -, -, hepoch⟩ := hpos
  have hlabel : ck.trainingInfo.totalSteps ≠ 0 := by
    obtain ⟨-, rfl, -⟩ := finishStep_checkpoint_eq_some trainer hck
    simp [checkpointRecord]
  rw [dpoTrain_of_ok (initialValidation_of_ne_zero (by simpa [initialState] using hlabel)),
    initialState_checkpoint trainer hck, exec_restart trainer (by simpa using hn)
      (by simpa using hs) (by simpa using hpull) (by simpa using hepoch) (by simpa using hsteps)]

/-- **A restart from the checkpoint of the fresh run's `(i + 1)`-th step**, when
that step did not return – the fresh run went on after it, or did not end in a
return – is the rest of the fresh run, with no initial validation. -/
theorem dpoTrain_restart_eq_of_continues {i : Nat} {r : StepRecord} {ck : Checkpoint}
    (hr : (dpoTrain trainer none none).steps[i]? = some r) (hck : r.checkpoint = some ck)
    (hgo : i + 1 < (dpoTrain trainer none none).steps.length ∨
      (dpoTrain trainer none none).final.pc ≠ .halted .returned) :
    dpoTrain trainer (some ck.trainDataloader) (some ck.trainingInfo) =
      ⟨none, (dpoTrain trainer none none).steps.drop (i + 1), (dpoTrain trainer none none).final⟩ := by
  have hne : (dpoTrain trainer none none).steps ≠ [] := by rintro h; simp [h] at hr
  obtain ⟨e, he, hea, her, hrest⟩ := (dpoTrain_reaches hne).split trainer hr
  have hpos : Positioned trainer e := he.positioned trainer (positioned_initial trainer)
  have hstep := next_step trainer hea
  rw [her] at hstep
  obtain ⟨st, vm, tok, byStep, rfl, hpull, -, -, -, rfl, hf⟩ := hstep.eq_train
  rw [hf] at hrest
  have hstop : (finishStep trainer st vm tok byStep).2.2 = false := by
    cases hret : (finishStep trainer st vm tok byStep).2.2
    · rfl
    · -- a step that returns is the last of the run, and the run ends in its return
      simp only [hret, if_true] at hrest
      have hexec := exec_of_reaches trainer hrest
      rw [exec_of_not_active trainer (Loop.active_halted _ _),
        exec_of_not_active trainer dpoTrain_final_halted] at hexec
      simp only [List.append_nil, Prod.mk.injEq] at hexec
      rcases hgo with h | h
      · exact absurd (List.drop_eq_nil_iff.1 hexec.1.symm) (by omega)
      · exact absurd (hexec.2 ▸ rfl) h
  simp only [hstop, Bool.false_eq_true, if_false] at hrest
  have hsteps : st.totalSteps + 1 < trainer.masterConfig.dpo.maxNumSteps := by
    simp only [finishStep_stop, Bool.or_eq_false_iff, decide_eq_false_iff_not, not_le] at hstop
    exact hstop.2
  rw [dpoTrain_restart_of_step trainer hpos hpull hck hsteps, exec_of_reaches trainer hrest,
    exec_of_not_active trainer dpoTrain_final_halted]
  simp

/-- A restart from the checkpoint of a step before the fresh run's last is the
rest of the fresh run. -/
theorem dpoTrain_restart_eq {i : Nat} {r : StepRecord} {ck : Checkpoint}
    (hr : (dpoTrain trainer none none).steps[i]? = some r) (hck : r.checkpoint = some ck)
    (hlast : i + 1 < (dpoTrain trainer none none).steps.length) :
    dpoTrain trainer (some ck.trainDataloader) (some ck.trainingInfo) =
      ⟨none, (dpoTrain trainer none none).steps.drop (i + 1), (dpoTrain trainer none none).final⟩ :=
  dpoTrain_restart_eq_of_continues trainer hr hck (.inl hlast)

end Restart

/-- **Resume equivalence.** Restart `dpo_train` from the checkpoint a fresh run
wrote at its `(i + 1)`-th step, before its last step: with the progress record
and data loader state of that checkpoint, and the same results from the policy,
validation and timeout checker. The restart runs no initial validation, takes
exactly the steps the fresh run took after that one – with the same labels,
epochs, validations and checkpoints – and ends where the fresh run ends. -/
theorem dpoTrain_resume (trainer : DPOTrainer) (i : Nat) (r : StepRecord) (ck : Checkpoint)
    (hr : (dpoTrain trainer none none).steps[i]? = some r) (hck : r.checkpoint = some ck)
    (hlast : i + 1 < (dpoTrain trainer none none).steps.length) :
    (dpoTrain trainer (some ck.trainDataloader) (some ck.trainingInfo)).initialValidation = none ∧
      (dpoTrain trainer (some ck.trainDataloader) (some ck.trainingInfo)).steps =
        (dpoTrain trainer none none).steps.drop (i + 1) ∧
      (dpoTrain trainer (some ck.trainDataloader) (some ck.trainingInfo)).final =
        (dpoTrain trainer none none).final := by
  rw [dpoTrain_restart_eq trainer hr hck hlast]
  exact ⟨rfl, rfl, rfl⟩

theorem dpoTrain_resume_one_batch :
    (dpoTrain oneBatchTrainer none none).steps[0]? = some oneBatchFirstStep ∧
      oneBatchFirstStep.checkpoint = some oneBatchCheckpoint ∧
      0 + 1 < (dpoTrain oneBatchTrainer none none).steps.length ∧
      (dpoTrain oneBatchTrainer (some oneBatchCheckpoint.trainDataloader)
          (some oneBatchCheckpoint.trainingInfo)).steps =
        (dpoTrain oneBatchTrainer none none).steps.drop (0 + 1) := by
  have h₁ : (dpoTrain oneBatchTrainer none none).steps[0]? = some oneBatchFirstStep :=
    List.getElem?_eq_getElem _
  have h₂ : oneBatchFirstStep.checkpoint = some oneBatchCheckpoint := (Option.some_get _).symm
  have h₃ : 0 + 1 < (dpoTrain oneBatchTrainer none none).steps.length := by decide
  exact ⟨h₁, h₂, h₃, (dpoTrain_resume oneBatchTrainer 0 _ _ h₁ h₂ h₃).2.1⟩

/-! ## Resuming from the last checkpoint -/

/-- **Resuming a run that ended without a return, from any of its checkpoints.**
Restart `dpo_train` from the checkpoint a fresh run wrote at its `(i + 1)`-th
step – its last step included – when the fresh run finished its loop or raised.
The restart takes exactly the steps the fresh run had left and ends in its final
state: a finished run resumed from its final checkpoint trains nothing more and
starts no further epoch, although that checkpoint records the finished epoch
with step `0`; a run that raised raises again at the same point, with no step
retrained. -/
theorem dpoTrain_resume_of_not_returned (trainer : DPOTrainer) (i : Nat) (r : StepRecord)
    (ck : Checkpoint) (hr : (dpoTrain trainer none none).steps[i]? = some r)
    (hck : r.checkpoint = some ck)
    (hfinal : (dpoTrain trainer none none).final.pc ≠ .halted .returned) :
    dpoTrain trainer (some ck.trainDataloader) (some ck.trainingInfo) =
      ⟨none, (dpoTrain trainer none none).steps.drop (i + 1), (dpoTrain trainer none none).final⟩ :=
  dpoTrain_restart_eq_of_continues trainer hr hck (.inr hfinal)

/-- The last step of the fresh run of `oneBatchTrainer`, after which it finishes
its two epochs. -/
def oneBatchLastStep : StepRecord :=
  (dpoTrain oneBatchTrainer none none).steps.get ⟨1, by decide⟩

/-- The checkpoint of that step. -/
def oneBatchLastCheckpoint : Checkpoint := oneBatchLastStep.checkpoint.get (by decide)

theorem dpoTrain_resume_of_not_returned_one_batch :
    (dpoTrain oneBatchTrainer none none).steps[1]? = some oneBatchLastStep ∧
      oneBatchLastStep.checkpoint = some oneBatchLastCheckpoint ∧
      (dpoTrain oneBatchTrainer none none).final.pc ≠ .halted .returned ∧
      (dpoTrain oneBatchTrainer (some oneBatchLastCheckpoint.trainDataloader)
          (some oneBatchLastCheckpoint.trainingInfo)).steps = [] := by
  have h₁ : (dpoTrain oneBatchTrainer none none).steps[1]? = some oneBatchLastStep :=
    List.getElem?_eq_getElem _
  have h₂ : oneBatchLastStep.checkpoint = some oneBatchLastCheckpoint := (Option.some_get _).symm
  have h₃ : (dpoTrain oneBatchTrainer none none).final.pc ≠ .halted .returned := by decide
  refine ⟨h₁, h₂, h₃, ?_⟩
  rw [dpoTrain_resume_of_not_returned oneBatchTrainer 1 _ _ h₁ h₂ h₃]
  exact List.drop_eq_nil_of_le (by decide)

/-! ## Repeated interruptions -/

/-- **The runs of a job that is interrupted and restarted**: the fresh run, and a
restart from a checkpoint that one of them wrote before its last step, with the
same policy, validation and timeout checker. `k` is the step count of the
progress record the run was restarted from, `0` for the fresh run. -/
inductive Restarted (trainer : DPOTrainer) : Nat → TrainRun → Prop
  | fresh : Restarted trainer 0 (dpoTrain trainer none none)
  | restart {k : Nat} {run : TrainRun} {i : Nat} {r : StepRecord} {ck : Checkpoint}
      (hrun : Restarted trainer k run) (hr : run.steps[i]? = some r) (hck : r.checkpoint = some ck)
      (hlast : i + 1 < run.steps.length) :
      Restarted trainer ck.trainingInfo.totalSteps
        (dpoTrain trainer (some ck.trainDataloader) (some ck.trainingInfo))

/-- **Crash recovery.** However many times a job is interrupted after a
checkpoint and restarted from it, each run takes exactly the steps the fresh run
took after the step count of the record it was restarted from, and ends where
the fresh run ends: no step is run twice or lost across restarts. -/
theorem Restarted.suffix_of_fresh {trainer : DPOTrainer} {k : Nat} {run : TrainRun}
    (h : Restarted trainer k run) :
    run.steps = (dpoTrain trainer none none).steps.drop k ∧
      run.final = (dpoTrain trainer none none).final := by
  induction h with
  | fresh => exact ⟨rfl, rfl⟩
  | @restart k run i r ck _ hr hck hlast ih =>
    obtain ⟨hsteps, -⟩ := ih
    rw [hsteps, List.getElem?_drop] at hr
    rw [hsteps, List.length_drop] at hlast
    -- the checkpoint was written by the fresh run's step `k + i + 1`
    have hT : ck.trainingInfo.totalSteps = k + i + 1 := by
      simpa [DPOSaveState.default, Nat.add_assoc] using
        ((dpoTrain_record_counters hr).2 ck hck).1.trans (dpoTrain_record_counters hr).1
    rw [dpoTrain_restart_eq trainer hr hck (by omega), hT, Nat.add_assoc]
    exact ⟨rfl, rfl⟩

/-- `oneBatchTrainer` over three epochs: three steps, each checkpointed. -/
def threeEpochTrainer : DPOTrainer :=
  { oneBatchTrainer with masterConfig := ⟨⟨1, 1, false, false⟩, ⟨3, 100, 0, 0, 1, false⟩, ⟨true, 1, none⟩⟩ }

/-- The first step of its fresh run, and that step's checkpoint. -/
def threeEpochFirstStep : StepRecord := (dpoTrain threeEpochTrainer none none).steps.get ⟨0, by decide⟩

def threeEpochFirstCheckpoint : Checkpoint := threeEpochFirstStep.checkpoint.get (by decide)

/-- The first step of the restart from that checkpoint, and its checkpoint. -/
def threeEpochRestartStep : StepRecord :=
  (dpoTrain threeEpochTrainer (some threeEpochFirstCheckpoint.trainDataloader)
    (some threeEpochFirstCheckpoint.trainingInfo)).steps.get ⟨0, by decide⟩

def threeEpochRestartCheckpoint : Checkpoint := threeEpochRestartStep.checkpoint.get (by decide)

/-- Restarted after step `1`, and the restart restarted after step `2`: the last
run takes the fresh run's steps after the first two. -/
theorem Restarted.suffix_of_fresh_twice :
    Restarted threeEpochTrainer 2 (dpoTrain threeEpochTrainer
        (some threeEpochRestartCheckpoint.trainDataloader)
        (some threeEpochRestartCheckpoint.trainingInfo)) ∧
      (dpoTrain threeEpochTrainer (some threeEpochRestartCheckpoint.trainDataloader)
          (some threeEpochRestartCheckpoint.trainingInfo)).steps =
        (dpoTrain threeEpochTrainer none none).steps.drop 2 := by
  have hr₁ : (dpoTrain threeEpochTrainer none none).steps[0]? = some threeEpochFirstStep :=
    List.getElem?_eq_getElem _
  have hck₁ : threeEpochFirstStep.checkpoint = some threeEpochFirstCheckpoint :=
    (Option.some_get _).symm
  have hr₂ : (dpoTrain threeEpochTrainer (some threeEpochFirstCheckpoint.trainDataloader)
      (some threeEpochFirstCheckpoint.trainingInfo)).steps[0]? = some threeEpochRestartStep :=
    List.getElem?_eq_getElem _
  have hck₂ : threeEpochRestartStep.checkpoint = some threeEpochRestartCheckpoint :=
    (Option.some_get _).symm
  have h := (Restarted.fresh.restart hr₁ hck₁ (by decide)).restart hr₂ hck₂ (by decide)
  have hT : threeEpochRestartCheckpoint.trainingInfo.totalSteps = 2 := by decide
  rw [hT] at h
  exact ⟨h, (Restarted.suffix_of_fresh h).1⟩

end NemoRl
