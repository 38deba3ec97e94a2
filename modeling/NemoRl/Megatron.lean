import NemoRl.Train

/-!
# The Megatron schedule `setup` sizes

With the Megatron backend, `setup` tells Megatron how long training lasts
before it builds the policy. `train_iters` becomes twice `total_train_iters` –
the effective batch size is doubled for the chosen and rejected halves of each
pair, as the source notes – and a loop over the learning-rate scheduler doubles,
in place and in the scheduler's order, every field whose name contains
`iters`: the warm-up and decay lengths. `*=` on a field that is `None` raises,
after the fields before it have been doubled.

`foldlM_doubleIfIters` says what the loop does from any state of the scheduler:
it raises `TypeError` exactly when an `iters` field it reaches is `None`, and
otherwise keeps the keys in their order, doubles the `iters` fields and leaves
the others as they were. `setupMegatron_spec` lifts it to the branch: with
Megatron enabled, `setup` gets past it exactly when no `iters` field of the
scheduler is null, and then leaves `train_iters` at twice `total_train_iters`.
-/

namespace NemoRl

/-- `policy.megatron_cfg`, as far as `setup` reads and writes it. -/
structure MegatronCfg where
  /-- `megatron_cfg.get("enabled", False)`: `none` when the key is absent. -/
  enabled : Option Bool
  /-- `megatron_cfg["train_iters"]`, if set. -/
  trainIters : Option Nat
  /-- `megatron_cfg["scheduler"]`, if the key is present: its fields are numbers
  or `None`. -/
  scheduler : Option (PyDict (Option ℚ))

/-- The message of the `TypeError` of `None *= 2`. -/
def noneTimesIntError : String :=
  "TypeError: unsupported operand type(s) for *=: \x27NoneType\x27 and \x27int\x27"

/-- `x *= 2`, on a number or `None`. -/
def timesTwo : Option ℚ → Except String (Option ℚ)
  | some x => .ok (some (x * 2))
  | none => .error noneTimesIntError

/-- One pass of the loop over the scheduler: `if "iters" in k: scheduler[k] *= 2`. -/
def doubleIfIters (scheduler : PyDict (Option ℚ)) (k : String) :
    Except String (PyDict (Option ℚ)) :=
  if pyIn "iters" k then do
    let v ← scheduler.getItem k
    let v ← timesTwo v
    pure (scheduler.set k v)
  else pure scheduler

/-- `for k in scheduler: if "iters" in k: scheduler[k] *= 2`. The loop assigns
present keys only, so it visits the keys the scheduler had on entry. -/
def doubleSchedulerIters (scheduler : PyDict (Option ℚ)) : Except String (PyDict (Option ℚ)) :=
  scheduler.keys.foldlM doubleIfIters scheduler

/-- **The Megatron branch of `setup`**, on `policy_config.get("megatron_cfg")`:
with Megatron enabled, `train_iters` is set to `total_train_iters * 2` and, if
there is a scheduler, its `iters` fields are doubled. -/
def setupMegatron (masterConfig : MasterConfig) (len : Nat) :
    Option MegatronCfg → Except String (Option MegatronCfg)
  | some m =>
    if m.enabled.getD false then do
      let scheduler ← m.scheduler.mapM doubleSchedulerIters
      pure (some { m with trainIters := some (totalTrainIters masterConfig len * 2), scheduler })
    else pure (some m)
  | none => pure none

/-! ## The loop over the scheduler -/

/-- **One pass of the loop**, over a key the scheduler holds: it raises when the
key names an `iters` field that is `None`, and otherwise doubles the field if
it is an `iters` one, leaving the keys and every other field as they were. -/
theorem doubleIfIters_spec {d : PyDict (Option ℚ)} {k : String} (hkd : k ∈ d.keys) :
    (pyIn "iters" k = true ∧ d.get? k = some none ∧
        doubleIfIters d k = .error noneTimesIntError) ∨
      ∃ d₁, doubleIfIters d k = .ok d₁ ∧ d₁.keys = d.keys ∧ ∀ j, d₁.get? j =
        if j = k ∧ pyIn "iters" j = true then (d.get? j).map (Option.map (· * 2)) else d.get? j := by
  obtain ⟨v, hv⟩ := Option.isSome_iff_exists.1 ((PyDict.mem_keys_iff d k).1 hkd)
  cases hin : pyIn "iters" k
  · exact .inr ⟨d, by simp [doubleIfIters, hin], rfl, fun j => by
      by_cases hj : j = k <;> simp [hj, hin]⟩
  · cases v with
    | none => exact .inl ⟨rfl, hv, by simp [doubleIfIters, hin, PyDict.getItem, hv, timesTwo]⟩
    | some x =>
      refine .inr ⟨d.set k (some (x * 2)), by simp [doubleIfIters, hin, PyDict.getItem, hv, timesTwo],
        PyDict.keys_set_of_mem hkd _, fun j => ?_⟩
      by_cases hj : j = k <;> simp [hj, hin, hv]

/-- **The loop from any state of the scheduler, over distinct keys it holds**:
it raises exactly when one of them names an `iters` field that is `None`, and
otherwise doubles the `iters` fields among them and leaves the keys and every
other field as they were. -/
theorem foldlM_doubleIfIters {ks : List String} (hks : ks.Nodup) {d : PyDict (Option ℚ)}
    (hmem : ∀ k ∈ ks, k ∈ d.keys) :
    ((∃ k ∈ ks, pyIn "iters" k = true ∧ d.get? k = some none) ∧
        ks.foldlM doubleIfIters d = .error noneTimesIntError) ∨
      ((∀ k ∈ ks, pyIn "iters" k = true → d.get? k ≠ some none) ∧
        ∃ d', ks.foldlM doubleIfIters d = .ok d' ∧ d'.keys = d.keys ∧
          ∀ j, d'.get? j = if j ∈ ks ∧ pyIn "iters" j = true then
            (d.get? j).map (Option.map (· * 2)) else d.get? j) := by
  induction ks generalizing d with
  | nil => exact .inr ⟨by simp, d, rfl, rfl, by simp⟩
  | cons k ks ih =>
    obtain ⟨hk, hks⟩ := List.nodup_cons.1 hks
    rcases doubleIfIters_spec (hmem k (List.mem_cons_self _ _)) with
      ⟨hin, hv, herr⟩ | ⟨d₁, hstep, hkeys₁, hget₁⟩
    · exact .inl ⟨⟨k, List.mem_cons_self _ _, hin, hv⟩, by rw [List.foldlM_cons, herr]; rfl⟩
    -- the rest of the loop reads the fields after `k` as they were
    have hsame : ∀ j ∈ ks, d₁.get? j = d.get? j := fun j hj => by
      rw [hget₁, if_neg fun h : j = k ∧ _ => hk (h.1 ▸ hj)]
    rw [List.foldlM_cons, hstep, ok_bind]
    rcases ih hks (fun j hj => hkeys₁ ▸ hmem j (List.mem_cons_of_mem _ hj)) with
      ⟨⟨j, hj, hji, hjv⟩, he⟩ | ⟨hnone, d', hd', hkeys, hget⟩
    · exact .inl ⟨⟨j, List.mem_cons_of_mem _ hj, hji, hsame j hj ▸ hjv⟩, he⟩
    refine .inr ⟨fun j hj hji hjv => ?_, d', hd', hkeys.trans hkeys₁, fun j => ?_⟩
    · rcases List.mem_cons.1 hj with rfl | hj
      · simp [doubleIfIters, hji, PyDict.getItem, hjv, timesTwo] at hstep
      · exact hnone j hj hji (hsame j hj ▸ hjv)
    · by_cases hj : j = k
      · subst hj; simp [hget, hget₁, hk]
      · simp [hget, hget₁, hj]

/-- **The loop over the scheduler**: it raises `TypeError` exactly when an
`iters` field is `None`, and otherwise keeps the keys in their order, doubles
every `iters` field and leaves the others as they were. -/
theorem doubleSchedulerIters_spec (d : PyDict (Option ℚ)) :
    ((∃ k, pyIn "iters" k = true ∧ d.get? k = some none) ∧
        doubleSchedulerIters d = .error noneTimesIntError) ∨
      ((∀ k, pyIn "iters" k = true → d.get? k ≠ some none) ∧
        ∃ d', doubleSchedulerIters d = .ok d' ∧ d'.keys = d.keys ∧ ∀ k, d'.get? k =
          if pyIn "iters" k then (d.get? k).map (Option.map (· * 2)) else d.get? k) := by
  rcases @foldlM_doubleIfIters d.keys d.nodup d fun _ h => h with
    ⟨⟨k, -, hk⟩, he⟩ | ⟨hnone, d', hd', hkeys, hget⟩
  · exact .inl ⟨⟨k, hk⟩, he⟩
  refine .inr ⟨fun k hk hv => hnone k ((PyDict.mem_keys_iff d k).2 (by simp [hv])) hk hv,
    d', hd', hkeys, fun k => ?_⟩
  rw [hget]
  by_cases hk : k ∈ d.keys
  · simp [hk]
  · have hnil : d.get? k = none := by simpa [PyDict.mem_keys_iff] using hk
    simp [hk, hnil]

/-! ## The branch -/

/-- **The Megatron branch of `setup`, with Megatron enabled**: it raises exactly
when the scheduler has an `iters` field that is `None`. Otherwise it sets
`train_iters` to twice `total_train_iters` and, if there is a scheduler, keeps
its keys in their order, doubles every `iters` field and leaves the other
fields as they were. -/
theorem setupMegatron_spec (masterConfig : MasterConfig) (len : Nat) (m : MegatronCfg)
    (henabled : m.enabled = some true) :
    ((∃ sched k, m.scheduler = some sched ∧ pyIn "iters" k = true ∧ sched.get? k = some none) ∧
        setupMegatron masterConfig len (some m) = .error noneTimesIntError) ∨
      (∀ sched, m.scheduler = some sched → ∀ k, pyIn "iters" k = true → sched.get? k ≠ some none) ∧
      ∃ m', setupMegatron masterConfig len (some m) = .ok (some m') ∧ m'.enabled = m.enabled ∧
        m'.trainIters = some (totalTrainIters masterConfig len * 2) ∧
        (m.scheduler = none → m'.scheduler = none) ∧
        ∀ sched, m.scheduler = some sched → ∃ sched', m'.scheduler = some sched' ∧
          sched'.keys = sched.keys ∧ ∀ k, sched'.get? k =
            if pyIn "iters" k then (sched.get? k).map (Option.map (· * 2)) else sched.get? k := by
  cases hs : m.scheduler with
  | none =>
    exact .inr ⟨nofun,
      { m with trainIters := some (totalTrainIters masterConfig len * 2), scheduler := none },
      by simp [setupMegatron, henabled, hs, Option.mapM], rfl, rfl, fun _ => rfl, nofun⟩
  | some sched =>
    rcases doubleSchedulerIters_spec sched with ⟨⟨k, hk⟩, he⟩ | ⟨hnone, sched', hd, hkeys, hget⟩
    · exact .inl ⟨⟨sched, k, rfl, hk⟩, by simp [setupMegatron, henabled, hs, he, Option.mapM]⟩
    · refine .inr ⟨fun _ h => Option.some.inj h ▸ hnone,
        { m with trainIters := some (totalTrainIters masterConfig len * 2), scheduler := some sched' },
        by simp [setupMegatron, henabled, hs, hd, Option.mapM], rfl, rfl, nofun, ?_⟩
      rintro _ ⟨⟩
      exact ⟨sched', rfl, hkeys, hget⟩

/-- A configuration with Megatron on and a scheduler whose decay length is null. -/
def nullDecayMegatron : MegatronCfg :=
  ⟨some true, none, some ⟨[("lr_decay_iters", none), ("lr_warmup_iters", some 10)], by decide⟩⟩

theorem setupMegatron_null_decay :
    nullDecayMegatron.enabled = some true ∧
      setupMegatron ⟨⟨1, 1, false, false⟩, ⟨1, 100, 0, 0, 1, false⟩, ⟨true, 1, none⟩⟩ 4
        (some nullDecayMegatron) = .error noneTimesIntError := by
  refine ⟨rfl, (setupMegatron_spec _ 4 nullDecayMegatron rfl).elim And.right ?_⟩
  rintro ⟨hnone, -⟩
  exact (hnone _ rfl "lr_decay_iters" (by decide) rfl).elim

end NemoRl
