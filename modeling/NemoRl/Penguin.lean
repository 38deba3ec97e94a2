import Mathlib.Data.Rat.Defs
import NemoRl.Python

/-!
# Penguin rollouts as NeMo RL message logs

Penguin runs a whole multi-turn rollout and reports it as a list of output
items; the assistant items carry the prompt the model saw, in tokens, and the
tokens and log-probabilities it generated. NeMo RL trains on a message log
that alternates non-trainable (`user`) and trainable (`assistant`) messages,
and reads the prompt of every turn as the log's tokens so far. The conversion
keeps `seen_token_ids`, the tokens of the log so far, and for each item with
tokens emits the part of its prompt not yet seen as a user message and its
generation as an assistant message. It asserts that the prompt does start with
what was seen: a tokenizer that merges tokens across turns, or a history that
was truncated, would otherwise make the log's tokens differ from what the model
was conditioned on.

When every item with generated tokens also has its prompt and log-probabilities
(`OutputItem.WellFormed`), the conversion succeeds exactly when the items'
prompts are contiguous – each starts with the previous prompt and generation –
and then the first `2k` messages are, in tokens, the `k`-th prompt and
generation (`postprocessPenguinToNemoRlResult_spec`); `run_rollouts` does so
for a whole batch, rollout by rollout (`runRollouts_eq_ok_iff`). The proof runs
over the items with tokens (`tokenItems`); the others are skipped by the loop's
`continue`. An item that lacks one of the three fields raises `KeyError`
whatever the prompts (`postprocessPenguinToNemoRlResult_missing_log_probs`).
-/

namespace NemoRl

/-- **An item of `penguin_result["response"]["output"]`**, as far as the
conversion reads it. Penguin sets the token fields on assistant items only. -/
structure OutputItem where
  promptTokenIds : Option (List Nat)
  generationTokenIds : Option (List Nat)
  generationLogProbs : Option (List ℚ)

/-- A message of NeMo RL's log: `role`, `content`, `token_ids`, and the
`generation_logprobs` of an assistant message. -/
structure Message where
  role : String
  content : String
  tokenIds : List Nat
  generationLogprobs : Option (List ℚ)

/-- `penguin_result`, as far as the conversion reads it. -/
structure PenguinResult where
  output : List OutputItem

/-- The dictionary the conversion returns. -/
structure NemoRlResult where
  messageLog : List Message
  inputMessageLog : List Message
  fullResult : PenguinResult

/-- The assertion message for a prompt that does not extend what was seen. -/
def nonContiguousMessage (seenTokenIds promptTokenIds : List Nat) : String :=
  "AssertionError: Non-contiguous messages found! This may be a tokenization issue where " ++
    "certain tokens are combined when messages are concatenated, or it may be due to part of " ++
    "the chat history being truncated (like if super long history is truncated or if " ++
    "reasoning is stripped out).\nSeen token IDs: " ++ toString seenTokenIds ++
    "\nOutput prompt token IDs: " ++ toString promptTokenIds ++ "\n"

/-- **The loop body of `_postprocess_penguin_to_nemo_rl_result`** on one output
item, with the log so far and `seen_token_ids`. -/
def postprocessItem (acc : List Message × List Nat) (item : OutputItem) :
    Except String (List Message × List Nat) :=
  match item.generationTokenIds with
  | none => .ok acc
  | some generationTokenIds =>
    match item.promptTokenIds with
    | none => .error (keyError "prompt_token_ids")
    | some promptTokenIds =>
      if acc.2 = promptTokenIds.take acc.2.length then
        match item.generationLogProbs with
        | none => .error (keyError "generation_log_probs")
        | some generationLogProbs =>
          let user : Message := ⟨"user", "", promptTokenIds.drop acc.2.length, none⟩
          let assistant : Message := ⟨"assistant", "", generationTokenIds, some generationLogProbs⟩
          .ok (acc.1 ++ [user, assistant], acc.2 ++ user.tokenIds ++ assistant.tokenIds)
      else .error (nonContiguousMessage acc.2 promptTokenIds)

/-- **`_postprocess_penguin_to_nemo_rl_result`.** -/
def postprocessPenguinToNemoRlResult (penguinResult : PenguinResult) :
    Except String NemoRlResult := do
  let acc ← penguinResult.output.foldlM postprocessItem ([], [])
  pure ⟨acc.1, acc.1.take 1, penguinResult⟩

/-- `run_rollouts`, once Penguin has returned its results. -/
def runRollouts (penguinResults : List PenguinResult) : Except String (List NemoRlResult) :=
  penguinResults.mapM postprocessPenguinToNemoRlResult

/-! ## The items with tokens -/

/-- The fields of an output item that carries tokens. -/
structure TokenItem where
  promptTokenIds : List Nat
  generationTokenIds : List Nat
  generationLogProbs : List ℚ

/-- The item's token fields, when it has all three. -/
def OutputItem.tokenItem? (item : OutputItem) : Option TokenItem := do
  let generationTokenIds ← item.generationTokenIds
  let promptTokenIds ← item.promptTokenIds
  let generationLogProbs ← item.generationLogProbs
  pure ⟨promptTokenIds, generationTokenIds, generationLogProbs⟩

/-- An item with generated tokens also has its prompt and log-probabilities. -/
def OutputItem.WellFormed (item : OutputItem) : Prop :=
  item.generationTokenIds.isSome → item.promptTokenIds.isSome ∧ item.generationLogProbs.isSome

/-- The items with tokens, in order. -/
def tokenItems (output : List OutputItem) : List TokenItem := output.filterMap OutputItem.tokenItem?

/-- **Contiguous items**: each item's prompt starts with the previous item's
prompt and generation. -/
def Contiguous (items : List TokenItem) : Prop :=
  items.Chain' fun a b => a.promptTokenIds ++ a.generationTokenIds <+: b.promptTokenIds

/-- Contiguity after the tokens `seen`: the first prompt starts with them. -/
def ChainFrom : List Nat → List TokenItem → Prop
  | _, [] => True
  | seen, it :: rest =>
    seen <+: it.promptTokenIds ∧ ChainFrom (it.promptTokenIds ++ it.generationTokenIds) rest

/-- **The message log of contiguous items** after the tokens `prev`: for each
item, its unseen prompt as a user message and its generation as an assistant
message. -/
def messagePairs : List Nat → List TokenItem → List Message
  | _, [] => []
  | prev, it :: rest =>
    ⟨"user", "", it.promptTokenIds.drop prev.length, none⟩ ::
      ⟨"assistant", "", it.generationTokenIds, some it.generationLogProbs⟩ ::
      messagePairs (it.promptTokenIds ++ it.generationTokenIds) rest

theorem chainFrom_cons_iff (seen : List Nat) (a : TokenItem) (items : List TokenItem) :
    ChainFrom seen (a :: items) ↔ seen <+: a.promptTokenIds ∧
      items.Chain (fun a b => a.promptTokenIds ++ a.generationTokenIds <+: b.promptTokenIds) a := by
  induction items generalizing seen a with
  | nil => simp [ChainFrom]
  | cons b items ih => rw [ChainFrom, ih, List.chain_cons]

theorem chainFrom_nil_iff (items : List TokenItem) : ChainFrom [] items ↔ Contiguous items := by
  cases items with
  | nil => exact iff_of_true trivial trivial
  | cons a items =>
    rw [chainFrom_cons_iff]
    exact ⟨fun h => h.2, fun h => ⟨List.nil_prefix, h⟩⟩

instance decidableChainFrom : (seen : List Nat) → (items : List TokenItem) →
    Decidable (ChainFrom seen items)
  | _, [] => isTrue trivial
  | _, it :: rest =>
    haveI := decidableChainFrom (it.promptTokenIds ++ it.generationTokenIds) rest
    inferInstanceAs (Decidable (_ ∧ _))

instance (items : List TokenItem) : Decidable (Contiguous items) :=
  decidable_of_iff _ (chainFrom_nil_iff items)

theorem messagePairs_length (prev : List Nat) (items : List TokenItem) :
    (messagePairs prev items).length = 2 * items.length := by
  induction items generalizing prev with
  | nil => rfl
  | cons it items ih => simp [messagePairs, ih]; omega

/-- The messages at `2k` and `2k + 1` are the `k`-th item's user and assistant
messages. -/
theorem messagePairs_getElem? (prev : List Nat) (items : List TokenItem) {k : Nat}
    (hk : k < items.length) :
    (messagePairs prev items)[2 * k]?.map (·.role) = some "user" ∧
      (messagePairs prev items)[2 * k + 1]? =
        some ⟨"assistant", "", items[k].generationTokenIds, some items[k].generationLogProbs⟩ := by
  induction items generalizing prev k with
  | nil => cases hk
  | cons it items ih =>
    cases k with
    | zero => simp [messagePairs]
    | succ k =>
      have := ih (it.promptTokenIds ++ it.generationTokenIds) (Nat.lt_of_succ_lt_succ hk)
      simpa [messagePairs, Nat.mul_succ] using this

/-- **No token lost or duplicated**: after `prev`, the first `2k + 2` messages of
contiguous items are, in tokens, the `k`-th prompt and generation. -/
theorem messagePairs_take_tokens {prev : List Nat} {items : List TokenItem}
    (hchain : ChainFrom prev items) {k : Nat} (hk : k < items.length) :
    prev ++ ((messagePairs prev items).take (2 * k + 2)).flatMap (·.tokenIds) =
      items[k].promptTokenIds ++ items[k].generationTokenIds := by
  induction items generalizing prev k with
  | nil => cases hk
  | cons it items ih =>
    obtain ⟨hpre, hrest⟩ := hchain
    have hprompt : prev ++ it.promptTokenIds.drop prev.length = it.promptTokenIds :=
      List.prefix_iff_eq_append.1 hpre
    cases k with
    | zero => simp [messagePairs, ← List.append_assoc, hprompt]
    | succ k =>
      have := ih hrest (Nat.lt_of_succ_lt_succ hk)
      simp only [Nat.mul_succ, messagePairs, List.take_succ_cons, List.flatMap_cons,
        List.getElem_cons_succ] at this ⊢
      rw [← this, ← List.append_assoc, ← List.append_assoc, hprompt]

/-! ## The conversion -/

theorem postprocessItem_of_none {acc : List Message × List Nat} {item : OutputItem}
    (h : item.generationTokenIds = none) : postprocessItem acc item = .ok acc := by
  simp [postprocessItem, h]

/-- **The loop over the output items**: it runs through exactly when the items
with tokens are contiguous after `seen`, and then appends their message pairs. -/
theorem foldlM_postprocessItem (output : List OutputItem) (hwf : ∀ item ∈ output, item.WellFormed)
    (log : List Message) (seen : List Nat) :
    (ChainFrom seen (tokenItems output) → ∃ seen',
      output.foldlM postprocessItem (log, seen) = .ok (log ++ messagePairs seen (tokenItems output), seen')) ∧
    (¬ChainFrom seen (tokenItems output) → ∀ acc, output.foldlM postprocessItem (log, seen) ≠ .ok acc) := by
  induction output generalizing log seen with
  | nil => exact ⟨fun _ => ⟨seen, by simp [tokenItems, messagePairs]⟩, fun h => absurd trivial h⟩
  | cons item output ih =>
    have ih' := ih (fun i hi => hwf i (List.mem_cons_of_mem _ hi))
    cases hg : item.generationTokenIds with
    | none =>
      have htok : tokenItems (item :: output) = tokenItems output := by
        simp [tokenItems, OutputItem.tokenItem?, hg]
      rw [htok, List.foldlM_cons, postprocessItem_of_none hg, ok_bind]
      exact ih' log seen
    | some g =>
      obtain ⟨hp, hl⟩ := hwf item (List.mem_cons_self _ _) (by simp [hg])
      obtain ⟨p, hp⟩ := Option.isSome_iff_exists.1 hp
      obtain ⟨l, hl⟩ := Option.isSome_iff_exists.1 hl
      have htok : tokenItems (item :: output) = ⟨p, g, l⟩ :: tokenItems output := by
        simp [tokenItems, OutputItem.tokenItem?, hg, hp, hl]
      rw [htok, List.foldlM_cons]
      by_cases hpre : seen <+: p
      · have hstep : postprocessItem (log, seen) item =
            .ok (log ++ [⟨"user", "", p.drop seen.length, none⟩, ⟨"assistant", "", g, some l⟩],
              p ++ g) := by
          simp [postprocessItem, hg, hp, hl, ← List.prefix_iff_eq_take.1 hpre,
            ← List.append_assoc, List.prefix_iff_eq_append.1 hpre]
        rw [hstep, ok_bind]
        obtain ⟨hok, herr⟩ := ih' (log ++ [⟨"user", "", p.drop seen.length, none⟩,
          ⟨"assistant", "", g, some l⟩]) (p ++ g)
        refine ⟨fun hchain => ?_, fun hchain => herr (fun h => hchain ⟨hpre, h⟩)⟩
        obtain ⟨seen', h⟩ := hok hchain.2
        exact ⟨seen', by simpa [messagePairs] using h⟩
      · have hstep : postprocessItem (log, seen) item = .error (nonContiguousMessage seen p) := by
          simp [postprocessItem, hg, hp, List.prefix_iff_eq_take.not.1 hpre]
        rw [hstep, error_bind]
        exact ⟨fun hchain => absurd hchain.1 hpre, fun _ _ => Except.noConfusion⟩

/-- **The result of a contiguous rollout**: its message pairs, the first of them
as `input_message_log`, and the rollout itself. -/
def segmentedResult (penguinResult : PenguinResult) : NemoRlResult :=
  ⟨messagePairs [] (tokenItems penguinResult.output),
    (messagePairs [] (tokenItems penguinResult.output)).take 1, penguinResult⟩

/-- **The conversion's spec lemma**: it returns exactly when the items with
tokens are contiguous, and then returns the segmented result. -/
theorem postprocessPenguinToNemoRlResult_eq_ok (penguinResult : PenguinResult)
    (hwf : ∀ item ∈ penguinResult.output, item.WellFormed) (res : NemoRlResult) :
    postprocessPenguinToNemoRlResult penguinResult = .ok res ↔
      Contiguous (tokenItems penguinResult.output) ∧ res = segmentedResult penguinResult := by
  obtain ⟨hok, herr⟩ := foldlM_postprocessItem penguinResult.output hwf [] []
  rw [← chainFrom_nil_iff]
  by_cases hchain : ChainFrom [] (tokenItems penguinResult.output)
  · obtain ⟨seen', hfold⟩ := hok hchain
    simp [postprocessPenguinToNemoRlResult, hfold, hchain, segmentedResult, eq_comm]
  · simp only [hchain, false_and, iff_false]
    unfold postprocessPenguinToNemoRlResult
    cases hfold : penguinResult.output.foldlM postprocessItem ([], [])
    · simp
    · exact absurd hfold (herr hchain _)

/-- **Penguin token-log segmentation.** When every item with generated tokens
also has its prompt and log-probabilities, the conversion returns exactly when
the items with tokens are contiguous, and then its message log has one
(user, assistant) pair per such item, the `k`-th assistant message carries the
`k`-th generation and its log-probabilities, the first `2k + 2` messages are in
tokens the `k`-th prompt and generation, and `input_message_log` is the first
message. -/
theorem postprocessPenguinToNemoRlResult_spec (penguinResult : PenguinResult)
    (hwf : ∀ item ∈ penguinResult.output, item.WellFormed) :
    ((∃ res, postprocessPenguinToNemoRlResult penguinResult = .ok res) ↔
        Contiguous (tokenItems penguinResult.output)) ∧
      ∀ res, postprocessPenguinToNemoRlResult penguinResult = .ok res →
        res.messageLog = messagePairs [] (tokenItems penguinResult.output) ∧
        res.messageLog.length = 2 * (tokenItems penguinResult.output).length ∧
        (∀ k (hk : k < (tokenItems penguinResult.output).length),
          res.messageLog[2 * k]?.map (·.role) = some "user" ∧
          res.messageLog[2 * k + 1]? = some ⟨"assistant", "",
            (tokenItems penguinResult.output)[k].generationTokenIds,
            some (tokenItems penguinResult.output)[k].generationLogProbs⟩ ∧
          (res.messageLog.take (2 * k + 2)).flatMap (·.tokenIds) =
            (tokenItems penguinResult.output)[k].promptTokenIds ++
              (tokenItems penguinResult.output)[k].generationTokenIds) ∧
        res.inputMessageLog = res.messageLog.take 1 ∧ res.fullResult = penguinResult := by
  have hres := postprocessPenguinToNemoRlResult_eq_ok penguinResult hwf
  refine ⟨⟨fun ⟨res, h⟩ => ((hres res).1 h).1, fun hc => ⟨_, (hres _).2 ⟨hc, rfl⟩⟩⟩,
    fun res h => ?_⟩
  obtain ⟨hc, rfl⟩ := (hres res).1 h
  refine ⟨rfl, messagePairs_length _ _, fun k hk => ?_, rfl, rfl⟩
  obtain ⟨huser, hassistant⟩ := messagePairs_getElem? [] _ hk
  exact ⟨huser, hassistant,
    by simpa using messagePairs_take_tokens ((chainFrom_nil_iff _).2 hc) hk⟩

/-- Two turns of a rollout, with a tool call between them that carries no tokens. -/
def twoTurnRollout : PenguinResult :=
  ⟨[⟨some [1], some [2], some [0]⟩, ⟨none, none, none⟩, ⟨some [1, 2, 3], some [4], some [0]⟩]⟩

theorem postprocessPenguinToNemoRlResult_two_turns :
    (∀ item ∈ twoTurnRollout.output, item.WellFormed) ∧
      ∃ res, postprocessPenguinToNemoRlResult twoTurnRollout = .ok res := by
  have hwf : ∀ item ∈ twoTurnRollout.output, item.WellFormed := by
    simp [twoTurnRollout, OutputItem.WellFormed]
  exact ⟨hwf, (postprocessPenguinToNemoRlResult_spec _ hwf).1.2 (by decide)⟩

/-- One generation with no `generation_log_probs`. -/
def missingLogProbsRollout : PenguinResult := ⟨[⟨some [1], some [2], none⟩]⟩

/-- A rollout of one item with generated tokens – no contiguity to check – whose
conversion raises, for want of the item's log-probabilities. -/
theorem postprocessPenguinToNemoRlResult_missing_log_probs :
    missingLogProbsRollout.output.length = 1 ∧
      (∀ item ∈ missingLogProbsRollout.output, item.generationTokenIds.isSome) ∧
      postprocessPenguinToNemoRlResult missingLogProbsRollout =
        .error (keyError "generation_log_probs") :=
  ⟨rfl, by simp [missingLogProbsRollout], rfl⟩

/-- **A batch of rollouts**: `run_rollouts` returns exactly when every rollout's
items with tokens are contiguous, and then gives each rollout's segmented
result, in the order of the rollouts. -/
theorem runRollouts_eq_ok_iff (penguinResults : List PenguinResult)
    (hwf : ∀ p ∈ penguinResults, ∀ item ∈ p.output, item.WellFormed) (out : List NemoRlResult) :
    runRollouts penguinResults = .ok out ↔
      (∀ p ∈ penguinResults, Contiguous (tokenItems p.output)) ∧
        out = penguinResults.map segmentedResult := by
  induction penguinResults generalizing out with
  | nil => simp only [runRollouts, List.mapM_nil, pure_eq_ok, Except.ok.injEq]; simp [eq_comm]
  | cons p ps ih =>
    have hp := postprocessPenguinToNemoRlResult_eq_ok p (hwf p (List.mem_cons_self _ _))
    have hps := ih (fun q hq => hwf q (List.mem_cons_of_mem _ hq))
    simp only [runRollouts] at hps
    simp only [runRollouts, List.mapM_cons, bind_eq_ok, hp, hps, pure_eq_ok, Except.ok.injEq,
      List.forall_mem_cons, List.map_cons]
    constructor
    · rintro ⟨_, ⟨hc, rfl⟩, _, ⟨hcs, rfl⟩, rfl⟩
      exact ⟨⟨hc, hcs⟩, rfl⟩
    · rintro ⟨⟨hc, hcs⟩, rfl⟩
      exact ⟨_, ⟨hc, rfl⟩, _, ⟨hcs, rfl⟩, rfl⟩

/-- A rollout of one turn. -/
def oneTurnRollout : PenguinResult := ⟨[⟨some [7], some [8, 9], some [0, 0]⟩]⟩

/-- A rollout whose second prompt drops the first turn. -/
def truncatedRollout : PenguinResult := ⟨[⟨some [1], some [2], some [0]⟩, ⟨some [3], some [4], some [0]⟩]⟩

/-- A batch of two contiguous rollouts converts rollout by rollout, in order; a
batch whose second rollout was truncated does not convert. -/
theorem runRollouts_eq_ok_iff_two_rollouts :
    (∀ p ∈ [twoTurnRollout, oneTurnRollout], ∀ item ∈ p.output, item.WellFormed) ∧
      runRollouts [twoTurnRollout, oneTurnRollout] =
        .ok [segmentedResult twoTurnRollout, segmentedResult oneTurnRollout] ∧
      (∀ p ∈ [oneTurnRollout, truncatedRollout], ∀ item ∈ p.output, item.WellFormed) ∧
      ∀ out, runRollouts [oneTurnRollout, truncatedRollout] ≠ .ok out := by
  have hwf : ∀ p ∈ [twoTurnRollout, oneTurnRollout], ∀ item ∈ p.output, item.WellFormed := by
    simp [twoTurnRollout, oneTurnRollout, OutputItem.WellFormed]
  have hwf' : ∀ p ∈ [oneTurnRollout, truncatedRollout], ∀ item ∈ p.output, item.WellFormed := by
    simp [oneTurnRollout, truncatedRollout, OutputItem.WellFormed]
  refine ⟨hwf, (runRollouts_eq_ok_iff _ hwf _).2 ⟨by decide, rfl⟩, hwf', fun out hout => ?_⟩
  exact absurd (((runRollouts_eq_ok_iff _ hwf' out).1 hout).1 truncatedRollout (by simp)) (by decide)

end NemoRl
