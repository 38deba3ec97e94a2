import NemoRl.Python

/-!
# DPO preference pairs from ChatML conversations

A ChatML preference file holds, per row, a `chosen` and a `rejected`
conversation: lists of messages with a `role` and a `content`.
`format_dpo_chatml` turns a row into the triple DPO trains on – the shared
context, and the two last responses – and checks on the way that the row is
one: the conversations agree up to their last message (compared through
`json.dumps`, so key order counts), and both end with an assistant message.

The checks are exactly what makes the triple well defined. A row is accepted
precisely when both conversations are one context followed by an assistant
message with a `content`, and the triple is that context with the two contents;
so the formatted row loses nothing but the two last messages' other keys. Every
other row raises, and what it raises names its defect: an `AssertionError` for
a context mismatch – the first check, so a mismatch always raises that – or for
a last message from another role, an `IndexError` for an empty conversation, a
`KeyError` for a last message without `role` or `content`
(`formatDpoChatml_spec`).
-/

namespace NemoRl

/-- **A row of a ChatML preference file**: its `chosen` and `rejected`
conversations, each a list of JSON objects with string values. -/
structure DpoChatmlRow where
  chosen : List (PyDict String)
  rejected : List (PyDict String)

/-- The dictionary `format_dpo_chatml` returns. -/
structure DpoPreference where
  prompt : List (PyDict String)
  chosenResponse : String
  rejectedResponse : String

/-- `json.dumps(a, ensure_ascii=False) == json.dumps(b, ensure_ascii=False)`.
The encoding is injective and writes the keys in their order, so the two texts
agree exactly when the lists have the same objects with the same entries in
the same order. -/
def sameJsonDumps (a b : List (PyDict String)) : Bool := a.map (·.entries) == b.map (·.entries)

theorem sameJsonDumps_iff {a b : List (PyDict String)} : sameJsonDumps a b = true ↔ a = b := by
  rw [sameJsonDumps, beq_iff_eq, (List.map_injective_iff.2 PyDict.entries_injective).eq_iff]

/-- The message of the context assertion. -/
def contextMismatch (chosenConversation rejectedConversation : List (PyDict String)) : String :=
  "Context mismatch.\n\nchosen: " ++ listRepr chosenConversation ++
    "\n\n rejected: " ++ listRepr rejectedConversation

/-- The message of the assertion on the `which` conversation's last response. -/
def notFromAssistant (which : String) (response : PyDict String) : String :=
  "The last " ++ which ++ " response (" ++ response.repr ++ ") is not from assistant!"

/-- **`format_dpo_chatml`.** -/
def formatDpoChatml (data : DpoChatmlRow) : Except String DpoPreference := do
  let chosenConversation := data.chosen
  let rejectedConversation := data.rejected
  let context := chosenConversation.dropLast
  pyAssert (sameJsonDumps context rejectedConversation.dropLast)
    (contextMismatch chosenConversation rejectedConversation)
  let lastChosen ← pyLast chosenConversation
  pyAssert ((← lastChosen.getItem "role") == "assistant") (notFromAssistant "chosen" lastChosen)
  let lastRejected ← pyLast rejectedConversation
  pyAssert ((← lastRejected.getItem "role") == "assistant")
    (notFromAssistant "rejected" lastRejected)
  let chosenResponse ← lastChosen.getItem "content"
  let rejectedResponse ← lastRejected.getItem "content"
  pure ⟨context, chosenResponse, rejectedResponse⟩

/-- **The rows `format_dpo_chatml` accepts, and what it makes of them**: both
conversations are the returned prompt followed by an assistant message, whose
contents are the returned responses. -/
theorem formatDpoChatml_eq_ok_iff (data : DpoChatmlRow) (out : DpoPreference) :
    formatDpoChatml data = .ok out ↔
      ∃ lastChosen lastRejected, data.chosen = out.prompt ++ [lastChosen] ∧
        data.rejected = out.prompt ++ [lastRejected] ∧
        lastChosen.get? "role" = some "assistant" ∧ lastRejected.get? "role" = some "assistant" ∧
        lastChosen.get? "content" = some out.chosenResponse ∧
        lastRejected.get? "content" = some out.rejectedResponse := by
  obtain ⟨chosen, rejected⟩ := data
  simp only [formatDpoChatml, bind_eq_ok, pyAssert_eq_ok, pyLast_eq_ok, PyDict.getItem_eq_ok,
    pure_eq_ok, Except.ok.injEq, sameJsonDumps_iff, beq_iff_eq]
  constructor
  · rintro ⟨-, hctx, lc, ⟨cs, rfl⟩, _, hrole, -, rfl, lr, ⟨rs, rfl⟩, _, hrole', -, rfl, c, hc, r, hr,
      rfl⟩
    simp only [List.dropLast_concat] at hctx ⊢
    exact ⟨lc, lr, rfl, hctx ▸ rfl, hrole, hrole', hc, hr⟩
  · rintro ⟨lc, lr, rfl, rfl, hcr, hrr, hcc, hrc⟩
    simp only [List.dropLast_concat]
    exact ⟨(), trivial, lc, ⟨_, rfl⟩, _, hcr, (), rfl, lr, ⟨_, rfl⟩, _, hrr, (), rfl, _, hcc, _, hrc, rfl⟩

/-- **What the last message of the `which` conversation can make the formatter
raise**: the assertion, when its role is not the assistant's, or a `KeyError`
for a `role` or `content` it lacks. -/
def LastMessageRaises (which : String) (conversation : List (PyDict String)) (e : String) : Prop :=
  ∃ last, conversation.getLast? = some last ∧
    ((∃ role, last.get? "role" = some role ∧ role ≠ "assistant" ∧
        e = "AssertionError: " ++ notFromAssistant which last) ∨
      ∃ key ∈ ["role", "content"], last.get? key = none ∧ e = keyError key)

/-- **What the formatter raises, and why**: one of the exceptions of its checks,
with the defect that check looks for present in the row. -/
theorem formatDpoChatml_eq_error {data : DpoChatmlRow} {e : String}
    (h : formatDpoChatml data = .error e) :
    (data.chosen.dropLast ≠ data.rejected.dropLast ∧
        e = "AssertionError: " ++ contextMismatch data.chosen data.rejected) ∨
      ((data.chosen = [] ∨ data.rejected = []) ∧ e = listIndexOutOfRange) ∨
      LastMessageRaises "chosen" data.chosen e ∨ LastMessageRaises "rejected" data.rejected e := by
  simp only [formatDpoChatml, bind_eq_error, pyAssert_eq_error, pyAssert_eq_ok, pyLast_eq_error,
    pyLast_eq_ok, PyDict.getItem_eq_error, PyDict.getItem_eq_ok, pure_eq_ok, reduceCtorEq,
    sameJsonDumps_iff, beq_iff_eq, beq_eq_false_iff_ne, false_and, or_false, exists_const] at h
  -- one case per check, in the order the formatter makes them
  rcases h with ⟨hctx, rfl⟩ | ⟨-, ⟨hc, rfl⟩ | ⟨lc, ⟨cs, hc⟩, ⟨hcr, rfl⟩ | ⟨r, hcr, ⟨hne, rfl⟩ |
    ⟨-, ⟨hr, rfl⟩ | ⟨lr, ⟨rs, hr⟩, ⟨hrr, rfl⟩ | ⟨r', hrr, ⟨hne', rfl⟩ |
      ⟨-, ⟨hcc, rfl⟩ | ⟨c, -, ⟨hrc, rfl⟩ | ⟨_, -, ⟨⟩⟩⟩⟩⟩⟩⟩⟩⟩⟩
  · exact .inl ⟨fun heq => by simp [sameJsonDumps_iff.2 heq] at hctx, rfl⟩
  · exact .inr (.inl ⟨.inl hc, rfl⟩)
  · exact .inr (.inr (.inl ⟨lc, by simp [hc], .inr ⟨"role", by simp, hcr, rfl⟩⟩))
  · exact .inr (.inr (.inl ⟨lc, by simp [hc], .inl ⟨r, hcr, hne, rfl⟩⟩))
  · exact .inr (.inl ⟨.inr hr, rfl⟩)
  · exact .inr (.inr (.inr ⟨lr, by simp [hr], .inr ⟨"role", by simp, hrr, rfl⟩⟩))
  · exact .inr (.inr (.inr ⟨lr, by simp [hr], .inl ⟨r', hrr, hne', rfl⟩⟩))
  · exact .inr (.inr (.inl ⟨lc, by simp [hc], .inr ⟨"content", by simp, hcc, rfl⟩⟩))
  · exact .inr (.inr (.inr ⟨lr, by simp [hr], .inr ⟨"content", by simp, hrc, rfl⟩⟩))

/-- **`format_dpo_chatml`, on every row.** It returns exactly when both
conversations are one context followed by an assistant message with a
`content`, and then returns that context and the two contents. A row whose
contexts differ raises the context assertion; and whatever a row raises is an
`AssertionError` for differing contexts or a last message from another role,
an `IndexError` for an empty conversation, or a `KeyError` for a last message
without `role` or `content`. -/
theorem formatDpoChatml_spec (data : DpoChatmlRow) :
    (∀ out, formatDpoChatml data = .ok out ↔
      ∃ lastChosen lastRejected, data.chosen = out.prompt ++ [lastChosen] ∧
        data.rejected = out.prompt ++ [lastRejected] ∧
        lastChosen.get? "role" = some "assistant" ∧ lastRejected.get? "role" = some "assistant" ∧
        lastChosen.get? "content" = some out.chosenResponse ∧
        lastRejected.get? "content" = some out.rejectedResponse) ∧
      (data.chosen.dropLast ≠ data.rejected.dropLast →
        formatDpoChatml data = .error ("AssertionError: " ++ contextMismatch data.chosen data.rejected)) ∧
      ∀ e, formatDpoChatml data = .error e →
        (data.chosen.dropLast ≠ data.rejected.dropLast ∧
            e = "AssertionError: " ++ contextMismatch data.chosen data.rejected) ∨
          ((data.chosen = [] ∨ data.rejected = []) ∧ e = listIndexOutOfRange) ∨
          LastMessageRaises "chosen" data.chosen e ∨ LastMessageRaises "rejected" data.rejected e :=
  ⟨formatDpoChatml_eq_ok_iff data, fun hctx => by
    simp [formatDpoChatml, pyAssert, sameJsonDumps_iff, hctx], fun _ => formatDpoChatml_eq_error⟩

/-- `{"role": "assistant", "content": content}`. -/
def assistantMessage (content : String) : PyDict String :=
  ⟨[("role", "assistant"), ("content", content)], by simp⟩

/-- An empty rejected conversation passes the context check against a one-message
chosen one, and raises at `rejected_conversation[-1]`. -/
example : formatDpoChatml ⟨[assistantMessage "a"], []⟩ = .error listIndexOutOfRange := rfl

end NemoRl
