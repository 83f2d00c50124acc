import CosmosRl.Data.DecoderOnlyLLMDataPacker
import CosmosRl.Foundation.Masking

/-!
The tokens that the logprob mask of a sample selects for training.

Every token of a sample is labelled by its position, so that the selected tokens are
compared as tokens of the sample and not by their values.  Single-turn training selects
the completion; the mask of a conversation does not anticipate the shift and selects
other tokens than the assistant's.
-/

namespace CosmosRl.Data

open CosmosRl.Foundation List
open CosmosRl.Dispatcher (PyError)

section Selection

variable {Alpha : Type}

section

variable (mask : List Bool)

theorem selectMasked_false (token : Alpha) (row : List Alpha) :
    selectMasked (false :: mask) (token :: row) = selectMasked mask row := by
  simp [selectMasked]

theorem selectMasked_true (token : Alpha) (row : List Alpha) :
    selectMasked (true :: mask) (token :: row) = token :: selectMasked mask row := by
  simp [selectMasked]

theorem selectMasked_drop (row : List Alpha) (offset : Nat) :
    selectMasked mask (row.drop offset) =
      (maskedPositions offset mask).filterMap fun position => row[position]? := by
  induction mask generalizing offset with
  | nil => simp [selectMasked]
  | cons marked mask ih =>
    by_cases within : offset < row.length
    · have later := ih (offset + 1)
      rw [drop_eq_getElem_cons within]
      cases marked with
      | false => rw [maskedPositions_false, ← later, selectMasked_false]
      | true =>
        rw [maskedPositions_true, filterMap_cons, getElem?_eq_getElem within,
          ← later, selectMasked_true]
    · rw [drop_eq_nil_of_le (Nat.le_of_not_lt within), eq_comm]
      have nothing : selectMasked (marked :: mask) ([] : List Alpha) = [] := by
        simp [selectMasked]
      rw [nothing, filterMap_eq_nil_iff]
      intro position member
      have later := offset_le_of_mem_maskedPositions member
      rw [getElem?_eq_none_iff]
      omega

theorem selectMasked_eq_filterMap (row : List Alpha) :
    selectMasked mask row =
      (maskedPositions 0 mask).filterMap fun position => row[position]? := by
  rw [← selectMasked_drop, drop_zero]

end

@[simp]
theorem length_collateRow (pad : Alpha) (width : Nat) (row : List Alpha) :
    (collateRow pad width row).length = width := by
  simp only [collateRow, length_append, length_take, length_replicate]
  omega

@[simp]
theorem length_shiftInputIds (filler : Alpha) (row : List Alpha) :
    (shiftInputIds filler row).length = row.length := by
  cases row with
  | nil => rfl
  | cons token row => simp [shiftInputIds]

theorem getElem?_shiftInputIds (filler : Alpha) (row : List Alpha) (position : Nat) :
    (shiftInputIds filler row)[position]? =
      if position + 1 < row.length then row[position + 1]?
      else if position < row.length then some filler else none := by
  cases row with
  | nil => simp [shiftInputIds]
  | cons token row =>
    rw [shiftInputIds, getElem?_append]
    by_cases early : position < row.length
    · simp [early]
    · by_cases last : position = row.length
      · simp [last]
      · have outside : ¬ position < row.length + 1 := by omega
        simp only [early, length_cons, Nat.add_lt_add_iff_right, if_false, outside]
        rw [getElem?_eq_none_iff, length_singleton]
        omega

theorem maskedPositions_collateRow (width : Nat) (mask : List Bool) :
    maskedPositions 0 (collateRow false width mask) =
      (maskedPositions 0 mask).filter (· < width) := by
  rw [collateRow, maskedPositions_append, maskedPositions_take,
    maskedPositions_replicate_false, append_nil, Nat.zero_add]

theorem effectiveInputIds_collateRow (pad filler : Alpha) (width : Nat) (row : List Alpha)
    (mask : List Bool) :
    effectiveInputIds filler (collateRow pad width row) (collateRow false width mask) =
      ((maskedPositions 0 mask).filter (· < width)).map fun position =>
        if position + 1 < width then (row[position + 1]?).getD pad else filler := by
  rw [effectiveInputIds, selectMasked_eq_filterMap, maskedPositions_collateRow,
    ← filterMap_eq_map]
  apply filterMap_congr
  intro position member
  have within : position < width := by simpa using (mem_filter.mp member).2
  rw [getElem?_shiftInputIds, length_collateRow, if_pos within]
  by_cases inner : position + 1 < width
  · simp only [if_pos inner, Function.comp]
    rw [collateRow, getElem?_append, length_take]
    by_cases present : position + 1 < row.length
    · rw [if_pos (by omega), getElem?_take_of_lt inner,
        getElem?_eq_getElem present, Option.getD_some]
    · rw [if_neg (by omega), getElem?_replicate, if_pos (by omega),
        getElem?_eq_none_iff.mpr (by omega), Option.getD_none]
  · simp only [if_neg inner, Function.comp]

end Selection

section Positions

/-- The targets that `compute_logprobs` selects for a sample collated to `width`, as
positions in the sample: `none` is padding or the filler after the last entry. -/
def targetPositions (width : Nat) (packed : RLPolicyInput) : List (Option Nat) :=
  effectiveInputIds none
    (collateRow none width ((List.range packed.inputIds.length).map some))
    (collateRow false width packed.logprobMasks)

/-- The positions of the contents between the parts of a template, the first of which
begins at `offset`. -/
def contentPositions : Nat → List (List Nat) → List (List Nat) → List Nat
  | offset, part :: parts, content :: contents =>
    List.range' (offset + part.length) content.length ++
      contentPositions (offset + part.length + content.length) parts contents
  | _, _ :: _, [] => []
  | _, [], _ => []

/-- The tokens of a sample that the model generated, by position: the completion after
the ignored prefix, or the contents of the assistant's messages. -/
def generatedPositions (tokenizer : Tokenizer) (multiTurn : Bool) (sample : PromptSample)
    (completion : Completion) (nIgnorePrefixTokens : Nat) : List Nat :=
  if multiTurn then
    match sample with
    | .text _ => []
    | .conversation messages =>
      match templateParts tokenizer messages with
      | .error _ => []
      | .ok (parts, contents) => contentPositions 0 parts contents
  else
    List.range' ((promptIds tokenizer sample).length + nIgnorePrefixTokens)
      ((completionIds tokenizer completion).length - nIgnorePrefixTokens)

def targetOf (width length position : Nat) : Option Nat :=
  if position + 1 < min width length then some (position + 1) else none

theorem targetPositions_eq_map (width : Nat) (packed : RLPolicyInput) :
    targetPositions width packed =
      ((maskedPositions 0 packed.logprobMasks).filter (· < width)).map
        (targetOf width packed.inputIds.length) := by
  rw [targetPositions, effectiveInputIds_collateRow]
  apply map_congr_left
  intro position _
  rw [targetOf]
  by_cases inner : position + 1 < width
  · by_cases present : position + 1 < packed.inputIds.length
    · have both : position + 1 < min width packed.inputIds.length := by omega
      simp [inner, present, both]
    · have outside : ¬ position + 1 < min width packed.inputIds.length := by omega
      simp [inner, present, outside]
  · have outside : ¬ position + 1 < min width packed.inputIds.length := by omega
    rw [if_neg inner, if_neg outside]

theorem marked_of_mem_targetPositions {width position : Nat} {packed : RLPolicyInput}
    (selected : some position ∈ targetPositions width packed) :
    ∃ marked ∈ maskedPositions 0 packed.logprobMasks,
      marked + 1 = position ∧ position < width := by
  rw [targetPositions_eq_map, mem_map] at selected
  obtain ⟨marked, member, target⟩ := selected
  refine ⟨marked, (mem_filter.mp member).1, ?_⟩
  rw [targetOf] at target
  by_cases inner : marked + 1 < min width packed.inputIds.length
  · rw [if_pos inner, Option.some.injEq] at target
    omega
  · rw [if_neg inner] at target
    cases target

end Positions

section MultiTurn

theorem maskedPositions_concatParts (offset : Nat) (parts contents : List (List Nat)) :
    maskedPositions offset (concatParts parts contents).2 =
      contentPositions offset parts contents := by
  induction parts generalizing offset contents with
  | nil => cases contents <;> simp [concatParts, contentPositions]
  | cons part parts ih =>
    cases contents with
    | nil => simp [concatParts, contentPositions]
    | cons content contents =>
      simp only [concatParts, contentPositions, maskedPositions_append,
        maskedPositions_replicate_false, maskedPositions_replicate_true,
        length_append, length_replicate, nil_append]
      rw [← Nat.add_assoc, ih]

theorem length_concatParts (parts contents : List (List Nat)) :
    (concatParts parts contents).2.length = (concatParts parts contents).1.length := by
  induction parts generalizing contents with
  | nil => cases contents <;> simp [concatParts]
  | cons part parts ih =>
    cases contents with
    | nil => simp [concatParts]
    | cons content contents => simp [concatParts, ih]

variable {tokenizer : Tokenizer} {sample : PromptSample} {completion : Completion}
  {nIgnorePrefixTokens : Nat} {packed : RLPolicyInput}

/-- The mask of a packed conversation is the mask of its template with the contents put
in, and it marks something. -/
theorem logprobMasks_multiTurn
    (input : getPolicyInput tokenizer true sample completion nIgnorePrefixTokens =
      .ok packed) :
    maskedPositions 0 packed.logprobMasks =
        generatedPositions tokenizer true sample completion nIgnorePrefixTokens ∧
      maskedPositions 0 packed.logprobMasks ≠ [] := by
  cases sample with
  | text text => simp [getPolicyInput] at input
  | conversation messages =>
    simp only [getPolicyInput, if_true] at input
    cases spliced : getTokenIdsAndLossMaskFromConversation tokenizer messages with
    | error exn => simp [spliced] at input
    | ok ids =>
      obtain ⟨inputIds, lossMask⟩ := ids
      simp only [spliced] at input
      split at input
      case isFalse => cases input
      case isTrue marks =>
        rw [Except.ok.injEq] at input
        subst input
        refine ⟨?_, (maskedPositions_ne_nil_iff 0 lossMask).mpr marks⟩
        simp only [generatedPositions, if_true]
        rw [getTokenIdsAndLossMaskFromConversation] at spliced
        cases template : templateParts tokenizer messages with
        | error exn => simp [template] at spliced
        | ok partsAndContents =>
          obtain ⟨parts, contents⟩ := partsAndContents
          simp only [template] at spliced
          split at spliced
          case isTrue noContents =>
            -- without an assistant's message nothing is marked
            rw [Except.ok.injEq, Prod.mk.injEq] at spliced
            rw [← spliced.2] at marks
            simp at marks
          case isFalse someContents =>
            split at spliced
            case isFalse => cases spliced
            case isTrue separated =>
              rw [Except.ok.injEq] at spliced
              have marked := maskedPositions_concatParts 0 parts contents
              rwa [spliced] at marked

/-- The mask of a conversation is as long as its tokens. -/
theorem length_logprobMasks_multiTurn
    (input : getPolicyInput tokenizer true sample completion nIgnorePrefixTokens =
      .ok packed) :
    packed.logprobMasks.length = packed.inputIds.length := by
  have spliced (messages : ConversationType) (inputIds : List Nat) (lossMask : List Bool)
      (given : getTokenIdsAndLossMaskFromConversation tokenizer messages =
        .ok (inputIds, lossMask)) : lossMask.length = inputIds.length := by
    rw [getTokenIdsAndLossMaskFromConversation] at given
    split at given
    next => cases given
    next parts contents _ =>
      split at given
      next =>
        cases given
        exact length_replicate
      next =>
        split at given
        next =>
          have same := length_concatParts parts contents
          rwa [Except.ok.inj given] at same
        next => cases given
  cases sample with
  | text text => simp [getPolicyInput] at input
  | conversation messages =>
    simp only [getPolicyInput, if_true] at input
    split at input
    next => cases input
    next inputIds lossMask given =>
      split at input
      next =>
        cases input
        exact spliced messages inputIds lossMask given
      next => cases input

end MultiTurn

section SingleTurn

variable {tokenizer : Tokenizer} {sample : PromptSample} {completion : Completion}
  {nIgnorePrefixTokens : Nat} {packed : RLPolicyInput}

theorem getPolicyInput_singleTurn
    (input : getPolicyInput tokenizer false sample completion nIgnorePrefixTokens =
      .ok packed) :
    packed.inputIds = promptIds tokenizer sample ++ completionIds tokenizer completion ∧
      maskedPositions 0 packed.logprobMasks =
        List.range' ((promptIds tokenizer sample).length + nIgnorePrefixTokens - 1)
          ((completionIds tokenizer completion).length - nIgnorePrefixTokens) := by
  simp only [getPolicyInput, Bool.false_eq_true, if_false, Except.ok.injEq] at input
  subst input
  refine ⟨rfl, ?_⟩
  simp [maskedPositions_append]

/-- The mask of a sample of which some prefix of the completion is ignored is as long as its
tokens exactly if a token stands before the trained ones. -/
theorem length_logprobMasks_singleTurn_iff
    (input : getPolicyInput tokenizer false sample completion nIgnorePrefixTokens =
      .ok packed) (within : nIgnorePrefixTokens ≤ (completionIds tokenizer completion).length) :
    packed.logprobMasks.length = packed.inputIds.length ↔
      0 < (promptIds tokenizer sample).length + nIgnorePrefixTokens := by
  simp only [getPolicyInput, Bool.false_eq_true, if_false, Except.ok.injEq] at input
  subst input
  simp only [length_append, length_replicate, length_singleton]
  omega

/-- Single-turn training selects the completion after the ignored prefix exactly if
there is no token left to train, or a token stands before the first one and the row
holds the whole sample. -/
theorem targetPositions_singleTurn (width : Nat)
    (input : getPolicyInput tokenizer false sample completion nIgnorePrefixTokens =
      .ok packed) :
    targetPositions width packed =
        (generatedPositions tokenizer false sample completion nIgnorePrefixTokens).map some ↔
      (completionIds tokenizer completion).length ≤ nIgnorePrefixTokens ∨
        (0 < (promptIds tokenizer sample).length + nIgnorePrefixTokens ∧
          (promptIds tokenizer sample).length + (completionIds tokenizer completion).length ≤
            width) := by
  obtain ⟨ids, marked⟩ := getPolicyInput_singleTurn input
  have generated : generatedPositions tokenizer false sample completion nIgnorePrefixTokens =
      List.range' ((promptIds tokenizer sample).length + nIgnorePrefixTokens)
        ((completionIds tokenizer completion).length - nIgnorePrefixTokens) := by
    simp [generatedPositions]
  have idsLength : packed.inputIds.length = (promptIds tokenizer sample).length +
      (completionIds tokenizer completion).length := by
    rw [ids, length_append]
  generalize (promptIds tokenizer sample).length = promptLength at *
  generalize (completionIds tokenizer completion).length = completionLength at *
  rw [generated]
  constructor
  · intro equal
    by_cases rest : completionLength ≤ nIgnorePrefixTokens
    · exact Or.inl rest
    · -- the first and the last generated token are both selected
      have selected : ∀ position,
          position ∈ List.range' (promptLength + nIgnorePrefixTokens)
            (completionLength - nIgnorePrefixTokens) →
          0 < position ∧ position < width := by
        intro position member
        have target : some position ∈ targetPositions width packed := by
          rw [equal]
          exact mem_map.mpr ⟨position, member, rfl⟩
        obtain ⟨before, _, next, within⟩ := marked_of_mem_targetPositions target
        omega
      have first := selected (promptLength + nIgnorePrefixTokens) (by rw [mem_range'_1]; omega)
      have last := selected (promptLength + completionLength - 1) (by rw [mem_range'_1]; omega)
      omega
  · intro condition
    rw [targetPositions_eq_map, marked, idsLength]
    by_cases rest : completionLength ≤ nIgnorePrefixTokens
    · rw [Nat.sub_eq_zero_of_le rest]
      simp
    · obtain ⟨preceded, fits⟩ := condition.resolve_left rest
      have kept : (List.range' (promptLength + nIgnorePrefixTokens - 1)
          (completionLength - nIgnorePrefixTokens)).filter (· < width) =
            List.range' (promptLength + nIgnorePrefixTokens - 1)
              (completionLength - nIgnorePrefixTokens) := by
        rw [filter_eq_self]
        intro position member
        rw [mem_range'_1] at member
        simp only [decide_eq_true_eq]
        omega
      have shifted : List.range' (promptLength + nIgnorePrefixTokens)
          (completionLength - nIgnorePrefixTokens) =
            (List.range' (promptLength + nIgnorePrefixTokens - 1)
              (completionLength - nIgnorePrefixTokens)).map (1 + ·) := by
        rw [map_add_range']
        congr 1
        omega
      rw [kept, shifted, map_map]
      apply map_congr_left
      intro position member
      rw [mem_range'_1] at member
      have inside : position + 1 < min width (promptLength + completionLength) := by omega
      rw [targetOf, if_pos inside, Function.comp, Nat.add_comm]

end SingleTurn

theorem length_le_computedMaxLen {seqLenMultiple : Nat} (positive : 0 < seqLenMultiple)
    {sample : RLPolicyInput} {processedSamples : List RLPolicyInput}
    (member : sample ∈ processedSamples) :
    sample.inputIds.length ≤ computedMaxLen none seqLenMultiple processedSamples := by
  have longest : sample.inputIds.length ≤ policyComputeMaxLen processedSamples := by
    induction processedSamples with
    | nil => cases member
    | cons first rest ih =>
      simp only [policyComputeMaxLen, map_cons, foldr_cons]
      rcases mem_cons.mp member with rfl | later
      · exact Nat.le_max_left _ _
      · exact Nat.le_trans (ih later) (Nat.le_max_right _ _)
  have split := Nat.div_add_mod (policyComputeMaxLen processedSamples + seqLenMultiple - 1)
    seqLenMultiple
  have remainder := Nat.mod_lt (policyComputeMaxLen processedSamples + seqLenMultiple - 1) positive
  rw [computedMaxLen, Option.getD_none, Nat.mul_comm]
  omega

/-- The trained tokens of a sample are the generated ones exactly in single-turn
training, when there is no token left to train, or a token stands before the first one
and the row holds the whole sample.  In multi-turn training they never are. -/
theorem targetPositions_eq_generatedPositions_iff (tokenizer : Tokenizer) (multiTurn : Bool)
    (sample : PromptSample) (completion : Completion) (nIgnorePrefixTokens width : Nat)
    (packed : RLPolicyInput)
    (input : getPolicyInput tokenizer multiTurn sample completion nIgnorePrefixTokens =
      .ok packed) :
    targetPositions width packed =
        (generatedPositions tokenizer multiTurn sample completion nIgnorePrefixTokens).map
          some ↔
      multiTurn = false ∧
        ((completionIds tokenizer completion).length ≤ nIgnorePrefixTokens ∨
          (0 < (promptIds tokenizer sample).length + nIgnorePrefixTokens ∧
            (promptIds tokenizer sample).length +
              (completionIds tokenizer completion).length ≤ width)) := by
  cases multiTurn with
  | false =>
    rw [targetPositions_singleTurn width input]
    simp
  | true =>
    obtain ⟨generated, nonempty⟩ := logprobMasks_multiTurn input
    refine iff_of_false ?_ (by simp)
    intro equal
    -- every content token would stand right after another content token
    refine not_forall_shifted nonempty ?_
    intro position member
    have target : some position ∈ targetPositions width packed := by
      rw [equal, ← generated]
      exact mem_map.mpr ⟨position, member, rfl⟩
    obtain ⟨marked, markedMember, next, _⟩ := marked_of_mem_targetPositions target
    exact ⟨marked, markedMember, next⟩

section Samples

def characterTokenizer : Tokenizer where
  encode text := text.toList.map Char.toNat
  renderChatTemplate messages :=
    String.join (messages.map fun msg => "<" ++ msg.content ++ ">")
  tokenizeChatTemplate messages :=
    messages.flatMap fun msg => [60] ++ msg.content.toList.map Char.toNat ++ [62]
  padToken := "_"
  padTokenId := 95

/-- The tokens `<hi>ok` of a question with its completion are trained on `ok`. -/
theorem targetPositions_eq_generatedPositions_answered :
    targetPositions 6 ⟨[60, 104, 105, 62, 111, 107],
        [false, false, false, true, true, false]⟩ =
      (generatedPositions characterTokenizer false (.conversation [⟨.user, "hi"⟩])
        (.text "ok") 0).map some :=
  (targetPositions_eq_generatedPositions_iff characterTokenizer false
    (.conversation [⟨.user, "hi"⟩]) (.text "ok") 0 6
    ⟨[60, 104, 105, 62, 111, 107], [false, false, false, true, true, false]⟩
    (by decide)).mpr (by decide)

/-- In the conversation `<hi><ok>` the mask of the assistant's `ok` selects `k>`: the
first token of the answer is left out and the end of the message is trained. -/
theorem not_trainedTokens_conversation :
    ∃ packed,
      getPolicyInput characterTokenizer true
          (.conversation [⟨.user, "hi"⟩, ⟨.assistant, "ok"⟩]) (.tokenIds []) 0 =
        .ok packed ∧
      computedMaxLen none 1 [packed] = 8 ∧
      targetPositions 8 packed ≠
        (generatedPositions characterTokenizer true
          (.conversation [⟨.user, "hi"⟩, ⟨.assistant, "ok"⟩]) (.tokenIds []) 0).map some ∧
      effectiveInputIds 0 (collateRow 95 8 packed.inputIds)
          (collateRow false 8 packed.logprobMasks) =
        "k>".toList.map Char.toNat := by
  refine ⟨⟨[60, 104, 105, 62, 60, 111, 107, 62],
    [false, false, false, false, false, true, true, false]⟩, ?_, ?_, ?_, ?_⟩
  all_goals decide

end Samples

end CosmosRl.Data
