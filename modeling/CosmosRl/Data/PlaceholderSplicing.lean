import CosmosRl.Data.SftProcessSample
import CosmosRl.Data.TrainedTokens
import CosmosRl.Foundation.Splicing

/-!
The two scanners that put the assistant's contents back into a tokenized template.

Multi-turn training splits the template once at the placeholder runs.  Its loop stops
before a run that ends the template, so that a part is missing then.  The supervised packer
replaces the first run over and over, and the labels it has set so far are carried along:
a label on an end-of-sequence token can stand on the next run when the two tokens are the
same, and it disappears with that run.
-/

namespace CosmosRl.Data

open CosmosRl.Foundation List
open CosmosRl.Dispatcher (PyError)

section SplitTemplate

variable {tokenizer : Tokenizer} {template front : List Nat} {parts : List (List Nat)}

theorem padRunLength_pos : 0 < padRunLength := by decide

theorem runAt_iff (position : Nat) :
    RunAt tokenizer.padTokenId padRunLength template position ↔
      (template.drop position).take padRunLength = placeholderTokenIds tokenizer :=
  Iff.rfl

theorem splitTemplate_end (rounds idx lastIdx : Nat)
    (ended : template.length ≤ idx + padRunLength) :
    splitTemplate tokenizer template rounds idx lastIdx = [template.drop lastIdx] := by
  cases rounds with
  | zero => rfl
  | succ rounds => rw [splitTemplate, if_neg (Nat.not_lt.mpr ended)]

theorem splitTemplate_skip (rounds steps idx lastIdx : Nat)
    (noRun : ∀ position, idx ≤ position → position < idx + steps →
      ¬ RunAt tokenizer.padTokenId padRunLength template position) :
    splitTemplate tokenizer template (rounds + steps) idx lastIdx =
      splitTemplate tokenizer template rounds (idx + steps) lastIdx := by
  induction steps generalizing idx with
  | zero => rfl
  | succ steps ih =>
    by_cases within : idx + padRunLength < template.length
    · have here := noRun idx (Nat.le_refl idx) (by omega)
      rw [runAt_iff] at here
      rw [← Nat.add_assoc, splitTemplate, if_pos within, if_neg here,
        ih (idx + 1) fun position after before =>
          noRun position (by omega) (by omega)]
      congr 1
      omega
    · rw [splitTemplate_end _ _ _ (by omega), splitTemplate_end _ _ _ (by omega)]

section

variable (rounds : Nat)

theorem splitTemplate_part (front part back : List Nat) (clean : tokenizer.padTokenId ∉ part) :
    splitTemplate tokenizer (front ++ (part ++ back)) (rounds + part.length) front.length
        front.length =
      splitTemplate tokenizer (front ++ (part ++ back)) rounds (front.length + part.length)
        front.length := by
  apply splitTemplate_skip
  intro position after before run
  obtain ⟨offset, rfl⟩ := Nat.exists_eq_add_of_le after
  rw [RunAt, ← drop_drop, drop_left] at run
  exact not_runAt_of_clean padRunLength_pos clean (by omega) run

theorem splitTemplate_run (front part back : List Nat) (behind : back ≠ []) :
    splitTemplate tokenizer (front ++ (part ++ (placeholderTokenIds tokenizer ++ back)))
        (rounds + 1) (front.length + part.length) front.length =
      part :: splitTemplate tokenizer
        ((front ++ (part ++ placeholderTokenIds tokenizer)) ++ back) rounds
        (front ++ (part ++ placeholderTokenIds tokenizer)).length
        (front ++ (part ++ placeholderTokenIds tokenizer)).length := by
  have runLength : (placeholderTokenIds tokenizer).length = padRunLength := length_replicate
  have further := length_pos_iff.mpr behind
  have run : ((front ++ (part ++ (placeholderTokenIds tokenizer ++ back))).drop
      (front.length + part.length)).take padRunLength = placeholderTokenIds tokenizer := by
    rw [← drop_drop, drop_left, drop_left, take_left' runLength]
  have cut : ((front ++ (part ++ (placeholderTokenIds tokenizer ++ back))).take
      (front.length + part.length)).drop front.length = part := by
    rw [drop_take, drop_left, Nat.add_sub_cancel_left, take_left]
  rw [splitTemplate, if_pos (by simp only [length_append, runLength]; omega), if_pos run, cut]
  simp only [length_append, append_assoc, runLength, Nat.add_assoc]

theorem splitTemplate_cons (front part : List Nat)
    (clean : tokenizer.padTokenId ∉ part) (nonempty : parts ≠ [])
    (behind : joinRuns tokenizer.padTokenId padRunLength parts ≠ [])
    (enough : (joinRuns tokenizer.padTokenId padRunLength (part :: parts)).length ≤ rounds) :
    ∃ rest passed,
      (joinRuns tokenizer.padTokenId padRunLength parts).length ≤ rest ∧
        splitTemplate tokenizer
            (front ++ joinRuns tokenizer.padTokenId padRunLength (part :: parts)) rounds
            front.length front.length =
          part :: splitTemplate tokenizer
            (passed ++ joinRuns tokenizer.padTokenId padRunLength parts) rest passed.length
            passed.length := by
  have positive := padRunLength_pos
  rw [joinRuns_cons nonempty] at enough ⊢
  simp only [length_append, length_replicate] at enough
  obtain ⟨rest, rfl⟩ := Nat.exists_eq_add_of_le' (show 1 + part.length ≤ rounds by omega)
  refine ⟨rest, front ++ (part ++ placeholderTokenIds tokenizer), by omega, ?_⟩
  rw [← Nat.add_assoc, splitTemplate_part _ _ _ _ clean]
  exact splitTemplate_run rest front part _ behind

theorem splitTemplate_joinRuns (front : List Nat)
    (clean : ∀ part ∈ parts, tokenizer.padTokenId ∉ part) (nonempty : parts ≠ [])
    (followed : parts.length = 1 ∨ parts.getLast? ≠ some [])
    (enough : (joinRuns tokenizer.padTokenId padRunLength parts).length ≤ rounds) :
    splitTemplate tokenizer
        (front ++ joinRuns tokenizer.padTokenId padRunLength parts) rounds front.length
        front.length = parts := by
  induction parts generalizing front rounds with
  | nil => exact absurd rfl nonempty
  | cons part parts ih =>
    rw [forall_mem_cons] at clean
    cases parts with
    | nil =>
      rw [joinRuns_singleton] at enough ⊢
      obtain ⟨rest, rfl⟩ := Nat.exists_eq_add_of_le' enough
      have passed := splitTemplate_part rest front part [] clean.1
      rw [append_nil] at passed
      rw [passed, splitTemplate_end _ _ _ (by rw [length_append]; omega), drop_left]
    | cons next parts =>
      have later : (next :: parts).getLast? ≠ some [] := by
        rcases followed with single | followed
        · simp at single
        · rwa [getLast?_cons_cons] at followed
      have behind : joinRuns tokenizer.padTokenId padRunLength (next :: parts) ≠ [] := by
        cases parts with
        | nil => simpa using later
        | cons => exact joinRuns_ne_nil_of_cons_cons padRunLength_pos
      obtain ⟨rest, passed, still, cut⟩ := splitTemplate_cons rounds front part clean.1
        (cons_ne_nil next parts) behind enough
      rw [cut, ih rest passed clean.2 (cons_ne_nil next parts) (Or.inr later) still]

theorem length_splitTemplate_of_ended (front : List Nat)
    (clean : ∀ part ∈ parts, tokenizer.padTokenId ∉ part) (several : 1 < parts.length)
    (ended : parts.getLast? = some [])
    (enough : (joinRuns tokenizer.padTokenId padRunLength parts).length ≤ rounds) :
    (splitTemplate tokenizer
        (front ++ joinRuns tokenizer.padTokenId padRunLength parts) rounds front.length
        front.length).length + 1 = parts.length := by
  induction parts generalizing front rounds with
  | nil => cases several
  | cons part parts ih =>
    rw [forall_mem_cons] at clean
    cases parts with
    | nil => simp at several
    | cons next parts =>
      rw [getLast?_cons_cons] at ended
      cases parts with
      | nil =>
        -- the last part is empty, and the loop ends before the run in front of it
        obtain rfl : next = [] := by simpa using ended
        rw [joinRuns_cons (cons_ne_nil [] []), joinRuns_singleton, append_nil] at enough ⊢
        simp only [length_append, length_replicate] at enough
        obtain ⟨rest, rfl⟩ := Nat.exists_eq_add_of_le' (show part.length ≤ rounds by omega)
        rw [splitTemplate_part _ _ _ _ clean.1, splitTemplate_end _ _ _ (by
          simp only [length_append, length_replicate]
          omega)]
        rfl
      | cons third parts =>
        obtain ⟨rest, passed, still, cut⟩ := splitTemplate_cons rounds front part
          clean.1 (cons_ne_nil next _)
          (joinRuns_ne_nil_of_cons_cons padRunLength_pos) enough
        rw [cut, length_cons, ih rest passed clean.2 (by simp)
          ended still, @length_cons _ part]

end

end SplitTemplate

section ReplaceAssistantContents

variable {padTokenId : Nat} {eosTokenId : Option Nat} {front back : List Nat}
  {parts contents : List (List Nat)}

theorem firstRun_eq (clean : padTokenId ∉ front) :
    firstRun padTokenId (front ++ (List.replicate padRunLength padTokenId ++ back)) =
      some front.length := by
  rw [firstRun, find?_range_eq_some]
  refine ⟨?_, ?_, ?_⟩
  · exact decide_eq_true (runAt_append front back)
  · rw [mem_range]
    simp only [length_append, length_replicate]
    omega
  · intro position before
    rw [Bool.not_eq_true', decide_eq_false_iff_not]
    exact not_runAt_of_clean padRunLength_pos clean before

def pendingLabels (eosTokenId : Option Nat) (after : Bool) : List Nat → List Int
  | [] => []
  | token :: rest =>
    (if after ∧ some token = eosTokenId then Int.ofNat token else ignoreLabelId) ::
      List.replicate rest.length ignoreLabelId

def splicedLabels (eosTokenId : Option Nat) :
    Bool → List (List Nat) → List (List Nat) → List Int
  | after, part :: parts, content :: contents =>
    pendingLabels eosTokenId after part ++ content.map Int.ofNat ++
      splicedLabels eosTokenId true parts contents
  | after, part :: _, [] => pendingLabels eosTokenId after part
  | _, [], _ => []

@[simp]
theorem length_pendingLabels (after : Bool) (tokens : List Nat) :
    (pendingLabels eosTokenId after tokens).length = tokens.length := by
  cases tokens with
  | nil => rfl
  | cons token rest => simp [pendingLabels]

@[simp]
theorem length_splicedLabels (after : Bool) :
    (splicedLabels eosTokenId after parts contents).length =
      (splice parts contents).length := by
  induction parts generalizing after contents with
  | nil => rfl
  | cons part parts ih =>
    cases contents with
    | nil => exact length_pendingLabels after part
    | cons content contents => simp [splicedLabels, splice, ih]

theorem take_pendingLabels (after : Bool) (part back : List Nat) :
    (pendingLabels eosTokenId after (part ++ back)).take part.length =
      pendingLabels eosTokenId after part := by
  cases part with
  | nil => rfl
  | cons token part => simp [pendingLabels]

theorem drop_pendingLabels (after : Bool) (part back : List Nat) (nonempty : part ≠ []) :
    (pendingLabels eosTokenId after (part ++ back)).drop part.length =
      List.replicate back.length ignoreLabelId := by
  obtain ⟨token, rest, rfl⟩ := exists_cons_of_ne_nil nonempty
  simp [pendingLabels]

theorem pendingLabels_false (tokens : List Nat) :
    pendingLabels eosTokenId false tokens = List.replicate tokens.length ignoreLabelId := by
  cases tokens with
  | nil => rfl
  | cons token rest => simp [pendingLabels, replicate_succ]

/-- One replacement: the content takes the run's place, and the tokens behind it are
labelled as tokens after a content. -/
theorem replaceAssistantContent_eq (after : Bool) (front part back : List Nat)
    (frontLabels : List Int) (replacementIds : List Nat)
    (clean : padTokenId ∉ front ++ part) (aligned : frontLabels.length = front.length) :
    replaceAssistantContent padTokenId eosTokenId
        (front ++ (part ++ (List.replicate padRunLength padTokenId ++ back)))
        (frontLabels ++ pendingLabels eosTokenId after
          (part ++ (List.replicate padRunLength padTokenId ++ back)))
        replacementIds =
      (true, front ++ part ++ replacementIds ++ back,
        frontLabels ++ pendingLabels eosTokenId after part ++ replacementIds.map Int.ofNat ++
          pendingLabels eosTokenId true back) := by
  have found := @firstRun_eq padTokenId _ back clean
  rw [append_assoc] at found
  have runLength : (front ++ (part ++ List.replicate padRunLength padTokenId)).length =
      (front ++ part).length + padRunLength := by
    simp only [length_append, length_replicate, Nat.add_assoc]
  have tokensTaken : (front ++ (part ++ (List.replicate padRunLength padTokenId ++
      back))).take (front ++ part).length = front ++ part := by
    rw [← append_assoc, take_left]
  have tokensDropped : (front ++ (part ++ (List.replicate padRunLength padTokenId ++
      back))).drop ((front ++ part).length + padRunLength) = back := by
    rw [← runLength]
    simp only [← append_assoc, drop_left]
  have labelsTaken : (frontLabels ++ pendingLabels eosTokenId after
      (part ++ (List.replicate padRunLength padTokenId ++ back))).take
        (front ++ part).length = frontLabels ++ pendingLabels eosTokenId after part := by
    rw [length_append, ← aligned, take_length_add_append, take_pendingLabels]
  have labelsDropped : (frontLabels ++ pendingLabels eosTokenId after
      (part ++ (List.replicate padRunLength padTokenId ++ back))).drop
        ((front ++ part).length + padRunLength) =
      List.replicate back.length ignoreLabelId := by
    have partLength : (front ++ part).length + padRunLength = frontLabels.length +
        (part ++ List.replicate padRunLength padTokenId).length := by
      simp only [length_append, length_replicate, aligned, Nat.add_assoc]
    rw [partLength, drop_length_add_append, ← append_assoc, drop_pendingLabels]
    simp [padRunLength]
  have next : (front ++ (part ++ (List.replicate padRunLength padTokenId ++
      back)))[(front ++ part).length + padRunLength]? = back.head? := by
    rw [← head?_drop, tokensDropped]
  have some_behind : (front ++ part).length + padRunLength <
      (front ++ (part ++ (List.replicate padRunLength padTokenId ++ back))).length ↔
        back ≠ [] := by
    rw [← length_pos_iff]
    simp only [length_append, length_replicate]
    omega
  have oneMore : (frontLabels ++ pendingLabels eosTokenId after
      (part ++ (List.replicate padRunLength padTokenId ++ back))).drop
        ((front ++ part).length + padRunLength + 1) =
      List.replicate (back.length - 1) ignoreLabelId := by
    rw [← drop_drop, labelsDropped, drop_replicate]
  simp only [replaceAssistantContent, found]
  rw [tokensTaken, tokensDropped, labelsTaken, labelsDropped, oneMore, next]
  refine congrArg₂ Prod.mk rfl (congrArg₂ Prod.mk rfl ?_)
  simp only [some_behind]
  cases back with
  | nil => simp [pendingLabels]
  | cons token back =>
    by_cases ends : some token = eosTokenId
    · simp [pendingLabels, ← ends]
    · simp [pendingLabels, ends, replicate_succ]

/-- All replacements: the contents stand where the runs were, labelled with what follows
them. -/
theorem replaceAssistantContents_eq (after : Bool) (front : List Nat)
    (frontLabels : List Int) (cleanFront : padTokenId ∉ front)
    (aligned : frontLabels.length = front.length) (cleanParts : ∀ part ∈ parts, padTokenId ∉ part)
    (cleanContents : ∀ content ∈ contents, padTokenId ∉ content)
    (separated : parts.length = contents.length + 1) :
    replaceAssistantContents padTokenId eosTokenId contents
        (front ++ joinRuns padTokenId padRunLength parts)
        (frontLabels ++ pendingLabels eosTokenId after
          (joinRuns padTokenId padRunLength parts)) =
      .ok ⟨front ++ splice parts contents,
        frontLabels ++ splicedLabels eosTokenId after parts contents⟩ := by
  induction contents generalizing after front frontLabels parts with
  | nil =>
    obtain ⟨part, rfl⟩ := length_eq_one_iff.mp separated
    rw [joinRuns_singleton]
    rfl
  | cons content contents ih =>
    obtain ⟨part, parts, rfl⟩ := exists_cons_of_length_eq_add_one separated
    rw [forall_mem_cons] at cleanParts cleanContents
    have fewer : parts.length = contents.length + 1 := by simpa using separated
    have nonempty : parts ≠ [] := by
      rintro rfl
      simp at fewer
    have clean : padTokenId ∉ front ++ part := by
      rw [mem_append, not_or]
      exact ⟨cleanFront, cleanParts.1⟩
    rw [joinRuns_cons nonempty, replaceAssistantContents,
      replaceAssistantContent_eq after front part _ frontLabels content clean aligned]
    have step := ih true (front ++ part ++ content)
      (frontLabels ++ pendingLabels eosTokenId after part ++ content.map Int.ofNat)
      (by
        rw [mem_append, not_or]
        exact ⟨clean, cleanContents.1⟩)
      (by simp [aligned]) cleanParts.2 cleanContents.2 fewer
    simp only [length_append, length_pendingLabels, length_map, aligned,
      ne_eq, not_true_eq_false, if_false, step]
    simp only [splice, splicedLabels, append_assoc]

end ReplaceAssistantContents

section LabelPositions

variable {eosTokenId : Option Nat} {parts contents : List (List Nat)}

/-- The positions right after the contents of a text whose first part begins at
`offset`. -/
def contentEnds : Nat → List (List Nat) → List (List Nat) → List Nat
  | offset, part :: parts, content :: contents =>
    (offset + part.length + content.length) ::
      contentEnds (offset + part.length + content.length) parts contents
  | _, _ :: _, [] => []
  | _, [], _ => []

def EndsSequence (eosTokenId : Option Nat) (tokens : List Nat) (position : Nat) : Prop :=
  ∃ eos, eosTokenId = some eos ∧ tokens[position]? = some eos

theorem le_of_mem_contentEnds {offset position : Nat}
    (member : position ∈ contentEnds offset parts contents) : offset ≤ position := by
  induction parts generalizing offset contents with
  | nil => cases member
  | cons part parts ih =>
    cases contents with
    | nil => cases member
    | cons content contents =>
      rw [contentEnds, mem_cons] at member
      rcases member with rfl | member
      · omega
      · have later := ih member
        omega

def labelMask (labelIds : List Int) : List Bool :=
  labelIds.map fun label => decide (label ≠ ignoreLabelId)

theorem labelMask_append (front back : List Int) :
    labelMask (front ++ back) = labelMask front ++ labelMask back :=
  map_append

@[simp]
theorem length_labelMask (labelIds : List Int) : (labelMask labelIds).length = labelIds.length :=
  length_map _

theorem ofNat_ne_ignoreLabelId (token : Nat) : Int.ofNat token ≠ ignoreLabelId := by
  rw [ignoreLabelId]
  simp only [Int.ofNat_eq_natCast]
  omega

theorem labelMask_ofNat (content : List Nat) :
    labelMask (content.map Int.ofNat) = List.replicate content.length true := by
  rw [labelMask, map_map, eq_replicate_iff]
  refine ⟨length_map _, ?_⟩
  intro marked member
  obtain ⟨token, _, rfl⟩ := mem_map.mp member
  exact decide_eq_true (ofNat_ne_ignoreLabelId token)

theorem mem_pendingLabels_iff (after : Bool) (offset position : Nat) (part : List Nat) :
    position ∈ maskedPositions offset (labelMask (pendingLabels eosTokenId after part)) ↔
      after = true ∧ position = offset ∧ EndsSequence eosTokenId part 0 := by
  cases part with
  | nil => simp [pendingLabels, labelMask, EndsSequence]
  | cons token rest =>
    have ignored : labelMask (List.replicate rest.length ignoreLabelId) =
        List.replicate rest.length false := by
      simp [labelMask]
    have first : EndsSequence eosTokenId (token :: rest) 0 ↔ some token = eosTokenId := by
      simp only [EndsSequence, getElem?_cons_zero]
      constructor
      · rintro ⟨eos, rfl, same⟩
        exact same
      · rintro rfl
        exact ⟨token, rfl, rfl⟩
    by_cases ends : after = true ∧ some token = eosTokenId
    · have labelled : labelMask (pendingLabels eosTokenId after (token :: rest)) =
          true :: List.replicate rest.length false := by
        rw [pendingLabels, if_pos ends, ← ignored]
        exact congrArg (· :: _) (decide_eq_true (ofNat_ne_ignoreLabelId token))
      rw [labelled, maskedPositions_true, maskedPositions_replicate_false,
        mem_singleton, first]
      exact ⟨fun here => ⟨ends.1, here, ends.2⟩, fun both => both.2.1⟩
    · have unlabelled : labelMask (pendingLabels eosTokenId after (token :: rest)) =
          false :: List.replicate rest.length false := by
        rw [pendingLabels, if_neg ends, ← ignored]
        exact congrArg (· :: _) (decide_eq_false fun different => different rfl)
      rw [unlabelled, maskedPositions_false, maskedPositions_replicate_false, first]
      refine iff_of_false not_mem_nil ?_
      rintro ⟨isAfter, _, isEnd⟩
      exact ends ⟨isAfter, isEnd⟩

/-- The labels of a spliced text stand on the contents and on the end-of-sequence tokens
right after them. -/
theorem mem_splicedLabels_iff (after : Bool) (offset position : Nat)
    (separated : parts.length = contents.length + 1) :
    position ∈ maskedPositions offset
        (labelMask (splicedLabels eosTokenId after parts contents)) ↔
      position ∈ contentPositions offset parts contents ∨
        ((after = true ∧ position = offset) ∨ position ∈ contentEnds offset parts contents) ∧
          EndsSequence eosTokenId (splice parts contents) (position - offset) := by
  induction contents generalizing after offset parts with
  | nil =>
    obtain ⟨part, rfl⟩ := length_eq_one_iff.mp separated
    rw [splicedLabels, mem_pendingLabels_iff, contentPositions, contentEnds, splice]
    constructor
    · rintro ⟨isAfter, rfl, ends⟩
      exact Or.inr ⟨Or.inl ⟨isAfter, rfl⟩, by rwa [Nat.sub_self]⟩
    · rintro (member | ⟨⟨isAfter, rfl⟩ | member, ends⟩)
      · cases member
      · exact ⟨isAfter, rfl, by rwa [Nat.sub_self] at ends⟩
      · cases member
  | cons content contents ih =>
    obtain ⟨part, parts, rfl⟩ := exists_cons_of_length_eq_add_one separated
    have fewer : parts.length = contents.length + 1 := by simpa using separated
    have rest := ih true (offset + part.length + content.length) fewer
    -- behind the content the token is one of the rest
    have shifted : ∀ later, offset + part.length + content.length ≤ later →
        (EndsSequence eosTokenId (splice (part :: parts) (content :: contents))
            (later - offset) ↔
          EndsSequence eosTokenId (splice parts contents)
            (later - (offset + part.length + content.length))) := by
      intro later behind
      rw [EndsSequence, splice, getElem?_append_right
        (by rw [length_append]; omega), length_append]
      have same : later - offset - (part.length + content.length) =
          later - (offset + part.length + content.length) := by omega
      rw [same]
      rfl
    simp only [splicedLabels, labelMask_append, maskedPositions_append, length_labelMask,
      labelMask_ofNat, length_append, length_replicate, length_pendingLabels,
      mem_append, mem_pendingLabels_iff, maskedPositions_replicate_true,
      ← Nat.add_assoc, rest, contentPositions, contentEnds, mem_cons, true_and]
    constructor
    · rintro ((⟨isAfter, rfl, ends⟩ | inContent) | inRest | ⟨atEnd, ends⟩)
      · refine Or.inr ⟨Or.inl ⟨isAfter, rfl⟩, ?_⟩
        obtain ⟨eos, isEos, first⟩ := ends
        refine ⟨eos, isEos, ?_⟩
        have some_first := (List.getElem?_eq_some_iff.mp first).1
        rw [splice, Nat.sub_self, append_assoc, getElem?_append_left some_first, first]
      · exact Or.inl (Or.inl inContent)
      · exact Or.inl (Or.inr inRest)
      · refine Or.inr ⟨Or.inr atEnd, (shifted position ?_).mpr ends⟩
        rcases atEnd with rfl | later
        · exact Nat.le_refl _
        · exact le_of_mem_contentEnds later
    · rintro ((inContent | inRest) | ⟨⟨isAfter, rfl⟩ | atEnd, ends⟩)
      · exact Or.inl (Or.inr inContent)
      · exact Or.inr (Or.inl inRest)
      · -- right after the content before: in this part, in this content, or behind it
        rw [Nat.sub_self] at ends
        cases part with
        | cons token part => exact Or.inl (Or.inl ⟨isAfter, rfl, ends⟩)
        | nil =>
          cases content with
          | cons token content =>
            refine Or.inl (Or.inr ?_)
            rw [mem_range'_1]
            simp
          | nil => exact Or.inr (Or.inr ⟨Or.inl rfl, by simpa [splice] using ends⟩)
      · refine Or.inr (Or.inr ⟨atEnd, (shifted position ?_).mp ends⟩)
        rcases atEnd with rfl | later
        · exact Nat.le_refl _
        · exact le_of_mem_contentEnds later

end LabelPositions

section Roles

variable {tokenizer : Tokenizer} {conversation : ConversationType}

def ChatMessage.withPlaceholder (tokenizer : Tokenizer) (msg : ChatMessage) : ChatMessage :=
  if msg.role = .assistant then { msg with content := placeholderTokens tokenizer } else msg

def assistantContents (conversation : ConversationType) : List String :=
  (conversation.filter fun msg => msg.role = .assistant).map ChatMessage.content

def KnownRoles (conversation : ConversationType) : Prop :=
  ∀ msg ∈ conversation, ∀ name, msg.role ≠ .unknown name

def RolesAccepted (conversation : ConversationType) : Prop :=
  KnownRoles conversation ∧ ∀ msg ∈ conversation.tail, msg.role ≠ .system

theorem replaceUnmaskedRoles_eq (i : Nat) (known : KnownRoles conversation)
    (leading : ∀ msg ∈ (if i = 0 then conversation.tail else conversation),
      msg.role ≠ .system) :
    replaceUnmaskedRoles tokenizer i conversation =
      .ok (assistantContents conversation,
        conversation.map (ChatMessage.withPlaceholder tokenizer)) := by
  induction conversation generalizing i with
  | nil => rfl
  | cons msg rest ih =>
    have knownRest : KnownRoles rest := fun later member =>
      known later (mem_cons_of_mem msg member)
    have replaced := ih (i + 1) knownRest (by
      rw [if_neg (Nat.succ_ne_zero i)]
      intro later member
      apply leading later
      split
      · exact member
      · exact mem_cons_of_mem msg member)
    cases role : msg.role with
    | unknown name => exact absurd role (known msg mem_cons_self name)
    | system =>
      have first : i = 0 := by
        by_contra later
        rw [if_neg later] at leading
        exact leading msg mem_cons_self role
      subst first
      simp only [Nat.zero_add] at replaced
      simp [replaceUnmaskedRoles, role, replaced, assistantContents,
        ChatMessage.withPlaceholder, Except.map]
    | assistant | user | tool =>
      simp [replaceUnmaskedRoles, role, replaced, assistantContents,
        ChatMessage.withPlaceholder, Except.map]

theorem rolesAccepted_of_replaceUnmaskedRoles (i : Nat) {replaced : List String × ConversationType}
    (accepted : replaceUnmaskedRoles tokenizer i conversation = .ok replaced) :
    KnownRoles conversation ∧
      ∀ msg ∈ (if i = 0 then conversation.tail else conversation), msg.role ≠ .system := by
  induction conversation generalizing i replaced with
  | nil => simp [KnownRoles]
  | cons msg rest ih =>
    -- in every accepted case the rest is accepted, and this message is the first or no
    -- system message
    have split_ : (∃ later, replaceUnmaskedRoles tokenizer (i + 1) rest = .ok later) ∧
        (∀ name, msg.role ≠ .unknown name) ∧ (i = 0 ∨ msg.role ≠ .system) := by
      cases role : msg.role with
      | unknown name => simp [replaceUnmaskedRoles, role] at accepted
      | system =>
        by_cases first : i = 0
        · cases later : replaceUnmaskedRoles tokenizer (i + 1) rest with
          | error exn =>
            subst first
            simp only [Nat.zero_add] at later
            simp [replaceUnmaskedRoles, role, later, Except.map] at accepted
          | ok rest => exact ⟨⟨rest, rfl⟩, by simp, Or.inl first⟩
        · simp [replaceUnmaskedRoles, role, first] at accepted
      | assistant | user | tool =>
        cases later : replaceUnmaskedRoles tokenizer (i + 1) rest with
        | error exn =>
          simp [replaceUnmaskedRoles, role, later, Except.map] at accepted
        | ok rest => exact ⟨⟨rest, rfl⟩, by simp, Or.inr (by simp)⟩
    obtain ⟨⟨later, rest_accepted⟩, known, leading⟩ := split_
    obtain ⟨knownRest, leadingRest⟩ := ih (i + 1) rest_accepted
    rw [if_neg (Nat.succ_ne_zero i)] at leadingRest
    refine ⟨forall_mem_cons.mpr ⟨known, knownRest⟩, ?_⟩
    intro other member
    split at member
    case isTrue => exact leadingRest other member
    case isFalse behind =>
      rcases mem_cons.mp member with rfl | member
      · exact leading.resolve_left behind
      · exact leadingRest other member

theorem replaceUnmaskedRoles_ok_iff (replaced : List String × ConversationType) :
    replaceUnmaskedRoles tokenizer 0 conversation = .ok replaced ↔
      RolesAccepted conversation ∧
        replaced = (assistantContents conversation,
          conversation.map (ChatMessage.withPlaceholder tokenizer)) := by
  constructor
  · intro accepted
    obtain ⟨known, leading⟩ := rolesAccepted_of_replaceUnmaskedRoles 0 accepted
    rw [replaceUnmaskedRoles_eq 0 known leading, Except.ok.injEq] at accepted
    rw [if_pos rfl] at leading
    exact ⟨⟨known, leading⟩, accepted.symm⟩
  · rintro ⟨⟨known, leading⟩, rfl⟩
    exact replaceUnmaskedRoles_eq 0 known (by rwa [if_pos rfl])

end Roles

section SplicedConversation

def SftMessage.toChatMessage (x : SftMessage) : ChatMessage :=
  ⟨x.role.getD (.unknown "None"), x.content⟩

/-- A conversation with its two tokenized templates.  Each has a run of ten placeholder
tokens for each of the assistant's messages and no other placeholder token, and the
assistant's contents have none. -/
structure SplicedConversation where
  tokenizer : Tokenizer
  sftTemplate : List SftMessage → Except PyError (List Nat)
  eosTokenId : Option Nat
  messages : List SftMessage
  parts : List (List Nat)
  sftParts : List (List Nat)
  separated : parts.length =
    (assistantContents (messages.map SftMessage.toChatMessage)).length + 1
  separatedSft : sftParts.length =
    (assistantContents (messages.map SftMessage.toChatMessage)).length + 1
  template_eq : tokenizer.tokenizeChatTemplate
      ((messages.map SftMessage.toChatMessage).map
        (ChatMessage.withPlaceholder tokenizer)) =
    joinRuns tokenizer.padTokenId padRunLength parts
  sftTemplate_eq : sftTemplate (maskAssistants tokenizer.padToken messages).2 =
    .ok (joinRuns tokenizer.padTokenId padRunLength sftParts)
  cleanParts : ∀ part ∈ parts, tokenizer.padTokenId ∉ part
  cleanSftParts : ∀ part ∈ sftParts, tokenizer.padTokenId ∉ part
  cleanContents : ∀ content ∈ assistantContents (messages.map SftMessage.toChatMessage),
    tokenizer.padTokenId ∉ tokenizer.encode content

namespace SplicedConversation

variable (spliced : SplicedConversation)

def conversation : ConversationType := spliced.messages.map SftMessage.toChatMessage

def contents : List (List Nat) :=
  (assistantContents spliced.conversation).map spliced.tokenizer.encode

def sftTokenizer : SftTokenizer where
  encode := spliced.tokenizer.encode
  applyChatTemplate := spliced.sftTemplate
  padToken := some spliced.tokenizer.padToken
  padTokenId := some spliced.tokenizer.padTokenId
  eosTokenId := spliced.eosTokenId

def MultiTurnSpliced : Prop :=
  ∃ lossMask,
    getTokenIdsAndLossMaskFromConversation spliced.tokenizer spliced.conversation =
        .ok (splice spliced.parts spliced.contents, lossMask) ∧
      lossMask.length = (splice spliced.parts spliced.contents).length ∧
      maskedPositions 0 lossMask = contentPositions 0 spliced.parts spliced.contents

/-- Supervised training gets the contents in the places of their runs, and its labels
stand exactly on them and on the end-of-sequence tokens right after them. -/
def SftSpliced : Prop :=
  ∃ labelIds,
    (sftProcessSample spliced.sftTokenizer (.conversation spliced.messages)).2 =
        .ok ⟨splice spliced.sftParts spliced.contents, labelIds⟩ ∧
      labelIds.length = (splice spliced.sftParts spliced.contents).length ∧
      ∀ position, position ∈ maskedPositions 0 (labelMask labelIds) ↔
        position ∈ contentPositions 0 spliced.sftParts spliced.contents ∨
          position ∈ contentEnds 0 spliced.sftParts spliced.contents ∧
            EndsSequence spliced.eosTokenId (splice spliced.sftParts spliced.contents)
              position

variable {spliced}

theorem length_contents :
    spliced.contents.length = (assistantContents spliced.conversation).length :=
  length_map _

theorem clean_contents : ∀ content ∈ spliced.contents,
    spliced.tokenizer.padTokenId ∉ content := by
  intro content member
  obtain ⟨text, inConversation, rfl⟩ := mem_map.mp member
  exact spliced.cleanContents text inConversation

theorem parts_ne_nil : spliced.parts ≠ [] := by
  intro nothing
  have separated := spliced.separated
  rw [nothing] at separated
  cases separated

theorem templateParts_eq (accepted : RolesAccepted spliced.conversation) :
    templateParts spliced.tokenizer spliced.conversation =
      .ok (splitTemplate spliced.tokenizer
          (joinRuns spliced.tokenizer.padTokenId padRunLength spliced.parts)
          (joinRuns spliced.tokenizer.padTokenId padRunLength spliced.parts).length 0 0,
        spliced.contents) := by
  rw [templateParts, (replaceUnmaskedRoles_ok_iff _).mpr ⟨accepted, rfl⟩]
  simp only [Except.map]
  rw [conversation, spliced.template_eq]
  rfl

theorem template_of_contents_eq_nil (noContents : spliced.contents = []) :
    spliced.tokenizer.tokenizeChatTemplate spliced.conversation =
      joinRuns spliced.tokenizer.padTokenId padRunLength spliced.parts := by
  rw [← spliced.template_eq, ← conversation]
  congr 1
  rw [contents, map_eq_nil_iff, assistantContents, map_eq_nil_iff,
    filter_eq_nil_iff] at noContents
  have unchanged : ∀ msg ∈ spliced.conversation,
      msg.withPlaceholder spliced.tokenizer = id msg := by
    intro msg member
    rw [ChatMessage.withPlaceholder, if_neg]
    · rfl
    · simpa using noContents msg member
  rw [map_congr_left unchanged, map_id]

theorem concatParts_fst (parts contents : List (List Nat)) :
    (concatParts parts contents).1 = splice parts contents := by
  induction parts generalizing contents with
  | nil => cases contents <;> rfl
  | cons part parts ih =>
    cases contents with
    | nil => rfl
    | cons content contents =>
      rw [concatParts, splice, ← ih]

theorem splice_nil (parts : List (List Nat)) (single : parts.length = 1) :
    splice parts [] = joinRuns spliced.tokenizer.padTokenId padRunLength parts := by
  obtain ⟨part, rfl⟩ := length_eq_one_iff.mp single
  rw [joinRuns_singleton]
  rfl

/-- Multi-turn training fails exactly on rejected roles and on a run that ends the
template. -/
theorem multiTurnSpliced_iff :
    spliced.MultiTurnSpliced ↔
      RolesAccepted spliced.conversation ∧
        (spliced.contents = [] ∨ spliced.parts.getLast? ≠ some []) := by
  by_cases accepted : RolesAccepted spliced.conversation
  case neg =>
    refine iff_of_false ?_ fun both => accepted both.1
    rintro ⟨lossMask, returned, _⟩
    rw [getTokenIdsAndLossMaskFromConversation, templateParts] at returned
    cases replaced : replaceUnmaskedRoles spliced.tokenizer 0 spliced.conversation with
    | error exn => simp [replaced, Except.map] at returned
    | ok result => exact accepted ((replaceUnmaskedRoles_ok_iff result).mp replaced).1
  case pos =>
    rw [and_iff_right accepted]
    by_cases noContents : spliced.contents = []
    · refine iff_of_true ?_ (Or.inl noContents)
      have single : spliced.parts.length = 1 := by
        have separated := spliced.separated
        rw [← conversation, ← length_contents, noContents] at separated
        exact separated
      refine ⟨List.replicate
        (joinRuns spliced.tokenizer.padTokenId padRunLength spliced.parts).length false,
        ?_, ?_, ?_⟩
      · rw [getTokenIdsAndLossMaskFromConversation, templateParts_eq accepted]
        simp only [noContents, if_true]
        rw [template_of_contents_eq_nil noContents, splice_nil spliced.parts single]
      · rw [noContents, length_replicate, splice_nil spliced.parts single]
      · obtain ⟨part, onePart⟩ := length_eq_one_iff.mp single
        rw [maskedPositions_replicate_false, noContents, onePart]
        rfl
    · rw [or_iff_right noContents]
      have several : 1 < spliced.parts.length := by
        have separated := spliced.separated
        rw [← conversation, ← length_contents] at separated
        have some_contents := length_pos_iff.mpr noContents
        omega
      have returned : getTokenIdsAndLossMaskFromConversation spliced.tokenizer
            spliced.conversation =
          if (splitTemplate spliced.tokenizer
              (joinRuns spliced.tokenizer.padTokenId padRunLength spliced.parts)
              (joinRuns spliced.tokenizer.padTokenId padRunLength spliced.parts).length 0
              0).length = spliced.parts.length then
            .ok (concatParts (splitTemplate spliced.tokenizer
              (joinRuns spliced.tokenizer.padTokenId padRunLength spliced.parts)
              (joinRuns spliced.tokenizer.padTokenId padRunLength spliced.parts).length 0 0)
              spliced.contents)
          else .error (.assertionError ("Number of token ids parts should be the same as the " ++
            "number of unmasked role contents + 1")) := by
        rw [getTokenIdsAndLossMaskFromConversation, templateParts_eq accepted,
          spliced.separated, ← conversation, ← length_contents]
        simp only [noContents, if_false]
      by_cases ended : spliced.parts.getLast? = some []
      · refine iff_of_false ?_ (not_not.mpr ended)
        have missing := length_splitTemplate_of_ended
          (joinRuns spliced.tokenizer.padTokenId padRunLength spliced.parts).length []
          spliced.cleanParts several ended (Nat.le_refl _)
        rw [nil_append, length_nil] at missing
        rw [if_neg (by omega)] at returned
        rintro ⟨lossMask, result, _⟩
        rw [returned] at result
        cases result
      · refine iff_of_true ?_ ended
        have found := splitTemplate_joinRuns
          (joinRuns spliced.tokenizer.padTokenId padRunLength spliced.parts).length []
          spliced.cleanParts parts_ne_nil (Or.inr ended) (Nat.le_refl _)
        rw [nil_append, length_nil] at found
        rw [found, if_pos rfl] at returned
        refine ⟨(concatParts spliced.parts spliced.contents).2, ?_, ?_, ?_⟩
        · rw [returned, ← concatParts_fst]
        · rw [length_concatParts, concatParts_fst]
        · exact maskedPositions_concatParts 0 spliced.parts spliced.contents

theorem maskAssistants_fst (padToken : String) (messages : List SftMessage) :
    (maskAssistants padToken messages).1 =
      assistantContents (messages.map SftMessage.toChatMessage) := by
  induction messages with
  | nil => rfl
  | cons x rest ih =>
    obtain ⟨role, content⟩ := x
    rw [assistantContents] at ih
    cases role with
    | none =>
      simp [maskAssistants, assistantContents, SftMessage.toChatMessage, ih]
    | some role =>
      cases role <;>
        simp [maskAssistants, assistantContents, SftMessage.toChatMessage, ih]

theorem sftProcessSample_eq :
    (sftProcessSample spliced.sftTokenizer (.conversation spliced.messages)).2 =
      checkItem ⟨splice spliced.sftParts spliced.contents,
        splicedLabels spliced.eosTokenId false spliced.sftParts spliced.contents⟩ := by
  have fewer : spliced.sftParts.length = spliced.contents.length + 1 := by
    rw [length_contents]
    exact spliced.separatedSft
  have masked : assistantMasked spliced.sftTokenizer spliced.tokenizer.padTokenId
        (maskAssistants spliced.tokenizer.padToken spliced.messages).1
        (maskAssistants spliced.tokenizer.padToken spliced.messages).2 =
      .ok ⟨splice spliced.sftParts spliced.contents,
        splicedLabels spliced.eosTokenId false spliced.sftParts spliced.contents⟩ := by
    have replaced := @replaceAssistantContents_eq _ spliced.eosTokenId _ _ false [] []
      not_mem_nil rfl spliced.cleanSftParts clean_contents fewer
    rw [pendingLabels_false] at replaced
    rw [assistantMasked, maskAssistants_fst]
    simp only [sftTokenizer, spliced.sftTemplate_eq]
    exact replaced
  rw [sftProcessSample, processConversation]
  simp only [sftTokenizer] at masked ⊢
  rw [masked]
  rfl

theorem sftSpliced_iff :
    spliced.SftSpliced ↔
      (∃ part ∈ spliced.sftParts, part ≠ []) ∨ ∃ content ∈ spliced.contents, content ≠ [] := by
  have fewer : spliced.sftParts.length = spliced.contents.length + 1 := by
    rw [length_contents]
    exact spliced.separatedSft
  have someToken : ((∃ part ∈ spliced.sftParts, part ≠ []) ∨
      ∃ content ∈ spliced.contents, content ≠ []) ↔
        splice spliced.sftParts spliced.contents ≠ [] := by
    rw [ne_eq, splice_eq_nil_iff fewer, not_and_or]
    simp only [not_forall, exists_prop, ne_eq]
  rw [someToken, SftSpliced, sftProcessSample_eq, checkItem]
  by_cases empty : splice spliced.sftParts spliced.contents = []
  · rw [if_pos empty]
    refine iff_of_false ?_ (not_not.mpr empty)
    rintro ⟨labelIds, returned, _⟩
    cases returned
  · rw [if_neg empty]
    refine iff_of_true ⟨_, rfl, length_splicedLabels false, ?_⟩ empty
    intro position
    have labelled := @mem_splicedLabels_iff spliced.eosTokenId _ _ false 0 position fewer
    rw [labelled, Nat.sub_zero]
    simp only [Bool.false_eq_true, false_and, false_or]

end SplicedConversation

/-- Both paths splice a conversation exactly if its roles are accepted, no run ends the
multi-turn template, and the supervised text has a token. -/
theorem spliced_iff (spliced : SplicedConversation) :
    spliced.MultiTurnSpliced ∧ spliced.SftSpliced ↔
      RolesAccepted spliced.conversation ∧
        (spliced.contents = [] ∨ spliced.parts.getLast? ≠ some []) ∧
        ((∃ part ∈ spliced.sftParts, part ≠ []) ∨
          ∃ content ∈ spliced.contents, content ≠ []) := by
  rw [SplicedConversation.multiTurnSpliced_iff, SplicedConversation.sftSpliced_iff, and_assoc]

def openEnded : SplicedConversation where
  tokenizer :=
    { encode text := text.toList.map Char.toNat
      renderChatTemplate messages := String.join (messages.map fun msg => "<" ++ msg.content)
      tokenizeChatTemplate messages :=
        messages.flatMap fun msg => 60 :: msg.content.toList.map Char.toNat
      padToken := "_"
      padTokenId := 95 }
  sftTemplate messages :=
    .ok (messages.flatMap fun msg => 60 :: msg.content.toList.map Char.toNat)
  eosTokenId := some 62
  messages := [⟨some .user, "hi"⟩, ⟨some .assistant, "ok"⟩]
  parts := [[60, 104, 105, 60], []]
  sftParts := [[60, 104, 105, 60], []]
  separated := by decide
  separatedSft := by decide
  template_eq := by decide
  sftTemplate_eq := by decide
  cleanParts := by decide
  cleanSftParts := by decide
  cleanContents := by decide

/-- The supervised path puts `ok` in the place of the run, and the multi-turn path does not
find the run. -/
theorem not_spliced_openEnded :
    getTokenIdsAndLossMaskFromConversation openEnded.tokenizer openEnded.conversation =
        .error (.assertionError ("Number of token ids parts should be the same as the " ++
          "number of unmasked role contents + 1")) ∧
      (sftProcessSample openEnded.sftTokenizer (.conversation openEnded.messages)).2 =
        .ok ⟨[60, 104, 105, 60, 111, 107], [-100, -100, -100, -100, 111, 107]⟩ ∧
      ¬ (openEnded.MultiTurnSpliced ∧ openEnded.SftSpliced) := by
  have failed : getTokenIdsAndLossMaskFromConversation openEnded.tokenizer
      openEnded.conversation =
        .error (.assertionError ("Number of token ids parts should be the same as the " ++
          "number of unmasked role contents + 1")) := by decide
  refine ⟨failed, by decide, ?_⟩
  rintro ⟨⟨lossMask, returned, _⟩, _⟩
  rw [failed] at returned
  cases returned

end SplicedConversation

end CosmosRl.Data
