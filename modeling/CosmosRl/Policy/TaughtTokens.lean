import CosmosRl.Policy.KeptPositions
import CosmosRl.Policy.TeacherMasks

/-!
Which tokens a mini-batch of distillation trains.

Collating a sample twice leaves the mask of the first time, so that every visit of a
mini-batch selects by the masks that the first visit left.
-/

namespace CosmosRl.Policy

open CosmosRl.Data CosmosRl.Foundation CosmosRl.Utils List
open CosmosRl.Dispatcher (PyError)

section Masks

variable {Value : Type}
  (config : GrpoConfig) (rollouts : List (Rollout Value))
  (results : String → Option (List (List Value)))
  (policyInput : Rollout Value → RLPolicyInput)

def teacherOf (index : Nat) : Option (List (List Value)) :=
  (rollouts[index]?).bind fun rollout => results rollout.teacherResultUuid

def packedSample (position : Nat) : RLPolicyInput :=
  ((rollouts.map policyInput)[position]?).getD ⟨[], []⟩

/-- The mask that `collate_teacher_logprobs` leaves. -/
def maskLeft (row : BatchRow) (masks : List Bool) : List Bool :=
  if config.includePrompt then List.replicate (masks.length - 1) true ++ [false]
  else if teacherOf rollouts results row.index = none then
    List.replicate masks.length false
  else masks

def collatedSample (row : BatchRow) : RLPolicyInput :=
  { packedSample rollouts policyInput row.position with
    logprobMasks := maskLeft config rollouts results row
      (packedSample rollouts policyInput row.position).logprobMasks }

variable {config rollouts results policyInput} {masks : List Bool}
  {samples : List RLPolicyInput}

theorem maskLeft_maskLeft {row : BatchRow} (readable : config.includePrompt = true → masks ≠ []) :
    maskLeft config rollouts results row
        (maskLeft config rollouts results row masks) =
      maskLeft config rollouts results row masks := by
  unfold maskLeft
  cases prompt : config.includePrompt with
  | true =>
    have filled := length_pos_of_ne_nil (readable prompt)
    have kept : masks.length - 1 + 1 - 1 = masks.length - 1 := by omega
    simp [kept]
  | false =>
    simp only [Bool.false_eq_true, if_false]
    split <;> simp

theorem collateTeacherLogprobs_ok {row : BatchRow} {input : RLPolicyInput}
    {teacherLogprobs : Option (List (List Value))} {masks : List Bool}
    (collated : collateTeacherLogprobs config rollouts results
      ⟨row.position, input⟩ row.index = .ok (teacherLogprobs, masks)) :
    teacherLogprobs = teacherOf rollouts results row.index ∧
      masks = maskLeft config rollouts results row input.logprobMasks ∧
      (config.includePrompt = true → input.logprobMasks ≠ []) := by
  unfold collateTeacherLogprobs rolloutAt at collated
  cases located : rollouts[row.index]? with
  | none => simp [located] at collated
  | some rollout =>
    have teacher : teacherOf rollouts results row.index =
        results rollout.teacherResultUuid := by
      rw [teacherOf, located, Option.bind_some]
    simp only [located] at collated
    rw [teacher, maskLeft, teacher]
    split at collated
    case h_1 => cases collated
    case h_2 =>
      split at collated
      case isTrue prompt =>
        split at collated
        case isTrue => cases collated
        case isFalse filled =>
          cases collated
          exact ⟨rfl, (if_pos prompt).symm, fun _ => filled⟩
      case isFalse noPrompt =>
        rw [if_neg noPrompt]
        split at collated
        case isTrue missing =>
          cases collated
          have isNone := Option.isNone_iff_eq_none.mp missing
          exact ⟨isNone.symm, (if_pos isNone).symm, fun prompt => absurd prompt noPrompt⟩
        case isFalse taught =>
          cases collated
          exact ⟨rfl, (if_neg fun isNone => taught (Option.isNone_iff_eq_none.mpr isNone)).symm,
            fun prompt => absurd prompt noPrompt⟩

variable (config rollouts results policyInput) in
def IsCollated (pairing : Nat → Nat) (samples : List RLPolicyInput) (position : Nat) : Prop :=
  samples[position]? = some (collatedSample config rollouts results policyInput
      ⟨position, pairing position⟩) ∧
    (config.includePrompt = true → (packedSample rollouts policyInput position).logprobMasks ≠ [])

variable (config rollouts results policyInput) in
def MasksKept (pairing : Nat → Nat) (samples : List RLPolicyInput) : Prop :=
  ∀ position, samples[position]? = (rollouts.map policyInput)[position]? ∨
    IsCollated config rollouts results policyInput pairing samples position

variable {pairing : Nat → Nat}

theorem collated_of_collateTeacherLogprobs
    (kept : MasksKept config rollouts results policyInput pairing samples)
    {row : BatchRow} (paired : row.index = pairing row.position) {input : RLPolicyInput}
    (found : samples[row.position]? = some input) {teacherLogprobs : Option (List (List Value))}
    (collated : collateTeacherLogprobs config rollouts results
      ⟨row.position, input⟩ row.index = .ok (teacherLogprobs, masks)) :
    { input with logprobMasks := masks } =
        collatedSample config rollouts results policyInput
          ⟨row.position, pairing row.position⟩ ∧
      (config.includePrompt = true →
        (packedSample rollouts policyInput row.position).logprobMasks ≠ []) := by
  obtain ⟨position, index⟩ := row
  simp only at paired found collated
  subst paired
  obtain ⟨-, rfl, readable⟩ := @collateTeacherLogprobs_ok Value config rollouts
    results ⟨position, pairing position⟩ input _ _ collated
  rcases kept position with untouched | ⟨same, filled⟩
  · rw [found] at untouched
    have packed : packedSample rollouts policyInput position = input := by
      rw [packedSample, ← untouched, Option.getD_some]
    rw [collatedSample, packed]
    exact ⟨rfl, readable⟩
  · rw [found, Option.some.injEq] at same
    subst same
    exact ⟨congrArg (RLPolicyInput.mk _) (maskLeft_maskLeft filled), filled⟩

theorem collateTeacherRows_ok {rows : List BatchRow}
    {left : List RLPolicyInput} {teachers : List (Option (List (List Value)))}
    (kept : MasksKept config rollouts results policyInput pairing samples)
    (paired : ∀ row ∈ rows, row.index = pairing row.position)
    (collated : collateTeacherRows config rollouts results rows samples =
      .ok (left, teachers)) :
    MasksKept config rollouts results policyInput pairing left ∧
      (∀ position,
        IsCollated config rollouts results policyInput pairing samples position →
        IsCollated config rollouts results policyInput pairing left position) ∧
      (∀ row ∈ rows,
        IsCollated config rollouts results policyInput pairing left
          row.position) ∧
      teachers = rows.map fun row => teacherOf rollouts results row.index := by
  induction rows generalizing samples left teachers with
  | nil =>
    cases collated
    exact ⟨kept, fun _ before => before, by simp, rfl⟩
  | cons row rows ih =>
    obtain ⟨first, others⟩ := forall_mem_cons.mp paired
    rw [collateTeacherRows] at collated
    cases found : samples[row.position]? with
    | none => simp [found] at collated
    | some input =>
      simp only [found] at collated
      cases read : collateTeacherLogprobs config rollouts results
          ⟨row.position, input⟩ row.index with
      | error exn => simp [read] at collated
      | ok result =>
        obtain ⟨teacherLogprobs, masks⟩ := result
        simp only [read] at collated
        obtain ⟨isLeft, filled⟩ := collated_of_collateTeacherLogprobs kept first found read
        have inside := (List.getElem?_eq_some_iff.mp found).1
        have here : IsCollated config rollouts results policyInput pairing
            (samples.set row.position { input with logprobMasks := masks })
            row.position :=
          ⟨by rw [getElem?_set_self inside, isLeft], filled⟩
        have stays : ∀ position,
            IsCollated config rollouts results policyInput pairing samples position →
            IsCollated config rollouts results policyInput pairing
              (samples.set row.position { input with logprobMasks := masks })
              position := by
          intro position before
          by_cases same : row.position = position
          · exact same ▸ here
          · exact ⟨(getElem?_set_ne same).trans before.1, before.2⟩
        have keptHere : MasksKept config rollouts results policyInput
            pairing (samples.set row.position { input with logprobMasks := masks }) := by
          intro position
          by_cases same : row.position = position
          · exact .inr (same ▸ here)
          · exact (kept position).imp
              (fun untouched => (getElem?_set_ne same).trans untouched)
              (stays position)
        cases rest : collateTeacherRows config rollouts results rows
            (samples.set row.position { input with logprobMasks := masks }) with
        | error exn => simp [rest, Except.map] at collated
        | ok result =>
          simp only [rest, Except.map, Except.ok.injEq, Prod.mk.injEq] at collated
          obtain ⟨rfl, rfl⟩ := collated
          obtain ⟨keptLeft, staysLeft, allLeft, teachersLeft⟩ := ih keptHere others rest
          refine ⟨keptLeft, fun position before => staysLeft position
            (stays position before), ?_, ?_⟩
          · exact forall_mem_cons.mpr ⟨staysLeft _ here, allLeft⟩
          · rw [map_cons, teachersLeft, (collateTeacherLogprobs_ok read).1]

variable (config rollouts results policyInput) in
structure FromPacker (collated : CollatedMiniBatch Value) : Prop where
  samples : collated.samples =
    collated.visit.rows.map (collatedSample config rollouts results policyInput)
  teacherLogprobs : collated.teacherLogprobs =
    collated.visit.rows.map fun row => teacherOf rollouts results row.index

/-- A visit collates from the samples of the data packer, whatever visits came before. -/
theorem visitMiniBatch_fromPacker
    {visit : MiniBatchVisit} (paired : ∀ row ∈ visit.rows, row.index = pairing row.position)
    {state : DistillationState Value}
    (kept : MasksKept config rollouts results policyInput pairing
      state.processedSamples) (sound : ∀ collated ∈ state.collated,
      FromPacker config rollouts results policyInput collated) :
    MasksKept config rollouts results policyInput pairing
        (visitMiniBatch config rollouts results visit
          state).state.processedSamples ∧
      ∀ collated ∈ (visitMiniBatch config rollouts results visit
          state).state.collated,
        FromPacker config rollouts results policyInput collated := by
  unfold visitMiniBatch
  split
  case isTrue => exact ⟨kept, sound⟩
  case isFalse =>
    cases read : collateTeacherRows config rollouts results visit.rows
        state.processedSamples with
    | error exn => exact ⟨kept, sound⟩
    | ok result =>
      obtain ⟨left, teachers⟩ := result
      obtain ⟨keptLeft, -, allLeft, isTeachers⟩ := collateTeacherRows_ok kept paired read
      refine ⟨keptLeft, fun collated member => ?_⟩
      rcases mem_append.mp member with before | new
      · exact sound collated before
      · rw [mem_singleton.mp new]
        refine ⟨?_, isTeachers⟩
        rw [← filterMap_eq_map]
        apply filterMap_congr
        intro row inRows
        have isLeft := (allLeft row inRows).1
        rw [← paired row inRows] at isLeft
        exact isLeft

end Masks

end CosmosRl.Policy
