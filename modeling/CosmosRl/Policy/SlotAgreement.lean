import CosmosRl.Policy.SlotRoutes

/-!
When the mini-batches of a step agree on their slots.

The lists are as long as `batch_size // mini_batch_size`, although the mini-batches come from
a ceiling for every chunk or from a balancing.  In a pipeline, the phases before the training
phase leave every mini-batch at the first slot.
-/

namespace CosmosRl.Policy

open CosmosRl.Data CosmosRl.Foundation List
open CosmosRl.Dispatcher (PyError)

/-- Every mini-batch has one slot in all phases and mu-iterations, no other mini-batch uses
it, and it is one of the list. -/
structure SlotsAgree (length : Nat) (uses : List SlotUse) : Prop where
  sameSlot : ∀ first ∈ uses, ∀ second ∈ uses,
    first.miniBatch = second.miniBatch → first.index = second.index
  ownSlot : ∀ first ∈ uses, ∀ second ∈ uses,
    first.index = second.index → first.miniBatch = second.miniBatch
  inside : ∀ use ∈ uses, use.index < length

section Rank

variable {Value : Type} [Zero Value] [LT Value] [DecidableLT Value]
  (config : SlotConfig) (rollouts : List (Rollout Value))
  (results : String → Option (List (List Value)))
  (policyInput : Rollout Value → RLPolicyInput) (gathered : Nat → Nat)

def usesLists (config : SlotConfig) : Bool :=
  match config.pipeline with
  | none => true
  | some pipeline => pipeline.isLastStage

def slotCapacity (phase : TrainerPhase) : Nat :=
  if config.pipeline.isSome ∧ phase ≠ .train then 1 else numMiniBatch config.grpo rollouts.length

/-- The step does not come to its mini-batches, it does not use the lists, or its first pass
meets no more mini-batches than it has slots for. -/
def SlotsSuffice : Prop :=
  checkSizes config rollouts ≠ none ∨ usesLists config = false ∨
    ∀ pass ∈ (slotPasses config rollouts).head?,
      (passRoute config rollouts results policyInput gathered pass.1
        false).visited.length ≤ slotCapacity config rollouts pass.1

def PlacedIn (ids : List MiniBatchId) (uses : List SlotUse) : Prop :=
  ∀ use ∈ uses, ids[use.index]? = some use.miniBatch

variable {ids : List MiniBatchId}

theorem PlacedIn.slotsAgree {uses : List SlotUse} {length : Nat}
    (placed : PlacedIn ids uses) (distinct : ids.Nodup) (fits : ids.length ≤ length) :
    SlotsAgree length uses where
  sameSlot first inFirst second inSecond same := by
    have one := placed first inFirst
    rw [same] at one
    exact (List.getElem?_inj (List.getElem?_eq_some_iff.mp one).1 distinct).mp
      (one.trans (placed second inSecond).symm)
  ownSlot first inFirst second inSecond same := by
    have one := placed first inFirst
    rw [same, placed second inSecond, Option.some.injEq] at one
    exact one.symm
  inside use member := Nat.lt_of_lt_of_le (List.getElem?_eq_some_iff.mp (placed use member)).1 fits

theorem slotsAgree_nil (length : Nat) : SlotsAgree length [] :=
  ⟨by simp, by simp, by simp⟩

/-- A rank that does not use the lists keeps to that through all loops. -/
theorem uses_slotStep_eq_nil (unused : usesLists config = false) :
    (slotStep config rollouts results policyInput gathered).state.uses = [] := by
  let Unused (slots : StepSlots Value) : Prop := slots.uses = []
  have rounds : ∀ phase iMu round, ∀ slots : StepSlots Value, Unused slots →
      Unused (slotRound config rollouts results phase iMu round slots).state := by
    intro phase iMu round slots none
    have idle : useSlots config rollouts phase iMu round.1 slots = .ok slots := by
      unfold useSlots
      unfold usesLists at unused
      split
      case h_1 single => simp [single] at unused
      case h_2 pipeline piped =>
        rw [piped] at unused
        exact if_neg (by simp [unused])
    unfold slotRound
    split
    · exact none
    · split
      · exact none
      · rw [idle, Outcome.ok_andThen]
        exact (endRound_spec slots).1.trans none
  have chunks : ∀ phase iMu i, ∀ slots : StepSlots Value, Unused slots →
      Unused (slotChunk config rollouts results policyInput gathered phase iMu i
        slots).state := by
    intro phase iMu i slots none
    unfold slotChunk
    split
    · exact none
    · refine @Outcome.andThen_preserves PyError (StepSlots Value) Unused _ _ ?_ ?_
      · exact @Outcome.forEach_preserves PyError (StepSlots Value) _ Unused _ _
          (fun round _ => rounds phase iMu round) _ none
      · intro next none
        unfold endChunk
        split <;> exact none
  unfold slotStep
  split
  · rfl
  · refine @Outcome.forEach_preserves PyError (StepSlots Value) _ Unused _ _ ?_ _ rfl
    intro pass _ slots none
    exact @Outcome.forEach_preserves PyError (StepSlots Value) _ Unused _ _
      (fun i _ => chunks pass.1 pass.2 i) _ none

variable {config rollouts results policyInput gathered} {phase : TrainerPhase}

section

omit [Zero Value] [LT Value] [DecidableLT Value]

/-- The first pass is a first mu-iteration.  If it is one of the training phase, there is no
other phase. -/
theorem first_pass {first : TrainerPhase × Nat} {rest : List (TrainerPhase × Nat)}
    (passes : slotPasses config rollouts = first :: rest) :
    first.2 = 0 ∧ (first.1 = .train →
      needComputeOldAhead config.grpo rollouts.length = false ∧
        ∀ pass ∈ rest, pass.1 = .train) := by
  unfold slotPasses trainerPhases at passes
  cases reference : config.grpo.needComputeRef with
  | true =>
    rw [reference] at passes
    simp only [if_true, cons_append, flatMap_cons] at passes
    cases passes
    exact ⟨rfl, fun train => by cases train⟩
  | false =>
    rw [reference] at passes
    cases old : needComputeOldAhead config.grpo rollouts.length with
    | true =>
      rw [old] at passes
      simp only [if_true, cons_append, flatMap_cons, Bool.false_eq_true, if_false,
        nil_append] at passes
      cases passes
      exact ⟨rfl, fun train => by cases train⟩
    | false =>
      rw [old] at passes
      simp only [Bool.false_eq_true, if_false, nil_append, flatMap_cons,
        flatMap_nil, append_nil, if_true, range_eq_range'] at passes
      cases rounds : config.grpo.muIterations with
      | zero =>
        rw [rounds] at passes
        cases passes
      | succ rounds' =>
        rw [rounds, range'_succ, map_cons, List.cons.injEq] at passes
        obtain ⟨rfl, rfl⟩ := passes
        refine ⟨rfl, fun _ => ⟨rfl, fun pass member => ?_⟩⟩
        obtain ⟨iMu, -, rfl⟩ := mem_map.mp member
        rfl

theorem numMiniBatch_pos (checked : checkSizes config rollouts = none) :
    0 < numMiniBatch config.grpo rollouts.length := by
  have sized : miniBatchSize config.grpo rollouts.length ≠ 0 := by
    intro zero
    rw [checkSizes, if_pos zero] at checked
    cases checked
  refine Nat.div_pos ?_ (Nat.pos_of_ne_zero sized)
  unfold miniBatchSize perOptimizeBatchSize
  split <;> split <;> (try split) <;> omega

theorem slotCapacity_le (checked : checkSizes config rollouts = none) (phase : TrainerPhase) :
    slotCapacity config rollouts phase ≤ numMiniBatch config.grpo rollouts.length := by
  unfold slotCapacity
  split
  · exact numMiniBatch_pos checked
  · exact Nat.le_refl _

end

theorem stride_mul_place {count place : Nat}
    (single : slotStride config phase = 0 → count ≤ 1) (inside : place < count) :
    slotStride config phase * place = place := by
  unfold slotStride at single ⊢
  split
  case isTrue still =>
    rw [if_pos still] at single
    have one := single rfl
    omega
  case isFalse => exact Nat.one_mul place

omit [Zero Value] [LT Value] [DecidableLT Value] in
theorem Follows.placedIn {route : Route MiniBatchId} {before : StepSlots Value}
    {outcome : Outcome PyError (StepSlots Value)}
    (follows : Follows config phase route before outcome) (placed : PlacedIn ids before.uses)
    (start : before.localMiniStep = 0) (along : route.visited <+: ids)
    (single : slotStride config phase = 0 → ids.length ≤ 1) :
    PlacedIn ids outcome.state.uses := by
  obtain ⟨new, isNew, newPlaced⟩ := follows.uses
  intro use member
  rw [isNew, mem_append] at member
  rcases member with early | late
  · exact placed use early
  · obtain ⟨place, met, index⟩ := newPlaced use late
    have found := getElem?_of_prefix along met
    rw [index, start, Nat.zero_add,
      stride_mul_place single (List.getElem?_eq_some_iff.mp found).1, found]

theorem slotPasses_placedIn {passes : List (TrainerPhase × Nat)} {slots : StepSlots Value}
    (isIds : ids = allKeptIds config rollouts results policyInput gathered)
    (single : ∀ pass ∈ passes, slotStride config pass.1 = 0 → ids.length ≤ 1)
    (sound : CacheSound config.grpo rollouts policyInput gathered slots.progress)
    (placed : PlacedIn ids slots.uses) :
    PlacedIn ids (Outcome.forEach
      (slotPass config rollouts results policyInput gathered) passes
      slots).state.uses := by
  induction passes generalizing slots with
  | nil => exact placed
  | cons pass rest ih =>
    obtain ⟨first, others⟩ := forall_mem_cons.mp single
    obtain ⟨follows, keeps⟩ := @slotPass_follows Value _ _ _ config rollouts
      results policyInput gathered pass.1 pass.2 _ slots sound rfl
    have here : PlacedIn ids (slotPass config rollouts results policyInput
        gathered pass slots).state.uses :=
      follows.placedIn placed rfl (isIds ▸ (passRoute_along ..).isPrefix) first
    rw [Outcome.forEach_cons]
    rcases Outcome.andThen_cases (slotPass config rollouts results policyInput
        gathered pass slots) (Outcome.forEach (slotPass config rollouts results
        policyInput gathered) rest) with ⟨-, same⟩ | ⟨finished, same⟩
    · rw [same]
      exact here
    · rw [same]
      exact ih others (keeps finished) here

omit [Zero Value] [LT Value] [DecidableLT Value] in
theorem cacheSound_initialSlots :
    CacheSound config.grpo rollouts policyInput gathered
      (initialSlots config rollouts).progress := by
  intro step arrangement found
  simp [initialSlots, initialProgress] at found

theorem slotsAgree_of_suffice
    (suffice : SlotsSuffice config rollouts results policyInput gathered) :
    SlotsAgree (numMiniBatch config.grpo rollouts.length)
      (slotStep config rollouts results policyInput gathered).state.uses := by
  cases checked : checkSizes config rollouts with
  | some exn =>
    rw [slotStep, checked]
    exact slotsAgree_nil _
  | none =>
    rcases suffice with failed | unused | fits
    · exact absurd checked failed
    · rw [uses_slotStep_eq_nil config rollouts results policyInput gathered unused]
      exact slotsAgree_nil _
    · rw [slotStep, checked]
      simp only
      cases passes : slotPasses config rollouts with
      | nil => exact slotsAgree_nil _
      | cons pass rest =>
        have within := fits pass (by rw [passes]; rfl)
        obtain ⟨follows, keeps⟩ := @slotPass_follows Value _ _ _ config rollouts
          results policyInput gathered pass.1 pass.2 false
          (initialSlots config rollouts) cacheSound_initialSlots rfl
        have along := passRoute_along config rollouts results policyInput
          gathered pass.1 false
        have distinct := nodup_allKeptIds config rollouts results policyInput
          gathered
        have single : slotStride config pass.1 = 0 →
            (passRoute config rollouts results policyInput gathered pass.1
              false).visited.length ≤ 1 := by
          intro still
          unfold slotCapacity at within
          unfold slotStride at still
          split at still
          · rename_i piped
            rwa [if_pos piped] at within
          · cases still
        have room := Nat.le_trans within (slotCapacity_le checked pass.1)
        have empty : PlacedIn (passRoute config rollouts results policyInput
            gathered pass.1 false).visited
            (StepSlots.restarted (initialSlots config rollouts)).uses := by
          intro use member
          cases member
        have here := follows.placedIn empty rfl (prefix_refl _) single
        rw [Outcome.forEach_cons]
        rcases Outcome.andThen_cases (slotPass config rollouts results
            policyInput gathered pass (initialSlots config rollouts)) (Outcome.forEach
            (slotPass config rollouts results policyInput gathered) rest) with
          ⟨-, same⟩ | ⟨finished, same⟩
        · rw [same]
          exact here.slotsAgree (distinct.sublist along.isPrefix.sublist) room
        · have whole := along.whole (follows.goesOn finished)
          rw [same]
          rw [whole] at here room single
          refine (slotPasses_placedIn rfl ?_ (keeps finished) here).slotsAgree distinct room
          intro later member still
          apply single
          unfold slotStride at still ⊢
          split at still
          case isTrue piped =>
            exact if_pos ⟨piped.1, fun train =>
              piped.2 (((first_pass passes).2 train).2 later member)⟩
          case isFalse => cases still

end Rank

end CosmosRl.Policy
