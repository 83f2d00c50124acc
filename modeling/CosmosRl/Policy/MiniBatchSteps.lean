import CosmosRl.Policy.MiniBatches

/-!
Running the mini-batches of a step: what a run that does not fail has trained, and that a
run whose mini-batches can all be read, and are few enough, does not fail.
-/

namespace CosmosRl.Policy

open CosmosRl.Data CosmosRl.Foundation CosmosRl.Utils List
open CosmosRl.Dispatcher (PyError)

section Runs

variable {Value : Type} [Zero Value] [LT Value] [DecidableLT Value]
  (config : GrpoConfig) (rollouts : List (Rollout Value))
  (results : String → Option (List (List Value)))

def keptMiniBatches (miniBatches : List (List ProcessedSample × List Nat)) :
    List (List ProcessedSample × List Nat) :=
  miniBatches.filter fun miniBatch =>
    !skipsMiniBatch config rollouts results miniBatch.2

def pairsOf (miniBatches : List (List ProcessedSample × List Nat)) : List (Nat × Nat) :=
  miniBatches.flatMap fun miniBatch =>
    (miniBatch.1.zip miniBatch.2).map fun entry => (entry.1.position, entry.2)

def Readable (miniBatch : List ProcessedSample × List Nat) : Prop :=
  ∃ signals, readSignals config rollouts results miniBatch.1 miniBatch.2 =
    .ok signals

variable {miniBatch : List ProcessedSample × List Nat} {iMu : Nat} {steps : MiniSteps Value}
  {miniBatches done rest : List (List ProcessedSample × List Nat)} {phase : TrainerPhase}
  {steps' : MiniSteps Value}

theorem readable_iff (sameLength : miniBatch.1.length = miniBatch.2.length) :
    Readable config rollouts results miniBatch ↔
      ∀ entry ∈ miniBatch.1.zip miniBatch.2, ∃ signals,
        signalsOf config rollouts results entry.1 entry.2 = .ok signals := by
  rw [Readable, ← exists_mapM_ok_iff fun entry : ProcessedSample × Nat =>
    signalsOf config rollouts results entry.1 entry.2]
  refine exists_congr fun signals => ?_
  rw [readSignals_eq_ok_iff config rollouts results _ _ sameLength, mapM_eq_ok_iff]

def TrainedSample.origin (entry : TrainedSample Value) : Nat × Nat :=
  (entry.position, entry.signals.rollout)

theorem map_origin_sublist (samples : List ProcessedSample) (indices : List Nat)
    (signals : List (Signals Value)) (oldLogps : List (OldLogps Value))
    (read : (samples.zip indices).map (fun entry =>
      signalsOf config rollouts results entry.1 entry.2) = signals.map .ok) :
    (((samples.zip (signals.zip oldLogps)).map fun entry =>
        (⟨entry.1.position, entry.2.1, entry.2.2⟩ : TrainedSample Value)).map
          TrainedSample.origin).Sublist
      ((samples.zip indices).map fun entry => (entry.1.position, entry.2)) := by
  induction samples generalizing indices signals oldLogps with
  | nil => simp
  | cons sample samples ih =>
    cases indices with
    | nil =>
      have none : signals = [] := by simpa using read.symm
      simp [none]
    | cons index indices =>
      cases signals with
      | nil => cases read
      | cons signal signals =>
        cases oldLogps with
        | nil => simp
        | cons oldLogp oldLogps =>
          obtain ⟨head, rest⟩ := List.cons.inj read
          have same := signalsOf_rollout config rollouts results head
          simp only [zip_cons_cons, map_cons, TrainedSample.origin, same]
          exact (ih indices signals oldLogps rest).cons_cons _

/-- One round: the mini-batch is skipped, or its signals are read and the step counter
moves on within the bound. -/
theorem forwardMiniBatch_ok {samples : List ProcessedSample} {indices : List Nat}
    (sameLength : samples.length = indices.length)
    (slots : steps.oldPerTokenLogps.length = numMiniBatch config rollouts.length)
    (forwarded : forwardMiniBatch config rollouts results phase iMu steps
      samples indices = .ok steps') :
    (skipsMiniBatch config rollouts results indices = true ∧
        steps' = steps) ∨
      (skipsMiniBatch config rollouts results indices = false ∧
        Readable config rollouts results (samples, indices) ∧
        steps'.oldPerTokenLogps.length = numMiniBatch config rollouts.length ∧
        steps'.localMiniStep = steps.localMiniStep + 1 ∧
        steps.localMiniStep < numMiniBatch config rollouts.length ∧
        (phase = .train → ∃ entries, steps'.trained = steps.trained ++ entries ∧
          (entries.map TrainedSample.origin).Sublist
            ((samples.zip indices).map fun entry => (entry.1.position, entry.2)))) := by
  rw [forwardMiniBatch] at forwarded
  cases skipped : skipsMiniBatch config rollouts results indices with
  | true =>
    rw [skipped, if_pos rfl, Except.ok.injEq] at forwarded
    exact Or.inl ⟨rfl, forwarded.symm⟩
  | false =>
    refine Or.inr ⟨rfl, ?_⟩
    rw [skipped, if_neg (by simp)] at forwarded
    cases signalsRead : readSignals config rollouts results samples
        indices with
    | error exn => simp [signalsRead] at forwarded
    | ok signals =>
      have read := (readSignals_eq_ok_iff config rollouts results samples
        indices sameLength signals).mp signalsRead
      simp only [signalsRead] at forwarded
      refine ⟨⟨signals, signalsRead⟩, ?_⟩
      cases phase with
      | refCompute =>
        simp only at forwarded
        split at forwarded
        case isFalse => cases forwarded
        case isTrue within =>
          cases forwarded
          exact ⟨slots, rfl, within, fun isTrain => by cases isTrain⟩
      | oldLogpCompute =>
        simp only at forwarded
        split at forwarded
        case isFalse => cases forwarded
        case isTrue within =>
          cases forwarded
          refine ⟨?_, rfl, by rwa [slots] at within, fun isTrain => by cases isTrain⟩
          rw [length_set, slots]
      | train =>
        have sublist := fun oldLogps => map_origin_sublist config rollouts
          results samples indices signals oldLogps read
        simp only at forwarded
        cases slot : steps.oldPerTokenLogps[steps.localMiniStep]? with
        | none => simp [slot] at forwarded
        | some content =>
          have within : steps.localMiniStep <
              numMiniBatch config rollouts.length := by
            rw [← slots]
            exact (List.getElem?_eq_some_iff.mp slot).1
          cases content with
          | none =>
            simp only [slot] at forwarded
            split at forwarded
            case isFalse => cases forwarded
            case isTrue =>
              cases forwarded
              refine ⟨?_, rfl, within, fun _ => ⟨_, rfl, sublist _⟩⟩
              rw [trainMiniBatch, length_set, slots]
          | some oldLogps =>
            simp only [slot] at forwarded
            split at forwarded
            case isFalse => cases forwarded
            case isTrue =>
              cases forwarded
              exact ⟨slots, rfl, within, fun _ => ⟨_, rfl, sublist _⟩⟩

/-- A run over mini-batches reads the signals of all that are kept, moves within the
bound, and trains samples of them only. -/
theorem forwardMiniBatches_ok
    (sameLength : ∀ miniBatch ∈ miniBatches, miniBatch.1.length = miniBatch.2.length)
    (slots : steps.oldPerTokenLogps.length = numMiniBatch config rollouts.length)
    (bounded : steps.localMiniStep ≤ numMiniBatch config rollouts.length)
    (forwarded : forwardMiniBatches config rollouts results phase iMu steps
      miniBatches = .ok steps') :
    steps'.oldPerTokenLogps.length = numMiniBatch config rollouts.length ∧
      steps.localMiniStep +
          (keptMiniBatches config rollouts results miniBatches).length ≤
        numMiniBatch config rollouts.length ∧
      (∀ miniBatch ∈ keptMiniBatches config rollouts results miniBatches,
        Readable config rollouts results miniBatch) ∧
      (phase = .train → ∃ entries, steps'.trained = steps.trained ++ entries ∧
        (entries.map TrainedSample.origin).Sublist
          (pairsOf (keptMiniBatches config rollouts results
            miniBatches))) := by
  induction miniBatches generalizing steps with
  | nil =>
    rw [forwardMiniBatches, Except.ok.injEq] at forwarded
    subst forwarded
    refine ⟨slots, by simpa [keptMiniBatches] using bounded, by simp [keptMiniBatches],
      fun _ => ⟨[], by simp, by simp⟩⟩
  | cons miniBatch miniBatches ih =>
    obtain ⟨samples, indices⟩ := miniBatch
    rw [forall_mem_cons] at sameLength
    rw [forwardMiniBatches] at forwarded
    cases first : forwardMiniBatch config rollouts results phase iMu steps
        samples indices with
    | error exn => simp [first] at forwarded
    | ok middle =>
      simp only [first] at forwarded
      rcases forwardMiniBatch_ok config rollouts results sameLength.1 slots
        first with ⟨skipped, rfl⟩ | ⟨kept, signals, middleSlots, moved, within, trained⟩
      · have later := ih sameLength.2 slots bounded forwarded
        have same : keptMiniBatches config rollouts results
            ((samples, indices) :: miniBatches) =
              keptMiniBatches config rollouts results miniBatches := by
          simp [keptMiniBatches, skipped]
        rw [same]
        exact later
      · obtain ⟨laterSlots, laterBound, laterSignals, laterTrained⟩ :=
          ih sameLength.2 middleSlots (by omega) forwarded
        have more : keptMiniBatches config rollouts results
            ((samples, indices) :: miniBatches) = (samples, indices) ::
              keptMiniBatches config rollouts results miniBatches := by
          simp [keptMiniBatches, kept]
        rw [more]
        refine ⟨laterSlots, ?_, ?_, ?_⟩
        · rw [length_cons]
          omega
        · rw [forall_mem_cons]
          exact ⟨signals, laterSignals⟩
        · intro isTrain
          obtain ⟨entries, appended, origins⟩ := trained isTrain
          obtain ⟨laterEntries, laterAppended, laterOrigins⟩ := laterTrained isTrain
          refine ⟨entries ++ laterEntries, ?_, ?_⟩
          · rw [laterAppended, appended, append_assoc]
          · rw [map_append, pairsOf, flatMap_cons]
            exact origins.append laterOrigins

theorem forwardMiniBatches_append (phase : TrainerPhase) (iMu : Nat)
    (steps : MiniSteps Value) (front back : List (List ProcessedSample × List Nat)) :
    forwardMiniBatches config rollouts results phase iMu steps
        (front ++ back) =
      match forwardMiniBatches config rollouts results phase iMu steps
          front with
      | .error exn => .error exn
      | .ok middle =>
        forwardMiniBatches config rollouts results phase iMu middle
          back := by
  induction front generalizing steps with
  | nil => simp [forwardMiniBatches]
  | cons miniBatch front ih =>
    rw [cons_append, forwardMiniBatches, forwardMiniBatches]
    cases forwardMiniBatch config rollouts results phase iMu steps
        miniBatch.1 miniBatch.2 with
    | error exn => rfl
    | ok middle => exact ih middle

def signalsRead (miniBatch : List ProcessedSample × List Nat) : List (Signals Value) :=
  match readSignals config rollouts results miniBatch.1 miniBatch.2 with
  | .error _ => []
  | .ok signals => signals

theorem Readable.readSignals_eq
    (readable : Readable config rollouts results miniBatch) :
    readSignals config rollouts results miniBatch.1 miniBatch.2 =
      .ok (signalsRead config rollouts results miniBatch) := by
  obtain ⟨signals, read⟩ := readable
  rw [signalsRead, read]

/-- What stands in `old_per_token_logps` for a mini-batch. -/
def oldLogpsOf (miniBatch : List ProcessedSample × List Nat) : List (OldLogps Value) :=
  freshOldLogps config miniBatch.1
    (signalsRead config rollouts results miniBatch)

def trainedOf (miniBatch : List ProcessedSample × List Nat) :
    List (TrainedSample Value) :=
  (miniBatch.1.zip ((signalsRead config rollouts results miniBatch).zip
    (oldLogpsOf config rollouts results miniBatch))).map
      fun (sample, signals, oldLogps) => ⟨sample.position, signals, oldLogps⟩

/-- The slots of `old_per_token_logps` after the first mini-batches. -/
def filledSlots (miniBatches : List (List ProcessedSample × List Nat)) :
    List (Option (List (OldLogps Value))) :=
  (miniBatches.map fun miniBatch =>
      some (oldLogpsOf config rollouts results miniBatch)) ++
    List.replicate (numMiniBatch config rollouts.length - miniBatches.length) none

theorem getElem?_filledSlots_next (miniBatch : List ProcessedSample × List Nat) :
    (filledSlots config rollouts results
        (done ++ miniBatch :: rest))[done.length]? =
      some (some (oldLogpsOf config rollouts results miniBatch)) := by
  rw [filledSlots, map_append, append_assoc, getElem?_append_right
    (by rw [length_map]), length_map, Nat.sub_self]
  rfl

theorem getElem?_filledSlots_free (room : done.length < numMiniBatch config rollouts.length) :
    (filledSlots config rollouts results done)[done.length]? =
      some none := by
  rw [filledSlots, getElem?_append_right (by rw [length_map]), length_map,
    Nat.sub_self, getElem?_replicate, if_pos (by omega)]

theorem set_filledSlots (room : done.length < numMiniBatch config rollouts.length)
    (miniBatch : List ProcessedSample × List Nat) :
    (filledSlots config rollouts results done).set done.length
        (some (oldLogpsOf config rollouts results miniBatch)) =
      filledSlots config rollouts results (done ++ [miniBatch]) := by
  obtain ⟨free, more⟩ : ∃ free, numMiniBatch config rollouts.length - done.length =
      free + 1 := ⟨numMiniBatch config rollouts.length - done.length - 1, by omega⟩
  have fewer : numMiniBatch config rollouts.length - (done.length + 1) = free := by omega
  rw [filledSlots, filledSlots, more, set_append_right _ _ (by rw [length_map]),
    length_map, Nat.sub_self, replicate_succ, set_cons_zero, length_append,
    length_singleton, fewer, map_append, append_assoc]
  rfl

def advance (steps : MiniSteps Value)
    (slots : List (Option (List (OldLogps Value))))
    (miniBatches : List (List ProcessedSample × List Nat)) : MiniSteps Value :=
  { oldPerTokenLogps := slots
    localMiniStep := steps.localMiniStep + miniBatches.length
    allReducedBound := steps.allReducedBound || !miniBatches.isEmpty
    trained := steps.trained ++
      miniBatches.flatMap (trainedOf config rollouts results) }

/-- In the first mu-iteration the mini-batches fill their slots. -/
theorem forwardMiniBatches_first (readable : ∀ miniBatch ∈ rest,
      Readable config rollouts results miniBatch) (unskipped : ∀ miniBatch ∈ rest,
      skipsMiniBatch config rollouts results miniBatch.2 = false)
    (together : needComputeOldAhead config rollouts.length = false)
    (slots : steps.oldPerTokenLogps =
      filledSlots config rollouts results done)
    (next : steps.localMiniStep = done.length)
    (fits : (done ++ rest).length ≤ numMiniBatch config rollouts.length) :
    forwardMiniBatches config rollouts results .train 0 steps rest =
      .ok (advance config rollouts results steps
        (filledSlots config rollouts results (done ++ rest)) rest) := by
  induction rest generalizing steps done with
  | nil => simp [forwardMiniBatches, advance, ← slots]
  | cons miniBatch rest ih =>
    rw [forall_mem_cons] at readable unskipped
    have room : done.length < numMiniBatch config rollouts.length := by
      rw [length_append, length_cons] at fits
      omega
    have round : forwardMiniBatch config rollouts results .train 0 steps
        miniBatch.1 miniBatch.2 =
          .ok (advance config rollouts results steps
            (filledSlots config rollouts results (done ++ [miniBatch]))
            [miniBatch]) := by
      rw [forwardMiniBatch, unskipped.1, if_neg (by simp), readable.1.readSignals_eq, next, slots]
      simp only [getElem?_filledSlots_free config rollouts results room,
        together, and_self, if_true]
      rw [← set_filledSlots config rollouts results room]
      simp [trainMiniBatch, advance, next, trainedOf, oldLogpsOf]
    have later := ih readable.2 unskipped.2
      (show (advance config rollouts results steps
          (filledSlots config rollouts results (done ++ [miniBatch]))
          [miniBatch]).oldPerTokenLogps = _ from rfl)
      (by simp [advance, next]) (by simpa using fits)
    rw [forwardMiniBatches, round]
    simp only
    rw [later]
    simp [advance, Nat.add_assoc, Nat.add_comm 1]

/-- In the other mu-iterations the mini-batches find their slots filled. -/
theorem forwardMiniBatches_later (inner : 0 < iMu)
    (readable : ∀ miniBatch ∈ rest,
      Readable config rollouts results miniBatch) (unskipped : ∀ miniBatch ∈ rest,
      skipsMiniBatch config rollouts results miniBatch.2 = false)
    (slots : steps.oldPerTokenLogps =
      filledSlots config rollouts results (done ++ rest))
    (next : steps.localMiniStep = done.length) :
    forwardMiniBatches config rollouts results .train iMu steps rest =
      .ok (advance config rollouts results steps
        (filledSlots config rollouts results (done ++ rest)) rest) := by
  induction rest generalizing steps done with
  | nil =>
    rw [append_nil] at slots
    simp [forwardMiniBatches, advance, ← slots]
  | cons miniBatch rest ih =>
    rw [forall_mem_cons] at readable unskipped
    have split : done ++ miniBatch :: rest = done ++ [miniBatch] ++ rest := by simp
    have round : forwardMiniBatch config rollouts results .train iMu steps
        miniBatch.1 miniBatch.2 =
          .ok (advance config rollouts results steps
            (filledSlots config rollouts results
              (done ++ miniBatch :: rest)) [miniBatch]) := by
      rw [forwardMiniBatch, unskipped.1, if_neg (by simp), readable.1.readSignals_eq, next, slots]
      simp only [getElem?_filledSlots_next, inner, true_or, if_true]
      simp [trainMiniBatch, advance, next, trainedOf, slots]
    have later := ih readable.2 unskipped.2
      (show (advance config rollouts results steps
          (filledSlots config rollouts results
            (done ++ miniBatch :: rest)) [miniBatch]).oldPerTokenLogps =
          filledSlots config rollouts results (done ++ [miniBatch] ++ rest)
        by rw [← split]; rfl)
      (by simp [advance, next])
    rw [forwardMiniBatches, round]
    simp only
    rw [later, ← split]
    simp [advance, Nat.add_assoc, Nat.add_comm 1]

theorem forwardMiniBatches_reference (readable : ∀ miniBatch ∈ miniBatches,
      Readable config rollouts results miniBatch)
    (unskipped : ∀ miniBatch ∈ miniBatches,
      skipsMiniBatch config rollouts results miniBatch.2 = false)
    (fits : steps.localMiniStep + miniBatches.length ≤
      numMiniBatch config rollouts.length) :
    forwardMiniBatches config rollouts results .refCompute 0 steps
        miniBatches =
      .ok { steps with localMiniStep := steps.localMiniStep + miniBatches.length } := by
  induction miniBatches generalizing steps with
  | nil => rfl
  | cons miniBatch rest ih =>
    rw [forall_mem_cons] at readable unskipped
    rw [length_cons] at fits
    have room : steps.localMiniStep < numMiniBatch config rollouts.length := by omega
    have round : forwardMiniBatch config rollouts results .refCompute 0 steps
        miniBatch.1 miniBatch.2 =
          .ok { steps with localMiniStep := steps.localMiniStep + 1 } := by
      rw [forwardMiniBatch, unskipped.1, if_neg (by simp), readable.1.readSignals_eq]
      simp only [room, if_true]
    rw [forwardMiniBatches, round]
    simp only
    rw [ih readable.2 unskipped.2 (by simp only; omega), length_cons]
    simp only [Nat.add_assoc, Nat.add_comm 1]

end Runs

end CosmosRl.Policy
