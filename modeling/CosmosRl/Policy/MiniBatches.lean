import CosmosRl.Policy.GRPOTrainer
import CosmosRl.Utils.BalancedPartitions

/-!
The mini-batches of a chunk: every sample of the chunk stands in one of them, next to
its index in the chunk, and the signals of a mini-batch are those its indices read one
by one.
-/

namespace CosmosRl.Policy

open CosmosRl.Data CosmosRl.Foundation CosmosRl.Utils List
open CosmosRl.Dispatcher (PyError)

section Signals

variable {Value : Type} [Zero Value] [LT Value] [DecidableLT Value]
  (config : GrpoConfig) (rollouts : List (Rollout Value))
  (teacherInteractResults : String → Option (List (List Value)))

/-- The signals that one sample gets when the arrays are read at `index`. -/
def signalsOf (sample : ProcessedSample) (index : Nat) :
    Except PyError (Signals Value) :=
  match advantageAndFlag config rollouts index with
  | .error exn => .error exn
  | .ok (advantage, flag) =>
    match teacherSignal config rollouts teacherInteractResults sample index with
    | .error exn => .error exn
    | .ok (teacher, masks) =>
      match rolloutLogprobs config rollouts index with
      | .error exn => .error exn
      | .ok decoupled =>
        (rolloutEffectiveLogprobs config rollouts masks index).map fun effective =>
          { rollout := index
            advantage := advantage
            teacherLogprobs := teacher
            rolloutLogprobs := decoupled
            rolloutEffectiveLogprobs := effective
            positiveFlag := flag }

def combineSignals (entry : Nat × (Value × Option Bool) ×
    (Option (List (List Value)) × List Bool) × Option (List Value) × Option (List Value)) :
    Signals Value :=
  { rollout := entry.1
    advantage := entry.2.1.1
    teacherLogprobs := entry.2.2.1.1
    rolloutLogprobs := entry.2.2.2.1
    rolloutEffectiveLogprobs := entry.2.2.2.2
    positiveFlag := entry.2.1.2 }

theorem signalsOf_eq_ok_iff (sample : ProcessedSample) (index : Nat) (signals : Signals Value) :
    signalsOf config rollouts teacherInteractResults sample index = .ok signals ↔
      ∃ advantage teacher decoupled effective,
        advantageAndFlag config rollouts index = .ok advantage ∧
          teacherSignal config rollouts teacherInteractResults sample index = .ok teacher ∧
          rolloutLogprobs config rollouts index = .ok decoupled ∧
          rolloutEffectiveLogprobs config rollouts teacher.2 index = .ok effective ∧
          combineSignals (index, advantage, teacher, decoupled, effective) = signals := by
  rw [signalsOf]
  constructor
  · intro read
    cases advantage : advantageAndFlag config rollouts index with
    | error exn => simp [advantage] at read
    | ok advantageFlag =>
      cases teacher : teacherSignal config rollouts teacherInteractResults sample index with
      | error exn => simp [advantage, teacher] at read
      | ok teacherMasks =>
        cases decoupled : rolloutLogprobs config rollouts index with
        | error exn => simp [advantage, teacher, decoupled] at read
        | ok logprobs =>
          cases effective : rolloutEffectiveLogprobs config rollouts teacherMasks.2 index with
          | error exn =>
            simp [advantage, teacher, decoupled, effective, Except.map] at read
          | ok effectiveLogprobs =>
            simp only [advantage, teacher, decoupled, effective, Except.map,
              Except.ok.injEq] at read
            exact ⟨_, _, _, _, rfl, rfl, rfl, effective, read⟩
  · rintro ⟨advantageFlag, teacherMasks, logprobs, effectiveLogprobs, advantage, teacher,
      decoupled, effective, rfl⟩
    simp only [advantage, teacher, decoupled, effective, Except.map, combineSignals]

theorem signalsOf_rollout {sample : ProcessedSample} {index : Nat} {signals : Signals Value}
    (read : signalsOf config rollouts teacherInteractResults sample index = .ok signals) :
    signals.rollout = index := by
  obtain ⟨_, _, _, _, _, _, _, _, rfl⟩ :=
    (signalsOf_eq_ok_iff config rollouts teacherInteractResults _ _ _).mp read
  rfl

theorem readSignals_eq_ok_iff_exists (samples : List ProcessedSample) (indices : List Nat)
    (signals : List (Signals Value)) :
    readSignals config rollouts teacherInteractResults samples indices = .ok signals ↔
      ∃ (advantages : List (Value × Option Bool))
          (teachers : List (Option (List (List Value)) × List Bool))
          (decoupled effective : List (Option (List Value))),
        indices.map (advantageAndFlag config rollouts) = advantages.map .ok ∧
          ((samples.zip indices).map fun entry =>
            teacherSignal config rollouts teacherInteractResults entry.1 entry.2) =
              teachers.map .ok ∧
          indices.map (rolloutLogprobs config rollouts) = decoupled.map .ok ∧
          ((teachers.zip indices).map fun entry =>
            rolloutEffectiveLogprobs config rollouts entry.1.2 entry.2) =
              effective.map .ok ∧
          (indices.zip (advantages.zip (teachers.zip (decoupled.zip effective)))).map
            combineSignals = signals := by
  simp only [← mapM_eq_ok_iff]
  rw [readSignals]
  constructor
  · intro read
    cases advantages : indices.mapM (advantageAndFlag config rollouts) with
    | error exn => simp [advantages] at read
    | ok advantageFlags =>
      cases teachers : (samples.zip indices).mapM fun entry =>
          teacherSignal config rollouts teacherInteractResults entry.1 entry.2 with
      | error exn => simp [advantages, teachers] at read
      | ok teacherMasks =>
        cases decoupled : indices.mapM (rolloutLogprobs config rollouts) with
        | error exn => simp [advantages, teachers, decoupled] at read
        | ok logprobs =>
          cases effective : (teacherMasks.zip indices).mapM fun entry =>
              rolloutEffectiveLogprobs config rollouts entry.1.2 entry.2 with
          | error exn => simp [advantages, teachers, decoupled, effective] at read
          | ok effectiveLogprobs =>
            simp only [advantages, teachers, decoupled, effective, Except.ok.injEq] at read
            exact ⟨_, _, _, _, rfl, rfl, rfl, effective, read⟩
  · rintro ⟨advantageFlags, teacherMasks, logprobs, effectiveLogprobs, advantages, teachers,
      decoupled, effective, rfl⟩
    simp only [advantages, teachers, decoupled, effective]
    rfl

/-- The passes over a mini-batch read for every index what it gets on its own. -/
theorem readSignals_eq_ok_iff (samples : List ProcessedSample) (indices : List Nat)
    (sameLength : samples.length = indices.length) (signals : List (Signals Value)) :
    readSignals config rollouts teacherInteractResults samples indices = .ok signals ↔
      (samples.zip indices).map (fun entry =>
        signalsOf config rollouts teacherInteractResults entry.1 entry.2) =
          signals.map .ok := by
  rw [readSignals_eq_ok_iff_exists]
  induction samples generalizing indices signals with
  | nil =>
    have none : indices = [] := eq_nil_of_length_eq_zero sameLength.symm
    subst none
    constructor
    · rintro ⟨_, _, _, _, _, _, _, _, rfl⟩
      rfl
    · intro equal
      have none : signals = [] := by simpa using equal.symm
      subst none
      exact ⟨[], [], [], [], rfl, rfl, rfl, rfl, rfl⟩
  | cons sample samples ih =>
    cases indices with
    | nil => cases sameLength
    | cons index indices =>
      have rest := ih indices (by simpa using sameLength)
      constructor
      · rintro ⟨advantages, teachers, decoupled, effective, readAdvantages, readTeachers,
          readDecoupled, readEffective, rfl⟩
        cases advantages with
        | nil => cases readAdvantages
        | cons advantage advantages =>
          cases teachers with
          | nil => cases readTeachers
          | cons teacher teachers =>
            cases decoupled with
            | nil => cases readDecoupled
            | cons logprobs decoupled =>
              cases effective with
              | nil => cases readEffective
              | cons effectiveLogprobs effective =>
                simp only [zip_cons_cons, map_cons, List.cons.injEq] at *
                refine ⟨?_, (rest _).mp ⟨_, _, _, _, readAdvantages.2, readTeachers.2,
                  readDecoupled.2, readEffective.2, rfl⟩⟩
                exact (signalsOf_eq_ok_iff config rollouts teacherInteractResults _ _
                  _).mpr ⟨_, _, _, _, readAdvantages.1, readTeachers.1, readDecoupled.1,
                    readEffective.1, rfl⟩
      · intro equal
        cases signals with
        | nil => cases equal
        | cons signal signals =>
          simp only [zip_cons_cons, map_cons, List.cons.injEq] at equal
          obtain ⟨advantage, teacher, logprobs, effectiveLogprobs, readAdvantage,
            readTeacher, readLogprobs, readEffective, combined⟩ :=
              (signalsOf_eq_ok_iff config rollouts teacherInteractResults _ _ _).mp equal.1
          obtain ⟨advantages, teachers, decoupled, effective, readAdvantages,
            readTeachers, readDecoupled, readEffectives, rfl⟩ := (rest signals).mpr equal.2
          refine ⟨advantage :: advantages, teacher :: teachers, logprobs :: decoupled,
            effectiveLogprobs :: effective, ?_, ?_, ?_, ?_, ?_⟩
          · rw [map_cons, map_cons, readAdvantage, readAdvantages]
          · rw [zip_cons_cons, map_cons, map_cons, readTeacher, readTeachers]
          · rw [map_cons, map_cons, readLogprobs, readDecoupled]
          · rw [zip_cons_cons, map_cons, map_cons, readEffective, readEffectives]
          · simp only [zip_cons_cons, map_cons, combined]

end Signals

section Arrangement

variable {Sample : Type}

/-- A cut of a chunk: every index once, no empty mini-batch, and every mini-batch holds
the samples of its indices. -/
structure Arranges (chunk : List Sample)
    (arrangement : List (List Sample) × List (List Nat)) : Prop where
  sameLength : arrangement.1.length = arrangement.2.length
  aligned : ∀ miniBatch ∈ arrangement.1.zip arrangement.2,
    (miniBatch.2.map fun index => chunk[index]?) = miniBatch.1.map some
  covered : arrangement.2.flatten.Perm (List.range chunk.length)
  nonempty : ∀ indices ∈ arrangement.2, indices ≠ []

variable {chunk : List Sample} {arrangement : List (List Sample) × List (List Nat)}

theorem Arranges.map_snd (arranges : Arranges chunk arrangement) :
    (arrangement.1.zip arrangement.2).map Prod.snd = arrangement.2 :=
  map_snd_zip (Nat.le_of_eq arranges.sameLength.symm)

theorem Arranges.length_eq
    (arranges : Arranges chunk arrangement) {miniBatch : List Sample × List Nat}
    (member : miniBatch ∈ arrangement.1.zip arrangement.2) :
    miniBatch.1.length = miniBatch.2.length := by
  have lengths := congrArg List.length (arranges.aligned miniBatch member)
  rw [length_map, length_map] at lengths
  exact lengths.symm

theorem getElem?_of_mem_zip {samples : List Sample} {indices : List Nat}
    (aligned : (indices.map fun index => chunk[index]?) = samples.map some)
    {sample : Sample} {index : Nat} (member : (sample, index) ∈ samples.zip indices) :
    chunk[index]? = some sample := by
  induction indices generalizing samples with
  | nil => simp at member
  | cons first indices ih =>
    cases samples with
    | nil => simp at member
    | cons head samples =>
      obtain ⟨headAligned, restAligned⟩ := List.cons.inj aligned
      rw [zip_cons_cons, mem_cons] at member
      rcases member with same | member
      · obtain ⟨rfl, rfl⟩ := Prod.mk.inj same
        exact headAligned
      · exact ih restAligned member

theorem flatten_ranges (miniBatch total count : Nat) :
    ((List.range' 0 count miniBatch).map fun i =>
      List.range' i (min (i + miniBatch) total - i)).flatten =
        List.range (min (count * miniBatch) total) := by
  induction count with
  | zero => simp
  | succ count ih =>
    rw [range'_concat, map_append, flatten_append, ih]
    simp only [map_cons, map_nil, flatten_cons, flatten_nil, append_nil, Nat.zero_add]
    rw [Nat.mul_comm miniBatch count, range_eq_range', range_eq_range']
    rcases Nat.le_total (count * miniBatch) total with early | late
    · rw [Nat.min_eq_left early]
      have start : count * miniBatch = 0 + 1 * (count * miniBatch) := by omega
      have stop : min ((count + 1) * miniBatch) total =
          count * miniBatch + (min (count * miniBatch + miniBatch) total -
            count * miniBatch) := by
        rw [Nat.add_mul, Nat.one_mul]
        omega
      rw [stop, ← range'_append_1, Nat.zero_add]
    · have nothing : min (count * miniBatch + miniBatch) total - count * miniBatch = 0 := by
        omega
      have stop : min ((count + 1) * miniBatch) total = min (count * miniBatch) total := by
        rw [Nat.add_mul, Nat.one_mul]
        omega
      rw [nothing, stop, range'_zero, append_nil]

theorem splitMiniBatches_arranges (chunk : List Sample) {miniBatch : Nat}
    (positive : 0 < miniBatch) : Arranges chunk (splitMiniBatches chunk miniBatch) where
  sameLength := by rw [splitMiniBatches, length_map, length_map]
  aligned := by
    rintro ⟨samples, indices⟩ member
    rw [splitMiniBatches, zip_map', mem_map] at member
    obtain ⟨i, _, equal⟩ := member
    obtain ⟨rfl, rfl⟩ := Prod.mk.inj equal
    apply ext_getElem?
    intro offset
    simp only [getElem?_map, getElem?_take, getElem?_drop]
    by_cases inside : offset < min (i + miniBatch) chunk.length - i
    · have within : offset < miniBatch := by omega
      have present : i + offset < chunk.length := by omega
      rw [getElem?_range' inside, if_pos within, Option.map_some, Nat.one_mul,
        getElem?_eq_getElem present, Option.map_some]
    · rw [getElem?_eq_none_iff.mpr (by rw [length_range']; omega)]
      by_cases within : offset < miniBatch
      · rw [if_pos within, getElem?_eq_none_iff.mpr (by omega)]
        rfl
      · rw [if_neg within]
        rfl
  covered := by
    rw [splitMiniBatches]
    simp only
    rw [stridedRange, flatten_ranges]
    have enough : chunk.length ≤ (chunk.length - 0 + miniBatch - 1) / miniBatch * miniBatch := by
      have split := Nat.div_add_mod (chunk.length - 0 + miniBatch - 1) miniBatch
      have remainder := Nat.mod_lt (chunk.length - 0 + miniBatch - 1) positive
      rw [Nat.mul_comm] at split
      omega
    rw [Nat.min_eq_right enough]
  nonempty := by
    intro indices member
    obtain ⟨i, started, rfl⟩ := mem_map.mp member
    have below := ((mem_stridedRange positive).mp started).1
    intro none
    rw [range'_eq_nil_iff] at none
    omega

theorem length_splitMiniBatches (chunk : List Sample) (miniBatch : Nat) :
    (splitMiniBatches chunk miniBatch).2.length =
      (chunk.length + miniBatch - 1) / miniBatch := by
  rw [splitMiniBatches, length_map, stridedRange, length_range', Nat.sub_zero]

theorem rearrangeMiniBatches_arranges {seqLenEffective : List Nat} {maxTokenLen gathered : Nat}
    (sameLength : chunk.length = seqLenEffective.length)
    (rearranged : rearrangeMiniBatches chunk seqLenEffective maxTokenLen gathered =
      .ok arrangement) :
    Arranges chunk arrangement := by
  obtain ⟨_, covered, nonempty, taken⟩ := rearrangeMiniBatches_spec rearranged
  have collected := (mapM_eq_ok_iff _ _ _).mp taken
  refine ⟨length_of_mapM_ok taken, ?_, ?_, nonempty⟩
  · rintro ⟨samples, indices⟩ member
    rw [← takeItems_eq_ok_iff]
    generalize arrangement.1 = miniBatches at collected member
    generalize arrangement.2 = miniBszIdx at collected member
    induction miniBszIdx generalizing miniBatches with
    | nil => simp at member
    | cons first rest ih =>
      cases miniBatches with
      | nil => simp at member
      | cons head others =>
        obtain ⟨headTaken, restTaken⟩ := List.cons.inj collected
        rw [zip_cons_cons, mem_cons] at member
        rcases member with same | member
        · obtain ⟨rfl, rfl⟩ := Prod.mk.inj same
          exact headTaken
        · exact ih others restTaken member
  · rw [sameLength]
    exact covered

end Arrangement

end CosmosRl.Policy
