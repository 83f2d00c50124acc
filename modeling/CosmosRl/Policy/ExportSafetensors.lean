import Mathlib.Algebra.GroupWithZero.Nat
import CosmosRl.Foundation.Dict

/-!
`export_safetensors` of a model without LoRA.

Every pipeline stage gathers its tensors into chunks by a running size and records the file
of each tensor.  The records are merged over the stages, but the chunks of a stage are kept
by its own rank, and only global rank 0 starts the thread that writes them.

The ranks followed are those whose coordinates other than the stage are 0; the first of them
is global rank 0, and the other ranks save nothing.  A tensor is represented by its size.
-/

namespace CosmosRl.Policy

open CosmosRl.Foundation List

/-- `{file_idx:05d}.safetensors` with one stage, and
`model-{pp_rank}-of-{pp_size}-{file_idx:05d}.safetensors` with several. -/
structure FileName where
  ppRank : Nat
  ppSize : Nat
  fileIdx : Nat
  deriving DecidableEq, Repr

/-- A parameter with what `policy_map_local_key_for_export_tensor` makes of it, some of which
may be `None`. -/
structure LocalParam (Name : Type) where
  requiresGrad : Bool
  forExport : List (Name × Option Nat)

variable {Name : Type}

def exportedTensors (trainableOnly : Bool) (params : List (LocalParam Name)) :
    List (Name × Nat) :=
  params.flatMap fun param =>
    if trainableOnly && !param.requiresGrad then []
    else param.forExport.filterMap fun entry => entry.2.map fun size => (entry.1, size)

structure ExportState (Name : Type) where
  currentChunk : Dict Name Nat := ∅
  currentChunkSize : Nat := 0
  totalChunkSize : Nat := 0
  fileIdx : Nat := 0
  manifest : Dict Name FileName := ∅
  cpuChunksToSave : List (FileName × Dict Name Nat) := []

namespace ExportState

variable [DecidableEq Name]

/-- `save_chunked_tensors` for the current chunk. -/
def saveChunkedTensors (fileName : FileName) (state : ExportState Name) : ExportState Name :=
  { state with
    manifest := state.manifest.update (state.currentChunk.keys.map fun name => (name, fileName))
    totalChunkSize := state.totalChunkSize + state.currentChunkSize
    cpuChunksToSave := state.cpuChunksToSave ++ [(fileName, state.currentChunk)] }

def add (maxSizeBytes ppRank ppSize : Nat) (state : ExportState Name) (tensor : Name × Nat) :
    ExportState Name :=
  if maxSizeBytes < state.currentChunkSize + tensor.2 then
    { state.saveChunkedTensors ⟨ppRank, ppSize, state.fileIdx⟩ with
      currentChunk := (∅ : Dict Name Nat).set tensor.1 tensor.2
      currentChunkSize := tensor.2
      fileIdx := state.fileIdx + 1 }
  else
    { state with
      currentChunk := state.currentChunk.set tensor.1 tensor.2
      currentChunkSize := state.currentChunkSize + tensor.2 }

def finish (ppRank ppSize : Nat) (state : ExportState Name) : ExportState Name :=
  if state.currentChunk.entries = [] then state
  else state.saveChunkedTensors ⟨ppRank, ppSize, state.fileIdx⟩

end ExportState

variable [DecidableEq Name]

def exportStage (maxSizeBytes ppRank ppSize : Nat) (tensors : List (Name × Nat)) :
    ExportState Name :=
  (tensors.foldl (ExportState.add maxSizeBytes ppRank ppSize) {}).finish ppRank ppSize

structure ExportResult (Name : Type) where
  files : Dict FileName (Dict Name Nat)
  weightMap : Dict Name FileName
  totalSize : Nat

def exportSafetensors (maxSizeBytes : Nat) (trainableOnly : Bool)
    (stages : List (List (LocalParam Name))) : ExportResult Name :=
  let ranks := stages.mapIdx fun ppRank params =>
    exportStage maxSizeBytes ppRank stages.length (exportedTensors trainableOnly params)
  let globalRankZero := ranks.headD {}
  { files := (∅ : Dict FileName (Dict Name Nat)).update globalRankZero.cpuChunksToSave
    weightMap :=
      if 1 < stages.length then
        ranks.foldl (fun merged state => merged.update state.manifest.entries) ∅
      else globalRankZero.manifest
    totalSize := (ranks.map ExportState.totalChunkSize).sum }

structure ExportedModel (Name : Type) where
  maxSizeBytes : Nat
  trainableOnly : Bool
  stages : List (List (LocalParam Name))
  stages_ne : stages ≠ []
  distinct : ((stages.flatMap (exportedTensors trainableOnly)).map Prod.fst).Nodup

namespace ExportedModel

variable (model : ExportedModel Name)

def tensors : List (Name × Nat) := model.stages.flatMap (exportedTensors model.trainableOnly)

def result : ExportResult Name :=
  exportSafetensors model.maxSizeBytes model.trainableOnly model.stages

structure Complete : Prop where
  mapped : ∀ name size, (name, size) ∈ model.tensors → ∃ file chunk,
    model.result.weightMap.get? name = some file ∧ model.result.files.get? file = some chunk ∧
      chunk.get? name = some size
  once : ∀ name ∈ model.tensors.map Prod.fst, ∃! file, ∃ chunk,
    model.result.files.get? file = some chunk ∧ name ∈ chunk.keys
  total : model.result.totalSize = (model.tensors.map Prod.snd).sum
  limited : ∀ file chunk, model.result.files.get? file = some chunk →
    model.maxSizeBytes < chunk.values.sum → chunk.size = 1

end ExportedModel

structure SavedChunks (maxSizeBytes ppRank ppSize count : Nat) (tensors : List (Name × Nat))
    (state : ExportState Name) : Prop where
  entries_eq : (state.cpuChunksToSave.flatMap fun saved => saved.2.entries) = tensors
  total : state.totalChunkSize = (tensors.map Prod.snd).sum
  files : state.cpuChunksToSave.map Prod.fst = (List.range count).map (FileName.mk ppRank ppSize)
  recorded : ∀ name file, state.manifest.get? name = some file ↔
    ∃ chunk, (file, chunk) ∈ state.cpuChunksToSave ∧ name ∈ chunk.keys
  limited : ∀ saved ∈ state.cpuChunksToSave, maxSizeBytes < saved.2.values.sum →
    saved.2.size = 1

structure Gathered (maxSizeBytes ppRank ppSize : Nat) (saved : List (Name × Nat))
    (state : ExportState Name) : Prop extends
    SavedChunks maxSizeBytes ppRank ppSize state.fileIdx saved state where
  current : state.currentChunkSize = state.currentChunk.values.sum
  limitedCurrent : maxSizeBytes < state.currentChunk.values.sum → state.currentChunk.size = 1

section Stage

variable {maxSizeBytes ppRank ppSize : Nat} {state : ExportState Name}
  {saved : List (Name × Nat)}

/-- The current chunk is put down. -/
theorem Gathered.saveChunkedTensors (gathered : Gathered maxSizeBytes ppRank ppSize saved state)
    (distinct : ((saved ++ state.currentChunk.entries).map Prod.fst).Nodup) :
    SavedChunks maxSizeBytes ppRank ppSize (state.fileIdx + 1)
      (saved ++ state.currentChunk.entries)
      (state.saveChunkedTensors ⟨ppRank, ppSize, state.fileIdx⟩) := by
  unfold ExportState.saveChunkedTensors
  refine ⟨?_, ?_, ?_, ?_, ?_⟩
  · dsimp only
    rw [flatMap_append, gathered.entries_eq, flatMap_singleton]
  · dsimp only
    rw [gathered.total, gathered.current, map_append, sum_append]
    rfl
  · dsimp only
    rw [map_append, gathered.files, range_succ, map_append]
    rfl
  · intro name file
    dsimp only
    have keys_eq : (state.currentChunk.keys.map fun name =>
        (name, (⟨ppRank, ppSize, state.fileIdx⟩ : FileName))).map Prod.fst =
          state.currentChunk.keys := by
      rw [map_map]
      exact map_id _
    rw [Dict.get?_update_iff (by rw [keys_eq]; exact state.currentChunk.nodup), keys_eq,
      gathered.recorded]
    constructor
    · rintro (new | ⟨_, chunk, isSaved, present⟩)
      · obtain ⟨other, present, same⟩ := mem_map.mp new
        cases same
        exact ⟨state.currentChunk, mem_append_right _ (mem_singleton_self _), present⟩
      · exact ⟨chunk, mem_append_left _ isSaved, present⟩
    · rintro ⟨chunk, isSaved, present⟩
      rcases mem_append.mp isSaved with old | new
      · refine .inr ⟨?_, chunk, old, present⟩
        intro again
        obtain ⟨size, entry⟩ := Dict.mem_keys_iff.mp present
        have inSaved : (name, size) ∈ saved := by
          rw [← gathered.entries_eq]
          exact mem_flatMap.mpr ⟨(file, chunk), old, entry⟩
        rw [map_append, nodup_append] at distinct
        exact distinct.2.2 name (mem_map_of_mem inSaved) name again rfl
      · cases mem_singleton.mp new
        exact .inl (mem_map_of_mem present)
  · intro chunk isSaved exceeds
    rcases mem_append.mp isSaved with old | new
    · exact gathered.limited chunk old exceeds
    · cases mem_singleton.mp new
      exact gathered.limitedCurrent exceeds

theorem gathered_start : Gathered maxSizeBytes ppRank ppSize [] ({} : ExportState Name) := by
  refine ⟨⟨rfl, rfl, rfl, ?_, ?_⟩, rfl, ?_⟩
  · intro name file
    constructor
    · intro found
      rw [Dict.get?_empty] at found
      cases found
    · rintro ⟨chunk, isSaved, _⟩
      cases isSaved
  · intro chunk isSaved
    cases isSaved
  · intro exceeds
    exact absurd exceeds (Nat.not_lt_zero _)

/-- One tensor with a new name. -/
theorem Gathered.add (gathered : Gathered maxSizeBytes ppRank ppSize saved state)
    (tensor : Name × Nat)
    (distinct : ((saved ++ state.currentChunk.entries ++ [tensor]).map Prod.fst).Nodup) :
    ∃ later, Gathered maxSizeBytes ppRank ppSize later
        (state.add maxSizeBytes ppRank ppSize tensor) ∧
      later ++ (state.add maxSizeBytes ppRank ppSize tensor).currentChunk.entries =
        saved ++ state.currentChunk.entries ++ [tensor] := by
  obtain ⟨name, size⟩ := tensor
  have parts := distinct
  rw [map_append, nodup_append] at parts
  have fresh : name ∉ state.currentChunk.keys := by
    intro present
    refine parts.2.2 name ?_ name (mem_singleton_self name) rfl
    rw [map_append]
    exact mem_append_right _ present
  unfold ExportState.add
  dsimp only
  split
  case isTrue exceeds =>
    have put := gathered.saveChunkedTensors parts.1
    have single : ((∅ : Dict Name Nat).set name size).entries = [(name, size)] :=
      Dict.entries_set_of_notMem size not_mem_nil
    refine ⟨saved ++ state.currentChunk.entries, ⟨⟨put.entries_eq, put.total, put.files,
      put.recorded, put.limited⟩, ?_, ?_⟩, ?_⟩
    · unfold Dict.values
      rw [single]
      rfl
    · intro _
      unfold Dict.size
      rw [single]
      rfl
    · rw [single]
  case isFalse fits =>
    have longer := Dict.entries_set_of_notMem size fresh
    have values_eq : (state.currentChunk.set name size).values.sum =
        state.currentChunk.values.sum + size := by
      unfold Dict.values
      rw [longer, map_append, sum_append]
      rfl
    refine ⟨saved, ⟨⟨gathered.entries_eq, gathered.total, gathered.files, gathered.recorded,
      gathered.limited⟩, ?_, ?_⟩, ?_⟩
    · dsimp only
      rw [values_eq, gathered.current]
    · intro exceeds
      dsimp only at exceeds
      rw [values_eq, ← gathered.current] at exceeds
      exact absurd exceeds fits
    · dsimp only
      rw [longer, append_assoc]

theorem Gathered.foldl (gathered : Gathered maxSizeBytes ppRank ppSize saved state)
    (tensors : List (Name × Nat))
    (distinct : ((saved ++ state.currentChunk.entries ++ tensors).map Prod.fst).Nodup) :
    ∃ later, Gathered maxSizeBytes ppRank ppSize later
        (tensors.foldl (ExportState.add maxSizeBytes ppRank ppSize) state) ∧
      later ++ (tensors.foldl (ExportState.add maxSizeBytes ppRank ppSize)
        state).currentChunk.entries = saved ++ state.currentChunk.entries ++ tensors := by
  induction tensors generalizing saved state with
  | nil => exact ⟨saved, gathered, (append_nil _).symm⟩
  | cons tensor tensors ih =>
    rw [append_cons] at distinct
    have first := distinct
    rw [map_append, nodup_append] at first
    obtain ⟨middle, next, middle_eq⟩ := gathered.add tensor first.1
    rw [← middle_eq] at distinct
    obtain ⟨later, last, later_eq⟩ := ih next distinct
    refine ⟨later, last, later_eq.trans ?_⟩
    rw [middle_eq, ← append_cons]

theorem exists_savedChunks_exportStage {tensors : List (Name × Nat)}
    (distinct : (tensors.map Prod.fst).Nodup) :
    ∃ count, SavedChunks maxSizeBytes ppRank ppSize count tensors
      (exportStage maxSizeBytes ppRank ppSize tensors) := by
  obtain ⟨saved, gathered, saved_eq⟩ :=
    (@gathered_start Name _ maxSizeBytes ppRank ppSize).foldl tensors distinct
  have all_eq : saved ++ (tensors.foldl (ExportState.add maxSizeBytes ppRank ppSize)
      {}).currentChunk.entries = tensors := saved_eq
  unfold exportStage ExportState.finish
  split
  case isTrue empty =>
    rw [empty, append_nil] at all_eq
    subst all_eq
    exact ⟨_, gathered.toSavedChunks⟩
  case isFalse =>
    have put := gathered.saveChunkedTensors (by rw [all_eq]; exact distinct)
    rw [all_eq] at put
    exact ⟨_, put⟩

theorem exportStage_nil :
    exportStage maxSizeBytes ppRank ppSize ([] : List (Name × Nat)) = {} := rfl

end Stage

namespace ExportedModel

variable (model : ExportedModel Name)

def stage (ppRank : Nat) (params : List (LocalParam Name)) : ExportState Name :=
  exportStage model.maxSizeBytes ppRank model.stages.length
    (exportedTensors model.trainableOnly params)

omit [DecidableEq Name] in
theorem nodup_exportedTensors {params : List (LocalParam Name)} (member : params ∈ model.stages) :
    ((exportedTensors model.trainableOnly params).map Prod.fst).Nodup := by
  have distinct := model.distinct
  rw [map_flatMap] at distinct
  exact (nodup_flatMap.mp distinct).1 params member

theorem totalSize_eq : model.result.totalSize = (model.tensors.map Prod.snd).sum := by
  have totals : (model.stages.mapIdx model.stage).map ExportState.totalChunkSize =
      model.stages.map fun params =>
        ((exportedTensors model.trainableOnly params).map Prod.snd).sum := by
    refine ext_getElem (by simp) ?_
    intro ppRank inRange _
    rw [length_map, length_mapIdx] at inRange
    rw [getElem_map, getElem_mapIdx, getElem_map]
    obtain ⟨_, chunks⟩ := @exists_savedChunks_exportStage _ _ model.maxSizeBytes ppRank
      model.stages.length _ (model.nodup_exportedTensors (getElem_mem inRange))
    exact chunks.total
  have added : model.result.totalSize =
      ((model.stages.mapIdx model.stage).map ExportState.totalChunkSize).sum := rfl
  rw [added, totals]
  unfold tensors
  rw [flatMap_def, map_flatten, sum_flatten, map_map, map_map]
  rfl

variable {first : List (LocalParam Name)} {rest : List (List (LocalParam Name))}

theorem files_eq (stages_eq : model.stages = first :: rest) :
    model.result.files = (∅ : Dict FileName (Dict Name Nat)).update
      (model.stage 0 first).cpuChunksToSave := by
  unfold result exportSafetensors
  dsimp only
  rw [stages_eq, mapIdx_cons]
  unfold stage
  rw [stages_eq]
  rfl

theorem get?_files_iff
    (stages_eq : model.stages = first :: rest) {file : FileName} {chunk : Dict Name Nat} :
    model.result.files.get? file = some chunk ↔
      (file, chunk) ∈ (model.stage 0 first).cpuChunksToSave := by
  obtain ⟨count, chunks⟩ := @exists_savedChunks_exportStage _ _ model.maxSizeBytes 0
    model.stages.length _ (model.nodup_exportedTensors (stages_eq ▸ mem_cons_self))
  have distinct : ((model.stage 0 first).cpuChunksToSave.map Prod.fst).Nodup := by
    have files := chunks.files
    unfold stage
    rw [files]
    refine nodup_range.map ?_
    intro number other same
    exact congrArg FileName.fileIdx same
  rw [model.files_eq stages_eq, Dict.get?_update_iff distinct]
  refine or_iff_left ?_
  rintro ⟨_, found⟩
  rw [Dict.get?_empty] at found
  cases found

theorem foldl_update_of_empty {states : List (ExportState Name)}
    (empty : ∀ state ∈ states, state.manifest.entries = []) (merged : Dict Name FileName) :
    states.foldl (fun merged state => merged.update state.manifest.entries) merged = merged := by
  induction states generalizing merged with
  | nil => rfl
  | cons state states ih =>
    rw [foldl_cons, empty state mem_cons_self]
    exact ih (fun later member => empty later (mem_cons_of_mem _ member)) merged

theorem weightMap_eq (stages_eq : model.stages = first :: rest)
    (nothing : ∀ params ∈ rest, exportedTensors model.trainableOnly params = []) (name : Name) :
    model.result.weightMap.get? name = (model.stage 0 first).manifest.get? name := by
  have ranks_eq : model.stages.mapIdx model.stage = model.stage 0 first ::
      rest.mapIdx fun place params => model.stage (place + 1) params := by
    rw [stages_eq, mapIdx_cons]
  have weightMap : model.result.weightMap =
      if 1 < model.stages.length then
        (model.stages.mapIdx model.stage).foldl
          (fun merged state => merged.update state.manifest.entries) ∅
      else ((model.stages.mapIdx model.stage).headD {}).manifest := rfl
  rw [weightMap, ranks_eq]
  split
  case isTrue =>
    rw [foldl_cons, foldl_update_of_empty]
    · refine Option.ext fun file => ?_
      rw [Dict.get?_update_iff (model.stage 0 first).manifest.nodup, ← Dict.get?_eq_some_iff]
      refine or_iff_left ?_
      rintro ⟨_, found⟩
      rw [Dict.get?_empty] at found
      cases found
    · intro state member
      obtain ⟨place, inRange, rfl⟩ := mem_mapIdx.mp member
      unfold stage
      rw [nothing _ (getElem_mem inRange), exportStage_nil]
      rfl
  case isFalse => rfl

/-- The export is complete exactly when the stages after the first export nothing. -/
theorem exportSafetensors_complete_iff :
    model.Complete ↔ ∀ params ∈ model.stages.tail,
      exportedTensors model.trainableOnly params = [] := by
  obtain ⟨first, rest, stages_eq⟩ := exists_cons_of_ne_nil model.stages_ne
  obtain ⟨count, chunks⟩ := @exists_savedChunks_exportStage _ _ model.maxSizeBytes 0
    model.stages.length _ (model.nodup_exportedTensors (stages_eq ▸ mem_cons_self))
  rw [stages_eq, tail_cons]
  constructor
  · intro complete params member
    refine eq_nil_iff_forall_not_mem.mpr fun tensor exported => ?_
    have listed : tensor ∈ model.tensors := by
      unfold tensors
      rw [stages_eq]
      exact mem_flatMap.mpr ⟨params, mem_cons_of_mem _ member, exported⟩
    obtain ⟨file, chunk, _, written, holds⟩ := complete.mapped tensor.1 tensor.2 listed
    have inFirst : tensor ∈ exportedTensors model.trainableOnly first := by
      rw [← chunks.entries_eq]
      exact mem_flatMap.mpr ⟨(file, chunk), (model.get?_files_iff stages_eq).mp written,
        Dict.get?_eq_some_iff.mp holds⟩
    have distinct := model.distinct
    rw [stages_eq, flatMap_cons, map_append, nodup_append] at distinct
    exact distinct.2.2 tensor.1 (mem_map_of_mem inFirst) tensor.1
      (mem_map_of_mem (mem_flatMap.mpr ⟨params, member, exported⟩)) rfl
  · intro nothing
    have tensors_eq : model.tensors = exportedTensors model.trainableOnly first := by
      unfold tensors
      rw [stages_eq, flatMap_cons, flatMap_eq_nil_iff.mpr nothing, append_nil]
    refine ⟨?_, ?_, model.totalSize_eq, ?_⟩
    · intro name size listed
      rw [tensors_eq, ← chunks.entries_eq] at listed
      obtain ⟨⟨file, chunk⟩, isSaved, entry⟩ := mem_flatMap.mp listed
      refine ⟨file, chunk, ?_, (model.get?_files_iff stages_eq).mpr isSaved,
        Dict.get?_eq_some_iff.mpr entry⟩
      rw [model.weightMap_eq stages_eq nothing]
      exact (chunks.recorded name file).mpr ⟨chunk, isSaved, Dict.mem_keys_iff.mpr ⟨size, entry⟩⟩
    · intro name listed
      rw [tensors_eq, ← chunks.entries_eq] at listed
      obtain ⟨⟨_, size⟩, isTensor, rfl⟩ := mem_map.mp listed
      obtain ⟨⟨file, chunk⟩, isSaved, entry⟩ := mem_flatMap.mp isTensor
      refine ⟨file, ⟨chunk, (model.get?_files_iff stages_eq).mpr isSaved,
        Dict.mem_keys_iff.mpr ⟨size, entry⟩⟩, ?_⟩
      rintro other ⟨otherChunk, written, present⟩
      have here := (chunks.recorded _ file).mpr
        ⟨chunk, isSaved, Dict.mem_keys_iff.mpr ⟨size, entry⟩⟩
      have there := (chunks.recorded _ other).mpr
        ⟨otherChunk, (model.get?_files_iff stages_eq).mp written, present⟩
      exact Option.some.inj (there.symm.trans here)
    · intro file chunk written exceeds
      exact chunks.limited (file, chunk) ((model.get?_files_iff stages_eq).mp written) exceeds

end ExportedModel

def plainParam (name size : Nat) : LocalParam Nat where
  requiresGrad := true
  forExport := [(name, some size)]

theorem twoStages_distinct :
    (([[plainParam 0 3], [plainParam 1 3]].flatMap (exportedTensors false)).map
      Prod.fst).Nodup := by decide

theorem twoStages_ne : [[plainParam 0 3], [plainParam 1 3]] ≠ [] := cons_ne_nil _ _

def twoStages : ExportedModel Nat where
  maxSizeBytes := 8
  trainableOnly := false
  stages := [[plainParam 0 3], [plainParam 1 3]]
  stages_ne := twoStages_ne
  distinct := twoStages_distinct

/-- The index gives a file for the tensor of the second stage that is never written. -/
theorem not_exportSafetensors_complete :
    twoStages.result.weightMap.get? 1 = some ⟨1, 2, 0⟩ ∧
      twoStages.result.files.keys = [⟨0, 2, 0⟩] ∧
      ¬∀ model : ExportedModel Nat, model.Complete := by
  refine ⟨by decide, by decide, ?_⟩
  intro always
  obtain ⟨file, chunk, recorded, written, _⟩ := (always twoStages).mapped 1 3 (by decide)
  have isSecond : twoStages.result.weightMap.get? 1 = some ⟨1, 2, 0⟩ := by decide
  rw [isSecond] at recorded
  cases recorded
  have missing : twoStages.result.files.get? ⟨1, 2, 0⟩ = none := by decide
  rw [missing] at written
  cases written

end CosmosRl.Policy
