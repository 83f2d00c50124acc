import CosmosRl.Foundation.Eviction
import CosmosRl.Foundation.Run
import Mathlib.Data.List.Sort

/-!
`CheckpointMananger` of the master rank: what it finds at the start, and what saving a
checkpoint and `save_check` do to the list of checkpoints, the best checkpoint and the disk.

The directories of a run stand in an output directory of its own, below the root directory
of all runs.  A deletion that is handed to the executor is done at a later time.
-/

namespace CosmosRl.Utils

open CosmosRl.Foundation

/-- The directory `step_<step>` of the run with a timestamp. -/
structure CkptDir where
  timestamp : String
  step : Nat
  deriving DecidableEq, Repr

structure CkptSettings (Score : Type) where
  timestamp : String
  /-- `output_dir` is an absolute path. -/
  absolute : Bool
  resume : Bool
  maxKeep : Int
  keepsSome : maxKeep = -1 ∨ 1 ≤ maxKeep
  async : Bool
  lossMetric : Bool
  defaultScore : Score

/-- The symbolic link `best/checkpoints`.  Its target is the path of a step as
`output_dir` gives it, which is looked up in the directory of the link if it is relative. -/
structure BestLink where
  absolute : Bool
  target : CkptDir
  deriving DecidableEq, Repr

def BestLink.resolved (link : BestLink) : Option CkptDir :=
  if link.absolute then some link.target else none

structure FoundCkpts (Score : Type) where
  dirs : List CkptDir
  nodup : dirs.Nodup
  /-- `ckpt_path_check` of the policy's directory. -/
  complete : CkptDir → Bool
  bestLink : Option BestLink
  /-- The score and the directory in `best_score.json`. -/
  bestScoreFile : Option (Option Score × Option CkptDir)

/-- The fields of the manager with the links and directories it keeps, and a record of
the directories that were there and of the saved checkpoints with their scores. -/
structure CheckpointManager (Score : Type) where
  savedCkptStepDirs : List CkptDir
  bestScore : Score
  bestCkptAbsDir : Option CkptDir
  bestLink : Option BestLink
  bestScoreFile : Option (Option Score × Option CkptDir)
  disk : List CkptDir
  /-- The deletions among `pre_save_futures`. -/
  preSaveFutures : List CkptDir := []
  seen : List CkptDir
  listed : List CkptDir
  saved : List (CkptDir × Option Score) := []
  /-- The best checkpoint was on disk when it was recorded. -/
  bestWasOnDisk : Bool := true

/-- A checkpoint is saved and `save_check` called, or a submitted deletion is done. -/
inductive CkptEvent (Score : Type) where
  | save (step : Nat) (valScore : Option Score)
  | deleted (ckptDir : CkptDir)
  deriving DecidableEq, Repr

section Startup

variable {Score : Type} (settings : CkptSettings Score) (found : FoundCkpts Score)

/-- `_get_best_ckpt_abs_dir`. -/
def getBestCkptAbsDir : Option CkptDir :=
  (found.bestLink.bind BestLink.resolved).filter fun dir =>
    decide (dir ∈ found.dirs) && found.complete dir

/-- `_load_best_score`. -/
def loadBestScore : Score × Option CkptDir :=
  match found.bestScoreFile with
  | some (score, some dir) =>
    if getBestCkptAbsDir found = some dir then (score.getD settings.defaultScore, some dir)
    else (settings.defaultScore, none)
  | _ => (settings.defaultScore, none)

/-- `_get_all_saved_ckpt_step_dirs`, sorted by the steps. -/
def listedCkpts : List CkptDir :=
  if settings.resume then
    found.dirs.insertionSort fun first second => first.step ≤ second.step
  else []

/-- `__init__`, with `_prune_corrupted_ckpts`. -/
def initManager : CheckpointManager Score where
  savedCkptStepDirs := (listedCkpts settings found).filter found.complete
  bestScore := (loadBestScore settings found).1
  bestCkptAbsDir := (loadBestScore settings found).2
  bestLink := found.bestLink
  bestScoreFile := found.bestScoreFile
  disk := found.dirs.filter fun dir => !settings.resume || found.complete dir
  seen := found.dirs
  listed := (listedCkpts settings found).filter found.complete

end Startup

namespace CheckpointManager

variable {Score : Type} [LT Score] [DecidableLT Score] (settings : CkptSettings Score)
  (state : CheckpointManager Score)

/-- `_delete_checkpoint`. -/
def deleteCheckpoint (dir : CkptDir) : CheckpointManager Score :=
  { state with disk := state.disk.filter fun other => other ≠ dir }

def submitDeletion (dir : CkptDir) : CheckpointManager Score :=
  if settings.async then { state with preSaveFutures := state.preSaveFutures ++ [dir] }
  else state.deleteCheckpoint dir

/-- `save_checkpoint`.  The executor's deletions are waited for. -/
def saveCheckpoint (dir : CkptDir) : CheckpointManager Score :=
  if settings.async then
    { state with
      disk := (state.disk.insert dir).filter fun other => other ∉ state.preSaveFutures
      preSaveFutures := []
      seen := state.seen ++ [dir] }
  else { state with disk := state.disk.insert dir, seen := state.seen ++ [dir] }

def appendCkpt (dir : CkptDir) : CheckpointManager Score :=
  { state with
    savedCkptStepDirs := state.savedCkptStepDirs ++ [dir]
    listed := state.listed ++ [dir] }

/-- The part of `save_check` that limits the number of checkpoints. -/
def limitCkpts : CheckpointManager Score :=
  if settings.maxKeep < state.savedCkptStepDirs.length ∧ settings.maxKeep ≠ -1 then
    match evictOldest state.bestCkptAbsDir state.savedCkptStepDirs with
    | (none, kept) => { state with savedCkptStepDirs := kept }
    | (some stepToDelete, kept) =>
      { state with savedCkptStepDirs := kept }.submitDeletion settings stepToDelete
  else state

def improves (score : Score) : Bool :=
  if settings.lossMetric then decide (score < state.bestScore)
  else decide (state.bestScore < score)

/-- The part of `save_check` that records the best checkpoint. -/
def recordBest (dir : CkptDir) (valScore : Option Score) : CheckpointManager Score :=
  match valScore with
  | none => state
  | some score =>
    if state.improves settings score then
      { state with
        bestScore := score
        bestCkptAbsDir := some dir
        bestLink := some ⟨settings.absolute, dir⟩
        bestScoreFile := some (some score, some dir)
        bestWasOnDisk := decide (dir ∈ state.disk) }
    else state

/-- `save_check`. -/
def saveCheck (dir : CkptDir) (valScore : Option Score) : CheckpointManager Score :=
  let next := ((state.appendCkpt dir).limitCkpts settings).recordBest settings dir valScore
  { next with saved := (dir, valScore) :: next.saved }

def handle : CkptEvent Score → CheckpointManager Score
  | .save step valScore =>
    (state.saveCheckpoint settings ⟨settings.timestamp, step⟩).saveCheck settings
      ⟨settings.timestamp, step⟩ valScore
  | .deleted dir =>
    { state.deleteCheckpoint dir with
      preSaveFutures := state.preSaveFutures.filter fun other => other ≠ dir }

def Allowed : CkptEvent Score → Prop
  | .save step _ => ∀ dir ∈ state.seen, dir.timestamp = settings.timestamp → dir.step < step
  | .deleted dir => dir ∈ state.preSaveFutures

end CheckpointManager

def ckptSaves {Score : Type} [LT Score] [DecidableLT Score] (settings : CkptSettings Score) :
    EventSystem (CheckpointManager Score) (CkptEvent Score) where
  handle := CheckpointManager.handle settings
  Allowed := CheckpointManager.Allowed settings

instance decidableAllowedCkpt {Score : Type} [LT Score] [DecidableLT Score]
    (settings : CkptSettings Score) (state : CheckpointManager Score) (event : CkptEvent Score) :
    Decidable ((ckptSaves settings).Allowed state event) :=
  match event with
  | .save step _ => inferInstanceAs (Decidable (∀ dir ∈ state.seen,
      dir.timestamp = settings.timestamp → dir.step < step))
  | .deleted dir => inferInstanceAs (Decidable (dir ∈ state.preSaveFutures))

end CosmosRl.Utils
