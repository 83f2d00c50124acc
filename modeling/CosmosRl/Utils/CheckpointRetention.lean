import CosmosRl.Utils.CheckpointManager

/-!
Which checkpoints are retained.

The best checkpoint is spared when it is the oldest one.  The checkpoint in front of it in
line is then the one just saved, if only one may be kept.
-/

namespace CosmosRl.Utils

open CosmosRl.Foundation List

section Disk

variable {Score : Type}

def keptCkpts (state : CheckpointManager Score) : List CkptDir :=
  state.disk.filter fun dir => decide (dir ∈ state.listed) && decide (dir ∉ state.preSaveFutures)

def OnDisk (state : CheckpointManager Score) (dir : CkptDir) : Prop :=
  dir ∈ state.disk ∧ dir ∉ state.preSaveFutures

structure Tidy (state : CheckpointManager Score) : Prop where
  distinct : state.savedCkptStepDirs.Nodup
  onDisk : ∀ dir ∈ state.savedCkptStepDirs, OnDisk state dir
  complete : ∀ dir, OnDisk state dir → dir ∈ state.listed → dir ∈ state.savedCkptStepDirs
  bestOnDisk : ∀ dir, state.bestCkptAbsDir = some dir → OnDisk state dir
  diskDistinct : state.disk.Nodup
  diskSeen : state.disk ⊆ state.seen
  submittedSeen : state.preSaveFutures ⊆ state.seen
  listedSeen : state.listed ⊆ state.seen
  savedListed : state.savedCkptStepDirs ⊆ state.listed

variable {state : CheckpointManager Score} {dir other : CkptDir}

theorem Tidy.length_kept_le (tidy : Tidy state) :
    (keptCkpts state).length ≤ state.savedCkptStepDirs.length := by
  refine (subperm_of_subset (tidy.diskDistinct.filter _) ?_).length_le
  intro dir member
  rw [mem_filter, Bool.and_eq_true, decide_eq_true_eq, decide_eq_true_eq] at member
  obtain ⟨onDisk, listed, notSubmitted⟩ := member
  exact tidy.complete dir ⟨onDisk, notSubmitted⟩ listed

theorem saveCheckpoint_fields (settings : CkptSettings Score) (state : CheckpointManager Score)
    (dir : CkptDir) :
    (state.saveCheckpoint settings dir).savedCkptStepDirs = state.savedCkptStepDirs ∧
      (state.saveCheckpoint settings dir).listed = state.listed ∧
      (state.saveCheckpoint settings dir).seen = state.seen ++ [dir] ∧
      (state.saveCheckpoint settings dir).bestCkptAbsDir = state.bestCkptAbsDir := by
  rw [CheckpointManager.saveCheckpoint]
  cases settings.async <;> exact ⟨rfl, rfl, rfl, rfl⟩

theorem onDisk_saveCheckpoint (settings : CkptSettings Score)
    (notSubmitted : dir ∉ state.preSaveFutures) :
    OnDisk (state.saveCheckpoint settings dir) other ↔ other = dir ∨ OnDisk state other := by
  have joined : (other = dir ∨ other ∈ state.disk) ∧ other ∉ state.preSaveFutures ↔
      other = dir ∨ other ∈ state.disk ∧ other ∉ state.preSaveFutures := by
    constructor
    · rintro ⟨same | onDisk, kept⟩
      · exact .inl same
      · exact .inr ⟨onDisk, kept⟩
    · rintro (same | ⟨onDisk, kept⟩)
      · exact ⟨.inl same, same ▸ notSubmitted⟩
      · exact ⟨.inr onDisk, kept⟩
  unfold OnDisk
  rw [CheckpointManager.saveCheckpoint]
  cases settings.async with
  | true =>
    -- The deletions that are waited for have left the disk already.
    simp only [if_true, mem_filter, mem_insert_iff, decide_eq_true_eq,
      not_mem_nil, not_false_eq_true, and_true]
    exact joined
  | false =>
    simp only [Bool.false_eq_true, if_false, mem_insert_iff]
    exact joined

theorem disk_saveCheckpoint (settings : CkptSettings Score) (distinct : state.disk.Nodup) :
    (state.saveCheckpoint settings dir).disk.Nodup ∧
      (∀ other ∈ (state.saveCheckpoint settings dir).disk, other = dir ∨ other ∈ state.disk) ∧
      (state.saveCheckpoint settings dir).preSaveFutures ⊆ state.preSaveFutures := by
  rw [CheckpointManager.saveCheckpoint]
  cases settings.async with
  | true =>
    refine ⟨(distinct.insert (a := dir)).filter _, fun other member => ?_, nil_subset _⟩
    exact mem_insert_iff.mp (mem_of_mem_filter member)
  | false =>
    exact ⟨distinct.insert (a := dir), fun other member => mem_insert_iff.mp member,
      List.Subset.refl _⟩

theorem Tidy.saveCheckpoint (tidy : Tidy state) (settings : CkptSettings Score)
    (fresh : dir ∉ state.seen) : Tidy (state.saveCheckpoint settings dir) := by
  obtain ⟨sameList, sameListed, seenIs, sameBest⟩ := saveCheckpoint_fields settings state dir
  obtain ⟨diskDistinct, onDiskBefore, submittedBefore⟩ :=
    @disk_saveCheckpoint _ state dir settings tidy.diskDistinct
  have notSubmitted : dir ∉ state.preSaveFutures := fun submitted =>
    fresh (tidy.submittedSeen submitted)
  constructor
  · rw [sameList]
    exact tidy.distinct
  · rw [sameList]
    intro other member
    exact (onDisk_saveCheckpoint settings notSubmitted).mpr (.inr (tidy.onDisk other member))
  · rw [sameList, sameListed]
    intro other onDisk listed
    rcases (onDisk_saveCheckpoint settings notSubmitted).mp onDisk with same | before
    · exact absurd (tidy.listedSeen (same ▸ listed)) fresh
    · exact tidy.complete other before listed
  · rw [sameBest]
    intro other isBest
    exact (onDisk_saveCheckpoint settings notSubmitted).mpr (.inr (tidy.bestOnDisk other isBest))
  · exact diskDistinct
  · rw [seenIs]
    intro other member
    rcases onDiskBefore other member with same | before
    · exact same ▸ mem_append_right _ mem_cons_self
    · exact mem_append_left _ (tidy.diskSeen before)
  · rw [seenIs]
    intro other member
    exact mem_append_left _ (tidy.submittedSeen (submittedBefore member))
  · rw [sameListed, seenIs]
    intro other member
    exact mem_append_left _ (tidy.listedSeen member)
  · rw [sameList, sameListed]
    exact tidy.savedListed

theorem Tidy.appendCkpt (tidy : Tidy state) (onDisk : OnDisk state dir)
    (fresh : dir ∉ state.listed) (isSeen : dir ∈ state.seen) : Tidy (state.appendCkpt dir) := by
  constructor
  · exact nodup_append.mpr ⟨tidy.distinct, nodup_singleton dir, by
      intro other member newest isNewest same
      rw [mem_singleton.mp isNewest] at same
      exact fresh (same ▸ tidy.savedListed member)⟩
  · intro other member
    rcases mem_append.mp member with before | added
    · exact tidy.onDisk other before
    · exact mem_singleton.mp added ▸ onDisk
  · intro other otherOnDisk listed
    rcases mem_append.mp listed with before | added
    · exact mem_append_left _ (tidy.complete other otherOnDisk before)
    · exact mem_append_right _ added
  · exact tidy.bestOnDisk
  · exact tidy.diskDistinct
  · exact tidy.diskSeen
  · exact tidy.submittedSeen
  · intro other member
    rcases mem_append.mp member with before | added
    · exact tidy.listedSeen before
    · exact mem_singleton.mp added ▸ isSeen
  · intro other member
    rcases mem_append.mp member with before | added
    · exact mem_append_left _ (tidy.savedListed before)
    · exact mem_append_right _ added

theorem submitDeletion_fields (settings : CkptSettings Score) (state : CheckpointManager Score)
    (target : CkptDir) :
    (state.submitDeletion settings target).savedCkptStepDirs = state.savedCkptStepDirs ∧
      (state.submitDeletion settings target).listed = state.listed ∧
      (state.submitDeletion settings target).seen = state.seen ∧
      (state.submitDeletion settings target).bestCkptAbsDir = state.bestCkptAbsDir := by
  rw [CheckpointManager.submitDeletion, CheckpointManager.deleteCheckpoint]
  cases settings.async <;> exact ⟨rfl, rfl, rfl, rfl⟩

theorem onDisk_submitDeletion (settings : CkptSettings Score) (target : CkptDir) :
    OnDisk (state.submitDeletion settings target) other ↔ other ≠ target ∧ OnDisk state other := by
  unfold OnDisk
  rw [CheckpointManager.submitDeletion, CheckpointManager.deleteCheckpoint]
  cases settings.async with
  | true =>
    rw [if_pos rfl, mem_append, not_or, mem_singleton]
    constructor
    · rintro ⟨onDisk, kept, differ⟩
      exact ⟨differ, onDisk, kept⟩
    · rintro ⟨differ, onDisk, kept⟩
      exact ⟨onDisk, kept, differ⟩
  | false =>
    rw [if_neg Bool.false_ne_true, mem_filter, decide_eq_true_eq]
    constructor
    · rintro ⟨⟨onDisk, differ⟩, kept⟩
      exact ⟨differ, onDisk, kept⟩
    · rintro ⟨differ, onDisk, kept⟩
      exact ⟨⟨onDisk, differ⟩, kept⟩

theorem disk_submitDeletion (settings : CkptSettings Score) (target : CkptDir) :
    ((state.submitDeletion settings target).disk).Sublist state.disk ∧
      ∀ other ∈ (state.submitDeletion settings target).preSaveFutures,
        other = target ∨ other ∈ state.preSaveFutures := by
  rw [CheckpointManager.submitDeletion, CheckpointManager.deleteCheckpoint]
  cases settings.async with
  | true =>
    refine ⟨List.Sublist.refl _, fun other member => ?_⟩
    rcases mem_append.mp member with before | added
    · exact .inr before
    · exact .inl (mem_singleton.mp added)
  | false => exact ⟨filter_sublist, fun other member => .inr member⟩

/-- The list stays tidy if the best checkpoint is not the one that is deleted. -/
theorem Tidy.evicted {target : CkptDir} {kept : List CkptDir} (tidy : Tidy state)
    (settings : CkptSettings Score) (permuted : state.savedCkptStepDirs.Perm (target :: kept))
    (spared : state.bestCkptAbsDir ≠ some target) :
    Tidy ({ state with savedCkptStepDirs := kept }.submitDeletion settings target) := by
  obtain ⟨sameList, sameListed, sameSeen, sameBest⟩ :=
    submitDeletion_fields settings { state with savedCkptStepDirs := kept } target
  obtain ⟨sublist, submittedBefore⟩ :=
    @disk_submitDeletion _ { state with savedCkptStepDirs := kept } settings target
  obtain ⟨apart, distinct⟩ := nodup_cons.mp (permuted.nodup_iff.mp tidy.distinct)
  constructor
  · rw [sameList]
    exact distinct
  · rw [sameList]
    intro other member
    rw [onDisk_submitDeletion]
    refine ⟨fun same => apart (same ▸ member), ?_⟩
    exact tidy.onDisk other (permuted.mem_iff.mpr (mem_cons_of_mem _ member))
  · rw [sameList, sameListed]
    intro other onDisk listed
    obtain ⟨differ, before⟩ := (onDisk_submitDeletion settings target).mp onDisk
    have member := permuted.mem_iff.mp (tidy.complete other before listed)
    exact (mem_cons.mp member).resolve_left differ
  · rw [sameBest]
    intro other isBest
    rw [onDisk_submitDeletion]
    refine ⟨fun same => spared (same ▸ isBest), tidy.bestOnDisk other isBest⟩
  · exact sublist.nodup tidy.diskDistinct
  · rw [sameSeen]
    intro other member
    exact tidy.diskSeen (sublist.subset member)
  · rw [sameSeen]
    intro other member
    rcases submittedBefore other member with same | before
    · have listed : target ∈ state.savedCkptStepDirs := permuted.mem_iff.mpr mem_cons_self
      exact same ▸ tidy.diskSeen (tidy.onDisk target listed).1
    · exact tidy.submittedSeen before
  · rw [sameListed, sameSeen]
    exact tidy.listedSeen
  · rw [sameList, sameListed]
    intro other member
    exact tidy.savedListed (permuted.mem_iff.mpr (mem_cons_of_mem _ member))

theorem limitCkpts_cases (settings : CkptSettings Score) (state : CheckpointManager Score) :
    state.limitCkpts settings = state ∧
        (settings.maxKeep ≠ -1 → state.savedCkptStepDirs.length ≤ settings.maxKeep) ∨
      ∃ target kept, settings.maxKeep ≠ -1 ∧
        settings.maxKeep < state.savedCkptStepDirs.length ∧
        evictOldest state.bestCkptAbsDir state.savedCkptStepDirs = (some target, kept) ∧
        state.limitCkpts settings =
          { state with savedCkptStepDirs := kept }.submitDeletion settings target := by
  unfold CheckpointManager.limitCkpts
  split
  case isTrue exceeded =>
    have atLeastOne : 1 ≤ settings.maxKeep := settings.keepsSome.resolve_left exceeded.2
    have nonempty : state.savedCkptStepDirs ≠ [] := by
      intro empty
      have exceededZero := exceeded.1
      rw [empty, length_nil] at exceededZero
      omega
    obtain ⟨target, kept, evicted⟩ := exists_evictOldest state.bestCkptAbsDir nonempty
    refine .inr ⟨target, kept, exceeded.2, exceeded.1, evicted, ?_⟩
    rw [evicted]
  case isFalse within =>
    refine .inl ⟨rfl, fun finite => ?_⟩
    exact Int.not_lt.mp fun exceeded => within ⟨exceeded, finite⟩

end Disk

variable {Score : Type} [Preorder Score] [DecidableLT Score] (settings : CkptSettings Score)

def Better (score other : Score) : Prop :=
  if settings.lossMetric then score < other else other < score

structure Retained (startedWith : Nat) (state : CheckpointManager Score) : Prop where
  bestKept : ∀ dir, state.bestCkptAbsDir = some dir → state.bestWasOnDisk = true →
    OnDisk state dir
  named : ∀ dir, state.bestCkptAbsDir = some dir →
    state.bestLink.bind BestLink.resolved = some dir ∧
      ∃ score, state.bestScoreFile = some (score, some dir) ∧
        score.getD settings.defaultScore = state.bestScore
  noneBetter : ∀ entry ∈ state.saved, ∀ score ∈ entry.2, ¬ Better settings score state.bestScore
  justSaved : ∀ entry ∈ state.saved.head?, OnDisk state entry.1
  limited : settings.maxKeep ≠ -1 → startedWith ≤ settings.maxKeep →
    (keptCkpts state).length ≤ settings.maxKeep

/-- What a call must find: one checkpoint may be kept only if it is not the best one, or
none is listed, and a better score is recorded only with an absolute output directory. -/
def KeepsCkpts (state : CheckpointManager Score) : CkptEvent Score → Prop
  | .save _ valScore =>
    ¬ (settings.maxKeep = 1 ∧
        ∃ dir, state.savedCkptStepDirs = [dir] ∧ state.bestCkptAbsDir = some dir) ∧
      ∀ score ∈ valScore, state.improves settings score = true → settings.absolute = true
  | .deleted _ => True

def Bounded (startedWith : Nat) (state : CheckpointManager Score) : Prop :=
  settings.maxKeep ≠ -1 → startedWith ≤ settings.maxKeep →
    state.savedCkptStepDirs.length ≤ settings.maxKeep

structure BestRecorded (state : CheckpointManager Score) : Prop where
  named : ∀ dir, state.bestCkptAbsDir = some dir →
    state.bestLink.bind BestLink.resolved = some dir ∧
      ∃ score, state.bestScoreFile = some (score, some dir) ∧
        score.getD settings.defaultScore = state.bestScore
  noneBetter : ∀ entry ∈ state.saved, ∀ score ∈ entry.2, ¬ Better settings score state.bestScore

def NewestListed (state : CheckpointManager Score) : Prop :=
  ∀ entry ∈ state.saved.head?, entry.1 ∈ state.savedCkptStepDirs

structure Maintained (startedWith : Nat) (state : CheckpointManager Score) : Prop where
  tidy : Tidy state
  bounded : Bounded settings startedWith state
  recorded : BestRecorded settings state
  newest : NewestListed state

variable {settings} {startedWith : Nat} {state : CheckpointManager Score} {dir : CkptDir}

omit [DecidableLT Score] in
theorem Maintained.retained (maintained : Maintained settings startedWith state) :
    Retained settings startedWith state where
  bestKept := fun dir isBest _ => maintained.tidy.bestOnDisk dir isBest
  named := maintained.recorded.named
  noneBetter := maintained.recorded.noneBetter
  justSaved := fun entry isNewest =>
    maintained.tidy.onDisk entry.1 (maintained.newest entry isNewest)
  limited := fun finite started =>
    Int.le_trans (Int.ofNat_le.mpr maintained.tidy.length_kept_le)
      (maintained.bounded finite started)

def limitedCkpts (settings : CkptSettings Score) (state : CheckpointManager Score)
    (dir : CkptDir) : CheckpointManager Score :=
  ((state.saveCheckpoint settings dir).appendCkpt dir).limitCkpts settings

def bestRecord (state : CheckpointManager Score) :=
  (state.bestCkptAbsDir, state.bestLink, state.bestScoreFile, state.bestScore, state.saved)

theorem saveCheck_eq (valScore : Option Score) :
    (state.saveCheckpoint settings dir).saveCheck settings dir valScore =
      { (limitedCkpts settings state dir).recordBest settings dir valScore with
        saved := (dir, valScore) ::
          ((limitedCkpts settings state dir).recordBest settings dir valScore).saved } :=
  rfl

omit [Preorder Score] [DecidableLT Score] in
theorem bestRecord_limitedCkpts :
    bestRecord (limitedCkpts settings state dir) = bestRecord state := by
  have saved : bestRecord (state.saveCheckpoint settings dir) = bestRecord state := by
    rw [CheckpointManager.saveCheckpoint]
    cases settings.async <;> rfl
  rw [limitedCkpts, ← saved]
  rcases limitCkpts_cases settings ((state.saveCheckpoint settings dir).appendCkpt dir)
    with ⟨unchanged, _⟩ | ⟨target, kept, _, _, _, deleted⟩
  · rw [unchanged]
    rfl
  · rw [deleted, CheckpointManager.submitDeletion]
    cases settings.async <;> rfl

omit [DecidableLT Score] in
theorem BestRecorded.congr {other : CheckpointManager Score}
    (recorded : BestRecorded settings state) (same : bestRecord other = bestRecord state) :
    BestRecorded settings other := by
  simp only [bestRecord, Prod.mk.injEq] at same
  obtain ⟨sameDir, sameLink, sameFile, sameScore, sameSaved⟩ := same
  constructor
  · rw [sameDir, sameLink, sameFile, sameScore]
    exact recorded.named
  · rw [sameScore, sameSaved]
    exact recorded.noneBetter

section

omit [Preorder Score] [DecidableLT Score]

theorem Tidy.appended (tidy : Tidy state) (settings : CkptSettings Score)
    (fresh : dir ∉ state.seen) : Tidy ((state.saveCheckpoint settings dir).appendCkpt dir) := by
  obtain ⟨sameList, sameListed, seenIs, _⟩ := saveCheckpoint_fields settings state dir
  have notSubmitted : dir ∉ state.preSaveFutures := fun submitted =>
    fresh (tidy.submittedSeen submitted)
  apply (tidy.saveCheckpoint settings fresh).appendCkpt
  · exact (onDisk_saveCheckpoint settings notSubmitted).mpr (.inl rfl)
  · rw [sameListed]
    exact fun listed => fresh (tidy.listedSeen listed)
  · rw [seenIs]
    exact mem_append_right _ mem_cons_self

/-- The list after the limit: it is tidy, and it holds the newest checkpoint exactly if the
best one is not the only one that may be kept. -/
theorem Tidy.limitedCkpts (tidy : Tidy state) (bounded : Bounded settings startedWith state)
    (fresh : dir ∉ state.seen) :
    Tidy (limitedCkpts settings state dir) ∧
      Bounded settings startedWith (limitedCkpts settings state dir) ∧
      dir ∈ (limitedCkpts settings state dir).listed ∧
      (dir ∈ (limitedCkpts settings state dir).savedCkptStepDirs ↔
        ¬ (settings.maxKeep = 1 ∧
          ∃ best, state.savedCkptStepDirs = [best] ∧ state.bestCkptAbsDir = some best)) := by
  have appended := tidy.appended settings fresh
  obtain ⟨sameList, _, _, sameBest⟩ := saveCheckpoint_fields settings state dir
  have listIs : ((state.saveCheckpoint settings dir).appendCkpt dir).savedCkptStepDirs =
      state.savedCkptStepDirs ++ [dir] := by
    rw [CheckpointManager.appendCkpt, sameList]
  have bestIs : ((state.saveCheckpoint settings dir).appendCkpt dir).bestCkptAbsDir =
      state.bestCkptAbsDir := sameBest
  rw [CosmosRl.Utils.limitedCkpts]
  rcases limitCkpts_cases settings ((state.saveCheckpoint settings dir).appendCkpt dir)
    with ⟨unchanged, within⟩ | ⟨target, kept, finite, exceeded, evicted, deleted⟩
  · rw [unchanged]
    refine ⟨appended, fun finite _ => within finite,
      mem_append_right _ mem_cons_self, iff_of_true ?_ ?_⟩
    · rw [listIs]
      exact mem_append_right _ mem_cons_self
    · rintro ⟨one, best, only, _⟩
      have short := within (by rw [one]; decide)
      rw [listIs, only, one, length_append, length_singleton, length_singleton] at short
      omega
  · rw [deleted]
    have atLeastOne : 1 ≤ settings.maxKeep := settings.keepsSome.resolve_left finite
    rw [listIs, bestIs] at evicted
    rw [listIs, length_append, length_singleton] at exceeded
    have permuted := perm_of_evictOldest evicted
    have distinct : (state.savedCkptStepDirs ++ [dir]).Nodup := listIs ▸ appended.distinct
    have spared : state.bestCkptAbsDir ≠ some target := by
      apply ne_pinned_of_evictOldest distinct _ evicted
      rw [length_append, length_singleton]
      omega
    obtain ⟨keptIs, sameListed, _, _⟩ := submitDeletion_fields settings
      { (state.saveCheckpoint settings dir).appendCkpt dir with savedCkptStepDirs := kept } target
    refine ⟨appended.evicted settings (listIs ▸ permuted) (bestIs ▸ spared), ?_, ?_, ?_⟩
    · intro _ started
      have lengths := permuted.length_eq
      rw [length_append, length_singleton, length_cons] at lengths
      have before := bounded finite started
      rw [keptIs, ← Nat.add_right_cancel lengths]
      exact before
    · rw [sameListed]
      exact mem_append_right _ mem_cons_self
    · rw [keptIs]
      refine (newest_mem_iff distinct evicted).trans (not_congr ⟨?_, ?_⟩)
      · rintro (empty | ⟨best, only, isBest⟩)
        · rw [empty, length_nil] at exceeded
          omega
        · rw [only, length_singleton] at exceeded
          exact ⟨by omega, best, only, isBest⟩
      · rintro ⟨_, best, only, isBest⟩
        exact .inr ⟨best, only, isBest⟩

end

theorem recordBest_cases (settings : CkptSettings Score) (state : CheckpointManager Score)
    (dir : CkptDir) (valScore : Option Score) :
    state.recordBest settings dir valScore = state ∧
        (∀ score ∈ valScore, state.improves settings score = false) ∨
      ∃ score, valScore = some score ∧ state.improves settings score = true ∧
        state.recordBest settings dir valScore =
          { state with
            bestScore := score
            bestCkptAbsDir := some dir
            bestLink := some ⟨settings.absolute, dir⟩
            bestScoreFile := some (some score, some dir)
            bestWasOnDisk := decide (dir ∈ state.disk) } := by
  cases valScore with
  | none => exact .inl ⟨rfl, fun score isScore => nomatch isScore⟩
  | some score =>
    cases improving : state.improves settings score with
    | false =>
      refine .inl ⟨if_neg (by rw [improving]; exact Bool.false_ne_true), ?_⟩
      intro other isScore
      cases isScore
      exact improving
    | true => exact .inr ⟨score, rfl, improving, if_pos improving⟩

theorem improves_iff (score : Score) :
    state.improves settings score = true ↔ Better settings score state.bestScore := by
  rw [CheckpointManager.improves, Better]
  cases settings.lossMetric <;> exact decide_eq_true_iff

section

omit [DecidableLT Score]

theorem Better.trans {first second third : Score} (better : Better settings first second)
    (than : Better settings second third) : Better settings first third := by
  unfold Better at better than ⊢
  split at better
  · rw [if_pos ‹_›] at than ⊢
    exact lt_trans better than
  · rw [if_neg ‹_›] at than ⊢
    exact lt_trans than better

theorem Better.irrefl (score : Score) : ¬ Better settings score score := by
  rw [Better]
  cases settings.lossMetric <;> exact lt_irrefl score

end

theorem Tidy.recordBest (tidy : Tidy state) (settings : CkptSettings Score)
    (onDisk : OnDisk state dir) (valScore : Option Score) :
    Tidy (state.recordBest settings dir valScore) := by
  rcases recordBest_cases settings state dir valScore with
    ⟨unchanged, _⟩ | ⟨score, _, _, recorded⟩
  · rw [unchanged]
    exact tidy
  · rw [recorded]
    exact { tidy with
      bestOnDisk := fun best isBest => Option.some.inj isBest ▸ onDisk }

omit [DecidableLT Score] in
theorem BestRecorded.improved {score : Score} {link : BestLink}
    (recorded : BestRecorded settings state) (better : Better settings score state.bestScore)
    (linked : link = ⟨true, dir⟩) (onDisk : Bool) :
    BestRecorded settings { state with
      bestScore := score
      bestCkptAbsDir := some dir
      bestLink := some link
      bestScoreFile := some (some score, some dir)
      bestWasOnDisk := onDisk
      saved := (dir, some score) :: state.saved } where
  named := by
    rintro best isBest
    cases isBest
    rw [linked]
    exact ⟨rfl, some score, rfl, rfl⟩
  noneBetter := by
    intro entry member other isScore betterThan
    rcases mem_cons.mp member with newest | before
    · rw [newest] at isScore
      cases isScore
      exact Better.irrefl score betterThan
    · exact recorded.noneBetter entry before other isScore (betterThan.trans better)

variable {valScore : Option Score} {found : FoundCkpts Score}

omit [DecidableLT Score] in
theorem BestRecorded.unimproved (recorded : BestRecorded settings state)
    (notBetter : ∀ score ∈ valScore, ¬ Better settings score state.bestScore) :
    BestRecorded settings { state with saved := (dir, valScore) :: state.saved } where
  named := recorded.named
  noneBetter := by
    intro entry member score isScore
    rcases mem_cons.mp member with newest | before
    · rw [newest] at isScore
      exact notBetter score isScore
    · exact recorded.noneBetter entry before score isScore

section

variable (maintained : Maintained settings startedWith state)

include maintained

omit [DecidableLT Score] in
theorem Maintained.deleted (submitted : dir ∈ state.preSaveFutures) :
    Maintained settings startedWith { state.deleteCheckpoint dir with
      preSaveFutures := state.preSaveFutures.filter fun other => other ≠ dir } := by
  have onDiskIff : ∀ other, OnDisk { state.deleteCheckpoint dir with
      preSaveFutures := state.preSaveFutures.filter fun other => other ≠ dir } other ↔
        OnDisk state other := by
    intro other
    unfold OnDisk
    rw [CheckpointManager.deleteCheckpoint, mem_filter, mem_filter, decide_eq_true_eq]
    constructor
    · rintro ⟨⟨onDisk, differ⟩, kept⟩
      exact ⟨onDisk, fun alsoSubmitted => kept ⟨alsoSubmitted, differ⟩⟩
    · rintro ⟨onDisk, kept⟩
      exact ⟨⟨onDisk, fun same => kept (same ▸ submitted)⟩, fun both => kept both.1⟩
  obtain ⟨tidy, bounded, recorded, newest⟩ := maintained
  refine ⟨?_, bounded, recorded.congr rfl, newest⟩
  exact {
    distinct := tidy.distinct
    onDisk := fun other member => (onDiskIff other).mpr (tidy.onDisk other member)
    complete := fun other onDisk => tidy.complete other ((onDiskIff other).mp onDisk)
    bestOnDisk := fun other isBest => (onDiskIff other).mpr (tidy.bestOnDisk other isBest)
    diskDistinct := tidy.diskDistinct.filter _
    diskSeen := fun other member => tidy.diskSeen (mem_of_mem_filter member)
    submittedSeen := fun other member => tidy.submittedSeen (mem_of_mem_filter member)
    listedSeen := tidy.listedSeen
    savedListed := tidy.savedListed }

/-- A call that finds room for the newest checkpoint maintains everything. -/
theorem Maintained.saved (fresh : dir ∉ state.seen)
    (room : ¬ (settings.maxKeep = 1 ∧
      ∃ best, state.savedCkptStepDirs = [best] ∧ state.bestCkptAbsDir = some best))
    (absolute : ∀ score ∈ valScore, state.improves settings score = true →
      settings.absolute = true) :
    Maintained settings startedWith
      ((state.saveCheckpoint settings dir).saveCheck settings dir valScore) := by
  obtain ⟨tidy, bounded, _, listedIff⟩ := maintained.tidy.limitedCkpts maintained.bounded fresh
  have listed := listedIff.mpr room
  have sameRecord : bestRecord (limitedCkpts settings state dir) = bestRecord state :=
    bestRecord_limitedCkpts
  have recorded := maintained.recorded.congr sameRecord
  have sameScore : (limitedCkpts settings state dir).bestScore = state.bestScore :=
    congrArg (fun record => record.2.2.2.1) sameRecord
  rw [saveCheck_eq]
  rcases recordBest_cases settings (limitedCkpts settings state dir) dir valScore with
    ⟨unchanged, notImproved⟩ | ⟨score, isScore, improved, changed⟩
  · rw [unchanged]
    refine ⟨{ tidy with }, bounded, recorded.unimproved ?_, ?_⟩
    · intro score isScore better
      rw [← improves_iff, notImproved score isScore] at better
      cases better
    · rintro entry isNewest
      cases isNewest
      exact listed
  · have tidyNext := tidy.recordBest settings (tidy.onDisk dir listed) valScore
    have better := (improves_iff score).mp improved
    have isAbsolute : settings.absolute = true := by
      apply absolute score isScore
      rw [improves_iff, ← sameScore]
      exact better
    rw [changed] at tidyNext ⊢
    rw [isScore]
    refine ⟨{ tidyNext with }, bounded, ?_, ?_⟩
    · exact recorded.improved better (by rw [isAbsolute]) _
    · rintro entry isNewest
      cases isNewest
      exact listed

theorem not_retained_of_onlyBest (fresh : dir ∉ state.seen)
    (full : settings.maxKeep = 1 ∧
      ∃ best, state.savedCkptStepDirs = [best] ∧ state.bestCkptAbsDir = some best) :
    ¬ Retained settings startedWith
      ((state.saveCheckpoint settings dir).saveCheck settings dir valScore) := by
  intro retained
  obtain ⟨tidy, _, listed, keptIff⟩ := maintained.tidy.limitedCkpts maintained.bounded fresh
  have onDisk : OnDisk ((state.saveCheckpoint settings dir).saveCheck settings dir valScore) dir :=
    retained.justSaved (dir, valScore) rfl
  have onDiskBefore : OnDisk (limitedCkpts settings state dir) dir := by
    rw [saveCheck_eq] at onDisk
    rcases recordBest_cases settings (limitedCkpts settings state dir) dir valScore with
      ⟨unchanged, _⟩ | ⟨_, _, _, changed⟩
    · rw [unchanged] at onDisk
      exact onDisk
    · rw [changed] at onDisk
      exact onDisk
  exact keptIff.mp (tidy.complete dir onDiskBefore listed) full

end

theorem not_retained_of_relative {score : Score}
    (improved : state.improves settings score = true) (relative : settings.absolute ≠ true) :
    ¬ Retained settings startedWith
      ((state.saveCheckpoint settings dir).saveCheck settings dir (some score)) := by
  intro retained
  have sameScore : (limitedCkpts settings state dir).bestScore = state.bestScore :=
    congrArg (fun record => record.2.2.2.1) bestRecord_limitedCkpts
  have stillImproved : (limitedCkpts settings state dir).improves settings score = true := by
    rw [improves_iff, sameScore, ← improves_iff]
    exact improved
  rcases recordBest_cases settings (limitedCkpts settings state dir) dir (some score) with
    ⟨_, notImproved⟩ | ⟨other, isScore, _, changed⟩
  · rw [notImproved score rfl] at stillImproved
    cases stillImproved
  · have named := (retained.named dir (by rw [saveCheck_eq, changed])).1
    rw [saveCheck_eq, changed, Option.bind_some, BestLink.resolved, if_neg relative] at named
    cases named

theorem not_seen_of_allowed {step : Nat}
    (allowed : (ckptSaves settings).Allowed state (.save step valScore)) :
    (⟨settings.timestamp, step⟩ : CkptDir) ∉ state.seen := fun isSeen =>
  Nat.lt_irrefl step (allowed _ isSeen rfl)

section

omit [Preorder Score] [DecidableLT Score]

/-- The best checkpoint that is loaded is a complete one, and the link and the file name it. -/
theorem loaded_best (isBest : (loadBestScore settings found).2 = some dir) :
    dir ∈ found.dirs ∧ found.complete dir = true ∧
      found.bestLink.bind BestLink.resolved = some dir ∧
      ∃ score, found.bestScoreFile = some (score, some dir) ∧
        score.getD settings.defaultScore = (loadBestScore settings found).1 := by
  unfold loadBestScore at isBest ⊢
  split at isBest
  case h_1 score named fileIs =>
    split at isBest
    case isTrue same =>
      cases isBest
      rw [fileIs]
      have linked := Option.filter_eq_some_iff.mp same
      rw [Bool.and_eq_true, decide_eq_true_eq] at linked
      exact ⟨linked.2.1, linked.2.2, linked.1, score, rfl, by rw [if_pos same]⟩
    case isFalse => cases isBest
  case h_2 => cases isBest

theorem mem_listedCkpts :
    dir ∈ listedCkpts settings found ↔ settings.resume = true ∧ dir ∈ found.dirs := by
  rw [listedCkpts]
  cases settings.resume with
  | true =>
    rw [if_pos rfl, mem_insertionSort]
    exact (and_iff_right rfl).symm
  | false =>
    rw [if_neg Bool.false_ne_true]
    exact iff_of_false not_mem_nil fun both => Bool.false_ne_true both.1

theorem nodup_listedCkpts (settings : CkptSettings Score) (found : FoundCkpts Score) :
    (listedCkpts settings found).Nodup := by
  rw [listedCkpts]
  split
  · exact (perm_insertionSort _ _).nodup_iff.mpr found.nodup
  · exact nodup_nil

end

omit [DecidableLT Score] in
theorem maintained_initManager (settings : CkptSettings Score) (found : FoundCkpts Score) :
    Maintained settings (initManager settings found).savedCkptStepDirs.length
      (initManager settings found) where
  tidy :=
    { distinct := (nodup_listedCkpts settings found).filter _
      onDisk := by
        intro dir member
        obtain ⟨listed, complete⟩ := mem_filter.mp member
        refine ⟨mem_filter.mpr ⟨(mem_listedCkpts.mp listed).2, ?_⟩, not_mem_nil⟩
        rw [complete, Bool.or_true]
      complete := fun dir _ listed => listed
      bestOnDisk := by
        intro dir isBest
        obtain ⟨found, complete, _, _⟩ := loaded_best isBest
        refine ⟨mem_filter.mpr ⟨found, ?_⟩, not_mem_nil⟩
        rw [complete, Bool.or_true]
      diskDistinct := found.nodup.filter _
      diskSeen := fun dir member => mem_of_mem_filter member
      submittedSeen := nil_subset _
      listedSeen := fun dir member =>
        (mem_listedCkpts.mp (mem_of_mem_filter member)).2
      savedListed := List.Subset.refl _ }
  bounded := fun _ started => started
  recorded :=
    { named := fun dir isBest => (loaded_best isBest).2.2
      noneBetter := fun entry member => absurd member not_mem_nil }
  newest := fun entry isNewest => nomatch isNewest

/-- The checkpoints of a run are retained as promised, exactly if every call meets the
condition. -/
theorem retained_iff (settings : CkptSettings Score) (found : FoundCkpts Score)
    (events : List (CkptEvent Score))
    (run : (ckptSaves settings).IsRun (initManager settings found) events) :
    (ckptSaves settings).Throughout
        (Retained settings (initManager settings found).savedCkptStepDirs.length)
        (initManager settings found) events ↔
      (ckptSaves settings).StepsMeet (KeepsCkpts settings) (initManager settings found)
        events := by
  refine EventSystem.throughout_iff_stepsMeet (fun state maintained => maintained.retained)
    ?_ ?_ (maintained_initManager settings found) run
  · intro state event maintained allowed keeps
    cases event with
    | save step valScore => exact maintained.saved (not_seen_of_allowed allowed) keeps.1 keeps.2
    | deleted dir => exact maintained.deleted allowed
  · intro state event maintained allowed loses
    cases event with
    | save step valScore =>
      rcases not_and_or.mp loses with full | relative
      · exact not_retained_of_onlyBest maintained (not_seen_of_allowed allowed) (not_not.mp full)
      · push Not at relative
        obtain ⟨score, isScore, improved, notAbsolute⟩ := relative
        cases isScore
        exact not_retained_of_relative improved notAbsolute
    | deleted dir => exact absurd trivial loses

theorem keepsSome_add_one (others : Nat) : (others + 1 : Int) = -1 ∨ 1 ≤ (others + 1 : Int) :=
  .inr (Int.le_add_of_nonneg_left (Int.natCast_nonneg others))

def lossSettings (others : Nat) : CkptSettings Nat where
  timestamp := "20250101"
  absolute := true
  resume := false
  maxKeep := others + 1
  keepsSome := keepsSome_add_one others
  async := false
  lossMetric := true
  defaultScore := 100

def noneFound : FoundCkpts Nat where
  dirs := []
  nodup := List.nodup_nil
  complete := fun _ => false
  bestLink := none
  bestScoreFile := none

theorem retained_iff_twoKept :
    (ckptSaves (lossSettings 1)).Throughout
        (Retained (lossSettings 1) 0)
        (initManager (lossSettings 1) noneFound)
        [.save 10 (some 5), .save 20 (some 7), .save 30 none] ↔
      (ckptSaves (lossSettings 1)).StepsMeet
        (KeepsCkpts (lossSettings 1))
        (initManager (lossSettings 1) noneFound)
        [.save 10 (some 5), .save 20 (some 7), .save 30 none] :=
  retained_iff (lossSettings 1) noneFound
    [.save 10 (some 5), .save 20 (some 7), .save 30 none] (by decide)

/-- The second checkpoint of a run that keeps one is deleted as soon as it is saved. -/
theorem not_retained_oneKept :
    (ckptSaves (lossSettings 0)).IsRun
        (initManager (lossSettings 0) noneFound)
        [.save 10 (some 5), .save 20 none] ∧
      ¬ (ckptSaves (lossSettings 0)).Throughout
        (Retained (lossSettings 0) 0)
        (initManager (lossSettings 0) noneFound)
        [.save 10 (some 5), .save 20 none] := by
  refine ⟨by decide, fun throughout => ?_⟩
  have onDisk := (throughout.finish.justSaved (⟨"20250101", 20⟩, none) rfl).1
  revert onDisk
  decide

end CosmosRl.Utils
