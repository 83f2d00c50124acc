import CosmosRl.Dispatcher.Controller

/-!
The weight versions that a fetch tags its prompts with.

A prompt gets the first version from the current one on whose quota is not used up.  The
tags of one answer never decrease, whatever the counters say.  While no counter exceeds a
positive quota the search never fails, and every counter grows by the prompts tagged with
its version.
-/

namespace CosmosRl.Dispatcher

open CosmosRl.Foundation List

def taggedCount (version : Nat) (payloads : List RLPayload) : Nat :=
  (payloads.map RLPayload.weightVersion).count version

def promptCount (promptNum : Dict Nat Nat) (version : Nat) : Nat :=
  (promptNum.get? version).getD 0

def TagsInOrder (payloads : List RLPayload) : Prop :=
  payloads.Pairwise fun first second => first.weightVersion ≤ second.weightVersion

instance (payloads : List RLPayload) : Decidable (TagsInOrder payloads) :=
  inferInstanceAs (Decidable (payloads.Pairwise _))

def WithinQuota (quota : Nat) (promptNum : Dict Nat Nat) : Prop :=
  ∀ version used, promptNum.get? version = some used → used ≤ quota

variable {quota version : Nat} {promptNum : Dict Nat Nat} {idxs : List Nat}

theorem WithinQuota.promptCount_le (within : WithinQuota quota promptNum) (version : Nat) :
    promptCount promptNum version ≤ quota := by
  rw [promptCount]
  cases found : promptNum.get? version with
  | none => exact Nat.zero_le quota
  | some used => exact within version used found

theorem promptCount_set (promptNum : Dict Nat Nat) (version other count : Nat) :
    promptCount (promptNum.set version count) other =
      if other = version then count else promptCount promptNum other := by
  rw [promptCount, Dict.get?_set]
  split
  · rfl
  · rfl

theorem taggedCount_cons (payload : RLPayload) (rest : List RLPayload) (version : Nat) :
    taggedCount version (payload :: rest) =
      taggedCount version rest + if payload.weightVersion = version then 1 else 0 := by
  rw [taggedCount, map_cons, count_cons]
  simp only [beq_iff_eq]
  rfl

theorem taggedCount_append (version : Nat) (first second : List RLPayload) :
    taggedCount version (first ++ second) =
      taggedCount version first + taggedCount version second := by
  rw [taggedCount, map_append, count_append]
  rfl

variable {fuel : Nat} {tagged : List RLPayload} {final : Dict Nat Nat}

theorem le_firstOpenVersion {openVersion : Nat}
    (found : firstOpenVersion quota promptNum fuel version = .ok openVersion) :
    version ≤ openVersion := by
  induction fuel generalizing version with
  | zero => exact (Except.ok.inj found).le
  | succ fuel ih =>
    rw [firstOpenVersion] at found
    split at found
    next => exact (Except.ok.inj found).le
    next =>
      split at found
      next => exact (Except.ok.inj found).le
      next =>
        split at found
        next => exact (Nat.le_succ version).trans (ih found)
        next => cases found

theorem tagsInOrder_tagPayloads
    (done : tagPayloads quota idxs version promptNum = (.ok tagged, final)) :
    TagsInOrder tagged ∧ ∀ payload ∈ tagged, version ≤ payload.weightVersion := by
  induction idxs generalizing version promptNum tagged with
  | nil =>
    cases done
    exact ⟨.nil, nofun⟩
  | cons promptIdx rest ih =>
    rw [tagPayloads] at done
    split at done
    next => cases done
    next openVersion found =>
      have later := le_firstOpenVersion found
      dsimp only at done
      split at done
      next => cases done
      next others final tagsRest =>
        cases done
        obtain ⟨inOrder, bounded⟩ := ih tagsRest
        refine ⟨pairwise_cons.mpr ⟨bounded, inOrder⟩, ?_⟩
        intro payload member
        rcases mem_cons.mp member with rfl | member
        · exact later
        · exact later.trans (bounded payload member)

theorem tagsInOrder_map_const (idxs : List Nat) (version : Nat) :
    TagsInOrder (idxs.map fun promptIdx => ⟨promptIdx, version⟩) :=
  pairwise_map.mpr (pairwise_of_forall fun _ _ => Nat.le_refl version)

theorem tagsInOrder_controlVersions {config : Config}
    (done : controlVersions config version quota idxs promptNum = (.ok tagged, final)) :
    TagsInOrder tagged := by
  rw [controlVersions] at done
  split at done
  next =>
    cases done
    exact tagsInOrder_map_const idxs version
  next => exact (tagsInOrder_tagPayloads done).1

theorem tagsInOrder_getBatchedPrompt {config : Config} {n : Nat}
    {validationStep rankInMesh : Option Nat} {controller after : Controller}
    {payloads : List RLPayload} {isEnd : Bool}
    (answered : getBatchedPrompt config n validationStep rankInMesh controller =
      (.ok (payloads, isEnd), after)) : TagsInOrder payloads := by
  rw [getBatchedPrompt] at answered
  dsimp only at answered
  split at answered
  next => cases answered
  next promptIdxs ended fetcher fetched =>
    split at answered
    next =>
      split at answered
      next => cases answered
      next tagged promptNum controlled =>
        split at answered
        next => cases answered
        next =>
          cases answered
          exact tagsInOrder_controlVersions controlled
    next =>
      cases answered
      exact tagsInOrder_map_const promptIdxs 0

def Fueled (promptNum : Dict Nat Nat) (version fuel : Nat) : Prop :=
  (promptNum.keys.filter fun key => version ≤ key).length < fuel

theorem fueled_size (promptNum : Dict Nat Nat) (version : Nat) :
    Fueled promptNum version (promptNum.size + 1) := by
  have fewer := length_filter_le (fun key => decide (version ≤ key)) promptNum.keys
  rw [Dict.keys, length_map] at fewer
  exact Nat.lt_succ_of_le fewer

theorem mem_keys_of_get? {used : Nat} (counted : promptNum.get? version = some used) :
    version ∈ promptNum.keys :=
  Dict.mem_keys_iff_get?.mpr ⟨used, counted⟩

theorem Fueled.next (fueled : Fueled promptNum version (fuel + 1))
    (counted : version ∈ promptNum.keys) : Fueled promptNum (version + 1) fuel := by
  have again : (promptNum.keys.filter fun key => version + 1 ≤ key) =
      (promptNum.keys.filter fun key => version ≤ key).filter fun key => version + 1 ≤ key := by
    rw [filter_filter]
    refine filter_congr fun key _ => ?_
    rw [← Bool.decide_and, decide_eq_decide]
    exact ⟨fun later => ⟨later, (Nat.le_succ version).trans later⟩, And.left⟩
  have fewer : (promptNum.keys.filter fun key => version + 1 ≤ key).length <
      (promptNum.keys.filter fun key => version ≤ key).length := by
    rw [again]
    refine Nat.lt_of_le_of_ne (length_filter_le _ _) fun same => ?_
    have isLater := length_filter_eq_length_iff.mp same version
      (mem_filter.mpr ⟨counted, decide_eq_true (Nat.le_refl version)⟩)
    exact absurd (of_decide_eq_true isLater) (Nat.not_succ_le_self version)
  exact Nat.lt_of_lt_of_le fewer (Nat.le_of_lt_succ fueled)

/-- Within a quota the search ends at a version with room.  A version that it leaves behind
has a counter. -/
theorem firstOpenVersion_ok (within : WithinQuota quota promptNum)
    (fueled : Fueled promptNum version fuel) :
    ∃ openVersion, firstOpenVersion quota promptNum fuel version = .ok openVersion ∧
      (0 < quota → promptCount promptNum openVersion < quota) ∧
      (openVersion = version ∨ version ∈ promptNum.keys) := by
  induction fuel generalizing version with
  | zero => exact absurd fueled (Nat.not_lt_zero _)
  | succ fuel ih =>
    rw [firstOpenVersion]
    cases found : promptNum.get? version with
    | none =>
      refine ⟨version, rfl, fun positive => ?_, .inl rfl⟩
      rw [promptCount, found]
      exact positive
    | some used =>
      have counted := mem_keys_of_get? found
      dsimp only
      by_cases room : used < quota
      · rw [if_pos room]
        refine ⟨version, rfl, fun _ => ?_, .inl rfl⟩
        rw [promptCount, found]
        exact room
      · have full : used = quota :=
          Nat.le_antisymm (within version used found) (Nat.le_of_not_lt room)
        rw [if_neg room, if_pos full]
        obtain ⟨openVersion, reached, hasRoom, -⟩ := ih (fueled.next counted)
        exact ⟨openVersion, reached, hasRoom, .inr counted⟩

theorem WithinQuota.set (within : WithinQuota quota promptNum) {count : Nat}
    (room : count ≤ quota) : WithinQuota quota (promptNum.set version count) := by
  intro other used counted
  rw [Dict.get?_set] at counted
  split at counted
  · exact Option.some.inj counted ▸ room
  · exact within other used counted

/-- What tagging leaves in the table: every counter has grown by the prompts with its tag,
and the version of the search has a counter as soon as there is a prompt. -/
structure TagsCounted (quota version : Nat) (idxs : List Nat) (promptNum : Dict Nat Nat)
    (tagged : List RLPayload) (final : Dict Nat Nat) : Prop where
  within : WithinQuota quota final
  counts : ∀ other, promptCount final other = promptCount promptNum other + taggedCount other tagged
  keys : ∀ other, other ∈ promptNum.keys → other ∈ final.keys
  current : idxs ≠ [] → version ∈ final.keys
  fetched : tagged.map RLPayload.promptIdx = idxs

/-- Within a quota, a positive one if there are prompts, tagging never fails. -/
theorem tagPayloads_ok (within : WithinQuota quota promptNum)
    (positive : idxs ≠ [] → 0 < quota) (version : Nat) :
    ∃ tagged final, tagPayloads quota idxs version promptNum = (.ok tagged, final) ∧
      TagsCounted quota version idxs promptNum tagged final := by
  induction idxs generalizing version promptNum with
  | nil =>
    exact ⟨[], promptNum, rfl,
      { within := within
        counts := fun _ => rfl
        keys := fun _ => id
        current := fun nonempty => absurd rfl nonempty
        fetched := rfl }⟩
  | cons promptIdx rest ih =>
    obtain ⟨openVersion, found, hasRoom, searched⟩ :=
      firstOpenVersion_ok within (fueled_size promptNum version)
    have some : 0 < quota := positive (cons_ne_nil promptIdx rest)
    have counter : WithinQuota quota
        (promptNum.set openVersion (promptCount promptNum openVersion + 1)) :=
      within.set (hasRoom some)
    obtain ⟨tagged, final, done, counted⟩ := ih counter (fun _ => some) openVersion
    refine ⟨⟨promptIdx, openVersion⟩ :: tagged, final, ?_,
      { within := counted.within
        counts := ?_
        keys := fun other isKey => counted.keys other (Dict.mem_keys_set.mpr (.inr isKey))
        current := fun _ => counted.keys version (Dict.mem_keys_set.mpr ?_)
        fetched := ?_ }⟩
    · rw [tagPayloads, found]
      dsimp only
      rw [promptCount] at done
      rw [done]
    · intro other
      rw [counted.counts other, promptCount_set, taggedCount_cons]
      split
      next same =>
        rw [if_pos same.symm, same, Nat.add_right_comm, Nat.add_assoc]
      next other_ne =>
        rw [if_neg fun same => other_ne same.symm]
        rfl
    · rcases searched with rfl | isKey
      · exact .inl rfl
      · exact .inr isKey
    · rw [map_cons, counted.fetched]

theorem promptCount_le_tagPayloads (idxs : List Nat) (version other : Nat)
    (promptNum : Dict Nat Nat) :
    promptCount promptNum other ≤
      promptCount (tagPayloads quota idxs version promptNum).2 other := by
  induction idxs generalizing version promptNum with
  | nil => exact Nat.le_refl _
  | cons promptIdx rest ih =>
    rw [tagPayloads]
    split
    next => exact Nat.le_refl _
    next openVersion found =>
      have raised : promptCount promptNum other ≤ promptCount
          (promptNum.set openVersion ((promptNum.get? openVersion).getD 0 + 1)) other := by
        rw [promptCount_set]
        split
        next same => exact same ▸ Nat.le_succ _
        next => exact Nat.le_refl _
      have later := raised.trans (ih openVersion _)
      dsimp only
      split
      next exn final tagsRest =>
        rw [tagsRest] at later
        exact later
      next others final tagsRest =>
        rw [tagsRest] at later
        exact later

theorem promptCount_tagPayloads_pos (noCounters : promptNum.keys = []) (some : idxs ≠ [])
    (version : Nat) : 0 < promptCount (tagPayloads quota idxs version promptNum).2 version := by
  cases idxs with
  | nil => exact absurd rfl some
  | cons promptIdx rest =>
    have absent : promptNum.get? version = none := by
      rw [Dict.get?_eq_none_iff, noCounters]
      exact not_mem_nil
    have found : firstOpenVersion quota promptNum (promptNum.size + 1) version =
        .ok version := by
      rw [firstOpenVersion, absent]
    have counted : 0 < promptCount (promptNum.set version
        ((promptNum.get? version).getD 0 + 1)) version := by
      rw [promptCount_set, if_pos rfl]
      exact Nat.succ_pos _
    have later := counted.trans_le (@promptCount_le_tagPayloads quota rest version version _)
    rw [tagPayloads, found]
    dsimp only
    split
    next exn final tagsRest =>
      rw [tagsRest] at later
      exact later
    next others final tagsRest =>
      rw [tagsRest] at later
      exact later

end CosmosRl.Dispatcher
