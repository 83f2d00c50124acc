import CosmosRl.Reward.LocalRewardCalculator

/-!
The groups that `find_maximal_prefix_groups` finds.

A node of the trie stands for the entries that go through it, each with its number and the
rest of its sequence.  Inserting a sequence adds one entry, so that the nodes of a trie that
has been built stand for the sequences that start with the path to them.  The groups are
then read off the entries alone.
-/

namespace CosmosRl.Reward

open List

variable {entries : List (Nat × List Nat)} {seqs : List (List Nat)}

def startersOf (path : List Nat) (entries : List (Nat × List Nat)) : List Nat :=
  (entries.filter fun entry => path.isPrefixOf entry.2).map Prod.fst

def tailsAt (token : Nat) (entries : List (Nat × List Nat)) : List (Nat × List Nat) :=
  entries.filterMap fun entry =>
    match entry.2 with
    | [] => none
    | first :: rest => if first = token then some (entry.1, rest) else none

inductive Represents : TrieNode → List (Nat × List Nat) → Prop where
  | node {children : List (Nat × TrieNode)} {entries : List (Nat × List Nat)}
      (distinct : (children.map Prod.fst).Nodup)
      (complete : ∀ token, tailsAt token entries ≠ [] → token ∈ children.map Prod.fst)
      (below : ∀ child ∈ children, Represents child.2 (tailsAt child.1 entries)) :
      Represents (.node (entries.map Prod.fst) children) entries

section Entries

@[simp]
theorem tailsAt_nil (token : Nat) : tailsAt token [] = [] := rfl

theorem tailsAt_append (token : Nat) (front back : List (Nat × List Nat)) :
    tailsAt token (front ++ back) = tailsAt token front ++ tailsAt token back :=
  filterMap_append

@[simp]
theorem tailsAt_singleton_nil (token idx : Nat) : tailsAt token [(idx, [])] = [] := rfl

theorem tailsAt_singleton_cons (token idx first : Nat) (rest : List Nat) :
    tailsAt token [(idx, first :: rest)] = if first = token then [(idx, rest)] else [] := by
  rw [tailsAt, filterMap_cons]
  by_cases here : first = token <;> simp [here]

@[simp]
theorem startersOf_nil_path (entries : List (Nat × List Nat)) :
    startersOf [] entries = entries.map Prod.fst := by
  simp [startersOf]

/-- The entries that start with a longer path start with its rest behind the first
token. -/
theorem startersOf_tailsAt (token : Nat) (path : List Nat) (entries : List (Nat × List Nat)) :
    startersOf path (tailsAt token entries) = startersOf (token :: path) entries := by
  induction entries with
  | nil => rfl
  | cons entry entries ih =>
    obtain ⟨idx, seq⟩ := entry
    rw [startersOf, startersOf] at ih
    cases seq with
    | nil => simpa [startersOf, tailsAt] using ih
    | cons first rest =>
      by_cases here : first = token
      · by_cases starts : path.isPrefixOf rest = true
        · simpa [startersOf, tailsAt, here, starts] using ih
        · simpa [startersOf, tailsAt, here, starts] using ih
      · have other : ¬ token = first := fun same => here same.symm
        simpa [startersOf, tailsAt, here, other] using ih

theorem startersOf_singleton (token : Nat) (entries : List (Nat × List Nat)) :
    startersOf [token] entries = (tailsAt token entries).map Prod.fst := by
  rw [← startersOf_tailsAt, startersOf_nil_path]

theorem startersOf_sublist {path longer : List Nat} (extends_ : path <+: longer)
    (entries : List (Nat × List Nat)) :
    (startersOf longer entries).Sublist (startersOf path entries) := by
  apply List.Sublist.map
  apply monotone_filter_right
  intro entry starts
  rw [List.isPrefixOf_iff_prefix] at starts ⊢
  exact extends_.trans starts

end Entries

namespace TrieNode

@[simp]
theorem idxs_node (idxs : List Nat) (children : List (Nat × TrieNode)) :
    (node idxs children).idxs = idxs := rfl

theorem keys_setdefault (token : Nat) (change : TrieNode → TrieNode)
    (children : List (Nat × TrieNode)) :
    (setdefault token change children).map Prod.fst =
      if token ∈ children.map Prod.fst then children.map Prod.fst
      else children.map Prod.fst ++ [token] := by
  induction children with
  | nil => rfl
  | cons child children ih =>
    rw [setdefault]
    by_cases here : child.1 = token
    · rw [if_pos here, map_cons, map_cons, if_pos (by simp [here]), here]
    · have different : ¬ token = child.1 := fun same => here same.symm
      rw [if_neg here, map_cons, map_cons, ih]
      by_cases later : token ∈ children.map Prod.fst
      · rw [if_pos later, if_pos (mem_cons_of_mem _ later)]
      · rw [if_neg later, if_neg (by simp only [mem_cons, not_or]; exact ⟨different, later⟩),
          cons_append]

theorem mem_setdefault {token : Nat} {change : TrieNode → TrieNode}
    {children : List (Nat × TrieNode)} {child : Nat × TrieNode}
    (distinct : (children.map Prod.fst).Nodup) (member : child ∈ setdefault token change children) :
    (child ∈ children ∧ child.1 ≠ token) ∨
      (∃ old, (token, old) ∈ children ∧ child = (token, change old)) ∨
      (token ∉ children.map Prod.fst ∧ child = (token, change (node [] []))) := by
  induction children with
  | nil =>
    rw [setdefault, mem_singleton] at member
    exact Or.inr (Or.inr ⟨not_mem_nil, member⟩)
  | cons first children ih =>
    rw [map_cons, nodup_cons] at distinct
    rw [setdefault] at member
    by_cases here : first.1 = token
    · rw [if_pos here, mem_cons] at member
      rcases member with same | later
      · refine Or.inr (Or.inl ⟨first.2, ?_, same⟩)
        rw [← here]
        exact mem_cons_self
      · refine Or.inl ⟨mem_cons_of_mem first later, ?_⟩
        intro same
        apply distinct.1
        rw [here, ← same]
        exact mem_map_of_mem later
    · rw [if_neg here, mem_cons] at member
      rcases member with rfl | later
      · exact Or.inl ⟨mem_cons_self, here⟩
      · rcases ih distinct.2 later with
          ⟨old, different⟩ | ⟨old, isOld, same⟩ | ⟨fresh, same⟩
        · exact Or.inl ⟨mem_cons_of_mem first old, different⟩
        · exact Or.inr (Or.inl ⟨old, mem_cons_of_mem first isOld, same⟩)
        · refine Or.inr (Or.inr ⟨?_, same⟩)
          rw [map_cons, mem_cons, not_or]
          exact ⟨fun same => here same.symm, fresh⟩

end TrieNode

section Building

theorem represents_empty : Represents (.node [] []) [] :=
  @Represents.node [] [] nodup_nil (fun _ someTail => absurd rfl someTail)
    (fun _ member => absurd member not_mem_nil)

/-- Inserting a sequence adds its entry. -/
theorem represents_insert (idx : Nat) (seq : List Nat) {trie : TrieNode}
    (represents : Represents trie entries) :
    Represents (trie.insert idx seq) (entries ++ [(idx, seq)]) := by
  induction seq generalizing trie entries with
  | nil =>
    obtain ⟨distinct, complete, below⟩ := represents
    have same : ∀ token, tailsAt token (entries ++ [(idx, [])]) = tailsAt token entries := by
      intro token
      rw [tailsAt_append, tailsAt_singleton_nil, append_nil]
    rw [TrieNode.insert, ← map_singleton (f := Prod.fst) (a := (idx, ([] : List Nat))),
      ← map_append]
    refine .node distinct ?_ ?_
    · intro token someTail
      rw [same] at someTail
      exact complete token someTail
    · intro child member
      rw [same]
      exact below child member
  | cons first rest ih =>
    obtain @⟨children, _, distinct, complete, below⟩ := represents
    have here : tailsAt first (entries ++ [(idx, first :: rest)]) =
        tailsAt first entries ++ [(idx, rest)] := by
      rw [tailsAt_append, tailsAt_singleton_cons, if_pos rfl]
    have elsewhere : ∀ token, token ≠ first →
        tailsAt token (entries ++ [(idx, first :: rest)]) = tailsAt token entries := by
      intro token different
      rw [tailsAt_append, tailsAt_singleton_cons, if_neg (fun same => different same.symm),
        append_nil]
    rw [TrieNode.insert, ← map_singleton (f := Prod.fst) (a := (idx, first :: rest)),
      ← map_append]
    refine .node ?_ ?_ ?_
    · rw [TrieNode.keys_setdefault]
      split
      case isTrue => exact distinct
      case isFalse fresh =>
        exact nodup_append_comm.mp (nodup_cons.mpr ⟨fresh, distinct⟩)
    · intro token someTail
      have known : token = first ∨ token ∈ children.map Prod.fst := by
        by_cases same : token = first
        · exact Or.inl same
        · rw [elsewhere token same] at someTail
          exact Or.inr (complete token someTail)
      rw [TrieNode.keys_setdefault]
      split
      case isTrue present =>
        rcases known with rfl | known
        · exact present
        · exact known
      case isFalse =>
        rw [mem_append, mem_singleton]
        exact known.symm
    · intro child member
      rcases TrieNode.mem_setdefault distinct member with
        ⟨old, different⟩ | ⟨old, isOld, rfl⟩ | ⟨fresh, rfl⟩
      · rw [elsewhere child.1 different]
        exact below child old
      · rw [here]
        exact ih (below _ isOld)
      · -- the token is new, so that no entry went on with it
        have nothing : tailsAt first entries = [] := by
          by_contra someTail
          exact fresh (complete first someTail)
        rw [here, nothing]
        exact ih represents_empty

def numbered (seqs : List (List Nat)) : List (Nat × List Nat) :=
  seqs.zipIdx.map Prod.swap

theorem represents_buildTrie (seqs : List (List Nat)) :
    Represents (TrieNode.buildTrie seqs) (numbered seqs) := by
  have inserted : ∀ (pairs : List (List Nat × Nat)) (trie : TrieNode)
      (entries : List (Nat × List Nat)), Represents trie entries →
      Represents (pairs.foldl (fun root entry => root.insert entry.2 entry.1) trie)
        (entries ++ pairs.map Prod.swap) := by
    intro pairs
    induction pairs with
    | nil =>
      intro trie entries represents
      rwa [map_nil, append_nil]
    | cons pair pairs ih =>
      intro trie entries represents
      have next := ih _ _ (represents_insert pair.2 pair.1 represents)
      rw [append_assoc] at next
      exact next
  exact inserted seqs.zipIdx _ [] represents_empty

end Building

section Groups

variable {minimum : Nat} {start path sharedPrefix : List Nat} {idxs : List Nat}
  {trie : TrieNode}

theorem idxs_of_represents (represents : Represents trie entries) :
    trie.idxs = entries.map Prod.fst := by
  cases represents
  rfl

variable {children : List (Nat × TrieNode)}

theorem mem_groupsOfChildren_iff {group : List Nat × List Nat} :
    group ∈ TrieNode.groupsOfChildren minimum start children ↔
      ∃ child ∈ children, group ∈ child.2.groups minimum (start ++ [child.1]) := by
  induction children with
  | nil => simp [TrieNode.groupsOfChildren]
  | cons child children ih =>
    rw [TrieNode.groupsOfChildren, mem_append, ih]
    simp only [mem_cons, exists_eq_or_imp]
    exact or_comm

def MaximalIn (entries : List (Nat × List Nat)) (path : List Nat) : Prop :=
  1 < (startersOf path entries).length ∧
    ∀ token, (startersOf (path ++ [token]) entries).length ≤ 1

theorem maximalIn_cons_iff (token : Nat) (path : List Nat) :
    MaximalIn entries (token :: path) ↔ MaximalIn (tailsAt token entries) path := by
  simp only [MaximalIn, cons_append, startersOf_tailsAt]

theorem maximalIn_nil_iff
    (complete : ∀ token, tailsAt token entries ≠ [] → token ∈ children.map Prod.fst)
    (below : ∀ child ∈ children, Represents child.2 (tailsAt child.1 entries)) :
    MaximalIn entries [] ↔
      1 < (entries.map Prod.fst).length ∧
        ¬ children.any (fun child => decide (1 < child.2.idxs.length)) := by
  rw [MaximalIn, startersOf_nil_path]
  refine and_congr_right fun _ => ?_
  rw [Bool.not_eq_true, any_eq_false]
  constructor
  · intro single child member
    have few := single child.1
    rw [nil_append, startersOf_singleton, ← idxs_of_represents (below child member)] at few
    rw [decide_eq_true_eq, Nat.not_lt]
    exact few
  · intro few token
    rw [nil_append, startersOf_singleton]
    by_cases nothing : tailsAt token entries = []
    · rw [nothing]
      exact Nat.zero_le 1
    · obtain ⟨child, member, rfl⟩ := mem_map.mp (complete token nothing)
      have single := few child member
      rw [decide_eq_true_eq, Nat.not_lt, idxs_of_represents (below child member)] at single
      exact single

/-- The groups below a node, by the entries that the node stands for. -/
theorem mem_groups_iff (represents : Represents trie entries) (start : List Nat)
    (group : List Nat × List Nat) :
    group ∈ trie.groups minimum start ↔
      ∃ path, group = (start ++ path, startersOf path entries) ∧
        minimum ≤ (start ++ path).length ∧ MaximalIn entries path := by
  induction represents generalizing start with
  | @node children entries distinct complete below ih =>
    rw [TrieNode.groups, mem_append, mem_groupsOfChildren_iff]
    constructor
    · rintro (⟨child, member, inChild⟩ | own)
      · obtain ⟨path, rfl, enough, maximal⟩ := (ih child member (start ++ [child.1])).mp inChild
        refine ⟨child.1 :: path, ?_, ?_, (maximalIn_cons_iff child.1 path).mpr maximal⟩
        · rw [startersOf_tailsAt, append_assoc, singleton_append]
        · rwa [append_assoc, singleton_append] at enough
      · split at own
        case isFalse => cases own
        case isTrue found =>
          obtain ⟨enough, shared, single⟩ := found
          rw [mem_singleton] at own
          refine ⟨[], ?_, ?_, (maximalIn_nil_iff complete below).mpr ⟨shared, single⟩⟩
          · rw [own, append_nil, startersOf_nil_path]
          · rwa [append_nil]
    · rintro ⟨path, rfl, enough, maximal⟩
      cases path with
      | nil =>
        obtain ⟨shared, single⟩ := (maximalIn_nil_iff complete below).mp maximal
        rw [append_nil] at enough ⊢
        refine Or.inr ?_
        rw [if_pos ⟨enough, shared, single⟩, startersOf_nil_path]
        exact mem_singleton_self _
      | cons token path =>
        have someTail : tailsAt token entries ≠ [] := by
          intro nothing
          have two := maximal.1
          rw [← startersOf_tailsAt, nothing] at two
          cases two
        obtain ⟨child, member, rfl⟩ := mem_map.mp (complete token someTail)
        refine Or.inl ⟨child, member, (ih child member _).mpr ⟨path, ?_, ?_,
          (maximalIn_cons_iff child.1 path).mp maximal⟩⟩
        · rw [startersOf_tailsAt, append_assoc, singleton_append]
        · rwa [append_assoc, singleton_append]

theorem nodup_groupsOfChildren
    (distinct : (children.map Prod.fst).Nodup) (each : ∀ child ∈ children,
      ((child.2.groups minimum (start ++ [child.1])).map Prod.fst).Nodup)
    (longer : ∀ child ∈ children, ∀ group ∈ child.2.groups minimum (start ++ [child.1]),
      start ++ [child.1] <+: group.1) :
    ((TrieNode.groupsOfChildren minimum start children).map Prod.fst).Nodup := by
  induction children with
  | nil => exact nodup_nil
  | cons child children ih =>
    rw [map_cons, nodup_cons] at distinct
    rw [forall_mem_cons] at each longer
    rw [TrieNode.groupsOfChildren, map_append, nodup_append]
    refine ⟨ih distinct.2 each.2 longer.2, each.1, ?_⟩
    intro left isLeft right isRight same
    obtain ⟨leftGroup, inRest, rfl⟩ := mem_map.mp isLeft
    obtain ⟨rightGroup, inFirst, rfl⟩ := mem_map.mp isRight
    obtain ⟨other, member, inOther⟩ := mem_groupsOfChildren_iff.mp inRest
    have ofOther := longer.2 other member leftGroup inOther
    have ofFirst := longer.1 rightGroup inFirst
    rw [← same] at ofFirst
    -- two paths of one length that start the same group are equal
    have equal := (prefix_of_prefix_length_le ofOther ofFirst (by simp)).eq_of_length (by simp)
    have sameToken : other.1 = child.1 := by simpa using equal
    exact distinct.1 (sameToken ▸ mem_map_of_mem member)

theorem nodup_groups (represents : Represents trie entries) (start : List Nat) :
    ((trie.groups minimum start).map Prod.fst).Nodup := by
  induction represents generalizing start with
  | @node children entries distinct complete below ih =>
    have longer : ∀ child ∈ children, ∀ group ∈
        child.2.groups minimum (start ++ [child.1]), start ++ [child.1] <+: group.1 := by
      intro child member group isGroup
      obtain ⟨path, rfl, _, _⟩ :=
        (mem_groups_iff (below child member) (start ++ [child.1]) group).mp isGroup
      exact prefix_append _ _
    rw [TrieNode.groups, map_append, nodup_append]
    refine ⟨nodup_groupsOfChildren distinct (fun child member =>
      ih child member _) longer, ?_, ?_⟩
    · split
      · exact nodup_singleton _
      · exact nodup_nil
    · intro left isLeft right isRight same
      obtain ⟨group, inChildren, rfl⟩ := mem_map.mp isLeft
      obtain ⟨child, member, inChild⟩ := mem_groupsOfChildren_iff.mp inChildren
      have more := (longer child member group inChild).length_le
      split at isRight
      case isFalse => cases isRight
      case isTrue =>
        rw [map_singleton, mem_singleton] at isRight
        rw [same, isRight, length_append, length_singleton] at more
        exact Nat.not_succ_le_self _ more

end Groups

section Sharing

variable {minimum : Nat} {sharedPrefix other : List Nat} {idx : Nat}

def starters (seqs : List (List Nat)) (sharedPrefix : List Nat) : List Nat :=
  startersOf sharedPrefix (numbered seqs)

theorem mem_starters_iff :
    idx ∈ starters seqs sharedPrefix ↔
      ∃ seq, seqs[idx]? = some seq ∧ sharedPrefix <+: seq := by
  rw [starters, startersOf, numbered, mem_map]
  constructor
  · rintro ⟨entry, member, rfl⟩
    obtain ⟨isEntry, starts⟩ := mem_filter.mp member
    obtain ⟨pair, isPair, rfl⟩ := mem_map.mp isEntry
    exact ⟨pair.1, mem_zipIdx_iff_getElem?.mp isPair, isPrefixOf_iff_prefix.mp starts⟩
  · rintro ⟨seq, found, starts⟩
    refine ⟨(idx, seq), mem_filter.mpr ⟨?_, isPrefixOf_iff_prefix.mpr starts⟩, rfl⟩
    exact mem_map.mpr ⟨(seq, idx), mem_zipIdx_iff_getElem?.mpr found, rfl⟩

theorem starters_sublist (extends_ : sharedPrefix <+: other) :
    (starters seqs other).Sublist (starters seqs sharedPrefix) :=
  startersOf_sublist extends_ _

/-- At least `minimum` tokens that two sequences start with, and no longer prefix that
goes on from them is one of two sequences. -/
structure MaximalShared (seqs : List (List Nat)) (minimum : Nat) (sharedPrefix : List Nat) :
    Prop where
  enough : minimum ≤ sharedPrefix.length
  shared : 1 < (starters seqs sharedPrefix).length
  maximal : ∀ longer, sharedPrefix <+: longer → longer ≠ sharedPrefix →
    (starters seqs longer).length ≤ 1

theorem maximalShared_iff :
    MaximalShared seqs minimum sharedPrefix ↔
      minimum ≤ sharedPrefix.length ∧ MaximalIn (numbered seqs) sharedPrefix := by
  constructor
  · rintro ⟨enough, shared, maximal⟩
    refine ⟨enough, shared, ?_⟩
    intro token
    exact maximal _ (prefix_append _ _) (by simp)
  · rintro ⟨enough, shared, single⟩
    refine ⟨enough, shared, ?_⟩
    rintro longer ⟨rest, rfl⟩ different
    cases rest with
    | nil => exact absurd (append_nil _) different
    | cons token rest =>
      have fewer := @starters_sublist seqs (sharedPrefix ++ [token])
        (sharedPrefix ++ token :: rest) ⟨rest, by simp⟩
      exact Nat.le_trans fewer.length_le (single token)

theorem MaximalShared.eq_of_common (first : MaximalShared seqs minimum sharedPrefix)
    (second : MaximalShared seqs minimum other) (inFirst : idx ∈ starters seqs sharedPrefix)
    (inSecond : idx ∈ starters seqs other) : sharedPrefix = other := by
  obtain ⟨seq, found, starts⟩ := mem_starters_iff.mp inFirst
  obtain ⟨same, foundAgain, startsToo⟩ := mem_starters_iff.mp inSecond
  rw [found, Option.some.injEq] at foundAgain
  subst foundAgain
  by_contra different
  rcases prefix_or_prefix_of_prefix starts startsToo with shorter | longer
  · exact Nat.not_lt.mpr (first.maximal other shorter (Ne.symm different)) second.shared
  · exact Nat.not_lt.mpr (second.maximal sharedPrefix longer different) first.shared

variable {threshold : Int}

/-- `find_maximal_prefix_groups` finds exactly the maximal shared prefixes, each with the
numbers of the sequences that start with it. -/
theorem mem_findMaximalPrefixGroups_iff (positive : 1 ≤ threshold) (group : List Nat × List Nat) :
    group ∈ findMaximalPrefixGroups seqs (some threshold) ↔
      MaximalShared seqs threshold.toNat group.1 ∧ group.2 = starters seqs group.1 := by
  rw [findMaximalPrefixGroups, if_neg (by omega), mem_groups_iff (represents_buildTrie seqs)]
  constructor
  · rintro ⟨path, rfl, enough, maximal⟩
    exact ⟨maximalShared_iff.mpr ⟨enough, maximal⟩, rfl⟩
  · rintro ⟨maximal, numbers⟩
    obtain ⟨enough, maximalIn⟩ := maximalShared_iff.mp maximal
    exact ⟨group.1, Prod.ext rfl numbers, enough, maximalIn⟩

theorem pairwise_disjoint_findMaximalPrefixGroups (positive : 1 ≤ threshold) :
    (findMaximalPrefixGroups seqs (some threshold)).Pairwise
      fun first second => List.Disjoint first.2 second.2 := by
  have distinct : ((findMaximalPrefixGroups seqs (some threshold)).map Prod.fst).Nodup := by
    rw [findMaximalPrefixGroups, if_neg (by omega)]
    exact nodup_groups (represents_buildTrie seqs) []
  refine List.Nodup.pairwise_of_forall_ne (List.Nodup.of_map _ distinct) ?_
  intro first isFirst second isSecond different idx inFirst inSecond
  obtain ⟨maximalFirst, numbersFirst⟩ := (mem_findMaximalPrefixGroups_iff positive _).mp isFirst
  obtain ⟨maximalSecond, numbersSecond⟩ := (mem_findMaximalPrefixGroups_iff positive _).mp isSecond
  rw [numbersFirst] at inFirst
  rw [numbersSecond] at inSecond
  have same := maximalFirst.eq_of_common maximalSecond inFirst inSecond
  exact different (Prod.ext same (by rw [numbersFirst, numbersSecond, same]))

end Sharing

end CosmosRl.Reward
