import CosmosRl.Utils.Ulysses

/-!
The re-layout of Ulysses is exact.

The exchange takes the parts of a tensor along the sequence to its parts along the heads and
back.  The key-value heads are repeated before they are spread, so that a rank has the head
that each of its query heads has without context parallelism.
-/

namespace CosmosRl.Utils

open CosmosRl.Foundation

universe u

structure UlyssesSizes where
  worldSize : Nat
  batch : Nat
  seqLen : Nat
  heads : Nat
  kvHeads : Nat
  headDim : Nat
  worldSize_pos : 0 < worldSize
  kvHeads_pos : 0 < kvHeads
  seqLen_dvd : worldSize ∣ seqLen
  heads_dvd : worldSize ∣ heads
  kvHeads_dvd : kvHeads ∣ heads
  kvHeads_related : worldSize ∣ kvHeads ∨ kvHeads ∣ worldSize

structure AttentionStates (Entry : Type u) (sizes : UlyssesSizes) where
  query : Tensor Entry
  key : Tensor Entry
  value : Tensor Entry
  query_shape : query.shape = [sizes.batch, sizes.seqLen, sizes.heads, sizes.headDim]
  key_shape : key.shape = [sizes.batch, sizes.seqLen, sizes.kvHeads, sizes.headDim]
  value_shape : value.shape = [sizes.batch, sizes.seqLen, sizes.kvHeads, sizes.headDim]

variable {Entry : Type u} [Inhabited Entry] {sizes : UlyssesSizes}

structure QueryHeads (sizes : UlyssesSizes) (whole : Tensor Entry) (rank : Fin sizes.worldSize)
    (part : Tensor Entry) : Prop where
  shape_eq : part.shape =
    [sizes.batch, sizes.seqLen, sizes.heads / sizes.worldSize, sizes.headDim]
  entries : ∀ number position head channel, number < sizes.batch → position < sizes.seqLen →
    head < sizes.heads / sizes.worldSize → channel < sizes.headDim →
    part.get [number, position, head, channel] =
      whole.get [number, position, rank * (sizes.heads / sizes.worldSize) + head, channel]

/-- The whole sequence for key-value heads of a rank.  The local head that a local query head
meets in groups of the local size is the one that the query head meets without the mesh. -/
structure PairedHeads (sizes : UlyssesSizes) (whole : Tensor Entry)
    (rank : Fin sizes.worldSize) (part : Tensor Entry) : Prop where
  shape_eq : part.shape = [sizes.batch, sizes.seqLen, part.size 2, sizes.headDim]
  heads_eq : part.size 2 =
    sizes.kvHeads * max (sizes.worldSize / sizes.kvHeads) 1 / sizes.worldSize
  inPart : ∀ head < sizes.heads / sizes.worldSize,
    head / (sizes.heads / sizes.worldSize / part.size 2) < part.size 2
  entries : ∀ number position head channel, number < sizes.batch → position < sizes.seqLen →
    head < sizes.heads / sizes.worldSize → channel < sizes.headDim →
    part.get [number, position, head / (sizes.heads / sizes.worldSize / part.size 2), channel] =
      whole.get [number, position,
        (rank * (sizes.heads / sizes.worldSize) + head) / (sizes.heads / sizes.kvHeads), channel]

structure RelayoutExact (states : AttentionStates Entry sizes) : Prop where
  query : ∀ rank : Fin sizes.worldSize, ∃ part,
    gatherSeqScatterHeads 1 2 (sliceInputTensor states.query 1) rank = some part ∧
      QueryHeads sizes states.query rank part
  paired : ∀ whole ∈ [states.key, states.value], ∃ repeated : Fin sizes.worldSize → Tensor Entry,
    (∀ peer, repeatKv (max (sizes.worldSize / sizes.kvHeads) 1) (sliceInputTensor whole 1 peer) =
      some (repeated peer)) ∧
    ∀ rank, ∃ part, gatherSeqScatterHeads 1 2 repeated rank = some part ∧
      PairedHeads sizes whole rank part
  /-- The same for what the attention is called with. -/
  inputs : 1 < sizes.worldSize → ∀ ofModule, ∃ inputs,
    attentionInputs ofModule
        (fun rank : Fin sizes.worldSize => orient ofModule (sliceInputTensor states.query 1 rank))
        (fun rank => orient ofModule (sliceInputTensor states.key 1 rank))
        (fun rank => orient ofModule (sliceInputTensor states.value 1 rank)) = some inputs ∧
      ∀ rank, ∃ query key value,
        inputs rank = (orient ofModule query, orient ofModule key, orient ofModule value) ∧
          QueryHeads sizes states.query rank query ∧ PairedHeads sizes states.key rank key ∧
          PairedHeads sizes states.value rank value
  /-- What the ranks have computed for their heads comes back as parts of the sequence. -/
  restored : ∀ (output : Tensor Entry) (width : Nat),
    output.shape = [sizes.batch, sizes.seqLen, sizes.heads, width] →
      ∀ rank : Fin sizes.worldSize,
        gatherHeadsScatterSeq 2 1 (sliceInputTensor output 2) rank =
          some (sliceInputTensor output 1 rank)
  undone : ∀ (parts : Fin sizes.worldSize → Tensor Entry) (width : Nat),
    (∀ rank, (parts rank).shape =
      [sizes.batch, sizes.seqLen / sizes.worldSize, sizes.heads, width]) →
      ∃ gathered, (∀ rank, gatherSeqScatterHeads 1 2 parts rank = some (gathered rank)) ∧
        ∀ rank, gatherHeadsScatterSeq 2 1 gathered rank = some (parts rank)
  redone : ∀ (parts : Fin sizes.worldSize → Tensor Entry) (width : Nat),
    (∀ rank, (parts rank).shape =
      [sizes.batch, sizes.seqLen, sizes.heads / sizes.worldSize, width]) →
      ∃ scattered, (∀ rank, gatherHeadsScatterSeq 2 1 parts rank = some (scattered rank)) ∧
        ∀ rank, gatherSeqScatterHeads 1 2 scattered rank = some (parts rank)

section Exchanges

variable {whole : Tensor Entry} {width : Nat}

theorem gatherSeqScatterHeads_slices {worldSize batch seqLen heads : Nat}
    (shape_eq : whole.shape = [batch, seqLen, heads, width]) (seqLen_dvd : worldSize ∣ seqLen)
    (heads_dvd : worldSize ∣ heads) (rank : Fin worldSize) :
    gatherSeqScatterHeads 1 2 (sliceInputTensor whole 1) rank =
      some (sliceInputTensor whole 2 rank) := by
  refine allToAllTensor_slices (Nat.succ_ne_self 1).symm ?_ ?_ ?_ rank
  · rw [shape_eq]
    show 1 < 4
    decide
  · unfold Tensor.size
    rw [shape_eq]
    exact seqLen_dvd
  · unfold Tensor.size
    rw [shape_eq]
    exact heads_dvd

theorem gatherHeadsScatterSeq_slices {worldSize batch seqLen heads : Nat}
    (shape_eq : whole.shape = [batch, seqLen, heads, width]) (seqLen_dvd : worldSize ∣ seqLen)
    (heads_dvd : worldSize ∣ heads) (rank : Fin worldSize) :
    gatherHeadsScatterSeq 2 1 (sliceInputTensor whole 2) rank =
      some (sliceInputTensor whole 1 rank) := by
  refine allToAllTensor_slices (Nat.succ_ne_self 1) ?_ ?_ ?_ rank
  · rw [shape_eq]
    show 2 < 4
    decide
  · unfold Tensor.size
    rw [shape_eq]
    exact heads_dvd
  · unfold Tensor.size
    rw [shape_eq]
    exact seqLen_dvd

end Exchanges

section Heads

variable {whole : Tensor Entry}

theorem queryHeads_slice
    (shape_eq : whole.shape = [sizes.batch, sizes.seqLen, sizes.heads, sizes.headDim])
    (rank : Fin sizes.worldSize) : QueryHeads sizes whole rank (sliceInputTensor whole 2 rank) :=
  ⟨shape_sliceHeads shape_eq rank, fun _ _ _ _ inBatch inSeq inHeads inHead =>
    get_sliceHeads shape_eq rank inBatch inSeq inHeads inHead⟩

/-- The key-value heads after the repetition and the exchange. -/
theorem exists_pairedHeads
    (shape_eq : whole.shape = [sizes.batch, sizes.seqLen, sizes.kvHeads, sizes.headDim]) :
    ∃ repeated : Fin sizes.worldSize → Tensor Entry,
      (∀ peer, repeatKv (max (sizes.worldSize / sizes.kvHeads) 1)
        (sliceInputTensor whole 1 peer) = some (repeated peer)) ∧
      ∀ rank, ∃ part, gatherSeqScatterHeads 1 2 repeated rank = some part ∧
        PairedHeads sizes whole rank part := by
  have positive : 0 < max (sizes.worldSize / sizes.kvHeads) 1 :=
    Nat.lt_of_lt_of_le Nat.one_pos (Nat.le_max_right _ _)
  obtain ⟨repeated, repeats, repeatedShape, entries⟩ :=
    @repeatKv_slices Entry sizes.worldSize _ _ _ _ _ _ _ shape_eq positive
  have divides := dvd_repeated sizes.kvHeads_pos sizes.worldSize_pos sizes.kvHeads_related
  refine ⟨sliceInputTensor repeated 1, repeats, fun rank => ⟨sliceInputTensor repeated 2 rank,
    gatherSeqScatterHeads_slices repeatedShape sizes.seqLen_dvd divides rank, ?_⟩⟩
  have partShape := shape_sliceHeads repeatedShape rank
  have size_eq : (sliceInputTensor repeated 2 rank).size 2 =
      sizes.kvHeads * max (sizes.worldSize / sizes.kvHeads) 1 / sizes.worldSize := by
    unfold Tensor.size
    rw [partShape]
    rfl
  refine ⟨?_, size_eq, ?_, ?_⟩
  · rw [size_eq]
    exact partShape
  · intro head inHeads
    rw [size_eq]
    exact (@paired_head _ _ _ rank _ sizes.kvHeads_pos sizes.worldSize_pos sizes.heads_dvd
      sizes.kvHeads_dvd sizes.kvHeads_related inHeads).1
  · intro number position head channel inBatch inSeq inHeads inHead
    obtain ⟨inPart, paired⟩ := @paired_head _ _ _ rank _ sizes.kvHeads_pos sizes.worldSize_pos
      sizes.heads_dvd sizes.kvHeads_dvd sizes.kvHeads_related inHeads
    have inRepeated : rank * (sizes.kvHeads * max (sizes.worldSize / sizes.kvHeads) 1 /
        sizes.worldSize) + head / (sizes.heads / sizes.worldSize /
          (sizes.kvHeads * max (sizes.worldSize / sizes.kvHeads) 1 / sizes.worldSize)) <
        sizes.kvHeads * max (sizes.worldSize / sizes.kvHeads) 1 := by
      have next := Nat.mul_le_mul_right (sizes.kvHeads *
        max (sizes.worldSize / sizes.kvHeads) 1 / sizes.worldSize) rank.isLt
      rw [Nat.succ_mul, Nat.mul_div_cancel' divides] at next
      omega
    rw [size_eq, get_sliceHeads repeatedShape rank inBatch inSeq inPart inHead,
      entries _ _ _ _ inBatch inSeq inRepeated inHead, paired]

theorem transposeSeqHeads_twice {batch seqLen heads headDim : Nat}
    (shape_eq : whole.shape = [batch, seqLen, heads, headDim]) :
    transposeSeqHeads (transposeSeqHeads whole) = whole := by
  have shape_twice : (transposeSeqHeads (transposeSeqHeads whole)).shape = whole.shape := by
    unfold transposeSeqHeads
    rw [Tensor.shape_ofFn, Tensor.shape_ofFn, shape_eq]
    rfl
  refine Tensor.ext_get shape_twice ?_
  intro index inside
  rw [shape_twice, shape_eq] at inside
  obtain ⟨number, position, head, channel, rfl, inBatch, inSeq, inHeads, inHead⟩ :=
    exists_states inside
  unfold transposeSeqHeads
  rw [Tensor.get_ofFn, Tensor.get_ofFn]
  · rfl
  · rw [shape_eq]
    exact inShape_states inBatch inHeads inSeq inHead
  · rw [Tensor.shape_ofFn, shape_eq]
    exact inShape_states inBatch inSeq inHeads inHead

theorem orient_twice (ofModule : Bool) {batch seqLen heads headDim : Nat}
    (shape_eq : whole.shape = [batch, seqLen, heads, headDim]) :
    orient ofModule (orient ofModule whole) = whole := by
  cases ofModule with
  | false => rfl
  | true => exact transposeSeqHeads_twice shape_eq

end Heads

/-- What the attention is called with on the ranks. -/
theorem exists_attentionInputs (states : AttentionStates Entry sizes)
    (several : 1 < sizes.worldSize) (ofModule : Bool) :
    ∃ inputs, attentionInputs ofModule
        (fun rank : Fin sizes.worldSize => orient ofModule (sliceInputTensor states.query 1 rank))
        (fun rank => orient ofModule (sliceInputTensor states.key 1 rank))
        (fun rank => orient ofModule (sliceInputTensor states.value 1 rank)) = some inputs ∧
      ∀ rank, ∃ query key value,
        inputs rank = (orient ofModule query, orient ofModule key, orient ofModule value) ∧
          QueryHeads sizes states.query rank query ∧ PairedHeads sizes states.key rank key ∧
          PairedHeads sizes states.value rank value := by
  obtain ⟨repeatedKey, repeatsKey, keys⟩ := exists_pairedHeads states.key_shape
  obtain ⟨repeatedValue, repeatsValue, values⟩ := exists_pairedHeads states.value_shape
  choose key gathersKey keyHeads using keys
  choose value gathersValue valueHeads using values
  have size_key : ∀ rank : Fin sizes.worldSize,
      (sliceInputTensor states.key 1 rank).size 2 = sizes.kvHeads := by
    intro rank
    unfold Tensor.size
    rw [shape_sliceSeq states.key_shape]
    rfl
  have orientQuery : ∀ rank : Fin sizes.worldSize, orient ofModule
      (orient ofModule (sliceInputTensor states.query 1 rank)) =
        sliceInputTensor states.query 1 rank :=
    fun rank => orient_twice ofModule (shape_sliceSeq states.query_shape rank)
  have orientKey : ∀ rank : Fin sizes.worldSize, orient ofModule
      (orient ofModule (sliceInputTensor states.key 1 rank)) = sliceInputTensor states.key 1 rank :=
    fun rank => orient_twice ofModule (shape_sliceSeq states.key_shape rank)
  have orientValue : ∀ rank : Fin sizes.worldSize, orient ofModule
      (orient ofModule (sliceInputTensor states.value 1 rank)) =
        sliceInputTensor states.value 1 rank :=
    fun rank => orient_twice ofModule (shape_sliceSeq states.value_shape rank)
  refine ⟨fun rank => (orient ofModule (sliceInputTensor states.query 2 rank),
    orient ofModule (key rank), orient ofModule (value rank)), ?_, ?_⟩
  · unfold attentionInputs
    dsimp only
    simp only [orientQuery, orientKey, orientValue, size_key]
    rw [if_pos several, onAllRanks_eq repeatsKey, onAllRanks_eq repeatsValue,
      onAllRanks_eq (gatherSeqScatterHeads_slices states.query_shape sizes.seqLen_dvd
        sizes.heads_dvd)]
    simp only [Option.bind_eq_bind, Option.bind_some]
    rw [onAllRanks_eq gathersKey, onAllRanks_eq gathersValue]
    rfl
  · intro rank
    exact ⟨_, key rank, value rank, rfl, queryHeads_slice states.query_shape rank,
      keyHeads rank, valueHeads rank⟩

/-- The re-layout is exact for all sizes. -/
theorem ulysses_relayout_exact (states : AttentionStates Entry sizes) : RelayoutExact states where
  query rank := ⟨_, gatherSeqScatterHeads_slices states.query_shape sizes.seqLen_dvd
    sizes.heads_dvd rank, queryHeads_slice states.query_shape rank⟩
  paired := by
    intro whole member
    rcases List.mem_cons.mp member with rfl | member
    · exact exists_pairedHeads states.key_shape
    · rw [List.mem_singleton.mp member]
      exact exists_pairedHeads states.value_shape
  inputs := exists_attentionInputs states
  restored := fun _ _ shape_eq =>
    gatherHeadsScatterSeq_slices shape_eq sizes.seqLen_dvd sizes.heads_dvd
  undone := by
    intro parts width same
    obtain ⟨whole, shape_eq, slices⟩ :=
      @Tensor.exists_slices _ _ _ 1 parts _ sizes.worldSize_pos (by show 1 < 4; decide) same
    obtain rfl : parts = sliceInputTensor whole 1 := funext slices
    have divides : sizes.worldSize ∣ sizes.worldSize * (sizes.seqLen / sizes.worldSize) :=
      Nat.dvd_mul_right _ _
    exact ⟨sliceInputTensor whole 2,
      gatherSeqScatterHeads_slices shape_eq divides sizes.heads_dvd,
      gatherHeadsScatterSeq_slices shape_eq divides sizes.heads_dvd⟩
  redone := by
    intro parts width same
    obtain ⟨whole, shape_eq, slices⟩ :=
      @Tensor.exists_slices _ _ _ 2 parts _ sizes.worldSize_pos (by show 2 < 4; decide) same
    obtain rfl : parts = sliceInputTensor whole 2 := funext slices
    have divides : sizes.worldSize ∣ sizes.worldSize * (sizes.heads / sizes.worldSize) :=
      Nat.dvd_mul_right _ _
    exact ⟨sliceInputTensor whole 1,
      gatherHeadsScatterSeq_slices shape_eq sizes.seqLen_dvd divides,
      gatherSeqScatterHeads_slices shape_eq sizes.seqLen_dvd divides⟩

section Attention

def headStates (sizes : UlyssesSizes) (states : Tensor Entry) (number head : Nat) :
    List (List Entry) :=
  (List.range sizes.seqLen).map fun position => (List.range sizes.headDim).map fun channel =>
    states.get [number, position, head, channel]

/-- An attention that computes each head from one query head and the key-value head that its
group shares. -/
structure AttendsByHead (sizes : UlyssesSizes) (ofModule : Bool) (width : Nat)
    (attendHead : List (List Entry) → List (List Entry) → List (List Entry) → Nat → Nat → Entry)
    (attnFunc : Tensor Entry → Tensor Entry → Tensor Entry → Tensor Entry) : Prop where
  output : ∀ (heads kvHeads : Nat) (query key value : Tensor Entry),
    query.shape = [sizes.batch, sizes.seqLen, heads, sizes.headDim] →
    key.shape = [sizes.batch, sizes.seqLen, kvHeads, sizes.headDim] →
    value.shape = [sizes.batch, sizes.seqLen, kvHeads, sizes.headDim] →
    attnFunc (orient ofModule query) (orient ofModule key) (orient ofModule value) =
      Tensor.ofFn [sizes.batch, sizes.seqLen, heads, width] fun index =>
        attendHead (headStates sizes query (index.getD 0 0) (index.getD 2 0))
          (headStates sizes key (index.getD 0 0) (index.getD 2 0 / (heads / kvHeads)))
          (headStates sizes value (index.getD 0 0) (index.getD 2 0 / (heads / kvHeads)))
          (index.getD 1 0) (index.getD 3 0)

variable {whole part : Tensor Entry} {rank : Fin sizes.worldSize}

variable {number head : Nat}

theorem headStates_eq {other : Nat}
    (entries : ∀ position < sizes.seqLen, ∀ channel < sizes.headDim,
      part.get [number, position, head, channel] = whole.get [number, position, other, channel]) :
    headStates sizes part number head = headStates sizes whole number other := by
  refine List.map_congr_left fun position inSeq => List.map_congr_left fun channel inHead => ?_
  exact entries position (List.mem_range.mp inSeq) channel (List.mem_range.mp inHead)

theorem QueryHeads.headStates_eq (isQuery : QueryHeads sizes whole rank part)
    (inBatch : number < sizes.batch)
    (inHeads : head < sizes.heads / sizes.worldSize) :
    headStates sizes part number head =
      headStates sizes whole number (rank * (sizes.heads / sizes.worldSize) + head) :=
  CosmosRl.Utils.headStates_eq fun position inSeq channel inHead =>
    isQuery.entries number position head channel inBatch inSeq inHeads inHead

theorem PairedHeads.headStates_eq (isPaired : PairedHeads sizes whole rank part)
    (inBatch : number < sizes.batch)
    (inHeads : head < sizes.heads / sizes.worldSize) :
    headStates sizes part number
        (head / (sizes.heads / sizes.worldSize / part.size 2)) =
      headStates sizes whole number ((rank * (sizes.heads / sizes.worldSize) + head) /
        (sizes.heads / sizes.kvHeads)) :=
  CosmosRl.Utils.headStates_eq fun position inSeq channel inHead =>
    isPaired.entries number position head channel inBatch inSeq inHeads inHead

/-- With an attention that goes by heads, every rank gets its part of the sequence of what the
attention computes without the mesh. -/
theorem ulyssesWrapperOfAttnFunc_eq (states : AttentionStates Entry sizes)
    (several : 1 < sizes.worldSize) (ofModule : Bool) {width : Nat}
    {attendHead : List (List Entry) → List (List Entry) → List (List Entry) → Nat → Nat → Entry}
    {attnFunc : Tensor Entry → Tensor Entry → Tensor Entry → Tensor Entry}
    (byHead : AttendsByHead sizes ofModule width attendHead attnFunc) :
    ulyssesWrapperOfAttnFunc ofModule attnFunc
        (fun rank : Fin sizes.worldSize => orient ofModule (sliceInputTensor states.query 1 rank))
        (fun rank => orient ofModule (sliceInputTensor states.key 1 rank))
        (fun rank => orient ofModule (sliceInputTensor states.value 1 rank)) =
      some (sliceInputTensor (attnFunc (orient ofModule states.query)
        (orient ofModule states.key) (orient ofModule states.value)) 1) := by
  obtain ⟨inputs, gives, heads⟩ := exists_attentionInputs states several ofModule
  have outputWhole := byHead.output _ _ _ _ _ states.query_shape states.key_shape states.value_shape
  have shape_eq : (attnFunc (orient ofModule states.query) (orient ofModule states.key)
      (orient ofModule states.value)).shape =
        [sizes.batch, sizes.seqLen, sizes.heads, width] := by
    rw [outputWhole]
    rfl
  have outputs : ∀ rank, attnFunc (inputs rank).1 (inputs rank).2.1 (inputs rank).2.2 =
      sliceInputTensor (attnFunc (orient ofModule states.query) (orient ofModule states.key)
        (orient ofModule states.value)) 2 rank := by
    intro rank
    obtain ⟨query, key, value, inputs_eq, isQuery, isKey, isValue⟩ := heads rank
    have sameHeads : value.size 2 = key.size 2 := isValue.heads_eq.trans isKey.heads_eq.symm
    have valueShape := isValue.shape_eq
    rw [sameHeads] at valueShape
    rw [inputs_eq, byHead.output _ _ _ _ _ isQuery.shape_eq isKey.shape_eq valueShape]
    refine Tensor.ext_get (shape_sliceHeads shape_eq rank).symm ?_
    intro index inside
    obtain ⟨number, position, head, channel, rfl, inBatch, inSeq, inHeads, inHead⟩ :=
      exists_states inside
    have inWhole : rank * (sizes.heads / sizes.worldSize) + head < sizes.heads := by
      have next := Nat.mul_le_mul_right (sizes.heads / sizes.worldSize) rank.isLt
      rw [Nat.succ_mul, Nat.mul_div_cancel' sizes.heads_dvd] at next
      omega
    have keys := isKey.headStates_eq inBatch inHeads
    have values := isValue.headStates_eq inBatch inHeads
    rw [sameHeads] at values
    rw [Tensor.get_ofFn (inShape_states inBatch inSeq inHeads inHead),
      get_sliceHeads shape_eq rank inBatch inSeq inHeads inHead, outputWhole,
      Tensor.get_ofFn (inShape_states inBatch inSeq inWhole inHead)]
    simp only [List.getD_cons_zero, List.getD_cons_succ]
    rw [isQuery.headStates_eq inBatch inHeads, keys, values]
  unfold ulyssesWrapperOfAttnFunc
  rw [gives, Option.bind_eq_bind, Option.bind_some, funext outputs]
  exact onAllRanks_eq (gatherHeadsScatterSeq_slices shape_eq sizes.seqLen_dvd sizes.heads_dvd)

end Attention

/-- Six heads that share their keys, on two ranks. -/
def twoRanks : UlyssesSizes where
  worldSize := 2
  batch := 1
  seqLen := 2
  heads := 6
  kvHeads := 1
  headDim := 1
  worldSize_pos := Nat.two_pos
  kvHeads_pos := Nat.one_pos
  seqLen_dvd := Nat.dvd_refl 2
  heads_dvd := ⟨3, rfl⟩
  kvHeads_dvd := Nat.one_dvd 6
  kvHeads_related := .inr (Nat.one_dvd 2)

def attendLinearly (query key value : List (List Int)) (position channel : Nat) : Int :=
  (List.zipWith (fun key value => (List.zipWith (· * ·) (query.getD position []) key).foldl
    (· + ·) 0 * value.getD channel 0) key value).foldl (· + ·) 0

def linearAttention (query key value : Tensor Int) : Tensor Int :=
  Tensor.ofFn [1, 2, query.size 2, 1] fun index =>
    let head := index.getD 2 0
    let shared := head / (query.size 2 / key.size 2)
    attendLinearly (headStates twoRanks query (index.getD 0 0) head)
      (headStates twoRanks key (index.getD 0 0) shared)
      (headStates twoRanks value (index.getD 0 0) shared) (index.getD 1 0) (index.getD 3 0)

def linearStates : AttentionStates Int twoRanks where
  query := Tensor.ofFn [1, 2, 6, 1] fun index => index.sum
  key := Tensor.ofFn [1, 2, 1, 1] fun index => index.sum
  value := Tensor.ofFn [1, 2, 1, 1] fun index => index.sum
  query_shape := rfl
  key_shape := rfl
  value_shape := rfl

theorem ulyssesWrapperOfAttnFunc_linear :
    ulyssesWrapperOfAttnFunc false linearAttention
        (fun rank : Fin twoRanks.worldSize => sliceInputTensor linearStates.query 1 rank)
        (fun rank => sliceInputTensor linearStates.key 1 rank)
        (fun rank => sliceInputTensor linearStates.value 1 rank) =
      some (sliceInputTensor (linearAttention linearStates.query linearStates.key
        linearStates.value) 1) := by
  have byHead : AttendsByHead twoRanks false 1 attendLinearly linearAttention := by
    refine ⟨fun heads kvHeads query key value isQuery isKey _ => ?_⟩
    simp [orient, linearAttention, Tensor.size, isQuery, isKey, twoRanks]
  exact ulyssesWrapperOfAttnFunc_eq linearStates (by decide) false byHead

end CosmosRl.Utils
