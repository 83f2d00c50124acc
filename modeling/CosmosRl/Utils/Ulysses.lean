import CosmosRl.Foundation.RowMajor

/-!
Ulysses: attention with the sequence spread over the ranks of the context-parallel mesh.

Before the attention every rank gives its part of the sequence for all heads and gets the
whole sequence for its part of the heads; afterwards it is the other way round.  States have
the shape `[batch, sequence, heads, head_dim]`, so the sequence is dimension 1 and the heads
are dimension 2.
-/

namespace CosmosRl.Utils

open CosmosRl.Foundation List

universe u

variable {Entry : Type u} {worldSize : Nat}

def onAllRanks {Result : Type u} (results : Fin worldSize → Option Result) :
    Option (Fin worldSize → Result) :=
  if found : ∀ rank, (results rank).isSome = true then
    some fun rank => (results rank).get (found rank)
  else none

theorem onAllRanks_eq {Result : Type u} {results : Fin worldSize → Option Result}
    {values : Fin worldSize → Result} (found : ∀ rank, results rank = some (values rank)) :
    onAllRanks results = some values := by
  have isSome : ∀ rank, (results rank).isSome = true := by
    intro rank
    rw [found rank]
    rfl
  refine (dif_pos isSome).trans (congrArg some (funext fun rank => ?_))
  exact Option.some.inj ((Option.some_get (isSome rank)).trans (found rank))

/-- What a rank passes to `all_to_all_single`: its buffer and the sizes of the parts. -/
structure SendBuffer (Entry : Type u) where
  flatInput : List Entry
  splitSizes : List Nat

/-- `dist.all_to_all_single`: a rank gets its part of every buffer.  The sizes must be those
it expects. -/
def allToAllSingle (buffers : Fin worldSize → SendBuffer Entry) (rank : Fin worldSize) :
    Option (List Entry) :=
  let received := List.ofFn fun peer =>
    ((buffers peer).splitSizes.splitLengths (buffers peer).flatInput).getD rank []
  if received.map List.length = (buffers rank).splitSizes then some received.flatten else none

/-- `all_to_all_tensor`, for all ranks together. -/
def allToAllTensor [Inhabited Entry] (scatterDim gatherDim : Nat)
    (localInputs : Fin worldSize → Tensor Entry) (rank : Fin worldSize) :
    Option (Tensor Entry) := do
  let splits := fun peer => (localInputs peer).tensorSplit worldSize scatterDim
  let flatOutput ← allToAllSingle (fun peer =>
    { flatInput := ((splits peer).map Tensor.data).flatten
      splitSizes := (splits peer).map fun split => split.shape.prod }) rank
  let outChunks ← ((splits rank).zipWith (fun split chunk => Tensor.view split.shape chunk)
    (((splits rank).map fun split => split.shape.prod).splitLengths flatOutput)).mapM id
  Tensor.cat gatherDim outChunks

section Calls

variable [Inhabited Entry]

def gatherSeqScatterHeads (seqDim headDim : Nat) (states : Fin worldSize → Tensor Entry) :
    Fin worldSize → Option (Tensor Entry) :=
  allToAllTensor headDim seqDim states

def gatherHeadsScatterSeq (headDim seqDim : Nat) (states : Fin worldSize → Tensor Entry) :
    Fin worldSize → Option (Tensor Entry) :=
  allToAllTensor seqDim headDim states

def sliceInputTensor (data : Tensor Entry) (dim : Nat) (rank : Fin worldSize) : Tensor Entry :=
  data.narrow dim (rank * (data.size dim / worldSize)) (data.size dim / worldSize)

def repeatKv (repeats : Nat) (states : Tensor Entry) : Option (Tensor Entry) :=
  match states.shape with
  | [batch, seqLen, kvHeads, headDim] =>
    if repeats = 1 then some states
    else
      let expanded := Tensor.ofFn [batch, seqLen, kvHeads, repeats, headDim] fun index =>
        states.get (index.eraseIdx 3)
      Tensor.view [batch, seqLen, kvHeads * repeats, headDim] expanded.data
  | _ => none

/-- `transpose(1, 2)`. -/
def swapSeqHeads : List Nat → List Nat
  | first :: second :: third :: rest => first :: third :: second :: rest
  | index => index

def transposeSeqHeads (states : Tensor Entry) : Tensor Entry :=
  Tensor.ofFn (swapSeqHeads states.shape) fun index => states.get (swapSeqHeads index)

def orient (ofModule : Bool) (states : Tensor Entry) : Tensor Entry :=
  if ofModule then transposeSeqHeads states else states

/-- What `ulysses_wrapper_of_attn_func` passes to the attention on each rank.  The states of a
module of transformers have the heads before the sequence. -/
def attentionInputs (ofModule : Bool) (query key value : Fin worldSize → Tensor Entry) :
    Option (Fin worldSize → Tensor Entry × Tensor Entry × Tensor Entry) :=
  let orient := orient ofModule
  let repeats := fun rank => max (worldSize / (orient (key rank)).size 2) 1
  if 1 < worldSize then do
    let keyStates ← onAllRanks fun rank => repeatKv (repeats rank) (orient (key rank))
    let valueStates ← onAllRanks fun rank => repeatKv (repeats rank) (orient (value rank))
    let queryStates ← onAllRanks (gatherSeqScatterHeads 1 2 fun rank => orient (query rank))
    let keyStates ← onAllRanks (gatherSeqScatterHeads 1 2 keyStates)
    let valueStates ← onAllRanks (gatherSeqScatterHeads 1 2 valueStates)
    some fun rank =>
      (orient (queryStates rank), orient (keyStates rank), orient (valueStates rank))
  else none

/-- `ulysses_wrapper_of_attn_func`. -/
def ulyssesWrapperOfAttnFunc (ofModule : Bool)
    (originalAttnFunc : Tensor Entry → Tensor Entry → Tensor Entry → Tensor Entry)
    (query key value : Fin worldSize → Tensor Entry) :
    Option (Fin worldSize → Tensor Entry) := do
  let inputs ← attentionInputs ofModule query key value
  onAllRanks (gatherHeadsScatterSeq 2 1 fun rank =>
    originalAttnFunc (inputs rank).1 (inputs rank).2.1 (inputs rank).2.2)

end Calls

section Even

variable [Inhabited Entry]

theorem mapM_id_some {Item : Type u} (items : List Item) :
    (items.map some).mapM id = some items := by
  induction items with
  | nil => rfl
  | cons item items ih =>
    rw [map_cons, mapM_cons, ih]
    rfl

/-- When the ranks have tensors of one shape and the scattered dimension divides, the parts
of a rank are joined in the order of the senders. -/
theorem allToAllTensor_of_dvd {scatterDim : Nat} (gatherDim : Nat) {shape : List Nat}
    {localInputs : Fin worldSize → Tensor Entry} (same : ∀ rank, (localInputs rank).shape = shape)
    (divides : worldSize ∣ shape.getD scatterDim 0) (rank : Fin worldSize) :
    allToAllTensor scatterDim gatherDim localInputs rank =
      Tensor.cat gatherDim (List.ofFn fun peer => (localInputs peer).narrow scatterDim
        (rank * (shape.getD scatterDim 0 / worldSize)) (shape.getD scatterDim 0 / worldSize)) := by
  have size_eq : ∀ peer, (localInputs peer).size scatterDim = shape.getD scatterDim 0 := by
    intro peer
    unfold Tensor.size
    rw [same peer]
  generalize part_eq : shape.getD scatterDim 0 / worldSize = part
  have splits : ∀ peer, (localInputs peer).tensorSplit worldSize scatterDim =
      (List.range worldSize).map fun number =>
        (localInputs peer).narrow scatterDim (number * part) part := by
    intro peer
    rw [Tensor.tensorSplit_of_dvd (by rw [size_eq]; exact divides), size_eq, part_eq]
  have lengths : ∀ splits : List (Tensor Entry),
      splits.map (fun split => split.shape.prod) = (splits.map Tensor.data).map List.length := by
    intro splits
    rw [map_map]
    exact map_congr_left fun split _ => split.length_data.symm
  have received : ∀ peer : Fin worldSize,
      ((((localInputs peer).tensorSplit worldSize scatterDim).map fun split =>
        split.shape.prod).splitLengths
          (((localInputs peer).tensorSplit worldSize scatterDim).map Tensor.data).flatten).getD
            rank [] = ((localInputs peer).narrow scatterDim (rank * part) part).data := by
    intro peer
    rw [lengths, splitLengths_flatten, splits peer, getD_eq_getElem?_getD,
      getElem?_map, getElem?_map, getElem?_range rank.isLt]
    rfl
  have shapes : ((localInputs rank).tensorSplit worldSize scatterDim).map (fun split =>
      split.shape.prod) = (List.ofFn fun peer : Fin worldSize =>
        ((localInputs peer).narrow scatterDim (rank * part) part).data).map List.length := by
    rw [splits rank, map_map, map_ofFn]
    refine ext_getElem (by simp) ?_
    intro number _ _
    simp [Tensor.length_data, same]
  have chunks : ((localInputs rank).tensorSplit worldSize scatterDim).zipWith
      (fun split chunk => Tensor.view split.shape chunk)
      (List.ofFn fun peer : Fin worldSize =>
        ((localInputs peer).narrow scatterDim (rank * part) part).data) =
      (List.ofFn fun peer : Fin worldSize =>
        (localInputs peer).narrow scatterDim (rank * part) part).map some := by
    rw [splits rank]
    refine ext_getElem (by simp) ?_
    intro number _ inRange
    rw [List.getElem_zipWith, List.getElem_map, List.getElem_map, List.getElem_ofFn,
      List.getElem_ofFn]
    refine Eq.trans ?_ (Tensor.view_data _)
    rw [Tensor.shape_narrow, Tensor.shape_narrow, same, same]
  unfold allToAllTensor allToAllSingle
  dsimp only
  simp only [received]
  rw [if_pos shapes.symm, Option.bind_eq_bind, Option.bind_some, shapes, splitLengths_flatten,
    chunks, mapM_id_some, Option.bind_eq_bind, Option.bind_some]

theorem allToAllTensor_slices {scatterDim gatherDim : Nat} {whole : Tensor Entry}
    (distinct : gatherDim ≠ scatterDim) (inRange : gatherDim < whole.shape.length)
    (dividesGather : worldSize ∣ whole.size gatherDim)
    (dividesScatter : worldSize ∣ whole.size scatterDim) (rank : Fin worldSize) :
    allToAllTensor scatterDim gatherDim (fun peer => sliceInputTensor whole gatherDim peer) rank =
      some (sliceInputTensor whole scatterDim rank) := by
  have scattered : (whole.shape.set gatherDim (whole.size gatherDim / worldSize)).getD
      scatterDim 0 = whole.size scatterDim := getD_set_ne whole.shape distinct _
  have same : ∀ peer : Fin worldSize, (sliceInputTensor whole gatherDim peer).shape =
      whole.shape.set gatherDim (whole.size gatherDim / worldSize) := fun _ => rfl
  rw [allToAllTensor_of_dvd gatherDim same (by rw [scattered]; exact dividesScatter)]
  exact Tensor.cat_slices (Nat.zero_lt_of_lt rank.isLt) distinct inRange dividesGather rank.isLt

end Even

section States

variable [Inhabited Entry]

theorem exists_states {index : List Nat} {batch seqLen heads headDim : Nat}
    (inside : InShape index [batch, seqLen, heads, headDim]) :
    ∃ number position head channel, index = [number, position, head, channel] ∧
      number < batch ∧ position < seqLen ∧ head < heads ∧ channel < headDim := by
  cases inside with
  | @cons number _ rest _ inBatch inside =>
    cases inside with
    | @cons position _ rest _ inSeq inside =>
      cases inside with
      | @cons head _ rest _ inHeads inside =>
        cases inside with
        | @cons channel _ rest _ inHead inside =>
          cases inside
          exact ⟨number, position, head, channel, rfl, inBatch, inSeq, inHeads, inHead⟩

variable {number position head channel : Nat}

theorem inShape_states {batch seqLen heads headDim : Nat}
    (inBatch : number < batch) (inSeq : position < seqLen) (inHeads : head < heads)
    (inHead : channel < headDim) :
    InShape [number, position, head, channel] [batch, seqLen, heads, headDim] := by
  simp only [inShape_cons, inShape_nil, and_true]
  exact ⟨inBatch, inSeq, inHeads, inHead⟩

variable {whole : Tensor Entry} {batch seqLen heads headDim : Nat}
  (shape_eq : whole.shape = [batch, seqLen, heads, headDim])

include shape_eq

section

variable (rank : Fin worldSize)

theorem shape_sliceSeq :
    (sliceInputTensor whole 1 rank).shape = [batch, seqLen / worldSize, heads, headDim] := by
  unfold sliceInputTensor Tensor.size
  rw [Tensor.shape_narrow, shape_eq]
  rfl

theorem shape_sliceHeads :
    (sliceInputTensor whole 2 rank).shape = [batch, seqLen, heads / worldSize, headDim] := by
  unfold sliceInputTensor Tensor.size
  rw [Tensor.shape_narrow, shape_eq]
  rfl

theorem get_sliceSeq
    (inBatch : number < batch) (inSeq : position < seqLen / worldSize) (inHeads : head < heads)
    (inHead : channel < headDim) :
    (sliceInputTensor whole 1 rank).get [number, position, head, channel] =
      whole.get [number, rank * (seqLen / worldSize) + position, head, channel] := by
  unfold sliceInputTensor Tensor.size
  rw [Tensor.get_narrow (by rw [shape_eq]; exact inShape_states inBatch inSeq inHeads inHead),
    shape_eq]
  rfl

theorem get_sliceHeads
    (inBatch : number < batch) (inSeq : position < seqLen) (inHeads : head < heads / worldSize)
    (inHead : channel < headDim) :
    (sliceInputTensor whole 2 rank).get [number, position, head, channel] =
      whole.get [number, position, rank * (heads / worldSize) + head, channel] := by
  unfold sliceInputTensor Tensor.size
  rw [Tensor.get_narrow (by rw [shape_eq]; exact inShape_states inBatch inSeq inHeads inHead),
    shape_eq]
  rfl

end

end States

section Repeated

variable [Inhabited Entry]

theorem offset_repeated (batch seqLen kvHeads repeats headDim number position head channel : Nat) :
    offset [batch, seqLen, kvHeads * repeats, headDim] [number, position, head, channel] =
      offset [batch, seqLen, kvHeads, repeats, headDim]
        [number, position, head / repeats, head % repeats, channel] := by
  have headOffset : head * headDim =
      head / repeats * (repeats * headDim) + head % repeats * headDim := by
    rw [← Nat.mul_assoc, ← Nat.add_mul, Nat.div_add_mod']
  simp only [offset, prod_cons, prod_nil, Nat.mul_one]
  rw [headOffset, Nat.mul_assoc kvHeads repeats headDim, Nat.add_assoc (head / repeats * _)]

theorem repeatKv_eq {states : Tensor Entry} {batch seqLen kvHeads headDim repeats : Nat}
    (shape_eq : states.shape = [batch, seqLen, kvHeads, headDim]) (positive : 0 < repeats) :
    ∃ repeated, repeatKv repeats states = some repeated ∧
      repeated.shape = [batch, seqLen, kvHeads * repeats, headDim] ∧
      ∀ number position head channel, number < batch → position < seqLen →
        head < kvHeads * repeats → channel < headDim →
        repeated.get [number, position, head, channel] =
          states.get [number, position, head / repeats, channel] := by
  unfold repeatKv
  rw [shape_eq]
  dsimp only
  split
  case isTrue once =>
    subst once
    refine ⟨states, rfl, by rw [Nat.mul_one]; exact shape_eq, ?_⟩
    intro number position head channel _ _ _ _
    rw [Nat.div_one]
  case isFalse =>
    have sized : (Tensor.ofFn [batch, seqLen, kvHeads, repeats, headDim] fun index =>
        states.get (index.eraseIdx 3)).data.length =
          [batch, seqLen, kvHeads * repeats, headDim].prod := by
      rw [Tensor.length_data, Tensor.shape_ofFn]
      simp only [prod_cons, Nat.mul_assoc]
    refine ⟨_, dif_pos sized, rfl, ?_⟩
    intro number position head channel inBatch inSeq inHeads inHead
    have inside : InShape [number, position, head / repeats, head % repeats, channel]
        [batch, seqLen, kvHeads, repeats, headDim] := by
      simp only [inShape_cons, inShape_nil, and_true]
      exact ⟨inBatch, inSeq, Nat.div_lt_of_lt_mul (by rw [Nat.mul_comm]; exact inHeads),
        Nat.mod_lt _ positive, inHead⟩
    have entry := Tensor.get_ofFn inside fun index => states.get (index.eraseIdx 3)
    unfold Tensor.get at entry ⊢
    rw [offset_repeated]
    exact entry

/-- The parts of the sequence repeat their heads as the whole does. -/
theorem repeatKv_slices {whole : Tensor Entry} {batch seqLen kvHeads headDim repeats : Nat}
    (shape_eq : whole.shape = [batch, seqLen, kvHeads, headDim]) (positive : 0 < repeats) :
    ∃ repeated : Tensor Entry,
      (∀ rank : Fin worldSize, repeatKv repeats (sliceInputTensor whole 1 rank) =
        some (sliceInputTensor repeated 1 rank)) ∧
      repeated.shape = [batch, seqLen, kvHeads * repeats, headDim] ∧
      ∀ number position head channel, number < batch → position < seqLen →
        head < kvHeads * repeats → channel < headDim →
        repeated.get [number, position, head, channel] =
          whole.get [number, position, head / repeats, channel] := by
  obtain ⟨repeated, _, repeatedShape, entries⟩ := repeatKv_eq shape_eq positive
  refine ⟨repeated, ?_, repeatedShape, entries⟩
  intro rank
  obtain ⟨part, repeats_eq, partShape, partEntries⟩ :=
    repeatKv_eq (shape_sliceSeq shape_eq rank) positive
  rw [repeats_eq]
  refine congrArg some (Tensor.ext_get ?_ ?_)
  · rw [partShape, shape_sliceSeq repeatedShape]
  · intro index inside
    rw [partShape] at inside
    obtain ⟨number, position, head, channel, rfl, inBatch, inSeq, inHeads, inHead⟩ :=
      exists_states inside
    have position_lt : rank * (seqLen / worldSize) + position < seqLen := by
      have next := Nat.mul_le_mul_right (seqLen / worldSize) rank.isLt
      rw [Nat.succ_mul] at next
      have fits := Nat.mul_div_le seqLen worldSize
      omega
    rw [partEntries number position head channel inBatch inSeq inHeads inHead,
      get_sliceSeq repeatedShape rank inBatch inSeq inHeads inHead,
      entries number _ head channel inBatch position_lt inHeads inHead]
    exact get_sliceSeq shape_eq rank inBatch inSeq
      (Nat.div_lt_of_lt_mul (by rw [Nat.mul_comm]; exact inHeads)) inHead

end Repeated

theorem dvd_repeated {kvHeads : Nat} (kvHeads_pos : 0 < kvHeads)
    (worldSize_pos : 0 < worldSize) (related : worldSize ∣ kvHeads ∨ kvHeads ∣ worldSize) :
    worldSize ∣ kvHeads * max (worldSize / kvHeads) 1 := by
  rcases related with divides | ⟨count, rfl⟩
  · exact Dvd.dvd.mul_right divides _
  · have count_pos : 0 < count := Nat.pos_of_mul_pos_left worldSize_pos
    rw [Nat.mul_div_cancel_left count kvHeads_pos, Nat.max_eq_left count_pos]

/-- The key-value head that a local query head meets. -/
theorem paired_head {worldSize heads kvHeads rank head : Nat} (kvHeads_pos : 0 < kvHeads)
    (worldSize_pos : 0 < worldSize) (heads_dvd : worldSize ∣ heads)
    (kvHeads_dvd : kvHeads ∣ heads) (related : worldSize ∣ kvHeads ∨ kvHeads ∣ worldSize)
    (inHeads : head < heads / worldSize) :
    let repeats := max (worldSize / kvHeads) 1
    let localKv := kvHeads * repeats / worldSize
    head / (heads / worldSize / localKv) < localKv ∧
      (rank * localKv + head / (heads / worldSize / localKv)) / repeats =
        (rank * (heads / worldSize) + head) / (heads / kvHeads) := by
  dsimp only
  rcases related with ⟨share, rfl⟩ | ⟨count, rfl⟩
  · obtain ⟨group, rfl⟩ := kvHeads_dvd
    have share_pos : 0 < share := Nat.pos_of_mul_pos_left kvHeads_pos
    have once : max (worldSize / (worldSize * share)) 1 = 1 := by
      refine Nat.max_eq_right (Nat.div_le_of_le_mul ?_)
      rw [Nat.mul_one]
      exact Nat.le_mul_of_pos_right worldSize share_pos
    rw [Nat.mul_assoc, Nat.mul_div_cancel_left _ worldSize_pos] at inHeads ⊢
    rw [once, Nat.mul_one, Nat.mul_div_cancel_left _ worldSize_pos,
      Nat.mul_div_cancel_left _ share_pos, Nat.div_one, ← Nat.mul_assoc worldSize,
      Nat.mul_div_cancel_left _ kvHeads_pos]
    have group_pos : 0 < group := by
      rcases Nat.eq_zero_or_pos group with rfl | group_pos
      · exact absurd inHeads (Nat.not_lt_zero head)
      · exact group_pos
    refine ⟨Nat.div_lt_of_lt_mul (by rw [Nat.mul_comm]; exact inHeads), ?_⟩
    rw [← Nat.mul_assoc, Nat.add_comm _ head, Nat.add_mul_div_right _ _ group_pos, Nat.add_comm]
  · obtain ⟨group, rfl⟩ := heads_dvd
    have count_pos : 0 < count := Nat.pos_of_mul_pos_left worldSize_pos
    rw [Nat.mul_div_cancel_left _ worldSize_pos] at inHeads ⊢
    rw [Nat.mul_div_cancel_left count kvHeads_pos, Nat.max_eq_left count_pos,
      Nat.div_self worldSize_pos, Nat.div_one, Nat.div_eq_of_lt inHeads, Nat.mul_one,
      Nat.add_zero, Nat.mul_assoc, Nat.mul_div_cancel_left _ kvHeads_pos]
    refine ⟨Nat.one_pos, ?_⟩
    have group_pos : 0 < group := Nat.zero_lt_of_lt inHeads
    rw [Nat.mul_comm count group, ← Nat.div_div_eq_div_mul, Nat.add_comm _ head,
      Nat.add_mul_div_right _ _ group_pos, Nat.div_eq_of_lt inHeads, Nat.zero_add]

end CosmosRl.Utils
