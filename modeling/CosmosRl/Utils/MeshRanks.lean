import CosmosRl.Foundation.LastWrite
import CosmosRl.Foundation.RowMajor
import CosmosRl.Utils.DimSliceInfo

/-!
The ranks of a process in the dimensions of its mesh.

The table of `build_mesh_info` is filled by splitting all ranks once for each dimension.  What
its readers compute in closed form is compared with it: the order of the pipeline stages, the
master rank and the ranks that save checkpoints.
-/

namespace CosmosRl.Utils

open CosmosRl.Foundation List

/-- The degrees of parallelism, where `dp_shard` and `dp_shard_with_ep` may be left open as -1. -/
structure ParallelDims where
  dpReplicate : Int
  dpShard : Int
  cp : Int
  tp : Int
  pp : Int
  worldSize : Int
  ep : Int := 1
  dpShardWithEp : Int := -1
  deriving DecidableEq, Repr

def ensure (condition : Prop) [Decidable condition] (error : MapperError) :
    Except MapperError Unit :=
  if condition then .ok () else .error error

@[simp]
theorem ensure_bind_eq_ok {Result : Type} {condition : Prop} [Decidable condition]
    {error : MapperError} {rest : Unit → Except MapperError Result} {result : Result} :
    (ensure condition error >>= rest) = .ok result ↔ condition ∧ rest () = .ok result := by
  rw [ensure]
  split
  · rename_i holds
    exact ⟨fun done => ⟨holds, done⟩, fun done => done.2⟩
  · rename_i fails
    refine ⟨fun done => ?_, fun done => absurd done.1 fails⟩
    cases done

namespace ParallelDims

variable (self : ParallelDims)

/-- An open `dp_shard` is what the other dimensions leave of the world. -/
def withShard : ParallelDims :=
  if self.dpShard < 0 then
    { self with
      dpShard := self.worldSize / (self.dpReplicate * self.cp * self.tp * self.pp) }
  else self

def withShardOfEp : ParallelDims :=
  if self.dpShardWithEp < 0 then
    { self with dpShardWithEp := self.worldSize / (self.pp * self.ep * self.tp) }
  else self

/-- The last part of `_validate`, for expert parallelism. -/
def validateEp : Except MapperError ParallelDims := do
  ensure (self.dpShardWithEp = -1 ∨ 1 ≤ self.dpShardWithEp)
    (.assertionError " dp_shard_with_ep must -1 or >=1.")
  let dims := self.withShardOfEp
  ensure (1 ≤ dims.dpShardWithEp)
    (.assertionError s!"WORLD_SIZE({self.worldSize}) is not a multiple of pp({self.pp}) * ep({self.ep}) * tp({self.tp})")
  ensure (¬ 1 < self.tp)
    (.valueError "tp must be 1 when ep > 1, since we only support MoE with pipeline parallelism.")
  ensure (¬ (1 < self.pp ∧ 1 < dims.dpShardWithEp))
    (.valueError "dp_shard_with_ep must be 1 when pp > 1, since we only support EP with pipeline parallelism.")
  ensure (self.pp * dims.dpShardWithEp * self.ep * self.tp = self.worldSize)
    (.valueError s!"Invalid parallel dims: pp({self.pp}) * dp_shard_with_ep({dims.dpShardWithEp}) * ep({self.ep}) * tp({self.tp}) != WORLD_SIZE({self.worldSize})")
  return dims

/-- `_validate`, with the dimensions as they are afterwards. -/
def validate : Except MapperError ParallelDims := do
  ensure (∀ d ∈ [self.dpReplicate, self.cp, self.tp, self.pp, self.ep], 1 ≤ d)
    (.assertionError "Parallelism degree should be >= 1, except for dp_shard")
  ensure (self.dpShard = -1 ∨ 1 ≤ self.dpShard)
    (.assertionError " dp_shard must be -1 or >=1.")
  let dims := self.withShard
  ensure (1 ≤ dims.dpShard)
    (.assertionError s!"dp_shard of size {dims.dpShard} is not valid, should be equal or greater than 1")
  ensure (dims.dpReplicate * dims.dpShard * dims.cp * dims.tp * dims.pp = dims.worldSize)
    (.assertionError s!"Invalid parallel dims: dp_replicate({dims.dpReplicate}) * dp_shard({dims.dpShard}) * cp({dims.cp}) * tp({dims.tp}) * pp({dims.pp}) != WORLD_SIZE({dims.worldSize})")
  ensure (¬ (1 < dims.pp ∧ 1 < dims.dpReplicate))
    (.valueError "dp_replicate must be 1 when pp > 1, since we only support FSDP with pipeline parallelism.")
  if 1 < dims.ep then dims.validateEp else return dims

def shape : List Nat :=
  [self.pp.toNat, self.dpReplicate.toNat, self.dpShard.toNat, self.cp.toNat, self.tp.toNat]

end ParallelDims

structure AcceptedDims where
  given : ParallelDims
  dims : ParallelDims
  accepted : given.validate = .ok dims

theorem ParallelDims.withShard_eq (self : ParallelDims) :
    ∃ shard, self.withShard = { self with dpShard := shard } := by
  rw [withShard]
  split
  · exact ⟨_, rfl⟩
  · exact ⟨_, rfl⟩

theorem ParallelDims.withShardOfEp_eq (self : ParallelDims) :
    ∃ shard, self.withShardOfEp = { self with dpShardWithEp := shard } := by
  rw [withShardOfEp]
  split
  · exact ⟨_, rfl⟩
  · exact ⟨_, rfl⟩

namespace AcceptedDims

variable (mesh : AcceptedDims)

structure Sizes (dims : ParallelDims) where
  pp : Nat
  dpReplicate : Nat
  dpShard : Nat
  cp : Nat
  tp : Nat
  positive : 0 < pp ∧ 0 < dpReplicate ∧ 0 < dpShard ∧ 0 < cp ∧ 0 < tp
  pp_eq : dims.pp = pp
  dpReplicate_eq : dims.dpReplicate = dpReplicate
  dpShard_eq : dims.dpShard = dpShard
  cp_eq : dims.cp = cp
  tp_eq : dims.tp = tp
  worldSize_eq : dims.worldSize = ((pp * (dpReplicate * (dpShard * (cp * tp))) : Nat) : Int)
  pipelined : 1 < pp → dpReplicate = 1

theorem validated : Nonempty (Sizes mesh.dims) := by
  obtain ⟨given, dims, accepted⟩ := mesh
  obtain ⟨shard, filled⟩ := given.withShard_eq
  simp only [ParallelDims.validate, ensure_bind_eq_ok, filled] at accepted
  obtain ⟨degrees, _, sharded, product, pipelined, rest⟩ := accepted
  simp only [forall_mem_cons] at degrees
  obtain ⟨replicate, cp, tp, pp, _⟩ := degrees
  have kept : ∃ withEp, dims = { given with dpShard := shard, dpShardWithEp := withEp } := by
    split at rest
    · obtain ⟨withEp, filledEp⟩ := ({ given with dpShard := shard } : ParallelDims).withShardOfEp_eq
      simp only [ParallelDims.validateEp, ensure_bind_eq_ok, filledEp] at rest
      obtain ⟨_, _, _, _, _, returned⟩ := rest
      exact ⟨withEp, (Except.ok.inj returned).symm⟩
    · exact ⟨_, (Except.ok.inj rest).symm⟩
  obtain ⟨withEp, rfl⟩ := kept
  have natural : ∀ {size : Int}, 1 ≤ size → ((size.toNat : Nat) : Int) = size :=
    fun least => Int.toNat_of_nonneg (by omega)
  refine ⟨⟨given.pp.toNat, given.dpReplicate.toNat, shard.toNat, given.cp.toNat, given.tp.toNat,
    by omega, (natural pp).symm, (natural replicate).symm, (natural sharded).symm,
    (natural cp).symm, (natural tp).symm, ?_, by omega⟩⟩
  simp only [Nat.cast_mul, natural pp, natural replicate, natural sharded, natural cp, natural tp,
    ← product]
  ac_rfl

end AcceptedDims

inductive MeshDim where
  | pp
  | dpReplicate
  | dpShard
  | cp
  | tp
  | dpCpTp
  | dpShardCp
  | dp
  | ppCpTp
  deriving DecidableEq, Repr

abbrev RankInfo := MeshDim → Option Nat

/-- `numpy.array_split`: the first sections take what is left over, one each. -/
def arraySplit (m : List Nat) (sections : Nat) : List (List Nat) :=
  let each := m.length / sections
  let extras := m.length % sections
  let start := fun r => r * each + min r extras
  (List.range sections).map fun r => (m.drop (start r)).take (start (r + 1) - start r)

def coordinatesIn (m : List Nat) (sections : Nat) : List (Nat × Nat) :=
  (arraySplit m sections).zipIdx.flatMap fun part =>
    (part.1.filter (· ∈ m)).map fun d => (d, part.2)

/-- `info[d][dim] = r` for each pair. -/
def writeDim (dim : MeshDim) (writes : List (Nat × Nat)) (info : Nat → RankInfo) :
    Nat → RankInfo :=
  writes.foldl (fun info write =>
    Function.update info write.1 (Function.update (info write.1) dim (some write.2))) info

def splitDims : List (MeshDim × Nat) → List (List Nat) → (Nat → RankInfo) → Nat → RankInfo
  | [], _, info => info
  | (dim, size) :: dims, meshes, info =>
    splitDims dims (meshes.flatMap fun m => arraySplit m size)
      (writeDim dim (meshes.flatMap fun m => coordinatesIn m size) info)

def withDerived (dims : ParallelDims) (info : RankInfo) : Option RankInfo := do
  let dpReplicate ← info .dpReplicate
  let dpShard ← info .dpShard
  let cp ← info .cp
  let tp ← info .tp
  let pp ← info .pp
  return fun
    | .dpCpTp => some (dpReplicate * dims.dpShard.toNat * dims.cp.toNat * dims.tp.toNat +
        dpShard * dims.cp.toNat * dims.tp.toNat + cp * dims.tp.toNat + tp)
    | .dpShardCp => some (dpShard * dims.cp.toNat + cp)
    | .dp => some (dpReplicate * dims.dpShard.toNat + dpShard)
    | .ppCpTp => some (pp * dims.tp.toNat * dims.cp.toNat + cp * dims.tp.toNat + tp)
    | dim => info dim

def meshDims : List MeshDim := [.pp, .dpReplicate, .dpShard, .cp, .tp]

namespace ParallelDims

variable (dims : ParallelDims)

/-- `range(self.world_size)` -/
def ranks : List Nat := List.range dims.worldSize.toNat

/-- `build_mesh_info`. -/
def fullRankInfo : Option (List RankInfo) :=
  let info := splitDims (meshDims.zip dims.shape) [dims.ranks] fun _ _ => none
  dims.ranks.mapM fun i => withDerived dims (info i)

def getRankInDim (dim : MeshDim) (rank : Nat) : Option Nat := do
  let table ← dims.fullRankInfo
  let info ← table[rank]?
  info dim

def isMasterRank (globalRank : Nat) : Prop :=
  (¬ 1 < dims.pp ∧ globalRank = 0) ∨
    (1 < dims.pp ∧ (globalRank : Rat) = dims.worldSize - dims.worldSize / dims.pp)

/-- `_get_num_saving_ranks`. -/
def getNumSavingRanks : Option ParallelDims → Nat
  | none => 1
  | some dims => (dims.worldSize / dims.dpReplicate).toNat

end ParallelDims

variable {sections count length : Nat} {meshes : List (List Nat)}

theorem arraySplit_range' (start length : Nat) (positive : 0 < sections) :
    arraySplit (List.range' start (sections * length)) sections =
      (List.range sections).map fun r => List.range' (start + r * length) length := by
  have each : sections * length / sections = length := Nat.mul_div_cancel_left length positive
  have extras : sections * length % sections = 0 := Nat.mul_mod_right sections length
  simp only [arraySplit, length_range', each, extras, Nat.min_zero, Nat.add_zero]
  refine map_congr_left fun r member => ?_
  have whole : (r + 1) * length ≤ sections * length :=
    Nat.mul_le_mul_right length (mem_range.mp member)
  rw [Nat.succ_mul] at whole ⊢
  rw [drop_range', Nat.mul_one, Nat.add_sub_cancel_left, take_range'_of_length_ge (by omega)]

theorem mem_coordinatesIn (start length : Nat) (positive : 0 < sections) (d r : Nat) :
    (d, r) ∈ coordinatesIn (List.range' start (sections * length)) sections ↔
      r < sections ∧ start + r * length ≤ d ∧ d < start + (r + 1) * length := by
  rw [coordinatesIn, arraySplit_range' start length positive, mem_flatMap]
  constructor
  · rintro ⟨⟨arr, place⟩, part, member⟩
    rw [mem_zipIdx_iff_getElem?, getElem?_map] at part
    obtain ⟨_, found, rfl⟩ := Option.map_eq_some_iff.mp part
    obtain ⟨inRange, same⟩ := List.getElem?_eq_some_iff.mp found
    rw [getElem_range] at same
    rw [length_range] at inRange
    obtain ⟨_, kept, here⟩ := mem_map.mp member
    obtain ⟨rfl, rfl⟩ := Prod.mk.inj here
    have inside := mem_range'_1.mp (mem_filter.mp kept).1
    rw [← same] at inside
    exact ⟨inRange, inside.1, by rw [Nat.succ_mul, ← Nat.add_assoc]; exact inside.2⟩
  · rintro ⟨inRange, least, most⟩
    have whole : (r + 1) * length ≤ sections * length := Nat.mul_le_mul_right length inRange
    rw [Nat.succ_mul] at most whole
    refine ⟨(List.range' (start + r * length) length, r), ?_, ?_⟩
    · rw [mem_zipIdx_iff_getElem?, getElem?_map, getElem?_range inRange]
      rfl
    · refine mem_map.mpr ⟨d, mem_filter.mpr ⟨?_, ?_⟩, rfl⟩
      · exact mem_range'_1.mpr ⟨least, by omega⟩
      · exact decide_eq_true (mem_range'_1.mpr ⟨by omega, by omega⟩)

theorem writeDim_eq (dim other : MeshDim) (writes : List (Nat × Nat)) (info : Nat → RankInfo)
    (d : Nat) :
    writeDim dim writes info d other =
      if other = dim then (lastWrite writes d).or (info d dim) else info d other := by
  induction writes generalizing info with
  | nil =>
    by_cases same : other = dim
    · simp [writeDim, lastWrite, same]
    · simp [writeDim, same]
  | cons write writes ih =>
    have later := ih (Function.update info write.1
      (Function.update (info write.1) dim (some write.2)))
    refine later.trans ?_
    by_cases same : other = dim
    · rw [if_pos same, if_pos same, lastWrite, Option.or_assoc]
      by_cases here : write.1 = d
      · simp [here]
      · simp [here, Function.update_of_ne (Ne.symm here)]
    · rw [if_neg same, if_neg same]
      by_cases here : d = write.1
      · simp [here, Function.update_of_ne same]
      · rw [Function.update_of_ne here]

/-- The meshes are `count` blocks of consecutive ranks. -/
def AreBlocks (meshes : List (List Nat)) (count length : Nat) : Prop :=
  ∀ m, m ∈ meshes ↔ ∃ block < count, m = List.range' (block * length) length

theorem AreBlocks.split
    (blocks : AreBlocks meshes count (sections * length)) (positive : 0 < sections) :
    AreBlocks (meshes.flatMap fun m => arraySplit m sections) (count * sections) length := by
  have start : ∀ block r,
      block * (sections * length) + r * length = (block * sections + r) * length := by
    intro block r
    rw [Nat.add_mul, Nat.mul_assoc]
  intro m
  rw [mem_flatMap]
  constructor
  · rintro ⟨whole, member, part⟩
    obtain ⟨block, less, rfl⟩ := (blocks whole).mp member
    rw [arraySplit_range' _ _ positive] at part
    obtain ⟨r, inRange, rfl⟩ := mem_map.mp part
    have bound : (block + 1) * sections ≤ count * sections := Nat.mul_le_mul_right sections less
    rw [Nat.succ_mul] at bound
    have inRange := mem_range.mp inRange
    exact ⟨block * sections + r, by omega, by rw [start]⟩
  · rintro ⟨place, less, rfl⟩
    have divided := Nat.div_add_mod' place sections
    refine ⟨List.range' (place / sections * (sections * length)) (sections * length),
      (blocks _).mpr ⟨place / sections, Nat.div_lt_of_lt_mul (Nat.mul_comm _ _ ▸ less), rfl⟩, ?_⟩
    rw [arraySplit_range' _ _ positive]
    refine mem_map.mpr ⟨place % sections, mem_range.mpr (Nat.mod_lt _ positive), ?_⟩
    rw [start, divided]

theorem mem_writes_iff
    (blocks : AreBlocks meshes count (sections * length)) (positive : 0 < sections)
    {d : Nat} (inside : d < count * (sections * length)) (r : Nat) :
    (d, r) ∈ meshes.flatMap (fun m => coordinatesIn m sections) ↔
      r = d / length % sections := by
  have filled : 0 < length := Nat.pos_of_ne_zero fun none => by simp [none] at inside
  rw [mem_flatMap]
  constructor
  · rintro ⟨m, member, written⟩
    obtain ⟨block, _, rfl⟩ := (blocks m).mp member
    obtain ⟨inRange, least, most⟩ := (mem_coordinatesIn _ _ positive d r).mp written
    have digit : d / length = block * sections + r := by
      apply Nat.div_eq_of_lt_le
      · rw [Nat.add_mul, Nat.mul_assoc]
        exact least
      · rw [Nat.add_assoc, Nat.add_mul, Nat.mul_assoc]
        exact most
    rw [digit, Nat.mul_add_mod_of_lt inRange]
  · rintro rfl
    have digit := Nat.div_add_mod' (d / length) sections
    have start : d / length / sections * (sections * length) + d / length % sections * length =
        d / length * length := by
      rw [← Nat.mul_assoc, ← Nat.add_mul, digit]
    have less : d / length / sections < count := by
      rw [Nat.div_div_eq_div_mul, Nat.mul_comm length]
      exact Nat.div_lt_of_lt_mul (Nat.mul_comm _ count ▸ inside)
    refine ⟨_, (blocks _).mpr ⟨d / length / sections, less, rfl⟩,
      (mem_coordinatesIn _ _ positive d _).mpr ⟨Nat.mod_lt _ positive, ?_, ?_⟩⟩
    · rw [start]
      exact Nat.div_mul_le_self d length
    · rw [Nat.add_mul, ← Nat.add_assoc, start, Nat.one_mul]
      exact Nat.lt_div_mul_add filled

/-- After the loop every rank of a block has the coordinates of its offset. -/
theorem splitDims_eq (dims : List (MeshDim × Nat)) (distinct : (dims.map Prod.fst).Nodup)
    (blocks : AreBlocks meshes count (dims.map Prod.snd).prod) (info : Nat → RankInfo)
    {block : Nat} (less : block < count) {index : List Nat}
    (inside : InShape index (dims.map Prod.snd)) (dim : MeshDim) :
    splitDims dims meshes info
        (block * (dims.map Prod.snd).prod + offset (dims.map Prod.snd) index) dim =
      (((dims.map Prod.fst).zip index).lookup dim).or
        (info (block * (dims.map Prod.snd).prod + offset (dims.map Prod.snd) index) dim) := by
  -- The blocks of the meshes are the invariant; a round divides each of them.
  induction dims generalizing meshes count info block index with
  | nil => simp [splitDims]
  | cons first dims ih =>
    obtain ⟨name, size⟩ := first
    cases index with
    | nil => cases inside
    | cons coordinate index =>
      rw [map_cons, nodup_cons] at distinct
      rw [map_cons, prod_cons] at blocks
      rw [map_cons, inShape_cons] at inside
      have positive : 0 < size := Nat.zero_lt_of_lt inside.1
      have bound := offset_lt inside.2
      simp only [map_cons, prod_cons, offset, zip_cons_cons]
      have place : block * (size * (dims.map Prod.snd).prod) +
          (coordinate * (dims.map Prod.snd).prod + offset (dims.map Prod.snd) index) =
          (block * size + coordinate) * (dims.map Prod.snd).prod +
            offset (dims.map Prod.snd) index := by
        rw [Nat.add_mul, Nat.mul_assoc, Nat.add_assoc]
      have later : block * size + coordinate < count * size := by
        have next : (block + 1) * size ≤ count * size := Nat.mul_le_mul_right size less
        rw [Nat.succ_mul] at next
        omega
      rw [place, splitDims, ih distinct.2 (blocks.split positive) _ later inside.2, writeDim_eq]
      by_cases here : dim = name
      · have last : lastWrite (meshes.flatMap fun m => coordinatesIn m size)
            ((block * size + coordinate) * (dims.map Prod.snd).prod +
              offset (dims.map Prod.snd) index) = some coordinate := by
          have inWorld : (block * size + coordinate) * (dims.map Prod.snd).prod +
              offset (dims.map Prod.snd) index < count * (size * (dims.map Prod.snd).prod) := by
            have next : (block * size + coordinate + 1) * (dims.map Prod.snd).prod ≤
                count * size * (dims.map Prod.snd).prod := Nat.mul_le_mul_right _ later
            rw [Nat.succ_mul, Nat.mul_assoc count] at next
            omega
          have written := mem_writes_iff blocks positive inWorld
          rw [Nat.mul_comm _ (dims.map Prod.snd).prod,
            Nat.mul_add_div (Nat.zero_lt_of_lt bound), Nat.div_eq_of_lt bound, Nat.add_zero,
            Nat.mul_add_mod_of_lt inside.1, Nat.mul_comm (dims.map Prod.snd).prod] at written
          cases last : lastWrite (meshes.flatMap fun m => coordinatesIn m size) _ with
          | none =>
            exact absurd (mem_map_of_mem ((written coordinate).mpr rfl))
              ((lastWrite_eq_none_iff _ _).mp last)
          | some r => rw [(written r).mp (mem_of_lastWrite last)]
        have unnamed : ((dims.map Prod.fst).zip index).lookup dim = none := by
          refine lookup_eq_none_iff.mpr fun pair member => bne_iff_ne.mpr ?_
          rintro rfl
          exact distinct.1 (here ▸ (of_mem_zip member).1)
        rw [if_pos here, last, unnamed, here, lookup_cons_self]
        rfl
      · rw [if_neg here, lookup_cons, beq_false_of_ne here]

theorem mapM_eq_some_map {Item Result : Type} {compute : Item → Option Result}
    {result : Item → Result} {items : List Item}
    (known : ∀ item ∈ items, compute item = some (result item)) :
    items.mapM compute = some (items.map result) := by
  induction items with
  | nil => rfl
  | cons item items ih =>
    obtain ⟨first, rest⟩ := forall_mem_cons.mp known
    rw [mapM_cons, first, ih rest]
    rfl

namespace AcceptedDims.Sizes

variable {dims : ParallelDims}

theorem shape_eq (sizes : Sizes dims) :
    dims.shape = [sizes.pp, sizes.dpReplicate, sizes.dpShard, sizes.cp, sizes.tp] := by
  simp [ParallelDims.shape, sizes.pp_eq, sizes.dpReplicate_eq, sizes.dpShard_eq, sizes.cp_eq,
    sizes.tp_eq]

theorem prod_shape (sizes : Sizes dims) : dims.shape.prod = dims.worldSize.toNat := by
  rw [sizes.worldSize_eq, Int.toNat_natCast, sizes.shape_eq]
  simp

theorem exists_coordinates (sizes : Sizes dims) {rank : Nat}
    (inWorld : rank < dims.worldSize.toNat) :
    ∃ pp dpReplicate dpShard cp tp,
      InShape [pp, dpReplicate, dpShard, cp, tp] dims.shape ∧
        offset dims.shape [pp, dpReplicate, dpShard, cp, tp] = rank := by
  rw [← sizes.prod_shape] at inWorld
  obtain ⟨index, inside, rfl⟩ := exists_index inWorld
  have coordinates := inside
  rw [sizes.shape_eq] at coordinates
  obtain ⟨pp, _, _, four, rfl⟩ := forall₂_cons_right_iff.mp coordinates
  obtain ⟨dpReplicate, _, _, three, rfl⟩ := forall₂_cons_right_iff.mp four
  obtain ⟨dpShard, _, _, two, rfl⟩ := forall₂_cons_right_iff.mp three
  obtain ⟨cp, _, _, one, rfl⟩ := forall₂_cons_right_iff.mp two
  obtain ⟨tp, _, _, none, rfl⟩ := forall₂_cons_right_iff.mp one
  cases none
  exact ⟨pp, dpReplicate, dpShard, cp, tp, inside, rfl⟩

def rankAt (sizes : Sizes dims) (pp dpReplicate dpShard cp tp : Nat) : MeshDim → Nat
  | .pp => pp
  | .dpReplicate => dpReplicate
  | .dpShard => dpShard
  | .cp => cp
  | .tp => tp
  | .dpCpTp => offset [sizes.dpReplicate, sizes.dpShard, sizes.cp, sizes.tp]
      [dpReplicate, dpShard, cp, tp]
  | .dpShardCp => offset [sizes.dpShard, sizes.cp] [dpShard, cp]
  | .dp => offset [sizes.dpReplicate, sizes.dpShard] [dpReplicate, dpShard]
  | .ppCpTp => offset [sizes.pp, sizes.cp, sizes.tp] [pp, cp, tp]

theorem splitDims_offset (sizes : Sizes dims) {index : List Nat}
    (inside : InShape index dims.shape) :
    splitDims (meshDims.zip dims.shape) [dims.ranks] (fun _ _ => none)
      (offset dims.shape index) = fun dim => (meshDims.zip index).lookup dim := by
  have names : (meshDims.zip dims.shape).map Prod.fst = meshDims := rfl
  have lengths : (meshDims.zip dims.shape).map Prod.snd = dims.shape := rfl
  have blocks : AreBlocks [dims.ranks] 1 ((meshDims.zip dims.shape).map Prod.snd).prod := by
    intro m
    rw [lengths, sizes.prod_shape, mem_singleton, ParallelDims.ranks, range_eq_range']
    constructor
    · rintro rfl
      exact ⟨0, Nat.one_pos, by rw [Nat.zero_mul]⟩
    · rintro ⟨block, first, rfl⟩
      rw [Nat.lt_one_iff.mp first, Nat.zero_mul]
  funext dim
  have split := splitDims_eq (meshDims.zip dims.shape) (by rw [names]; decide) blocks
    (fun _ _ => none) Nat.one_pos (by rwa [lengths]) dim
  rwa [lengths, names, Nat.zero_mul, Nat.zero_add, Option.or_none] at split

theorem withDerived_offset (sizes : Sizes dims) {pp dpReplicate dpShard cp tp : Nat}
    (inside : InShape [pp, dpReplicate, dpShard, cp, tp] dims.shape) :
    withDerived dims (splitDims (meshDims.zip dims.shape) [dims.ranks] (fun _ _ => none)
      (offset dims.shape [pp, dpReplicate, dpShard, cp, tp])) =
      some fun dim => some (sizes.rankAt pp dpReplicate dpShard cp tp dim) := by
  rw [sizes.splitDims_offset inside]
  refine congrArg some (funext fun dim => ?_)
  cases dim with
  | dpCpTp =>
    simp [rankAt, offset, sizes.dpShard_eq, sizes.cp_eq, sizes.tp_eq, Nat.mul_assoc, Nat.add_assoc]
  | dpShardCp => simp [rankAt, offset, sizes.cp_eq]
  | dp => simp [rankAt, offset, sizes.dpShard_eq]
  | ppCpTp =>
    simp [rankAt, offset, sizes.cp_eq, sizes.tp_eq, Nat.mul_assoc, Nat.add_assoc,
      Nat.mul_comm sizes.tp]
  | _ => rfl

theorem getRankInDim_offset (sizes : Sizes dims) {pp dpReplicate dpShard cp tp : Nat}
    (inside : InShape [pp, dpReplicate, dpShard, cp, tp] dims.shape) (dim : MeshDim) :
    dims.getRankInDim dim (offset dims.shape [pp, dpReplicate, dpShard, cp, tp]) =
      some (sizes.rankAt pp dpReplicate dpShard cp tp dim) := by
  let entry := fun rank => (withDerived dims (splitDims (meshDims.zip dims.shape) [dims.ranks]
    (fun _ _ => none) rank)).getD fun _ => none
  have entries : dims.fullRankInfo = some (dims.ranks.map entry) := by
    refine mapM_eq_some_map fun rank member => ?_
    obtain ⟨_, _, _, _, _, within, rfl⟩ := sizes.exists_coordinates (mem_range.mp member)
    rw [sizes.withDerived_offset within]
    simp only [entry, sizes.withDerived_offset within, Option.getD_some]
  have inWorld := offset_lt inside
  rw [sizes.prod_shape] at inWorld
  have found : dims.ranks[offset dims.shape [pp, dpReplicate, dpShard, cp, tp]]? =
      some (offset dims.shape [pp, dpReplicate, dpShard, cp, tp]) := getElem?_range inWorld
  rw [ParallelDims.getRankInDim, entries]
  simp only [bind, Option.bind, getElem?_map, found, Option.map_some, entry,
    sizes.withDerived_offset inside, Option.getD_some]

def stageSize (sizes : Sizes dims) : Nat :=
  [sizes.dpReplicate, sizes.dpShard, sizes.cp, sizes.tp].prod

section

variable (sizes : Sizes dims)

include sizes

theorem worldSize_toNat : dims.worldSize.toNat = sizes.pp * sizes.stageSize := by
  rw [← sizes.prod_shape, sizes.shape_eq, prod_cons, stageSize]

theorem stageSize_pos : 0 < sizes.stageSize := by
  obtain ⟨_, dpReplicate, dpShard, cp, tp⟩ := sizes.positive
  simp [stageSize, dpReplicate, dpShard, cp, tp]

theorem getRankInDim_digits {rank : Nat} (inWorld : rank < dims.worldSize.toNat) :
    dims.getRankInDim .pp rank = some (rank / sizes.stageSize) ∧
      dims.getRankInDim .dpCpTp rank = some (rank % sizes.stageSize) ∧
      dims.getRankInDim .dpReplicate rank = some
        (rank % sizes.stageSize / [sizes.dpShard, sizes.cp, sizes.tp].prod) := by
  obtain ⟨pp, dpReplicate, dpShard, cp, tp, inside, rfl⟩ := sizes.exists_coordinates inWorld
  have found := sizes.getRankInDim_offset inside
  rw [sizes.shape_eq] at found inside ⊢
  have stage := (inShape_cons.mp inside).2
  have shard := (inShape_cons.mp stage).2
  rw [stageSize, offset_cons_div stage, offset_cons_mod stage, offset_cons_div shard]
  exact ⟨found .pp, found .dpCpTp, found .dpReplicate⟩

theorem isMasterRank_iff (rank : Nat) :
    dims.isMasterRank rank ↔ rank = (sizes.pp - 1) * sizes.stageSize := by
  have world : dims.worldSize = ((sizes.pp * sizes.stageSize : Nat) : Int) := by
    rw [sizes.worldSize_eq]
    simp [stageSize]
  have stages : (sizes.pp : Rat) ≠ 0 := Nat.cast_ne_zero.mpr sizes.positive.1.ne'
  have lastStage : ((sizes.pp * sizes.stageSize : Nat) : Rat) -
      ((sizes.pp * sizes.stageSize : Nat) : Rat) / sizes.pp =
        ((sizes.pp - 1) * sizes.stageSize : Nat) := by
    rw [Nat.sub_mul, Nat.one_mul, Nat.cast_sub (Nat.le_mul_of_pos_left _ sizes.positive.1),
      Nat.cast_mul, mul_div_cancel_left₀ _ stages]
  rw [ParallelDims.isMasterRank, sizes.pp_eq, world, Int.cast_natCast, Int.cast_natCast, lastStage,
    Nat.cast_inj]
  by_cases pipelined : 1 < sizes.pp
  · simp [pipelined]
  · have single : sizes.pp = 1 := by
      have positive := sizes.positive.1
      omega
    simp [single]

theorem coordinates_offset {index : List Nat} (inside : InShape index dims.shape) :
    meshDims.mapM (fun dim => dims.getRankInDim dim (offset dims.shape index)) = some index := by
  have inWorld := offset_lt inside
  rw [sizes.prod_shape] at inWorld
  obtain ⟨pp, dpReplicate, dpShard, cp, tp, within, same⟩ := sizes.exists_coordinates inWorld
  have listed := getElem?_indices within
  rw [same, getElem?_indices inside] at listed
  have found := sizes.getRankInDim_offset within
  rw [Option.some.inj listed]
  simp only [meshDims, mapM_cons, mapM_nil, found]
  rfl

theorem getNumSavingRanks_eq :
    ParallelDims.getNumSavingRanks (some dims) =
      sizes.pp * sizes.stageSize / sizes.dpReplicate := by
  rw [ParallelDims.getNumSavingRanks, ← sizes.worldSize_toNat, sizes.worldSize_eq,
    sizes.dpReplicate_eq, ← Int.natCast_ediv, Int.toNat_natCast, Int.toNat_natCast]

/-- The first replica are the first ranks, since stages and replicas exclude each other. -/
theorem saving_iff (rank : Nat) :
    rank < dims.worldSize.toNat ∧ dims.getRankInDim .dpReplicate rank = some 0 ↔
      rank < sizes.pp * sizes.stageSize / sizes.dpReplicate := by
  have replicas := sizes.positive.2.1
  have split : sizes.stageSize = sizes.dpReplicate * [sizes.dpShard, sizes.cp, sizes.tp].prod := by
    rw [stageSize, prod_cons]
  have digit : rank < dims.worldSize.toNat → (dims.getRankInDim .dpReplicate rank = some 0 ↔
      rank % sizes.stageSize < [sizes.dpShard, sizes.cp, sizes.tp].prod) := by
    intro inWorld
    have shards : 0 < [sizes.dpShard, sizes.cp, sizes.tp].prod := by
      obtain ⟨_, _, dpShard, cp, tp⟩ := sizes.positive
      simp [dpShard, cp, tp]
    rw [(sizes.getRankInDim_digits inWorld).2.2, Option.some_inj, Nat.div_eq_zero_iff_lt shards]
  rw [and_congr_right digit, sizes.worldSize_toNat]
  by_cases single : sizes.dpReplicate = 1
  · have whole : [sizes.dpShard, sizes.cp, sizes.tp].prod = sizes.stageSize := by
      rw [split, single, Nat.one_mul]
    rw [single, Nat.div_one, whole, and_iff_left_iff_imp]
    exact fun _ => Nat.mod_lt rank sizes.stageSize_pos
  · have unpiped : sizes.pp = 1 := by
      have several := sizes.pipelined
      have positive := sizes.positive.1
      omega
    rw [unpiped, Nat.one_mul, split, Nat.mul_div_cancel_left _ replicas]
    constructor
    · rintro ⟨inWorld, first⟩
      rwa [Nat.mod_eq_of_lt inWorld] at first
    · intro first
      have inWorld := first.trans_le (Nat.le_mul_of_pos_left _ replicas)
      exact ⟨inWorld, by rwa [Nat.mod_eq_of_lt inWorld]⟩

end

end AcceptedDims.Sizes

theorem filter_range_mod (count : Nat) (positive : 0 < length) :
    (List.range (count * length)).filter (fun rank => rank % length = 0) =
      (List.range count).map (· * length) := by
  induction count with
  | zero => simp
  | succ count ih =>
    have last : (List.range length).filter (fun rest => (count * length + rest) % length = 0) =
        [0] := by
      obtain ⟨rest, rfl⟩ := Nat.exists_eq_succ_of_ne_zero positive.ne'
      rw [range_succ_eq_map, filter_cons_of_pos (by simp), filter_eq_nil_iff.mpr]
      intro later member
      obtain ⟨earlier, less, rfl⟩ := mem_map.mp member
      have small : earlier + 1 < rest + 1 := Nat.succ_lt_succ (mem_range.mp less)
      simp [Nat.mul_add_mod_of_lt small]
    rw [Nat.succ_mul, range_add, filter_append, ih, filter_map, range_succ, map_append]
    exact congrArg _ (congrArg _ last)

def coordinates (dims : ParallelDims) (rank : Nat) : Option (List Nat) :=
  meshDims.mapM fun dim => dims.getRankInDim dim rank

structure RankArithmetic (dims : ParallelDims) : Prop where
  bijection : Set.BijOn (coordinates dims) {rank | rank < dims.worldSize.toNat}
    (some '' {index | InShape index dims.shape})
  rowMajor : ∀ rank < dims.worldSize.toNat, ∀ index,
    coordinates dims rank = some index → offset dims.shape index = rank
  derived : ∀ rank < dims.worldSize.toNat, ∀ pp dpReplicate dpShard cp tp,
    coordinates dims rank = some [pp, dpReplicate, dpShard, cp, tp] →
      dims.getRankInDim .dp rank = some
        (offset [dims.dpReplicate.toNat, dims.dpShard.toNat] [dpReplicate, dpShard]) ∧
      dims.getRankInDim .dpShardCp rank = some
        (offset [dims.dpShard.toNat, dims.cp.toNat] [dpShard, cp]) ∧
      dims.getRankInDim .dpCpTp rank = some
        (offset [dims.dpReplicate.toNat, dims.dpShard.toNat, dims.cp.toNat, dims.tp.toNat]
          [dpReplicate, dpShard, cp, tp]) ∧
      dims.getRankInDim .ppCpTp rank = some
        (offset [dims.pp.toNat, dims.cp.toNat, dims.tp.toNat] [pp, cp, tp])
  stages : (dims.ranks.filter fun rank => dims.getRankInDim .dpCpTp rank = some 0).map
    (dims.getRankInDim .pp) = (List.range dims.pp.toNat).map some
  master : ∃! rank, rank < dims.worldSize.toNat ∧ dims.isMasterRank rank
  masterFirst : ∀ rank < dims.worldSize.toNat, dims.isMasterRank rank →
    IsLeast {other | other < dims.worldSize.toNat ∧
      dims.getRankInDim .pp other = some (dims.pp.toNat - 1)} rank
  saving : ∀ rank, rank < dims.worldSize.toNat ∧ dims.getRankInDim .dpReplicate rank = some 0 ↔
    rank < ParallelDims.getNumSavingRanks (some dims)

theorem rankArithmetic (mesh : AcceptedDims) : RankArithmetic mesh.dims := by
  obtain ⟨sizes⟩ := mesh.validated
  have filled := sizes.stageSize_pos
  have world := sizes.worldSize_toNat
  have stageCount : mesh.dims.pp.toNat = sizes.pp := by rw [sizes.pp_eq, Int.toNat_natCast]
  have master : (sizes.pp - 1) * sizes.stageSize < mesh.dims.worldSize.toNat := by
    rw [world]
    exact Nat.mul_lt_mul_of_pos_right (Nat.sub_one_lt_of_lt sizes.positive.1) filled
  have located : ∀ rank < mesh.dims.worldSize.toNat, ∃ index,
      InShape index mesh.dims.shape ∧ offset mesh.dims.shape index = rank ∧
        coordinates mesh.dims rank = some index := by
    intro rank inWorld
    rw [← sizes.prod_shape] at inWorld
    obtain ⟨index, inside, rfl⟩ := exists_index inWorld
    exact ⟨index, inside, rfl, sizes.coordinates_offset inside⟩
  refine ⟨⟨?_, ?_, ?_⟩, ?_, ?_, ?_, ?_, ?_, ?_⟩
  · intro rank inWorld
    obtain ⟨index, inside, _, found⟩ := located rank inWorld
    exact ⟨index, inside, found.symm⟩
  · intro first firstInWorld second secondInWorld same
    obtain ⟨index, _, rfl, found⟩ := located first firstInWorld
    obtain ⟨other, _, rfl, otherFound⟩ := located second secondInWorld
    have equal := found.symm.trans (same.trans otherFound)
    rw [Option.some.inj equal]
  · rintro _ ⟨index, inside, rfl⟩
    exact ⟨offset mesh.dims.shape index, (offset_lt inside).trans_eq sizes.prod_shape,
      sizes.coordinates_offset inside⟩
  · intro rank inWorld index found
    obtain ⟨other, _, rfl, otherFound⟩ := located rank inWorld
    rw [Option.some.inj (found.symm.trans otherFound)]
  · intro rank inWorld pp dpReplicate dpShard cp tp found
    obtain ⟨index, inside, rfl, known⟩ := located rank inWorld
    rw [Option.some.inj (known.symm.trans found)] at inside ⊢
    have derived := sizes.getRankInDim_offset inside
    simp only [sizes.pp_eq, sizes.dpReplicate_eq, sizes.dpShard_eq, sizes.cp_eq, sizes.tp_eq,
      Int.toNat_natCast]
    exact ⟨derived .dp, derived .dpShardCp, derived .dpCpTp, derived .ppCpTp⟩
  · have stageStarts : mesh.dims.ranks.filter
        (fun rank => mesh.dims.getRankInDim .dpCpTp rank = some 0) =
        (List.range sizes.pp).map (· * sizes.stageSize) := by
      rw [← filter_range_mod sizes.pp filled, ParallelDims.ranks, world]
      refine filter_congr fun rank member => ?_
      have inWorld := mem_range.mp member
      rw [← world] at inWorld
      exact decide_eq_decide.mpr (by rw [(sizes.getRankInDim_digits inWorld).2.1, Option.some_inj])
    rw [stageStarts, stageCount, map_map]
    refine map_congr_left fun stage member => ?_
    have inWorld : stage * sizes.stageSize < mesh.dims.worldSize.toNat := by
      rw [world]
      exact Nat.mul_lt_mul_of_pos_right (mem_range.mp member) filled
    rw [Function.comp_apply, (sizes.getRankInDim_digits inWorld).1, Nat.mul_div_cancel stage filled]
  · exact ⟨(sizes.pp - 1) * sizes.stageSize, ⟨master, (sizes.isMasterRank_iff _).mpr rfl⟩,
      fun rank found => (sizes.isMasterRank_iff rank).mp found.2⟩
  · intro rank inWorld isMaster
    rw [(sizes.isMasterRank_iff rank).mp isMaster, stageCount]
    constructor
    · refine ⟨master, ?_⟩
      rw [(sizes.getRankInDim_digits master).1, Nat.mul_div_cancel _ filled]
    · rintro other ⟨otherInWorld, lastStage⟩
      rw [(sizes.getRankInDim_digits otherInWorld).1, Option.some_inj] at lastStage
      rw [← lastStage]
      exact Nat.div_mul_le_self other sizes.stageSize
  · intro rank
    rw [sizes.getNumSavingRanks_eq]
    exact sizes.saving_iff rank

/-- Eight ranks in two stages, with `dp_shard` left open. -/
def twoStages : AcceptedDims where
  given := { dpReplicate := 1, dpShard := -1, cp := 1, tp := 2, pp := 2, worldSize := 8 }
  dims := { dpReplicate := 1, dpShard := 2, cp := 1, tp := 2, pp := 2, worldSize := 8 }
  accepted := rfl

example : twoStages.dims.ranks.map (twoStages.dims.getRankInDim .pp) =
    [some 0, some 0, some 0, some 0, some 1, some 1, some 1, some 1] := by
  decide +kernel

end CosmosRl.Utils
