import CosmosRl.Dispatcher.Protocol
import CosmosRl.Foundation.Nested

/-!
The transfer of scheduler and random states between replicas.

The sender packs its value, the receiver packs its own old value to have a buffer of the same
length, and unpacks what has arrived by the form of the old value.  Integers are packed with a
fixed width.  The values are those that are neither tensors nor arrays themselves.
-/

namespace CosmosRl.Policy

open CosmosRl.Foundation List
open CosmosRl.Dispatcher (PyError)

inductive PyLeaf (Real : Type) where
  | none
  | bool (value : Bool)
  | int (value : Int)
  | float (value : Real)
  | str (value : String)
  | ndarray (values : List Int)

/-- The same after `fix_data_type_size`. -/
inductive FixedLeaf (Real : Type) where
  | none
  | bool (value : Bool)
  | cInt64 (value : BitVec 64)
  | float (value : Real)
  | str (value : String)
  | ndarray (values : List Int)

/-- What `msgpack` packs itself, and the extension objects with eight bytes. -/
inductive PackedLeaf (Real : Type) where
  | none
  | bool (value : Bool)
  | float (value : Real)
  | str (value : String)
  | ext (code : Nat) (data : BitVec 64)

variable {Real : Type}

/-- `ctypes.c_int64` wraps. -/
def fixLeaf : PyLeaf Real → FixedLeaf Real
  | .none => .none
  | .bool value => .bool value
  | .int value => .cInt64 (BitVec.ofInt 64 value)
  | .float value => .float value
  | .str value => .str value
  | .ndarray values => .ndarray values

def fixDataTypeSize (obj : Nested (PyLeaf Real)) : Nested (FixedLeaf Real) := obj.map fixLeaf

def msgpackCLongExtType : Nat := 0x10

/-- `msgpack_c_long` for the objects that are not packed without it. -/
def msgpackCLong : FixedLeaf Real → Except PyError (PackedLeaf Real)
  | .none => .ok .none
  | .bool value => .ok (.bool value)
  | .cInt64 value => .ok (.ext msgpackCLongExtType value)
  | .float value => .ok (.float value)
  | .str value => .ok (.str value)
  | .ndarray _ => .error .typeError

/-- `msgunpack_c_long` for the extension objects.  Others never arrive. -/
def msgunpackCLong : PackedLeaf Real → PyLeaf Real
  | .none => .none
  | .bool value => .bool value
  | .float value => .float value
  | .str value => .str value
  | .ext code data => if code = msgpackCLongExtType then .int data.toInt else .none

def headerWidth (short : Nat) (byte : Bool) (size : Nat) : Nat :=
  if size < short then 1 else if byte ∧ size < 2 ^ 8 then 2 else if size < 2 ^ 16 then 3 else 5

def strWidth (value : String) : Nat := headerWidth 32 true value.utf8ByteSize + value.utf8ByteSize

def PackedLeaf.width : PackedLeaf Real → Nat
  | .none => 1
  | .bool _ => 1
  | .float _ => 9
  | .str value => strWidth value
  | .ext _ _ => 10

def containerWidth (container : Container) (size : Nat) : Nat :=
  match container with
  | .dict keys => headerWidth 16 false size + (keys.map strWidth).sum
  | _ => headerWidth 16 false size

/-- The format of `msgpack`: tuples arrive as lists, and the widths are those of the format. -/
structure MsgPack (Real : Type) where
  Buffer : Type
  packb : Nested (PackedLeaf Real) → Buffer
  unpackb : Buffer → Nested (PackedLeaf Real)
  length : Buffer → Nat
  unpackb_packb : ∀ obj, unpackb (packb obj) = obj.arrays
  length_packb : ∀ obj, length (packb obj) = obj.measure PackedLeaf.width containerWidth

/-- `x.tolist() if isinstance(x, np.ndarray) else x` -/
def tolist : Nested (PyLeaf Real) → Nested (PyLeaf Real)
  | .leaf (.ndarray values) => .node .list (values.map fun value => .leaf (.int value))
  | x => x

def arraysToLists : Nested (PyLeaf Real) → Nested (PyLeaf Real)
  | .node .tuple items => .node .tuple (items.map tolist)
  | obj => obj

/-- The last branch of `wrap_to_cuda_tensor`. -/
def wrapToCudaTensor (msgpack : MsgPack Real) (obj : Nested (PyLeaf Real)) :
    Except PyError msgpack.Buffer :=
  ((fixDataTypeSize (arraysToLists obj)).traverse msgpackCLong).map msgpack.packb

/-- `np.array` of a list of integers. -/
def npArray : Nested (PyLeaf Real) → Nested (PyLeaf Real)
  | .node _ items => .leaf (.ndarray (items.filterMap fun
      | .leaf (.int value) => some value
      | _ => none))
  | x => x

def toTuple : Nested (PyLeaf Real) → Nested (PyLeaf Real)
  | .node _ items => .node .tuple items
  | x => x

def restoreItem (old new : Nested (PyLeaf Real)) : Nested (PyLeaf Real) :=
  match old with
  | .leaf (.ndarray _) => npArray new
  | .node .tuple _ => toTuple new
  | _ => new

/-- The last branch of `extract_from_cuda_tensor`. -/
def extractFromCudaTensor (msgpack : MsgPack Real) (obj : Nested (PyLeaf Real))
    (tensor : msgpack.Buffer) : Except PyError (Nested (PyLeaf Real)) :=
  let objNew := (msgpack.unpackb tensor).map msgunpackCLong
  match obj with
  | .node .tuple items =>
    match objNew with
    | .node .list newItems =>
      if items.length = newItems.length then
        .ok (.node .tuple (List.zipWith restoreItem items newItems))
      else .error (.assertionError "")
    | _ => .error .typeError
  | _ => .ok objNew

inductive LeafShape where
  | optionalFloat
  | bool
  | int
  | str (value : String)
  | ndarray (size : Nat)

def leafShape : PyLeaf Real → LeafShape
  | .none => .optionalFloat
  | .bool _ => .bool
  | .int _ => .int
  | .float _ => .optionalFloat
  | .str value => .str value
  | .ndarray values => .ndarray values.length

structure EntryPair (Real : Type) where
  sender : Nested (PyLeaf Real)
  receiver : Nested (PyLeaf Real)
  sameEntry : sender.map leafShape = receiver.map leafShape
  noArray : ∀ values, sender ≠ .leaf (.ndarray values)

def Transferred (msgpack : MsgPack Real) (pair : EntryPair Real) : Prop :=
  ∃ sent own, wrapToCudaTensor msgpack pair.sender = .ok sent ∧
    wrapToCudaTensor msgpack pair.receiver = .ok own ∧
    msgpack.length sent = msgpack.length own ∧
    extractFromCudaTensor msgpack pair.receiver sent = .ok pair.sender

def isFloat : PyLeaf Real → Nat
  | .float _ => 1
  | _ => 0

def floats (obj : Nested (PyLeaf Real)) : Nat := obj.measure isFloat fun _ _ => 0

def InRange (value : Int) : Prop := -2 ^ 63 ≤ value ∧ value < 2 ^ 63

def LeafKept : PyLeaf Real → Prop
  | .int value => InRange value
  | .ndarray _ => False
  | _ => True

def Plain (obj : Nested (PyLeaf Real)) : Prop := obj.Everywhere LeafKept (· ≠ .tuple)

def ItemKept : Nested (PyLeaf Real) → Prop
  | .leaf (.ndarray values) => ∀ value ∈ values, InRange value
  | .node .tuple items => ∀ item ∈ items, Plain item
  | item => Plain item

def Restorable : Nested (PyLeaf Real) → Prop
  | .node .tuple items => ∀ item ∈ items, ItemKept item
  | obj => Plain obj

def received : PyLeaf Real → PyLeaf Real
  | .int value => .int (value.bmod (2 ^ 64))
  | .ndarray _ => .none
  | leaf => leaf

theorem inRange_iff (value : Int) : value.bmod (2 ^ 64) = value ↔ InRange value := by
  rw [InRange, Int.bmod_def]
  omega

theorem received_eq_self_iff (leaf : PyLeaf Real) : received leaf = leaf ↔ LeafKept leaf := by
  cases leaf with
  | int value => simpa [received, LeafKept] using inRange_iff value
  | _ => simp [received, LeafKept]

theorem plain_iff (obj : Nested (PyLeaf Real)) : obj.arrays.map received = obj ↔ Plain obj := by
  rw [Nested.map_arrays_eq_self_iff, Plain]
  simp only [received_eq_self_iff]

variable {obj : Nested (PyLeaf Real)} {packed : Nested (PackedLeaf Real)} {msgpack : MsgPack Real}

theorem unpacked_eq (traversed : (fixDataTypeSize obj).traverse msgpackCLong = .ok packed) :
    packed.arrays.map msgunpackCLong = obj.arrays.map received := by
  have same := Nested.map_eq_of_traverse traversed
  let unpack : Except PyError (PackedLeaf Real) → PyLeaf Real
    | .ok leaf => msgunpackCLong leaf
    | .error _ => .none
  have unpacked := congrArg (fun value => value.arrays.map unpack) same
  rw [fixDataTypeSize, Nested.map_map, Nested.arrays_map, Nested.arrays_map, Nested.map_map,
    Nested.map_map] at unpacked
  have leafwise : (fun leaf => unpack (msgpackCLong (fixLeaf leaf))) = @received Real := by
    funext leaf
    cases leaf <;> simp [unpack, msgpackCLong, fixLeaf, msgunpackCLong, received]
  rw [leafwise] at unpacked
  exact unpacked.symm

def shapeWidth : LeafShape → Nat
  | .optionalFloat => 1
  | .bool => 1
  | .int => 10
  | .str value => strWidth value
  | .ndarray _ => 0

theorem measure_packed (traversed : (fixDataTypeSize obj).traverse msgpackCLong = .ok packed) :
    packed.measure PackedLeaf.width containerWidth =
      (obj.map leafShape).measure shapeWidth containerWidth + 8 * floats obj := by
  have same := Nested.map_eq_of_traverse traversed
  let width : Except PyError (PackedLeaf Real) → Nat
    | .ok leaf => leaf.width
    | .error _ => 0
  have widths := congrArg (fun value => value.measure width containerWidth) same
  rw [fixDataTypeSize, Nested.map_map, Nested.measure_map, Nested.measure_map] at widths
  have leafwise : (fun leaf => width (msgpackCLong (fixLeaf leaf))) =
      fun leaf : PyLeaf Real => shapeWidth (leafShape leaf) + 8 * isFloat leaf := by
    funext leaf
    cases leaf <;> rfl
  rw [leafwise, Nested.measure_add, Nested.measure_mul, ← Nested.measure_map] at widths
  exact widths.symm

def tolistShape : Nested LeafShape → Nested LeafShape
  | .leaf (.ndarray size) => .node .list (List.replicate size (.leaf .int))
  | shape => shape

def listsShape : Nested LeafShape → Nested LeafShape
  | .node .tuple items => .node .tuple (items.map tolistShape)
  | shape => shape

theorem map_leafShape_tolist (x : Nested (PyLeaf Real)) :
    (tolist x).map leafShape = tolistShape (x.map leafShape) := by
  cases x with
  | leaf leaf =>
    cases leaf <;> simp [tolist, Nested.map, leafShape, tolistShape, Function.comp_def]
  | node container items => simp [tolist, Nested.map, tolistShape]

theorem map_leafShape_arraysToLists (obj : Nested (PyLeaf Real)) :
    (arraysToLists obj).map leafShape = listsShape (obj.map leafShape) := by
  cases obj with
  | leaf leaf => simp [arraysToLists, Nested.map, listsShape]
  | node container items =>
    cases container <;>
      simp [arraysToLists, Nested.map, listsShape, map_leafShape_tolist]

theorem floats_tolist (x : Nested (PyLeaf Real)) : floats (tolist x) = floats x := by
  cases x with
  | leaf leaf => cases leaf <;> simp [tolist, floats, Nested.measure, isFloat, Function.comp_def]
  | node container items => rfl

theorem floats_arraysToLists (obj : Nested (PyLeaf Real)) :
    floats (arraysToLists obj) = floats obj := by
  cases obj with
  | leaf leaf => rfl
  | node container items =>
    cases container with
    | tuple =>
      rw [arraysToLists, floats, floats, Nested.measure, Nested.measure, map_map]
      exact congrArg _ (congrArg _ (map_congr_left fun x _ => floats_tolist x))
    | list => rfl
    | dict keys => rfl

def PackableShape : LeafShape → Prop
  | .ndarray _ => False
  | _ => True

theorem exists_packed (packable : (obj.map leafShape).Everywhere PackableShape fun _ => True) :
    ∃ packed, (fixDataTypeSize obj).traverse msgpackCLong = .ok packed := by
  refine Nested.exists_traverse ?_
  rw [Nested.everywhere_map] at packable
  rw [fixDataTypeSize, Nested.everywhere_map]
  refine packable.imp (fun leaf accepted => ?_) fun _ _ => trivial
  cases leaf with
  | ndarray values => exact accepted.elim
  | _ => exact ⟨_, rfl⟩

theorem packable_of_plain (plain : Plain obj) :
    (obj.map leafShape).Everywhere PackableShape fun _ => True := by
  rw [Nested.everywhere_map]
  refine Nested.Everywhere.imp plain (fun leaf kept => ?_) fun _ _ => trivial
  cases leaf with
  | ndarray values => exact kept
  | _ => trivial

theorem packable_of_itemKept {x : Nested (PyLeaf Real)} (kept : ItemKept x) :
    ((tolist x).map leafShape).Everywhere PackableShape fun _ => True := by
  cases x with
  | leaf leaf =>
    cases leaf with
    | ndarray values => simp [tolist, Nested.map, Nested.Everywhere, leafShape, PackableShape]
    | _ => exact packable_of_plain kept
  | node container items =>
    cases container with
    | tuple =>
      simp only [tolist, Nested.map, Nested.Everywhere, forall_mem_map, true_and]
      exact fun item member => packable_of_plain (kept item member)
    | _ => exact packable_of_plain kept

theorem packable_of_restorable (restorable : Restorable obj) :
    ((arraysToLists obj).map leafShape).Everywhere PackableShape fun _ => True := by
  cases obj with
  | leaf leaf => exact packable_of_plain restorable
  | node container items =>
    cases container with
    | tuple =>
      simp only [arraysToLists, Nested.map, Nested.Everywhere, forall_mem_map, true_and]
      exact fun item member => packable_of_itemKept (restorable item member)
    | _ => exact packable_of_plain restorable

theorem restoreItem_congr {old other : Nested (PyLeaf Real)}
    (same : old.map leafShape = other.map leafShape) : restoreItem old = restoreItem other := by
  funext new
  cases old with
  | leaf leaf =>
    cases other with
    | leaf otherLeaf =>
      cases leaf <;> cases otherLeaf <;> simp [Nested.map, leafShape] at same <;>
        simp [restoreItem]
    | node container items => simp [Nested.map] at same
  | node container items =>
    cases other with
    | leaf otherLeaf => simp [Nested.map] at same
    | node otherContainer otherItems =>
      simp only [Nested.map, Nested.node.injEq] at same
      rw [same.1]
      cases otherContainer <;> rfl

theorem extractFromCudaTensor_congr (msgpack : MsgPack Real) {other : Nested (PyLeaf Real)}
    (same : obj.map leafShape = other.map leafShape) :
    extractFromCudaTensor msgpack obj = extractFromCudaTensor msgpack other := by
  funext tensor
  cases obj with
  | leaf leaf =>
    cases other with
    | leaf otherLeaf => rfl
    | node container items => simp [Nested.map] at same
  | node container items =>
    cases other with
    | leaf otherLeaf => simp [Nested.map] at same
    | node otherContainer otherItems =>
      simp only [Nested.map, Nested.node.injEq] at same
      have lengths := congrArg List.length same.2
      rw [length_map, length_map] at lengths
      have restored : items.map restoreItem = otherItems.map restoreItem := by
        have pairs := same.2
        rw [← forall₂_eq_eq_eq, forall₂_map_left_iff, forall₂_map_right_iff] at pairs ⊢
        exact pairs.imp fun _ _ => restoreItem_congr
      have applied : ∀ olds newItems : List (Nested (PyLeaf Real)),
          List.zipWith restoreItem olds newItems =
            List.zipWith (fun restore new => restore new) (olds.map restoreItem) newItems := by
        simp [zipWith_map_left]
      have zipped := fun newItems => (applied items newItems).trans
        ((congrArg (List.zipWith _ · newItems) restored).trans (applied otherItems newItems).symm)
      rw [same.1]
      cases otherContainer with
      | tuple => simp only [extractFromCudaTensor, lengths, zipped]
      | list => rfl
      | dict keys => rfl

theorem restoreItem_eq_self_iff (x : Nested (PyLeaf Real)) :
    restoreItem x ((tolist x).arrays.map received) = x ↔ ItemKept x := by
  have plain := plain_iff x
  cases x with
  | leaf leaf =>
    cases leaf with
    | ndarray values =>
      have back : restoreItem (.leaf (.ndarray values))
          ((tolist (.leaf (.ndarray values))).arrays.map received) = (.leaf (.ndarray
            (values.map fun value => value.bmod (2 ^ 64))) : Nested (PyLeaf Real)) := by
        simp [tolist, Nested.arrays, Nested.map, restoreItem, npArray, received,
          filterMap_map, Function.comp_def]
      rw [back, ItemKept, Nested.leaf.injEq, PyLeaf.ndarray.injEq, map_eq_self_iff]
      exact forall₂_congr fun value _ => inRange_iff value
    | _ => exact plain
  | node container items =>
    cases container with
    | tuple =>
      have back : restoreItem (.node .tuple items)
          ((tolist (.node .tuple items)).arrays.map received) =
            .node .tuple (items.map fun item => item.arrays.map received) := by
        simp [tolist, Nested.arrays, Nested.map, restoreItem, toTuple]
      rw [back, ItemKept, Nested.node.injEq, map_eq_self_iff]
      simp only [true_and, plain_iff]
    | _ => exact plain

theorem wrapToCudaTensor_eq_ok
    {tensor : msgpack.Buffer} (wrapped : wrapToCudaTensor msgpack obj = .ok tensor) :
    ∃ packed, (fixDataTypeSize (arraysToLists obj)).traverse msgpackCLong = .ok packed ∧
      tensor = msgpack.packb packed := by
  rw [wrapToCudaTensor] at wrapped
  cases traversed : (fixDataTypeSize (arraysToLists obj)).traverse msgpackCLong with
  | error exn =>
    rw [traversed] at wrapped
    cases wrapped
  | ok packed =>
    rw [traversed] at wrapped
    cases wrapped
    exact ⟨packed, rfl, rfl⟩

theorem extract_self_iff (noArray : ∀ values, obj ≠ .leaf (.ndarray values))
    (traversed : (fixDataTypeSize (arraysToLists obj)).traverse msgpackCLong = .ok packed) :
    extractFromCudaTensor msgpack obj (msgpack.packb packed) = .ok obj ↔ Restorable obj := by
  have unpacked := unpacked_eq traversed
  have plain := plain_iff obj
  rw [← msgpack.unpackb_packb packed] at unpacked
  cases obj with
  | leaf leaf =>
    simp only [extractFromCudaTensor, unpacked, Except.ok.injEq]
    exact plain
  | node container items =>
    cases container with
    | tuple =>
      simp only [arraysToLists, Nested.arrays, Nested.map, if_true, map_map] at unpacked
      simp only [extractFromCudaTensor, unpacked, length_map, if_true, Except.ok.injEq,
        Nested.node.injEq, true_and, zipWith_map_right, zipWith_self,
        map_eq_self_iff, Restorable, ← restoreItem_eq_self_iff]
      rfl
    | _ =>
      simp only [extractFromCudaTensor, unpacked, Except.ok.injEq]
      exact plain

theorem sameShape_arraysToLists (pair : EntryPair Real) :
    (arraysToLists pair.sender).map leafShape = (arraysToLists pair.receiver).map leafShape := by
  rw [map_leafShape_arraysToLists, map_leafShape_arraysToLists, pair.sameEntry]

theorem length_eq_iff {pair : EntryPair Real} {sent own : Nested (PackedLeaf Real)}
    (sending : (fixDataTypeSize (arraysToLists pair.sender)).traverse msgpackCLong = .ok sent)
    (owning : (fixDataTypeSize (arraysToLists pair.receiver)).traverse msgpackCLong = .ok own) :
    msgpack.length (msgpack.packb sent) = msgpack.length (msgpack.packb own) ↔
      floats pair.sender = floats pair.receiver := by
  rw [msgpack.length_packb, msgpack.length_packb, measure_packed sending, measure_packed owning,
    sameShape_arraysToLists, floats_arraysToLists, floats_arraysToLists]
  omega

/-- The state is transferred exactly if as many floats stand on both sides, and the value of the
sender is restorable. -/
theorem transferred_iff (msgpack : MsgPack Real) (pair : EntryPair Real) :
    Transferred msgpack pair ↔
      floats pair.sender = floats pair.receiver ∧ Restorable pair.sender := by
  have extracting := extractFromCudaTensor_congr msgpack pair.sameEntry
  constructor
  · rintro ⟨sent, own, sending, owning, fits, extracted⟩
    obtain ⟨packed, traversed, rfl⟩ := wrapToCudaTensor_eq_ok sending
    obtain ⟨old, oldTraversed, rfl⟩ := wrapToCudaTensor_eq_ok owning
    rw [← extracting] at extracted
    exact ⟨(length_eq_iff traversed oldTraversed).mp fits,
      (extract_self_iff pair.noArray traversed).mp extracted⟩
  · rintro ⟨sameFloats, restorable⟩
    have packable := packable_of_restorable restorable
    obtain ⟨packed, traversed⟩ := exists_packed packable
    obtain ⟨old, oldTraversed⟩ := exists_packed (sameShape_arraysToLists pair ▸ packable)
    refine ⟨msgpack.packb packed, msgpack.packb old, ?_, ?_,
      (length_eq_iff traversed oldTraversed).mpr sameFloats, ?_⟩
    · rw [wrapToCudaTensor, traversed]
      rfl
    · rw [wrapToCudaTensor, oldTraversed]
      rfl
    · rw [← extracting]
      exact (extract_self_iff pair.noArray traversed).mpr restorable

def plainMsgPack : MsgPack Real where
  Buffer := Nested (PackedLeaf Real)
  packb := id
  unpackb := Nested.arrays
  length := fun obj => obj.measure PackedLeaf.width containerWidth
  unpackb_packb _ := rfl
  length_packb _ := rfl

/-- A state of `random`: the version, the words of the generator and `gauss_next`. -/
def randomState (gaussNext : PyLeaf Rat) : Nested (PyLeaf Rat) :=
  .node .tuple [.leaf (.int 3), .node .tuple (List.replicate 625 (.leaf (.int 0))),
    .leaf gaussNext]

theorem map_leafShape_randomState (gaussNext : PyLeaf Rat) :
    (randomState gaussNext).map leafShape = .node .tuple [.leaf .int,
      .node .tuple (List.replicate 625 (.leaf .int)), .leaf (leafShape gaussNext)] := by
  simp only [randomState, Nested.map, map_cons, map_nil, map_replicate, leafShape]

theorem floats_randomState (gaussNext : PyLeaf Rat) :
    floats (randomState gaussNext) = isFloat gaussNext := by
  simp only [floats, randomState, Nested.measure, map_cons, map_nil,
    map_replicate, sum_cons, sum_nil, sum_replicate, isFloat]
  simp

theorem randomState_ne_leaf (gaussNext leaf : PyLeaf Rat) : randomState gaussNext ≠ .leaf leaf := by
  intro same
  cases same

def gaussNextAtSender : EntryPair Rat where
  sender := randomState (.float (1 / 2))
  receiver := randomState .none
  sameEntry := (map_leafShape_randomState _).trans (map_leafShape_randomState .none).symm
  noArray := fun _ => randomState_ne_leaf _ _

theorem not_transferred : ¬ Transferred plainMsgPack gaussNextAtSender := by
  rintro ⟨sent, own, sending, owning, fits, _⟩
  obtain ⟨packed, traversed, rfl⟩ := wrapToCudaTensor_eq_ok sending
  obtain ⟨old, oldTraversed, rfl⟩ := wrapToCudaTensor_eq_ok owning
  have sameFloats := (length_eq_iff traversed oldTraversed).mp fits
  rw [gaussNextAtSender, floats_randomState, floats_randomState] at sameFloats
  exact absurd sameFloats one_ne_zero

end CosmosRl.Policy
