import Mathlib.Data.List.Induction
import Mathlib.Data.List.Nodup
import Mathlib.Data.List.Perm.Basic
import Mathlib.Data.Nat.Basic

/-!
Dealing items to receivers in turn.

The receivers are numbered from 0.  Items are dealt one at a time, each to the
receiver whose turn it is, and after the last receiver it is the first one's turn
again.  Every item goes to exactly one receiver, and after full rounds all
receivers have the same number of items.

The last part is about batches of one size: taken from a queue in order, they are
the batches that were put there.
-/

namespace CosmosRl.Foundation

open List

universe u

variable {Item : Type u}

/-- Whose turn it is after `turn`. -/
def nextTurn (receivers turn : Nat) : Nat :=
  if receivers ≤ turn + 1 then 0 else turn + 1

variable {receivers : Nat}

theorem nextTurn_mod (positive : 0 < receivers) (dealt : Nat) :
    nextTurn receivers (dealt % receivers) = (dealt + 1) % receivers := by
  have below := Nat.mod_lt dealt positive
  rw [← Nat.mod_add_mod]
  generalize dealt % receivers = turn at below ⊢
  unfold nextTurn
  split
  · have last : turn + 1 = receivers := by omega
    rw [last, Nat.mod_self]
  · rw [Nat.mod_eq_of_lt (by omega)]

/-- What a receiver gets of the items, the first of which goes to receiver `turn`. -/
def deal (receivers : Nat) : Nat → List Item → Nat → List Item
  | _, [], _ => []
  | turn, item :: rest, receiver =>
    if turn = receiver then item :: deal receivers (nextTurn receivers turn) rest receiver
    else deal receivers (nextTurn receivers turn) rest receiver

@[simp]
theorem deal_nil (receivers turn receiver : Nat) :
    deal receivers turn ([] : List Item) receiver = [] := rfl

theorem deal_append_singleton (positive : 0 < receivers)
    (dealt : Nat) (items : List Item) (item : Item) (receiver : Nat) :
    deal receivers (dealt % receivers) (items ++ [item]) receiver =
      deal receivers (dealt % receivers) items receiver ++
        if (dealt + items.length) % receivers = receiver then [item] else [] := by
  induction items generalizing dealt with
  | nil =>
    simp only [nil_append, deal, length_nil, Nat.add_zero]
  | cons head tail ih =>
    have later := ih (dealt + 1)
    rw [Nat.add_assoc, Nat.add_comm 1] at later
    simp only [cons_append, deal, nextTurn_mod positive, later, length_cons]
    split <;> rfl

/-- All receivers together get every item once. -/
theorem deal_perm (positive : 0 < receivers) (dealt : Nat) (items : List Item) :
    ((List.range receivers).flatMap (deal receivers (dealt % receivers) items)).Perm items := by
  induction items generalizing dealt with
  | nil => simp
  | cons item rest ih =>
    have below := Nat.mod_lt dealt positive
    obtain ⟨before, after, split⟩ := append_of_mem (mem_range.mpr below)
    have distinct : (before ++ dealt % receivers :: after).Nodup := by
      rw [← split]
      exact nodup_range
    have others : ∀ receiver ∈ before ++ after, dealt % receivers ≠ receiver := by
      intro receiver member same
      subst same
      exact (nodup_cons.mp (nodup_middle.mp distinct)).1 member
    have step : ∀ receiver ∈ before ++ after,
        deal receivers (dealt % receivers) (item :: rest) receiver =
          deal receivers ((dealt + 1) % receivers) rest receiver := by
      intro receiver member
      rw [deal, if_neg (others receiver member), nextTurn_mod positive]
    have tail := ih (dealt + 1)
    rw [split, flatMap_append, flatMap_cons] at tail ⊢
    rw [flatMap_congr fun receiver member => step receiver (by simp [member]),
      flatMap_congr fun receiver member => step receiver (by simp [member])]
    rw [deal, if_pos rfl, nextTurn_mod positive, cons_append]
    exact (perm_middle.trans (tail.cons item))

/-- The number of items a receiver gets when the first item goes to receiver 0. -/
theorem length_deal {receiver : Nat} (isReceiver : receiver < receivers) (items : List Item) :
    (deal receivers 0 items receiver).length =
      (items.length + receivers - 1 - receiver) / receivers := by
  have positive : 0 < receivers := by omega
  induction items using List.reverseRecOn with
  | nil =>
    rw [deal_nil, length_nil, Nat.div_eq_of_lt (by simp; omega)]
  | append_singleton items item ih =>
    have step := deal_append_singleton positive 0 items item receiver
    rw [Nat.zero_mod, Nat.zero_add] at step
    rw [step, length_append, ih, length_append, length_singleton]
    have shift : items.length + 1 + receivers - 1 - receiver =
        (items.length + receivers - 1 - receiver) + 1 := by omega
    rw [shift, Nat.succ_div]
    have turn : receivers ∣ items.length + receivers - 1 - receiver + 1 ↔
        items.length % receivers = receiver := by
      have whole := Nat.mod_add_div items.length receivers
      have below := Nat.mod_lt items.length positive
      generalize items.length % receivers = rest at *
      generalize items.length / receivers = rounds at *
      have split : items.length + receivers - 1 - receiver + 1 =
          receivers * rounds + (rest + (receivers - receiver)) := by omega
      rw [split, Nat.dvd_add_right (Nat.dvd_mul_right receivers rounds)]
      constructor
      · rintro ⟨count, product⟩
        have once : count = 1 := by
          by_contra other
          rcases Nat.lt_or_gt_of_ne other with none | many
          · have zero : count = 0 := by omega
            rw [zero, Nat.mul_zero] at product
            omega
          · have large := Nat.mul_le_mul_left receivers many
            omega
        rw [once] at product
        omega
      · intro same
        exact ⟨1, by omega⟩
    by_cases here : items.length % receivers = receiver
    · rw [if_pos here, if_pos (turn.mpr here)]
      rfl
    · rw [if_neg here, if_neg fun divides => here (turn.mp divides)]
      rfl

theorem length_deal_of_dvd {receiver : Nat} (isReceiver : receiver < receivers)
    {items : List Item} (full : receivers ∣ items.length) :
    (deal receivers 0 items receiver).length = items.length / receivers := by
  obtain ⟨rounds, length⟩ := full
  rw [length_deal isReceiver, length, Nat.mul_div_cancel_left rounds (by omega)]
  have split : receivers * rounds + receivers - 1 - receiver =
      receivers * rounds + (receivers - 1 - receiver) := by omega
  rw [split, Nat.mul_add_div (by omega), Nat.div_eq_of_lt (by omega), Nat.add_zero]

/-- Parts of a deal with a common addition and a minimum are equally long exactly if the
deal fills its rounds or the longest part stays within the minimum. -/
theorem even_parts_iff (positive : 0 < receivers) (items : List Item) (extra minimum : Nat) :
    (∀ receiver, receiver < receivers →
      max minimum ((deal receivers 0 items receiver).length + extra) =
        max minimum ((deal receivers 0 items 0).length + extra)) ↔
      receivers ∣ items.length ∨ (items.length + receivers - 1) / receivers + extra ≤ minimum := by
  constructor
  · intro same
    by_contra neither
    simp only [not_or, Nat.not_le] at neither
    obtain ⟨uneven, long⟩ := neither
    have last := same (receivers - 1) (by omega)
    rw [length_deal (by omega), length_deal positive] at last
    have shorter : (items.length + receivers - 1 - (receivers - 1)) / receivers + 1 =
        (items.length + receivers - 1 - 0) / receivers := by
      have split : items.length + receivers - 1 - (receivers - 1) = items.length := by omega
      have positiveRest : 0 < items.length % receivers :=
        Nat.pos_of_ne_zero fun whole => uneven (Nat.dvd_of_mod_eq_zero whole)
      have below := Nat.mod_lt items.length positive
      have whole := Nat.div_add_mod items.length receivers
      rw [split, Nat.sub_zero]
      apply Eq.symm
      apply Nat.div_eq_of_lt_le
      · rw [Nat.add_mul, Nat.one_mul, Nat.mul_comm]
        omega
      · rw [Nat.add_mul, Nat.add_mul, Nat.one_mul, Nat.mul_comm]
        omega
    rw [Nat.sub_zero] at shorter last
    omega
  · intro even receiver isReceiver
    rcases even with full | short
    · rw [length_deal_of_dvd isReceiver full, length_deal_of_dvd positive full]
    · rw [length_deal isReceiver, length_deal positive, Nat.sub_zero]
      have less := Nat.div_le_div_right (c := receivers)
        (Nat.sub_le (items.length + receivers - 1) receiver)
      omega

theorem deal_one (items : List Item) : deal 1 0 items 0 = items := by
  induction items with
  | nil => rfl
  | cons item rest ih =>
    rw [deal, if_pos rfl]
    exact congrArg (item :: ·) ih

theorem prefix_of_flatten_prefix {size : Nat} (positive : 0 < size)
    {taken put : List (List Item)} (takenSize : ∀ batch ∈ taken, batch.length = size)
    (putSize : ∀ batch ∈ put, batch.length = size)
    (inOrder : taken.flatten <+: put.flatten) : taken <+: put := by
  induction taken generalizing put with
  | nil => exact nil_prefix
  | cons batch rest ih =>
    have full := takenSize batch mem_cons_self
    cases put with
    | nil =>
      obtain ⟨tail, empty⟩ := inOrder
      have none := congrArg List.length empty
      simp [full] at none
      omega
    | cons first later =>
      have firstFull := putSize first mem_cons_self
      obtain ⟨tail, same⟩ := inOrder
      simp only [flatten_cons, append_assoc] at same
      obtain ⟨sameBatch, sameRest⟩ := append_inj same (full.trans firstFull.symm)
      rw [sameBatch, prefix_cons_inj]
      exact ih (fun other member => takenSize other (by simp [member]))
        (fun other member => putSize other (by simp [member])) ⟨tail, sameRest⟩

end CosmosRl.Foundation
