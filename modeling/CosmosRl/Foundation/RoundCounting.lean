import Mathlib.Logic.Function.Basic

/-!
Counting rounds by acknowledgements.

The parties of a group pass rounds together: a party enters a round, and it
acknowledges the round only after every party has entered it.  A coordinator that
hears nothing but acknowledgements counts a round at its first one and settles it
at its last one.  It tells first and last apart by the marks it keeps for the
parties.
-/

namespace CosmosRl.Foundation

universe u

structure RoundCounter (Party : Type u) where
  counted : Nat
  settled : Nat
  marked : Party → Bool

namespace RoundCounter

variable {Party : Type u} [DecidableEq Party]

def acknowledge (parties : List Party) (party : Party) (counter : RoundCounter Party) :
    RoundCounter Party :=
  let counted := if parties.any counter.marked then counter.counted else counter.counted + 1
  let marked := Function.update counter.marked party true
  if parties.all marked then
    { counted := counted, settled := counter.settled + 1, marked := fun _ => false }
  else { counted := counted, settled := counter.settled, marked := marked }

variable (parties : List Party) (acknowledged entered : Party → Nat)
  (counter : RoundCounter Party)

structure Settled : Prop where
  settled_eq : counter.settled = counter.counted
  acknowledged_eq : ∀ party ∈ parties, acknowledged party = counter.counted
  unmarked : ∀ party ∈ parties, counter.marked party = false
  entered_cases : ∀ party ∈ parties,
    entered party = counter.counted ∨ entered party = counter.counted + 1

structure Open : Prop where
  settled_eq : counter.settled + 1 = counter.counted
  acknowledged_eq : ∀ party ∈ parties, acknowledged party =
    if counter.marked party then counter.counted else counter.settled
  entered_eq : ∀ party ∈ parties, entered party = counter.counted
  someMarked : ∃ party ∈ parties, counter.marked party = true
  someUnmarked : ∃ party ∈ parties, counter.marked party = false

def InRounds : Prop :=
  Settled parties acknowledged entered counter ∨ Open parties acknowledged entered counter

variable {parties acknowledged entered counter}

section

omit [DecidableEq Party]

theorem InRounds.acknowledged_le (rounds : InRounds parties acknowledged entered counter)
    {party : Party} (member : party ∈ parties) :
    acknowledged party ≤ counter.counted := by
  rcases rounds with settled | opened
  · exact Nat.le_of_eq (settled.acknowledged_eq party member)
  · rw [opened.acknowledged_eq party member, ← opened.settled_eq]
    split <;> omega

theorem InRounds.exists_acknowledged (rounds : InRounds parties acknowledged entered counter)
    (nonempty : parties ≠ []) :
    ∃ party ∈ parties, acknowledged party = counter.counted := by
  rcases rounds with settled | opened
  · obtain ⟨party, member⟩ := List.exists_mem_of_ne_nil parties nonempty
    exact ⟨party, member, settled.acknowledged_eq party member⟩
  · obtain ⟨party, member, marked⟩ := opened.someMarked
    refine ⟨party, member, ?_⟩
    rw [opened.acknowledged_eq party member, if_pos marked]

theorem InRounds.settled_of_all (rounds : InRounds parties acknowledged entered counter)
    (all : ∀ party ∈ parties, acknowledged party = counter.counted) :
    Settled parties acknowledged entered counter := by
  rcases rounds with settled | opened
  · exact settled
  · obtain ⟨party, member, unmarked⟩ := opened.someUnmarked
    have owed := opened.acknowledged_eq party member
    have counted := opened.settled_eq
    rw [all party member, if_neg (by simp [unmarked])] at owed
    omega

theorem Settled.enter {entered' : Party → Nat} (party : Party)
    (settled : Settled parties acknowledged entered counter)
    (others : ∀ other ∈ parties, other ≠ party → entered' other = entered other)
    (enters : entered' party = counter.counted + 1) :
    Settled parties acknowledged entered' counter where
  settled_eq := settled.settled_eq
  acknowledged_eq := settled.acknowledged_eq
  unmarked := settled.unmarked
  entered_cases := by
    intro other member
    by_cases same : other = party
    · rw [same]
      exact .inr enters
    · rw [others other member same]
      exact settled.entered_cases other member

theorem inRounds_of_marks {round settled : Nat} {marked : Party → Bool} (next : settled + 1 = round)
    (acknowledged_eq : ∀ party ∈ parties,
      acknowledged party = if marked party then round else settled)
    (entered_eq : ∀ party ∈ parties, entered party = round)
    (someMarked : ∃ party ∈ parties, marked party = true) :
    InRounds parties acknowledged entered
      (if parties.all marked then
        { counted := round, settled := settled + 1, marked := fun _ => false }
      else { counted := round, settled := settled, marked := marked }) := by
  by_cases complete : parties.all marked = true
  · rw [if_pos complete]
    refine .inl ⟨next, ?_, fun _ _ => rfl, fun party member =>
      .inl (entered_eq party member)⟩
    intro party member
    rw [acknowledged_eq party member, if_pos (List.all_eq_true.mp complete party member)]
  · rw [if_neg complete]
    refine .inr ⟨next, acknowledged_eq, entered_eq, someMarked, ?_⟩
    simpa using complete

end

/-- Acknowledgement rule: a party that acknowledges a round which every party has
entered keeps the coordinator in agreement. -/
theorem InRounds.acknowledge (rounds : InRounds parties acknowledged entered counter)
    {party : Party} (member : party ∈ parties) {acknowledged' : Party → Nat}
    (due : entered party = acknowledged party + 1)
    (together : ∀ other ∈ parties, acknowledged party + 1 ≤ entered other)
    (others : ∀ other ∈ parties, other ≠ party → acknowledged' other = acknowledged other)
    (acknowledges : acknowledged' party = acknowledged party + 1) :
    InRounds parties acknowledged' entered (counter.acknowledge parties party) := by
  have someMarked : ∃ other ∈ parties, Function.update counter.marked party true other = true :=
    ⟨party, member, by simp⟩
  rcases rounds with settled | opened
  · -- the first acknowledgement of a round
    have here := settled.acknowledged_eq party member
    have opens : (if parties.any counter.marked then counter.counted
        else counter.counted + 1) = counter.counted + 1 := by
      rw [if_neg]
      simpa using settled.unmarked
    simp only [RoundCounter.acknowledge, opens]
    apply inRounds_of_marks
    · rw [settled.settled_eq]
    · intro other inGroup
      by_cases same : other = party
      · subst same
        simp [acknowledges, here]
      · rw [others other inGroup same, settled.acknowledged_eq other inGroup,
          Function.update_of_ne same, settled.unmarked other inGroup, if_neg (by simp),
          settled.settled_eq]
    · intro other inGroup
      have ahead := together other inGroup
      rw [here] at ahead
      rcases settled.entered_cases other inGroup with behind | inside
      · omega
      · exact inside
    · exact someMarked
  · -- a later acknowledgement of the round that is open
    have entered_eq := opened.entered_eq party member
    have counted := opened.settled_eq
    have here : acknowledged party = counter.settled := by omega
    have stays : (if parties.any counter.marked then counter.counted
        else counter.counted + 1) = counter.counted := by
      rw [if_pos]
      simpa using opened.someMarked
    simp only [RoundCounter.acknowledge, stays]
    apply inRounds_of_marks counted
    · intro other inGroup
      by_cases same : other = party
      · subst same
        rw [acknowledges, Function.update_self, if_pos rfl, here, counted]
      · rw [others other inGroup same, opened.acknowledged_eq other inGroup,
          Function.update_of_ne same]
    · exact opened.entered_eq
    · exact someMarked

end RoundCounter

end CosmosRl.Foundation
