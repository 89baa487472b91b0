import ScreenAgent.Proofs.Screen.Traversal

namespace ScreenAgent

namespace Perception

def elementsOf (ns : List (Nat × Attributes)) : List Element :=
  (ns.filter fun n => isInteractive n.2).map fun n => elementOf n.2

theorem elementsOf_append (ns more : List (Nat × Attributes)) :
    elementsOf (ns ++ more) = elementsOf ns ++ elementsOf more := by
  simp [elementsOf]

theorem elementsOf_cons (depth : Nat) (a : Attributes) (ns : List (Nat × Attributes)) :
    elementsOf ((depth, a) :: ns) =
      if isInteractive a then elementOf a :: elementsOf ns else elementsOf ns := by
  cases h : isInteractive a <;> simp [elementsOf, h]

end Perception

namespace Node

open Perception

/-- The interactive nodes of a tree in pre-order, as elements. -/
def elements (n : Node) : List Element := elementsOf (n.preorder 0)

mutual

/-- At whatever depth a tree stands, what is to be seen of it is seen in pre-order. -/
theorem elements_asSlots (n : Node) (d : Nat) : n.asSlots.elements = elementsOf (n.preorder d) := by
  cases n with
  | mk own children =>
    rw [asSlots, SlotTree.elements, elementsIn_asSlotsAll children (d + 1), preorder,
      elementsOf_cons, seen_append]

theorem elementsIn_asSlotsAll (ns : List Node) (d : Nat) :
    SlotTree.elementsIn (asSlotsAll ns) = elementsOf (preorderAll d ns) := by
  cases ns with
  | nil => rfl
  | cons n r =>
    rw [asSlotsAll, SlotTree.elementsIn, preorderAll, elementsOf_append, elements_asSlots n d,
      elementsIn_asSlotsAll r d]

end

mutual

theorem length_preorder (n : Node) (d : Nat) : (n.preorder d).length = n.count := by
  cases n with
  | mk own children =>
    rw [preorder, count, List.length_cons, length_preorderAll children (d + 1), Nat.add_comm]

theorem length_preorderAll (ns : List Node) (d : Nat) :
    (preorderAll d ns).length = countAll ns := by
  cases ns with
  | nil => rfl
  | cons n r =>
    rw [preorderAll, countAll, List.length_append, length_preorder n d, length_preorderAll r d]

end

theorem preorderAll_append (d : Nat) (ns more : List Node) :
    preorderAll d (ns ++ more) = preorderAll d ns ++ preorderAll d more := by
  induction ns with
  | nil => rfl
  | cons n r ih => simp only [List.cons_append, preorderAll, ih, List.append_assoc]

end Node

theorem Perception.analyze_of_count_le (p : Perception) (n : Node) (h : n.count ≤ p.maxNodes) :
    p.analyze (some n) = ⟨n.elements⟩ := by
  have hc : n.asSlots.count ≤ p.maxNodes := by rwa [n.count_asSlots]
  rw [p.analyze_of_pictures n.pictures_asSlots, if_pos hc, n.elements_asSlots 0, Node.elements]

theorem Perception.analyze_of_lt_count (p : Perception) (n : Node) (h : p.maxNodes < n.count) :
    p.analyze (some n) = .empty := by
  have hc : ¬ n.asSlots.count ≤ p.maxNodes := by
    rw [n.count_asSlots]
    omega
  rw [p.analyze_of_pictures n.pictures_asSlots, if_neg hc]

end ScreenAgent
