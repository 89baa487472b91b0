import Mathlib.Data.List.Forall2
import ScreenAgent.Screen.Perception

namespace ScreenAgent

namespace SlotTree

mutual

def count : SlotTree → Nat
  | mk _ slots => 1 + countSlots slots

def countSlots : List (Option SlotTree) → Nat
  | [] => 0
  | none :: r => countSlots r
  | some t :: r => t.count + countSlots r

end

def seen (a : Attributes) : List Element :=
  if a.clickable || a.editable then
    [{ identifier := a.resourceId
       text := a.text.getD ""
       elementClass := a.className.getD ""
       bounds := a.bounds
       clickable := a.clickable
       editable := a.editable }]
  else []

mutual

/-- What is to be seen of a tree: a node before its children, and the children in order, whether or not
the node itself is seen. -/
def elements : SlotTree → List Element
  | mk own slots => seen own ++ elementsIn slots

def elementsIn : List (Option SlotTree) → List Element
  | [] => []
  | none :: r => elementsIn r
  | some t :: r => t.elements ++ elementsIn r

end

mutual

/-- Whether a tree shows what another tree, of whatever kind, shows of itself. -/
inductive Pictures {ν : Type} [TreeView ν] : SlotTree → ν → Prop
  | node {own : Attributes} {slots : List (Option SlotTree)} {n : ν}
      (ho : TreeView.attributes n = own) (hs : PicturesIn slots (TreeView.slots n)) :
      Pictures (.mk own slots) n

inductive PicturesIn {ν : Type} [TreeView ν] : List (Option SlotTree) → List (Option ν) → Prop
  | nil : PicturesIn [] []
  | empty {ts : List (Option SlotTree)} {ns : List (Option ν)} (h : PicturesIn ts ns) :
      PicturesIn (none :: ts) (none :: ns)
  | child {t : SlotTree} {n : ν} {ts : List (Option SlotTree)} {ns : List (Option ν)}
      (ht : Pictures t n) (h : PicturesIn ts ns) : PicturesIn (some t :: ts) (some n :: ns)

end

mutual

theorem pictures_self : (t : SlotTree) → t.Pictures t
  | mk _ slots => .node rfl (picturesIn_self slots)

theorem picturesIn_self : (ts : List (Option SlotTree)) → PicturesIn ts ts
  | [] => .nil
  | none :: r => .empty (picturesIn_self r)
  | some t :: r => .child (pictures_self t) (picturesIn_self r)

end

theorem countSlots_append (slots more : List (Option SlotTree)) :
    countSlots (slots ++ more) = countSlots slots + countSlots more := by
  induction slots with
  | nil => simp [countSlots]
  | cons slot r ih =>
    cases slot with
    | none => exact ih
    | some t => simp [countSlots, ih, Nat.add_assoc]

theorem countSlots_filterMap (slots : List (Option SlotTree)) :
    countSlots ((slots.filterMap id).map some) = countSlots slots := by
  induction slots with
  | nil => rfl
  | cons slot r ih =>
    cases slot with
    | none => exact ih
    | some t => simpa [countSlots] using ih

theorem elementsIn_eq (slots : List (Option SlotTree)) :
    elementsIn slots = (slots.filterMap id).flatMap elements := by
  induction slots with
  | nil => rfl
  | cons slot r ih =>
    cases slot with
    | none => simpa [elementsIn] using ih
    | some t => simpa [elementsIn] using ih

variable {ν : Type} [TreeView ν]

theorem PicturesIn.filterMap {slots : List (Option SlotTree)} {ns : List (Option ν)}
    (h : PicturesIn slots ns) :
    List.Forall₂ Pictures (slots.filterMap id) (ns.filterMap id) := by
  induction ns generalizing slots with
  | nil =>
    cases h
    exact .nil
  | cons n ns ih =>
    cases h with
    | empty h =>
      have hr := ih h
      exact hr
    | child ht h => exact .cons ht (ih h)

theorem exists_picturesIn {ns : List (Option ν)} {ts : List SlotTree}
    (h : List.Forall₂ Pictures ts (ns.filterMap id)) : ∃ slots, PicturesIn slots ns := by
  induction ns generalizing ts with
  | nil => exact ⟨[], .nil⟩
  | cons slot ns ih =>
    cases slot with
    | none =>
      obtain ⟨slots, hs⟩ := ih h
      exact ⟨none :: slots, .empty hs⟩
    | some n =>
      cases h with
      | cons ht hr =>
        obtain ⟨slots, hs⟩ := ih hr
        exact ⟨some _ :: slots, .child ht hs⟩

theorem count_pos (t : SlotTree) : 0 < t.count := by
  cases t
  rw [count]
  omega

end SlotTree

namespace Perception

open SlotTree

variable {ν : Type} [TreeView ν]

theorem seen_append (a : Attributes) (es : List Element) :
    seen a ++ es = if isInteractive a then elementOf a :: es else es := by
  unfold seen isInteractive
  split
  · rfl
  · rfl

theorem walk_cons (budget : Nat) (n : ν) (r : List ν) :
    walk (budget + 1) (n :: r) =
      (walk budget ((TreeView.slots n).filterMap id ++ r)).map
        (seen (TreeView.attributes n) ++ ·) := by
  rw [walk]
  congr 1
  funext es
  exact (seen_append _ es).symm

/-- The walk sees the pictured trees one after the other, if the budget is enough for all their
nodes. -/
theorem walk_pictures {budget : Nat} {ts : List SlotTree} {ns : List ν}
    (h : List.Forall₂ Pictures ts ns) :
    walk budget ns =
      if countSlots (ts.map some) ≤ budget then some (ts.flatMap elements) else none := by
  induction budget generalizing ts ns with
  | zero =>
    cases h with
    | nil => rfl
    | @cons t n ts ns ht hr =>
      have hp := t.count_pos
      rw [if_neg (by simp only [List.map_cons, countSlots]; omega), walk]
  | succ budget ih =>
    cases h with
    | nil => rfl
    | @cons t n ts ns ht hr =>
      cases ht with
      | @node own slots _ ho hs =>
        -- the children come before the trees that are waiting already
        have hw := ih (List.rel_append hs.filterMap hr)
        have hc : countSlots ((SlotTree.mk own slots :: ts).map some) =
            1 + countSlots ((slots.filterMap id ++ ts).map some) := by
          simp only [List.map_cons, countSlots, count, List.map_append, countSlots_append,
            countSlots_filterMap, Nat.add_assoc]
        have he : (SlotTree.mk own slots :: ts).flatMap elements =
            seen own ++ (slots.filterMap id ++ ts).flatMap elements := by
          simp only [List.flatMap_cons, elements, elementsIn_eq, List.flatMap_append,
            List.append_assoc]
        rw [walk_cons, hw, hc, he, ho]
        by_cases hb : countSlots ((slots.filterMap id ++ ts).map some) ≤ budget
        · rw [if_pos hb, if_pos (by omega)]
          rfl
        · rw [if_neg hb, if_neg (by omega)]
          rfl

theorem exists_pictures {budget : Nat} {ns : List ν} {es : List Element}
    (h : walk budget ns = some es) : ∃ ts, List.Forall₂ SlotTree.Pictures ts ns := by
  induction budget generalizing ns es with
  | zero =>
    cases ns with
    | nil => exact ⟨[], .nil⟩
    | cons n r => simp [walk] at h
  | succ budget ih =>
    cases ns with
    | nil => exact ⟨[], .nil⟩
    | cons n r =>
      rw [walk_cons] at h
      obtain ⟨rest, hr, -⟩ := Option.map_eq_some_iff.mp h
      obtain ⟨ts, ht⟩ := ih hr
      obtain ⟨slots, hs⟩ := exists_picturesIn (List.forall₂_take_append _ _ _ ht)
      exact ⟨_, .cons (.node rfl hs) (List.forall₂_drop_append _ _ _ ht)⟩

theorem walk_picture {budget : Nat} {t : SlotTree} {n : ν} (h : t.Pictures n) :
    walk budget [n] = if t.count ≤ budget then some t.elements else none := by
  have hw : walk budget [n] = _ := walk_pictures (.cons h .nil)
  simpa [countSlots] using hw

theorem analyze_of_pictures (p : Perception) {t : SlotTree} {n : ν} (h : t.Pictures n) :
    p.analyze (some n) = if t.count ≤ p.maxNodes then ⟨t.elements⟩ else .empty := by
  have hw : walk p.maxNodes [n] = _ := walk_picture h
  by_cases hb : t.count ≤ p.maxNodes
  · rw [if_pos hb] at hw ⊢
    simp only [analyze, hw]
  · rw [if_neg hb] at hw ⊢
    simp only [analyze, hw]

theorem analyze_of_endless (p : Perception) {n : ν} (h : ∀ t : SlotTree, ¬ t.Pictures n) :
    p.analyze (some n) = .empty := by
  unfold analyze
  dsimp only
  split
  · rename_i es hw
    obtain ⟨ts, ht⟩ := exists_pictures hw
    cases ht with
    | cons ht _ => exact absurd ht (h _)
  · rfl

end Perception

namespace Node

mutual

def asSlots : Node → SlotTree
  | mk own children => .mk own (asSlotsAll children)

def asSlotsAll : List Node → List (Option SlotTree)
  | [] => []
  | n :: r => some n.asSlots :: asSlotsAll r

end

mutual

theorem pictures_asSlots : (n : Node) → n.asSlots.Pictures n
  | mk _ children => .node rfl (picturesIn_asSlotsAll children)

theorem picturesIn_asSlotsAll : (ns : List Node) → SlotTree.PicturesIn (asSlotsAll ns) (ns.map some)
  | [] => .nil
  | n :: r => .child (pictures_asSlots n) (picturesIn_asSlotsAll r)

end

mutual

theorem count_asSlots (n : Node) : n.asSlots.count = n.count := by
  cases n with
  | mk own children => rw [asSlots, SlotTree.count, count, countSlots_asSlotsAll children]

theorem countSlots_asSlotsAll (ns : List Node) :
    SlotTree.countSlots (asSlotsAll ns) = countAll ns := by
  cases ns with
  | nil => rfl
  | cons n r =>
    rw [asSlotsAll, SlotTree.countSlots, countAll, count_asSlots n, countSlots_asSlotsAll r]

end

/-- The walk comes to no end just if there are more nodes than it may look at. -/
theorem walk_eq_none_iff (n : Node) (budget : Nat) :
    Perception.walk budget [n] = none ↔ budget < n.count := by
  rw [Perception.walk_picture n.pictures_asSlots, count_asSlots, ite_eq_right_iff, ← Nat.not_le]
  simp

end Node

/-- Of a tree of any kind is seen what its picture tells, if it has not too many nodes, and nothing
otherwise; nothing is seen of a tree without an end either. A tree with slots is its own picture, and a
tree of nodes has one with as many nodes. -/
theorem Perception.analyze_exact (p : Perception) :
    (∀ (ν : Type) [TreeView ν] (n : ν),
      (∀ t : SlotTree, t.Pictures n →
        p.analyze (some n) = if t.count ≤ p.maxNodes then ⟨t.elements⟩ else .empty) ∧
      ((∀ t : SlotTree, ¬ t.Pictures n) → p.analyze (some n) = .empty)) ∧
    (∀ t : SlotTree, t.Pictures t) ∧
    ∀ n : Node, (∃ t : SlotTree, t.Pictures n ∧ t.count = n.count) ∧
      (walk p.maxNodes [n] = none ↔ p.maxNodes < n.count) := by
  refine ⟨fun ν _ n => ⟨fun t ht => ?_, fun h => ?_⟩, SlotTree.pictures_self, fun n => ⟨?_, ?_⟩⟩
  · exact p.analyze_of_pictures ht
  · exact p.analyze_of_endless h
  · exact ⟨n.asSlots, n.pictures_asSlots, n.count_asSlots⟩
  · exact n.walk_eq_none_iff p.maxNodes

-- The slot between the two children is empty, so there are three nodes and not four.
example :
    let leaf (text : String) : SlotTree := .mk { text := some text, editable := true } []
    let t : SlotTree := .mk { clickable := true } [some (leaf "a"), none, some (leaf "b")]
    (Perception.analyze ⟨3⟩ (some t)).elements.map Element.text = ["", "a", "b"] ∧
      Perception.analyze ⟨2⟩ (some t) = .empty := by
  decide

end ScreenAgent
