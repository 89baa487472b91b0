import Mathlib.Data.List.Basic
import Mathlib.Data.List.Induction
import ScreenAgent.Hierarchy.Basic
import ScreenAgent.Proofs.Hierarchy.Token
import ScreenAgent.Proofs.Screen.Preorder
import ScreenAgent.Proofs.Text.Numeral

namespace ScreenAgent.Hierarchy

def Tag.content? : Tag → Option (List Char)
  | opening content => some content
  | selfClosing content => some content
  | closing => none

def Tag.isOpening : Tag → Bool
  | opening _ => true
  | _ => false

def opened (ts : List Tag) : Nat := ts.countP Tag.isOpening

def closed (ts : List Tag) : Nat := ts.countP (· == .closing)

/-- The nodes that tags tell of, in order. Each is one deeper than the number of tags before its own
that are not yet closed. -/
def places (ts : List Tag) : List (Nat × Attributes) :=
  ts.zipIdx.filterMap fun (t, i) => t.content?.map fun content =>
    (1 + (opened (ts.take i) - closed (ts.take i)), nodeAttributes content)

theorem opened_concat (ts : List Tag) (t : Tag) :
    opened (ts ++ [t]) = opened ts + if t.isOpening then 1 else 0 := by
  simp [opened, List.countP_cons]

theorem closed_concat (ts : List Tag) (t : Tag) :
    closed (ts ++ [t]) = closed ts + if t = .closing then 1 else 0 := by
  simp [closed, List.countP_cons]

theorem places_concat (ts : List Tag) (t : Tag) :
    places (ts ++ [t]) = places ts ++ (t.content?.map fun content =>
      (1 + (opened ts - closed ts), nodeAttributes content)).toList := by
  have hs : ∀ p ∈ ts.zipIdx, (ts ++ [t]).take p.2 = ts.take p.2 := by
    intro p hp
    have hl := List.snd_lt_of_mem_zipIdx hp
    exact List.take_append_of_le_length (by omega)
  have hn : (ts ++ [t]).take ts.length = ts := List.take_left
  rw [places, List.zipIdx_append, List.filterMap_append]
  congr 1
  · refine List.filterMap_congr fun p hp => ?_
    simp only [hs p hp]
  · cases h : t.content? <;> simp [h, hn]

/-- The nodes of open nodes and of what is in them already, as they will stand in the tree. -/
def outline : List Node → List (Nat × Attributes)
  | [] => []
  | n :: outer => outline outer ++ n.preorder outer.length

theorem attach_eq (n parent : Node) (outer : List Node) :
    ∃ stack, attach n (parent :: outer) = .ok stack ∧ stack.length = (parent :: outer).length ∧
      outline stack = outline (n :: parent :: outer) := by
  refine ⟨_, rfl, rfl, ?_⟩
  cases parent with
  | mk own children =>
    simp only [outline, Node.withChildren, Node.own, Node.children, Node.preorder,
      Node.preorderAll_append, Node.preorderAll, List.append_nil, List.length_cons,
      List.append_assoc, List.cons_append]

theorem outline_leaf (own : Attributes) (stack : List Node) :
    outline (.mk own [] :: stack) = outline stack ++ [(stack.length, own)] := rfl

/-- Open nodes as some tags leave them. -/
structure Stacked (past : List Tag) (stack : List Node) : Prop where
  length_eq : stack.length + closed past = opened past + 1
  outline_eq : outline stack = (0, default) :: places past

namespace Stacked

theorem start : Stacked [] [default] := ⟨rfl, rfl⟩

variable {past : List Tag} {stack : List Node}

/-- One tag more, unless it closes a node that has not been opened. -/
theorem step (h : Stacked past stack) (hb : closed past ≤ opened past) (t : Tag) :
    (closed (past ++ [t]) ≤ opened (past ++ [t]) ∧
      ∃ stack', Hierarchy.step stack t = .ok stack' ∧ Stacked (past ++ [t]) stack') ∨
    (opened (past ++ [t]) < closed (past ++ [t]) ∧
      Hierarchy.step stack t = .error .unexpectedClose) := by
  have hl := h.length_eq
  have hd : 1 + (opened past - closed past) = stack.length := by omega
  have ho := opened_concat past t
  have hc := closed_concat past t
  have hp := places_concat past t
  rw [hd] at hp
  cases t with
  | opening content =>
    simp only [Tag.isOpening, reduceCtorEq, if_true, if_false, Nat.add_zero] at ho hc
    refine .inl ⟨by omega, _, rfl, ?_, ?_⟩
    · rw [List.length_cons]
      omega
    · rw [outline_leaf, h.outline_eq, hp]
      rfl
  | selfClosing content =>
    simp only [Tag.isOpening, reduceCtorEq, Bool.false_eq_true, if_false, Nat.add_zero] at ho hc
    cases stack with
    | nil => rw [List.length_nil] at hd; omega
    | cons parent outer =>
      obtain ⟨stack', hs, hlen, hout⟩ := attach_eq (.mk (nodeAttributes content) []) parent outer
      refine .inl ⟨by omega, stack', hs, by omega, ?_⟩
      rw [hout, outline_leaf, h.outline_eq, hp]
      rfl
  | closing =>
    simp only [Tag.isOpening, Bool.false_eq_true, if_true, if_false, Nat.add_zero] at ho hc
    match stack with
    | [] => rw [List.length_nil] at hd; omega
    | [root] =>
      rw [List.length_singleton] at hl
      exact .inr ⟨by omega, rfl⟩
    | n :: parent :: outer =>
      obtain ⟨stack', hs, hlen, hout⟩ := attach_eq n parent outer
      rw [List.length_cons] at hl
      refine .inl ⟨?_, stack', hs, by omega, ?_⟩
      · rw [List.length_cons] at hl
        omega
      · rw [hout, h.outline_eq, hp]
        simp [Tag.content?]

/-- All the tags of a text, unless a prefix of them closes a node that has not been opened. -/
theorem run (h : Stacked past stack) (hb : closed past ≤ opened past) (ts : List Tag) :
    ((∀ more, more <+: ts → closed (past ++ more) ≤ opened (past ++ more)) ∧
      ∃ stack', ts.foldlM Hierarchy.step stack = .ok stack' ∧ Stacked (past ++ ts) stack') ∨
    ((∃ more, more <+: ts ∧ opened (past ++ more) < closed (past ++ more)) ∧
      ts.foldlM Hierarchy.step stack = .error .unexpectedClose) := by
  induction ts generalizing past stack with
  | nil =>
    refine .inl ⟨fun more hm => ?_, stack, rfl, by simpa using h⟩
    obtain rfl := List.prefix_nil.mp hm
    simpa using hb
  | cons t ts ih =>
    rw [List.foldlM_cons]
    have ha : ∀ more, past ++ t :: more = past ++ [t] ++ more := by simp
    obtain ⟨hb', stack', hs, h'⟩ | ⟨hb', hs⟩ := h.step hb t
    · rw [hs]
      obtain ⟨hm, stack'', hr, h''⟩ | ⟨⟨more, hm, hlt⟩, hr⟩ := ih h' hb'
      · refine .inl ⟨fun more hp => ?_, stack'', hr, by rw [ha]; exact h''⟩
        obtain rfl | ⟨more, rfl, hpre⟩ := List.prefix_cons_iff.mp hp
        · simpa using hb
        · rw [ha]
          exact hm more hpre
      · refine .inr ⟨⟨t :: more, List.cons_prefix_cons.mpr ⟨rfl, hm⟩, ?_⟩, hr⟩
        rw [ha]
        exact hlt
    · rw [hs]
      exact .inr ⟨⟨[t], List.cons_prefix_cons.mpr ⟨rfl, List.nil_prefix⟩, hb'⟩, rfl⟩

end Stacked

/-- No prefix closes more nodes than it opens, and all that is opened is closed. -/
structure WellNested (ts : List Tag) : Prop where
  closed_le : ∀ past, past <+: ts → closed past ≤ opened past
  closed_eq : closed ts = opened ts

theorem finish_eq {ts : List Tag} {stack : List Node} (h : Stacked ts stack)
    (hb : closed ts ≤ opened ts) :
    (closed ts = opened ts ∧ ∃ root, finish stack = .ok root ∧
      root.preorder 0 = (0, default) :: places ts) ∨
    (closed ts < opened ts ∧ finish stack = .error (.unclosed (opened ts - closed ts))) := by
  have hl := h.length_eq
  match stack with
  | [] => rw [List.length_nil] at hl; omega
  | [root] =>
    rw [List.length_singleton] at hl
    exact .inl ⟨by omega, root, rfl, h.outline_eq⟩
  | n :: parent :: outer =>
    simp only [List.length_cons] at hl
    have hn : (n :: parent :: outer).length - 1 = opened ts - closed ts := by
      simp only [List.length_cons]
      omega
    exact .inr ⟨by omega, by rw [finish, hn]; simp⟩

theorem read_cases (s : List Char) :
    (WellNested (tags s) ∧ ∃ root, read s = .ok root ∧
      root.preorder 0 = (0, default) :: places (tags s)) ∨
    ((∀ past, past <+: tags s → closed past ≤ opened past) ∧ closed (tags s) < opened (tags s) ∧
      read s = .error (.unclosed (opened (tags s) - closed (tags s)))) ∨
    ((∃ past, past <+: tags s ∧ opened past < closed past) ∧ read s = .error .unexpectedClose) := by
  have hr : read s = (tags s).foldlM step [default] >>= finish := rfl
  obtain ⟨hm, stack, hs, h⟩ | ⟨hm, hs⟩ := Stacked.start.run (Nat.le_refl 0) (tags s)
  · rw [hr, hs]
    obtain ⟨hc, root, hf, hp⟩ | ⟨hc, hf⟩ := finish_eq h (hm _ (List.prefix_refl _))
    · exact .inl ⟨⟨hm, hc⟩, root, hf, hp⟩
    · exact .inr (.inl ⟨hm, hc, hf⟩)
  · rw [hr, hs]
    exact .inr (.inr ⟨hm, rfl⟩)

theorem length_places (ts : List Tag) :
    (places ts).length = ts.countP fun t => t.content?.isSome := by
  induction ts using List.reverseRecOn with
  | nil => rfl
  | append_singleton ts t ih =>
    rw [places_concat, List.length_append, ih, List.countP_append]
    cases h : t.content? <;> simp [h]

theorem DumpError.getLast?_message (e : DumpError) :
    e.message.toList.getLast? = some (match e with
      | unexpectedClose => '>'
      | unclosed _ => 's'
      | withoutParent => 't') := by
  cases e with
  | unexpectedClose => decide
  | unclosed n =>
    rw [message, String.toList_append, List.getLast?_append]
    rfl
  | withoutParent => decide

theorem DumpError.message_injective : Function.Injective DumpError.message := by
  intro e f h
  have hl := e.getLast?_message.symm.trans (h ▸ f.getLast?_message)
  cases e <;> cases f <;> simp only [Option.some.injEq, Char.reduceEq] at hl ⊢
  rename_i m n
  have hs := congrArg String.toList h
  simp only [message, String.toList_append, String.toList_ofList] at hs
  rw [Text.ofNat_injective (List.append_cancel_right hs)]

theorem exists_read_iff (s : List Char) : (∃ root, read s = .ok root) ↔ WellNested (tags s) := by
  obtain ⟨hw, root, hr, -⟩ | ⟨-, hc, hr⟩ | ⟨⟨past, hp, hc⟩, hr⟩ := read_cases s
  · exact ⟨fun _ => hw, fun _ => ⟨root, hr⟩⟩
  · refine ⟨fun ⟨root, h⟩ => ?_, fun h => absurd h.closed_eq (Nat.ne_of_lt hc)⟩
    rw [hr] at h
    cases h
  · refine ⟨fun ⟨root, h⟩ => ?_, fun h => absurd (h.closed_le past hp) (Nat.not_le.mpr hc)⟩
    rw [hr] at h
    cases h

theorem read_unexpectedClose_iff (s : List Char) :
    read s = .error .unexpectedClose ↔ ∃ past, past <+: tags s ∧ opened past < closed past := by
  obtain ⟨hw, root, hr, -⟩ | ⟨hm, -, hr⟩ | ⟨hp, hr⟩ := read_cases s
  · rw [hr]
    exact ⟨nofun, fun ⟨past, hp, hc⟩ => absurd (hw.closed_le past hp) (Nat.not_le.mpr hc)⟩
  · rw [hr]
    exact ⟨nofun, fun ⟨past, hp, hc⟩ => absurd (hm past hp) (Nat.not_le.mpr hc)⟩
  · exact ⟨fun _ => hp, fun _ => hr⟩

theorem read_unclosed_iff (s : List Char) (n : Nat) :
    read s = .error (.unclosed n) ↔
      (∀ past, past <+: tags s → closed past ≤ opened past) ∧ 0 < n ∧
        opened (tags s) = closed (tags s) + n := by
  obtain ⟨hw, root, hr, -⟩ | ⟨hm, hc, hr⟩ | ⟨⟨past, hp, hc⟩, hr⟩ := read_cases s
  · have he := hw.closed_eq
    rw [hr]
    exact ⟨nofun, fun ⟨_, hn, ho⟩ => by omega⟩
  · rw [hr]
    simp only [Except.error.injEq, DumpError.unclosed.injEq]
    exact ⟨fun h => ⟨hm, by omega, by omega⟩, fun ⟨_, _, ho⟩ => by omega⟩
  · rw [hr]
    exact ⟨nofun, fun ⟨h, _⟩ => absurd (h past hp) (Nat.not_le.mpr hc)⟩

theorem read_ne_withoutParent (s : List Char) : read s ≠ .error .withoutParent := by
  obtain ⟨-, root, hr, -⟩ | ⟨-, -, hr⟩ | ⟨-, hr⟩ := read_cases s <;> simp [hr]

theorem preorder_of_read {s : List Char} {root : Node} (h : read s = .ok root) :
    root.preorder 0 = (0, default) :: places (tags s) := by
  obtain ⟨-, root', hr, hp⟩ | ⟨-, -, hr⟩ | ⟨-, hr⟩ := read_cases s
  · rw [hr] at h
    cases h
    exact hp
  all_goals
    rw [hr] at h
    cases h

/-- A text is a dump if its tags are well nested, and otherwise the first fault decides: a node that
is closed without having been opened, or else the number of nodes that are not closed. The tree of a
dump has a node for each tag that opens one, in order, below a root of its own. -/
theorem read_tokens (s : List Char) :
    ∃ ts, (∀ us, Tokens s us ↔ us = ts) ∧
      ((∃ root, read s = .ok root) ↔ WellNested ts) ∧
      ((∃ e, read s = .error e ∧ e.message = "unexpected </node>") ↔
        ∃ past, past <+: ts ∧ opened past < closed past) ∧
      (∀ n, (∃ e, read s = .error e ∧ e.message = toString n ++ " unclosed <node> elements") ↔
        (∀ past, past <+: ts → closed past ≤ opened past) ∧ 0 < n ∧ opened ts = closed ts + n) ∧
      (∀ e, read s = .error e → e.message ≠ "node without parent") ∧
      ∀ root, read s = .ok root →
        root.preorder 0 = (0, default) :: places ts ∧
        root.count = 1 + ts.countP fun t => t.content?.isSome := by
  have hm : ∀ e, (∃ f, read s = .error f ∧ f.message = DumpError.message e) ↔
      read s = .error e := by
    intro e
    constructor
    · rintro ⟨f, hf, h⟩
      rw [hf, DumpError.message_injective h]
    · exact fun h => ⟨e, h, rfl⟩
  refine ⟨tags s, fun us => tokens_iff, exists_read_iff s,
    (hm .unexpectedClose).trans (read_unexpectedClose_iff s),
    fun n => (hm (.unclosed n)).trans (read_unclosed_iff s n), fun e he h => ?_,
    fun root hr => ⟨preorder_of_read hr, ?_⟩⟩
  · exact read_ne_withoutParent s ((hm .withoutParent).mp ⟨e, he, h⟩)
  · rw [← Node.length_preorder root 0, preorder_of_read hr, List.length_cons, length_places,
      Nat.add_comm]

end ScreenAgent.Hierarchy
