import ScreenAgent.Proofs.Agent.Decision

namespace ScreenAgent

namespace RulePolicy

inductive Operation
  | update (e : Experience) (reward : Float)
  | refine (batch : List Experience)
  | reset
  | setGoal (goal : Goal)

def apply (p : RulePolicy) : Operation → RulePolicy
  | .update e reward => p.update e reward
  | .refine batch => p.refine batch
  | .reset => p.reset
  | .setGoal goal => p.setGoal goal

def applyAll (p : RulePolicy) (ops : List Operation) : RulePolicy := ops.foldl apply p

namespace Operation

def goal (g : Goal) : Operation → Goal
  | setGoal goal => goal
  | _ => g

def resets (n : Nat) : Operation → Nat
  | reset => n + 1
  | setGoal _ => 0
  | _ => n

end Operation

def goalAfter (goal : Goal) (ops : List Operation) : Goal := ops.foldl Operation.goal goal

def resetsAfter (ops : List Operation) : Nat := ops.foldl Operation.resets 0

/-- An experience counts if its action is what the policy chooses on its screen. -/
def Counts (p : RulePolicy) (e : Experience) : Prop :=
  p.isComplete = false ∧ e.action ≠ .noOp ∧ p.decide e.snapshot = e.action

instance (p : RulePolicy) (e : Experience) : Decidable (p.Counts e) := by
  unfold Counts
  infer_instance

theorem update_eq (p : RulePolicy) (e : Experience) (reward : Float) :
    p.update e reward = if p.Counts e then p.credit e.outcome.succeeded reward else p := by
  by_cases h : p.Counts e
  · have hd := p.update_decide e reward h.2.2.symm
    rw [if_neg h.2.1] at hd
    rw [if_pos h, hd]
  · rw [if_neg h, update, if_pos]
    simp only [Counts, not_and] at h
    simp only [Action.isNoOp, Bool.or_eq_true, beq_iff_eq, bne_iff_ne]
    by_cases hc : p.isComplete = true
    · exact .inl (.inl hc)
    · by_cases hn : e.action = .noOp
      · exact .inl (.inr hn)
      · exact .inr (h (Bool.eq_false_iff.mpr hc) hn)

@[simp] theorem goal_credit (p : RulePolicy) (succeeded : Bool) (reward : Float) :
    (p.credit succeeded reward).goal = p.goal := rfl

theorem goal_update (p : RulePolicy) (e : Experience) (reward : Float) :
    (p.update e reward).goal = p.goal := by
  rw [update_eq]
  split <;> rfl

/-- A try changes what is known of the current step and of no other. -/
theorem getElem?_credit (p : RulePolicy) (succeeded : Bool) (reward : Float) (i : Nat) :
    (p.credit succeeded reward).stats[i]? =
      if i = p.cursor then p.stats[i]?.map fun s => s.count succeeded reward else p.stats[i]? := by
  simp only [credit, List.getElem?_modify, eq_comm (a := p.cursor)]
  split <;> simp

theorem cursor_update (p : RulePolicy) (e : Experience) (reward : Float) :
    (p.update e reward).cursor =
      if p.Counts e ∧ e.outcome.succeeded = true then p.cursor + 1 else p.cursor := by
  rw [update_eq]
  by_cases h : p.Counts e <;> simp [h, credit]

theorem getElem?_update (p : RulePolicy) (e : Experience) (reward : Float) {i : Nat}
    (hi : i ≠ p.cursor) : (p.update e reward).stats[i]? = p.stats[i]? := by
  rw [update_eq]
  split
  · rw [getElem?_credit, if_neg hi]
  · rfl

end RulePolicy

/-- A step that has succeeded no more often than it was tried, and not more than once a pass. -/
structure StepStats.Within (s : StepStats) (passes : Nat) : Prop where
  le_attempts : s.successes ≤ s.attempts
  le_passes : s.successes ≤ passes

/-- A step after another: it was tried only after the other had succeeded, and succeeded no more
often than the other, and less often as long as it is the current one. -/
structure StepStats.Follows (t s : StepStats) (isCurrent : Prop) : Prop where
  le : t.successes ≤ s.successes
  lt : isCurrent → t.successes < s.successes
  tried : 0 < t.attempts → 0 < s.successes

namespace StepStats

variable {s t : StepStats} {passes : Nat} (succeeded : Bool) (reward : Float)

theorem le_successes_count (s : StepStats) : s.successes ≤ (s.count succeeded reward).successes := by
  cases succeeded <;> simp [count]

theorem Within.count (h : s.Within passes) :
    (s.count succeeded reward).Within (if succeeded then passes + 1 else passes) := by
  have ha := h.le_attempts
  have hp := h.le_passes
  cases succeeded <;> constructor <;> simp only [StepStats.count] <;> grind

/-- A try of the step before, after which this one may be the current one. -/
theorem Follows.count_left (h : t.Follows s False) :
    t.Follows (s.count succeeded reward) (succeeded = true) where
  le := Nat.le_trans h.le (s.le_successes_count succeeded reward)
  lt := by
    rintro rfl
    exact Nat.lt_succ_of_le h.le
  tried := fun ht => Nat.lt_of_lt_of_le (h.tried ht) (s.le_successes_count succeeded reward)

/-- A try of the current step, which may draw level with the step before. -/
theorem Follows.count_right (h : t.Follows s True) :
    (t.count succeeded reward).Follows s (succeeded = false) where
  le := by
    have hl := h.lt trivial
    cases succeeded
    · exact h.le
    · exact hl
  lt := by
    rintro rfl
    exact h.lt trivial
  tried := fun _ => Nat.zero_lt_of_lt (h.lt trivial)

theorem Follows.mono {isCurrent : Prop} (h : t.Follows s isCurrent) {other : Prop}
    (ho : other → isCurrent) : t.Follows s other :=
  ⟨h.le, fun hc => h.lt (ho hc), h.tried⟩

end StepStats

namespace RulePolicy

/-- What is so of a policy with a number of resets behind it. Each reset lets one more pass through
the steps begin, and the steps before the current one have had their turn in the last pass. -/
structure Ordered (resets : Nat) (p : RulePolicy) : Prop where
  length_eq : p.stats.length = p.goal.size
  cursor_le : p.cursor ≤ p.goal.size
  within : ∀ (i : Nat) (s : StepStats), p.stats[i]? = some s →
    s.Within (if i < p.cursor then resets + 1 else resets)
  follows : ∀ (i : Nat) (s t : StepStats), p.stats[i]? = some s → p.stats[i + 1]? = some t →
    t.Follows s (i + 1 = p.cursor)

theorem ordered_ofGoal (goal : Goal) : (ofGoal goal).Ordered 0 := by
  have hs : ∀ (i : Nat) (s : StepStats), (ofGoal goal).stats[i]? = some s → s = {} := by
    intro i s hs
    obtain ⟨-, rfl⟩ : i < goal.size ∧ {} = s := by
      simpa [ofGoal, List.getElem?_replicate] using hs
    rfl
  refine ⟨List.length_replicate, Nat.zero_le _, fun i s h => ?_, fun i s t h ht => ?_⟩
  · rw [hs i s h]
    exact ⟨Nat.le_refl 0, Nat.zero_le _⟩
  · rw [hs i s h, hs (i + 1) t ht]
    exact ⟨Nat.le_refl 0, fun hc => absurd hc (Nat.succ_ne_zero i), id⟩

namespace Ordered

variable {resets : Nat} {p : RulePolicy}

theorem credit (h : p.Ordered resets) (hc : p.cursor < p.goal.size) (succeeded : Bool)
    (reward : Float) : (p.credit succeeded reward).Ordered resets := by
  have hcur : (p.credit succeeded reward).cursor = if succeeded then p.cursor + 1 else p.cursor :=
    rfl
  refine ⟨by simpa [RulePolicy.credit] using h.length_eq, ?_, fun i s hs => ?_,
    fun i s t hs ht => ?_⟩
  · rw [hcur, goal_credit]
    split <;> omega
  · rw [getElem?_credit] at hs
    rw [hcur]
    -- only the current step may gain a success, and with it the policy goes past the step
    by_cases hi : i = p.cursor
    · rw [if_pos hi] at hs
      obtain ⟨s', hs', rfl⟩ := Option.map_eq_some_iff.mp hs
      have hw := (h.within i s' hs').count succeeded reward
      have hlt : ¬ i < p.cursor := by omega
      rw [if_neg hlt] at hw
      cases succeeded <;> simpa [hi] using hw
    · rw [if_neg hi] at hs
      have hn : i < (if succeeded then p.cursor + 1 else p.cursor) ↔ i < p.cursor := by
        split <;> omega
      simpa only [hn] using h.within i s hs
  · rw [getElem?_credit] at hs ht
    rw [hcur]
    -- of two neighbours the first may be the current step, or the second, or neither
    by_cases hi : i = p.cursor
    · -- a success puts the first one ahead just when the second becomes the current step
      rw [if_pos hi] at hs
      rw [if_neg (by omega)] at ht
      obtain ⟨s', hs', rfl⟩ := Option.map_eq_some_iff.mp hs
      have hf : t.Follows s' False := (h.follows i s' t hs' ht).mono False.elim
      refine (hf.count_left succeeded reward).mono ?_
      cases succeeded <;> simp [hi]
    · rw [if_neg hi] at hs
      by_cases hi' : i + 1 = p.cursor
      · -- the second one was behind, so that with a success it is level at most
        rw [if_pos hi'] at ht
        obtain ⟨t', ht', rfl⟩ := Option.map_eq_some_iff.mp ht
        have hf : t'.Follows s True := (h.follows i s t' hs ht').mono fun _ => hi'
        refine (hf.count_right succeeded reward).mono ?_
        cases succeeded <;> simp [hi']
      · rw [if_neg hi'] at ht
        refine (h.follows i s t hs ht).mono ?_
        split <;> omega

theorem update (h : p.Ordered resets) (e : Experience) (reward : Float) :
    (p.update e reward).Ordered resets := by
  rw [update_eq]
  split
  · rename_i hc
    exact h.credit (Nat.lt_of_not_le (of_decide_eq_false hc.1)) _ reward
  · exact h

theorem reset (h : p.Ordered resets) : p.reset.Ordered (resets + 1) where
  length_eq := h.length_eq
  cursor_le := Nat.zero_le _
  within := by
    intro i s hs
    have hw := h.within i s hs
    refine ⟨hw.le_attempts, Nat.le_trans hw.le_passes ?_⟩
    change _ ≤ if i < 0 then resets + 1 + 1 else resets + 1
    rw [if_neg (Nat.not_lt_zero i)]
    split <;> omega
  follows := by
    intro i s t hs ht
    -- back at the first step, no step is current that has one before it
    exact (h.follows i s t hs ht).mono fun hc => absurd hc (Nat.succ_ne_zero i)

theorem apply (h : p.Ordered resets) (op : Operation) :
    (p.apply op).Ordered (op.resets resets) := by
  cases op with
  | update e reward => exact h.update e reward
  | refine batch => exact ⟨h.length_eq, h.cursor_le, h.within, h.follows⟩
  | reset => exact h.reset
  | setGoal goal => exact ordered_ofGoal goal

theorem applyAll (h : p.Ordered resets) (ops : List Operation) :
    (p.applyAll ops).Ordered (ops.foldl Operation.resets resets) := by
  induction ops generalizing p resets with
  | nil => exact h
  | cons op ops ih => exact ih (h.apply op)

theorem descending (h : p.Ordered resets) {i j : Nat} (hij : i ≤ j) {s t : StepStats}
    (hs : p.stats[i]? = some s) (ht : p.stats[j]? = some t) : t.successes ≤ s.successes := by
  -- from neighbour to neighbour
  induction hij generalizing t with
  | refl =>
    obtain rfl := Option.some.inj (hs.symm.trans ht)
    exact Nat.le_refl _
  | @step j _ ih =>
    obtain ⟨hl, -⟩ := List.getElem?_eq_some_iff.mp ht
    have hj : p.stats[j]? = some p.stats[j] := List.getElem?_eq_getElem (Nat.lt_of_succ_lt hl)
    exact Nat.le_trans (h.follows j _ t hj ht).le (ih hj)

end Ordered

theorem goal_apply (p : RulePolicy) (op : Operation) : (p.apply op).goal = op.goal p.goal := by
  cases op with
  | update e reward => exact p.goal_update e reward
  | refine batch => rfl
  | reset => rfl
  | setGoal goal => rfl

theorem goal_applyAll (p : RulePolicy) (ops : List Operation) :
    (p.applyAll ops).goal = goalAfter p.goal ops := by
  induction ops generalizing p with
  | nil => rfl
  | cons op ops ih =>
    have hs := ih (p.apply op)
    rw [goal_apply] at hs
    exact hs

/-- Whatever has been done to a policy since it was made: it has the goal that was set last, there
is one entry for each step, and a current step as long as it is not complete. A step has succeeded no
more often than it was tried, no more often than any step before it, and at most once for each pass;
it was tried only after the step before had succeeded. An experience brings the policy to the next
step exactly if it is a success with what the policy chooses on its screen, and is noted for the
current step only. -/
theorem steps_in_order (goal : Goal) (ops : List Operation) :
    let p := (ofGoal goal).applyAll ops
    p.goal = goalAfter goal ops ∧ p.stats.length = p.goal.size ∧ p.cursor ≤ p.goal.size ∧
    (p.isComplete = false → p.cursor < p.stats.length ∧ p.cursor < p.goal.steps.length) ∧
    (∀ s ∈ p.stats, s.successes ≤ s.attempts ∧ s.successes ≤ 1 + resetsAfter ops) ∧
    (∀ (i j : Nat) (s t : StepStats), i ≤ j → p.stats[i]? = some s → p.stats[j]? = some t →
      t.successes ≤ s.successes) ∧
    (∀ (i : Nat) (s t : StepStats), p.stats[i]? = some s → p.stats[i + 1]? = some t → 0 < t.attempts →
      0 < s.successes) ∧
    ∀ e reward,
      (p.update e reward).cursor =
        (if (p.isComplete = false ∧ e.action ≠ .noOp ∧ p.decide e.snapshot = e.action) ∧
          e.outcome.succeeded = true then p.cursor + 1 else p.cursor) ∧
      (p.update e reward).goal = p.goal ∧
      ∀ i, i ≠ p.cursor → (p.update e reward).stats[i]? = p.stats[i]? := by
  intro p
  have h : p.Ordered (resetsAfter ops) := (ordered_ofGoal goal).applyAll ops
  refine ⟨goal_applyAll _ ops, h.length_eq, h.cursor_le, fun hc => ?_, fun s hs => ?_,
    fun i j s t hij hs ht => h.descending hij hs ht, fun i s t hs ht => (h.follows i s t hs ht).tried,
    fun e reward => ⟨?_, p.goal_update e reward, fun i hi => p.getElem?_update e reward hi⟩⟩
  · have hl : p.cursor < p.goal.size := Nat.lt_of_not_le (of_decide_eq_false hc)
    exact ⟨h.length_eq ▸ hl, hl⟩
  · obtain ⟨i, hi⟩ := List.mem_iff_getElem?.mp hs
    have hw := h.within i s hi
    refine ⟨hw.le_attempts, Nat.le_trans hw.le_passes ?_⟩
    split <;> omega
  · rw [cursor_update]
    rfl

end RulePolicy

end ScreenAgent
