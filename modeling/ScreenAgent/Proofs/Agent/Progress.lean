import ScreenAgent.Archive.Sink
import ScreenAgent.Proofs.Agent.Run

namespace ScreenAgent

namespace Turn

variable {ρ σ : Type}

def isAttemptAt (i : Nat) (turn : Turn RulePolicy ρ σ) : Bool :=
  !turn.report.action.isNoOp && turn.before.policy.cursor == i

def isAdvance (turn : Turn RulePolicy ρ σ) : Bool :=
  !turn.report.action.isNoOp && turn.report.outcome.succeeded

end Turn

/-- What is known of the step at a place: how often it was tried, and whether it is behind. -/
structure StepStats.Tells {ρ σ : Type} (s : StepStats) (past : List (Turn RulePolicy ρ σ))
    (cursor i : Nat) : Prop where
  attempts_eq : s.attempts = past.countP (Turn.isAttemptAt i)
  successes_eq : s.successes = if i < cursor then 1 else 0
  untouched : cursor < i → s = {}

/-- What is so of a policy that started with a goal, after some turns. -/
structure Progress {ρ σ : Type} (goal : Goal) (past : List (Turn RulePolicy ρ σ)) (p : RulePolicy) :
    Prop where
  goal_eq : p.goal = goal
  length_eq : p.stats.length = goal.size
  cursor_le : p.cursor ≤ goal.size
  cursor_eq : p.cursor = past.countP Turn.isAdvance
  tells : ∀ (i : Nat) (s : StepStats), p.stats[i]? = some s → s.Tells past p.cursor i

namespace StepStats.Tells

variable {ρ σ : Type} {s : StepStats} {past : List (Turn RulePolicy ρ σ)} {cursor i : Nat}

theorem pass (h : s.Tells past cursor i) (turn : Turn RulePolicy ρ σ)
    (ht : turn.isAttemptAt i = false) : s.Tells (past ++ [turn]) cursor i where
  attempts_eq := by simpa [List.countP_append, ht] using h.attempts_eq
  successes_eq := h.successes_eq
  untouched := h.untouched

theorem move (h : s.Tells past cursor i) (hi : i ≠ cursor) : s.Tells past (cursor + 1) i where
  attempts_eq := h.attempts_eq
  successes_eq := by
    have hc : i < cursor + 1 ↔ i < cursor := by omega
    rw [h.successes_eq]
    simp only [hc]
  untouched := fun hc => h.untouched (by omega)

/-- An attempt at the current step counts for it, and puts it behind if it succeeds. -/
theorem count (h : s.Tells past cursor cursor) (turn : Turn RulePolicy ρ σ)
    (ht : turn.isAttemptAt cursor = true) (succeeded : Bool) (reward : Float) :
    (s.count succeeded reward).Tells (past ++ [turn]) (if succeeded then cursor + 1 else cursor)
      cursor where
  attempts_eq := by simp [StepStats.count, List.countP_append, ht, h.attempts_eq]
  successes_eq := by
    have hs : s.successes = 0 := by simpa using h.successes_eq
    cases succeeded <;> simp [StepStats.count, hs]
  untouched := by
    intro hc
    split at hc <;> omega

end StepStats.Tells

namespace Progress

variable {ρ σ : Type} {goal : Goal} {past : List (Turn RulePolicy ρ σ)} {p q : RulePolicy}

theorem start (goal : Goal) : Progress goal ([] : List (Turn RulePolicy ρ σ)) (.ofGoal goal) where
  goal_eq := rfl
  length_eq := List.length_replicate
  cursor_le := Nat.zero_le _
  cursor_eq := rfl
  tells := by
    intro i s hs
    obtain ⟨-, rfl⟩ : i < goal.size ∧ {} = s := by
      simpa [RulePolicy.ofGoal, List.getElem?_replicate] using hs
    exact ⟨rfl, rfl, fun _ => rfl⟩

theorem rest (h : Progress goal past p) (turn : Turn RulePolicy ρ σ)
    (hn : turn.report.action = .noOp) : Progress goal (past ++ [turn]) p where
  goal_eq := h.goal_eq
  length_eq := h.length_eq
  cursor_le := h.cursor_le
  cursor_eq := by
    have ht : turn.isAdvance = false := by simp [Turn.isAdvance, hn, Action.isNoOp]
    simpa [List.countP_append, ht] using h.cursor_eq
  tells := by
    intro i s hs
    have ht : turn.isAttemptAt i = false := by simp [Turn.isAttemptAt, hn, Action.isNoOp]
    exact (h.tells i s hs).pass turn ht

/-- A turn with an action is an attempt at the current step, and at no other. -/
theorem attempt (h : Progress goal past p) (turn : Turn RulePolicy ρ σ)
    (hp : turn.before.policy = p) (hn : turn.report.action ≠ .noOp) (hc : p.cursor < goal.size)
    (reward : Float) :
    Progress goal (past ++ [turn]) (p.credit turn.report.outcome.succeeded reward) where
  goal_eq := h.goal_eq
  length_eq := by simpa [RulePolicy.credit] using h.length_eq
  cursor_le := by
    simp only [RulePolicy.credit]
    split <;> omega
  cursor_eq := by
    have ht : turn.isAdvance = turn.report.outcome.succeeded := by
      simp [Turn.isAdvance, Action.isNoOp, hn]
    simp only [RulePolicy.credit, List.countP_append, List.countP_singleton, ht, ← h.cursor_eq]
    split <;> rfl
  tells := by
    intro i s hs
    have ht : turn.isAttemptAt i = (p.cursor == i) := by
      simp [Turn.isAttemptAt, Action.isNoOp, hn, hp]
    by_cases hi : p.cursor = i
    · subst hi
      obtain ⟨s', hs', rfl⟩ : ∃ s', p.stats[p.cursor]? = some s' ∧
          s'.count turn.report.outcome.succeeded reward = s := by
        simpa [RulePolicy.credit, List.getElem?_modify] using hs
      exact (h.tells p.cursor s' hs').count turn (by simp [ht]) _ reward
    · have hs' : p.stats[i]? = some s := by
        simpa [RulePolicy.credit, List.getElem?_modify, hi] using hs
      have hp := (h.tells i s hs').pass turn (by simp [ht, hi])
      simp only [RulePolicy.credit]
      split
      · exact hp.move (Ne.symm hi)
      · exact hp

theorem agrees (h : Progress goal past p) (hq : q.Agrees p) : Progress goal past q where
  goal_eq := hq.goal_eq.trans h.goal_eq
  length_eq := by rw [hq.stats_eq, h.length_eq]
  cursor_le := by rw [hq.cursor_eq]; exact h.cursor_le
  cursor_eq := hq.cursor_eq.trans h.cursor_eq
  tells := by rw [hq.stats_eq, hq.cursor_eq]; exact h.tells

theorem isComplete_iff (h : Progress goal past p) :
    p.isComplete = true ↔ p.cursor = goal.size := by
  have hc := h.cursor_le
  simp only [RulePolicy.isComplete, h.goal_eq, decide_eq_true_eq]
  omega

theorem cycled [Reward ρ] {a b : Agent RulePolicy ρ σ} {report : Report}
    (h : Progress goal past a.policy) (hc : Cycled a report b) :
    Progress goal (past ++ [⟨a, report, b⟩]) b.policy := by
  obtain ⟨reward, hp⟩ := hc.policy_agrees
  by_cases hn : report.action = .noOp
  · rw [if_pos hn] at hp
    exact (h.rest ⟨a, report, b⟩ hn).agrees hp
  · rw [if_neg hn] at hp
    have hl := a.policy.cursor_lt_of_decide report.snapshot (hc.action_eq ▸ hn)
    rw [h.goal_eq] at hl
    exact (h.attempt ⟨a, report, b⟩ rfl hn hl reward).agrees hp

end Progress

namespace Agent

variable {ρ σ τ ν : Type} [Reward ρ] [Sink σ] [TreeView ν]

/-- After every cycle of a new agent with a goal, on any surface and with any calculator that stays
finite, the policy is where the turns so far have brought it, and the report says whether that is
the end. -/
theorem progress_counts (goal : Goal) (config : Config) (calculator : ρ)
    (hf : Reward.StaysFinite calculator) (sink : Option σ) (surface : Surface (StateM τ))
    (stamps : Nat → Stamp) (roots : List (Option ν)) (t : τ) :
    let run := attendAll surface stamps (ofConfig config (.ofGoal goal) calculator sink) roots t
    (surface.Answers → run.1.length = roots.length) ∧ Progress goal run.1 run.2.policy ∧
    ∀ past turn, past ++ [turn] <+: run.1 →
      Progress goal (past ++ [turn]) turn.after.policy ∧
      (turn.report.policyComplete = true ↔ turn.after.policy.cursor = goal.size) := by
  intro run
  have hl : Leads ν _ run.1 run.2 := attendAll_leads surface stamps _ roots t
  have hs := hl.keeps (fun past a => Progress goal past a.policy)
    (fun _ _ _ _ h hc => h.cycled hc) hf [] (.start goal)
  refine ⟨fun ha => length_attendAll surface ha stamps _ roots t, hs.1, fun past turn hm => ?_⟩
  obtain ⟨hp, hc⟩ := hs.2 past turn hm
  refine ⟨hp, ?_⟩
  rw [hc.complete_eq]
  exact hp.isComplete_iff

/-- Three cycles with a step that succeeds and one whose element is gone from the device: it is
tried once, and stays the current step. -/
theorem progress_counts_gone :
    let goal : Goal := ⟨[⟨.byId "next", .click⟩, ⟨.byId "send", .click⟩]⟩
    let seen := (Node.ofClass "").withChildren [.button "next" "Next", .button "send" "Send"]
    let run := attendAll Device.surface (fun _ => {})
      (ofConfig { bufferCapacity := 2 } (.ofGoal goal) ShapedReward.mk (none : Option Archive))
      [some seen, some seen, none] { tree := some (.button "next" "Next") }
    Reward.StaysFinite ShapedReward.mk ∧ Device.surface.Answers ∧ run.1.length = 3 ∧
      Progress goal run.1 run.2.policy ∧ run.2.policy.cursor = 1 ∧
      run.1.countP (Turn.isAttemptAt 1) = 1 ∧ run.2.learner.runs = 1 := by
  intro goal seen run
  have hf := ShapedReward.staysFinite ShapedReward.mk
  obtain ⟨hl, hp, -⟩ := progress_counts goal { bufferCapacity := 2 } ShapedReward.mk hf
    (none : Option Archive) Device.surface (fun _ => {}) [some seen, some seen, none]
    { tree := some (.button "next" "Next") }
  exact ⟨hf, Device.surface_answers, hl Device.surface_answers, hp, by decide +kernel,
    by decide +kernel, by decide +kernel⟩

end Agent

end ScreenAgent
