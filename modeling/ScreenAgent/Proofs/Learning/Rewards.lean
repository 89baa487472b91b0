import ScreenAgent.Learning.Reward

namespace ScreenAgent

namespace Reward

variable {ρ : Type} [Reward ρ]

def after (r : ρ) (es : List Experience) : ρ := es.foldl (fun r e => (score r e).2) r

/-- A calculator that gives finite rewards only, whatever experiences it is shown. -/
def StaysFinite (r : ρ) : Prop :=
  ∀ (es : List Experience) (e : Experience), (score (after r es) e).1.isFinite = true

theorem StaysFinite.score {r : ρ} (h : StaysFinite r) (e : Experience) :
    (Reward.score r e).1.isFinite = true := h [] e

theorem StaysFinite.next {r : ρ} (h : StaysFinite r) (e : Experience) :
    StaysFinite (Reward.score r e).2 := fun es => h (e :: es)

/-- A calculator that scores what was seen, done and achieved, whatever came before. -/
def Scores (r : ρ) (score : Snapshot → Action → Outcome → Float) : Prop :=
  ∀ (es : List Experience) (e : Experience),
    (Reward.score (after r es) e).1 = score e.snapshot e.action e.outcome

theorem Scores.score {r : ρ} {score : Snapshot → Action → Outcome → Float} (h : Scores r score)
    (e : Experience) : (Reward.score r e).1 = score e.snapshot e.action e.outcome := h [] e

theorem Scores.next {r : ρ} {score : Snapshot → Action → Outcome → Float} (h : Scores r score)
    (e : Experience) : Scores (Reward.score r e).2 score := fun es => h (e :: es)

end Reward

namespace ShapedReward

theorem score_success (s : Snapshot) (a : Action) (o : Outcome) (h : o.succeeded = true) :
    (score s a o).isFinite = true ∧ 0 < score s a o ∧ ¬ score s a o < 0 := by
  unfold score
  rw [if_pos h]
  cases a with
  | setText target text =>
    dsimp only
    cases isUnchanged s target text <;> decide +kernel
  | click | scroll | wait | noOp =>
    dsimp only
    decide +kernel

theorem score_failure (s : Snapshot) (a : Action) (o : Outcome) (h : o.succeeded = false) :
    (score s a o).isFinite = true ∧ ¬ 0 < score s a o ∧ score s a o < 0 := by
  unfold score
  rw [if_neg (by simp [h])]
  split <;> decide +kernel

theorem score_isFinite (s : Snapshot) (a : Action) (o : Outcome) :
    (score s a o).isFinite = true := by
  cases h : o.succeeded with
  | true => exact (score_success s a o h).1
  | false => exact (score_failure s a o h).1

theorem score_pos_iff (s : Snapshot) (a : Action) (o : Outcome) :
    0 < score s a o ↔ o.succeeded = true := by
  cases h : o.succeeded with
  | true => simpa using (score_success s a o h).2.1
  | false => simpa using (score_failure s a o h).2.1

theorem score_neg_iff (s : Snapshot) (a : Action) (o : Outcome) :
    score s a o < 0 ↔ o.succeeded = false := by
  cases h : o.succeeded with
  | true => simpa using (score_success s a o h).2.2
  | false => simpa using (score_failure s a o h).2.2

theorem staysFinite (r : ShapedReward) : Reward.StaysFinite r := by
  intro _ e
  exact score_isFinite e.snapshot e.action e.outcome

theorem scores (r : ShapedReward) : Reward.Scores r score := fun _ _ => rfl

end ShapedReward

end ScreenAgent
