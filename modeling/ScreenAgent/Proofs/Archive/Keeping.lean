import ScreenAgent.Agent.RulePolicy
import ScreenAgent.Proofs.Archive.Lines
import ScreenAgent.Proofs.Learning.History

namespace ScreenAgent

theorem Archive.Holds.persistAll {a : Archive} {es : List Experience} (h : a.Holds es)
    (batches : List (List Experience)) :
    (Sink.persistAll a batches).Holds (es ++ batches.flatten) := by
  induction batches generalizing a es with
  | nil => simpa [Sink.persistAll] using h
  | cons batch batches ih =>
    have hr := ih (h.persist batch).2
    rwa [List.append_assoc, ← List.flatten_cons] at hr

namespace Learner

variable {ρ π : Type}

theorem not_recorded [Reward ρ] [Policy π] {l : Learner ρ Archive} {p : π} {ms : List Moment}
    {score : Snapshot → Action → Outcome → Float} (hs : Reward.Scores l.reward score)
    {t : Taken ρ Archive} (ht : t ∈ (l.takeAll p ms).takings) {anomaly : Anomaly}
    (hd : t.record = .dropped anomaly) (reward : Float) :
    t.moment.experience reward ∉ (l.takeAll p ms).recorded := by
  intro he
  obtain ⟨m, -, hm, hx⟩ := exists_of_recorded hs he
  have hv := l.takeAll_verdict p hs ms t ht
  -- neither its name nor its time has a say in whether a moment is dropped
  have hsame : m.verdict score = t.moment.verdict score := by
    obtain ⟨stamp, snapshot, action, outcome⟩ := m
    obtain ⟨-, rfl, rfl, rfl, -, -⟩ := Experience.mk.inj hx
    rfl
  rw [hd, ← hsame, hm] at hv
  cases hv

/-- An archive that starts with no file, and that a learner with the default rewards writes to: it
holds the full batches that were recorded, in order and with every field, and nothing else. What was
recorded after them is in the buffer, and nothing that was dropped is anywhere. -/
theorem load_takeAll [Policy π] (capacity : Nat) (policy : π) (ms : List Moment)
    (hsized : ∀ m ∈ ms, m.action.Sized) :
    let c := (ofCapacity capacity ShapedReward.mk (some ({} : Archive))).takeAll policy ms
    ∃ archive es, c.learner.sink = some archive ∧ archive.load = .ok es ∧
      es = c.recorded.take (max 1 capacity * c.learner.runs) ∧
      es.length = max 1 capacity * c.learner.runs ∧
      es ++ c.learner.buffer = c.recorded ∧
      c.takings.map Taken.moment = ms ∧
      ∀ t ∈ c.takings, ∀ anomaly, t.record = .dropped anomaly →
        ∀ reward, t.moment.experience reward ∉ c.recorded := by
  intro c
  have hscores : Reward.Scores ShapedReward.mk ShapedReward.score := ShapedReward.mk.scores
  obtain ⟨batches, hs, hk, hl⟩ :=
    takeAll_batches capacity ShapedReward.mk (some ({} : Archive)) policy ms
  have hh : (Sink.persistAll ({} : Archive) batches).Holds batches.flatten :=
    Archive.holds_absent.persistAll batches
  -- what is in the file was recorded, so its reward is one of those that are given
  have hw : ∀ e ∈ batches.flatten, Archive.Legible e := by
    intro e he
    have hr : e ∈ c.recorded := by
      rw [← hk]
      exact List.mem_append_left _ he
    obtain ⟨m, hm, -, rfl⟩ := exists_of_recorded hscores hr
    exact Archive.legible_of_score (hsized m hm) rfl
  refine ⟨_, batches.flatten, hs, hh.load hw, ?_, hl, hk, takeAll_moments .., ?_⟩
  · rw [← hk, ← hl, List.take_left]
  · intro t ht anomaly hd reward
    exact not_recorded hscores ht hd reward

/-- Four moments with room for two experiences: one moment has no element to click on, and the last is
still in the buffer. -/
theorem load_takeAll_two :
    let stamp (n : Fin 60) : Stamp :=
      { id := .ofNat n, time := ⟨⟨2024, 2, 29⟩, 23, 59, n, 250000000, by decide +revert⟩ }
    let failed : Outcome := .stale "gone\n\"away\""
    let ms : List Moment := [
      ⟨stamp 1, .empty, .noOp, .success⟩,
      ⟨stamp 2, .empty, .click (.byId "send" 0), .success⟩,
      ⟨stamp 3, .empty, .wait 250, failed⟩,
      ⟨stamp 4, .empty, .scroll .down, .success⟩]
    let c := (ofCapacity 2 ShapedReward.mk (some ({} : Archive))).takeAll
      (RulePolicy.ofGoal ⟨[]⟩) ms
    (∀ m ∈ ms, m.action.Sized) ∧ c.learner.runs = 1 ∧
    ∃ archive es, c.learner.sink = some archive ∧ archive.load = .ok es ∧
      es.map Experience.id = [.ofNat 1, .ofNat 3] := by
  intro stamp failed ms c
  have hsized : ∀ m ∈ ms, m.action.Sized := by decide
  have hruns : c.learner.runs = 1 := by decide +kernel
  obtain ⟨archive, es, hsink, hload, hes, -⟩ :=
    load_takeAll 2 (RulePolicy.ofGoal ⟨[]⟩) ms hsized
  have hids : (c.recorded.take (max 1 2 * 1)).map Experience.id = [.ofNat 1, .ofNat 3] := by
    decide +kernel
  refine ⟨hsized, hruns, archive, es, hsink, hload, ?_⟩
  rw [hes, hruns]
  exact hids

end Learner

end ScreenAgent
