import ScreenAgent.Learning.Learner
import ScreenAgent.Proofs.Learning.Rewards

namespace ScreenAgent

inductive Lesson
  | update (e : Experience) (reward : Float)
  | refine (batch : List Experience)

namespace Lesson

def ofExperience (e : Experience) : Lesson := update e e.reward

def batch? : Lesson → Option (List Experience)
  | update _ _ => none
  | refine batch => some batch

end Lesson

/-- A policy with notes of all that it was told. -/
structure NotingPolicy (π : Type) where
  inner : π
  lessons : List Lesson

namespace NotingPolicy

variable {π : Type}

def start (p : π) : NotingPolicy π := ⟨p, []⟩

def batches (p : NotingPolicy π) : List (List Experience) := p.lessons.filterMap Lesson.batch?

instance [Policy π] : Policy (NotingPolicy π) where
  decide p := Policy.decide p.inner
  update p e reward := ⟨Policy.update p.inner e reward, p.lessons ++ [.update e reward]⟩
  refine p batch := ⟨Policy.refine p.inner batch, p.lessons ++ [.refine batch]⟩
  isComplete p := Policy.isComplete p.inner

end NotingPolicy

/-- A sink with notes of the batches that it was handed, whatever it said to them. -/
structure NotingSink (σ : Type) where
  inner : σ
  batches : List (List Experience)

namespace NotingSink

variable {σ : Type}

def start (s : σ) : NotingSink σ := ⟨s, []⟩

instance [Sink σ] : Sink (NotingSink σ) where
  persist s batch :=
    ((Sink.persist s.inner batch).1, ⟨(Sink.persist s.inner batch).2, s.batches ++ [batch]⟩)

end NotingSink

/-- What a learner is given in one call. -/
structure Moment where
  stamp : Stamp
  snapshot : Snapshot
  action : Action
  outcome : Outcome

def Moment.experience (m : Moment) (reward : Float) : Experience :=
  ⟨m.stamp.id, m.snapshot, m.action, m.outcome, m.stamp.time, reward⟩

namespace Moment

/-- An action about something that was not to be seen. -/
def IsUnknown (m : Moment) (target : Ref) : Prop :=
  m.action.target? = some target ∧ m.snapshot.resolve? target = none

def IsInconsistent (m : Moment) : Prop :=
  m.outcome.succeeded = true ∧ m.outcome.errorKind ≠ none

/-- A moment with which nothing is wrong, whatever its reward. -/
structure IsSound (m : Moment) : Prop where
  known : ∀ target, ¬ m.IsUnknown target
  consistent : ¬ m.IsInconsistent

theorem IsUnknown.unique {m : Moment} {target other : Ref} (h : m.IsUnknown target)
    (h' : m.IsUnknown other) : target = other :=
  Option.some.inj (h.1.symm.trans h'.1)

theorem anomaly?_cases (m : Moment) :
    (∃ target, m.IsUnknown target ∧ (m.experience 0).anomaly? = some (.unknownTarget target)) ∨
    ((∀ target, ¬ m.IsUnknown target) ∧ m.IsInconsistent ∧
      (m.experience 0).anomaly? = some .inconsistentOutcome) ∨
    (m.IsSound ∧ (m.experience 0).anomaly? = none) := by
  simp only [Experience.anomaly?, Moment.experience]
  cases ht : m.action.target?.filter fun target => (m.snapshot.resolve? target).isNone with
  | some target =>
    obtain ⟨ha, hr⟩ := Option.filter_eq_some_iff.mp ht
    exact .inl ⟨target, ⟨ha, Option.isNone_iff_eq_none.mp hr⟩, rfl⟩
  | none =>
    have hk : ∀ target, ¬ m.IsUnknown target := by
      rintro target ⟨ha, hr⟩
      have hn := Option.filter_eq_none_iff.mp ht target ha
      simp [hr] at hn
    refine .inr ?_
    by_cases hi : m.IsInconsistent
    · have hs : (m.outcome.succeeded && m.outcome.errorKind.isSome) = true := by
        rw [hi.1, Option.isSome_iff_ne_none.mpr hi.2]
        rfl
      exact .inl ⟨hk, hi, by simp [hs]⟩
    · have hs : (m.outcome.succeeded && m.outcome.errorKind.isSome) = false := by
        refine Bool.eq_false_iff.mpr fun hs => hi ?_
        rw [Bool.and_eq_true, Option.isSome_iff_ne_none] at hs
        exact hs
      exact .inr ⟨⟨hk, hi⟩, by simp [hs]⟩

theorem IsSound.anomaly?_eq_none {m : Moment} (h : m.IsSound) : (m.experience 0).anomaly? = none := by
  obtain ⟨target, hm, -⟩ | ⟨-, hm, -⟩ | ⟨-, ha⟩ := m.anomaly?_cases
  · exact absurd hm (h.known target)
  · exact absurd hm h.consistent
  · exact ha

end Moment

def Record.verdict : Record → Except Anomaly Float
  | recorded reward _ => .ok reward
  | dropped anomaly => .error anomaly

/-- What has to be answered to a moment if scores depend on nothing else. -/
def Moment.verdict (m : Moment) (score : Snapshot → Action → Outcome → Float) :
    Except Anomaly Float :=
  match (m.experience 0).anomaly? with
  | some anomaly => .error anomaly
  | none =>
    let reward := score m.snapshot m.action m.outcome
    if reward.isFinite then .ok reward else .error (.nonFiniteReward reward)

/-- One call of a learner: what it was given, what it answered, and the learner after it. -/
structure Taken (ρ σ : Type) where
  moment : Moment
  record : Record
  after : Learner ρ σ

/-- A sequence of calls, and the learner and the policy after them. -/
structure Course (π ρ σ : Type) where
  takings : List (Taken ρ σ)
  learner : Learner ρ σ
  policy : π

def Taken.experience? {ρ σ : Type} (e : Taken ρ σ) : Option Experience :=
  match e.record with
  | .recorded reward _ => some (e.moment.experience reward)
  | .dropped _ => none

def Course.recorded {π ρ σ : Type} (c : Course π ρ σ) : List Experience :=
  c.takings.filterMap Taken.experience?

namespace Learner

variable {ρ σ π : Type}

def take [Reward ρ] [Sink σ] [Policy π] (l : Learner ρ σ) (m : Moment) (p : π) :
    Record × Learner ρ σ × π :=
  l.record m.stamp m.snapshot m.action m.outcome p

def takeAll [Reward ρ] [Sink σ] [Policy π] (l : Learner ρ σ) (p : π) :
    List Moment → Course π ρ σ
  | [] => ⟨[], l, p⟩
  | m :: ms =>
    let (record, l, p) := l.take m p
    let c := takeAll l p ms
    { c with takings := ⟨m, record, l⟩ :: c.takings }

def forget (l : Learner ρ (NotingSink σ)) : Learner ρ σ where
  buffer := l.buffer
  capacity := l.capacity
  reward := l.reward
  sink := l.sink.map NotingSink.inner
  runs := l.runs
  dropped := l.dropped
  capacity_pos := l.capacity_pos

theorem take_eq [Reward ρ] [Sink σ] [Policy π] (l : Learner ρ σ) (m : Moment) (p : π) :
    l.take m p =
      match (m.experience 0).anomaly? with
      | some anomaly => (.dropped anomaly, l.drop, p)
      | none =>
        let scored := Reward.score l.reward (m.experience 0)
        if scored.1.isFinite then
          { l with reward := scored.2 }.keep (m.experience 0) scored.1 p
        else (.dropped (.nonFiniteReward scored.1), { l with reward := scored.2 }.drop, p) := rfl

theorem keep_of_room [Sink σ] [Policy π] (l : Learner ρ σ) (e : Experience) (reward : Float) (p : π)
    (h : l.buffer.length + 1 < l.capacity) :
    l.keep e reward p = (.recorded reward false,
      { l with buffer := l.buffer ++ [{ e with reward }] },
      Policy.update p { e with reward } reward) := by
  simp [keep, show ¬ l.capacity ≤ l.buffer.length + 1 by omega]

theorem keep_of_full [Sink σ] [Policy π] (l : Learner ρ σ) (e : Experience) (reward : Float) (p : π)
    (h : l.capacity ≤ l.buffer.length + 1) :
    l.keep e reward p = (.recorded reward true,
      { l with buffer := l.buffer ++ [{ e with reward }] }.optimize
        (Policy.update p { e with reward } reward)) := by
  simp [keep, h]

/-- What one call comes to: the experience is dropped, or it is kept, or it fills the buffer, which
is handed on then. -/
theorem take_cases [Reward ρ] [Sink σ] [Policy π] (l : Learner ρ σ) (m : Moment) (p : π) :
    (∃ anomaly calculator,
      l.take m p = (.dropped anomaly, { l with reward := calculator }.drop, p)) ∨
    (∃ reward calculator, l.buffer.length + 1 < l.capacity ∧
      l.take m p = (.recorded reward false,
        { l with reward := calculator, buffer := l.buffer ++ [m.experience reward] },
        Policy.update p (m.experience reward) reward)) ∨
    (∃ reward calculator, l.capacity ≤ l.buffer.length + 1 ∧
      l.take m p = (.recorded reward true,
        { l with reward := calculator, buffer := l.buffer ++ [m.experience reward] }.optimize
          (Policy.update p (m.experience reward) reward))) := by
  rw [take_eq]
  cases ha : (m.experience 0).anomaly? with
  | some anomaly => exact .inl ⟨anomaly, l.reward, rfl⟩
  | none =>
    dsimp only
    generalize Reward.score l.reward (m.experience 0) = scored
    cases hf : scored.1.isFinite with
    | false => exact .inl ⟨.nonFiniteReward scored.1, scored.2, by simp⟩
    | true =>
      refine .inr ?_
      simp only [if_true]
      by_cases hc : l.buffer.length + 1 < l.capacity
      · exact .inl ⟨scored.1, scored.2, hc, keep_of_room _ _ _ _ hc⟩
      · have hc : l.capacity ≤ l.buffer.length + 1 := by omega
        exact .inr ⟨scored.1, scored.2, hc, keep_of_full _ _ _ _ hc⟩

theorem take_capacity [Reward ρ] [Sink σ] [Policy π] (l : Learner ρ σ) (m : Moment) (p : π) :
    (l.take m p).2.1.capacity = l.capacity := by
  obtain ⟨_, _, he⟩ | ⟨_, _, -, he⟩ | ⟨_, _, -, he⟩ := l.take_cases m p <;> rw [he] <;> rfl

/-- What is always so after a number of calls: there is room in the buffer, and each call is counted
as dropped, or its experience is in a batch or in the buffer. -/
structure Fits (l : Learner ρ σ) (calls : Nat) : Prop where
  below : l.buffer.length < l.capacity
  calls_eq : calls = l.dropped + l.capacity * l.runs + l.buffer.length

theorem fits_ofCapacity (capacity : Nat) (calculator : ρ) (sink : Option σ) :
    (ofCapacity capacity calculator sink).Fits 0 :=
  ⟨(ofCapacity capacity calculator sink).capacity_pos, rfl⟩

theorem Fits.take [Reward ρ] [Sink σ] [Policy π] {l : Learner ρ σ} {calls : Nat} (h : l.Fits calls)
    (m : Moment) (p : π) : (l.take m p).2.1.Fits (calls + 1) := by
  have hb := h.below
  have hc := h.calls_eq
  obtain ⟨anomaly, calculator, he⟩ | ⟨reward, calculator, hr, he⟩ | ⟨reward, calculator, hr, he⟩ :=
    l.take_cases m p
  · rw [he]
    refine ⟨hb, ?_⟩
    simp only [drop]
    omega
  · rw [he]
    refine ⟨by simpa using hr, ?_⟩
    simp only [List.length_append, List.length_singleton]
    omega
  · rw [he]
    refine ⟨l.capacity_pos, ?_⟩
    have hl : l.buffer.length + 1 = l.capacity := by omega
    simp only [optimize, Nat.mul_succ, List.length_nil]
    omega

theorem take_eq_keep [Reward ρ] [Sink σ] [Policy π] (l : Learner ρ σ) (m : Moment) (p : π)
    (ha : (m.experience 0).anomaly? = none) {reward : Float} {calculator : ρ}
    (hr : Reward.score l.reward (m.experience 0) = (reward, calculator))
    (hf : reward.isFinite = true) :
    l.take m p = { l with reward := calculator }.keep (m.experience 0) reward p := by
  rw [take_eq, ha]
  simp [hr, hf]

/-- A sound experience with a finite reward is recorded, and the policy learns from it; only an
optimization can come to that. -/
theorem take_of_finite [Reward ρ] [Sink σ] [Policy π] (l : Learner ρ σ) (m : Moment) (p : π)
    (ha : (m.experience 0).anomaly? = none) {reward : Float} {calculator : ρ}
    (hr : Reward.score l.reward (m.experience 0) = (reward, calculator))
    (hf : reward.isFinite = true) :
    ∃ optimized, (l.take m p).1 = .recorded reward optimized ∧
      (l.take m p).2.1.dropped = l.dropped ∧ (l.take m p).2.1.reward = calculator ∧
      (l.take m p).2.2 =
        if optimized then
          Policy.refine (Policy.update p (m.experience reward) reward)
            (l.buffer ++ [m.experience reward])
        else Policy.update p (m.experience reward) reward := by
  rw [l.take_eq_keep m p ha hr hf]
  by_cases hc : l.buffer.length + 1 < l.capacity
  · rw [keep_of_room { l with reward := calculator } _ _ _ hc]
    exact ⟨false, rfl, rfl, rfl, rfl⟩
  · rw [keep_of_full { l with reward := calculator } _ _ _ (by simpa using hc)]
    exact ⟨true, rfl, rfl, rfl, rfl⟩

theorem take_verdict [Reward ρ] [Sink σ] [Policy π] (l : Learner ρ σ) (m : Moment) (p : π)
    {score : Snapshot → Action → Outcome → Float} (hs : Reward.Scores l.reward score) :
    (l.take m p).1.verdict = m.verdict score := by
  have hr : (Reward.score l.reward (m.experience 0)).1 = score m.snapshot m.action m.outcome :=
    hs.score (m.experience 0)
  rw [take_eq, Moment.verdict]
  cases ha : (m.experience 0).anomaly? with
  | some anomaly => rfl
  | none =>
    dsimp only
    rw [hr]
    by_cases hf : (score m.snapshot m.action m.outcome).isFinite = true
    · rw [if_pos hf, if_pos hf, keep]
      split <;> rfl
    · rw [if_neg hf, if_neg hf]
      rfl

theorem take_scores [Reward ρ] [Sink σ] [Policy π] (l : Learner ρ σ) (m : Moment) (p : π)
    {score : Snapshot → Action → Outcome → Float} (hs : Reward.Scores l.reward score) :
    Reward.Scores (l.take m p).2.1.reward score := by
  have hn := hs.next (m.experience 0)
  rw [take_eq]
  cases ha : (m.experience 0).anomaly? with
  | some anomaly => exact hs
  | none =>
    dsimp only
    split
    · rw [keep]
      split <;> exact hn
    · exact hn

theorem take_forget [Reward ρ] [Sink σ] [Policy π] (l : Learner ρ (NotingSink σ)) (m : Moment)
    (p : NotingPolicy π) :
    l.forget.take m p.inner =
      ((l.take m p).1, (l.take m p).2.1.forget, (l.take m p).2.2.inner) := by
  obtain ⟨_, _, reward, sink, _, _, _⟩ := l
  rw [take_eq, take_eq]
  cases ha : (m.experience 0).anomaly? with
  | some anomaly => rfl
  | none =>
    dsimp only [forget]
    generalize Reward.score reward (m.experience 0) = scored
    cases hf : scored.1.isFinite with
    | false => rfl
    | true =>
      simp only [keep, if_true]
      split
      · simp only [optimize, Option.map_map]
        rfl
      · rfl

end Learner

def Course.forget {π ρ σ : Type} (c : Course (NotingPolicy π) ρ (NotingSink σ)) : Course π ρ σ where
  takings := c.takings.map fun e => ⟨e.moment, e.record, e.after.forget⟩
  learner := c.learner.forget
  policy := c.policy.inner

theorem Course.recorded_forget {π ρ σ : Type} (c : Course (NotingPolicy π) ρ (NotingSink σ)) :
    c.forget.recorded = c.recorded :=
  List.filterMap_map ..

namespace Learner

variable {ρ σ π : Type} [Reward ρ]

theorem takeAll_capacity [Sink σ] [Policy π] (l : Learner ρ σ) (p : π) (ms : List Moment) :
    (l.takeAll p ms).learner.capacity = l.capacity := by
  induction ms generalizing l p with
  | nil => rfl
  | cons m ms ih => exact (ih _ _).trans (l.take_capacity m p)

theorem Fits.takeAll [Sink σ] [Policy π] {l : Learner ρ σ} {calls : Nat} (h : l.Fits calls) (p : π)
    (ms : List Moment) : (l.takeAll p ms).learner.Fits (calls + ms.length) := by
  induction ms generalizing calls l p with
  | nil => exact h
  | cons m ms ih =>
    have hs := ih (h.take m p) (l.take m p).2.2
    have hc : calls + 1 + ms.length = calls + (m :: ms).length := by
      simp only [List.length_cons]
      omega
    rw [hc] at hs
    exact hs

/-- Notes change nothing in a sequence of calls. -/
theorem takeAll_forget [Sink σ] [Policy π] (l : Learner ρ (NotingSink σ)) (p : NotingPolicy π)
    (ms : List Moment) : l.forget.takeAll p.inner ms = (l.takeAll p ms).forget := by
  induction ms generalizing l p with
  | nil => rfl
  | cons m ms ih =>
    have ht := take_forget l m p
    have hs := ih (l.take m p).2.1 (l.take m p).2.2
    simp only [takeAll, ht, hs]
    rfl

theorem recorded_cons [Sink σ] [Policy π] (l : Learner ρ σ) (p : π) (m : Moment)
    (ms : List Moment) :
    (l.takeAll p (m :: ms)).recorded =
      (Taken.experience? ⟨m, (l.take m p).1, (l.take m p).2.1⟩).toList ++
        ((l.take m p).2.1.takeAll (l.take m p).2.2 ms).recorded := by
  simp only [Course.recorded, takeAll, List.filterMap_cons]
  cases Taken.experience? _ <;> rfl

theorem takeAll_verdict [Sink σ] [Policy π] (l : Learner ρ σ) (p : π)
    {score : Snapshot → Action → Outcome → Float} (hs : Reward.Scores l.reward score)
    (ms : List Moment) :
    ∀ t ∈ (l.takeAll p ms).takings, t.record.verdict = t.moment.verdict score := by
  induction ms generalizing l p with
  | nil => simp [takeAll]
  | cons m ms ih =>
    intro t ht
    obtain rfl | ht := List.mem_cons.mp ht
    · exact l.take_verdict m p hs
    · exact ih _ _ (l.take_scores m p hs) t ht

end Learner

end ScreenAgent
