import ScreenAgent.Proofs.Learning.Recording

namespace ScreenAgent

/-- What a policy is told of a batch: each of its experiences, and then the batch. -/
def Lesson.ofBatch (batch : List Experience) : List Lesson :=
  batch.map ofExperience ++ [.refine batch]

namespace NotingPolicy

variable {π : Type} [Policy π]

@[simp] theorem batches_update (p : NotingPolicy π) (e : Experience) (reward : Float) :
    (Policy.update p e reward).batches = p.batches := by
  simp [batches, Policy.update, Lesson.batch?]

@[simp] theorem batches_refine (p : NotingPolicy π) (batch : List Experience) :
    (Policy.refine p batch).batches = p.batches ++ [batch] := by
  simp [batches, Policy.refine, Lesson.batch?]

@[simp] theorem lessons_update (p : NotingPolicy π) (e : Experience) (reward : Float) :
    (Policy.update p e reward).lessons = p.lessons ++ [.update e reward] := rfl

@[simp] theorem lessons_refine (p : NotingPolicy π) (batch : List Experience) :
    (Policy.refine p batch).lessons = p.lessons ++ [.refine batch] := rfl

end NotingPolicy

/-- A sink that was handed batches, one after the other. -/
def Sink.persistAll {σ : Type} [Sink σ] (s : σ) (batches : List (List Experience)) : σ :=
  batches.foldl (fun s batch => (Sink.persist s batch).2) s

theorem Sink.persistAll_concat {σ : Type} [Sink σ] (s : σ) (batches : List (List Experience))
    (batch : List Experience) :
    persistAll s (batches ++ [batch]) = (persist (persistAll s batches) batch).2 := by
  simp [persistAll]

/-- The books of a learner, with a sink or without one, after calls that kept some experiences. -/
structure Accounts {ρ σ π : Type} [Sink σ] (sink : Option σ) (kept : List Experience)
    (l : Learner ρ (NotingSink σ)) (p : NotingPolicy π) : Prop where
  kept_eq : p.batches.flatten ++ l.buffer = kept
  full : ∀ batch ∈ p.batches, batch.length = l.capacity
  runs_eq : l.runs = p.batches.length
  lessons_eq : p.lessons = p.batches.flatMap Lesson.ofBatch ++ l.buffer.map Lesson.ofExperience
  sink_eq : l.sink = sink.map fun s => ⟨Sink.persistAll s p.batches, p.batches⟩

namespace Accounts

variable {ρ σ π : Type} [Sink σ] {sink : Option σ} {kept : List Experience}
  {l : Learner ρ (NotingSink σ)} {p : NotingPolicy π}

theorem start (capacity : Nat) (calculator : ρ) (sink : Option σ) (policy : π) :
    Accounts sink [] (Learner.ofCapacity capacity calculator (sink.map NotingSink.start))
      (NotingPolicy.start policy) where
  kept_eq := rfl
  full := by simp [NotingPolicy.batches, NotingPolicy.start]
  runs_eq := rfl
  lessons_eq := rfl
  sink_eq := by cases sink <;> rfl

theorem drop (h : Accounts sink kept l p) (calculator : ρ) :
    Accounts sink kept { l with reward := calculator }.drop p :=
  ⟨h.kept_eq, h.full, h.runs_eq, h.lessons_eq, h.sink_eq⟩

/-- An experience that does not fill the buffer stays in it. -/
theorem push [Policy π] (h : Accounts sink kept l p) (e : Experience) (calculator : ρ) :
    Accounts sink (kept ++ [e]) { l with reward := calculator, buffer := l.buffer ++ [e] }
      (Policy.update p e e.reward) where
  kept_eq := by simp [← h.kept_eq]
  full := by simpa using h.full
  runs_eq := by simpa using h.runs_eq
  lessons_eq := by simp [h.lessons_eq, Lesson.ofExperience]
  sink_eq := by simpa using h.sink_eq

/-- An experience that fills the buffer goes on with it as one batch. -/
theorem hand_on [Policy π] (h : Accounts sink kept l p) (e : Experience) (calculator : ρ)
    (hb : l.buffer.length + 1 = l.capacity) :
    let next := { l with reward := calculator, buffer := l.buffer ++ [e] }.optimize
      (Policy.update p e e.reward)
    Accounts sink (kept ++ [e]) next.1 next.2 where
  kept_eq := by simp [Learner.optimize, ← h.kept_eq]
  full := by
    intro batch hm
    rcases (by simpa [Learner.optimize] using hm : batch ∈ p.batches ∨ batch = l.buffer ++ [e])
      with hm | hm
    · exact h.full batch hm
    · simpa [hm, Learner.optimize] using hb
  runs_eq := by simp [Learner.optimize, h.runs_eq]
  lessons_eq := by simp [Learner.optimize, h.lessons_eq, Lesson.ofBatch, Lesson.ofExperience]
  sink_eq := by
    simp only [Learner.optimize, h.sink_eq, Option.map_map, NotingPolicy.batches_refine,
      NotingPolicy.batches_update, Sink.persistAll_concat]
    rfl

theorem take [Reward ρ] [Policy π] (h : Accounts sink kept l p)
    (hb : l.buffer.length < l.capacity) (m : Moment) :
    Accounts sink (kept ++ (Taken.experience? ⟨m, (l.take m p).1, (l.take m p).2.1⟩).toList)
      (l.take m p).2.1 (l.take m p).2.2 := by
  obtain ⟨anomaly, calculator, he⟩ | ⟨reward, calculator, -, he⟩ | ⟨reward, calculator, hc, he⟩ :=
    l.take_cases m p
  · rw [he]
    simpa [Taken.experience?] using h.drop calculator
  · rw [he]
    exact h.push (m.experience reward) calculator
  · rw [he]
    exact h.hand_on (m.experience reward) calculator (by omega)

theorem takeAll [Reward ρ] [Policy π] (h : Accounts sink kept l p) {calls : Nat}
    (hl : l.Fits calls) (ms : List Moment) :
    Accounts sink (kept ++ (l.takeAll p ms).recorded) (l.takeAll p ms).learner
      (l.takeAll p ms).policy := by
  induction ms generalizing kept calls l p with
  | nil => simpa [Learner.takeAll, Course.recorded] using h
  | cons m ms ih =>
    have hs := ih (h.take hl.below m) (hl.take m p)
    rw [List.append_assoc, ← Learner.recorded_cons] at hs
    exact hs

theorem length_batches (h : Accounts sink kept l p) :
    p.batches.flatten.length = l.capacity * l.runs := by
  have hl : p.batches.map List.length = List.replicate p.batches.length l.capacity :=
    List.eq_replicate_iff.mpr ⟨by simp, by simpa using h.full⟩
  rw [List.length_flatten, hl, List.sum_replicate_nat, h.runs_eq, Nat.mul_comm]

theorem length_kept (h : Accounts sink kept l p) :
    kept.length = l.capacity * l.runs + l.buffer.length := by
  rw [← h.kept_eq, List.length_append, h.length_batches]

theorem handed_eq (h : Accounts sink kept l p) :
    l.sink.map NotingSink.batches = sink.map fun _ => p.batches := by
  rw [h.sink_eq, Option.map_map]
  rfl

end Accounts

namespace Learner

variable {ρ σ π : Type} [Reward ρ] [Sink σ] [Policy π]

theorem takeAll_moments (l : Learner ρ σ) (p : π) (ms : List Moment) :
    (l.takeAll p ms).takings.map Taken.moment = ms := by
  induction ms generalizing l p with
  | nil => rfl
  | cons m ms ih => exact congrArg (List.cons m) (ih _ _)

theorem eq_score_of_verdict {m : Moment} {score : Snapshot → Action → Outcome → Float}
    {reward : Float} (h : m.verdict score = .ok reward) :
    reward = score m.snapshot m.action m.outcome := by
  unfold Moment.verdict at h
  split at h
  · cases h
  · dsimp only at h
    split at h
    · cases h
      rfl
    · cases h

/-- What is recorded is a moment that had to be, with its score. -/
theorem exists_of_recorded {l : Learner ρ σ} {p : π} {ms : List Moment}
    {score : Snapshot → Action → Outcome → Float} (hs : Reward.Scores l.reward score)
    {e : Experience} (he : e ∈ (l.takeAll p ms).recorded) :
    ∃ m ∈ ms, m.verdict score = .ok e.reward ∧
      e = m.experience (score m.snapshot m.action m.outcome) := by
  obtain ⟨t, ht, hx⟩ := List.mem_filterMap.mp he
  have hv := l.takeAll_verdict p hs ms t ht
  have hm : t.moment ∈ ms := by
    have hin := List.mem_map_of_mem (f := Taken.moment) ht
    rwa [takeAll_moments] at hin
  unfold Taken.experience? at hx
  cases hr : t.record with
  | dropped anomaly => simp [hr] at hx
  | recorded reward optimized =>
    rw [hr] at hv hx
    obtain rfl : t.moment.experience reward = e := Option.some.inj hx
    have hscore := eq_score_of_verdict hv.symm
    exact ⟨t.moment, hm, hv.symm, by rw [hscore]⟩

/-- An answer tells of an optimization exactly if the buffer is empty after it. -/
theorem take_optimized (l : Learner ρ σ) (m : Moment) (p : π) (reward : Float) (optimized : Bool)
    (h : (l.take m p).1 = .recorded reward optimized) :
    optimized = true ↔ (l.take m p).2.1.buffer = [] := by
  obtain ⟨anomaly, calculator, he⟩ | ⟨reward', calculator, -, he⟩ | ⟨reward', calculator, -, he⟩ :=
    l.take_cases m p
  · simp [he] at h
  · obtain ⟨-, rfl⟩ : reward' = reward ∧ false = optimized := by simpa [he] using h
    simp [he]
  · obtain ⟨-, rfl⟩ : reward' = reward ∧ true = optimized := by simpa [he, optimize] using h
    simp [he, optimize]

theorem takeAll_optimized (l : Learner ρ σ) (p : π) (ms : List Moment) :
    ∀ t ∈ (l.takeAll p ms).takings, ∀ reward optimized, t.record = .recorded reward optimized →
      (optimized = true ↔ t.after.buffer = []) := by
  induction ms generalizing l p with
  | nil => simp [takeAll]
  | cons m ms ih =>
    intro t ht reward optimized hr
    rcases List.mem_cons.mp ht with rfl | ht
    · exact l.take_optimized m p reward optimized hr
    · exact ih _ _ t ht reward optimized hr

theorem accounts_takeAll (capacity : Nat) (calculator : ρ) (sink : Option σ) (policy : π)
    (ms : List Moment) :
    let c := (ofCapacity capacity calculator (sink.map NotingSink.start)).takeAll
      (NotingPolicy.start policy) ms
    (ofCapacity capacity calculator sink).takeAll policy ms = c.forget ∧
      Accounts sink c.recorded c.learner c.policy := by
  have hf : (ofCapacity capacity calculator (sink.map NotingSink.start)).forget =
      ofCapacity capacity calculator sink := by
    cases sink <;> rfl
  have ha := (Accounts.start capacity calculator sink policy).takeAll (fits_ofCapacity ..) ms
  rw [List.nil_append] at ha
  refine ⟨?_, ha⟩
  rw [← hf]
  exact takeAll_forget _ (NotingPolicy.start policy) ms

/-- A sink is handed the first of the experiences that are recorded, in full batches. The rest are in
the buffer. -/
theorem takeAll_batches (capacity : Nat) (calculator : ρ) (sink : Option σ) (policy : π)
    (ms : List Moment) :
    let c := (ofCapacity capacity calculator sink).takeAll policy ms
    ∃ batches, c.learner.sink = sink.map (Sink.persistAll · batches) ∧
      batches.flatten ++ c.learner.buffer = c.recorded ∧
      batches.flatten.length = max 1 capacity * c.learner.runs := by
  intro c
  let n := (ofCapacity capacity calculator (sink.map NotingSink.start)).takeAll
    (NotingPolicy.start policy) ms
  obtain ⟨hf, ha⟩ : c = n.forget ∧ Accounts sink n.recorded n.learner n.policy :=
    accounts_takeAll capacity calculator sink policy ms
  have hc : n.learner.capacity = max 1 capacity := takeAll_capacity ..
  have hs : n.forget.learner.sink = sink.map (Sink.persistAll · n.policy.batches) := by
    change n.learner.sink.map NotingSink.inner = _
    rw [ha.sink_eq, Option.map_map]
    rfl
  rw [hf, Course.recorded_forget, ← hc]
  exact ⟨n.policy.batches, hs, ha.kept_eq, ha.length_batches⟩

/-- Whatever policy, calculator and sink a new learner works with, and whatever it is given: the
batches that the policy was told, which are those that the sink was handed, and then the buffer are
the recorded experiences in order. -/
theorem takeAll_history (capacity : Nat) (calculator : ρ) (sink : Option σ) (policy : π)
    (ms : List Moment) :
    let c := (ofCapacity capacity calculator (sink.map NotingSink.start)).takeAll
      (NotingPolicy.start policy) ms
    (ofCapacity capacity calculator sink).takeAll policy ms = c.forget ∧
    c.takings.map Taken.moment = ms ∧
    c.policy.batches.flatten ++ c.learner.buffer = c.recorded ∧
    c.learner.sink.map NotingSink.batches = sink.map (fun _ => c.policy.batches) ∧
    (∀ batch ∈ c.policy.batches, batch.length = max 1 capacity) ∧
    c.learner.buffer.length < max 1 capacity ∧
    c.learner.runs = c.policy.batches.length ∧
    c.learner.runs = c.recorded.length / max 1 capacity ∧
    (∀ t ∈ c.takings, ∀ reward optimized, t.record = .recorded reward optimized →
      (optimized = true ↔ t.after.buffer = [])) ∧
    c.policy.lessons =
      c.policy.batches.flatMap Lesson.ofBatch ++ c.learner.buffer.map Lesson.ofExperience ∧
    ms.length =
      c.learner.dropped + max 1 capacity * c.learner.runs + c.learner.buffer.length := by
  intro c
  have hc : c.learner.capacity = max 1 capacity := takeAll_capacity ..
  have hl : c.learner.Fits ms.length := by
    simpa using (fits_ofCapacity capacity calculator _).takeAll (NotingPolicy.start policy) ms
  obtain ⟨hf, ha⟩ := accounts_takeAll capacity calculator sink policy ms
  have hruns : c.learner.runs = c.recorded.length / c.learner.capacity := by
    rw [ha.length_kept, Nat.mul_add_div c.learner.capacity_pos, Nat.div_eq_of_lt hl.below,
      Nat.add_zero]
  rw [← hc]
  exact ⟨hf, takeAll_moments .., ha.kept_eq, ha.handed_eq, ha.full, hl.below, ha.runs_eq, hruns,
    takeAll_optimized _ _ ms, ha.lessons_eq, hl.calls_eq⟩

end Learner

end ScreenAgent
