import Mathlib.Data.List.Forall2
import ScreenAgent.Agent.RulePolicy
import ScreenAgent.Archive.Sink
import ScreenAgent.Proofs.Learning.History

namespace ScreenAgent

theorem isFinite_eq_false_iff (f : Float) :
    f.isFinite = false ↔ f.isNaN = true ∨ f.isInf = true := by
  unfold Float.isFinite Float.isNaN Float.isInf Float.Model.isFinite Float.Model.isNaN
    Float.Model.isInf
  cases f.toModel.unpack with
  | infinity => exact ⟨fun _ => .inr rfl, fun _ => rfl⟩
  | notANumber => exact ⟨fun _ => .inl rfl, fun _ => rfl⟩
  | zero | finite =>
    constructor
    · intro h
      cases h
    · rintro (h | h) <;> cases h

namespace Learner

variable {ρ σ π : Type} [Reward ρ] [Sink σ] [Policy π]

/-- An answer to a moment: which moments are dropped and why, for which of them the calculator is asked,
and what is changed by it. -/
structure Judges (l : Learner ρ σ) (m : Moment) (p : π) (result : Record × Learner ρ σ × π) :
    Prop where
  unknown_iff : ∀ target, result.1 = .dropped (.unknownTarget target) ↔ m.IsUnknown target
  inconsistent_iff : result.1 = .dropped .inconsistentOutcome ↔
    (∀ target, ¬ m.IsUnknown target) ∧ m.IsInconsistent
  nonFinite_iff : ∀ reward, result.1 = .dropped (.nonFiniteReward reward) ↔
    m.IsSound ∧ (Reward.score l.reward (m.experience 0)).1 = reward ∧
      (reward.isNaN = true ∨ reward.isInf = true)
  unasked : ¬ m.IsSound → result.2.1.reward = l.reward
  asked : m.IsSound → result.2.1.reward = (Reward.score l.reward (m.experience 0)).2
  of_dropped : ∀ anomaly, result.1 = .dropped anomaly → result.2.2 = p ∧
    result.2.1 = { l with reward := result.2.1.reward, dropped := l.dropped + 1 }
  of_recorded : ∀ reward optimized, result.1 = .recorded reward optimized →
    result.2.1.dropped = l.dropped

omit [Reward ρ] in
theorem keep_recorded (l : Learner ρ σ) (e : Experience) (reward : Float) (p : π) :
    ∃ optimized next policy, l.keep e reward p = (.recorded reward optimized, next, policy) ∧
      next.reward = l.reward ∧ next.dropped = l.dropped := by
  by_cases hc : l.buffer.length + 1 < l.capacity
  · exact ⟨false, _, _, l.keep_of_room e reward p hc, rfl, rfl⟩
  · exact ⟨true, _, _, l.keep_of_full e reward p (by omega), rfl, rfl⟩

theorem take_judged (l : Learner ρ σ) (m : Moment) (p : π) :
    let scored := Reward.score l.reward (m.experience 0)
    (∃ target, m.IsUnknown target ∧
      l.take m p = (.dropped (.unknownTarget target), l.drop, p)) ∨
    ((∀ target, ¬ m.IsUnknown target) ∧ m.IsInconsistent ∧
      l.take m p = (.dropped .inconsistentOutcome, l.drop, p)) ∨
    (m.IsSound ∧ scored.1.isFinite = false ∧
      l.take m p =
        (.dropped (.nonFiniteReward scored.1), { l with reward := scored.2 }.drop, p)) ∨
    (m.IsSound ∧ scored.1.isFinite = true ∧
      l.take m p = { l with reward := scored.2 }.keep (m.experience 0) scored.1 p) := by
  intro scored
  obtain ⟨target, hm, ha⟩ | ⟨hk, hm, ha⟩ | ⟨hm, ha⟩ := m.anomaly?_cases
  · exact .inl ⟨target, hm, by rw [take_eq, ha]⟩
  · exact .inr (.inl ⟨hk, hm, by rw [take_eq, ha]⟩)
  · cases hf : scored.1.isFinite with
    | false => exact .inr (.inr (.inl ⟨hm, rfl, by rw [take_eq, ha]; simp [scored, hf]⟩))
    | true => exact .inr (.inr (.inr ⟨hm, rfl, l.take_eq_keep m p ha rfl hf⟩))

theorem take_judges (l : Learner ρ σ) (m : Moment) (p : π) : l.Judges m p (l.take m p) := by
  obtain ⟨target, hm, he⟩ | ⟨hk, hm, he⟩ | ⟨hm, hf, he⟩ | ⟨hm, hf, he⟩ := l.take_judged m p
  · have hn : ¬ m.IsSound := fun hs => hs.known target hm
    rw [he]
    exact {
      unknown_iff := fun other => by
        constructor
        · intro h
          cases h
          exact hm
        · intro h
          rw [hm.unique h]
      inconsistent_iff := by simpa using fun h => absurd hm (h target)
      nonFinite_iff := by simp [hn]
      unasked := fun _ => rfl
      asked := fun hs => absurd hs hn
      of_dropped := fun _ _ => ⟨rfl, rfl⟩
      of_recorded := by simp }
  · have hn : ¬ m.IsSound := fun hs => hs.consistent hm
    rw [he]
    exact {
      unknown_iff := fun other => by simpa using hk other
      inconsistent_iff := by simpa using ⟨hk, hm⟩
      nonFinite_iff := by simp [hn]
      unasked := fun _ => rfl
      asked := fun hs => absurd hs hn
      of_dropped := fun _ _ => ⟨rfl, rfl⟩
      of_recorded := by simp }
  · rw [isFinite_eq_false_iff] at hf
    rw [he]
    exact {
      unknown_iff := fun other => by simpa using hm.known other
      inconsistent_iff := by simpa using fun _ => hm.consistent
      nonFinite_iff := fun reward => by
        constructor
        · intro h
          cases h
          exact ⟨hm, rfl, hf⟩
        · rintro ⟨-, rfl, -⟩
          rfl
      unasked := fun hn => absurd hm hn
      asked := fun _ => rfl
      of_dropped := fun _ _ => ⟨rfl, rfl⟩
      of_recorded := by simp }
  · obtain ⟨optimized, next, policy, hr, hc, hd⟩ :=
      { l with reward := (Reward.score l.reward (m.experience 0)).2 }.keep_recorded
        (m.experience 0) (Reward.score l.reward (m.experience 0)).1 p
    rw [he, hr]
    exact {
      unknown_iff := fun other => by simpa using hm.known other
      inconsistent_iff := by simpa using fun _ => hm.consistent
      nonFinite_iff := fun reward => by
        constructor
        · intro h
          cases h
        · rintro ⟨-, rfl, hn⟩
          rw [(isFinite_eq_false_iff _).mpr hn] at hf
          cases hf
      unasked := fun hn => absurd hm hn
      asked := fun _ => hc
      of_dropped := by simp
      of_recorded := fun _ _ _ => hd }

end Learner

namespace Reward

variable {ρ : Type} [Reward ρ]

/-- A calculator that gives experiences, one after the other, the rewards that they have. -/
def Repeats (r : ρ) : List Experience → Prop
  | [] => True
  | e :: es =>
    (score r { e with reward := 0 }).1 = e.reward ∧ Repeats (score r { e with reward := 0 }).2 es

theorem Scores.repeats {r : ρ} {score : Snapshot → Action → Outcome → Float} (h : Scores r score)
    {es : List Experience} (he : ∀ e ∈ es, e.reward = score e.snapshot e.action e.outcome) :
    Repeats r es := by
  induction es generalizing r with
  | nil => trivial
  | cons e es ih =>
    have hs := h.score { e with reward := 0 }
    exact ⟨hs.trans (he e (List.mem_cons_self ..)).symm,
      ih (h.next _) fun e' he' => he e' (List.mem_cons_of_mem _ he')⟩

end Reward

/-- Rewards that were written down, to be given one after the other. -/
structure PresetReward where
  rewards : List Float

namespace PresetReward

instance : Reward PresetReward where
  score r _ := (r.rewards.headD 0, ⟨r.rewards.tail⟩)

theorem repeats (es : List Experience) : Reward.Repeats (mk (es.map Experience.reward)) es := by
  induction es with
  | nil => trivial
  | cons e es ih => exact ⟨rfl, ih⟩

end PresetReward

def Taken.isRecorded {ρ σ : Type} (t : Taken ρ σ) : Bool := t.experience?.isSome

def Course.kept {π ρ σ : Type} (c : Course π ρ σ) : List (Taken ρ σ) :=
  c.takings.filter Taken.isRecorded

/-- Two learners that differ in what rewards them and in how much they dropped, at the most. -/
structure Learner.Alike {ρ ρ' σ : Type} (l : Learner ρ σ) (l' : Learner ρ' σ) : Prop where
  buffer_eq : l'.buffer = l.buffer
  capacity_eq : l'.capacity = l.capacity
  sink_eq : l'.sink = l.sink
  runs_eq : l'.runs = l.runs

/-- Two calls with the same moment, the same answer and learners after them that are alike. -/
structure Taken.Alike {ρ ρ' σ : Type} (t : Taken ρ σ) (t' : Taken ρ' σ) : Prop where
  moment_eq : t'.moment = t.moment
  record_eq : t'.record = t.record
  after : t.after.Alike t'.after

namespace Learner

variable {ρ ρ' σ π : Type}

def withReward (l : Learner ρ σ) (r : ρ') : Learner ρ' σ where
  buffer := l.buffer
  capacity := l.capacity
  reward := r
  sink := l.sink
  runs := l.runs
  dropped := l.dropped
  capacity_pos := l.capacity_pos

theorem alike_withReward (l : Learner ρ σ) (r : ρ') : l.Alike (l.withReward r) := ⟨rfl, rfl, rfl, rfl⟩

namespace Alike

variable {l : Learner ρ σ} {l' : Learner ρ' σ}

theorem drop (h : l.Alike l') (calculator : ρ) : { l with reward := calculator }.drop.Alike l' :=
  ⟨h.buffer_eq, h.capacity_eq, h.sink_eq, h.runs_eq⟩

/-- An experience with its reward is kept in the same way by both. -/
theorem keep [Sink σ] [Policy π] (h : l.Alike l') (calculator : ρ) (calculator' : ρ')
    (e : Experience) (reward : Float) (p : π) :
    ∃ optimized next next' policy,
      { l with reward := calculator }.keep e reward p =
        (.recorded reward optimized, next, policy) ∧
      { l' with reward := calculator' }.keep e reward p =
        (.recorded reward optimized, next', policy) ∧
      next.Alike next' ∧ next'.reward = calculator' ∧ next'.dropped = l'.dropped := by
  obtain ⟨buffer, capacity, _, sink, runs, _, _⟩ := l'
  obtain ⟨rfl, rfl, rfl, rfl⟩ := h
  by_cases hc : l.buffer.length + 1 < l.capacity
  · exact ⟨false, _, _, _, keep_of_room _ e reward p hc, keep_of_room _ e reward p hc,
      ⟨rfl, rfl, rfl, rfl⟩, rfl, rfl⟩
  · have hc : l.capacity ≤ l.buffer.length + 1 := by omega
    exact ⟨true, _, _, _, keep_of_full _ e reward p hc, keep_of_full _ e reward p hc,
      ⟨rfl, rfl, rfl, rfl⟩, rfl, rfl⟩

end Alike

end Learner

namespace Course

variable {π ρ ρ' σ : Type}

def cons (t : Taken ρ σ) (c : Course π ρ σ) : Course π ρ σ := { c with takings := t :: c.takings }

@[simp] theorem learner_cons (t : Taken ρ σ) (c : Course π ρ σ) : (cons t c).learner = c.learner :=
  rfl

@[simp] theorem kept_cons_dropped (m : Moment) (anomaly : Anomaly) (l : Learner ρ σ)
    (c : Course π ρ σ) : (cons ⟨m, .dropped anomaly, l⟩ c).kept = c.kept := rfl

@[simp] theorem kept_cons_recorded (m : Moment) (reward : Float) (optimized : Bool)
    (l : Learner ρ σ) (c : Course π ρ σ) :
    (cons ⟨m, .recorded reward optimized, l⟩ c).kept =
      ⟨m, .recorded reward optimized, l⟩ :: c.kept := rfl

/-- A second sequence of calls has what was not dropped in the first, with the same answers, and the
learners after them are alike. -/
structure Agrees (c : Course π ρ σ) (c' : Course π ρ' σ) : Prop where
  takings : List.Forall₂ Taken.Alike c.kept c'.takings
  learner : c.learner.Alike c'.learner
  policy_eq : c'.policy = c.policy

namespace Agrees

variable {c : Course π ρ σ} {c' : Course π ρ' σ}

theorem drop (h : c.Agrees c') (m : Moment) (anomaly : Anomaly) (l : Learner ρ σ) :
    (cons ⟨m, .dropped anomaly, l⟩ c).Agrees c' := ⟨h.takings, h.learner, h.policy_eq⟩

theorem keep (h : c.Agrees c') (m : Moment) (reward : Float) (optimized : Bool) {l : Learner ρ σ}
    {l' : Learner ρ' σ} (hl : l.Alike l') :
    (cons ⟨m, .recorded reward optimized, l⟩ c).Agrees
      (cons ⟨m, .recorded reward optimized, l'⟩ c') :=
  ⟨.cons ⟨rfl, rfl, hl⟩ h.takings, h.learner, h.policy_eq⟩

end Agrees

end Course

namespace Learner

variable {ρ ρ' σ π : Type} [Reward ρ] [Reward ρ'] [Sink σ] [Policy π]

theorem takeAll_of_take {l next : Learner ρ σ} {m : Moment} {p policy : π} {record : Record}
    (h : l.take m p = (record, next, policy)) (ms : List Moment) :
    l.takeAll p (m :: ms) = .cons ⟨m, record, next⟩ (next.takeAll policy ms) := by
  rw [takeAll, h]
  rfl

/-- A call changes nothing but the calculator and the count, or the experience is kept. -/
theorem take_dropped_or_kept (l : Learner ρ σ) (m : Moment) (p : π) :
    (∃ anomaly calculator,
      l.take m p = (.dropped anomaly, { l with reward := calculator }.drop, p)) ∨
    (m.IsSound ∧ ∃ reward calculator, reward.isFinite = true ∧
      l.take m p = { l with reward := calculator }.keep (m.experience 0) reward p) := by
  obtain ⟨_, -, he⟩ | ⟨-, -, he⟩ | ⟨-, -, he⟩ | ⟨hm, hf, he⟩ := l.take_judged m p
  · exact .inl ⟨_, l.reward, he⟩
  · exact .inl ⟨_, l.reward, he⟩
  · exact .inl ⟨_, _, he⟩
  · exact .inr ⟨hm, _, _, hf, he⟩

theorem dropped_add_kept (l : Learner ρ σ) (p : π) (ms : List Moment) :
    (l.takeAll p ms).learner.dropped + (l.takeAll p ms).kept.length = l.dropped + ms.length := by
  induction ms generalizing l p with
  | nil => rfl
  | cons m ms ih =>
    obtain ⟨anomaly, calculator, he⟩ | ⟨-, reward, calculator, -, he⟩ := l.take_dropped_or_kept m p
    · have hs := ih { l with reward := calculator }.drop p
      rw [takeAll_of_take he, Course.learner_cons, Course.kept_cons_dropped, hs]
      simp only [drop, List.length_cons]
      omega
    · obtain ⟨optimized, next, policy, hk, -, hd⟩ :=
        { l with reward := calculator }.keep_recorded (m.experience 0) reward p
      have hs := ih next policy
      rw [takeAll_of_take (he.trans hk), Course.learner_cons, Course.kept_cons_recorded,
        List.length_cons, List.length_cons]
      have hd : next.dropped = l.dropped := hd
      omega

/-- What was not dropped is given once more, and earns the same rewards. -/
theorem takeAll_kept {l : Learner ρ σ} {l' : Learner ρ' σ} (h : l.Alike l') (p : π)
    (ms : List Moment) (hr : Reward.Repeats l'.reward (l.takeAll p ms).recorded) :
    let c' := l'.takeAll p ((l.takeAll p ms).kept.map Taken.moment)
    (l.takeAll p ms).Agrees c' ∧ c'.learner.dropped = l'.dropped := by
  -- the learners stay alike, over a drop that only the first one makes and over a call of both
  induction ms generalizing l l' p with
  | nil => exact ⟨⟨.nil, h, rfl⟩, rfl⟩
  | cons m ms ih =>
    obtain ⟨anomaly, calculator, he⟩ | ⟨hm, reward, calculator, hf, he⟩ :=
      l.take_dropped_or_kept m p
    · rw [takeAll_of_take he] at hr ⊢
      obtain ⟨ha, hd⟩ := ih (h.drop calculator) p hr
      exact ⟨ha.drop m anomaly _, hd⟩
    · obtain ⟨optimized, next, next', policy, hk, hk', hn, hc, hd⟩ :=
        h.keep calculator (Reward.score l'.reward (m.experience 0)).2 (m.experience 0) reward p
      rw [takeAll_of_take (he.trans hk)] at hr ⊢
      -- the first reward is that of this call, and the others are those of the calls after it
      obtain ⟨hscore, hr⟩ :
          (Reward.score l'.reward (m.experience 0)).1 = reward ∧
          Reward.Repeats (Reward.score l'.reward (m.experience 0)).2
            (next.takeAll policy ms).recorded := hr
      rw [← hc] at hr
      have he' := l'.take_eq_keep m p hm.anomaly?_eq_none (Prod.ext hscore rfl) hf
      obtain ⟨ha, hd'⟩ := ih hn policy hr
      rw [Course.kept_cons_recorded, List.map_cons, takeAll_of_take (he'.trans hk')]
      exact ⟨ha.keep m reward optimized hn, hd'.trans hd⟩

/-- Whatever a learner has in its buffer and whatever calculator, sink and policy it works with: every
moment is judged, and one that is dropped changes nothing but the count of what was dropped. So given a
second time without the moments that were dropped, and with the same rewards for the others, every
sequence of calls comes to the same answers, the same learners and the same policy. This holds after each
of the calls, since the beginning of a sequence is one too; and of what is handed on, since sink and
policy can be such that they note all that they are told. -/
theorem drops_leave_no_trace (l : Learner ρ σ) (p : π) :
    (∀ m, l.Judges m p (l.take m p)) ∧
    ∀ ms,
      let c := l.takeAll p ms
      c.learner.dropped + c.kept.length = l.dropped + ms.length ∧
      Reward.Repeats (PresetReward.mk (c.recorded.map Experience.reward)) c.recorded ∧
      (∀ score, Reward.Scores l.reward score → Reward.Repeats l.reward c.recorded) ∧
      ∀ {ρ' : Type} [Reward ρ'] (r : ρ'), Reward.Repeats r c.recorded →
        let c' := (l.withReward r).takeAll p (c.kept.map Taken.moment)
        c.Agrees c' ∧ c'.learner.dropped = l.dropped := by
  refine ⟨fun m => l.take_judges m p, fun ms => ?_⟩
  intro c
  refine ⟨l.dropped_add_kept p ms, PresetReward.repeats _, fun score hs => ?_,
    fun r hr => takeAll_kept (l.alike_withReward r) p ms hr⟩
  refine hs.repeats fun e he => ?_
  obtain ⟨m, -, -, rfl⟩ := exists_of_recorded hs he
  rfl

/-- Four moments with room for two experiences: with one of them in the buffer, one gets an infinite
reward and one has no element to click on, and so the last one fills the buffer. -/
theorem drops_leave_no_trace_between :
    let ms : List Moment := [
      ⟨{}, .empty, .noOp, .success⟩,
      ⟨{}, .empty, .wait 250, .success⟩,
      ⟨{}, .empty, .click (.byId "send" 0), .success⟩,
      ⟨{}, .empty, .scroll .down, .success⟩]
    let policy := RulePolicy.ofGoal ⟨[]⟩
    let l := ofCapacity 2 (PresetReward.mk [0.5, 1 / 0, 0.25]) (some ({} : Archive))
    let c := l.takeAll policy ms
    let c' := (l.withReward (PresetReward.mk [0.5, 0.25])).takeAll policy (c.kept.map Taken.moment)
    c.kept.map (fun t => t.moment.action) = [.noOp, .scroll .down] ∧
    c.learner.dropped = 2 ∧ c.learner.runs = 1 ∧ c.Agrees c' ∧ c'.learner.dropped = 0 := by
  intro ms policy l c c'
  have hk : c.kept.map (fun t => t.moment.action) = [.noOp, .scroll .down] := by decide +kernel
  have hl : c.learner.dropped = 2 ∧ c.learner.runs = 1 := by decide +kernel
  have hr : c.recorded.map Experience.reward = [0.5, 0.25] := by decide +kernel
  obtain ⟨-, hall⟩ := drops_leave_no_trace l policy
  obtain ⟨-, hscript, -, hagree⟩ := hall ms
  rw [show (l.takeAll policy ms).recorded.map Experience.reward = [0.5, 0.25] from hr] at hscript
  exact ⟨hk, hl.1, hl.2, hagree _ hscript⟩

end Learner

end ScreenAgent
