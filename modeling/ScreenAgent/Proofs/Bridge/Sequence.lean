import ScreenAgent.Proofs.Bridge.Transcript

namespace ScreenAgent

def Completed (attempts : List Attempt) : Prop := ∀ a ∈ attempts, a.succeeded = true

instance (attempts : List Attempt) : Decidable (Completed attempts) :=
  inferInstanceAs (Decidable (∀ a ∈ attempts, _))

namespace Bridge

variable {α β : Type} {device : Option String}

/-- Attempts at the commands of a line, in their order and up to the first that fails; `stop` is the
error of that one. -/
inductive Follows (device : Option String) :
    (line : List (List String)) → (attempts : List Attempt) → (stop : Option BridgeError) → Prop
  | done : Follows device [] [] none
  | failed {c : List String} {line : List (List String)} {answer : Except LaunchError Reply}
      {e : BridgeError} (h : verdict c answer = .error e) :
      Follows device (c :: line) [⟨addressed device c, answer⟩] (some e)
  | went {c : List String} {line : List (List String)} {answer : Except LaunchError Reply}
      {out : List Char} {attempts : List Attempt} {stop : Option BridgeError}
      (h : verdict c answer = .ok out) (hr : Follows device line attempts stop) :
      Follows device (c :: line) (⟨addressed device c, answer⟩ :: attempts) stop

namespace Follows

variable {line line' : List (List String)} {attempts attempts' : List Attempt}
  {stop : Option BridgeError} {e : BridgeError} {c : List String}

theorem nil_iff : Follows device [] attempts stop ↔ attempts = [] ∧ stop = none := by
  constructor
  · rintro ⟨⟩
    exact ⟨rfl, rfl⟩
  · rintro ⟨rfl, rfl⟩
    exact .done

theorem singleton (h : Follows device [c] attempts stop) :
    ∃ answer, attempts = [⟨addressed device c, answer⟩] := by
  cases h with
  | failed hv => exact ⟨_, rfl⟩
  | went hv hr =>
    obtain ⟨rfl, -⟩ := nil_iff.mp hr
    exact ⟨_, rfl⟩

theorem append (h : Follows device line attempts none) (h' : Follows device line' attempts' stop) :
    Follows device (line ++ line') (attempts ++ attempts') stop := by
  generalize hn : (none : Option BridgeError) = s at h
  induction h with
  | done => exact h'
  | failed => cases hn
  | went hv hr ih => exact .went hv (ih hn)

/-- Commands behind one that has failed are not attempted. -/
theorem append_failed (h : Follows device line attempts (some e)) (line' : List (List String)) :
    Follows device (line ++ line') attempts (some e) := by
  generalize hs : some e = s at h
  induction h with
  | done => cases hs
  | failed hv =>
    obtain rfl := Option.some.inj hs
    exact .failed hv
  | went hv hr ih => exact .went hv (ih hs)

theorem completed_iff (h : Follows device line attempts stop) :
    Completed attempts ↔ stop = none := by
  induction h with
  | done => simp [Completed]
  | failed hv => simp [Completed, not_succeeded_of_verdict hv]
  | went hv hr ih =>
    rw [← ih, Completed, List.forall_mem_cons]
    exact and_iff_right (succeeded_of_verdict _ hv).1

theorem map_arguments (h : Follows device line attempts none) :
    attempts.map Attempt.arguments = line.map (addressed device) := by
  generalize hn : (none : Option BridgeError) = s at h
  induction h with
  | done => rfl
  | failed => cases hn
  | went hv hr ih => rw [List.map_cons, List.map_cons, ih hn]

theorem map_arguments_prefix (h : Follows device line attempts stop) :
    attempts.map Attempt.arguments <+: line.map (addressed device) := by
  induction h with
  | done => exact List.prefix_rfl
  | failed hv => exact ⟨_, rfl⟩
  | went hv hr ih => exact (List.prefix_cons_inj _).mpr ih

theorem exists_mem (h : Follows device line attempts stop) {a : Attempt} (ha : a ∈ attempts) :
    ∃ c ∈ line, a.arguments = addressed device c := by
  induction h with
  | done => cases ha
  | failed hv =>
    obtain rfl := List.mem_singleton.mp ha
    exact ⟨_, List.mem_cons_self, rfl⟩
  | went hv hr ih =>
    obtain rfl | ha := List.mem_cons.mp ha
    · exact ⟨_, List.mem_cons_self, rfl⟩
    · obtain ⟨c, hc, hac⟩ := ih ha
      exact ⟨c, List.mem_cons_of_mem _ hc, hac⟩

theorem not_mem (h : Follows device line attempts stop) (hc : c ∉ line) {a : Attempt}
    (hac : a.arguments = addressed device c) : a ∉ attempts := by
  intro ha
  obtain ⟨d, hd, had⟩ := h.exists_mem ha
  obtain rfl := addressed_inj.mp (hac.symm.trans had)
  exact hc hd

theorem eq_cons (h : Follows device (c :: line) attempts stop) (hc : c ∉ line) {a : Attempt}
    (ha : a ∈ attempts) (hac : a.arguments = addressed device c) :
    ∃ rest, attempts = a :: rest ∧ (a.succeeded = false → rest = []) := by
  cases h with
  | failed hv =>
    obtain rfl := List.mem_singleton.mp ha
    exact ⟨[], rfl, fun _ => rfl⟩
  | went hv hr =>
    obtain rfl | ha := List.mem_cons.mp ha
    · refine ⟨_, rfl, fun hs => ?_⟩
      rw [(succeeded_of_verdict _ hv).1] at hs
      cases hs
    · exact absurd ha (hr.not_mem hc hac)

theorem stop_eq_none (h : Follows device (line ++ [c]) attempts stop) (hc : c ∉ line) {a : Attempt}
    (ha : a ∈ attempts) (hac : a.arguments = addressed device c) (hs : a.succeeded = true) :
    stop = none := by
  generalize hl : line ++ [c] = whole at h
  induction h generalizing line with
  | done => cases ha
  | failed hv =>
    obtain rfl := List.mem_singleton.mp ha
    rw [not_succeeded_of_verdict hv] at hs
    cases hs
  | @went d rest answer out attempts stop hv hr ih =>
    cases line with
    | nil =>
      obtain ⟨rfl, rfl⟩ := List.cons.inj hl
      exact (nil_iff.mp hr).2
    | cons b line =>
      obtain ⟨rfl, hrest⟩ := List.cons.inj hl
      obtain ⟨hb, hc⟩ := not_or.mp (mt List.mem_cons.mpr hc)
      obtain rfl | ha := List.mem_cons.mp ha
      · exact absurd (addressed_inj.mp hac).symm hb
      · exact ih hc ha hrest

end Follows

/-- What comes of commands that may have stopped, if there is a value once they are all done. -/
def ending (value : α) : Option BridgeError → Except Mishap α
  | none => .ok value
  | some e => .error (.failed e)

/-- Work that consists of the commands of a line and has a value once they are all done. -/
def Keeps (device : Option String) (line : List (List String)) (b : Bridge α) (value : α) : Prop :=
  ∀ runs r, b.outcome.Runs runs r → ∃ attempts stop, Launched attempts runs ∧
    Follows device line attempts stop ∧ r = ending value stop

theorem keeps_pure (a : α) : Keeps device [] (pure a) a := by
  intro runs r h
  obtain ⟨rfl, rfl⟩ := runs_pure h
  exact ⟨[], none, .nil, .done, rfl⟩

theorem Keeps.bind {line line' : List (List String)} {b : Bridge α} {f : α → Bridge β} {a : α}
    {value : β} (hb : Keeps device line b a) (hf : Keeps device line' (f a) value) :
    Keeps device (line ++ line') (b >>= f) value := by
  intro runs r h
  obtain ⟨e, hr, rfl⟩ | ⟨before, a, after, rfl, hr, hrest⟩ := runs_bind h
  · obtain ⟨attempts, stop, hl, hfollows, hstop⟩ := hb runs _ hr
    cases stop with
    | none => cases hstop
    | some e =>
      cases hstop
      exact ⟨attempts, some e, hl, hfollows.append_failed line', rfl⟩
  · obtain ⟨attempts, stop, hl, hfollows, hstop⟩ := hb before _ hr
    cases stop with
    | none =>
      cases hstop
      obtain ⟨attempts', stop', hl', hfollows', hstop'⟩ := hf after _ hrest
      exact ⟨attempts ++ attempts', stop', hl.append hl', hfollows.append hfollows', hstop'⟩
    | some e => cases hstop

theorem keeps_command (c : List String) :
    Keeps device [c] (command device c >>= fun _ => pure ()) () := by
  intro runs r h
  obtain ⟨m, hr, rfl⟩ | ⟨before, out, after, rfl, hr, hrest⟩ := runs_bind h
  · obtain ⟨answer, e, hl, hv, rfl⟩ := runs_command_error hr
    exact ⟨_, some e, hl, .failed hv, rfl⟩
  · obtain ⟨answer, hl, hv⟩ := runs_command_ok hr
    obtain ⟨rfl, rfl⟩ := runs_pure hrest
    exact ⟨_, none, hl.append .nil, .went hv .done, rfl⟩

end Bridge

end ScreenAgent
