import ScreenAgent.CommandLine.Options

namespace ScreenAgent.CommandLine

inductive Role
  | option
  /-- It belongs to the option before it, whatever it looks like. -/
  | value
  | step
deriving DecidableEq

/-- The role of an argument by its form, unless it is a value. -/
def Role.of (isValue : Bool) (argument : String) : Role :=
  if isValue then .value else if isOption argument then .option else .step

/-- The roles of arguments, the first of which may be a value. -/
def rolesFrom (isValue : Bool) : List String → List (String × Role)
  | [] => []
  | a :: r =>
    (a, .of isValue a) :: rolesFrom ((a, Role.of isValue a) = ("--connect", .option)) r

def roles (arguments : List String) : List (String × Role) := rolesFrom false arguments

theorem map_fst_rolesFrom (isValue : Bool) (arguments : List String) :
    (rolesFrom isValue arguments).map Prod.fst = arguments := by
  induction arguments generalizing isValue with
  | nil => rfl
  | cons a r ih => rw [rolesFrom, List.map_cons, ih]

theorem Role.of_eq_value_iff {isValue : Bool} {a : String} :
    Role.of isValue a = .value ↔ isValue = true := by
  cases isValue with
  | true => simp [Role.of]
  | false => cases h : isOption a <;> simp [Role.of, h]

theorem Role.of_eq_option_iff {isValue : Bool} {a : String} (h : Role.of isValue a ≠ .value) :
    Role.of isValue a = .option ↔ isOption a = true := by
  have hv : isValue = false := by simpa [Role.of_eq_value_iff] using h
  cases ho : isOption a <;> simp [Role.of, hv, ho]

/-- A value is told by what stands before it, and any other argument by its form. -/
theorem role_of_getElem? {isValue : Bool} {arguments : List String} {i : Nat} {a : String}
    {role : Role} (h : (rolesFrom isValue arguments)[i]? = some (a, role)) :
    (role = .value ↔ i = 0 ∧ isValue = true ∨
      ∃ j, i = j + 1 ∧ (rolesFrom isValue arguments)[j]? = some ("--connect", .option)) ∧
    (role ≠ .value → (role = .option ↔ isOption a = true)) := by
  induction arguments generalizing isValue i with
  | nil => simp [rolesFrom] at h
  | cons b r ih =>
    rw [rolesFrom] at h ⊢
    cases i with
    | zero =>
      obtain ⟨rfl, rfl⟩ := Prod.mk.inj (Option.some.inj h)
      exact ⟨by simp [Role.of_eq_value_iff], Role.of_eq_option_iff⟩
    | succ i =>
      obtain ⟨hv, hr⟩ := ih h
      refine ⟨hv.trans ?_, hr⟩
      cases i <;> simp

theorem isOption_of_step {isValue : Bool} {arguments : List String} {a : String}
    (h : (a, .step) ∈ rolesFrom isValue arguments) : isOption a = false := by
  obtain ⟨i, hi⟩ := List.mem_iff_getElem?.mp h
  have hr := (role_of_getElem? hi).2 (by decide)
  exact Bool.eq_false_iff.mpr fun ho => Role.noConfusion (hr.mpr ho)

theorem rolesFrom_connect (r : List String) :
    rolesFrom false ("--connect" :: r) = ("--connect", .option) :: rolesFrom true r := by
  have ho : isOption "--connect" = true := by decide
  simp [rolesFrom, Role.of, ho]

theorem rolesFrom_ne {a : String} (ha : a ≠ "--connect") (isValue : Bool) (r : List String) :
    rolesFrom isValue (a :: r) = (a, .of isValue a) :: rolesFrom false r := by
  simp [rolesFrom, ha]

theorem rolesFrom_value (a : String) (r : List String) :
    rolesFrom true (a :: r) = (a, .value) :: rolesFrom false r := by
  simp [rolesFrom, Role.of]

theorem goalSteps_eq (arguments : List String) :
    goalSteps arguments = ((roles arguments).filter fun p => p.2 = .step).map Prod.fst := by
  rw [roles]
  fun_induction goalSteps arguments with
  | case1 => rfl
  | case2 a ho | case3 a ho => simp [rolesFrom, Role.of, ho]
  | case4 b r ih =>
    rw [rolesFrom_connect, rolesFrom_value]
    simpa using ih
  | case5 a b r hc ho ih | case6 a b r hc ho ih =>
    rw [rolesFrom_ne hc]
    simpa [Role.of, ho] using ih

theorem flagValue?_eq (arguments : List String) :
    flagValue? "--connect" arguments =
      ((roles arguments).find? fun p => p.2 = .value).map Prod.fst := by
  rw [roles]
  induction arguments with
  | nil => rfl
  | cons a r ih =>
    rw [flagValue?]
    by_cases ha : a = "--connect"
    · subst ha
      rw [if_pos rfl, rolesFrom_connect]
      cases r with
      | nil => rfl
      | cons b r => simp [rolesFrom_value]
    · have hv : Role.of false a ≠ .value := by simp [Role.of_eq_value_iff]
      rw [if_neg ha, ih, rolesFrom_ne ha]
      simp [hv]

/-- A word that has the form of an option is no step wherever it stands. -/
theorem contains_iff {f : String} (hf : isOption f = true) (arguments : List String) :
    arguments.contains f = true ↔
      (f, .option) ∈ roles arguments ∨ (f, .value) ∈ roles arguments := by
  have hm := map_fst_rolesFrom false arguments
  rw [List.contains_iff_mem]
  constructor
  · intro h
    rw [← hm] at h
    obtain ⟨⟨_, role⟩, hr, rfl⟩ := List.mem_map.mp h
    cases role with
    | option => exact .inl hr
    | value => exact .inr hr
    | step => exact absurd hf (by simp [isOption_of_step hr])
  · rintro (h | h)
    · exact hm ▸ List.mem_map_of_mem h
    · exact hm ▸ List.mem_map_of_mem h

/-- Whatever the arguments: each has one role, which is that of a value exactly if `--connect` stands
before it as an option, and otherwise depends on its form. The address is the first value. The steps are
the arguments with that role, in order, and no option is among them. A flag is read if it stands as an
option, and it is read as well if it stands as a value. -/
theorem reads_roles (arguments : List String) :
    (roles arguments).map Prod.fst = arguments ∧
    let options := Options.ofArguments arguments
    let rs := roles arguments
    (∀ i a role, rs[i]? = some (a, role) →
      (role = .value ↔ ∃ j, i = j + 1 ∧ rs[j]? = some ("--connect", .option)) ∧
      (role ≠ .value → (role = .option ↔ isOption a = true))) ∧
    options.connect = (rs.find? fun p => p.2 = .value).map Prod.fst ∧
    options.steps = (rs.filter fun p => p.2 = .step).map Prod.fst ∧
    (∀ a ∈ options.steps, isOption a = false) ∧
    (options.dump = true ↔ ("--dump", .option) ∈ rs ∨ ("--dump", .value) ∈ rs) ∧
    (options.listDevices = true ↔
      ("--list-devices", .option) ∈ rs ∨ ("--list-devices", .value) ∈ rs) ∧
    (options.saveSettings = true ↔
      ("--save-settings", .option) ∈ rs ∨ ("--save-settings", .value) ∈ rs) := by
  refine ⟨map_fst_rolesFrom false arguments, ?_⟩
  intro options rs
  have hsteps : options.steps = (rs.filter fun p => p.2 = .step).map Prod.fst :=
    goalSteps_eq arguments
  refine ⟨fun i a role h => ?_, flagValue?_eq arguments, hsteps, fun a ha => ?_,
    contains_iff (by decide) arguments, contains_iff (by decide) arguments,
    contains_iff (by decide) arguments⟩
  · obtain ⟨hv, hr⟩ := role_of_getElem? h
    refine ⟨hv.trans ?_, hr⟩
    simp [rs, roles]
  · rw [hsteps] at ha
    obtain ⟨⟨_, role⟩, hm, rfl⟩ := List.mem_map.mp ha
    obtain ⟨hm, hs⟩ := List.mem_filter.mp hm
    obtain rfl : role = .step := by simpa using hs
    exact isOption_of_step hm

/-- The address is the word of a flag, and the flag is read though it does not stand as an option. -/
theorem address_read_as_flag :
    let arguments := ["--connect", "--list-devices"]
    let options := Options.ofArguments arguments
    roles arguments = [("--connect", .option), ("--list-devices", .value)] ∧
      options.connect = some "--list-devices" ∧ options.listDevices = true := by
  decide

end ScreenAgent.CommandLine
