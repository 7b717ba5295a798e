import Rehearsal.Scenario.Inquiry

/-!
# Valid configurations

Every way to a configuration goes through the same check, so none that can be reached has a timeout
of zero or a grace that is longer than its timeout. Changing both bounds one after the other passes
through a configuration that is checked, too, and may be refused there; but from a valid one either
the longer grace or the longer timeout can be set first, and then the other.
-/

namespace Rehearsal

theorem Duration.zero_lt_iff {d : Duration} : zero < d ↔ d ≠ zero := by
  obtain ⟨n, bounded⟩ := d
  show 0 < n ↔ _
  simp [zero, Nat.pos_iff_ne_zero]

theorem Duration.not_lt {a b : Duration} : ¬ a < b ↔ b ≤ a := Nat.not_lt

namespace Config

/-- A run of this configuration has some time, and the grace is part of it. -/
structure Valid (c : Config) : Prop where
  positive : Duration.zero < c.timeout
  grace_le : c.failureGrace ≤ c.timeout

/-- The configurations that come with the library. -/
def presets : List Config := [default, fast, patient]

theorem valid_of_mem_presets {c : Config} (h : c ∈ presets) : c.Valid := by
  simp only [presets, List.mem_cons, List.not_mem_nil, or_false] at h
  rcases h with rfl | rfl | rfl <;> constructor <;> decide

/-- The check admits exactly the valid configurations. -/
theorem new_eq_ok_iff {timeout grace : Duration} {c : Config} :
    new timeout grace = .ok c ↔ c = ⟨timeout, grace⟩ ∧ c.Valid := by
  have valid : (⟨timeout, grace⟩ : Config).Valid ↔ timeout ≠ .zero ∧ ¬ timeout < grace := by
    rw [← Duration.zero_lt_iff, Duration.not_lt]
    exact ⟨fun h => ⟨h.positive, h.grace_le⟩, fun h => ⟨h.1, h.2⟩⟩
  unfold new
  by_cases none : timeout = .zero
  · rw [if_pos none]
    constructor
    · intro made
      cases made
    · rintro ⟨rfl, h⟩
      exact absurd none (valid.mp h).1
  · rw [if_neg none]
    by_cases long : timeout < grace
    · rw [if_pos long]
      constructor
      · intro made
        cases made
      · rintro ⟨rfl, h⟩
        exact absurd long (valid.mp h).2
    · rw [if_neg long, Except.ok.injEq]
      constructor
      · rintro rfl
        exact ⟨rfl, valid.mpr ⟨none, long⟩⟩
      · rintro ⟨rfl, -⟩
        rfl

/-- What can be reached from the presets by setting bounds, also by way of the environment. -/
inductive Reached : Config → Prop where
  | preset {c : Config} (known : c ∈ presets) : Reached c
  | new {timeout grace : Duration} {c : Config} (made : new timeout grace = .ok c) : Reached c
  | withTimeout {c c' : Config} {timeout : Duration} (before : Reached c)
      (made : c.withTimeout timeout = .ok c') : Reached c'
  | withFailureGrace {c c' : Config} {grace : Duration} (before : Reached c)
      (made : c.withFailureGrace grace = .ok c') : Reached c'
  | fromEnvironment {value : Option ByteArray} {c : Config}
      (made : fromEnvironment value = .ok c) : Reached c

/-- The timeout of the environment is checked like any other. -/
theorem valid_of_override {c c' : Config} {raw : String} (made : c.override raw = .ok c') :
    c'.Valid := by
  unfold override at made
  cases read : milliseconds? raw with
  | none =>
    rw [read] at made
    cases made
  | some millis =>
    rw [read] at made
    exact (new_eq_ok_iff.mp made).2

theorem valid_of_fromEnvironment {value : Option ByteArray} {c : Config}
    (made : Config.fromEnvironment value = .ok c) : c.Valid := by
  unfold Config.fromEnvironment at made
  cases read : value.bind String.fromUTF8? with
  | none =>
    rw [read] at made
    cases made
    exact valid_of_mem_presets (List.mem_cons_self ..)
  | some raw =>
    rw [read] at made
    exact valid_of_override made

/-- **Whatever is reached is valid.** -/
theorem Reached.valid {c : Config} (h : c.Reached) : c.Valid := by
  cases h with
  | preset known => exact valid_of_mem_presets known
  | new made => exact (new_eq_ok_iff.mp made).2
  | withTimeout _ made => exact (new_eq_ok_iff.mp made).2
  | withFailureGrace _ made => exact (new_eq_ok_iff.mp made).2
  | fromEnvironment made => exact valid_of_fromEnvironment made

/-! ## Setting both bounds -/

/-- Sets the timeout first. -/
def timeoutFirst (c : Config) (timeout grace : Duration) : Except Fault Config := do
  (← c.withTimeout timeout).withFailureGrace grace

/-- Sets the grace first. -/
def graceFirst (c : Config) (timeout grace : Duration) : Except Fault Config := do
  (← c.withFailureGrace grace).withTimeout timeout

variable {c c' : Config} {timeout grace : Duration}

/-- The timeout can be set first if it is not shorter than the grace from before. -/
theorem timeoutFirst_eq_ok_iff : c.timeoutFirst timeout grace = .ok c' ↔
    new timeout c.failureGrace = .ok ⟨timeout, c.failureGrace⟩ ∧ new timeout grace = .ok c' := by
  unfold timeoutFirst withTimeout
  cases first : new timeout c.failureGrace with
  | error fault => simp [bind, Except.bind]
  | ok c₁ =>
    obtain ⟨rfl, -⟩ := new_eq_ok_iff.mp first
    simp [bind, Except.bind, withFailureGrace]

/-- The grace can be set first if it is not longer than the timeout from before. -/
theorem graceFirst_eq_ok_iff : c.graceFirst timeout grace = .ok c' ↔
    new c.timeout grace = .ok ⟨c.timeout, grace⟩ ∧ new timeout grace = .ok c' := by
  unfold graceFirst withFailureGrace
  cases first : new c.timeout grace with
  | error fault => simp [bind, Except.bind]
  | ok c₁ =>
    obtain ⟨rfl, -⟩ := new_eq_ok_iff.mp first
    simp [bind, Except.bind, withTimeout]

/-- From a valid configuration one of the two orders works for all bounds that are valid. -/
theorem Valid.set_both (h : c.Valid) (made : new timeout grace = .ok c') :
    c.timeoutFirst timeout grace = .ok c' ∨ c.graceFirst timeout grace = .ok c' := by
  obtain ⟨rfl, positive, grace_le⟩ := new_eq_ok_iff.mp made
  by_cases room : c.failureGrace ≤ timeout
  · left
    rw [timeoutFirst_eq_ok_iff]
    exact ⟨new_eq_ok_iff.mpr ⟨rfl, positive, room⟩, made⟩
  · right
    rw [graceFirst_eq_ok_iff]
    -- The grace from before is longer than the new timeout, so the timeout from before is, too.
    have shorter : grace ≤ c.timeout :=
      Nat.le_trans grace_le (Nat.le_trans (Nat.le_of_not_le room) h.grace_le)
    exact ⟨new_eq_ok_iff.mpr ⟨rfl, h.positive, shorter⟩, made⟩

end Config

/-! ## Chains of steps -/

namespace ConfigStep

/-- A step that takes no configuration from elsewhere. -/
def Proper : ConfigStep → Prop
  | preset c => c ∈ Config.presets
  | _ => True

variable {c c' : Config} {step : ConfigStep}

theorem reached_of_apply (reached : c.Reached) (proper : step.Proper)
    (made : step.apply c = .ok c') : c'.Reached := by
  cases step with
  | preset p =>
    cases made
    exact .preset proper
  | new timeout grace => exact .new made
  | withTimeout timeout => exact .withTimeout reached made
  | withFailureGrace grace => exact .withFailureGrace reached made
  | fromEnvironment value => exact .fromEnvironment made

/-- All configurations that a chain of steps reports are reached. -/
theorem reached_of_reports (reached : c.Reached) {steps : List ConfigStep}
    (proper : ∀ step ∈ steps, step.Proper) {same : Bool}
    (reported : .ok (c', same) ∈ reports c steps) : c'.Reached := by
  induction steps generalizing c with
  | nil => cases reported
  | cons step steps ih =>
    have others := fun s hs => proper s (List.mem_cons_of_mem _ hs)
    rw [reports] at reported
    cases made : step.apply c with
    | ok next =>
      rw [made] at reported
      have here := reached_of_apply reached (proper step (List.mem_cons_self ..)) made
      rcases List.mem_cons.mp reported with now | later
      · cases now
        exact here
      · exact ih here others later
    | error fault =>
      rw [made] at reported
      rcases List.mem_cons.mp reported with now | later
      · cases now
      · exact ih reached others later

/-- A step that fails might as well be left out. -/
theorem reports_eraseIdx {steps : List ConfigStep} {k : Nat} {fault : Config.Fault}
    (failed : (reports c steps)[k]? = some (.error fault)) :
    reports c (steps.eraseIdx k) = (reports c steps).eraseIdx k := by
  induction steps generalizing c k with
  | nil => cases failed
  | cons step steps ih =>
    rw [reports] at failed ⊢
    cases made : step.apply c with
    | ok next =>
      rw [made] at failed
      cases k with
      | zero => cases failed
      | succ k =>
        rw [List.eraseIdx_cons_succ, reports, made]
        simp [ih failed]
    | error fault' =>
      rw [made] at failed
      cases k with
      | zero => rfl
      | succ k =>
        rw [List.eraseIdx_cons_succ, reports, made]
        simp [ih failed]

end ConfigStep

/-- **Configurations stay valid and setters compose.** Whatever is reached from the presets by
setting bounds has a positive timeout and a grace that is not longer. From there, two bounds are
admitted together if and only if they can be set one after the other in one of the two orders, and
an order that works gives these bounds. In a chain of steps, all that is reported is reached, and a
step that fails changes nothing: without it all other reports are the same. -/
theorem Config.Reached.setters_compose {c : Config} (h : c.Reached) :
    (Duration.zero < c.timeout ∧ c.failureGrace ≤ c.timeout) ∧
    (∀ timeout grace,
      ((∃ c', Config.new timeout grace = .ok c') ↔
        (∃ c', c.timeoutFirst timeout grace = .ok c') ∨
          ∃ c', c.graceFirst timeout grace = .ok c') ∧
      ∀ c', c.timeoutFirst timeout grace = .ok c' ∨ c.graceFirst timeout grace = .ok c' →
        Config.new timeout grace = .ok c' ∧ c' = ⟨timeout, grace⟩) ∧
    ∀ steps : List ConfigStep,
      ((∀ step ∈ steps, step.Proper) → ∀ c' same, .ok (c', same) ∈ ConfigStep.reports c steps →
        c'.Reached ∧ Duration.zero < c'.timeout ∧ c'.failureGrace ≤ c'.timeout) ∧
      ∀ k fault, (ConfigStep.reports c steps)[k]? = some (.error fault) →
        ConfigStep.reports c (steps.eraseIdx k) = (ConfigStep.reports c steps).eraseIdx k := by
  have sound : ∀ timeout grace c',
      c.timeoutFirst timeout grace = .ok c' ∨ c.graceFirst timeout grace = .ok c' →
        Config.new timeout grace = .ok c' := by
    intro timeout grace c' set
    rw [timeoutFirst_eq_ok_iff, graceFirst_eq_ok_iff] at set
    rcases set with ⟨-, made⟩ | ⟨-, made⟩ <;> exact made
  have valid := h.valid
  refine ⟨⟨valid.positive, valid.grace_le⟩, ?_, ?_⟩
  · intro timeout grace
    refine ⟨⟨?_, ?_⟩, fun c' set => ?_⟩
    · rintro ⟨c', made⟩
      exact (valid.set_both made).imp (fun set => ⟨c', set⟩) fun set => ⟨c', set⟩
    · rintro (⟨c', set⟩ | ⟨c', set⟩)
      · exact ⟨c', sound _ _ _ (.inl set)⟩
      · exact ⟨c', sound _ _ _ (.inr set)⟩
    · have made := sound _ _ _ set
      exact ⟨made, (new_eq_ok_iff.mp made).1⟩
  · intro steps
    refine ⟨fun proper c' same reported => ?_, fun k fault failed => ?_⟩
    · have reached := ConfigStep.reached_of_reports h proper reported
      exact ⟨reached, reached.valid.positive, reached.valid.grace_le⟩
    · exact ConfigStep.reports_eraseIdx failed

/-- The patient configuration with little more time than grace. -/
def Config.tight : Config := ⟨.ofMilliseconds 6000, patient.failureGrace⟩

/-- Two seconds are too short for the grace from before, fifty of grace too long for the timeout. -/
theorem Config.setters_compose_tight : tight.Reached ∧
    ((¬∃ c', tight.timeoutFirst (.ofParts 2 0) (.ofParts 1 0) = .ok c') ∧
      ∃ c', tight.graceFirst (.ofParts 2 0) (.ofParts 1 0) = .ok c') ∧
    (¬∃ c', tight.graceFirst (.ofParts 60 0) (.ofParts 50 0) = .ok c') ∧
      ∃ c', tight.timeoutFirst (.ofParts 60 0) (.ofParts 50 0) = .ok c' := by
  have reached : tight.Reached := by
    have made : patient.withTimeout (.ofMilliseconds 6000) = .ok tight :=
      new_eq_ok_iff.mpr ⟨rfl, by decide, by decide⟩
    exact .withTimeout (.preset (by decide)) made
  obtain ⟨-, both, -⟩ := reached.setters_compose
  have short : ¬∃ c', tight.timeoutFirst (.ofParts 2 0) (.ofParts 1 0) = .ok c' := by
    rintro ⟨c', set⟩
    have first := (timeoutFirst_eq_ok_iff.mp set).1
    exact absurd (new_eq_ok_iff.mp first).2.grace_le (by decide)
  have long : ¬∃ c', tight.graceFirst (.ofParts 60 0) (.ofParts 50 0) = .ok c' := by
    rintro ⟨c', set⟩
    have first := (graceFirst_eq_ok_iff.mp set).1
    exact absurd (new_eq_ok_iff.mp first).2.grace_le (by decide)
  refine ⟨reached, ⟨short, ?_⟩, long, ?_⟩
  · have made : ∃ c', new (.ofParts 2 0) (.ofParts 1 0) = .ok c' :=
      ⟨_, new_eq_ok_iff.mpr ⟨rfl, by decide, by decide⟩⟩
    exact ((both _ _).1.mp made).resolve_left short
  · have made : ∃ c', new (.ofParts 60 0) (.ofParts 50 0) = .ok c' :=
      ⟨_, new_eq_ok_iff.mpr ⟨rfl, by decide, by decide⟩⟩
    exact ((both _ _).1.mp made).resolve_right long

end Rehearsal
