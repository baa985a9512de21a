import Scout.Proofs.Run.Executions

/-!
# Faults of actions

An action fails with an action failure alone, but for one fault: a delay between
attempts that no double can hold is out of range where nothing takes it up.  Without
it an optional action never fails, and when its result is a failure it leaves one
warning of its own.
-/

namespace Scout

open Relation Exec

/-! ## Delays -/

/-- The policy has no delay between attempts, or one with a number of seconds. -/
def ErrorPolicy.IsPausable (p : ErrorPolicy) : Prop :=
  p.retryDelay ≤ 0 ∨ ∃ s, secondsOfMillis p.retryDelay = .ok s

theorem ErrorPolicy.not_isPausable_iff {p : ErrorPolicy} :
    ¬ p.IsPausable ↔
      0 < p.retryDelay ∧ secondsOfMillis p.retryDelay = .error .quotientTooLarge := by
  unfold IsPausable secondsOfMillis
  by_cases finite : Decimal.isFinite
      (Decimal.nearest (decide (p.retryDelay < 0)) p.retryDelay.natAbs (-3)) <;>
    simp [finite, Fault.quotientTooLarge]

theorem fault_of_secondsOfMillis {n : Int} {e : Fault} (h : secondsOfMillis n = .error e) :
    e = .quotientTooLarge := by
  unfold secondsOfMillis at h
  dsimp only at h
  split at h <;> cases h
  rfl

theorem Fault.isOfAction_within (e : Fault) (id : String) : (e.within id).isOfAction = true := by
  unfold within
  split
  · assumption
  · rfl

/-! ## Warnings of an action -/

/-- The warnings that come in the course of an action: names without a value, and failures of
the optional actions inside. -/
def Action.WarnsInside (a : Action) (w w' : World) : Prop :=
  ∃ added, w'.context.warnings = w.context.warnings ++ added ∧
    ∀ m ∈ added, (∃ id name, m = unresolvedWarning id name) ∨
      ∃ (b : Action) (text : String), b.Inside a ∧ m = optionalWarning b.id text

namespace Action.WarnsInside

variable {a b : Action} {w w₁ w₂ : World}

theorem of_eq (h : w₁.context.warnings = w.context.warnings) : a.WarnsInside w w₁ :=
  ⟨[], by simpa using h, by simp⟩

theorem trans (first : a.WarnsInside w w₁) (second : a.WarnsInside w₁ w₂) :
    a.WarnsInside w w₂ := by
  obtain ⟨added, warnings, known⟩ := first
  obtain ⟨more, warnings', known'⟩ := second
  refine ⟨added ++ more, by rw [warnings', warnings, List.append_assoc], ?_⟩
  intro m hm
  exact (List.mem_append.mp hm).elim (known m) (known' m)

theorem mono (inside : b.Inside a) : b.WarnsInside ≤ a.WarnsInside := by
  rintro w w' ⟨added, warnings, known⟩
  refine ⟨added, warnings, fun m hm => (known m hm).imp_right ?_⟩
  rintro ⟨c, text, inner, rfl⟩
  exact ⟨c, text, inner.trans inside, rfl⟩

theorem of_timely (a : Action) : World.Timely ≤ a.WarnsInside := by
  intro w w' h
  cases h with
  | unresolved id name =>
    exact ⟨[unresolvedWarning id name], rfl, by simp⟩
  | paused seconds =>
    refine of_eq ?_
    unfold World.listedPause
    split <;> rfl
  | _ => exact of_eq rfl

theorem of_changes (h : ReflTransGen a.WarnsInside w w₁) : a.WarnsInside w w₁ := by
  induction h with
  | refl => exact of_eq rfl
  | tail _ last ih => exact ih.trans last

end Action.WarnsInside

theorem Execution.warnsInside {g : Setting} {a b : Action} {depth : Int} {w w' : World}
    {out : Outcome ActionResult} (inside : b.Inside a)
    (h : Execution g b.WarnsInside b.step depth w (out, w')) (uncut : out ≠ .cancelled) :
    a.WarnsInside w w' := by
  have inner {u : World} (changes : ReflTransGen b.WarnsInside w u) : a.WarnsInside w u :=
    Action.WarnsInside.mono inside _ _ (.of_changes changes)
  cases h with
  | tooDeep => exact .of_eq rfl
  | skipped changes => exact (inner changes).trans (.of_eq rfl)
  | succeeded _ _ _ changes => exact (inner changes).trans (.of_eq rfl)
  | excused _ _ e _ _ changes =>
    refine (inner changes).trans ⟨[optionalWarning b.id e.message], rfl, fun m hm => ?_⟩
    exact .inr ⟨b, e.message, inside, List.mem_singleton.mp hm⟩
  | failed _ _ _ _ _ changes => exact (inner changes).trans (.of_eq rfl)
  | undelayed _ _ changes => exact inner changes
  | cut => exact absurd rfl uncut

theorem execution_warnsInside (g : Setting) (a : Action) (depth : Int) (w : World) :
    Execution g a.WarnsInside a.step depth w (execute g a depth w) :=
  execution_of_nested Action.WarnsInside.of_timely Action.WarnsInside.mono
    (fun inside _ uncut h => .single (h.warnsInside inside uncut)) a depth w

/-! ## How an action ends -/

theorem fault_of_execute {g : Setting} {a : Action} {depth : Int} {w w' : World} {e : Fault}
    (h : execute g a depth w = (.failed e, w')) :
    e.isOfAction = true ∨ ¬ g.policy.IsPausable ∧ e = .quotientTooLarge := by
  have executed := execution_execute g a depth w
  rw [h] at executed
  cases executed with
  | tooDeep => exact .inl rfl
  | failed _ _ e => exact .inl (e.isOfAction_within a.step.id)
  | undelayed delayed tooLong =>
    obtain rfl := fault_of_secondsOfMillis tooLong
    exact .inr ⟨ErrorPolicy.not_isPausable_iff.mpr ⟨delayed, tooLong⟩, rfl⟩

/-- An action that may fail, at a depth that is allowed, fails only for want of a delay. -/
theorem undelayed_of_execute {g : Setting} {a : Action} {depth : Int} {w w' : World} {e : Fault}
    (optional : a.step.optional = true) (allowed : depth ≤ g.options.maxDepth)
    (h : execute g a depth w = (.failed e, w')) :
    e = .quotientTooLarge ∧ ¬ g.policy.IsPausable := by
  have executed := execution_execute g a depth w
  rw [h] at executed
  cases executed with
  | tooDeep deep => omega
  | failed _ _ _ _ required =>
    rw [optional] at required
    cases required
  | undelayed delayed tooLong =>
    obtain rfl := fault_of_secondsOfMillis tooLong
    exact ⟨rfl, ErrorPolicy.not_isPausable_iff.mpr ⟨delayed, tooLong⟩⟩

/-- The warnings of an action that returned: those of its course, and its own when it failed. -/
theorem warnings_of_execute {g : Setting} {a : Action} {depth : Int} {w w' : World}
    {r : ActionResult} (h : execute g a depth w = (.done r, w')) :
    ∃ u, a.WarnsInside w u ∧
      (r.success = true ∧ w'.context.warnings = u.context.warnings ∨
        r.success = false ∧ ∃ m, r.error = some m ∧
          w'.context.warnings = u.context.warnings ++ [optionalWarning a.id m]) := by
  have executed := execution_warnsInside g a depth w
  rw [h] at executed
  cases executed with
  | skipped changes => exact ⟨_, .of_changes changes, .inl ⟨rfl, rfl⟩⟩
  | succeeded _ _ _ changes => exact ⟨_, .of_changes changes, .inl ⟨rfl, rfl⟩⟩
  | excused _ _ e _ _ changes =>
    exact ⟨_, .of_changes changes, .inr ⟨rfl, e.message, rfl, rfl⟩⟩

/-- An action fails with an action failure, unless the delay between attempts has no number of
seconds: then it may fail with that.  An optional action at a depth that is allowed fails in no
other way; without a deadline it returns, and in any case it leaves the errors of the run alone.
When its result is a failure, its course leaves one warning of its own, after those that belong to
names without a value and to the actions inside it. -/
theorem outcome_of_execute (g : Setting) (a : Action) (depth : Int) (w : World) :
    let (out, w') := execute g a depth w
    (∀ e, out = .failed e →
      e.isOfAction = true ∨ ¬ g.policy.IsPausable ∧ e = .quotientTooLarge) ∧
    (a.step.optional = true → depth ≤ g.options.maxDepth →
      ((∃ r, out = .done r) ∨ (out = .cancelled ∧ ∃ d, w.deadline = some d) ∨
        (out = .failed .quotientTooLarge ∧ ¬ g.policy.IsPausable)) ∧
      w'.context.errors = w.context.errors ∧
      ∀ r, out = .done r → ∃ u, a.WarnsInside w u ∧
        (r.success = true ∧ w'.context.warnings = u.context.warnings ∨
          r.success = false ∧ ∃ m, r.error = some m ∧
            w'.context.warnings = u.context.warnings ++ [optionalWarning a.id m])) := by
  rcases h : execute g a depth w with ⟨out, w'⟩
  refine ⟨?_, fun optional allowed => ⟨?_, (keeps_of_execute h).errors, ?_⟩⟩
  · rintro e rfl
    exact fault_of_execute h
  · rcases out with r | e | _
    · exact .inl ⟨r, rfl⟩
    · obtain ⟨rfl, undelayed⟩ := undelayed_of_execute optional allowed h
      exact .inr (.inr ⟨rfl, undelayed⟩)
    · have course := ordinary_execute g a depth w
      rw [h] at course
      exact .inr (.inl ⟨rfl, limited_of_cancelled course⟩)
  · rintro r rfl
    exact warnings_of_execute h

def endless : Setting :=
  ⟨{ ErrorPolicy.standard with maxRetries := 1, retryDelay := 10 ^ 400 }, .standard, 0⟩

def aimless : Action :=
  ⟨⟨"c", .click, "", none, none, none, none, none, none, true⟩, none⟩

/-- Not every fault of an action is an action failure, nor does an optional action always return:
an endless delay between its attempts is out of range. -/
theorem endless_delay_escapes :
    ¬ ∀ (g : Setting) (a : Action) (depth : Int) (w : World),
      (∀ e, (execute g a depth w).1 = .failed e → e.isOfAction = true) ∧
      (a.step.optional = true → depth ≤ g.options.maxDepth →
        ∀ e, (execute g a depth w).1 ≠ .failed e) := by
  intro claim
  have escapes : (execute endless aimless 1 (.opening .blank [])).1.fault? =
      some .quotientTooLarge := by
    decide +kernel
  exact (claim endless aimless 1 (.opening .blank [])).2 rfl (by decide) _
    (Outcome.fault?_eq_some_iff.mp escapes)

end Scout
