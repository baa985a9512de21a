import Scout.Proofs.Run.Stillness

/-!
# Conditions and their opposites

A condition only asks, and whatever goes wrong while it asks, its answer is no.  So the opposite of
a condition is no plain negation: of a question and its opposite at most one is answered with yes,
and one is exactly when there is something to ask and the page does not fail to tell.  Conditions in
a list are met one after another, until one is not.
-/

namespace Scout

open Exec

/-- The program never fails, does no more than ask the page, and comes to its end unless there is a
deadline. -/
structure Exec.IsHarmless {α : Type} (x : Exec α) : Prop where
  unfailing : x.Unfailing
  onlyAsks : x.OnlyAsks
  ends : ∀ w, w.deadline = none → ∃ a, (x w).1 = .done a

/-- A question whose failure counts as no. -/
def Exec.orNo (question : Exec Bool) : Exec Bool := do
  match ← attempt question with
  | .ok answer => pure answer
  | .error _ => pure false

/-- The opposite answer, where there is one. -/
def Exec.negated (question : Exec Bool) : Exec Bool := do
  pure !(← question)

/-- What a program does, without its value. -/
def Exec.silent {α : Type} (x : Exec α) : Exec Unit := do
  let _ ← x
  pure ()

namespace Exec

variable {α β : Type}

theorem harmless_pure (a : α) : (pure a : Exec α).IsHarmless where
  unfailing := failsOnly_pure a
  onlyAsks := asks_pure a
  ends _ _ := ⟨a, rfl⟩

/-- A timely program that cannot fail comes to its end when there is no deadline. -/
theorem ends_of_timely {x : Exec α} (timely : x.IsTimely) (unfailing : x.Unfailing) {w : World}
    (unlimited : w.deadline = none) : ∃ a, (x w).1 = .done a := by
  have course : Course World.Ordinary w (x w) := (timely w).mono fun _ _ => .timely
  rcases h : x w with ⟨a | e | _, u⟩ <;> rw [h] at course
  · exact ⟨a, rfl⟩
  · exact (unfailing w e (by rw [h])).elim
  · obtain ⟨d, limited⟩ := limited_of_cancelled course
    cases unlimited.symm.trans limited

/-! ## Opposite answers -/

theorem silent_bind {x : Exec α} (f : α → Exec β) (total : ∀ a w, ∃ b, f a w = (.done b, w)) :
    silent (x >>= f) = silent x := by
  funext w
  unfold silent
  simp only [bind_apply]
  rcases x w with ⟨a | e | _, u⟩
  · obtain ⟨b, h⟩ := total a u
    simp only [h]
  · rfl
  · rfl

theorem negated_answer (x : Exec α) (f : α → Bool) :
    negated (do pure (f (← x))) = (do pure !(f (← x))) := by
  funext w
  simp only [negated, bind_apply]
  rcases x w with ⟨a | e | _, u⟩ <;> rfl

/-- A question and its opposite, where failures count as no: both leave the same world, not both are
answered with yes, and one is if and only if the question has an answer. -/
theorem orNo_negated (question : Exec Bool) (w : World) :
    (orNo question.negated w).2 = (orNo question w).2 ∧
    ¬ ((orNo question w).1 = .done true ∧ (orNo question.negated w).1 = .done true) ∧
    ((orNo question w).1 = .done true ∨ (orNo question.negated w).1 = .done true ↔
      (question.silent w).1 = .done ()) := by
  unfold orNo negated silent
  simp only [bind_apply, attempt]
  rcases question w with ⟨b | e | _, u⟩
  · cases b <;> simp
  · simp
  · simp

end Exec

namespace Condition

/-! ## Targets -/

/-- What a condition is about. -/
inductive Target where
  | variable (name : String)
  | element (selector : String)

/-- The target that a condition is given, if any: what is compared can be a variable, and is an
element when no variable is named. -/
def target? (c : Condition) : Option Target :=
  match c.kind, named? c.variableName with
  | .equals, some name | .differs, some name => some (.variable name)
  | _, _ => (named? c.selector).map .element

/-- What the page is asked about the target; nothing where that is a variable. -/
def query (c : Condition) : Target → Exec Unit
  | .variable _ => pure ()
  | .element selector =>
    match c.kind with
    | .present | .absent => silent (Browse.isPresent selector)
    | .visible => silent (Browse.isVisible selector)
    | .hidden => silent (Browse.isHidden selector)
    | .contains | .lacks | .equals | .differs => silent (Browse.textContent selector)

/-- The kinds of a question and of its opposite. -/
inductive Opposed : ConditionKind → ConditionKind → Prop
  | presence : Opposed .present .absent
  | contents : Opposed .contains .lacks
  | equality : Opposed .equals .differs

theorem evaluate_eq (c : Condition) : c.evaluate = orNo c.ask :=
  rfl

variable {k k' : ConditionKind}

theorem Opposed.ask_of_untargeted (opposed : Opposed k k') {c : Condition}
    (untargeted : { c with kind := k }.target? = none) :
    { c with kind := k }.ask = pure false ∧ { c with kind := k' }.ask = pure false := by
  cases opposed with
  | presence | contents =>
    have unnamed : named? c.selector = none := by simpa [target?] using untargeted
    simp [ask, unnamed]
  | equality =>
    have noVariable : named? c.variableName = none := by
      cases h : named? c.variableName with
      | none => rfl
      | some name => simp [target?, h] at untargeted
    have unnamed : named? c.selector = none := by simpa [target?, noVariable] using untargeted
    constructor <;> simp [ask, compare, unnamed, noVariable] <;> rfl

theorem compare_of_target {c : Condition} {t : Target}
    (given : { c with kind := .equals }.target? = some t) :
    ∃ equal : Exec Bool, c.compare = (do pure (some (← equal))) ∧
      equal.silent = { c with kind := .equals }.query t := by
  unfold compare
  cases h : named? c.variableName with
  | some name =>
    obtain rfl : Target.variable name = t := by simpa [target?, h] using given
    exact ⟨read fun w =>
      (Value.ofOption (w.context.vars.find? name)).equalsScalar c.value, rfl, rfl⟩
  | none =>
    obtain ⟨selector, named, rfl⟩ : ∃ selector, named? c.selector = some selector ∧
        Target.element selector = t := by simpa [target?, h] using given
    rw [named]
    refine ⟨do
      let text ← Browse.textContent selector
      pure (text.any fun t => Text.trim t == (Value.ofScalar? c.value).stringify), ?_,
      silent_bind _ fun _ w => ⟨_, rfl⟩⟩
    funext w
    simp only [bind_apply]
    rcases Browse.textContent selector w with ⟨(_ | t) | e | _, u⟩ <;> rfl

/-- With a target the opposite is answered the other way, and the page is asked the query of the
target. -/
theorem Opposed.ask_of_target (opposed : Opposed k k') {c : Condition} {t : Target}
    (given : { c with kind := k }.target? = some t) :
    { c with kind := k' }.ask = { c with kind := k }.ask.negated ∧
      { c with kind := k }.ask.silent = { c with kind := k }.query t := by
  cases opposed with
  | presence =>
    obtain ⟨selector, named, rfl⟩ : ∃ selector, named? c.selector = some selector ∧
        Target.element selector = t := by simpa [target?] using given
    simp only [ask, named]
    exact ⟨rfl, rfl⟩
  | contents =>
    obtain ⟨selector, named, rfl⟩ : ∃ selector, named? c.selector = some selector ∧
        Target.element selector = t := by simpa [target?] using given
    simp only [ask, named]
    constructor
    · exact (negated_answer (c.contained selector) fun found => found.getD false).symm
    · exact (silent_bind _ fun _ w => ⟨_, rfl⟩).trans (silent_bind _ fun _ w => ⟨_, rfl⟩)
  | equality =>
    obtain ⟨equal, compared, asks⟩ := compare_of_target given
    have compared (k : ConditionKind) :
        { c with kind := k }.compare = (do pure (some (← equal))) := compared
    simp only [ask, compared]
    constructor
    · funext w
      simp only [negated, bind_apply]
      rcases equal w with ⟨a | e | _, u⟩ <;> rfl
    · rw [← asks]
      exact (silent_bind _ fun _ w => ⟨_, rfl⟩).trans (silent_bind _ fun _ w => ⟨_, rfl⟩)

/-! ## Answers -/

theorem harmless_evaluate (c : Condition) : c.evaluate.IsHarmless where
  unfailing := c.unfailing_evaluate
  onlyAsks := c.asks_evaluate
  ends _ := ends_of_timely c.timely_evaluate c.unfailing_evaluate

theorem harmless_evaluateAll (cs : List Condition) : (evaluateAll cs).IsHarmless where
  unfailing := unfailing_evaluateAll cs
  onlyAsks := asks_evaluateAll cs
  ends _ := ends_of_timely (timely_evaluateAll cs) (unfailing_evaluateAll cs)

theorem harmless_ifOpen (hasPage : Bool) {question : Exec Bool} (h : question.IsHarmless) :
    (ifOpen hasPage question).IsHarmless := by
  unfold ifOpen
  split
  · exact h
  · exact harmless_pure false

variable {hasPage : Bool}

theorem Opposed.answer (opposed : Opposed k k') (c : Condition) (w : World) :
    ({ c with kind := k' }.answer hasPage w).2 = ({ c with kind := k }.answer hasPage w).2 ∧
    ¬ (({ c with kind := k }.answer hasPage w).1 = .done true ∧
      ({ c with kind := k' }.answer hasPage w).1 = .done true) ∧
    (({ c with kind := k }.answer hasPage w).1 = .done true ∨
      ({ c with kind := k' }.answer hasPage w).1 = .done true ↔
      hasPage = true ∧ ∃ t, { c with kind := k }.target? = some t ∧
        ({ c with kind := k }.query t w).1 = .done ()) := by
  cases hasPage with
  | false => simp [Condition.answer, ifOpen]
  | true =>
    simp only [Condition.answer, ifOpen, if_true, evaluate_eq]
    cases given : { c with kind := k }.target? with
    | none =>
      obtain ⟨yes, no⟩ := opposed.ask_of_untargeted given
      rw [yes, no]
      simp [orNo, bind_apply, attempt]
    | some t =>
      obtain ⟨no, asked⟩ := opposed.ask_of_target given
      simp only [no, Option.some.injEq, true_and, exists_eq_left', ← asked]
      exact orNo_negated _ w

/-! ## Lists of conditions -/

/-- The conditions are met one after another, on the way from one world to another. -/
inductive MetInTurn (hasPage : Bool) : List Condition → World → World → Prop
  | none (w : World) : MetInTurn hasPage [] w w
  | next {c : Condition} {rest : List Condition} {w u v : World}
      (met : c.answer hasPage w = (.done true, u)) (others : MetInTurn hasPage rest u v) :
      MetInTurn hasPage (c :: rest) w v

/-- How the conjunction of conditions ends: all of them are met in turn, or some are, and the first
that is not ends it. -/
inductive Conjoined (hasPage : Bool) (cs : List Condition) (w : World) :
    Outcome Bool × World → Prop
  | met {v : World} (all : MetInTurn hasPage cs w v) : Conjoined hasPage cs w (.done true, v)
  | unmet {before after : List Condition} {c : Condition} {u : World}
      {end_ : Outcome Bool × World} (split : cs = before ++ c :: after)
      (all : MetInTurn hasPage before w u) (first : c.answer hasPage u = end_)
      (no : end_.1 ≠ .done true) : Conjoined hasPage cs w end_

variable {c : Condition} {rest : List Condition} {w : World} {end_ : Outcome Bool × World}

theorem conjoined_nil_iff : Conjoined hasPage [] w end_ ↔ end_ = (.done true, w) := by
  constructor
  · rintro (⟨⟨⟩⟩ | ⟨split⟩)
    · rfl
    · simp at split
  · rintro rfl
    exact .met (.none w)

/-- A conjunction ends at its first condition, or that is met and the others are conjoined. -/
theorem conjoined_cons_iff : Conjoined hasPage (c :: rest) w end_ ↔
    c.answer hasPage w = end_ ∧ end_.1 ≠ .done true ∨
      ∃ u, c.answer hasPage w = (.done true, u) ∧ Conjoined hasPage rest u end_ := by
  constructor
  · rintro (⟨_ | ⟨met, others⟩⟩ | ⟨split, all, first, no⟩)
    · exact .inr ⟨_, met, .met others⟩
    · cases all with
      | none =>
        obtain ⟨rfl, rfl⟩ := List.cons.inj split
        exact .inl ⟨first, no⟩
      | next met others =>
        obtain ⟨rfl, rfl⟩ := List.cons.inj split
        exact .inr ⟨_, met, .unmet rfl others first no⟩
  · rintro (⟨first, no⟩ | ⟨u, met, all | ⟨rfl, all, first, no⟩⟩)
    · exact .unmet (List.nil_append _).symm (.none w) first no
    · exact .met (.next met all)
    · exact .unmet (List.cons_append ..).symm (.next met all) first no

theorem conjoined_cons_iff_of_unmet (no : (c.answer hasPage w).1 ≠ .done true) :
    Conjoined hasPage (c :: rest) w end_ ↔ c.answer hasPage w = end_ := by
  rw [conjoined_cons_iff]
  constructor
  · rintro (⟨first, -⟩ | ⟨u, met, -⟩)
    · exact first
    · exact absurd (congrArg Prod.fst met) no
  · rintro rfl
    exact .inl ⟨rfl, no⟩

theorem conjoined_cons_iff_of_met {u : World} (met : c.answer hasPage w = (.done true, u)) :
    Conjoined hasPage (c :: rest) w end_ ↔ Conjoined hasPage rest u end_ := by
  rw [conjoined_cons_iff, met]
  constructor
  · rintro (⟨rfl, no⟩ | ⟨u', ⟨⟩, others⟩)
    · exact absurd rfl no
    · exact others
  · exact fun others => .inr ⟨u, rfl, others⟩

theorem evaluateAll_eq_iff {cs : List Condition} :
    evaluateAll cs w = end_ ↔ Conjoined true cs w end_ := by
  induction cs generalizing w with
  | nil => rw [conjoined_nil_iff, eq_comm]; rfl
  | cons c rest ih =>
    have same : c.answer true w = c.evaluate w := rfl
    unfold evaluateAll
    rcases answered : c.evaluate w with ⟨b | e | _, u⟩ <;> rw [answered] at same
    · rw [bind_done answered]
      cases b with
      | true => exact ih.trans (conjoined_cons_iff_of_met same).symm
      | false => rw [conjoined_cons_iff_of_unmet (by simp [same]), same]; rfl
    · rw [bind_failed answered, conjoined_cons_iff_of_unmet (by simp [same]), same]
    · rw [bind_cancelled answered, conjoined_cons_iff_of_unmet (by simp [same]), same]

theorem answerAll_eq_iff {cs : List Condition} (asked : hasPage = true ∨ cs ≠ []) :
    answerAll hasPage cs w = end_ ↔ Conjoined hasPage cs w end_ := by
  cases hasPage with
  | true => exact evaluateAll_eq_iff
  | false =>
    cases cs with
    | nil => simp at asked
    | cons c rest =>
      have unanswered : c.answer false w = (.done false, w) := rfl
      rw [conjoined_cons_iff_of_unmet (by simp [unanswered]), unanswered]
      rfl

/-- What is asked of a page is harmless, whether or not there is a page.  A question and its
opposite leave the same world and are never both answered with yes; one of them is exactly when
there is a page, a target is given, and the query about it returns.  Conditions in a list are
conjoined, and none is asked after the first that is not met; only where there is no page and no
condition is the answer no, though every condition is met. -/
theorem harmless_and_opposed_and_conjoined (hasPage : Bool) :
    (∀ c : Condition, (c.answer hasPage).IsHarmless) ∧
    (∀ cs : List Condition, (answerAll hasPage cs).IsHarmless) ∧
    (∀ (k k' : ConditionKind) (c : Condition) (w : World), Opposed k k' →
      ({ c with kind := k' }.answer hasPage w).2 = ({ c with kind := k }.answer hasPage w).2 ∧
      ¬ (({ c with kind := k }.answer hasPage w).1 = .done true ∧
        ({ c with kind := k' }.answer hasPage w).1 = .done true) ∧
      (({ c with kind := k }.answer hasPage w).1 = .done true ∨
        ({ c with kind := k' }.answer hasPage w).1 = .done true ↔
        hasPage = true ∧ ∃ t, { c with kind := k }.target? = some t ∧
          ({ c with kind := k }.query t w).1 = .done ())) ∧
    (∀ (cs : List Condition) (w : World) (end_ : Outcome Bool × World),
      hasPage = true ∨ cs ≠ [] →
        (answerAll hasPage cs w = end_ ↔ Conjoined hasPage cs w end_)) ∧
    ∀ w, answerAll false [] w = (.done false, w) := by
  refine ⟨fun c => harmless_ifOpen hasPage c.harmless_evaluate,
    fun cs => harmless_ifOpen hasPage (harmless_evaluateAll cs), ?_, ?_, fun _ => rfl⟩
  · intro k k' c w opposed
    exact opposed.answer c w
  · intro cs w end_ asked
    exact answerAll_eq_iff asked

/-- On a page with nothing on it the absence of an element is met and its presence is not, and the
two are conjoined. -/
theorem harmless_and_opposed_and_conjoined_blank :
    let w := World.opening .blank []
    let next (k : ConditionKind) : Condition := ⟨k, some ".next", none, none⟩
    Opposed .present .absent ∧ [next .absent, next .present] ≠ [] ∧
    ((next .absent).answer true w).1 = .done true ∧
    ¬ ((next .present).answer true w).1 = .done true ∧
    Conjoined true [next .absent, next .present] w
      (answerAll true [next .absent, next .present] w) := by
  have absent : ((⟨.absent, some ".next", none, none⟩ : Condition).answer true
      (.opening .blank [])).1 = .done true := rfl
  intro w next
  obtain ⟨-, -, opposites, conjoined, -⟩ := harmless_and_opposed_and_conjoined true
  obtain ⟨-, never, -⟩ := opposites .present .absent (next .present) w .presence
  refine ⟨.presence, by simp, absent, fun present => never ⟨present, absent⟩, ?_⟩
  exact (conjoined _ w _ (.inr (by simp))).1 rfl

/-- Without a page not even the conjunction of no conditions is met. -/
theorem unmet_of_nothing_asked :
    ¬ ∀ (hasPage : Bool) (cs : List Condition) (w : World) (end_ : Outcome Bool × World),
      answerAll hasPage cs w = end_ ↔ Conjoined hasPage cs w end_ := by
  intro claim
  have all : Conjoined false [] (.opening .blank []) (.done true, .opening .blank []) :=
    .met (.none _)
  have answered := (claim false [] (.opening .blank []) _).2 all
  cases congrArg Prod.fst answered

end Condition

end Scout
