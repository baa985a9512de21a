import Scout.Proofs.Run.Visits

/-!
# The life of a page

Every run opens its page first and closes it last, whatever happens between.
Between them stand the operations of the actions, and after all of these the
queries of the rules in their order; an aborted run asks no rule.
-/

namespace Scout

open Relation Exec

/-! ## Operations of ordinary changes -/

/-- The world after some operations, in a list, has been through them. -/
def World.Listed (w w' : World) (trace : List Call) : Prop :=
  w'.calls = w.calls ++ trace.toArray

theorem World.Listed.refl (w : World) : w.Listed w [] := by
  simp [Listed]

theorem World.Listed.append {w w₁ w₂ : World} {trace later : List Call}
    (first : w.Listed w₁ trace) (second : w₁.Listed w₂ later) :
    w.Listed w₂ (trace ++ later) := by
  unfold Listed at *
  rw [second, first]
  simp [Array.append_assoc]

/-- The world after some operations inside the page alone. -/
def World.ListedInner (w w' : World) : Prop :=
  ∃ trace, w.Listed w' trace ∧ ∀ c ∈ trace, c.isInner = true

theorem World.ListedInner.refl (w : World) : w.ListedInner w :=
  ⟨[], .refl w, by simp⟩

theorem World.ListedInner.trans {w w₁ w₂ : World} (first : w.ListedInner w₁)
    (second : w₁.ListedInner w₂) : w.ListedInner w₂ := by
  obtain ⟨trace, listed, inner⟩ := first
  obtain ⟨later, listed', inner'⟩ := second
  refine ⟨trace ++ later, listed.append listed', ?_⟩
  intro c hc
  exact (List.mem_append.mp hc).elim (inner c) (inner' c)

theorem World.listedInner_listed (w : World) {c : Call} (inner : c.isInner = true) :
    w.ListedInner (w.listed c) :=
  ⟨[c], by simp [Listed, listed], by simpa using inner⟩

theorem World.listedInner_listedPause (w : World) (seconds : Float) :
    w.ListedInner (w.listedPause seconds) := by
  unfold listedPause
  split
  · exact w.listedInner_listed rfl
  · exact .refl w

theorem World.Ordinary.listedInner {w w' : World} (h : w.Ordinary w') : w.ListedInner w' := by
  cases h with
  | timely change =>
    cases change with
    | instant operation | lasting operation =>
      exact w.listedInner_listed (Call.isInner_of_isOperation operation)
    | paused seconds => exact w.listedInner_listedPause seconds
    | awaited event => exact w.listedInner_listed rfl
    | page | logged | retryDepth | unresolved | screenshot | var | field | filed => exact .refl w
  | recorded | excused | unfilled => exact .refl w

theorem World.Cut.listedInner {w w' : World} (h : w.Cut w') : w.ListedInner w' := by
  cases h with
  | operation operation => exact w.listedInner_listed (Call.isInner_of_isOperation operation)
  | pause seconds => exact w.listedInner_listedPause seconds

/-- A course of ordinary changes lists operations inside the page alone, wherever it ends. -/
theorem listedInner_of_course {α : Type} {w w' : World} {out : Outcome α}
    (h : Course World.Ordinary w (out, w')) : w.ListedInner w' :=
  h.holds World.ListedInner.refl World.ListedInner.trans (fun _ _ => World.Ordinary.listedInner)
    (fun _ _ => World.Cut.listedInner) fun w _ => .refl w

/-! ## Rules -/

def ExtractionRule.query (r : ExtractionRule) : Call :=
  .queryAll r.selector

namespace Harvest

theorem calls_queryAll (selector : String) (w : World) :
    (Browse.queryAll selector w).2.calls = w.calls.push (.queryAll selector) := by
  obtain ⟨t, rules, h⟩ := queryAll_world selector w
  rw [h]

theorem calls_applyRule (r : ExtractionRule) (w : World) :
    (applyRule r w).2.calls = w.calls.push r.query := by
  have asked := calls_queryAll r.selector w
  unfold applyRule
  rcases hq : Browse.queryAll r.selector w with ⟨found | e | _, w₁⟩ <;> rw [hq] at asked
  · rw [bind_done (attempt_done hq)]
    dsimp only
    split
    · exact asked
    · split
      · exact asked
      · cases r.fallback <;> exact asked
  · rw [bind_done (attempt_failed hq)]
    dsimp only
    split <;> exact asked
  · rw [bind_cancelled (attempt_cancelled hq)]
    exact asked

theorem listed_applyRules (rules : List ExtractionRule) (w : World) :
    ∃ asked later, rules = asked ++ later ∧
      w.Listed (applyRules rules w).2 (asked.map ExtractionRule.query) ∧
      ((applyRules rules w).1 = .done () → later = []) := by
  induction rules generalizing w with
  | nil => exact ⟨[], [], rfl, by simp [World.Listed, applyRules], fun _ => rfl⟩
  | cons r rest ih =>
    have first : w.Listed (applyRule r w).2 [r.query] := by
      rw [World.Listed, calls_applyRule]
      simp
    unfold applyRules
    rcases hr : applyRule r w with ⟨a | e | _, w₁⟩ <;> rw [hr] at first
    · rw [bind_done hr]
      obtain ⟨asked, later, rfl, listed, all⟩ := ih w₁
      exact ⟨r :: asked, later, rfl, first.append listed, all⟩
    · rw [bind_failed hr]
      exact ⟨[r], rest, rfl, first, by simp⟩
    · rw [bind_cancelled hr]
      exact ⟨[r], rest, rfl, first, by simp⟩

theorem calls_address (w : World) : (Browse.address w).2.calls = w.calls := by
  obtain ⟨p, h⟩ := failing_world .readUrl w
  unfold Browse.address
  rw [bind_apply]
  rcases hf : failing .readUrl w with ⟨a | e | _, w₁⟩ <;> rw [hf] at h <;> subst h <;> rfl

theorem calls_sourceUrl (w : World) : (sourceUrl w).2.calls = w.calls := by
  have read := calls_address w
  unfold sourceUrl
  rcases ha : Browse.address w with ⟨url | e | _, w₁⟩ <;> rw [ha] at read
  · rw [bind_done ha]
    split
    · simp only [bind_apply, read_apply]
      cases lastAddress (.ofOption (w₁.context.vars.find? "currentUrl")) <;> exact read
    · exact read
  · rw [bind_failed ha]
    exact read
  · rw [bind_cancelled ha]
    exact read

theorem calls_assemble (p : Playbook) (now : Moment) (w : World) :
    (assemble p now w).2.calls = w.calls := by
  have found := calls_sourceUrl w
  unfold assemble
  rcases hs : sourceUrl w with ⟨url | e | _, w₁⟩ <;> rw [hs] at found
  · rw [bind_done hs]
    simp only [bind_apply, read_apply]
    split <;> exact found
  · rw [bind_failed hs]
    exact found
  · rw [bind_cancelled hs]
    exact found

theorem listed_run (p : Playbook) (now : Moment) (w : World) :
    ∃ asked later, p.rules = asked ++ later ∧
      w.Listed (run p now w).2 (asked.map ExtractionRule.query) ∧
      ∀ found, (run p now w).1 = .done found → later = [] := by
  obtain ⟨asked, later, split, listed, all⟩ := listed_applyRules p.rules w
  refine ⟨asked, later, split, ?_⟩
  unfold run
  rcases hr : applyRules p.rules w with ⟨a | e | _, w₁⟩ <;> rw [hr] at listed all
  · rw [bind_done hr]
    refine ⟨?_, fun _ _ => all rfl⟩
    rw [World.Listed, calls_assemble]
    exact listed
  · rw [bind_failed hr]
    exact ⟨listed, by simp⟩
  · rw [bind_cancelled hr]
    exact ⟨listed, by simp⟩

end Harvest

/-! ## Actions -/

namespace Run

theorem listed_runActions (g : Setting) (actions : List Action) (w : World) :
    ∃ trace, w.Listed (runActions g actions w).2 trace ∧
      ∀ c ∈ trace, c.isInner = true := by
  induction actions generalizing w with
  | nil => exact ⟨[], by simp [World.Listed, runActions], by simp⟩
  | cons a rest ih =>
    obtain ⟨trace, listed, inner⟩ := listedInner_of_course (ordinary_execute g a 1 w)
    -- what is noted of the first action between it and the rest calls nothing
    have continued : ∀ w₁ w₂ : World, w₂.calls = w₁.calls → w.Listed w₁ trace →
        ∃ trace, w.Listed (runActions g rest w₂).2 trace ∧ ∀ c ∈ trace, c.isInner = true := by
      intro w₁ w₂ same first
      obtain ⟨more, second, inner'⟩ := ih w₂
      refine ⟨trace ++ more, World.Listed.append first ?_, ?_⟩
      · rw [World.Listed, ← same]
        exact second
      · intro c hc
        exact (List.mem_append.mp hc).elim (inner c) (inner' c)
    rw [runActions_cons]
    rcases he : execute g a 1 w with ⟨r | e | _, w₁⟩ <;> rw [he] at listed
    · refine continued w₁ (credit r w₁) ?_ listed
      unfold credit
      split <;> rfl
    · dsimp only
      split
      · split
        · exact continued w₁ (excuse a e w₁) rfl listed
        · exact ⟨trace, listed, inner⟩
      · exact ⟨trace, listed, inner⟩
    · exact ⟨trace, listed, inner⟩

/-! ## Runs -/

/-- The part under the deadline: what the actions do, then the rules unless the actions did not
come to their end. -/
theorem listed_body (g : Setting) (p : Playbook) (now : Moment) (w : World) :
    ∃ acts asked later, p.rules = asked ++ later ∧
      w.Listed (runActions g p.actions w).2 acts ∧ (∀ c ∈ acts, c.isInner = true) ∧
      (runActions g p.actions w).2.Listed (body g p now w).2
        (asked.map ExtractionRule.query) ∧
      ((runActions g p.actions w).1 ≠ .done none → asked = []) ∧
      (∀ found, (body g p now w).1 = .done (.finished found) → later = []) := by
  obtain ⟨acts, listed, inner⟩ := listed_runActions g p.actions w
  unfold body
  rcases ha : runActions g p.actions w with ⟨outcome | e | _, w₁⟩ <;> rw [ha] at listed
  · rw [bind_done ha]
    cases outcome with
    | some message =>
      exact ⟨acts, [], p.rules, rfl, listed, inner, by simp [World.Listed], by simp, by simp⟩
    | none =>
      obtain ⟨asked, later, split, asks, all⟩ := Harvest.listed_run p now w₁
      refine ⟨acts, asked, later, split, listed, inner, ?_, by simp, ?_⟩
      · dsimp only
        rcases hr : Harvest.run p now w₁ with ⟨found | e | _, w₂⟩ <;> rw [hr] at asks
        · rw [bind_done hr]
          exact asks
        · rw [bind_failed hr]
          exact asks
        · rw [bind_cancelled hr]
          exact asks
      · intro found finished
        dsimp only at finished
        rcases hr : Harvest.run p now w₁ with ⟨found' | e | _, w₂⟩
        · exact all found' (by rw [hr])
        · rw [bind_failed hr] at finished
          cases finished
        · rw [bind_cancelled hr] at finished
          cases finished
  · rw [bind_failed ha]
    exact ⟨acts, [], p.rules, rfl, listed, inner, by simp [World.Listed], by simp, by simp⟩
  · rw [bind_cancelled ha]
    exact ⟨acts, [], p.rules, rfl, listed, inner, by simp [World.Listed], by simp, by simp⟩

/-- The operations of every run: the page is opened first.  When that fails nothing follows.
Else the operations of the actions come next, none of which opens or closes a page; then
the queries of the rules in order, none unless the actions came to their end and all of
them when the run is finished; and closing the page comes last. -/
theorem start_calls (o : RunOptions) (at_ : Stamp) (p : Playbook) (vars : Members Value)
    (w : World) :
    let g := settingOf o at_ p
    let after := (start o at_ p vars w).2
    (Browse.openPage (outset p vars w)).1 ≠ .cancelled ∧ ∃ agent,
      (∀ e w₁, Browse.openPage (outset p vars w) = (.failed e, w₁) →
        w.Listed after [.openPage agent]) ∧
      ∀ w₁, Browse.openPage (outset p vars w) = (.done (), w₁) →
        ∃ acts asked later, p.rules = asked ++ later ∧
          w.Listed after
            (.openPage agent :: acts ++ asked.map ExtractionRule.query ++ [.closePage]) ∧
          w.Listed (runActions g p.actions (underLimit o.budget w₁)).2
            (.openPage agent :: acts) ∧
          (∀ c ∈ acts, c.isInner = true) ∧
          ((runActions g p.actions (underLimit o.budget w₁)).1 ≠ .done none → asked = []) ∧
          ∀ found, (body g p at_.moment (underLimit o.budget w₁)).1 = .done (.finished found) →
            later = [] := by
  intro g after
  refine ⟨openPage_ne_cancelled rfl, ?_⟩
  obtain ⟨agent, t, page, first⟩ := openPage_world (outset p vars w)
  refine ⟨agent, ?_, ?_⟩
  · intro e w₁ unopened
    rw [unopened] at first
    obtain ⟨w', visited, log, reported⟩ := visit_unopened g p at_.moment unopened
    obtain ⟨t', log', -, started⟩ := start_of_visit visited
    have calls : after.calls = w.calls.push (.openPage agent) := calc
      after.calls = w'.calls := by simp only [after, started]
      _ = w₁.calls := by rw [reported]
      _ = _ := congrArg World.calls first
    simpa [World.Listed] using calls
  · intro w₁ opened
    rw [opened] at first
    obtain ⟨acts, asked, later, rules, acted, inner, asks, unasked, all⟩ :=
      listed_body g p at_.moment (underLimit o.budget w₁)
    have begun : w.Listed (underLimit o.budget w₁) [.openPage agent] := by
      have calls : w₁.calls = w.calls.push (.openPage agent) := congrArg World.calls first
      simpa [World.Listed, underLimit] using calls
    have ran : body g p at_.moment (underLimit o.budget w₁) =
        ((body g p at_.moment (underLimit o.budget w₁)).1,
          (body g p at_.moment (underLimit o.budget w₁)).2) := rfl
    obtain ⟨warnings, t', page', log, visited⟩ := visit_opened g p at_.moment opened ran
    obtain ⟨t'', log', -, started⟩ := start_of_visit visited
    have closed : (body g p at_.moment (underLimit o.budget w₁)).2.Listed after
        [.closePage] := by
      simp [after, started, World.Listed]
    refine ⟨acts, asked, later, rules, ?_, begun.append acted, inner, unasked, all⟩
    exact ((begun.append acted).append asks).append closed

end Run

end Scout
