import Scout.Proofs.Registry.Standing

/-!
# Statistics under their ids

A registry has statistics for its registered playbooks and for no other id, and they
carry the id that they stand under.  Requests keep this, and so does loading, also when
it breaks off.
-/

namespace Scout.Registry

variable {d d' : Desk} {q : Request} {r r' : Registry} {id : String}

/-! ## Labels -/

/-- Whether statistics carry the ids that they stand under. -/
def Labelled (r : Registry) : Prop :=
  ∀ id s, r.stats.find? id = some s → s.id = id

theorem Stats.id_recount (s : Stats) (entries : List HistoryEntry) :
    (s.recount entries).id = s.id := by
  unfold Stats.recount
  split <;> rfl

theorem Labelled.recount (h : r.Labelled) (i : String) : (r.recount i).Labelled := by
  intro id s hs
  by_cases hi : id = i
  · subst hi
    rw [find?_stats_recount_self] at hs
    obtain ⟨s₀, hs₀, rfl⟩ := Option.map_eq_some_iff.1 hs
    exact (Stats.id_recount _ _).trans (h id s₀ hs₀)
  · rw [find?_stats_recount_of_ne r hi] at hs
    exact h id s hs

theorem Labelled.adopt (h : r.Labelled) (p : Playbook) : (r.adopt p).Labelled := by
  intro id s hs
  by_cases hid : id = p.id
  · subst hid
    unfold Registry.adopt withStats at hs
    split at hs
    · exact h p.id s hs
    · rw [Members.find?_put_self] at hs
      cases hs
      rfl
  · rw [find?_stats_adopt_of_ne r hid] at hs
    exact h id s hs

theorem Labelled.modify (h : r.Labelled) (i : String) {f : Stats → Stats}
    (keeps : ∀ s, (f s).id = s.id) : Labelled { r with stats := r.stats.modify i f } := by
  intro id s hs
  rw [Members.find?_modify] at hs
  split at hs
  · obtain ⟨s₀, hs₀, rfl⟩ := Option.map_eq_some_iff.1 hs
    exact (keeps s₀).trans (h id s₀ hs₀)
  · exact h id s hs

theorem Labelled.forget (h : r.Labelled) (i : String) : (r.forget i).Labelled := by
  intro id s hs
  by_cases hi : id = i
  · subst hi
    cases hs.symm.trans (Members.find?_erase_self r.stats id)
  · exact h id s ((Members.find?_erase_of_ne _ hi).symm.trans hs)

theorem Labelled.enter (h : r.Labelled) (e : HistoryEntry) : (r.enter e).Labelled := by
  have kept : (r.keep e).Labelled := h
  unfold Registry.enter
  split
  · exact (kept.recount e.playbookId).modify e.playbookId fun _ => rfl
  · exact kept.recount _

/-! ## Tended registries -/

/-- The registered playbooks are those with statistics, and these carry their ids. -/
structure Tended (r : Registry) : Prop where
  paired : r.Paired
  labelled : r.Labelled

theorem tended_emptied (r : Registry) : r.emptied.Tended :=
  ⟨fun _ => rfl, fun _ _ hs => by cases hs⟩

theorem Tended.foldl_adopt (h : r.Tended) (playbooks : List Playbook) :
    (playbooks.foldl adopt r).Tended := by
  induction playbooks generalizing r with
  | nil => exact h
  | cons p rest ih => exact ih ⟨h.paired.adopt p, h.labelled.adopt p⟩

theorem tended_holding (r : Registry) (playbooks : List Playbook) (history : List HistoryEntry) :
    (r.holding playbooks history).Tended :=
  have taken := (tended_emptied r).foldl_adopt playbooks
  ⟨taken.paired, taken.labelled⟩

theorem Tended.recount (h : r.Tended) (i : String) : (r.recount i).Tended where
  paired id := (contains_stats_recount r i id).trans (h.paired id)
  labelled := h.labelled.recount i

theorem Effect.tended (effect : Effect q d d') (h : d.registry.Tended) : d'.registry.Tended := by
  refine ⟨effect.paired h.paired, ?_⟩
  cases effect with
  | refused | unsaved | undeleted | unrecorded => exact h.labelled
  | created => exact h.labelled.adopt _
  | @replaced document p path t _ _ _ _ =>
    have taken : (d.registry.withPlaybook p).Labelled := h.labelled
    exact taken.modify p.id fun _ => rfl
  | deleted => exact h.labelled.forget _
  | recorded => exact h.labelled.enter _

/-! ## Loading -/

/-- What counting one playbook keeps, counting some of them keeps, also when it breaks off. -/
theorem finish_countAll_keeps {P : Registry → Prop} (step : ∀ r id, P r → P (r.recount id))
    (ids : List String) {d : Desk} (h : P d.registry) : P (finish (countAll ids) d).2.registry := by
  induction ids generalizing d with
  | nil => exact h
  | cons id rest ih =>
    rw [countAll, finish_bind, finish_registry]
    dsimp only
    cases (d.registry.historyOf id).isEmpty
    · have counted := step d.registry id h
      simp only [Bool.not_false, if_true, finish_bind, finish_count]
      cases d.registry.isCountable id
      · exact counted
      · exact ih (d := { d with registry := d.registry.recount id }) counted
    · exact ih h

/-- What holds of the registry from before, of every one that holds playbooks and a history of its
library, and of one that counts a playbook anew, holds after loading. -/
theorem finish_load_keeps {P : Registry → Prop} (start : P d.registry)
    (taken : ∀ playbooks, P (List.foldl adopt d.registry.emptied playbooks))
    (held : ∀ playbooks history, P (d.registry.holding playbooks history))
    (step : ∀ r id, P r → P (r.recount id)) : P (finish load d).2.registry := by
  rw [finish_load]
  split
  · exact start
  · split
    · exact taken []
    · split
      · exact taken _
      · exact finish_countAll_keeps step _ (held _ _)

theorem Tended.load (h : d.registry.Tended) : (finish load d).2.registry.Tended := by
  refine finish_load_keeps h (tended_emptied _).foldl_adopt (tended_holding _) fun _ id h => ?_
  exact h.recount id

theorem library_load (d : Desk) : (finish load d).2.registry.library = d.registry.library :=
  finish_load_keeps (P := fun r => r.library = d.registry.library) rfl
    (fun playbooks => library_foldl_adopt playbooks _)
    (fun playbooks _ => library_foldl_adopt playbooks _) fun _ _ h => h

theorem Loaded.tended (loaded : Loaded d) : d.registry.Tended := by
  obtain ⟨d₀, h⟩ := loaded
  obtain ⟨playbooks, history, t, -, -, counted⟩ := of_load h
  have tended := finish_countAll_keeps (fun r id (h : r.Tended) => h.recount id)
    (d₀.registry.holding playbooks history).stats.names
    (d := ⟨d₀.registry.holding playbooks history, t⟩) (tended_holding _ _ _)
  rwa [counted] at tended

theorem Reached.tended (reached : Reached d d') (h : d.registry.Tended) : d'.registry.Tended := by
  induction reached with
  | start => exact h
  | request _ q ih => exact (q.effect _).tended ih
  | exported _ id path ih =>
    rcases exportTo_outcome id path _ with same | ⟨p, r, t, -, -, left⟩
    · rw [same]
      exact ih
    · rw [left]
      exact ih
  | reloaded _ ih => exact ih.load

end Scout.Registry
