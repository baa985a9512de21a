import Scout.Proofs.Registry.Requests

/-!
# Loading a registry

Loading adopts the playbooks that can be read, takes over the executions in the
order of their moments, and counts every playbook that has any.
-/

namespace Scout.Registry

/-! ## Counting all playbooks -/

/-- The registry with the executions of a playbook counted, if there are any. -/
def tally (r : Registry) (id : String) : Registry :=
  if (r.historyOf id).isEmpty then r else r.recount id

theorem finish_countAll {ids : List String} {d d' : Desk}
    (h : finish (countAll ids) d = (.ok (), d')) :
    d' = { d with registry := ids.foldl tally d.registry } := by
  induction ids generalizing d with
  | nil =>
    cases h
    rfl
  | cons id rest ih =>
    rw [countAll, finish_bind, finish_registry] at h
    rw [List.foldl_cons, tally]
    cases he : (d.registry.historyOf id).isEmpty
    · simp only [he, Bool.not_false, if_true, finish_bind, finish_count] at h
      cases hc : d.registry.isCountable id
      · simp [hc] at h
      · simpa [hc] using ih (by simpa [hc] using h)
    · simpa using ih (by simpa [he, finish_bind] using h)

/-! ## Taking over what is read -/

/-- The registry without playbooks, and with the history that it has. -/
def emptied (r : Registry) : Registry :=
  { r with playbooks := [], stats := [] }

/-- The registry made of playbooks and executions, in which nothing is counted yet. -/
def holding (r : Registry) (playbooks : List Playbook) (history : List HistoryEntry) :
    Registry :=
  { playbooks.foldl adopt r.emptied with history }

@[simp] theorem library_adopt (r : Registry) (p : Playbook) :
    (r.adopt p).library = r.library := by
  unfold adopt withStats
  split <;> rfl

theorem library_foldl_adopt (playbooks : List Playbook) (r : Registry) :
    (playbooks.foldl adopt r).library = r.library := by
  induction playbooks generalizing r with
  | nil => rfl
  | cons p rest ih => rw [List.foldl_cons, ih, library_adopt]

theorem finish_load (d : Desk) :
    finish load d = match finish d.registry.library.ensureDirectories d.files with
      | (.error e, t) => (.error (.library (.file e)), { d with files := t })
      | (.ok _, t) =>
        match Library.loadPlaybooks t d.registry.library.definitions with
        | .error e => (.error (.library e), ⟨d.registry.emptied, t⟩)
        | .ok playbooks =>
          match d.registry.library.loadHistory t with
          | .error e => (.error (.library e), ⟨playbooks.foldl adopt d.registry.emptied, t⟩)
          | .ok history =>
            finish (countAll (d.registry.holding playbooks history).stats.names)
              ⟨d.registry.holding playbooks history, t⟩ := by
  rw [load, finish_bind, finish_writing]
  rcases finish d.registry.library.ensureDirectories d.files with ⟨e | a, t⟩
  · rfl
  · simp only [Except.mapError, finish_bind, finish_update, finish_reading]
    cases hp : Library.loadPlaybooks t d.registry.library.definitions with
    | error e => simp [emptied]
    | ok playbooks =>
      have hl : (playbooks.foldl adopt d.registry.emptied).library = d.registry.library :=
        library_foldl_adopt playbooks _
      simp only [emptied] at hl
      cases hh : d.registry.library.loadHistory t with
      | error e => simp [hl, hh, emptied]
      | ok history => simp [hl, hh, emptied, holding]

/-- Loading that succeeds read playbooks and executions, and could count them. -/
theorem of_load {d d' : Desk} (h : finish load d = (.ok (), d')) :
    ∃ playbooks history t,
      Library.loadPlaybooks t d.registry.library.definitions = .ok playbooks ∧
      d.registry.library.loadHistory t = .ok history ∧
      finish (countAll (d.registry.holding playbooks history).stats.names)
        ⟨d.registry.holding playbooks history, t⟩ = (.ok (), d') := by
  rw [finish_load] at h
  split at h
  · cases h
  · split at h
    · cases h
    · next playbooks hp =>
      split at h
      · cases h
      · next history hh => exact ⟨playbooks, history, _, hp, hh, h⟩

theorem countAll_of_load {d d' : Desk} (h : finish load d = (.ok (), d')) :
    ∃ playbooks history t,
      d' = ⟨(d.registry.holding playbooks history).stats.names.foldl tally
        (d.registry.holding playbooks history), t⟩ := by
  obtain ⟨playbooks, history, t, -, -, counted⟩ := of_load h
  exact ⟨playbooks, history, t, finish_countAll counted⟩

end Scout.Registry
