import Scout.Proofs.Registry.Restart

/-!
# Requests that fail

A request that fails leaves the registry and all files as they were, whatever it
failed for.  The one exception is an average that no double can hold: it shows
only after the execution has been kept, and the execution stays.
-/

namespace Scout.Registry

open Files (Tree)

variable {q : Request} {d d' : Desk} {f : Fault}

/-- What a request can leave that ends with a fault. -/
inductive Failure (q : Request) (d : Desk) : Fault → Desk → Prop
  | unchanged {f : Fault} {t : Tree} (cause : f ≠ .averageTooLarge) (grown : d.files.GrowsTo t) :
      Failure q d f { d with files := t }
  | uncounted {e : HistoryEntry} {t : Tree} (asked : q.kept? d = some e) :
      Failure q d .averageTooLarge ⟨d.registry.enter e, t⟩

theorem Failure.refused (cause : f ≠ .averageTooLarge) : Failure q d f d :=
  .unchanged cause .refl

/-! ## One operation after the other -/

theorem cause_of_unaccepted {r : Registry} {document : Value}
    (h : r.accepted document = .error f) : f ≠ .averageTooLarge := by
  unfold accepted at h
  rintro rfl
  split at h
  · cases h
  · split at h
    · split at h <;> cases h
    · cases h

theorem grows_of_unsaved {t t' : Tree} {path : String} {v : Value}
    {written : String} {e : Files.Fault}
    (saving : finish (do Library.writeDocument path v; pure written) t = (.error e, t')) :
    t.GrowsTo t' := by
  obtain ⟨t₁, grown, ⟨_, -, rfl⟩ | ⟨_, -, -, saved, -⟩⟩ := Library.save_outcome saving
  · exact grown
  · cases saved

theorem failure_create {document : Value} (h : finish (create document) d = (.error f, d')) :
    Failure q d f d' := by
  rw [finish_create] at h
  cases ha : d.registry.accepted document with
  | error e =>
    rw [ha] at h
    cases h
    exact .refused (cause_of_unaccepted ha)
  | ok p =>
    simp only [ha] at h
    split at h
    · cases h
      exact .refused (by simp)
    · split at h
      · cases h
      · next e t hs =>
        cases h
        exact .unchanged (by simp) (grows_of_unsaved hs)

theorem failure_update {document : Value}
    (h : finish (Registry.update document) d = (.error f, d')) : Failure q d f d' := by
  rw [finish_update_playbook] at h
  cases ha : d.registry.accepted document with
  | error e =>
    rw [ha] at h
    cases h
    exact .refused (cause_of_unaccepted ha)
  | ok p =>
    simp only [ha] at h
    split at h
    · split at h
      · cases h
      · next e t hs =>
        cases h
        exact .unchanged (by simp) (grows_of_unsaved hs)
    · cases h
      exact .refused (by simp)

theorem failure_delete {id : String} (h : finish (Registry.delete id) d = (.error f, d')) :
    Failure q d f d' := by
  rw [finish_delete] at h
  split at h
  · rcases hr : finish (d.registry.library.removePlaybook id) d.files with ⟨e | a, t⟩
    · have untouched := files_of_undeleted hr
      simp only [hr] at h
      split at h
      · next unnameable =>
        cases h
        rw [untouched unnameable]
        exact .unchanged (by simp) .refl
      · cases h
    · simp only [hr, isUnnameable] at h
      cases h
  · cases h
    exact .refused (by simp)

theorem failure_record {e : HistoryEntry} (asked : q.kept? d = some e)
    (h : finish (record e) d = (.error f, d')) : Failure q d f d' := by
  rw [finish_record] at h
  rcases hs : finish (d.registry.library.saveExecution e) d.files with ⟨e' | path, t⟩
  · simp only [hs] at h
    split at h
    · cases h
      exact .unchanged (by simp) (grows_of_unsaved hs)
    · split at h
      · cases h
      · cases h
        exact .uncounted asked
  · simp only [hs, isUnnameable] at h
    rw [if_neg Bool.false_ne_true] at h
    split at h
    · cases h
    · cases h
      exact .uncounted asked

theorem finish_of_discard {ε σ α : Type} {x : ExceptT ε (StateM σ) α} {s s' : σ} {e : ε}
    (h : finish (discard x) s = (.error e, s')) : finish x s = (.error e, s') := by
  rw [finish_discard] at h
  rcases hx : finish x s with ⟨e' | a, s''⟩
  · rw [hx] at h
    cases h
    rfl
  · rw [hx] at h
    cases h

/-- A request that ends with a fault leaves one of the listed things. -/
theorem failure_of_fault (h : finish q.act d = (.error f, d')) : Failure q d f d' := by
  cases q with
  | create document => exact failure_create (finish_of_discard h)
  | update document => exact failure_update (finish_of_discard h)
  | delete id => exact failure_delete h
  | fromTemplate template id given =>
    have h := finish_of_discard h
    rw [finish_fromTemplate] at h
    split at h
    · exact failure_create h
    · cases h
      exact .refused (by simp)
  | importFrom path =>
    have h := finish_of_discard h
    rw [finish_importFrom] at h
    split at h
    · exact failure_create h
    · cases h
      exact .refused (by simp)
    · cases h
      exact .refused (by simp)
  | execute id visit =>
    rw [Request.act, finish_execute] at h
    split at h
    · cases h
      exact .refused (by simp)
    · next e performed => exact failure_record performed h
  | record entry => exact failure_record rfl h

/-! ## What is left -/

/-- A request that fails leaves registry and files as they were, exactly when it did not fail for an
average beyond the doubles.  In that case the playbooks are the same and the execution is kept. -/
theorem unchanged_iff_of_fault (fault : finish q.act d = (.error f, d')) :
    ((d'.registry = d.registry ∧ d.files.SameFiles d'.files) ↔ f ≠ .averageTooLarge) ∧
      (f = .averageTooLarge → ∃ e, q.kept? d = some e ∧
        d'.registry.playbooks = d.registry.playbooks ∧
        d'.registry.history = d.registry.history ++ [e]) := by
  cases failure_of_fault fault with
  | unchanged cause grown =>
    refine ⟨⟨fun _ => cause, fun _ => ⟨rfl, grown.sameFiles⟩⟩, fun h => absurd h cause⟩
  | @uncounted e t asked =>
    have longer : (d.registry.enter e).history = d.registry.history ++ [e] := history_enter _ e
    refine ⟨⟨?_, fun h => absurd rfl h⟩, fun _ => ⟨e, asked, playbooks_enter _ e, longer⟩⟩
    rintro ⟨same, -⟩
    dsimp only at same
    rw [same] at longer
    simp at longer

/-- The first day, with a directory where the file of a playbook would stand. -/
def blockedDay : Desk :=
  { firstDay with
    files := firstDay.files.put ["srv", "home", "definitions", "a.json"] .directory }

/-- The fault of the files that an act ended with. -/
def fileFault? {α : Type} : Except Fault α → Option Files.Fault
  | .error (.library (.file e)) => some e
  | _ => none

theorem of_fileFault? {α : Type} {outcome : Except Fault α} {e : Files.Fault}
    (h : fileFault? outcome = some e) : outcome = .error (.library (.file e)) := by
  unfold fileFault? at h
  split at h
  · cases h
    rfl
  · cases h

theorem unchanged_iff_of_fault_blocked :
    ∃ d', finish (Request.create waiting).act blockedDay =
        (.error (.library (.file ⟨.isDirectory, "definitions/a.json"⟩)), d') ∧
      ((d'.registry = blockedDay.registry ∧ blockedDay.files.SameFiles d'.files) ↔
        Fault.library (.file ⟨.isDirectory, "definitions/a.json"⟩) ≠ .averageTooLarge) ∧
      (Fault.library (.file ⟨.isDirectory, "definitions/a.json"⟩) = .averageTooLarge →
        ∃ e, (Request.create waiting).kept? blockedDay = some e ∧
          d'.registry.playbooks = blockedDay.registry.playbooks ∧
          d'.registry.history = blockedDay.registry.history ++ [e]) := by
  have blocked : fileFault? (finish (Request.create waiting).act blockedDay).1 =
      some ⟨.isDirectory, "definitions/a.json"⟩ := by
    decide +kernel
  rcases fault : finish (Request.create waiting).act blockedDay with ⟨outcome, d'⟩
  rw [fault] at blocked
  have houtcome := of_fileFault? blocked
  dsimp only at houtcome
  rw [houtcome] at fault ⊢
  exact ⟨d', rfl, unchanged_iff_of_fault fault⟩

/-! ## An execution that cannot be counted -/

/-- An execution that found more than any double can hold. -/
def flooded : HistoryEntry :=
  { waited with opportunitiesFound := 10 ^ 400 }

/-- The execution is kept before its playbook is made. -/
def flood : List Request :=
  [.record flooded, .create waiting]

/-- Not every request that fails leaves all as it was: the next execution of the playbook makes the
average of what was found too large, and is kept all the same. -/
theorem overflow_keeps_execution :
    ¬ ∀ d, Loaded d → ∀ (qs : List Request) (id : String) (v : Visit) (f : Fault) (d' : Desk),
      finish (Request.execute id v).act (d.afterAll qs) = (.error f, d') →
      d'.registry = (d.afterAll qs).registry ∧ (d.afterAll qs).files.SameFiles d'.files := by
  intro claim
  have failed :
      (finish (Request.execute "a" morningVisit).act (firstDay.afterAll flood)).1.isOk = false := by
    decide +kernel
  have kept :
      (finish (Request.execute "a" morningVisit).act
        (firstDay.afterAll flood)).2.registry.history.length = 2 := by
    decide +kernel
  have before : (firstDay.afterAll flood).registry.history.length = 1 := by
    decide +kernel
  rcases h : finish (Request.execute "a" morningVisit).act (firstDay.afterAll flood) with
    ⟨f | a, d'⟩
  · obtain ⟨same, -⟩ := claim firstDay loaded_firstDay flood _ _ f d' h
    rw [h] at kept
    dsimp only at kept
    rw [same, before] at kept
    cases kept
  · rw [h] at failed
    cases failed

end Scout.Registry
