import Scout.Proofs.Registry.Standing

/-!
# Files of definitions

Creating and updating a playbook touch nothing but a file that stands in the
directory of the definitions: the check lets no id pass that leads out of it.  A
playbook that was loaded has an id that nobody checked, and deleting it removes
the file that its id leads to.
-/

namespace Scout.Registry

open Files (IsFileName Location Tree)
open Library (fileName)

variable {q : Request} {d : Desk} {D : Location} {id : String}

/-- Whether a request changes nothing but what stands in a directory. -/
def Request.StaysIn (q : Request) (d : Desk) (D : Location) : Prop :=
  ∀ l, (q.after d).files.at? l ≠ d.files.at? l → ∃ name, IsFileName name ∧ l = D ++ [name]

theorem staysIn_of_unchanged (h : (q.after d).files = d.files) : q.StaysIn d D := by
  intro l changed
  rw [h] at changed
  exact absurd rfl changed

/-- A playbook that passed the check is saved in the directory of the definitions, or not at all. -/
theorem staysIn_of_saving {document : Value} {p : Playbook} {r : Except Files.Fault String}
    {t : Tree} (opens : d.files.Opens d.registry.library.definitions D)
    (accepted : d.registry.accepted document = .ok p)
    (saving : finish (d.registry.library.savePlaybook p) d.files = (r, t))
    (left : (q.after d).files = t) : q.StaysIn d D := by
  have noSlash : '/' ∉ p.id.toList := noSlash_of_accepted accepted
  rcases Library.save_cases opens noSlash saving with ⟨_, -, rfl⟩ | ⟨-, -, -, rfl⟩
  · exact staysIn_of_unchanged left
  · intro l changed
    refine ⟨fileName p.id, Library.isFileName_fileName noSlash, ?_⟩
    by_contra elsewhere
    apply changed
    rw [left, Tree.at?_put_of_ne _ _ elsewhere]

/-- A request that deletes nothing and keeps no execution writes the file of a definition at
most. -/
theorem staysIn_of_defining (opens : d.files.Opens d.registry.library.definitions D)
    (noDelete : ∀ id, q ≠ .delete id) (noExecution : q.kept? d = none) : q.StaysIn d D := by
  have effect := q.effect d
  generalize hd : q.after d = d' at effect
  cases effect with
  | refused => exact staysIn_of_unchanged (by rw [hd])
  | unsaved accepted saving => exact staysIn_of_saving opens accepted saving (by rw [hd])
  | created _ accepted _ saving => exact staysIn_of_saving opens accepted saving (by rw [hd])
  | replaced _ accepted _ saving => exact staysIn_of_saving opens accepted saving (by rw [hd])
  | undeleted removal unnameable =>
    exact staysIn_of_unchanged (by rw [hd]; exact files_of_undeleted removal unnameable)
  | deleted asked => exact absurd asked (noDelete _)
  | unrecorded asked | recorded asked =>
    rw [noExecution] at asked
    cases asked

/-! ## Deleting -/

theorem files_after_delete (id : String) (d : Desk) :
    ((Request.delete id).after d).files =
      if d.registry.playbooks.contains id then
        (finish (d.registry.library.removePlaybook id) d.files).2
      else d.files := by
  rw [Request.after, Request.act, finish_delete]
  split
  · dsimp only
    split <;> rfl
  · rfl

/-- Deleting a playbook removes the file that its id leads to, and touches nothing else. -/
theorem staysIn_delete_iff (id : String) (d : Desk) :
    (Request.delete id).StaysIn d D ↔
      (d.registry.playbooks.contains id = true →
        ∀ l c, d.files.locate (d.registry.library.definitionPath id) = .ok l →
          d.files.at? l = some (.file c) → ∃ name, IsFileName name ∧ l = D ++ [name]) := by
  unfold Request.StaysIn
  rw [files_after_delete]
  cases known : d.registry.playbooks.contains id
  · simp
  rw [if_pos rfl, Library.removePlaybook]
  rcases Files.Act.remove_outcome (d.registry.library.definitionPath id) d.files with
    ⟨e, failed⟩ | ⟨k, c, place, file, done⟩
  · rw [failed]
    refine ⟨fun _ _ l c place file => ?_, fun _ l changed => absurd rfl changed⟩
    have removed := Files.Act.finish_remove place file
    rw [failed] at removed
    cases removed
  · rw [done, place]
    constructor
    · rintro stays - l c' hl -
      cases hl
      apply stays
      rw [Tree.at?_erase_self _ (by rintro rfl; cases file), file]
      simp
    · intro inside l changed
      apply inside rfl l c
      · by_contra elsewhere
        exact changed (Tree.at?_erase_of_ne _ fun e => elsewhere (by rw [e]))
      · by_contra elsewhere
        apply changed
        rw [Tree.at?_erase_of_ne]
        rintro rfl
        exact elsewhere file

/-- An id without a slash leads to a file that stands in the directory of the definitions. -/
theorem staysIn_delete (opens : d.files.Opens d.registry.library.definitions D)
    (noSlash : '/' ∉ id.toList) : (Request.delete id).StaysIn d D := by
  rw [staysIn_delete_iff]
  intro _ l c place _
  have hname := Library.isFileName_fileName noSlash
  refine ⟨fileName id, hname, ?_⟩
  rcases opens.locate_join hname with ⟨e, failed⟩ | found
  · rw [Library.definitionPath, Library.documentPath, ← fileName, failed] at place
    cases place
  · rw [Library.definitionPath, Library.documentPath, ← fileName, found] at place
    cases place
    rfl

/-! ## Whatever the registry was used for -/

/-- At any time after a registry was loaded, creating and updating change nothing outside the
directory of the definitions, and neither does deleting under an id without a slash.  In general
deleting does so exactly when the path made of the id leads to a file elsewhere. -/
theorem staysIn_definitions {d₀ : Desk} (loaded : Loaded d₀)
    (normal : d₀.registry.library.IsNormal) (reached : Reached d₀ d) :
    ∃ D, d.files.Opens d₀.registry.library.definitions D ∧
      (∀ document, (Request.create document).StaysIn d D) ∧
      (∀ document, (Request.update document).StaysIn d D) ∧
      (∀ id, '/' ∉ id.toList → (Request.delete id).StaysIn d D) ∧
      ∀ id, (Request.delete id).StaysIn d D ↔
        (d.registry.playbooks.contains id = true →
          ∀ l c, d.files.locate (d₀.registry.library.definitionPath id) = .ok l →
            d.files.at? l = some (.file c) → ∃ name, IsFileName name ∧ l = D ++ [name]) := by
  obtain ⟨order, library, -⟩ := reached.inOrder (loaded.inOrder normal)
  obtain ⟨D, opens⟩ := order.isOpen.definitions
  rw [← library]
  refine ⟨D, opens, fun document => ?_, fun document => ?_,
    fun id noSlash => staysIn_delete opens noSlash, fun id => staysIn_delete_iff id d⟩
  · exact staysIn_of_defining opens (fun _ h => by cases h) rfl
  · exact staysIn_of_defining opens (fun _ h => by cases h) rfl

theorem staysIn_definitions_busyDay :
    firstDay.registry.library.IsNormal ∧
    Reached firstDay (firstDay.afterAll busyDay) ∧
    ∃ D, (firstDay.afterAll busyDay).files.Opens firstDay.registry.library.definitions D ∧
      (∀ document, (Request.create document).StaysIn (firstDay.afterAll busyDay) D) ∧
      (∀ document, (Request.update document).StaysIn (firstDay.afterAll busyDay) D) ∧
      (∀ id, '/' ∉ id.toList → (Request.delete id).StaysIn (firstDay.afterAll busyDay) D) ∧
      ∀ id, (Request.delete id).StaysIn (firstDay.afterAll busyDay) D ↔
        ((firstDay.afterAll busyDay).registry.playbooks.contains id = true →
          ∀ l c, (firstDay.afterAll busyDay).files.locate
              (firstDay.registry.library.definitionPath id) = .ok l →
            (firstDay.afterAll busyDay).files.at? l = some (.file c) →
            ∃ name, IsFileName name ∧ l = D ++ [name]) := by
  have reached := Reached.afterAll firstDay busyDay
  exact ⟨isNormal_firstDay, reached,
    staysIn_definitions loaded_firstDay isNormal_firstDay reached⟩

/-! ## A playbook whose id leads elsewhere -/

/-- A definition whose id names a file above its directory. -/
def strayDay : Desk :=
  dayOf [(["definitions", "x.json"], "\x7b\"id\": \"../outside\"\x7d"),
    (["outside.json"], "\x7b\x7d")]

theorem loaded_strayDay : Loaded strayDay :=
  loaded_dayOf (by decide +kernel)

theorem isNormal_strayDay : strayDay.registry.library.IsNormal :=
  ⟨by decide +kernel, by decide +kernel, by decide +kernel⟩

/-- Not every delete stays in the directory of the definitions: the id of a playbook that was loaded
can lead to any file. -/
theorem stray_delete_leaves :
    ¬ ∀ d₀ d, Loaded d₀ → d₀.registry.library.IsNormal → Reached d₀ d → ∀ id,
      ∃ D, d.files.Opens d₀.registry.library.definitions D ∧ (Request.delete id).StaysIn d D := by
  intro claim
  obtain ⟨D, opens, stays⟩ :=
    claim strayDay strayDay loaded_strayDay isNormal_strayDay .start "../outside"
  have place : strayDay.files.locate strayDay.registry.library.definitions =
      .ok ["srv", "home", "definitions"] := by
    decide +kernel
  rw [opens.place] at place
  cases place
  have lost : ((Request.delete "../outside").after strayDay).files.at?
      ["srv", "home", "outside.json"] ≠ strayDay.files.at? ["srv", "home", "outside.json"] := by
    decide +kernel
  obtain ⟨name, -, inside⟩ := stays _ lost
  cases congrArg List.length inside

end Scout.Registry
