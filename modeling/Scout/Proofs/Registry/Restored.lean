import Scout.Proofs.Registry.Standing

/-!
# Playbooks after a restart

A registry that is loaded anew registers under an id what the last file says that
carries the id, whatever the file is called.  Creating or updating a playbook writes the file
named for its id, and so takes away what that file said before: a restart is decided by
the other files.
-/

namespace Scout.Registry

open Files (Location Tree)
open Library (Defines Restores fileName stored)

variable {d d' : Desk} {l : Library} {t : Tree} {id : String} {p : Playbook}
variable {options : RunOptions} {maxDepth : Int}

/-! ## What loading registers -/

theorem find?_foldl_adopt (playbooks : List Playbook) (r : Registry) (id : String) :
    (playbooks.foldl adopt r).playbooks.find? id =
      (playbooks.filter fun p => p.id == id).getLast?.or (r.playbooks.find? id) := by
  induction playbooks using List.reverseRecOn with
  | nil => rfl
  | append_singleton rest p ih =>
    rw [List.foldl_concat, playbooks_adopt, List.filter_append]
    by_cases hid : p.id = id
    · subst hid
      simp [Members.find?_put_self]
    · rw [Members.find?_put_of_ne _ _ (Ne.symm hid), ih]
      simp [hid]

theorem find?_load_eq (isOpen : d.registry.library.IsOpen d.files) (id : String) :
    (finish load d).2.registry.playbooks.find? id =
      ((Library.loaded d.files d.registry.library.definitions).filter fun p =>
        p.id == id).getLast? := by
  obtain ⟨outcome, r, hload, -, playbooks⟩ := load_outcome isOpen
  rw [hload, playbooks, find?_foldl_adopt]
  exact Option.or_none

/-- Loading registers under an id what the last file says that carries it. -/
theorem find?_load (isOpen : d.registry.library.IsOpen d.files) (named : d.files.IsNamed) :
    (finish load d).2.registry.playbooks.find? id = some p ↔
      Restores d.files d.registry.library.definitions (fun _ => True) id p := by
  obtain ⟨D, opens⟩ := isOpen.definitions
  rw [find?_load_eq isOpen, Library.getLast?_loaded opens named]

theorem contains_load (isOpen : d.registry.library.IsOpen d.files) (named : d.files.IsNamed) :
    (finish load d).2.registry.playbooks.contains id = true ↔
      ∃ name p, Defines d.files d.registry.library.definitions name p ∧ p.id = id := by
  obtain ⟨D, opens⟩ := isOpen.definitions
  rw [Members.contains, find?_load_eq isOpen, List.getLast?_isSome, Ne, List.filter_eq_nil_iff]
  simp only [Library.mem_loaded opens named, beq_iff_eq, not_forall, not_not, exists_prop]
  constructor
  · rintro ⟨p, ⟨name, h⟩, hid⟩
    exact ⟨name, p, h, hid⟩
  · rintro ⟨name, p, h, hid⟩
    exact ⟨p, ⟨name, h⟩, hid⟩

/-- The registry that is loaded anew from the files of a library, whether or not it can read the
history. -/
def restarted (l : Library) (options : RunOptions) (maxDepth : Int) (t : Tree) : Registry :=
  (finish load ⟨fresh l options maxDepth, t⟩).2.registry

theorem find?_restarted (isOpen : l.IsOpen t) (named : t.IsNamed) :
    (restarted l options maxDepth t).playbooks.find? id = some p ↔
      Restores t l.definitions (fun _ => True) id p :=
  find?_load (d := ⟨fresh l options maxDepth, t⟩) isOpen named

theorem contains_restarted (isOpen : l.IsOpen t) (named : t.IsNamed) :
    (restarted l options maxDepth t).playbooks.contains id = true ↔
      ∃ name p, Defines t l.definitions name p ∧ p.id = id :=
  contains_load (d := ⟨fresh l options maxDepth, t⟩) isOpen named

/-! ## Writing a playbook -/

/-- A playbook that was created or updated is stored in the file named for its id, and memory
takes it up. -/
theorem of_defining {document : Value} {saved : Playbook} {D : Location}
    (opens : d.files.Opens d.registry.library.definitions D)
    (done : finish (create document) d = (.ok saved, d') ∨
      finish (Registry.update document) d = (.ok saved, d')) :
    d.registry.accepted document = .ok saved ∧
      d.files.at? (D ++ [fileName saved.id]) ≠ some .directory ∧
      d'.files = d.files.put (D ++ [fileName saved.id]) (stored saved.encode) ∧
      d'.registry.playbooks = d.registry.playbooks.put saved.id saved := by
  rw [finish_create, finish_update_playbook] at done
  cases accepted : d.registry.accepted document with
  | error e => simp [accepted] at done
  | ok p =>
    simp only [accepted] at done
    rcases saving : finish (d.registry.library.savePlaybook p) d.files with ⟨e | path, t⟩
    · -- what is not saved is not taken over
      simp only [saving] at done
      rcases done with created | updated
      · split at created <;> cases created
      · split at updated <;> cases updated
    · simp only [saving] at done
      obtain ⟨-, free, written⟩ := files_of_saved opens (noSlash_of_accepted accepted) saving
      rcases done with created | updated
      · split at created
        · cases created
        · cases created
          exact ⟨rfl, free, written, playbooks_adopt _ _⟩
      · split at updated
        · cases updated
          exact ⟨rfl, free, written, rfl⟩
        · cases updated

/-- After a playbook was created or updated, its file reads as no playbook with another id; all
other files read as before. -/
theorem defines_after_defining {document : Value} {saved : Playbook} {D : Location} {name : String}
    (opens : d.files.Opens d.registry.library.definitions D) (proper : document.isProper = true)
    (done : finish (create document) d = (.ok saved, d') ∨
      finish (Registry.update document) d = (.ok saved, d'))
    (other : p.id ≠ saved.id) :
    Defines d'.files d.registry.library.definitions name p ↔
      name ≠ fileName saved.id ∧ Defines d.files d.registry.library.definitions name p := by
  obtain ⟨accepted, free, written, -⟩ := of_defining opens done
  have keeps := Playbook.keeps (isStorable_of_accepted proper accepted)
  rw [written, Library.defines_put_iff opens free keeps.proper fun q hq =>
    (Playbook.id_of_decode_encode hq).trans_ne other.symm]
  simp

theorem use_defining {document : Value} {saved : Playbook}
    (done : finish (create document) d = (.ok saved, d') ∨
      finish (Registry.update document) d = (.ok saved, d')) : Use d d' := by
  rcases done with created | updated
  · have use := (Request.create document).use d
    rwa [Request.after, Request.act, finish_discard, created] at use
  · have use := (Request.update document).use d
    rwa [Request.after, Request.act, finish_discard, updated] at use

/-- After a playbook was created or updated, a restart gives for another id what the last file says
that carries it and is not the one just written. -/
theorem find?_restarted_defining {document : Value} {saved : Playbook} (order : d.InOrder)
    (named : d.files.IsNamed) (proper : document.isProper = true)
    (done : finish (create document) d = (.ok saved, d') ∨
      finish (Registry.update document) d = (.ok saved, d'))
    (other : id ≠ saved.id) :
    (restarted d.registry.library options maxDepth d'.files).playbooks.find? id = some p ↔
      Restores d.files d.registry.library.definitions (· ≠ fileName saved.id) id p := by
  have use := use_defining done
  obtain ⟨D, opens⟩ := order.isOpen.definitions
  rw [find?_restarted (use.library ▸ (use.inOrder order).isOpen) (use.changes.isNamed named)]
  refine Library.restores_congr fun name q hid => ?_
  rw [true_and, defines_after_defining opens proper done (hid.trans_ne other)]

/-- Creating or updating a playbook leaves every other one in memory.  A restart then gives for
another id what the last file says that carries it and is not the one just written; it gives what
it gave before unless that file carried the id. -/
theorem restart_after_defining {d₀ : Desk} (loaded : Loaded d₀)
    (normal : d₀.registry.library.IsNormal) (named : d₀.files.IsNamed) (reached : Reached d₀ d)
    {document : Value} (proper : document.isProper = true) {saved : Playbook}
    (done : finish (create document) d = (.ok saved, d') ∨
      finish (Registry.update document) d = (.ok saved, d'))
    (other : id ≠ saved.id) (options : RunOptions) (maxDepth : Int) :
    d'.registry.playbooks.find? id = d.registry.playbooks.find? id ∧
    (∀ p, (restarted d₀.registry.library options maxDepth d'.files).playbooks.find? id = some p ↔
      Restores d.files d₀.registry.library.definitions (· ≠ fileName saved.id) id p) ∧
    ((∀ p, Defines d.files d₀.registry.library.definitions (fileName saved.id) p → p.id ≠ id) →
      (restarted d₀.registry.library options maxDepth d'.files).playbooks.find? id =
        (restarted d₀.registry.library options maxDepth d.files).playbooks.find? id) := by
  obtain ⟨order, library, keepsNames⟩ := reached.inOrder (loaded.inOrder normal)
  obtain ⟨D, opens⟩ := order.isOpen.definitions
  rw [← library]
  have restored (p : Playbook) :
      (restarted d.registry.library options maxDepth d'.files).playbooks.find? id = some p ↔
        Restores d.files d.registry.library.definitions (· ≠ fileName saved.id) id p :=
    find?_restarted_defining order (keepsNames named) proper done other
  refine ⟨?_, restored, fun foreign => Option.ext fun p => ?_⟩
  · rw [(of_defining opens done).2.2.2, Members.find?_put_of_ne _ _ other]
  · rw [restored, find?_restarted order.isOpen (keepsNames named)]
    refine Library.restores_congr fun name q hid => ?_
    rw [true_and, and_iff_right_iff_imp]
    rintro reads rfl
    exact foreign q reads hid

/-! ## Days that start with one file -/

/-- A registry that was loaded from one file, which gives a playbook its id and nothing else. -/
def fileDay (name id : String) : Desk :=
  dayOf [(["definitions", name], "\x7b\"id\": \"" ++ id ++ "\"\x7d")]

theorem of_creates (document : Value) (d : Desk) (id : String)
    (h : (finish (create document) d).1.toOption.map Playbook.id = some id) :
    ∃ saved, finish (create document) d = (.ok saved, (finish (create document) d).2) ∧
      saved.id = id := by
  rcases hf : finish (create document) d with ⟨e | saved, d'⟩
  · rw [hf] at h
    cases h
  · rw [hf] at h
    exact ⟨saved, rfl, Option.some.inj h⟩

theorem restart_after_defining_neighbour :
    ∃ saved, Loaded (fileDay "b.json" "b") ∧ (fileDay "b.json" "b").registry.library.IsNormal ∧
      (fileDay "b.json" "b").files.IsNamed ∧ waiting.isProper = true ∧
      finish (create waiting) (fileDay "b.json" "b") =
        (.ok saved, (finish (create waiting) (fileDay "b.json" "b")).2) ∧
      "b" ≠ saved.id ∧
      (finish (create waiting) (fileDay "b.json" "b")).2.registry.playbooks.find? "b" =
        (fileDay "b.json" "b").registry.playbooks.find? "b" ∧
      (∀ p, (restarted (fileDay "b.json" "b").registry.library .standard 8
          (finish (create waiting) (fileDay "b.json" "b")).2.files).playbooks.find? "b" = some p ↔
        Restores (fileDay "b.json" "b").files (fileDay "b.json" "b").registry.library.definitions
          (· ≠ fileName saved.id) "b" p) ∧
      ((∀ p, Defines (fileDay "b.json" "b").files
            (fileDay "b.json" "b").registry.library.definitions (fileName saved.id) p →
          p.id ≠ "b") →
        (restarted (fileDay "b.json" "b").registry.library .standard 8
            (finish (create waiting) (fileDay "b.json" "b")).2.files).playbooks.find? "b" =
          (restarted (fileDay "b.json" "b").registry.library .standard 8
            (fileDay "b.json" "b").files).playbooks.find? "b") := by
  obtain ⟨saved, created, hid⟩ :=
    of_creates waiting (fileDay "b.json" "b") "a" (by decide +kernel)
  have loaded : Loaded (fileDay "b.json" "b") := loaded_dayOf (by decide +kernel)
  have normal : (fileDay "b.json" "b").registry.library.IsNormal :=
    ⟨by decide +kernel, by decide +kernel, by decide +kernel⟩
  have named : (fileDay "b.json" "b").files.IsNamed := isNamed_of_all (by decide +kernel)
  have other : "b" ≠ saved.id := by
    rw [hid]
    decide
  have proper : waiting.isProper = true := rfl
  have reached : Reached (fileDay "b.json" "b") (fileDay "b.json" "b") := .start
  have restored := restart_after_defining loaded normal named reached proper (.inl created) other
    .standard 8
  exact ⟨saved, loaded, normal, named, proper, created, other, restored⟩

/-- Not every playbook in memory comes back: creating a playbook overwrites the file that is named
for its id, and that file may hold another playbook. -/
theorem created_over_another :
    ¬ ∀ d₀ d, Loaded d₀ → d₀.registry.library.IsNormal → d₀.files.IsNamed → Reached d₀ d →
      ∀ document saved d', document.isProper = true →
      (finish (create document) d = (.ok saved, d') ∨
        finish (Registry.update document) d = (.ok saved, d')) →
      ∀ id, id ≠ saved.id → ∀ p, d.registry.playbooks.find? id = some p →
      ∀ options maxDepth,
        (restarted d₀.registry.library options maxDepth d'.files).playbooks.find? id = some p := by
  intro claim
  obtain ⟨saved, created, hid⟩ :=
    of_creates waiting (fileDay "a.json" "b") "a" (by decide +kernel)
  have loaded : Loaded (fileDay "a.json" "b") := loaded_dayOf (by decide +kernel)
  have normal : (fileDay "a.json" "b").registry.library.IsNormal :=
    ⟨by decide +kernel, by decide +kernel, by decide +kernel⟩
  have named : (fileDay "a.json" "b").files.IsNamed := isNamed_of_all (by decide +kernel)
  have other : "b" ≠ saved.id := by
    rw [hid]
    decide
  have held : ((fileDay "a.json" "b").registry.playbooks.find? "b").isSome = true := by
    decide +kernel
  have proper : waiting.isProper = true := rfl
  have reached : Reached (fileDay "a.json" "b") (fileDay "a.json" "b") := .start
  obtain ⟨p, hp⟩ := Option.isSome_iff_exists.1 held
  have restored := claim _ _ loaded normal named reached waiting saved _ proper (.inl created) "b"
    other p hp .standard 8
  -- the one file that was there is the one that got overwritten
  have order := loaded.inOrder normal
  rw [find?_restarted_defining order named proper (.inl created) other] at restored
  obtain ⟨name, elsewhere, reads, -⟩ := restored
  obtain ⟨D, opens⟩ := order.isOpen.definitions
  have listed := ((Library.defines_iff opens named).1 reads).1
  have place : (fileDay "a.json" "b").files.locate
      (fileDay "a.json" "b").registry.library.definitions = .ok ["srv", "home", "definitions"] := by
    decide +kernel
  have files : Tree.inOrder
      ((fileDay "a.json" "b").files.shelf ["srv", "home", "definitions"]).names = ["a.json"] := by
    decide +kernel
  rw [Except.ok.inj (opens.place.symm.trans place), files, List.mem_singleton] at listed
  exact elsewhere (by rw [listed, hid]; rfl)

end Scout.Registry
