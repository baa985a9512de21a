import Scout.Proofs.Registry.Beginnings
import Scout.Proofs.Registry.Labels

/-!
# Playbooks on offer

A playbook that was created is on offer: it is registered as it is, has statistics of its
own and can be deleted.  It stays so as long as no request deletes it or puts another one in
its place.
-/

namespace Scout

open Files (Tree)

/-! ## Names of files -/

namespace Files.Tree

theorem cause_of_follow {t : Tree} {l : Location} {names : List String} {c : Cause}
    (h : t.follow l names = .error c) : c ≠ .zeroCharacter := by
  induction names generalizing l with
  | nil => cases h
  | cons n rest ih =>
    rw [follow] at h
    split at h
    · cases h
      simp
    · cases h
      simp
    · split at h
      · exact ih h
      · split at h
        · cases h
          simp
        · exact ih h

theorem cause_of_locate {t : Tree} {path : String} {e : Fault}
    (noZero : Char.ofNat 0 ∉ path.toList) (h : t.locate path = .error e) :
    e.cause ≠ .zeroCharacter := by
  unfold locate at h
  rw [if_neg (by simpa using noZero)] at h
  by_cases long : pathLimit ≤ (normal path).utf8ByteSize
  · rw [if_pos long] at h
    cases h
    simp
  · rw [if_neg long] at h
    cases followed : t.follow (if isAbsolute path then [] else t.home) (partsOf path) with
    | ok l =>
      rw [followed] at h
      cases h
    | error c =>
      rw [followed] at h
      cases h
      exact cause_of_follow followed

end Files.Tree

namespace Registry

variable {d d' : Desk} {q : Request} {p : Playbook} {id : String}

theorem noZero_of_saved {l : Library} {t t' : Tree} {path : String}
    (saving : finish (l.savePlaybook p) t = (.ok path, t')) :
    Char.ofNat 0 ∉ (l.definitionPath p.id).toList := by
  obtain ⟨t₁, -, ⟨e, failed, -⟩ | ⟨k, place, -⟩⟩ := Library.save_outcome saving
  · cases failed
  · exact (Tree.locate_eq_ok.1 place).1

theorem nameable_removal {l : Library} (t : Tree)
    (noZero : Char.ofNat 0 ∉ (l.definitionPath id).toList) :
    isUnnameable (finish (l.removePlaybook id) t).1 = false := by
  rw [Library.removePlaybook, Files.Act.finish_change, Tree.remove]
  cases place : t.locate (l.definitionPath id) with
  | error e => simpa [isUnnameable, bind, Except.bind] using Tree.cause_of_locate noZero place
  | ok k =>
    rcases standing : t.at? k with _ | c | _ <;>
      simp [standing, isUnnameable, bind, Except.bind, pure, Except.pure]

/-! ## Requests that leave a playbook alone -/

/-- A request neither deletes nor replaces the playbook with an id. -/
def Request.Spares (q : Request) (id : String) (d : Desk) : Prop :=
  q ≠ .delete id ∧ ∀ p, q.registers? d = some p → p.id ≠ id

theorem registers?_update {document : Value} {path : String} {t : Tree}
    (accepted : d.registry.accepted document = .ok p)
    (isKnown : d.registry.playbooks.contains p.id = true)
    (saving : finish (d.registry.library.savePlaybook p) d.files = (.ok path, t)) :
    (Request.update document).registers? d = some p := by
  have done : finish (Registry.update document) d = (.ok p, ⟨d.registry.replace p, t⟩) := by
    rw [finish_update_playbook, accepted]
    simp [isKnown, saving]
  rw [Request.registers?, done]
  rfl

/-- A registered playbook that a request leaves alone stays registered as it is. -/
theorem Request.Spares.find?_after (spares : q.Spares id d)
    (found : d.registry.playbooks.find? id = some p) :
    (q.after d).registry.playbooks.find? id = some p := by
  have effect := q.effect d
  generalize q.after d = d' at effect
  cases effect with
  | refused | unsaved | undeleted | unrecorded => exact found
  | @created document saved path t _ _ isNew _ =>
    have other : id ≠ saved.id := by
      rintro rfl
      rw [Members.contains, found] at isNew
      cases isNew
    rw [playbooks_adopt, Members.find?_put_of_ne _ _ other]
    exact found
  | @replaced document saved path t asked accepted isKnown saving =>
    subst asked
    have other : id ≠ saved.id := (spares.2 saved (registers?_update accepted isKnown saving)).symm
    exact (Members.find?_put_of_ne _ _ other).trans found
  | @deleted gone _ _ asked _ _ _ =>
    have other : id ≠ gone := by
      rintro rfl
      exact spares.1 asked
    exact (Members.find?_erase_of_ne _ other).trans found
  | recorded =>
    rw [playbooks_enter]
    exact found

theorem registry_exportTo (id path : String) (d : Desk) :
    (finish (exportTo id path) d).2.registry = d.registry := by
  rcases exportTo_outcome id path d with same | ⟨p, r, t, -, -, left⟩
  · rw [same]
  · rw [left]

/-- A playbook is registered, has statistics under its id, and can be deleted. -/
structure Offers (d : Desk) (p : Playbook) : Prop where
  found : d.registry.playbooks.find? p.id = some p
  tended : d.registry.Tended
  nameable : Char.ofNat 0 ∉ (d.registry.library.definitionPath p.id).toList

theorem Offers.after (h : Offers d p) (spares : q.Spares p.id d) : Offers (q.after d) p where
  found := spares.find?_after h.found
  tended := (q.effect d).tended h.tended
  nameable := library_after q d ▸ h.nameable

theorem Offers.exported (h : Offers d p) (id path : String) :
    Offers (finish (exportTo id path) d).2 p := by
  obtain ⟨found, tended, nameable⟩ := h
  constructor <;> rwa [registry_exportTo]

theorem Offers.reloaded (h : Offers d p)
    (kept : (finish load d).2.registry.playbooks.find? p.id = some p) :
    Offers (finish load d).2 p where
  found := kept
  tended := h.tended.load
  nameable := library_load d ▸ h.nameable

theorem offers_of_create {document : Value} (tended : d.registry.Tended)
    (created : finish (create document) d = (.ok p, d')) : Offers d' p := by
  rw [finish_create] at created
  cases accepted : d.registry.accepted document with
  | error e => simp [accepted] at created
  | ok saved =>
    simp only [accepted] at created
    split at created
    · cases created
    · rcases saving : finish (d.registry.library.savePlaybook saved) d.files with ⟨e | path, t⟩
      · simp [saving] at created
      · rw [saving] at created
        cases created
        refine ⟨?_, ⟨tended.paired.adopt _, tended.labelled.adopt _⟩, ?_⟩
        · rw [playbooks_adopt, Members.find?_put_self]
        · rw [library_adopt]
          exact noZero_of_saved saving

theorem Offers.finish_delete (h : Offers d p) :
    ∃ t, finish (delete p.id) d = (.ok (), ⟨d.registry.forget p.id, t⟩) := by
  have known : d.registry.playbooks.contains p.id = true := by
    rw [Members.contains, h.found]
    rfl
  have nameable := nameable_removal (l := d.registry.library) d.files h.nameable
  refine ⟨(finish (d.registry.library.removePlaybook p.id) d.files).2, ?_⟩
  rw [Registry.finish_delete, if_pos known]
  dsimp only
  rw [if_neg (by simp [nameable])]

theorem Offers.stats (h : Offers d p) :
    ∃ s, d.registry.stats.find? p.id = some s ∧ s.id = p.id := by
  have known : d.registry.stats.contains p.id = true := by
    rw [h.tended.paired p.id, Members.contains, h.found]
    rfl
  obtain ⟨s, hs⟩ := Option.isSome_iff_exists.1 known
  exact ⟨s, hs, h.tended.labelled _ s hs⟩

end Registry

end Scout
