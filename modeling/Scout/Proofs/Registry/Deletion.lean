import Scout.Proofs.Registry.Restored

/-!
# Deleted playbooks after a restart

Deleting a playbook removes the file that is named for its id.  Another file that carries
the id brings the playbook back at a restart.  Nothing else does: what a registry writes
later carries the id only if somebody asks for it.
-/

namespace Scout.Registry

open Files (Location Tree)
open Library (Defines)

variable {q : Request} {d d' : Desk} {id name : String} {p : Playbook}

/-! ## What is written later -/

/-- Whether a request hands in a playbook with an id. -/
def Request.AsksFor (q : Request) (d : Desk) (id : String) : Prop :=
  ∃ document p, q.submission? d = some document ∧ d.registry.accepted document = .ok p ∧ p.id = id

/-- What a registry comes to as long as nobody asks for a playbook with an id, and no execution is
kept under it. -/
inductive Spared (id : String) (d : Desk) : Desk → Prop
  | start : Spared id d d
  | request {d' : Desk} (before : Spared id d d') {q : Request} (proper : q.IsProper)
      (unasked : ¬ q.AsksFor d' id) (unrecorded : q.historyId? ≠ some id) :
      Spared id d (q.after d')
  | exported {d' : Desk} (before : Spared id d d') (other path : String)
      (proper : ∀ p, d'.registry.playbooks.find? other = some p → p.encode.isProper = true) :
      Spared id d (finish (exportTo other path) d').2
  | reloaded {d' : Desk} (before : Spared id d d') : Spared id d (finish load d').2

theorem Spared.reached (spared : Spared id d d') : Reached d d' := by
  induction spared with
  | start => exact .start
  | request _ _ _ _ ih => exact ih.request _
  | exported _ other path _ ih => exact ih.exported other path
  | reloaded _ ih => exact ih.reloaded

/-- Whether an id is neither in memory nor in any file. -/
structure Barred (id : String) (d : Desk) : Prop where
  absent : d.registry.playbooks.contains id = false
  uncarried : ∀ name p, Defines d.files d.registry.library.definitions name p → p.id ≠ id

/-- An id stays barred when memory does not take it up and no file comes to carry it. -/
theorem Barred.of_use (h : Barred id d) (use : Use d d')
    (absent : d'.registry.playbooks.contains id = false)
    (defines : ∀ name p, p.id = id → Defines d'.files d.registry.library.definitions name p →
      Defines d.files d.registry.library.definitions name p) : Barred id d' := by
  refine ⟨absent, fun name p reads hid => ?_⟩
  rw [use.library] at reads
  exact h.uncarried name p (defines name p hid reads) hid

theorem proper_of_kept? {e : HistoryEntry} (proper : q.IsProper) (asked : q.kept? d = some e) :
    e.vars.AreProper := by
  cases q with
  | execute id visit =>
    obtain ⟨p, -, rfl⟩ := Option.map_eq_some_iff.1 asked
    exact proper _ _
  | record entry =>
    cases asked
    exact proper
  | _ => cases asked

theorem defines_of_savePlaybook {D : Location} {t t' : Tree} {saved : Playbook}
    {dir path written : String} {r : Except Files.Fault String} (opens : t.Opens dir D)
    (proper : saved.encode.isProper = true) (other : saved.id ≠ id)
    (saving : finish (do Library.writeDocument path saved.encode; pure written) t = (r, t'))
    (name : String) (p : Playbook) (hid : p.id = id) (h : Defines t' dir name p) :
    Defines t dir name p :=
  Library.defines_of_saving opens saving proper
    (fun _ hq => (Playbook.id_of_decode_encode hq).trans_ne (hid ▸ other)) h

theorem defines_of_saveExecution {D : Location} {t t' : Tree} {e : HistoryEntry}
    {dir path written : String} {r : Except Files.Fault String} (opens : t.Opens dir D)
    (proper : e.vars.AreProper) (other : e.id ≠ id)
    (saving : finish (do Library.writeDocument path e.encode; pure written) t = (r, t'))
    (name : String) (p : Playbook) (hid : p.id = id) (h : Defines t' dir name p) :
    Defines t dir name p :=
  Library.defines_of_saving opens saving (HistoryEntry.proper_encode proper)
    (fun _ hq => (HistoryEntry.id_of_decode hq).trans_ne (hid ▸ other)) h

theorem Barred.of_saved {D : Location} {document : Value} {saved : Playbook} {path : String}
    {t : Tree} {r : Registry} (h : Barred id d)
    (opens : d.files.Opens d.registry.library.definitions D) (proper : document.isProper = true)
    (accepted : d.registry.accepted document = .ok saved) (other : saved.id ≠ id)
    (saving : finish (d.registry.library.savePlaybook saved) d.files = (.ok path, t))
    (registered : r.playbooks = d.registry.playbooks.put saved.id saved)
    (use : Use d ⟨r, t⟩) : Barred id ⟨r, t⟩ := by
  have storable := isStorable_of_accepted proper accepted
  refine h.of_use use ?_
    (defines_of_savePlaybook opens (Playbook.keeps storable).proper other saving)
  rw [registered, Members.contains_put, h.absent]
  simpa using other.symm

theorem Barred.after (h : Barred id d) (order : d.InOrder) (proper : q.IsProper)
    (unasked : ¬ q.AsksFor d id) (unrecorded : q.historyId? ≠ some id) :
    Barred id (q.after d) := by
  obtain ⟨D, opens⟩ := order.isOpen.definitions
  have use := q.use d
  have effect := q.effect d
  generalize q.after d = d' at use effect
  cases effect with
  | refused => exact h
  | unsaved accepted saving =>
    rw [files_of_unsaved opens (noSlash_of_accepted accepted) saving]
    exact ⟨h.absent, h.uncarried⟩
  | @created document saved path t asked accepted isNew saving =>
    have other : saved.id ≠ id := fun hid => unasked ⟨document, saved, asked, accepted, hid⟩
    exact h.of_saved opens (proper_submission? proper asked) accepted other saving
      (playbooks_adopt _ _) use
  | @replaced document saved path t asked accepted isKnown saving =>
    have other : saved.id ≠ id := by
      rintro rfl
      rw [h.absent] at isKnown
      cases isKnown
    subst asked
    exact h.of_saved opens proper accepted other saving rfl use
  | undeleted removal unnameable =>
    rw [files_of_undeleted removal unnameable]
    exact ⟨h.absent, h.uncarried⟩
  | deleted _ _ removal _ =>
    refine h.of_use use ?_ fun _ _ _ reads =>
      ((Library.defines_removal_iff opens removal).1 reads).1
    change (d.registry.playbooks.erase _).contains id = false
    rw [Members.contains_erase, h.absent, Bool.and_false]
  | @unrecorded e r t asked saving _ =>
    have other : e.id ≠ id := fun hid => unrecorded (hid ▸ historyId?_of_kept? asked)
    exact h.of_use use h.absent
      (defines_of_saveExecution opens (proper_of_kept? proper asked) other saving)
  | @recorded e r t asked saving _ =>
    have other : e.id ≠ id := fun hid => unrecorded (hid ▸ historyId?_of_kept? asked)
    refine h.of_use use ?_
      (defines_of_saveExecution opens (proper_of_kept? proper asked) other saving)
    change (d.registry.enter e).playbooks.contains id = false
    rw [playbooks_enter]
    exact h.absent

theorem Barred.exported (h : Barred id d) (order : d.InOrder) (other path : String)
    (proper : ∀ p, d.registry.playbooks.find? other = some p → p.encode.isProper = true) :
    Barred id (finish (exportTo other path) d).2 := by
  obtain ⟨D, opens⟩ := order.isOpen.definitions
  have use := use_exportTo other path d
  rcases exportTo_outcome other path d with same | ⟨p, r, t, found, saving, left⟩
  · rwa [same]
  · rw [left] at use ⊢
    have hkey : other = p.id := order.isKeyed _ (Members.mem_of_find? found)
    have hne : p.id ≠ id := by
      rintro rfl
      have absent := h.absent
      rw [Members.contains, ← hkey, found] at absent
      cases absent
    exact h.of_use use h.absent (defines_of_savePlaybook opens (proper p found) hne saving)

theorem Barred.reloaded (h : Barred id d) (isOpen : d.registry.library.IsOpen d.files)
    (named : d.files.IsNamed) : Barred id (finish load d).2 := by
  have absent : (finish load d).2.registry.playbooks.contains id = false := by
    rw [← Bool.not_eq_true, contains_load isOpen named]
    rintro ⟨name, p, reads, hid⟩
    exact h.uncarried name p reads hid
  refine h.of_use (use_load isOpen) absent fun name p _ reads => ?_
  obtain ⟨outcome, r, hload, -⟩ := load_outcome isOpen
  rwa [hload] at reads

theorem Barred.spared (h : Barred id d) (order : d.InOrder) (named : d.files.IsNamed)
    (spared : Spared id d d') : Barred id d' := by
  induction spared with
  | start => exact h
  | request before proper unasked unrecorded ih =>
    exact ih.after (before.reached.inOrder order).1 proper unasked unrecorded
  | exported before other path proper ih =>
    exact ih.exported (before.reached.inOrder order).1 other path proper
  | reloaded before ih =>
    obtain ⟨order', -, keepsNames⟩ := before.reached.inOrder order
    exact ih.reloaded order'.isOpen (keepsNames named)

/-! ## Deleting -/

theorem of_delete (done : finish (Registry.delete id) d = (.ok (), d')) :
    ∃ r, finish (d.registry.library.removePlaybook id) d.files = (r, d'.files) ∧
      d'.registry.playbooks.contains id = false := by
  rw [finish_delete] at done
  split at done
  · dsimp only at done
    split at done
    · next unnameable =>
      rcases hr : (finish (d.registry.library.removePlaybook id) d.files).1 with e | a
      · simp [hr, Except.mapError] at done
      · rw [hr] at unnameable
        cases unnameable
    · cases done
      exact ⟨_, rfl, by simp [forget, Members.contains_erase]⟩
  · cases done

theorem use_delete (done : finish (Registry.delete id) d = (.ok (), d')) : Use d d' := by
  have use := (Request.delete id).use d
  rwa [Request.after, Request.act, done] at use

/-- After a playbook was deleted, a restart registers its id exactly when a file carries the id that
is not the one named for it.  If it does not, then neither does any later restart, as long as
nobody asks for the id and no execution is kept under it. -/
theorem restart_after_delete {d₀ : Desk} (loaded : Loaded d₀)
    (normal : d₀.registry.library.IsNormal) (named : d₀.files.IsNamed) (reached : Reached d₀ d)
    (done : finish (Registry.delete id) d = (.ok (), d')) (options : RunOptions)
    (maxDepth : Int) :
    ((restarted d₀.registry.library options maxDepth d'.files).playbooks.contains id = true ↔
      ∃ name p, Defines d.files d₀.registry.library.definitions name p ∧ p.id = id ∧
        d.files.locate (Files.join d₀.registry.library.definitions name) ≠
          d.files.locate (d₀.registry.library.definitionPath id)) ∧
    ((restarted d₀.registry.library options maxDepth d'.files).playbooks.contains id = false →
      ∀ d'', Spared id d' d'' →
        (restarted d₀.registry.library options maxDepth d''.files).playbooks.contains id =
          false) := by
  obtain ⟨order, library, keepsNames⟩ := reached.inOrder (loaded.inOrder normal)
  have use := use_delete done
  have order' := use.inOrder order
  have named' := use.changes.isNamed (keepsNames named)
  obtain ⟨r, removal, absent⟩ := of_delete done
  obtain ⟨D, opens⟩ := order.isOpen.definitions
  have registers : (restarted d₀.registry.library options maxDepth d'.files).playbooks.contains id =
      true ↔ ∃ name p, Defines d'.files d₀.registry.library.definitions name p ∧ p.id = id :=
    contains_restarted (library ▸ use.library ▸ order'.isOpen) named'
  constructor
  · rw [registers, ← library]
    refine exists_congr fun name => exists_congr fun p => ?_
    rw [Library.defines_removal_iff opens removal, and_assoc, and_comm (a := p.id = id)]
  · intro unregistered d'' spared
    obtain ⟨order'', library'', keepsNames''⟩ := spared.reached.inOrder order'
    have barred : Barred id d' := by
      refine ⟨absent, fun name p reads hid => ?_⟩
      rw [use.library, library] at reads
      rw [registers.2 ⟨name, p, reads, hid⟩] at unregistered
      cases unregistered
    rw [← Bool.not_eq_true, contains_restarted (library ▸ use.library ▸ library'' ▸ order''.isOpen)
      (keepsNames'' named')]
    rintro ⟨name, p, reads, hid⟩
    rw [← library, ← use.library, ← library''] at reads
    exact (barred.spared order' named' spared).uncarried name p reads hid

theorem of_deletes (id : String) (d : Desk) (h : (finish (Registry.delete id) d).1.isOk = true) :
    finish (Registry.delete id) d = (.ok (), (finish (Registry.delete id) d).2) := by
  rcases hf : finish (Registry.delete id) d with ⟨e | a, d'⟩
  · rw [hf] at h
    cases h
  · rfl

theorem restart_after_delete_waiting :
    Loaded firstDay ∧ firstDay.registry.library.IsNormal ∧ firstDay.files.IsNamed ∧
    Reached firstDay (firstDay.afterAll [.create waiting]) ∧
    ∃ d', finish (Registry.delete "a") (firstDay.afterAll [.create waiting]) = (.ok (), d') ∧
      ((restarted firstDay.registry.library .standard 8 d'.files).playbooks.contains "a" = true ↔
        ∃ name p, Defines (firstDay.afterAll [.create waiting]).files
            firstDay.registry.library.definitions name p ∧ p.id = "a" ∧
          (firstDay.afterAll [.create waiting]).files.locate
              (Files.join firstDay.registry.library.definitions name) ≠
            (firstDay.afterAll [.create waiting]).files.locate
              (firstDay.registry.library.definitionPath "a")) ∧
      ((restarted firstDay.registry.library .standard 8 d'.files).playbooks.contains "a" = false →
        ∀ d'', Spared "a" d' d'' →
          (restarted firstDay.registry.library .standard 8 d''.files).playbooks.contains "a" =
            false) := by
  have reached := Reached.afterAll firstDay [.create waiting]
  have done := of_deletes "a" (firstDay.afterAll [.create waiting]) (by decide +kernel)
  have restart := restart_after_delete loaded_firstDay isNormal_firstDay isNamed_firstDay reached
    done .standard 8
  exact ⟨loaded_firstDay, isNormal_firstDay, isNamed_firstDay, reached, _, done, restart⟩

/-! ## A file with another name -/

/-- Not every playbook stays deleted: one that was loaded from a file with another name comes
back. -/
theorem deleted_comes_back :
    ¬ ∀ d₀ d, Loaded d₀ → d₀.registry.library.IsNormal → d₀.files.IsNamed → Reached d₀ d →
      ∀ id d', finish (Registry.delete id) d = (.ok (), d') → ∀ options maxDepth,
        (restarted d₀.registry.library options maxDepth d'.files).playbooks.contains id =
          false := by
  intro claim
  have loaded : Loaded (fileDay "b.json" "a") := loaded_dayOf (by decide +kernel)
  have normal : (fileDay "b.json" "a").registry.library.IsNormal :=
    ⟨by decide +kernel, by decide +kernel, by decide +kernel⟩
  have named : (fileDay "b.json" "a").files.IsNamed := isNamed_of_all (by decide +kernel)
  have reached : Reached (fileDay "b.json" "a") (fileDay "b.json" "a") := .start
  have done := of_deletes "a" (fileDay "b.json" "a") (by decide +kernel)
  have gone := claim _ _ loaded normal named reached "a" _ done .standard 8
  have back : (restarted (fileDay "b.json" "a").registry.library .standard 8
      (finish (Registry.delete "a") (fileDay "b.json" "a")).2.files).playbooks.contains "a" =
        true := by
    decide +kernel
  rw [back] at gone
  cases gone

end Scout.Registry
