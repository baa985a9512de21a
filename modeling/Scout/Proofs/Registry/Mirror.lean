import Scout.Proofs.Library.Stored
import Scout.Proofs.Registry.Counts

/-!
# Memory and files

The files of a registry mirror its memory: the shelf of the definitions holds the
document of each playbook, that of the history the document of each execution.
Every request keeps the two in step, whether it succeeds or not, provided that
what it carries can be written and that no execution takes the id of another.
-/

namespace Scout

open Files (Location Tree)
open Library (fileName stored shelfOf)

/-! ## Ids as file names -/

namespace Check

theorem noSlash_of_isId {s : String} (h : isId s = true) : '/' ∉ s.toList := by
  intro hmem
  have hbody (body : List Char) (hall : body.all isIdChar = true) : '/' ∉ body := by
    intro hslash
    have hid := List.all_eq_true.1 hall '/' hslash
    revert hid
    decide
  simp only [isId, Bool.and_eq_true] at h
  obtain ⟨-, h⟩ := h
  split at h
  · next hlast =>
    rw [beq_iff_eq] at hlast
    rw [← List.dropLast_append_getLast? _ hlast] at hmem
    rcases List.mem_append.1 hmem with hmem | hmem
    · exact hbody _ h hmem
    · simp at hmem
  · exact hbody _ h hmem

theorem isId_of_check {p : Playbook} {maxDepth : Int} (h : (p.check maxDepth).isValid = true) :
    isId p.id = true := by
  have hfaults : idFaults p.id = [] := by
    simp only [Playbook.check, List.isEmpty_iff, faults, headFaults, List.append_eq_nil_iff] at h
    exact h.1.1.1.1.1.1
  unfold idFaults at hfaults
  split at hfaults
  · cases hfaults
  · split at hfaults
    · assumption
    · cases hfaults

end Check

/-! ## Shelves that follow the memory -/

namespace Library

variable {α : Type}

theorem shelfOf_put (write : α → Value) (ms : Members α) (name : String) (a : α) :
    shelfOf Prod.fst (fun m => write m.2) (ms.put name a) =
      Members.put (shelfOf Prod.fst (fun m => write m.2) ms) (fileName name)
        (stored (write a)) := by
  induction ms with
  | nil => rfl
  | cons m rest ih =>
    obtain ⟨k, b⟩ := m
    by_cases hk : k = name
    · simp [shelfOf, Members.put, hk]
    · have hfile : fileName k ≠ fileName name := fun e => hk (fileName_injective e)
      rw [Members.put, if_neg hk]
      simp only [shelfOf, List.map_cons] at ih ⊢
      rw [Members.put, if_neg hfile, ih]

theorem shelfOf_erase (write : α → Value) (ms : Members α) (name : String) :
    shelfOf Prod.fst (fun m => write m.2) (ms.erase name) =
      Members.erase (shelfOf Prod.fst (fun m => write m.2) ms) (fileName name) := by
  have hfile (m : String × α) : (fileName m.1 != fileName name) = (m.1 != name) := by
    simp [bne, fileName_injective.eq_iff]
  simp only [shelfOf, Members.erase, List.filter_map, Function.comp_def, hfile]

theorem shelfOf_append {key : α → String} {write : α → Value} {items : List α} {a : α}
    (h : key a ∉ items.map key) :
    Members.put (shelfOf key write items) (fileName (key a)) (stored (write a)) =
      shelfOf key write (items ++ [a]) := by
  have hfile : fileName (key a) ∉ Members.names (shelfOf key write items) := by
    intro hmem
    simp only [shelfOf, Members.names, List.map_map, List.mem_map, Function.comp_apply] at hmem
    obtain ⟨b, hb, hname⟩ := hmem
    exact h (List.mem_map.2 ⟨b, hb, fileName_injective hname⟩)
  rw [Members.put_of_not_mem _ hfile, shelfOf, shelfOf, List.map_append]
  rfl

end Library

namespace Registry

variable {D H : Location} {d : Desk} {q : Request}

/-! ## The mirror -/

/-- The directories of a library are there, and playbooks and executions are kept apart. -/
structure StandsAt (l : Library) (t : Tree) (D H : Location) : Prop where
  definitions : t.Opens l.definitions D
  templates : ∃ T, t.Opens l.templates T
  history : t.Opens l.history H
  apart : D ≠ H

theorem StandsAt.of_keeps {l : Library} {t t' : Tree} (h : StandsAt l t D H)
    (k : t.KeepsDirectories t') : StandsAt l t' D H where
  definitions := h.definitions.of_keeps k
  templates := h.templates.imp fun _ hT => hT.of_keeps k
  history := h.history.of_keeps k
  apart := h.apart

/-- The files of a desk are the documents of what its registry holds, and every document can
be read back. -/
structure Mirrors (D H : Location) (d : Desk) : Prop where
  library : StandsAt d.registry.library d.files D H
  definitions : d.files.shelf D =
    shelfOf Prod.fst (fun m => m.2.encode) d.registry.playbooks
  history : d.files.shelf H = shelfOf HistoryEntry.id HistoryEntry.encode d.registry.history
  names : d.registry.playbooks.names.Nodup
  playbook : ∀ m ∈ d.registry.playbooks, m.1 = m.2.id ∧ m.2.IsStorable ∧
    d.files.locate (d.registry.library.definitionPath m.1) = .ok (D ++ [fileName m.1])
  ids : (d.registry.history.map HistoryEntry.id).Nodup
  execution : ∀ e ∈ d.registry.history, e.IsStorable ∧ e.executedAt.isNaive = false ∧
    d.files.locate (Library.documentPath d.registry.library.history e.id) =
      .ok (H ++ [fileName e.id])

/-! ## What requests carry -/

/-- Whether an execution can be kept in the history of a library. -/
structure CanKeep (l : Library) (e : HistoryEntry) : Prop where
  isStorable : e.IsStorable
  isAware : e.executedAt.isNaive = false
  noSlash : '/' ∉ e.id.toList
  fits : Tree.FitsIn l.history (fileName e.id)

/-- Whether what a request carries can be written: its data have distinct names, and the
execution that it leaves, however it ends, can be kept. -/
def Request.IsSound (l : Library) : Request → Prop
  | create document => document.isProper = true
  | update document => document.isProper = true
  | delete _ => True
  | fromTemplate _ _ given => ∀ m ∈ given, m.2.isProper = true
  | importFrom _ => True
  | execute _ visit => ∀ id report, CanKeep l (visit.entry id report)
  | record entry => CanKeep l entry

/-- Whether the data that a request carries have distinct names. -/
def Request.IsProper : Request → Prop
  | create document => document.isProper = true
  | update document => document.isProper = true
  | delete _ => True
  | fromTemplate _ _ given => ∀ m ∈ given, m.2.isProper = true
  | importFrom _ => True
  | execute _ visit => ∀ id report, (visit.entry id report).vars.AreProper
  | record entry => entry.vars.AreProper

theorem Request.IsSound.isProper {l : Library} (sound : q.IsSound l) : q.IsProper := by
  cases q with
  | execute id visit => exact fun id report => (sound id report).isStorable.vars
  | record entry => exact sound.isStorable.vars
  | _ => exact sound

def Request.historyId? : Request → Option String
  | execute _ visit => some visit.historyId
  | record entry => some entry.id
  | _ => none

theorem historyId?_of_kept? {e : HistoryEntry} (h : q.kept? d = some e) :
    q.historyId? = some e.id := by
  cases q with
  | execute id visit =>
    obtain ⟨p, -, rfl⟩ := Option.map_eq_some_iff.1 h
    rfl
  | record entry =>
    cases h
    rfl
  | _ => cases h

theorem canKeep_of_kept? {e : HistoryEntry} (sound : q.IsSound d.registry.library)
    (h : q.kept? d = some e) : CanKeep d.registry.library e := by
  cases q with
  | execute id visit =>
    obtain ⟨p, -, rfl⟩ := Option.map_eq_some_iff.1 h
    exact sound _ _
  | record entry =>
    cases h
    exact sound
  | _ => cases h

theorem proper_loadTemplate {l : Library} {t : Tree} {name : String} {ms : Members Value}
    (h : l.loadTemplate t name = .ok ms) : ms.AreProper := by
  unfold Library.loadTemplate at h
  cases hr : Library.readDocument t (Library.documentPath l.templates name) with
  | error e =>
    simp only [hr, bind, Except.bind] at h
    split at h <;> cases h
  | ok v =>
    simp only [hr, bind, Except.bind] at h
    split at h
    · cases h
    · split at h
      · cases h
        exact Value.isProper_record.1 (Library.proper_readDocument hr)
      · cases h

theorem proper_submission? {document : Value} (proper : q.IsProper)
    (h : q.submission? d = some document) : document.isProper = true := by
  cases q with
  | create data =>
    cases h
    exact proper
  | fromTemplate template id given =>
    rw [Request.submission?] at h
    split at h
    · next ms hms =>
      cases h
      rw [templated, Value.isProper_record]
      exact ((proper_loadTemplate hms).overlay (by simp [Value.isProper])).overlay proper
    · cases h
  | importFrom path =>
    rw [Request.submission?] at h
    split at h
    · next ms hms =>
      cases h
      exact Library.proper_readDocument hms
    · cases h
  | _ => cases h

theorem noSlash_of_accepted {r : Registry} {document : Value} {p : Playbook}
    (h : r.accepted document = .ok p) : '/' ∉ p.id.toList := by
  obtain ⟨ms, -, -, hvalid⟩ := of_accepted h
  exact Check.noSlash_of_isId (Check.isId_of_check hvalid)

theorem isStorable_of_accepted {r : Registry} {document : Value} {p : Playbook}
    (hdocument : document.isProper = true) (h : r.accepted document = .ok p) : p.IsStorable := by
  obtain ⟨ms, hms, hdecode, -⟩ := of_accepted h
  exact Playbook.isStorable_decode
    (Value.isProper_record.2 (Pairs.proper_members hdocument hms)) hdecode

/-! ## Saving -/

/-- A playbook that is not saved leaves no trace. -/
theorem files_of_unsaved {l : Library} {t t' : Tree} {p : Playbook} {f : Files.Fault}
    (opens : t.Opens l.definitions D) (hp : '/' ∉ p.id.toList)
    (saving : finish (l.savePlaybook p) t = (.error f, t')) : t' = t := by
  rcases Library.save_cases opens hp saving with ⟨-, -, unchanged⟩ | ⟨saved, -⟩
  · exact unchanged
  · cases saved

theorem files_of_saved {l : Library} {t t' : Tree} {p : Playbook} {path : String}
    (opens : t.Opens l.definitions D) (hp : '/' ∉ p.id.toList)
    (saving : finish (l.savePlaybook p) t = (.ok path, t')) :
    t.locate (l.definitionPath p.id) = .ok (D ++ [fileName p.id]) ∧
      t.at? (D ++ [fileName p.id]) ≠ some .directory ∧
      t' = t.put (D ++ [fileName p.id]) (stored p.encode) := by
  rcases Library.save_cases opens hp saving with ⟨_, failed, -⟩ | ⟨-, saved⟩
  · cases failed
  · exact saved

theorem files_of_undeleted {l : Library} {t t' : Tree} {id : String} {r : Except Files.Fault Unit}
    (removal : finish (l.removePlaybook id) t = (r, t')) (unnameable : isUnnameable r = true) :
    t' = t := by
  rw [Library.removePlaybook, Files.Act.finish_change] at removal
  split at removal
  · cases removal
    cases unnameable
  · cases removal
    rfl

theorem files_of_unrecorded {l : Library} {t t' : Tree} {e : HistoryEntry}
    {r : Except Files.Fault String} (stands : StandsAt l t D H) (he : '/' ∉ e.id.toList)
    (saving : finish (l.saveExecution e) t = (r, t')) (unnameable : isUnnameable r = true) :
    t' = t := by
  rcases Library.save_cases stands.history he saving with ⟨-, -, unchanged⟩ | ⟨saved, -⟩
  · exact unchanged
  · subst saved
    cases unnameable

/-! ## Requests keep the mirror -/

theorem playbooks_adopt (r : Registry) (p : Playbook) :
    (r.adopt p).playbooks = r.playbooks.put p.id p := by
  unfold adopt withStats
  split <;> rfl

theorem history_adopt (r : Registry) (p : Playbook) : (r.adopt p).history = r.history := by
  unfold adopt withStats
  split <;> rfl

theorem library_enter (r : Registry) (e : HistoryEntry) : (r.enter e).library = r.library := by
  unfold enter
  split <;> rfl

theorem history_enter (r : Registry) (e : HistoryEntry) :
    (r.enter e).history = r.history ++ [e] := by
  unfold enter
  split <;> rfl

/-- Whether a registry holds the same as another one. -/
structure HoldsAs (r r' : Registry) : Prop where
  library : r'.library = r.library
  playbooks : r'.playbooks = r.playbooks
  history : r'.history = r.history

/-- The mirror is one of what a registry holds, not of its statistics. -/
theorem Mirrors.congr {r r' : Registry} {t : Tree} (h : Mirrors D H ⟨r, t⟩)
    (same : r.HoldsAs r') : Mirrors D H ⟨r', t⟩ := by
  obtain ⟨l, options, maxDepth, ps, stats, es⟩ := r'
  obtain ⟨library, playbooks, history⟩ := same
  subst library playbooks history
  exact ⟨h.library, h.definitions, h.history, h.names, h.playbook, h.ids, h.execution⟩

theorem Mirrors.save (h : Mirrors D H d) {p : Playbook} (hp : p.IsStorable)
    (place : d.files.locate (d.registry.library.definitionPath p.id) = .ok (D ++ [fileName p.id]))
    (free : d.files.at? (D ++ [fileName p.id]) ≠ some .directory) :
    Mirrors D H ⟨d.registry.withPlaybook p,
      d.files.put (D ++ [fileName p.id]) (stored p.encode)⟩ := by
  have keeps := Tree.keepsDirectories_put free (stored p.encode)
  exact {
    library := h.library.of_keeps keeps
    definitions := by
      dsimp only
      rw [Tree.shelf_put_self _ _ (Library.isDocumentName_fileName _), h.definitions]
      exact (Library.shelfOf_put Playbook.encode _ _ _).symm
    history := by
      dsimp only
      rw [Tree.shelf_put_of_ne _ h.library.apart.symm]
      exact h.history
    names := Members.nodup_names_put h.names p.id p
    playbook := by
      intro m hm
      rcases Members.mem_put hm with hm | rfl
      · obtain ⟨hid, hstorable, hplace⟩ := h.playbook m hm
        exact ⟨hid, hstorable, keeps.locate hplace⟩
      · exact ⟨rfl, hp, keeps.locate place⟩
    ids := h.ids
    execution := by
      intro e he
      obtain ⟨hstorable, haware, hplace⟩ := h.execution e he
      exact ⟨hstorable, haware, keeps.locate hplace⟩ }

theorem Mirrors.remove (h : Mirrors D H d) {id : String}
    (free : d.files.at? (D ++ [fileName id]) ≠ some .directory) :
    Mirrors D H ⟨d.registry.forget id, d.files.erase (D ++ [fileName id])⟩ := by
  have keeps := Tree.keepsDirectories_erase free
  exact {
    library := h.library.of_keeps keeps
    definitions := by
      dsimp only
      rw [Tree.shelf_erase_self _ _ (Library.isDocumentName_fileName _), h.definitions]
      exact (Library.shelfOf_erase Playbook.encode _ _).symm
    history := by
      dsimp only
      rw [Tree.shelf_erase_of_ne _ h.library.apart.symm]
      exact h.history
    names := h.names.sublist (List.filter_sublist.map Prod.fst)
    playbook := by
      intro m hm
      obtain ⟨hid, hstorable, hplace⟩ := h.playbook m (List.mem_filter.1 hm).1
      exact ⟨hid, hstorable, keeps.locate hplace⟩
    ids := h.ids
    execution := by
      intro e he
      obtain ⟨hstorable, haware, hplace⟩ := h.execution e he
      exact ⟨hstorable, haware, keeps.locate hplace⟩ }

theorem Mirrors.absent (h : Mirrors D H d) {id : String}
    (isNew : id ∉ d.registry.history.map HistoryEntry.id) :
    d.files.at? (H ++ [fileName id]) = none := by
  rw [Tree.at?_document _ _ (Library.isDocumentName_fileName _), h.history]
  cases hf : Members.find?
      (shelfOf HistoryEntry.id HistoryEntry.encode d.registry.history) (fileName id) with
  | none => rfl
  | some x =>
    obtain ⟨e, he, hname⟩ := List.mem_map.1 (Members.mem_of_find? hf)
    have hid := Library.fileName_injective (congrArg Prod.fst hname)
    exact absurd (List.mem_map.2 ⟨e, he, hid⟩) isNew

theorem Mirrors.enter (h : Mirrors D H d) {e : HistoryEntry}
    (can : CanKeep d.registry.library e) (isNew : e.id ∉ d.registry.history.map HistoryEntry.id) :
    Mirrors D H ⟨d.registry.enter e,
      d.files.put (H ++ [fileName e.id]) (stored e.encode)⟩ := by
  have free : d.files.at? (H ++ [fileName e.id]) ≠ some .directory := by
    simp [h.absent isNew]
  have keeps := Tree.keepsDirectories_put free (stored e.encode)
  have place :=
    h.library.history.locate_of_fitsIn (Library.isFileName_fileName can.noSlash) can.fits
  -- entering is keeping and counting, and the mirror does not see the counts
  refine Mirrors.congr (r := d.registry.keep e) ?_
    ⟨library_enter _ e, playbooks_enter _ e, history_enter _ e⟩
  exact {
    library := h.library.of_keeps keeps
    definitions := by
      dsimp only
      rw [Tree.shelf_put_of_ne _ h.library.apart]
      exact h.definitions
    history := by
      dsimp only
      rw [Tree.shelf_put_self _ _ (Library.isDocumentName_fileName _), h.history]
      exact Library.shelfOf_append isNew
    names := h.names
    playbook := by
      intro m hm
      obtain ⟨hid, hstorable, hplace⟩ := h.playbook m hm
      exact ⟨hid, hstorable, keeps.locate hplace⟩
    ids := by
      have hids : (d.registry.history ++ [e]).map HistoryEntry.id =
          d.registry.history.map HistoryEntry.id ++ [e.id] := List.map_append
      change ((d.registry.history ++ [e]).map HistoryEntry.id).Nodup
      rw [hids]
      exact List.nodup_append.2 ⟨h.ids, by simp, by
        rintro a ha b hb rfl
        exact isNew (List.mem_singleton.1 hb ▸ ha)⟩
    execution := by
      intro x hx
      rcases List.mem_append.1 hx with hx | hx
      · obtain ⟨hstorable, haware, hplace⟩ := h.execution x hx
        exact ⟨hstorable, haware, keeps.locate hplace⟩
      · rw [List.mem_singleton.1 hx]
        exact ⟨can.isStorable, can.isAware, keeps.locate place⟩ }

theorem Mirrors.present (h : Mirrors D H d) {id : String}
    (known : d.registry.playbooks.contains id = true) :
    d.files.locate (d.registry.library.definitionPath id) = .ok (D ++ [fileName id]) ∧
      ∃ p : Playbook, d.files.at? (D ++ [fileName id]) = some (stored p.encode) := by
  obtain ⟨m, hm, rfl⟩ := List.mem_map.1 (Members.contains_eq_true_iff.1 known)
  refine ⟨(h.playbook m hm).2.2, m.2, ?_⟩
  rw [Tree.at?_document _ _ (Library.isDocumentName_fileName _), h.definitions]
  exact Library.find?_shelfOf h.names hm

/-- Whatever a request does, and whether it succeeds or not, files and memory stay in step. -/
theorem Mirrors.after (h : Mirrors D H d) (sound : q.IsSound d.registry.library)
    (fresh : ∀ id, q.historyId? = some id → id ∉ d.registry.history.map HistoryEntry.id) :
    Mirrors D H (q.after d) := by
  have effect := q.effect d
  generalize q.after d = d' at effect
  cases effect with
  | refused => exact h
  | unsaved accepted saving =>
    rw [files_of_unsaved h.library.definitions (noSlash_of_accepted accepted) saving]
    exact h
  | created asked accepted _ saving =>
    obtain ⟨place, free, rfl⟩ :=
      files_of_saved h.library.definitions (noSlash_of_accepted accepted) saving
    have storable := isStorable_of_accepted (proper_submission? sound.isProper asked) accepted
    exact (h.save storable place free).congr
      ⟨library_adopt _ _, playbooks_adopt _ _, history_adopt _ _⟩
  | replaced asked accepted _ saving =>
    obtain ⟨place, free, rfl⟩ :=
      files_of_saved h.library.definitions (noSlash_of_accepted accepted) saving
    subst asked
    have storable := isStorable_of_accepted sound accepted
    exact (h.save storable place free).congr ⟨rfl, rfl, rfl⟩
  | undeleted removal unnameable =>
    rw [files_of_undeleted removal unnameable]
    exact h
  | deleted asked known removal nameable =>
    obtain ⟨place, p, file⟩ := h.present known
    -- a playbook in memory has its file, so removing it succeeds
    rw [Library.removePlaybook, Files.Act.finish_remove place file] at removal
    cases removal
    exact h.remove (by rw [file]; simp [stored])
  | unrecorded asked saving unnameable =>
    have can := canKeep_of_kept? sound asked
    rw [files_of_unrecorded h.library can.noSlash saving unnameable]
    exact h
  | recorded asked saving nameable =>
    have can := canKeep_of_kept? sound asked
    have isNew := fresh _ (historyId?_of_kept? asked)
    have free := h.absent isNew
    rw [Library.saveExecution, Library.finish_save h.library.history can.noSlash can.fits
      (by simp [free])] at saving
    cases saving
    exact h.enter can isNew

end Registry

end Scout
