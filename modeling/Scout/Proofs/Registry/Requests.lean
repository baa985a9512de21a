import Scout.Proofs.Acts

/-!
# Requests to a registry

A registry that is in use is changed by requests alone.  `Request.effect` says
once what a request can do to the desk; what every run of requests keeps is
derived from that list.
-/

namespace Scout.Registry

/-! ## Playbooks handed in -/

/-- The playbook of data that pass the check, or why they do not. -/
def accepted (r : Registry) (data : Value) : Except Fault Playbook :=
  match r.examine data with
  | .error e => .error (.shapeless e)
  | .ok (report, document) =>
    if report.isValid then
      match Playbook.decode document with
      | .ok p => .ok p
      | .invalid issues => .error (.library (.invalid issues))
    else .error (.rejected report.errors report.warnings)

theorem finish_checked (data : Value) (d : Desk) :
    finish (checked data) d = (d.registry.accepted data, d) := by
  rw [checked, finish_bind, finish_registry]
  simp only [finish_bind, finish_lift, accepted]
  rcases d.registry.examine data with e | ⟨report, document⟩
  · rfl
  · cases hv : report.isValid
    · simp [Except.mapError, hv]
    · cases hd : Playbook.decode document <;> simp [Except.mapError, hv, hd]

/-- Accepted data are a record that reads as the playbook, and the playbook passes the check. -/
theorem of_accepted {r : Registry} {data : Value} {p : Playbook}
    (h : r.accepted data = .ok p) :
    ∃ ms, Pairs.members data = .ok ms ∧ Playbook.decode (.record ms) = .ok p ∧
      (p.check r.maxDepth).isValid = true := by
  unfold accepted examine at h
  cases hm : Pairs.members data with
  | error e => simp [hm, bind, Except.bind] at h
  | ok ms =>
    simp only [hm, bind, Except.bind, pure, Except.pure] at h
    split at h
    · next hv =>
      cases hd : Playbook.decode (.record ms) with
      | ok q =>
        simp only [hd, Except.ok.injEq] at h
        subst h
        refine ⟨ms, rfl, hd, ?_⟩
        simpa [checkDocument, hd] using hv
      | invalid issues => simp [hd] at h
    · simp at h

/-! ## Counting -/

end Registry

namespace Stats

/-- The statistics after counting: an average beyond the doubles keeps its old
value, and so does what is counted after it. -/
def recount (s : Stats) (entries : List HistoryEntry) : Stats :=
  if Decimal.isFinite (s.ofEntries entries).averageFound then s.ofEntries entries
  else { s.ofEntries entries with
    averageFound := s.averageFound
    lastExecuted := s.lastExecuted }

@[simp] theorem recount_total (s : Stats) (entries : List HistoryEntry) :
    (s.recount entries).total = entries.length := by
  unfold recount
  split <;> rfl

@[simp] theorem recount_successful (s : Stats) (entries : List HistoryEntry) :
    (s.recount entries).successful = (entries.filter HistoryEntry.success).length := by
  unfold recount
  split <;> rfl

@[simp] theorem recount_failed (s : Stats) (entries : List HistoryEntry) :
    (s.recount entries).failed =
      entries.length - (entries.filter HistoryEntry.success).length := by
  unfold recount
  split <;> rfl

end Stats

namespace Registry

/-- Whether the averages of a playbook are doubles. -/
def isCountable (r : Registry) (id : String) : Bool :=
  (r.stats.find? id).all fun s =>
    Decimal.isFinite (s.ofEntries (r.historyOf id)).averageFound

/-- The registry with the executions of a playbook counted anew. -/
def recount (r : Registry) (id : String) : Registry :=
  { r with stats := match r.stats.find? id with
      | none => r.stats
      | some s => r.stats.put id (s.recount (r.historyOf id)) }

theorem finish_count (id : String) (d : Desk) :
    finish (count id) d =
      (if d.registry.isCountable id then .ok () else .error .averageTooLarge,
        { d with registry := d.registry.recount id }) := by
  rw [count, finish_bind, finish_registry]
  unfold isCountable recount
  cases hs : d.registry.stats.find? id with
  | none => simp [hs]
  | some s =>
    cases hf : Decimal.isFinite (s.ofEntries (d.registry.historyOf id)).averageFound <;>
      simp [hs, hf, finish_bind, withCount, Stats.recount]

/-- The registry with an execution kept and not yet counted. -/
def keep (r : Registry) (e : HistoryEntry) : Registry :=
  { r with history := r.history ++ [e] }

/-- The registry in which an execution is the last one of its playbook. -/
def date (r : Registry) (e : HistoryEntry) : Registry :=
  { r with stats := r.stats.modify e.playbookId fun s =>
      { s with lastExecuted := some e.executedAt } }

/-- The registry with an execution kept and counted. -/
def enter (r : Registry) (e : HistoryEntry) : Registry :=
  if (r.keep e).isCountable e.playbookId then ((r.keep e).recount e.playbookId).date e
  else (r.keep e).recount e.playbookId

/-! ## Creating, updating, deleting -/

theorem finish_create (document : Value) (d : Desk) :
    finish (create document) d = match d.registry.accepted document with
      | .error e => (.error e, d)
      | .ok p =>
        if d.registry.playbooks.contains p.id then (.error (.duplicate p.id), d)
        else match finish (d.registry.library.savePlaybook p) d.files with
          | (.ok _, t) => (.ok p, ⟨d.registry.adopt p, t⟩)
          | (.error e, t) => (.error (.library (.file e)), { d with files := t }) := by
  rw [create, finish_bind, finish_checked]
  cases d.registry.accepted document with
  | error e => rfl
  | ok p =>
    simp only [finish_bind, finish_registry]
    cases hc : d.registry.playbooks.contains p.id
    · rcases hs : finish (d.registry.library.savePlaybook p) d.files with ⟨e | a, t⟩ <;>
        simp [hs, finish_bind, Except.mapError, Except.map]
    · simp

/-- The registry with a playbook in the place of the one with its id. -/
def replace (r : Registry) (p : Playbook) : Registry :=
  { r.withPlaybook p with
    stats := r.stats.modify p.id fun s => { s with name := p.name } }

theorem finish_update_playbook (document : Value) (d : Desk) :
    finish (Registry.update document) d = match d.registry.accepted document with
      | .error e => (.error e, d)
      | .ok p =>
        if d.registry.playbooks.contains p.id then
          match finish (d.registry.library.savePlaybook p) d.files with
          | (.ok _, t) => (.ok p, ⟨d.registry.replace p, t⟩)
          | (.error e, t) => (.error (.library (.file e)), { d with files := t })
        else (.error (.unknown p.id), d) := by
  rw [Registry.update, finish_bind, finish_checked]
  cases d.registry.accepted document with
  | error e => rfl
  | ok p =>
    simp only [finish_bind, finish_registry]
    cases hc : d.registry.playbooks.contains p.id
    · simp
    · rcases hs : finish (d.registry.library.savePlaybook p) d.files with ⟨e | a, t⟩ <;>
        simp [hs, finish_bind, Except.mapError, Except.map, replace]

/-- Whether a change of files failed for a path that no system call takes: the one fault that
is not passed over. -/
def isUnnameable {α : Type} : Except Files.Fault α → Bool
  | .error e => e.cause == .zeroCharacter
  | .ok _ => false

/-- The registry without a playbook; its history stays. -/
def forget (r : Registry) (id : String) : Registry :=
  { r with playbooks := r.playbooks.erase id, stats := r.stats.erase id }

theorem finish_delete (id : String) (d : Desk) :
    finish (delete id) d =
      if d.registry.playbooks.contains id then
        let removal := finish (d.registry.library.removePlaybook id) d.files
        if isUnnameable removal.1 then
          (removal.1.mapError fun e => .library (.file e), { d with files := removal.2 })
        else (.ok (), ⟨d.registry.forget id, removal.2⟩)
      else (.error (.unknown id), d) := by
  rw [delete, finish_bind, finish_registry]
  cases hc : d.registry.playbooks.contains id
  · simp [hc]
  · rcases hr : finish (d.registry.library.removePlaybook id) d.files with ⟨⟨cause, path⟩ | a, t⟩
    · cases cause <;> simp [hc, hr, finish_bind, isUnnameable, forget, Except.mapError]
    · simp [hc, hr, finish_bind, isUnnameable, forget]

/-- What a playbook is made of that comes from a template. -/
def templated (template id : String) (given ms : Members Value) : Value :=
  let name := ((ms.find? "name").getD (.text template)).display
  .record ((ms.overlay [("id", .text id), ("name", .text (name ++ " (" ++ id ++ ")"))]).overlay
    given)

theorem finish_fromTemplate (template id : String) (given : Members Value) (d : Desk) :
    finish (fromTemplate template id given) d =
      match d.registry.library.loadTemplate d.files template with
      | .ok ms => finish (create (templated template id given ms)) d
      | .error e => (.error (.library e), d) := by
  rw [fromTemplate, finish_bind, finish_reading]
  cases d.registry.library.loadTemplate d.files template <;> rfl

theorem finish_importFrom (path : String) (d : Desk) :
    finish (importFrom path) d = match Library.readDocument d.files path with
      | .ok (.record ms) => finish (create (.record ms)) d
      | .ok _ => (.error (.library (.refused (.fileNotRecord path))), d)
      | .error e => (.error (.library e), d) := by
  rw [importFrom, finish_bind, finish_reading]
  rcases Library.readDocument d.files path with e | v
  · rfl
  · cases v <;> rfl

/-! ## Executions -/

def optionsOf (r : Registry) (v : Visit) : RunOptions :=
  match v.budget with
  | some b => { r.options with budget := b }
  | none => r.options

def performance? (r : Registry) (id : String) (v : Visit) : Option HistoryEntry :=
  (r.playbooks.find? id).map fun p =>
    v.entry p.id (Run.start (r.optionsOf v) v.stamp p v.vars v.world).1

theorem finish_enter (e : HistoryEntry) (d : Desk) :
    finish (do
      Act.update fun r => r.keep e
      count e.playbookId
      Act.update fun r => r.date e) d =
      (if (d.registry.keep e).isCountable e.playbookId then .ok () else .error .averageTooLarge,
        { d with registry := d.registry.enter e }) := by
  rw [finish_bind, finish_update]
  cases hc : (d.registry.keep e).isCountable e.playbookId <;>
    simp [finish_bind, finish_count, enter, hc]

theorem finish_record (e : HistoryEntry) (d : Desk) :
    finish (record e) d =
      let saving := finish (d.registry.library.saveExecution e) d.files
      if isUnnameable saving.1 then
        ((saving.1.mapError fun e => .library (.file e)).map fun _ => (),
          { d with files := saving.2 })
      else
        (if (d.registry.keep e).isCountable e.playbookId then .ok () else .error .averageTooLarge,
          ⟨d.registry.enter e, saving.2⟩) := by
  rw [record, finish_bind, finish_attempt]
  rcases hs : finish (d.registry.library.saveExecution e) d.files with ⟨⟨cause, path⟩ | a, t⟩
  · cases cause
    case zeroCharacter => simp [isUnnameable, Except.mapError, Except.map]
    all_goals exact finish_enter e ⟨d.registry, t⟩
  · exact finish_enter e ⟨d.registry, t⟩

theorem finish_execute (id : String) (v : Visit) (d : Desk) :
    finish (discard (execute id v)) d = match d.registry.performance? id v with
      | none => (.error (.unknown id), d)
      | some e => finish (record e) d := by
  rw [finish_discard, execute, finish_bind]
  cases hp : d.registry.playbooks.find? id with
  | none => simp [require, get?, performance?, hp, finish_bind, Except.map]
  | some p =>
    simp only [require, get?, performance?, hp, finish_bind, finish_registry, finish_pure,
      Option.map_some, optionsOf]
    rcases finish (record _) d with ⟨e | a, d'⟩ <;> rfl

/-! ## Requests -/

/-- What a registry in use is asked to do. -/
inductive Request where
  | create (document : Value)
  | update (document : Value)
  | delete (id : String)
  | fromTemplate (template id : String) (given : Members Value)
  | importFrom (path : String)
  | execute (id : String) (visit : Visit)
  | record (entry : HistoryEntry)

namespace Request

def act : Request → Act Unit
  | create document => discard (Registry.create document)
  | update document => discard (Registry.update document)
  | delete id => Registry.delete id
  | fromTemplate template id given => discard (Registry.fromTemplate template id given)
  | importFrom path => discard (Registry.importFrom path)
  | execute id visit => discard (Registry.execute id visit)
  | record entry => Registry.record entry

/-- The desk after a request, whether or not it was refused. -/
def after (q : Request) (d : Desk) : Desk :=
  (finish q.act d).2

/-- The data that a request wants a new playbook made of. -/
def submission? (q : Request) (d : Desk) : Option Value :=
  match q with
  | create document => some document
  | fromTemplate template id given =>
    match d.registry.library.loadTemplate d.files template with
    | .ok ms => some (templated template id given ms)
    | .error _ => none
  | importFrom path =>
    match Library.readDocument d.files path with
    | .ok (.record ms) => some (.record ms)
    | _ => none
  | _ => none

def kept? (q : Request) (d : Desk) : Option HistoryEntry :=
  match q with
  | execute id visit => d.registry.performance? id visit
  | record entry => some entry
  | _ => none

end Request

/-- The desk after some requests, one after another. -/
def Desk.afterAll (d : Desk) (qs : List Request) : Desk :=
  qs.foldl (fun d q => q.after d) d

@[simp] theorem Desk.afterAll_nil (d : Desk) : d.afterAll [] = d := rfl

theorem Desk.afterAll_cons (d : Desk) (q : Request) (qs : List Request) :
    d.afterAll (q :: qs) = (q.after d).afterAll qs := rfl

theorem Desk.afterAll_append (d : Desk) (qs : List Request) (q : Request) :
    d.afterAll (qs ++ [q]) = q.after (d.afterAll qs) := by
  rw [afterAll, List.foldl_append]
  rfl

/-! ## What a request can do -/

/-- Everything that a request can do to a desk. -/
inductive Effect (q : Request) (d : Desk) : Desk → Prop
  | refused : Effect q d d
  | unsaved {document : Value} {p : Playbook} {f : Files.Fault} {t : Files.Tree}
      (accepted : d.registry.accepted document = .ok p)
      (saving : finish (d.registry.library.savePlaybook p) d.files = (.error f, t)) :
      Effect q d { d with files := t }
  | created {document : Value} {p : Playbook} {path : String} {t : Files.Tree}
      (asked : q.submission? d = some document)
      (accepted : d.registry.accepted document = .ok p)
      (isNew : d.registry.playbooks.contains p.id = false)
      (saving : finish (d.registry.library.savePlaybook p) d.files = (.ok path, t)) :
      Effect q d ⟨d.registry.adopt p, t⟩
  | replaced {document : Value} {p : Playbook} {path : String} {t : Files.Tree}
      (asked : q = .update document)
      (accepted : d.registry.accepted document = .ok p)
      (isKnown : d.registry.playbooks.contains p.id = true)
      (saving : finish (d.registry.library.savePlaybook p) d.files = (.ok path, t)) :
      Effect q d ⟨d.registry.replace p, t⟩
  | undeleted {id : String} {r : Except Files.Fault Unit} {t : Files.Tree}
      (removal : finish (d.registry.library.removePlaybook id) d.files = (r, t))
      (unnameable : isUnnameable r = true) :
      Effect q d { d with files := t }
  | deleted {id : String} {r : Except Files.Fault Unit} {t : Files.Tree}
      (asked : q = .delete id)
      (isKnown : d.registry.playbooks.contains id = true)
      (removal : finish (d.registry.library.removePlaybook id) d.files = (r, t))
      (nameable : isUnnameable r = false) :
      Effect q d ⟨d.registry.forget id, t⟩
  | unrecorded {e : HistoryEntry} {r : Except Files.Fault String} {t : Files.Tree}
      (asked : q.kept? d = some e)
      (saving : finish (d.registry.library.saveExecution e) d.files = (r, t))
      (unnameable : isUnnameable r = true) :
      Effect q d { d with files := t }
  | recorded {e : HistoryEntry} {r : Except Files.Fault String} {t : Files.Tree}
      (asked : q.kept? d = some e)
      (saving : finish (d.registry.library.saveExecution e) d.files = (r, t))
      (nameable : isUnnameable r = false) :
      Effect q d ⟨d.registry.enter e, t⟩

namespace Request

variable {q : Request} {d : Desk}

theorem effect_create {document : Value} (asked : q.submission? d = some document) :
    Effect q d (finish (Registry.create document) d).2 := by
  rw [finish_create]
  cases ha : d.registry.accepted document with
  | error e => exact .refused
  | ok p =>
    cases hc : d.registry.playbooks.contains p.id
    · rcases hs : finish (d.registry.library.savePlaybook p) d.files with ⟨f | path, t⟩
      · simpa [hc, hs] using Effect.unsaved ha hs
      · simpa [hc, hs] using Effect.created asked ha hc hs
    · simpa [hc] using Effect.refused

theorem effect_update (document : Value) :
    Effect (.update document) d (finish (Registry.update document) d).2 := by
  rw [finish_update_playbook]
  cases ha : d.registry.accepted document with
  | error e => exact .refused
  | ok p =>
    cases hc : d.registry.playbooks.contains p.id
    · simpa [hc] using Effect.refused
    · rcases hs : finish (d.registry.library.savePlaybook p) d.files with ⟨f | path, t⟩
      · simpa [hc, hs] using Effect.unsaved ha hs
      · simpa [hc, hs] using Effect.replaced rfl ha hc hs

theorem effect_delete (id : String) :
    Effect (.delete id) d (finish (Registry.delete id) d).2 := by
  rw [finish_delete]
  cases hc : d.registry.playbooks.contains id
  · simpa [hc] using Effect.refused
  · rcases hr : finish (d.registry.library.removePlaybook id) d.files with ⟨r, t⟩
    cases hu : isUnnameable r
    · simpa [hc, hr, hu] using Effect.deleted rfl hc hr hu
    · simpa [hc, hr, hu] using Effect.undeleted hr hu

theorem effect_record {e : HistoryEntry} (asked : q.kept? d = some e) :
    Effect q d (finish (Registry.record e) d).2 := by
  rw [finish_record]
  rcases hs : finish (d.registry.library.saveExecution e) d.files with ⟨r, t⟩
  cases hu : isUnnameable r
  · simpa [hs, hu] using Effect.recorded asked hs hu
  · simpa [hs, hu] using Effect.unrecorded asked hs hu

/-- A request does one of the listed things. -/
theorem effect (q : Request) (d : Desk) : Effect q d (q.after d) := by
  cases q with
  | create document =>
    rw [after, act, finish_discard]
    exact effect_create rfl
  | update document =>
    rw [after, act, finish_discard]
    exact effect_update document
  | delete id => exact effect_delete id
  | fromTemplate template id given =>
    rw [after, act, finish_discard, finish_fromTemplate]
    cases hl : d.registry.library.loadTemplate d.files template with
    | error e => exact .refused
    | ok ms => exact effect_create (by rw [submission?, hl])
  | importFrom path =>
    rw [after, act, finish_discard, finish_importFrom]
    split
    · next ms hr => exact effect_create (by rw [submission?, hr])
    · exact .refused
    · exact .refused
  | execute id visit =>
    rw [after, act, finish_execute]
    cases hp : d.registry.performance? id visit with
    | none => exact .refused
    | some e => exact effect_record (by rw [kept?, hp])
  | record entry => exact effect_record rfl

end Request

end Registry

end Scout
