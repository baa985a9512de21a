import Scout.Proofs.Registry.Ids
import Scout.Proofs.Registry.Offers
import Scout.Proofs.Service.Routing
import Scout.Proofs.Service.Targets

/-!
# Playbooks that were created are shown

The service changes a registry by the requests that its routes stand for.  A playbook that
it created stays on offer until somebody deletes or replaces it, and its paths lead to it;
only a playbook whose id is the word for all statistics cannot be shown.
-/

namespace Scout.Service

open Registry (Desk Loaded Reached Offers)

variable {d d' : Desk} {r : Request} {id : String} {p : Playbook} {reply : Reply}

/-! ## Answers -/

theorem finish_replying (replyOf : Registry.Fault → Option Reply) (x : Registry.Act Reply)
    (d : Desk) :
    finish (replying replyOf x) d = match finish x d with
      | (.ok reply, d') => (.ok reply, d')
      | (.error f, d') => match replyOf f with
        | some reply => (.ok reply, d')
        | none => (.error f, d') := by
  rw [replying, finish_tryCatch]
  rcases finish x d with ⟨f | reply, d'⟩
  · dsimp only
    cases replyOf f <;> rfl
  · rfl

theorem desk_replying (replyOf : Registry.Fault → Option Reply) (x : Registry.Act Reply)
    (d : Desk) : (finish (replying replyOf x) d).2 = (finish x d).2 := by
  rw [finish_replying]
  rcases finish x d with ⟨f | reply, d'⟩
  · dsimp only
    cases replyOf f <;> rfl
  · rfl

theorem finish_answer {route' : Route} (routed : route r = .ok route') (d : Desk) :
    finish (answer r) d = finish (answerRoute r route') d := by
  rw [answer, routed]

theorem finish_show (r : Request) (found : d.registry.playbooks.find? id = some p) :
    finish (answerRoute r (.show_ id)) d = (.ok (.json 200 p.encode), d) := by
  rw [answerRoute, finish_bind, Registry.finish_registry]
  simp [Registry.get?, found]

theorem finish_allStats (r : Request) (d : Desk) :
    finish (answerRoute r .allStats) d =
      (.ok (.json 200 (.list (d.registry.stats.values.map Stats.encode))), d) := by
  rw [answerRoute, finish_bind, Registry.finish_registry]
  rfl

theorem finish_stats {s : Stats} (r : Request) (found : d.registry.stats.find? id = some s) :
    finish (answerRoute r (.stats id)) d = (.ok (.json 200 s.encode), d) := by
  rw [answerRoute, finish_bind, Registry.finish_registry]
  simp [found]

/-- How many executions a request for the history of a playbook asks for. -/
def historyLimit (r : Request) : Decoded (Option Int) :=
  (queryValue count r.target.query "limit").under "query"

theorem finish_history {limit : Option Int} (fits : historyLimit r = .ok limit) (id : String)
    (d : Desk) :
    finish (answerRoute r (.history id)) d =
      (.ok (.json 200 (.list ((takeLast (limit.getD standardCount).toNat
        (d.registry.historyOf id)).map HistoryEntry.encode))), d) := by
  rw [answerRoute, ← historyLimit, fits, fitting, finish_bind, Registry.finish_registry]
  rfl

theorem finish_remove (r : Request) (deleted : finish (Registry.delete id) d = (.ok (), d')) :
    finish (answerRoute r (.remove id)) d = (.ok (.empty 204), d') := by
  rw [answerRoute, finish_replying, finish_bind, deleted]
  rfl

theorem not_created_of_fault {f : Registry.Fault} {body : Value} :
    faultReply? f ≠ some (.json 201 body) := by
  cases f <;> simp [faultReply?, detail]

/-- What is answered with a created playbook was created from the body of the request. -/
theorem of_created {body : Value} (routed : route r = .ok .create)
    (made : finish (answer r) d = (.ok (.json 201 body), d')) :
    ∃ ms p, documentOf r.body = .ok ms ∧ finish (Registry.create (.record ms)) d = (.ok p, d') ∧
      body = p.encode := by
  rw [finish_answer routed, answerRoute] at made
  cases given : documentOf r.body with
  | invalid issues =>
    rw [given] at made
    cases made
  | ok ms =>
    rw [given, fitting, finish_replying, finish_bind] at made
    rcases created : finish (Registry.create (.record ms)) d with ⟨f | p, d''⟩
    · -- no fault is answered with a created playbook
      simp only [created] at made
      cases replied : faultReply? f with
      | none =>
        rw [replied] at made
        cases made
      | some reply =>
        rw [replied] at made
        cases made
        exact absurd replied not_created_of_fault
    · rw [created] at made
      cases made
      exact ⟨ms, p, rfl, created, rfl⟩

/-! ## What a request changes -/

/-- What a request asks of the registry, if it asks for a change. -/
def change? (r : Request) : Route → Option Registry.Request
  | .fromTemplate => match bodyOf templateOrder r.body with
    | .ok o => some (.fromTemplate o.template o.id o.overrides)
    | .invalid _ => none
  | .create => match documentOf r.body with
    | .ok ms => some (.create (.record ms))
    | .invalid _ => none
  | .replace id => match documentOf r.body with
    | .ok ms =>
      if (Value.ofOption (ms.find? "id")).equalsScalar (some (.text id)) then
        some (.update (.record ms))
      else none
    | .invalid _ => none
  | .remove id => some (.delete id)
  | _ => none

theorem desk_of_pure {α : Type} (x : Registry.Act α) (f : α → Reply) (d : Desk) :
    (finish (do pure (f (← x))) d).2 = (finish (discard x) d).2 := by
  rw [finish_bind, finish_discard]
  rcases finish x d with ⟨e | a, d'⟩ <;> rfl

theorem desk_answerRoute (r : Request) (route' : Route) (d : Desk) :
    (finish (answerRoute r route') d).2 = (change? r route').elim d fun q => q.after d := by
  cases route' with
  | health | allStats => rfl
  | listing =>
    rw [answerRoute]
    cases filtersOf r.target.query <;> rfl
  | check =>
    rw [answerRoute]
    cases documentOf r.body <;> rfl
  | fromTemplate =>
    rw [answerRoute, change?]
    cases bodyOf templateOrder r.body with
    | invalid issues => rfl
    | ok o =>
      rw [fitting, desk_replying, desk_of_pure]
      rfl
  | create =>
    rw [answerRoute, change?]
    cases documentOf r.body with
    | invalid issues => rfl
    | ok ms =>
      rw [fitting, desk_replying, desk_of_pure]
      rfl
  | show_ id =>
    rw [answerRoute, finish_bind, Registry.finish_registry]
    dsimp only
    cases d.registry.get? id <;> rfl
  | replace id =>
    rw [answerRoute, change?]
    cases documentOf r.body with
    | invalid issues => rfl
    | ok ms =>
      rw [fitting]
      by_cases same : (Value.ofOption (ms.find? "id")).equalsScalar (some (.text id)) = true
      · rw [if_pos same, desk_replying, desk_of_pure]
        simp only [if_pos same]
        rfl
      · simp only [if_neg same]
        rfl
  | remove id =>
    rw [answerRoute, change?, desk_replying, finish_bind]
    change _ = (finish (Registry.delete id) d).2
    rcases finish (Registry.delete id) d with ⟨f | a, d'⟩ <;> rfl
  | stats id =>
    rw [answerRoute, finish_bind, Registry.finish_registry]
    dsimp only
    cases d.registry.stats.find? id <;> rfl
  | history id =>
    rw [answerRoute]
    cases (queryValue count r.target.query "limit").under "query" <;> rfl

/-- Whether what a request to the service asks of the registry leaves a playbook alone. -/
def Request.Spares (r : Request) (id : String) (d : Desk) : Prop :=
  ∀ route' q, route r = .ok route' → change? r route' = some q → q.Spares id d

/-- What a registry comes to in which nobody deletes or replaces the playbook with an id: it
answers requests and exports playbooks, the service answers requests, and loading finds the
playbook again. -/
inductive Untouched (id : String) (d : Desk) : Desk → Prop
  | start : Untouched id d d
  | request {d' : Desk} (before : Untouched id d d') {q : Registry.Request}
      (spares : q.Spares id d') : Untouched id d (q.after d')
  | answered {d' : Desk} (before : Untouched id d d') {r : Request} (spares : r.Spares id d') :
      Untouched id d (finish (answer r) d').2
  | exported {d' : Desk} (before : Untouched id d d') (other path : String) :
      Untouched id d (finish (Registry.exportTo other path) d').2
  | reloaded {d' : Desk} (before : Untouched id d d')
      (kept : (finish Registry.load d').2.registry.playbooks.find? id =
        d'.registry.playbooks.find? id) : Untouched id d (finish Registry.load d').2

theorem desk_answer (r : Request) (d : Desk) :
    (finish (answer r) d).2 = d ∨
      ∃ route' q, route r = .ok route' ∧ change? r route' = some q ∧
        (finish (answer r) d).2 = q.after d := by
  cases routed : route r with
  | error miss =>
    left
    rw [answer, routed]
    rfl
  | ok route' =>
    rw [finish_answer routed, desk_answerRoute]
    cases asked : change? r route' with
    | none => exact .inl rfl
    | some q => exact .inr ⟨route', q, rfl, asked, rfl⟩

/-- A playbook on offer stays so until somebody deletes or replaces it. -/
theorem Untouched.offers (untouched : Untouched p.id d d') (h : Offers d p) : Offers d' p := by
  induction untouched with
  | start => exact h
  | request _ spares ih => exact ih.after spares
  | @answered d₁ _ r spares ih =>
    rcases desk_answer r d₁ with same | ⟨route', q, routed, asked, left⟩
    · rw [same]
      exact ih
    · rw [left]
      exact ih.after (spares route' q routed asked)
  | exported _ other path ih => exact ih.exported other path
  | reloaded _ kept ih => exact ih.reloaded (kept.trans ih.found)

/-! ## Creating and reading -/

/-- What the paths of a playbook on offer are answered with: the playbook, unless its id is the word
for all statistics; its statistics; its history; and its removal. -/
structure Reads (d : Desk) (p : Playbook) : Prop where
  shown : ∀ g : Request, g.method = "GET" → g.target.path = "/playbooks/" ++ p.id →
    ¬ IsReserved p.id → finish (answer g) d = (.ok (.json 200 p.encode), d)
  reserved : ∀ g : Request, g.method = "GET" → g.target.path = "/playbooks/" ++ p.id →
    IsReserved p.id → finish (answer g) d =
      (.ok (.json 200 (.list (d.registry.stats.values.map Stats.encode))), d)
  removed : ∀ g : Request, g.method = "DELETE" → g.target.path = "/playbooks/" ++ p.id →
    ∃ t, finish (answer g) d = (.ok (.empty 204), ⟨d.registry.forget p.id, t⟩)
  stats : ∀ g : Request, g.method = "GET" →
    g.target.path = "/playbooks/" ++ p.id ++ "/stats" →
    ∃ s, d.registry.stats.find? p.id = some s ∧ s.id = p.id ∧
      finish (answer g) d = (.ok (.json 200 s.encode), d)
  history : ∀ g : Request, g.method = "GET" →
    g.target.path = "/playbooks/" ++ p.id ++ "/history" →
    ∀ limit, historyLimit g = .ok limit → finish (answer g) d =
      (.ok (.json 200 (.list ((takeLast (limit.getD standardCount).toNat
        (d.registry.historyOf p.id)).map HistoryEntry.encode))), d)

theorem reads_of_offers (h : Offers d p) (isId : Check.isId p.id = true) : Reads d p := by
  have noSlash := Check.noSlash_of_isId isId
  have nonempty : p.id ≠ "" := by
    intro empty
    rw [empty] at isId
    revert isId
    decide
  constructor
  · intro g method path unreserved
    have routed := route_show noSlash nonempty method path
    rw [if_neg (mt isReserved_iff.2 unreserved)] at routed
    rw [finish_answer routed, finish_show g h.found]
  · intro g method path reserved
    have routed := route_show noSlash nonempty method path
    rw [if_pos (isReserved_iff.1 reserved)] at routed
    rw [finish_answer routed, finish_allStats]
  · intro g method path
    obtain ⟨t, deleted⟩ := h.finish_delete
    refine ⟨t, ?_⟩
    rw [finish_answer (route_remove noSlash nonempty method path), finish_remove g deleted]
  · intro g method path
    obtain ⟨s, found, own⟩ := h.stats
    refine ⟨s, found, own, ?_⟩
    rw [finish_answer (route_stats noSlash nonempty method path), finish_stats g found]
  · intro g method path limit fits
    rw [finish_answer (route_history noSlash nonempty method path), finish_history fits]

/-- A playbook that is answered with as created is the one that the body of the request reads
as, and the targets that are written for it lead to its paths.  Until somebody deletes or
replaces it, these paths lead to it; it is shown exactly as it was answered, unless its id is
the word for all statistics. -/
theorem created_reads {d₀ d d₁ : Desk} (loaded : Loaded d₀) (reached : Reached d₀ d) {r : Request}
    (method : r.method = "POST") (path : r.target.path = "/playbooks") {body : Value}
    (made : finish (answer r) d = (.ok (.json 201 body), d₁)) :
    ∃ ms p, documentOf r.body = .ok ms ∧ Playbook.decode (.record ms) = .ok p ∧ body = p.encode ∧
      (∀ tail, IsWords tail → Target.ofText ("/playbooks/" ++ written p.id ++ tail) =
        ⟨"/playbooks/" ++ p.id ++ tail, []⟩) ∧
      ∀ d₂, Untouched p.id d₁ d₂ → Reads d₂ p := by
  have routed : route r = .ok .create := route_create method path
  obtain ⟨ms, p, given, created, rfl⟩ := of_created routed made
  have accepted := Registry.accepted_of_create (congrArg Prod.fst created)
  obtain ⟨ms', same, decoded, valid⟩ := Registry.of_accepted accepted
  cases same
  have isId := Check.isId_of_check valid
  have tended := reached.tended loaded.tended
  have offers := Registry.offers_of_create tended created
  exact ⟨ms, p, given, decoded, rfl, fun tail => ofText_written (Check.isId_iff.1 isId),
    fun d₂ untouched => reads_of_offers (untouched.offers offers) isId⟩

/-! ## Two playbooks that are created -/

/-- A request to create the playbook that waits, with the given id. -/
def creating (id : String) : Request :=
  ⟨"POST", ⟨"/playbooks", []⟩, some (Registry.waitingAs id)⟩

/-- Whether an answer shows something that was created. -/
def isCreated : Except Registry.Fault Reply → Bool
  | .ok (.json 201 _) => true
  | _ => false

theorem of_isCreated {x : Registry.Act Reply} (h : isCreated (finish x d).1 = true) :
    ∃ body, finish x d = (.ok (.json 201 body), (finish x d).2) := by
  generalize finish x d = done at h
  obtain ⟨outcome, d'⟩ := done
  unfold isCreated at h
  split at h
  · next body same =>
    refine ⟨body, ?_⟩
    rw [← show outcome = .ok (.json 201 body) from same]
  · cases h

theorem id_of_creating {ms : Members Value} (given : documentOf (creating id).body = .ok ms)
    (decoded : Playbook.decode (.record ms) = .ok p) : p.id = id := by
  cases given
  exact Playbook.id_of_decode rfl decoded

theorem created_reads_waiting :
    ∃ body d₁, finish (answer (creating "a-1")) Registry.firstDay = (.ok (.json 201 body), d₁) ∧
      finish (answer ⟨"GET", Target.ofText "/playbooks/a-1", none⟩) d₁ =
        (.ok (.json 200 body), d₁) := by
  obtain ⟨body, made⟩ := of_isCreated (x := answer (creating "a-1")) (d := Registry.firstDay)
    (by decide +kernel)
  obtain ⟨ms, p, given, decoded, rfl, targets, reads⟩ :=
    created_reads Registry.loaded_firstDay .start (r := creating "a-1") rfl rfl made
  have hid := id_of_creating given decoded
  have isName : Check.IsName p.id := by
    rw [hid]
    exact ⟨by decide, by simp [Check.IsNameChar]⟩
  have target := targets "" (by simp [IsWords])
  have text : "/playbooks/" ++ "a-1" ++ "" = "/playbooks/a-1" := by decide
  rw [written_of_name isName, hid, text] at target
  refine ⟨p.encode, _, made, (reads _ .start).shown _ rfl ?_ ?_⟩
  · rw [target, hid]
    decide
  · rw [hid]
    simp [IsReserved]

/-- Not every playbook is shown as it was created: the path of one is that of all statistics. -/
theorem stats_hide_playbook :
    ¬ ∀ d₀ d, Loaded d₀ → Reached d₀ d → ∀ r : Request, r.method = "POST" →
      r.target.path = "/playbooks" → ∀ (p : Playbook) d₁,
      finish (answer r) d = (.ok (.json 201 p.encode), d₁) →
      ∀ g : Request, g.method = "GET" → g.target.path = "/playbooks/" ++ p.id →
        finish (answer g) d₁ = (.ok (.json 200 p.encode), d₁) := by
  intro claim
  obtain ⟨body, made⟩ := of_isCreated (x := answer (creating "stats")) (d := Registry.firstDay)
    (by decide +kernel)
  obtain ⟨ms, p, given, created, rfl⟩ := of_created (route_create rfl rfl) made
  obtain ⟨ms', same, decoded, -⟩ := Registry.of_accepted (Registry.accepted_of_create
    (congrArg Prod.fst created))
  cases same
  have hid := id_of_creating given decoded
  have shown := claim _ _ Registry.loaded_firstDay .start (creating "stats") rfl rfl p _ made
    ⟨"GET", ⟨"/playbooks/" ++ p.id, []⟩, none⟩ rfl rfl
  have routed : route ⟨"GET", ⟨"/playbooks/" ++ p.id, []⟩, none⟩ = .ok .allStats := by
    rw [hid]
    decide
  rw [finish_answer routed, finish_allStats] at shown
  cases shown

end Scout.Service
