import Scout.Proofs.Run.Browsers
import Scout.Proofs.Run.Records

/-!
# How the reading of a page ends

Once its rules are served, a run has a list of opportunities: one for each record with a title and
an address, in plain words whatever kinds of values the record holds.  The rules end it when one of
them must have a value and gets none, or the deadline does.  There is one more end, which no rule
causes: a page without an address falls back on the last one that the run went to, and a variable
that holds a list or a record there cannot be looked up among the blank ones.
-/

namespace Scout.Harvest

open Exec

/-! ## The address that opportunities come from -/

def compoundKind? : Value → Option String
  | .list (_ :: _) => some "list"
  | .record (_ :: _) => some "dict"
  | _ => none

/-- A value as an address, unless it is a blank one. -/
def givenAddress? (v : Value) : Option String :=
  if v.isTruthy && !isBlankUrl v.display then some v.display else none

theorem lastAddress_eq (v : Value) : lastAddress v =
    match compoundKind? v with
    | some kind => .error (unhashable kind)
    | none => .ok (givenAddress? v) := by
  cases v with
  | list items => cases items <;> rfl
  | record members => cases members <;> rfl
  | _ => rfl

/-- What a run holds as the last address that it went to. -/
def lastVisited (w : World) : Value :=
  .ofOption (w.context.vars.find? "currentUrl")

/-- The address of the page, else the last one. -/
def origin (w : World) : Option String :=
  if isBlankUrl w.page.url then givenAddress? (lastVisited w) else some w.page.url

/-- The kind of the value that would have to stand in for the address of the page, and cannot. -/
def strayKind? (w : World) : Option String :=
  if isBlankUrl w.page.url then compoundKind? (lastVisited w) else none

theorem address_done {w v : World} {url : String} (read : Browse.address w = (.done url, v)) :
    url = w.page.url ∧ v.context = w.context := by
  obtain ⟨_, u, asked, answered⟩ := bind_eq_done_iff.mp read
  obtain ⟨rules, world⟩ := failing_world .readUrl w
  rw [asked] at world
  subst world
  cases answered
  exact ⟨rfl, rfl⟩

theorem sourceUrl_of_address {w v : World} {url : String}
    (read : Browse.address w = (.done url, v)) : sourceUrl w =
      match strayKind? w with
      | some kind => (.failed (unhashable kind), v)
      | none => (.done (origin w), v) := by
  obtain ⟨rfl, context⟩ := address_done read
  unfold sourceUrl strayKind? origin
  rw [bind_done read]
  by_cases blank : isBlankUrl w.page.url = true
  · rw [if_pos blank, if_pos blank, if_pos blank, bind_done (read_apply _ _), context,
      lastAddress_eq, ← lastVisited]
    cases compoundKind? (lastVisited w) <;> rfl
  · rw [if_neg blank, if_neg blank, if_neg blank]
    rfl

theorem Applied.stays {served : List Served} {w w' : World}
    (h : Applied served w w') :
    w'.page.url = w.page.url ∧ w'.context.vars = w.context.vars := by
  induction h with
  | none => exact ⟨rfl, rfl⟩
  | first asked _ ih =>
    obtain ⟨t, rules, rfl⟩ := asked_world asked
    exact ih

theorem sourceUrl_of_applied {served : List Served} {w u v : World} {url : String}
    (h : Applied served w u) (read : Browse.address u = (.done url, v)) : sourceUrl u =
      match strayKind? w with
      | some kind => (.failed (unhashable kind), v)
      | none => (.done (origin w), v) := by
  obtain ⟨page, vars⟩ := h.stays
  rw [sourceUrl_of_address read]
  unfold strayKind? origin lastVisited
  rw [page, vars]

/-! ## The words of an opportunity -/

/-- An opportunity has the fields of a record in their plain form, whatever kinds they have; where
the deadline is not the text of a moment there is none. -/
structure Tells (source : Provenance) (row : Members Value) (o : Opportunity) : Prop where
  title : o.title = (Value.ofOption (row.find? "title")).display
  url : o.url = (Value.ofOption (row.find? "url")).display
  description : o.description = fieldText row "description"
  organization : o.organization = fieldText (withAlias row) "organization"
  deadline : o.deadline =
    Moment.Iso.moment? (Text.trim (Value.ofOption (row.find? "deadline")).display)
  location : o.location = fieldText row "location"
  amount : o.amount = fieldText row "amount"
  tags : o.tags = tagTexts (.ofOption (row.find? "tags"))
  source : o.source = source

theorem deadline?_eq (v : Value) : deadline? v = Moment.Iso.moment? (Text.trim v.display) := by
  unfold deadline?
  split
  · next unset =>
    cases v with
    | null => rfl
    | text s =>
      obtain rfl : s = "" := by simpa [isUnset] using unset
      rfl
    | _ => cases unset
  · rfl

theorem fieldText_withAlias {row : Members Value} {name : String} (other : name ≠ "organization") :
    fieldText (withAlias row) name = fieldText row name := by
  unfold fieldText
  rw [find?_withAlias other]

theorem opportunity?_eq_none_iff {source : Provenance} {row : Members Value} :
    opportunity? source row = none ↔ isComplete row = false := by
  have described := congrArg Option.isSome (map_opportunity? source row)
  rw [Option.isSome_map] at described
  rw [← Option.isNone_iff_eq_none, ← Option.not_isSome, described]
  cases isComplete row <;> simp

theorem tells_of_opportunity? {source : Provenance} {row : Members Value} {o : Opportunity}
    (h : opportunity? source row = some o) : Tells source row o := by
  unfold opportunity? at h
  dsimp only at h
  split at h
  · cases h
    have same {name : String} (other : name ≠ "organization") :
        Value.ofOption ((withAlias row).find? name) = .ofOption (row.find? name) :=
      congrArg Value.ofOption (find?_withAlias other)
    constructor
    case title => exact congrArg Value.display (same (by decide))
    case url => exact congrArg Value.display (same (by decide))
    case description => exact fieldText_withAlias (by decide)
    case organization => rfl
    case deadline =>
      rw [← deadline?_eq]
      exact congrArg deadline? (same (by decide))
    case location => exact fieldText_withAlias (by decide)
    case amount => exact fieldText_withAlias (by decide)
    case tags => exact congrArg tagTexts (same (by decide))
    case source => rfl
  · cases h

theorem forall₂_tells (source : Provenance) (rows : List (Members Value)) :
    List.Forall₂ (Tells source) (rows.filter isComplete)
      (rows.filterMap (opportunity? source)) := by
  induction rows with
  | nil => exact .nil
  | cons row rest ih =>
    cases described : opportunity? source row with
    | none =>
      rw [List.filter_cons_of_neg (by simpa using opportunity?_eq_none_iff.mp described),
        List.filterMap_cons_none described]
      exact ih
    | some o =>
      have complete : isComplete row = true := by
        by_contra incomplete
        rw [opportunity?_eq_none_iff.mpr (by simpa using incomplete)] at described
        cases described
      rw [List.filter_cons_of_pos complete, List.filterMap_cons_some described]
      exact .cons (tells_of_opportunity? described) ih

/-! ## The ends of a run -/

/-- The page gives its address when the rules are done. -/
def ReadsAddress (p : Playbook) (w : World) : Prop :=
  ∀ u, applyRules p.rules w = (.done (), u) → ∃ url v, Browse.address u = (.done url, v)

/-- A page gives its address that is not set to fail when it is asked for that. -/
theorem readsAddress_of_unnamed (p : Playbook) {w : World}
    (unnamed : ∀ f ∈ w.page.failures, f.operation ≠ "url") : ReadsAddress p w := by
  intro u served
  have kept := (KeepsSetting.of_blind fun _ => blind_applyRules p.rules) w
  rw [served] at kept
  have sound : ∀ f ∈ u.page.failures, f.operation ≠ Call.readUrl.name :=
    kept.page.forall_aim (P := fun aim => aim.1 ≠ "url") unnamed
  have asked : failing .readUrl u = (.done (), u) := by
    rw [failing_apply, Page.nextFailure_of_unnamed sound]
    rfl
  exact ⟨u.page.url, u, bind_done asked _⟩

/-- How a run ends whose page gives its address: with one opportunity for each complete record, with
a fallback for the address that cannot be looked up, with a rule that must have a value and gets
none, or by the deadline.  The first two are told apart by what the run begins with. -/
inductive RunEnds (p : Playbook) (now : Moment) (w : World) : Outcome (List Opportunity) → Prop
  | found {u : World} {found : List Opportunity} (served : applyRules p.rules w = (.done (), u))
      (placed : strayKind? w = none)
      (told : List.Forall₂ (Tells ⟨p.id, p.name, now, origin w⟩)
        ((records u.context.extracted).filter isComplete) found) :
      RunEnds p now w (.done found)
  | astray {u : World} {kind : String} (served : applyRules p.rules w = (.done (), u))
      (stray : strayKind? w = some kind) : RunEnds p now w (.failed (unhashable kind))
  | missed {r : ExtractionRule} {reason : String} {u : World} (mem : r ∈ p.rules)
      (required : r.required = true)
      (stopped : applyRules p.rules w = (.failed (requiredFault r.field reason), u)) :
      RunEnds p now w (.failed (requiredFault r.field reason))
  | cut {d : Float} {u : World} (limit : w.deadline = some d)
      (stopped : applyRules p.rules w = (.cancelled, u)) : RunEnds p now w .cancelled

theorem runEnds_of_applied {p : Playbook} (now : Moment) {served : List Served}
    {w u v : World} {url : String} (stopped : applyRules p.rules w = (.done (), u))
    (applied : Applied served w u) (read : Browse.address u = (.done url, v)) :
    RunEnds p now w (assemble p now u).1 := by
  have placed := sourceUrl_of_applied applied read
  cases stray : strayKind? w with
  | some kind =>
    rw [stray] at placed
    have failed : assemble p now u = (.failed (unhashable kind), v) := bind_failed placed _
    rw [failed]
    exact .astray stopped stray
  | none =>
    rw [stray] at placed
    obtain ⟨source, _, _, given, assembled⟩ | ⟨e, _, failed, -⟩ := assemble_cases p now u
    · rw [placed] at given
      cases given
      rw [assembled]
      exact .found stopped stray (forall₂_tells _ _)
    · rw [placed] at failed
      cases failed

/-- A run whose page gives its address has opportunities, or fails with the field of a rule that
must have a value, unless the deadline cuts it; with one exception: when all rules are served
and the page has no address, but a list or a record stands in for the last one, it fails with
that. -/
theorem run_ends (p : Playbook) (now : Moment) {w : World} (reads : ReadsAddress p w) :
    RunEnds p now w (run p now w).1 := by
  have ends := rulesEnd_applyRules p.rules w
  generalize stopped : applyRules p.rules w = end_ at ends
  cases ends with
  | @all served u order applied =>
    obtain ⟨url, v, read⟩ := reads u stopped
    have ran : run p now w = assemble p now u := bind_done stopped _
    rw [ran]
    exact runEnds_of_applied now stopped applied read
  | @stopped served r a e after v u order applied asked stops =>
    obtain ⟨misses, rfl⟩ := stops.eq_missFault
    have mem : r ∈ p.rules := by
      rw [order]
      exact List.mem_append_right _ List.mem_cons_self
    have ran : run p now w = (.failed (missFault r a), u) := bind_failed stopped _
    rw [ran]
    cases a with
    | error e => exact .missed mem misses.1 stopped
    | ok elements => exact .missed mem misses.1 stopped
  | @cut served r after v u order applied asked =>
    have course := ordinary_applyRules p.rules w
    rw [stopped] at course
    obtain ⟨d, limit⟩ := limited_of_cancelled course
    have ran : run p now w = (.cancelled, u) := bind_cancelled stopped _
    rw [ran]
    exact .cut limit stopped

/-- A run on a page without an address, with some value as the last one. -/
def returning (last : Value) (fields : Members Value) : World :=
  { World.opening .blank [("currentUrl", last)] with
    context := { RunContext.starting [("currentUrl", last)] with extracted := fields } }

def ruleless : Playbook :=
  { board with rules := [] }

/-- Fields of several kinds, with a deadline that is no moment. -/
def motley : Members Value :=
  [("title", .int 7), ("url", .text "/a"), ("amount", .bool true), ("deadline", .text "soon")]

theorem run_ends_motley : ReadsAddress ruleless (returning (.text "/last") motley) ∧
    ∃ o, (run ruleless newYearsDay (returning (.text "/last") motley)).1 = .done [o] ∧
      o.title = "7" ∧ o.amount = "True" ∧ o.deadline = none ∧
        o.source.sourceUrl = some "/last" := by
  have reads : ReadsAddress ruleless (returning (.text "/last") motley) :=
    readsAddress_of_unnamed ruleless fun _ mem => nomatch mem
  refine ⟨reads, ?_⟩
  have ended := run_ends ruleless newYearsDay reads
  obtain ⟨o, ran⟩ : ∃ o,
      (run ruleless newYearsDay (returning (.text "/last") motley)).1 = .done [o] := ⟨_, rfl⟩
  rw [ran] at ended
  cases ended with
  | found served placed told =>
    cases served
    obtain ⟨told, -⟩ := List.forall₂_cons.mp told
    refine ⟨o, ran, ?_, ?_, ?_, ?_⟩
    · rw [told.title]
      decide +kernel
    · rw [told.amount]
      decide +kernel
    · rw [told.deadline]
      decide +kernel
    · rw [told.source]
      decide +kernel

/-- A list as the last address stops a run that no rule stops. -/
theorem listed_address_stops_run :
    ¬ ∀ (p : Playbook) (now : Moment) (w : World), ReadsAddress p w → w.deadline = none →
      (∃ found, (run p now w).1 = .done found) ∨
        ∃ r ∈ p.rules, r.required = true ∧
          ∃ reason, (run p now w).1 = .failed (requiredFault r.field reason) := by
  intro claim
  let strayed := returning (.list [.text "x"]) [("title", .text "A"), ("url", .text "/a")]
  have reads : ReadsAddress ruleless strayed :=
    readsAddress_of_unnamed ruleless fun _ mem => nomatch mem
  have stopped : (run ruleless newYearsDay strayed).1 = .failed (unhashable "list") := rfl
  obtain ⟨found, ran⟩ | ⟨r, mem, -⟩ := claim ruleless newYearsDay strayed reads rfl
  · rw [stopped] at ran
    cases ran
  · cases mem

end Scout.Harvest
