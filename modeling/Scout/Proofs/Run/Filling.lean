import Scout.Proofs.Run.Visits

/-!
# Filling fields by rules

The rules of a playbook are applied one after another, until one that is required gets no
value.  Each rule asks the page once, and reads a value from each element that is not
empty to it.  A rule that is applied sets its field by what it has read, and warns when
the page could not answer; the rule that ends the application changes no field, and the
rules after it do not ask.
-/

namespace Scout

/-! ## Readings -/

/-- What an element shows under the name of an attribute: its text, its markup, or the value of the
attribute, for which the text stands in. -/
inductive Snapshot.Shows (s : Snapshot) : Option String → String → Prop
  | text {name : Option String} (plain : name ∈ [none, some "", some "textContent"]) :
      Shows s name s.text
  | markup : Shows s (some "innerHTML") s.markup
  | present {a v : String} (named : a ∉ ["", "textContent", "innerHTML"])
      (found : s.attributes.find? a = some v) : Shows s (some a) v
  | absent {a : String} (named : a ∉ ["", "textContent", "innerHTML"])
      (missing : s.attributes.find? a = none) : Shows s (some a) s.text

theorem Snapshot.shows_read (s : Snapshot) (name : Option String) : s.Shows name (s.read name) := by
  unfold read
  split
  · exact .text (by simp)
  · exact .text (by simp)
  · exact .text (by simp)
  · exact .markup
  · next a empty content markup =>
    have named : a ∉ ["", "textContent", "innerHTML"] := by
      simpa using ⟨empty, content, markup⟩
    cases found : s.attributes.find? a with
    | some v => exact .present named found
    | none => exact .absent named found

theorem Snapshot.Shows.eq_read {s : Snapshot} {name : Option String} {v : String}
    (h : s.Shows name v) : v = s.read name := by
  have named {a : String} (h : a ∉ ["", "textContent", "innerHTML"]) :
      s.read (some a) = (s.attributes.find? a).getD s.text := by
    simp only [List.mem_cons, List.not_mem_nil, or_false, not_or] at h
    unfold read
    split
    · next eq => cases eq
    · next eq => exact absurd (Option.some.inj eq) h.1
    · next eq => exact absurd (Option.some.inj eq) h.2.1
    · next eq => exact absurd (Option.some.inj eq) h.2.2
    · next eq => cases eq; rfl
  cases h with
  | text plain =>
    simp only [List.mem_cons, List.not_mem_nil, or_false] at plain
    rcases plain with rfl | rfl | rfl <;> rfl
  | markup => rfl
  | present h found =>
    rw [named h, found]
    rfl
  | absent h missing =>
    rw [named h, missing]
    rfl

namespace Harvest

open Exec

/-- The values of elements under a name: what they show, in their order, without what is empty. -/
inductive Shown (name : Option String) : List Snapshot → List String → Prop
  | nil : Shown name [] []
  | value {s : Snapshot} {v : String} {rest : List Snapshot} {values : List String}
      (shows : s.Shows name v) (nonempty : v ≠ "") (others : Shown name rest values) :
      Shown name (s :: rest) (v :: values)
  | empty {s : Snapshot} {rest : List Snapshot} {values : List String} (shows : s.Shows name "")
      (others : Shown name rest values) : Shown name (s :: rest) values

theorem shown_readings (r : ExtractionRule) (elements : List Snapshot) :
    Shown r.attributeName elements (readings r elements) := by
  induction elements with
  | nil => exact .nil
  | cons s rest ih =>
    have shows := s.shows_read r.attributeName
    unfold readings at ih ⊢
    rw [List.map_cons]
    by_cases empty : s.read r.attributeName = ""
    · rw [List.filter_cons_of_neg (by simpa using empty)]
      exact .empty (empty ▸ shows) ih
    · rw [List.filter_cons_of_pos (by simpa using empty)]
      exact .value shows empty ih

theorem Shown.eq_readings {r : ExtractionRule} {elements : List Snapshot} {values : List String}
    (h : Shown r.attributeName elements values) : values = readings r elements := by
  unfold readings
  induction h with
  | nil => rfl
  | value shows nonempty _ ih =>
    obtain rfl := shows.eq_read
    rw [List.map_cons, List.filter_cons_of_pos (by simpa using nonempty), ih]
  | empty shows _ ih =>
    rw [List.map_cons, List.filter_cons_of_neg (by simpa using shows.eq_read.symm), ih]

/-! ## Answers -/

/-- What the page gives a rule: a fault, or the elements that match. -/
abbrev Answer := Except Fault (List Snapshot)

section Rule

variable (r : ExtractionRule)

/-- The values that count, in the order of their elements. -/
def reads : Answer → List String
  | .error _ => []
  | .ok found => readings r found

/-- The rule must have a value, and the page gives it none. -/
def Misses (a : Answer) : Prop :=
  r.required = true ∧ reads r a = []

def missFault : Answer → Fault
  | .error e => requiredFault r.field e.message
  | .ok _ => requiredFault r.field ("no match for selector '" ++ r.selector ++ "'")

/-- What the rule sets its field to: what it has read, else what stands in for that. -/
def fill (a : Answer) : Value :=
  if reads r a ≠ [] then .texts (reads r a)
  else match a with
    | .error _ => r.fallback
    | .ok _ => emptyFill r

/-- What the rule warns of. -/
def complaints : Answer → List String
  | .error e => [ruleWarning r.field e.message]
  | .ok _ => []

/-- What the rule writes to the log. -/
def remarks (a : Answer) : List (LogLevel × String) :=
  match a with
  | .error e => [(.warn, ruleWarning r.field e.message)]
  | .ok _ =>
    if reads r a ≠ [] then []
    else match r.fallback with
      | .null => []
      | _ => [(.debug, s!"Field {r.field} matched nothing, using default")]

/-- The world that the rule leaves when it does not miss. -/
def settle (a : Answer) (w : World) : World :=
  { w with
    log := w.log ++ (remarks r a).toArray
    context := { w.context with
      warnings := w.context.warnings ++ complaints r a
      extracted := w.context.extracted.put r.field (fill r a) } }

end Rule

variable {r : ExtractionRule} {a : Answer} {w u : World}

/-- The query of a rule is listed, takes its time, and may count as a failure. -/
theorem asked_world (asked : attempt (Browse.queryAll r.selector) w = (.done a, u)) :
    ∃ t rules, u = { w with
      calls := w.calls.push (.queryAll r.selector), clock := t,
      page := { w.page with failures := rules } } := by
  have same : u = (Browse.queryAll r.selector w).2 := by
    rw [← attempt_world, asked]
  rw [same]
  exact queryAll_world r.selector w

/-- The query of a rule is one call, and changes nothing that the run has gathered. -/
theorem world_of_answer (asked : attempt (Browse.queryAll r.selector) w = (.done a, u)) :
    u.calls.toList = w.calls.toList ++ [.queryAll r.selector] ∧ u.context = w.context := by
  obtain ⟨t, rules, rfl⟩ := asked_world asked
  simp

theorem queryAll_done {selector : String} {w u : World} {elements : List Snapshot}
    (h : Browse.queryAll selector w = (.done elements, u)) :
    elements = w.page.matched selector ∧ u.page.elements = w.page.elements ∧
      u.context = w.context := by
  rw [queryAll_eq] at h
  obtain ⟨_, u', performed, read⟩ := bind_eq_done_iff.mp h
  cases read
  obtain ⟨t, rules, world⟩ := perform_world (.queryAll selector) w
  rw [performed] at world
  subst world
  exact ⟨rfl, rfl, rfl⟩

theorem applyRule_of_answer (asked : attempt (Browse.queryAll r.selector) w = (.done a, u)) :
    (Misses r a → applyRule r w = (.failed (missFault r a), u)) ∧
      (¬ Misses r a → applyRule r w = (.done (), settle r a u)) := by
  unfold applyRule
  rw [bind_done asked]
  cases a with
  | error e =>
    constructor
    · intro misses
      dsimp only
      rw [if_pos misses.1]
      rfl
    · intro serves
      have optional : ¬ r.required = true := fun required => serves ⟨required, rfl⟩
      dsimp only
      rw [if_neg optional]
      simp [settle, fill, reads, remarks, complaints, bind_apply, log, warn, setField, onContext]
  | ok found =>
    by_cases read : readings r found = []
    · constructor
      · intro misses
        simp [read, misses.1, missFault]
      · intro serves
        have optional : ¬ r.required = true := fun required => serves ⟨required, read⟩
        dsimp only
        rw [if_neg (by simp [read]), if_neg optional]
        cases h : r.fallback <;>
          simp [settle, fill, reads, remarks, complaints, read, h, bind_apply, log, setField,
            onContext, emptyFill]
    · constructor
      · intro misses
        exact absurd misses.2 read
      · intro _
        have some_ : (!(readings r found).isEmpty) = true := by simpa using read
        dsimp only
        rw [if_pos some_]
        simp [settle, fill, reads, remarks, complaints, read, setField, onContext]

/-! ## What a rule does by an answer -/

/-- What a rule that need not fail does by an answer: the value of its field, what it warns of, and
what it writes to the log. -/
inductive Sets (r : ExtractionRule) :
    Answer → Value → List String → List (LogLevel × String) → Prop
  | values {elements : List Snapshot} {values : List String}
      (shown : Shown r.attributeName elements values) (some_ : values ≠ []) :
      Sets r (.ok elements) (.list (values.map .text)) [] []
  | default {elements : List Snapshot} (shown : Shown r.attributeName elements [])
      (optional : r.required = false) (given : r.fallback ≠ .null) :
      Sets r (.ok elements) r.fallback []
        [(.debug, "Field " ++ r.field ++ " matched nothing, using default")]
  | nothing {elements : List Snapshot} (shown : Shown r.attributeName elements [])
      (optional : r.required = false) (default : r.fallback = .null) :
      Sets r (.ok elements) (.list []) [] []
  | raised {e : Fault} (optional : r.required = false) :
      Sets r (.error e) r.fallback
        ["Optional field extraction failed: " ++ r.field ++ " (" ++ e.message ++ ")"]
        [(.warn, "Optional field extraction failed: " ++ r.field ++ " (" ++ e.message ++ ")")]

/-- The fault of a rule that must have a value and gets none. -/
inductive Stops (r : ExtractionRule) : Answer → Fault → Prop
  | raised {e : Fault} (required : r.required = true) :
      Stops r (.error e) ⟨.extraction, "Required field extraction failed: " ++ r.field ++
        if e.message == "" then "" else ": " ++ e.message⟩
  | unmatched {elements : List Snapshot} (required : r.required = true)
      (shown : Shown r.attributeName elements []) :
      Stops r (.ok elements) ⟨.extraction, "Required field extraction failed: " ++ r.field ++
        ": no match for selector '" ++ r.selector ++ "'"⟩

section Rule

variable {r : ExtractionRule} {a : Answer} {w u : World}

theorem emptyFill_of_ne (given : r.fallback ≠ .null) : emptyFill r = r.fallback := by
  unfold emptyFill
  split
  · next null => exact absurd null given
  · rfl

theorem remarks_of_ne {elements : List Snapshot} (unread : readings r elements = [])
    (given : r.fallback ≠ .null) : remarks r (.ok elements) =
      [(.debug, "Field " ++ r.field ++ " matched nothing, using default")] := by
  unfold remarks
  dsimp only
  rw [if_neg (by simp [reads, unread])]
  split
  · next null => exact absurd null given
  · rfl

theorem optional_of_serves (serves : ¬ Misses r a) (unread : reads r a = []) :
    r.required = false := by
  simpa [Misses, unread] using serves

theorem sets_fill (serves : ¬ Misses r a) :
    Sets r a (fill r a) (complaints r a) (remarks r a) := by
  cases a with
  | error e => exact .raised (optional_of_serves serves rfl)
  | ok elements =>
    have shown := shown_readings r elements
    by_cases unread : readings r elements = []
    · have optional : r.required = false := optional_of_serves serves unread
      have filled : fill r (.ok elements) = emptyFill r := by simp [fill, reads, unread]
      rw [unread] at shown
      rw [filled]
      by_cases given : r.fallback = .null
      · have quiet : remarks r (.ok elements) = [] := by simp [remarks, reads, unread, given]
        rw [quiet, emptyFill, given]
        exact .nothing shown optional given
      · rw [remarks_of_ne unread given, emptyFill_of_ne given]
        exact .default shown optional given
    · have filled : fill r (.ok elements) = .texts (readings r elements) := by
        simp [fill, reads, unread]
      have quiet : remarks r (.ok elements) = [] := by simp [remarks, reads, unread]
      rw [filled, quiet]
      exact .values shown unread

theorem Sets.serves {v : Value} {warnings : List String} {lines : List (LogLevel × String)}
    (h : Sets r a v warnings lines) : ¬ Misses r a := by
  rintro ⟨required, unread⟩
  cases h with
  | values shown some_ => exact some_ (shown.eq_readings.trans unread)
  | default _ optional | nothing _ optional | raised optional =>
    rw [required] at optional
    cases optional

theorem Sets.eq_fill {v : Value} {warnings : List String} {lines : List (LogLevel × String)}
    (h : Sets r a v warnings lines) :
    v = fill r a ∧ warnings = complaints r a ∧ lines = remarks r a := by
  cases h with
  | values shown some_ =>
    obtain rfl := shown.eq_readings
    simp [fill, reads, complaints, remarks, some_, Value.texts]
  | default shown _ given =>
    have unread := shown.eq_readings.symm
    rw [remarks_of_ne unread given]
    simp [fill, reads, unread, emptyFill_of_ne given, complaints]
  | nothing shown _ default =>
    have unread := shown.eq_readings.symm
    simp [fill, reads, unread, emptyFill, default, complaints, remarks]
  | raised => exact ⟨rfl, rfl, rfl⟩

theorem missFault_ok (r : ExtractionRule) (elements : List Snapshot) :
    missFault r (.ok elements) = ⟨.extraction, "Required field extraction failed: " ++ r.field ++
      ": no match for selector '" ++ r.selector ++ "'"⟩ := by
  have reason : ("no match for selector '" ++ r.selector ++ "'" == "") = false := by
    simp
  have joined (t : String) : ": " ++ ("no match for selector '" ++ t) =
      ": no match for selector '" ++ t := String.append_assoc.symm
  unfold missFault requiredFault
  rw [reason]
  simp [String.append_assoc, joined]

theorem stops_missFault (misses : Misses r a) : Stops r a (missFault r a) := by
  cases a with
  | error e => exact .raised misses.1
  | ok elements =>
    rw [missFault_ok]
    have shown := shown_readings r elements
    rw [show readings r elements = [] from misses.2] at shown
    exact .unmatched misses.1 shown

theorem Stops.eq_missFault {e : Fault} (h : Stops r a e) : Misses r a ∧ e = missFault r a := by
  cases h with
  | raised required => exact ⟨⟨required, rfl⟩, rfl⟩
  | unmatched required shown =>
    exact ⟨⟨required, shown.eq_readings.symm⟩, (missFault_ok r _).symm⟩

end Rule

/-! ## Rules in their order -/

/-- A rule that is applied: what the page gives it, what its field is set to, what it warns of and
what it writes to the log. -/
structure Served where
  rule : ExtractionRule
  answer : Answer
  value : Value
  warnings : List String
  lines : List (LogLevel × String)
  sets : Sets rule answer value warnings lines

def Served.enter (s : Served) (w : World) : World :=
  { w with
    log := w.log ++ s.lines.toArray
    context := { w.context with
      warnings := w.context.warnings ++ s.warnings
      extracted := w.context.extracted.put s.rule.field s.value } }

/-- Rules that are applied one after another. -/
inductive Applied : List Served → World → World → Prop
  | none {w : World} : Applied [] w w
  | first {s : Served} {rest : List Served} {w u w' : World}
      (asked : attempt (Browse.queryAll s.rule.selector) w = (.done s.answer, u))
      (later : Applied rest (s.enter u) w') : Applied (s :: rest) w w'

/-- How the application of rules can end: with the last rule, with the first that must have a value
and gets none, or with a query that the deadline cuts. -/
inductive RulesEnd (rules : List ExtractionRule) (w : World) : Outcome Unit × World → Prop
  | all {served : List Served} {w' : World} (order : rules = served.map Served.rule)
      (applied : Applied served w w') : RulesEnd rules w (.done (), w')
  | stopped {served : List Served} {r : ExtractionRule} {a : Answer} {e : Fault}
      {after : List ExtractionRule} {v u : World}
      (order : rules = served.map Served.rule ++ r :: after) (applied : Applied served w v)
      (asked : attempt (Browse.queryAll r.selector) v = (.done a, u)) (stops : Stops r a e) :
      RulesEnd rules w (.failed e, u)
  | cut {served : List Served} {r : ExtractionRule} {after : List ExtractionRule} {v u : World}
      (order : rules = served.map Served.rule ++ r :: after) (applied : Applied served w v)
      (asked : Browse.queryAll r.selector v = (.cancelled, u)) : RulesEnd rules w (.cancelled, u)

section Rules

variable {r : ExtractionRule} {a : Answer} {w u : World}

theorem applyRule_of_served (s : Served)
    (asked : attempt (Browse.queryAll s.rule.selector) w = (.done s.answer, u)) :
    applyRule s.rule w = (.done (), s.enter u) := by
  obtain ⟨r, a, v, warnings, lines, sets⟩ := s
  obtain ⟨rfl, rfl, rfl⟩ := sets.eq_fill
  exact (applyRule_of_answer asked).2 sets.serves

theorem applyRule_of_stops {e : Fault} (stops : Stops r a e)
    (asked : attempt (Browse.queryAll r.selector) w = (.done a, u)) :
    applyRule r w = (.failed e, u) := by
  obtain ⟨misses, rfl⟩ := stops.eq_missFault
  exact (applyRule_of_answer asked).1 misses

theorem RulesEnd.first {s : Served} {rest : List ExtractionRule} {end_ : Outcome Unit × World}
    (asked : attempt (Browse.queryAll s.rule.selector) w = (.done s.answer, u))
    (later : RulesEnd rest (s.enter u) end_) : RulesEnd (s.rule :: rest) w end_ := by
  cases later with
  | all order applied => exact .all (by rw [order]; rfl) (.first asked applied)
  | stopped order applied asked' stops =>
    exact .stopped (by rw [order]; rfl) (.first asked applied) asked' stops
  | cut order applied asked' => exact .cut (by rw [order]; rfl) (.first asked applied) asked'

theorem rulesEnd_of_answer {rest : List ExtractionRule}
    (asked : attempt (Browse.queryAll r.selector) w = (.done a, u))
    (ih : ∀ w, RulesEnd rest w (applyRules rest w)) :
    RulesEnd (r :: rest) w (applyRules (r :: rest) w) := by
  unfold applyRules
  by_cases misses : Misses r a
  · have stops := stops_missFault misses
    rw [bind_failed (applyRule_of_stops stops asked)]
    exact .stopped (show _ = [].map Served.rule ++ _ from rfl) .none asked stops
  · let s : Served := ⟨r, a, _, _, _, sets_fill misses⟩
    rw [bind_done (applyRule_of_served s asked)]
    exact .first (s := s) asked (ih _)

theorem rulesEnd_applyRules (rules : List ExtractionRule) (w : World) :
    RulesEnd rules w (applyRules rules w) := by
  induction rules generalizing w with
  | nil => exact .all (show [] = [].map Served.rule from rfl) .none
  | cons r rest ih =>
    rcases asked : Browse.queryAll r.selector w with ⟨found | e | _, u⟩
    · exact rulesEnd_of_answer (attempt_done asked) ih
    · exact rulesEnd_of_answer (attempt_failed asked) ih
    · have cut : applyRule r w = (.cancelled, u) := by
        unfold applyRule
        rw [bind_cancelled (attempt_cancelled asked)]
      rw [applyRules, bind_cancelled cut]
      exact .cut (show _ = [].map Served.rule ++ _ from rfl) .none asked

variable {served : List Served} {w' : World}

theorem Applied.applyRules_append (h : Applied served w w') (rest : List ExtractionRule) :
    applyRules (served.map Served.rule ++ rest) w = applyRules rest w' := by
  induction h with
  | none => rfl
  | @first s _ _ _ _ asked _ ih =>
    rw [List.map_cons, List.cons_append, applyRules, bind_done (applyRule_of_served s asked)]
    exact ih

theorem applyRules_of_rulesEnd {rules : List ExtractionRule} {end_ : Outcome Unit × World}
    (h : RulesEnd rules w end_) : applyRules rules w = end_ := by
  cases h with
  | all order applied =>
    have ended := applied.applyRules_append []
    rw [List.append_nil, ← order] at ended
    exact ended
  | stopped order applied asked stops =>
    rw [order, applied.applyRules_append, applyRules]
    exact bind_failed (applyRule_of_stops stops asked) _
  | cut order applied asked =>
    rw [order, applied.applyRules_append, applyRules]
    refine bind_cancelled ?_ _
    unfold applyRule
    exact bind_cancelled (attempt_cancelled asked) _

/-! ## What the rules leave -/

/-- Between the worlds each of the rules has asked once, and has set its field unless a later one
has set it; what they warn of is listed in their order, and no other field is touched. -/
structure Filled (served : List Served) (w w' : World) : Prop where
  calls : w'.calls.toList = w.calls.toList ++ served.map fun s => .queryAll s.rule.selector
  warnings : w'.context.warnings = w.context.warnings ++ served.flatMap Served.warnings
  kept : ∀ name, (∀ s ∈ served, s.rule.field ≠ name) →
    w'.context.extracted.find? name = w.context.extracted.find? name
  set : ∀ before s after, served = before ++ s :: after →
    (∀ s' ∈ after, s'.rule.field ≠ s.rule.field) →
    w'.context.extracted.find? s.rule.field = some s.value

theorem Served.fields_enter (s : Served) (w : World) (name : String) :
    (s.enter w).context.extracted.find? name =
      if s.rule.field = name then some s.value else w.context.extracted.find? name := by
  show (w.context.extracted.put s.rule.field s.value).find? name = _
  split
  · next same => rw [← same, Members.find?_put_self]
  · next other => exact Members.find?_put_of_ne _ _ (Ne.symm other)

theorem Applied.filled (h : Applied served w w') : Filled served w w' := by
  induction h with
  | none =>
    refine ⟨by simp, by simp, fun _ _ => rfl, fun before s after order => ?_⟩
    simp at order
  | @first s rest w u w' asked later ih =>
    obtain ⟨calls, context⟩ := world_of_answer asked
    refine ⟨?_, ?_, fun name others => ?_, fun before s' after order last => ?_⟩
    · rw [ih.calls]
      simp [Served.enter, calls]
    · rw [ih.warnings]
      simp [Served.enter, context]
    · rw [ih.kept name fun s' mem => others s' (List.mem_cons_of_mem _ mem), s.fields_enter,
        if_neg (others s List.mem_cons_self), context]
    -- the first rule keeps its field when no later one has the same, else the later one decides
    · obtain ⟨-, own⟩ | ⟨before, -, inner⟩ := List.cons_eq_append_iff.mp order
      · cases own
        rw [ih.kept _ last, s.fields_enter, if_pos rfl]
      · exact ih.set before s' after inner last

end Rules

/-- The application of rules goes on until a rule that must have a value gets none, or a query is
cut.  In the first case it fails with a fault that names the field; the last query has been one
more call, and has changed nothing that the run has gathered.  Each rule before it has asked once
and set its field: to what the elements show, in their order and without what is empty, or to what
stands in for that.  The last rule of a field decides, and each rule that could not be answered is
warned of once. -/
theorem applyRules_iff (rules : List ExtractionRule) (w : World) :
    (∀ end_, applyRules rules w = end_ ↔ RulesEnd rules w end_) ∧
    (∀ served w', Applied served w w' → Filled served w w') ∧
    ∀ (r : ExtractionRule) a v u, attempt (Browse.queryAll r.selector) v = (.done a, u) →
      u.calls.toList = v.calls.toList ++ [.queryAll r.selector] ∧ u.context = v.context ∧
      ∀ elements, a = .ok elements → elements = v.page.matched r.selector := by
  refine ⟨fun end_ => ⟨?_, applyRules_of_rulesEnd⟩, fun _ _ applied => applied.filled, ?_⟩
  · rintro rfl
    exact rulesEnd_applyRules rules w
  · intro r a v u asked
    obtain ⟨calls, context⟩ := world_of_answer asked
    refine ⟨calls, context, ?_⟩
    rintro elements rfl
    rcases answered : Browse.queryAll r.selector v with ⟨found | e | _, v'⟩
    · rw [attempt_done answered] at asked
      cases asked
      exact (queryAll_done answered).1
    · rw [attempt_failed answered] at asked
      cases asked
    · rw [attempt_cancelled answered] at asked
      cases asked

def cardsBesideBlank : World :=
  .opening { Page.blank with elements := [(".title", [⟨"", "", []⟩, ⟨"B", "", []⟩])] } []

def titleRule : ExtractionRule :=
  ⟨"title", ".title", none, none, true, .null⟩

theorem applyRules_iff_beside_blank :
    ∃ w', applyRules [titleRule] cardsBesideBlank = (.done (), w') ∧
      w'.context.extracted.find? "title" = some (.list [.text "B"]) ∧
      w'.context.warnings = [] := by
  obtain ⟨ends, filled, -⟩ := applyRules_iff [titleRule] cardsBesideBlank
  have shown : Shown none [⟨"", "", []⟩, ⟨"B", "", []⟩] ["B"] :=
    .empty (.text (by simp)) (.value (.text (by simp)) (by decide) .nil)
  let s : Served := ⟨titleRule, .ok _, _, _, _, .values shown (by simp)⟩
  have asked : attempt (Browse.queryAll ".title") cardsBesideBlank = (.done s.answer, _) := rfl
  have applied : Applied [s] cardsBesideBlank _ := .first asked .none
  obtain ⟨-, warnings, -, set⟩ := filled _ _ applied
  exact ⟨_, (ends _).mpr (.all rfl applied), set [] s [] rfl (List.forall_mem_nil _), warnings⟩

end Harvest

end Scout
