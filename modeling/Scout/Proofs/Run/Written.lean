import Scout.Proofs.Document.Playbooks
import Scout.Proofs.Json.Stored
import Scout.Proofs.Run.Browsers
import Scout.Proofs.Run.Provenance

/-!
# Runs written down

What a run binds and extracts are data that can be written down: they lie inside of what the page
answered, as long as no path goes on from a text, a number or a truth value.  The report of such a
run reads back as it was written.
-/

namespace Scout

/-! ## Pages with distinct names -/

/-- No two attributes of the element have one name. -/
def Snapshot.IsProper (s : Snapshot) : Prop :=
  s.attributes.names.Nodup

/-- Names are distinct in all that the page can show and answer. -/
structure Page.IsProper (p : Page) : Prop where
  elements : ∀ m ∈ p.elements, ∀ s ∈ m.2, s.IsProper
  effects : ∀ m ∈ p.effects, ∀ e ∈ m.2, ∀ n ∈ e.set, ∀ s ∈ n.2, s.IsProper
  expressions : ∀ m ∈ p.expressions, m.2.isProper = true

theorem Members.mem_overlay {α : Type} {base above : Members α} {m : String × α}
    (h : m ∈ base.overlay above) : m ∈ base ∨ m ∈ above := by
  induction above generalizing base with
  | nil => exact .inl h
  | cons n rest ih =>
    obtain below | later := ih h
    · obtain old | rfl := Members.mem_put below
      · exact .inl old
      · exact .inr List.mem_cons_self
    · exact .inr (List.mem_cons_of_mem n later)

theorem Members.names_mapValues {α β : Type} (f : α → β) (ms : Members α) :
    (ms.mapValues f).names = ms.names := by
  simp [Members.names, Members.mapValues]

theorem mem_foldl_erase {α : Type} {ms : Members α} {names : List String} {m : String × α}
    (h : m ∈ names.foldl Members.erase ms) : m ∈ ms := by
  induction names generalizing ms with
  | nil => exact h
  | cons name rest ih => exact (List.mem_filter.mp (ih h)).1

namespace Page

variable {p q : Page}

theorem IsProper.applyEffect (h : p.IsProper) {e : ClickEffect}
    (set : ∀ n ∈ e.set, ∀ s ∈ n.2, s.IsProper) : (p.applyEffect e).IsProper := by
  refine ⟨fun m mem => ?_, h.effects, h.expressions⟩
  obtain old | new := Members.mem_overlay (mem_foldl_erase mem)
  · exact h.elements m old
  · exact set m new

theorem IsProper.applyEffects (h : p.IsProper) {due : List ClickEffect}
    (set : ∀ e ∈ due, ∀ n ∈ e.set, ∀ s ∈ n.2, s.IsProper) :
    (due.foldl Page.applyEffect p).IsProper := by
  induction due generalizing p with
  | nil => exact h
  | cons e rest ih =>
    apply ih (h.applyEffect (set e List.mem_cons_self))
    exact fun x mem => set x (List.mem_cons_of_mem e mem)

theorem IsProper.click (h : p.IsProper) (selector : String) : (p.click selector).IsProper := by
  have counted (clicks : Members Nat) : { p with clicks }.IsProper :=
    ⟨h.elements, h.effects, h.expressions⟩
  refine (counted _).applyEffects fun e mem => ?_
  have listed := (List.mem_filter.mp mem).1
  cases found : p.effects.find? selector with
  | none =>
    rw [found] at listed
    cases listed
  | some es =>
    rw [found] at listed
    exact h.effects _ (Members.mem_of_find? found) e listed

theorem Becomes.isProper (h : p.Becomes q) (proper : p.IsProper) : q.IsProper := by
  induction h with
  | same => exact proper
  | clicked _ selector ih => exact ih.click selector
  | loaded _ url ih => exact ⟨ih.elements, ih.effects, ih.expressions⟩
  | counted _ rules ih => exact ⟨ih.elements, ih.effects, ih.expressions⟩

theorem IsProper.matched (h : p.IsProper) (selector : String) :
    ∀ s ∈ p.matched selector, s.IsProper := by
  intro s mem
  unfold Page.matched at mem
  cases found : p.elements.find? selector with
  | none =>
    rw [found] at mem
    cases mem
  | some elements =>
    rw [found] at mem
    exact h.elements _ (Members.mem_of_find? found) s mem

end Page

/-! ## Reports -/

theorem Snapshot.proper_encode {s : Snapshot} (h : s.IsProper) : s.encode.isProper = true := by
  have attributes : (s.attributes.mapValues Value.text).AreProper := by
    refine ⟨?_, fun m mem => ?_⟩
    · rw [Members.names_mapValues]
      exact h
    · obtain ⟨a, -, rfl⟩ := List.mem_map.mp mem
      rfl
  rw [encode, Value.isProper_record]
  refine ⟨by simp [Members.names], ?_⟩
  simp only [List.forall_mem_cons]
  exact ⟨rfl, rfl, Value.isProper_record.mpr attributes, by simp⟩

theorem Page.Finds.isProper {page : Page} {kind : ActionKind} {data : Value}
    (h : page.Finds kind data) (proper : page.IsProper) : data.isProper = true := by
  cases h with
  | @extracted q becomes selector =>
    have shown := (becomes.isProper proper).matched selector
    unfold Step.foundData
    split
    · next s single => exact Snapshot.proper_encode (shown s (by simp [single]))
    · rw [Value.isProper_list]
      intro v mem
      obtain ⟨s, listed, rfl⟩ := List.mem_map.mp mem
      exact Snapshot.proper_encode (shown s listed)
  | @evaluated q becomes expression =>
    cases found : q.expressions.find? expression with
    | none => rfl
    | some v => exact (becomes.isProper proper).expressions _ (Members.mem_of_find? found)

theorem Members.Grown.areProper {given ms : Members Value} {A : String → Value → Prop}
    (h : Members.Grown given A ms) (proper : given.AreProper)
    (added : ∀ name v, A name v → v.isProper = true) : ms.AreProper := by
  induction h with
  | given => exact proper
  | put _ set ih => exact ih.put (added _ _ set)

theorem Harvest.proper_fill {r : ExtractionRule} (stored : r.IsStorable) (answer : Answer) :
    (fill r answer).isProper = true := by
  have fallback : r.fallback.isProper = true := stored
  have empty : (emptyFill r).isProper = true := by
    unfold emptyFill
    split
    · rfl
    · exact fallback
  unfold fill
  split
  · exact (Decoder.keeps_texts _).proper
  · cases answer with
    | error e => exact fallback
    | ok found => exact empty

theorem Opportunity.proper_encode (o : Opportunity) : o.encode.isProper = true := by
  have deadline : (Value.ofMoment? o.deadline).isProper = true := by
    cases o.deadline <;> rfl
  have tags := (Decoder.keeps_texts o.tags).proper
  have source : o.source.encode.isProper = true := by
    have url := (Decoder.keeps_text? o.source.sourceUrl).proper
    rw [Provenance.encode, Value.isProper_record]
    refine ⟨by simp [Members.names], ?_⟩
    simp [url, Value.isProper]
  rw [encode, Value.isProper_record]
  refine ⟨by simp [Members.names], ?_⟩
  simp [deadline, tags, source, Value.isProper]

theorem ActionResult.proper_encode {r : ActionResult} (h : r.extracted.isProper = true) :
    r.encode.isProper = true := by
  have error := (Decoder.keeps_text? r.error).proper
  have screenshot := (Decoder.keeps_text? r.screenshot).proper
  rw [encode, Value.isProper_record]
  refine ⟨by simp [Members.names], ?_⟩
  simp [error, screenshot, h, Value.isProper]

theorem RunContext.proper_encode {c : RunContext} (vars : c.vars.AreProper)
    (extracted : c.extracted.AreProper)
    (results : ∀ r ∈ c.results, r.extracted.isProper = true) : c.encode.isProper = true := by
  have texts (ss : List String) : (Value.texts ss).isProper = true :=
    (Decoder.keeps_texts ss).proper
  have journal : (Value.list (c.results.map ActionResult.encode)).isProper = true := by
    rw [Value.isProper_list]
    intro v mem
    obtain ⟨r, entered, rfl⟩ := List.mem_map.mp mem
    exact ActionResult.proper_encode (results r entered)
  rw [encode, Value.isProper_record]
  refine ⟨by simp [Members.names], ?_⟩
  simp only [List.forall_mem_cons]
  exact ⟨Value.isProper_record.mpr vars, Value.isProper_record.mpr extracted, texts _, texts _,
    texts _, rfl, rfl, journal, by simp⟩

theorem RunReport.proper_encode {r : RunReport} (context : r.context.encode.isProper = true) :
    r.encode.isProper = true := by
  have texts (ss : List String) : (Value.texts ss).isProper = true :=
    (Decoder.keeps_texts ss).proper
  have opportunities :
      (Value.list (r.opportunities.map Opportunity.encode)).isProper = true := by
    rw [Value.isProper_list]
    intro v mem
    obtain ⟨o, -, rfl⟩ := List.mem_map.mp mem
    exact o.proper_encode
  rw [encode, Value.isProper_record]
  refine ⟨by simp [Members.names], ?_⟩
  simp only [List.forall_mem_cons]
  exact ⟨rfl, opportunities, context, rfl, texts _, texts _, by simp⟩

/-! ## Paths of a playbook -/

/-- Whatever the page answers to its actions, no path of the playbook goes on in that from a text, a
number or a truth value. -/
def Playbook.StaysInside (p : Playbook) (page : Page) : Prop :=
  ∀ (a : Action) (name : String) (path data : Value), p.Performs a →
    (name, path) ∈ a.step.bindings.getD [] → page.Finds a.kind data →
      ¬ Value.terrain.Oversteps data (Text.splitOn '.' path.display)

theorem Value.offers_atPath {v : Value} {path : String}
    (straight : ¬ terrain.Strays v (Text.splitOn '.' path)) : v.Offers (v.atPath path) := by
  obtain ⟨u, led, offered⟩ := terrain_carries.walk_offered straight
  have same : v.atPath path = u := led
  rw [same]
  exact offered

namespace Playbook

variable {p : Playbook} {page : Page}

theorem StaysInside.offers (h : p.StaysInside page) {a : Action} {name : String}
    {path data : Value} (performed : p.Performs a)
    (binds : (name, path) ∈ a.step.bindings.getD []) (finds : page.Finds a.kind data) :
    data.Offers (data.atPath path.display) :=
  Value.offers_atPath fun strays => h a name path data performed binds finds strays.oversteps

theorem StaysInside.isProper (h : p.StaysInside page) (proper : page.IsProper) {a : Action}
    {name : String} {path data : Value} (performed : p.Performs a)
    (binds : (name, path) ∈ a.step.bindings.getD []) (finds : page.Finds a.kind data) :
    (data.atPath path.display).isProper = true :=
  (h.offers performed binds finds).isProper (finds.isProper proper)

theorem Sets.isProper {name : String} {v : Value} (h : p.Sets page name v)
    (proper : page.IsProper) (inside : p.StaysInside page) : v.isProper = true := by
  cases h with
  | address => rfl
  | bound performed binds finds => exact inside.isProper proper performed binds finds

theorem Fills.isProper {name : String} {v : Value} (h : p.Fills page name v)
    (stored : p.IsStorable) (proper : page.IsProper) (inside : p.StaysInside page) :
    v.isProper = true := by
  cases h with
  | bound performed binds _ finds => exact inside.isProper proper performed binds finds
  | filled rule _ => exact Harvest.proper_fill (stored.rules _ rule) _

theorem Yields.isProper {v : Value} (h : p.Yields page v) (proper : page.IsProper) :
    v.isProper = true := by
  cases h with
  | nothing => rfl
  | rounds n => rfl
  | tries n => rfl
  | found _ finds => exact finds.isProper proper

end Playbook

theorem Run.proper_report (o : RunOptions) (at_ : Stamp) {p : Playbook} {vars : Members Value}
    {w : World} (stored : p.IsStorable) (given : ∀ m ∈ vars, m.2.isProper = true)
    (page : w.page.IsProper) (inside : p.StaysInside w.page) :
    (start o at_ p vars w).1.encode.isProper = true := by
  have grown := grown_start o at_ p vars w
  apply RunReport.proper_encode
  apply RunContext.proper_encode
  · apply grown.vars.areProper (stored.vars.overlay given)
    exact fun _ _ sets => sets.isProper page inside
  · apply grown.extracted.areProper .nil
    exact fun _ _ fills => fills.isProper stored page inside
  · exact fun r entered => (grown.results r entered).isProper page

namespace Run

/-- Wherever data stand on a terrain, a path through them leads to nothing, to the data or to
something inside, unless it takes a step that is answered by what is neither a record nor a
list. Values and models are such terrains.  A number does answer: wherever a path leads to one,
a step more leads to its part.  Whatever a run has at its end it was given, or its actions and
rules have added it from the page.  As long as no path of the playbook goes on from a text, a
number or a truth value in what the page answers, what is bound lies inside of the answer, and
the report of the run reads back as it was written. -/
theorem paths_stay_inside (v : Value) (path : String) (p : Playbook) (w : World) :
    (∀ {α : Type} (t : Terrain α) (place : Value → α), t.Carries place →
      ¬ t.Strays (place v) (Text.splitOn '.' path) →
        ∃ u, t.atPath (place v) path = place u ∧ v.Offers u) ∧
    (Value.terrain.Carries id ∧ Subject.terrain.Carries Subject.value) ∧
    (∀ (name : String) (part : Value), (v.atPath path).part? name = some part →
      v.atPath (path ++ "." ++ name) = part) ∧
    (∀ (o : RunOptions) (at_ : Stamp) (vars : Members Value),
      (start o at_ p vars w).1.context.Grown (p.vars.overlay vars) (p.sources w.page)) ∧
    (p.StaysInside w.page →
      (∀ (a : Action) (name : String) (path data : Value), p.Performs a →
        (name, path) ∈ a.step.bindings.getD [] → w.page.Finds a.kind data →
          data.Offers (data.atPath path.display)) ∧
      ∀ (o : RunOptions) (at_ : Stamp) (vars : Members Value), p.IsStorable →
        (∀ m ∈ vars, m.2.isProper = true) → w.page.IsProper →
          let report := (start o at_ p vars w).1.encode
          Json.parse (Json.document report) = .ok report) := by
  refine ⟨fun t place carries straight => carries.walk_offered straight,
    ⟨Value.terrain_carries, Subject.terrain_carries⟩,
    fun name part answer => Value.atPath_part answer,
    fun o at_ vars => grown_start o at_ p vars w, fun inside => ⟨?_, ?_⟩⟩
  · intro a name path data performed binds finds
    exact inside.offers performed binds finds
  · intro o at_ vars stored given page
    exact Json.parse_document (proper_report o at_ stored given page inside)

def gleaning : Playbook :=
  ⟨"p", "P", "", "1.0.0", "b", [], [],
    [⟨⟨"link", .extract, "", some ".next", none, none, none, none,
      some [("address", .text "attributes.href")], false⟩, none⟩], [], .standard, .standard⟩

/-- A page that nothing happens on when it is clicked shows what it has shown. -/
theorem elements_of_becomes {p q : Page} (h : p.Becomes q) (inert : p.effects = []) :
    q.elements = p.elements ∧ q.effects = [] := by
  induction h with
  | same => exact ⟨rfl, inert⟩
  | clicked _ selector ih =>
    unfold Page.click
    rw [ih.2]
    exact ⟨ih.1, rfl⟩
  | loaded _ url ih => exact ih
  | counted _ rules ih => exact ih

theorem foundData_plainPage {q : Page} (becomes : plainPage.Becomes q) (selector : String) :
    Step.foundData (q.matched selector) = .list [] ∨
      Step.foundData (q.matched selector) =
        (⟨"Next", "", [("href", "/2")]⟩ : Snapshot).encode := by
  have shown : q.elements = plainPage.elements := (elements_of_becomes becomes rfl).1
  unfold Page.matched
  rw [shown]
  by_cases named : selector = ".next"
  · rw [named]
    exact .inr rfl
  · have missing : plainPage.elements.find? selector = none := by
      simp [plainPage, Members.find?_cons, Ne.symm named]
    rw [missing]
    exact .inl rfl

theorem gleaning_staysInside : gleaning.StaysInside plainPage := by
  rintro a name path data ⟨b, mem, within⟩ binds finds
  rw [List.mem_singleton.mp mem] at within
  obtain rfl | inside := within
  · cases List.mem_singleton.mp binds
    have steps : Text.splitOn '.' (Value.text "attributes.href").display =
        ["attributes", "href"] := by decide
    cases finds with
    | extracted becomes selector =>
      obtain unshown | shown := foundData_plainPage becomes selector
      · rw [steps, unshown]
        simp only [Terrain.oversteps_cons_iff, Terrain.not_oversteps_nil, or_false, not_or]
        constructor <;> rintro ⟨named, ⟨⟩⟩
      · rw [steps, shown]
        simp only [Terrain.oversteps_cons_iff, Terrain.not_oversteps_nil, or_false, not_or]
        constructor <;> rintro ⟨named, ⟨⟩⟩
  · cases inside

theorem paths_stay_inside_gleaning :
    let w : World := .opening plainPage []
    (Value.terrain.Carries id ∧
      ¬ Value.terrain.Strays Value.links (Text.splitOn '.' "items.0.href") ∧
      Value.links.Offers (.text "/a")) ∧
    (gleaning.IsStorable ∧ w.page.IsProper ∧ gleaning.StaysInside w.page) ∧
    let report := (start .standard firstOfMay gleaning [] w).1.encode
    Json.parse (Json.document report) = .ok report := by
  intro w
  obtain ⟨straight, -, -, -, bound⟩ := paths_stay_inside Value.links "items.0.href" gleaning w
  obtain ⟨-, written⟩ := bound gleaning_staysInside
  have stored : gleaning.IsStorable := by
    refine ⟨.nil, ⟨?_, trivial⟩, List.forall_mem_nil _, Metadata.isStorable_standard⟩
    rintro bindings ⟨⟩
    simp [Members.AreProper, Members.names, Value.isProper]
  have proper : w.page.IsProper := by
    refine ⟨?_, List.forall_mem_nil _, List.forall_mem_nil _⟩
    intro m mem s shown
    cases List.mem_singleton.mp mem
    cases List.mem_singleton.mp shown
    exact List.nodup_singleton _
  have unstrayed : ¬ Value.terrain.Strays Value.links (Text.splitOn '.' "items.0.href") := by
    have steps : Text.splitOn '.' "items.0.href" = ["items", "0", "href"] := by decide
    rw [steps]
    apply mt Terrain.Strays.oversteps
    simp only [Terrain.oversteps_cons_iff, Terrain.not_oversteps_nil, or_false, not_or]
    refine ⟨?_, ?_, ?_⟩ <;> rintro ⟨named, ⟨⟩⟩
  obtain ⟨u, led, offered⟩ := straight Value.terrain id Value.terrain_carries unstrayed
  have same : u = .text "/a" := led.symm
  exact ⟨⟨Value.terrain_carries, unstrayed, same ▸ offered⟩,
    ⟨stored, proper, gleaning_staysInside⟩,
    written .standard firstOfMay [] stored (List.forall_mem_nil _) proper⟩

/-- The imaginary part of a number is not in it. -/
theorem number_leads_outside :
    ¬ ∀ (v : Value) (path : String), v.Offers (v.atPath path) := by
  intro claim
  have led : (Value.int 5).atPath "imag" = .int 0 := rfl
  obtain nothing | ⟨places, inside⟩ := led ▸ claim (.int 5) "imag"
  · cases nothing
  · cases inside

end Run

end Scout
