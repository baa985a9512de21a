import Scout.Proofs.Run.Filling
import Scout.Proofs.Run.Rules
import Scout.Proofs.Values

/-!
# Alignment of fields

The values that a rule reads are laid beside those of the other rules by their index.
Only texts that are not empty count, so an element that reads empty lets every later
value of its column move up: a record holds what was read from one and the same element
of every column as long as the elements that read empty come after all others.
-/

namespace Scout

open Exec

theorem Members.find?_mapValues {α β : Type} (f : α → β) (ms : Members α) (name : String) :
    (Members.mapValues f ms).find? name = (ms.find? name).map f := by
  induction ms with
  | nil => rfl
  | cons m ms ih =>
    rw [mapValues, List.map_cons, find?_cons, find?_cons]
    split
    · rfl
    · exact ih

namespace Harvest

/-! ## Columns -/

/-- What a rule reads from matched elements, one text for each. -/
def column (r : ExtractionRule) (elements : List Snapshot) : List String :=
  elements.map fun s => s.read r.attributeName

/-- The empty texts come after all others. -/
def IsPacked (texts : List String) : Prop :=
  texts.Pairwise fun a b => a = "" → b = ""

instance : DecidablePred IsPacked :=
  fun texts => inferInstanceAs (Decidable (texts.Pairwise _))

/-- The texts that count stand where they were read exactly when the empty ones come last. -/
theorem isPacked_iff (texts : List String) :
    IsPacked texts ↔ ∀ i : Nat, (texts.filter (· != ""))[i]? = texts[i]?.filter (· != "") := by
  induction texts with
  | nil => simp [IsPacked]
  | cons t rest ih =>
    unfold IsPacked at ih ⊢
    rw [List.pairwise_cons]
    by_cases h : t = ""
    · -- nothing may move up to the place of an empty text
      subst h
      have none : rest.filter (· != "") = [] ↔ ∀ b ∈ rest, b = "" := by
        simp [List.filter_eq_nil_iff]
      rw [List.filter_cons_of_neg (by simp)]
      constructor
      · rintro ⟨empty, -⟩ i
        have all : ∀ b ∈ rest, b = "" := fun b hb => empty b hb rfl
        rw [none.mpr all]
        cases i with
        | zero => simp [Option.filter_some]
        | succ i =>
          rcases hi : rest[i]? with _ | b
          · simp [hi]
          · simp [hi, all b (List.mem_of_getElem? hi), Option.filter_some]
      · intro stay
        have all := none.mp (by simpa [Option.filter_some, none] using stay 0)
        refine ⟨fun b hb _ => all b hb, ?_⟩
        exact List.pairwise_of_forall_mem_list fun a _ b hb _ => all b hb
    · rw [List.filter_cons_of_pos (by simpa using h), and_iff_right fun b _ e => absurd e h, ih]
      constructor
      · intro stay i
        cases i with
        | zero => simp [h, Option.filter_some]
        | succ i => simpa using stay i
      · intro stay i
        simpa using stay (i + 1)

/-! ## Fields that the rules fill -/

/-- What a rule sets its field to. -/
def filled (r : ExtractionRule) (elements : List Snapshot) : Value :=
  if (readings r elements).isEmpty then emptyFill r else .texts (readings r elements)

theorem fill_ok (r : ExtractionRule) (elements : List Snapshot) :
    fill r (.ok elements) = filled r elements := by
  by_cases read : readings r elements = [] <;> simp [fill, filled, reads, read]

/-- The page answers the queries of the rules, one after another. -/
def Answered : List ExtractionRule → World → Prop
  | [], _ => True
  | r :: rest, w =>
    (∃ elements u, Browse.queryAll r.selector w = (.done elements, u)) ∧
      Answered rest (applyRule r w).2

theorem applyRule_done {r : ExtractionRule} {w w' u : World} {elements : List Snapshot}
    (answered : Browse.queryAll r.selector w = (.done elements, u))
    (applied : applyRule r w = (.done (), w')) :
    w'.page.elements = w.page.elements ∧
      w'.context.extracted =
        w.context.extracted.put r.field (filled r (w.page.matched r.selector)) := by
  obtain ⟨rfl, same, context⟩ := queryAll_done answered
  obtain ⟨missed, served⟩ := applyRule_of_answer (attempt_done answered)
  by_cases misses : Misses r (.ok (w.page.matched r.selector))
  · rw [missed misses] at applied
    cases applied
  · rw [served misses] at applied
    cases applied
    rw [← context]
    refine ⟨same, ?_⟩
    show u.context.extracted.put r.field (fill r _) = _
    rw [fill_ok]

/-- The fields that rules do not name stay as they are, and each rule that is answered fills its
own. -/
theorem applyRules_done {rules : List ExtractionRule} {w w' : World}
    (distinct : (rules.map ExtractionRule.field).Nodup) (answered : Answered rules w)
    (applied : applyRules rules w = (.done (), w')) :
    (∀ name ∉ rules.map ExtractionRule.field,
      w'.context.extracted.find? name = w.context.extracted.find? name) ∧
    ∀ r ∈ rules, w'.context.extracted.find? r.field =
      some (filled r (w.page.matched r.selector)) := by
  induction rules generalizing w with
  | nil =>
    cases applied
    exact ⟨fun _ _ => rfl, by simp⟩
  | cons r rest ih =>
    obtain ⟨⟨elements, u, asked⟩, others⟩ := answered
    obtain ⟨_, w₁, first, applied⟩ := bind_eq_done_iff.mp applied
    rw [first] at others
    obtain ⟨page, fields⟩ := applyRule_done asked first
    rw [List.map_cons, List.nodup_cons] at distinct
    obtain ⟨kept, filled⟩ := ih distinct.2 others applied
    refine ⟨fun name other => ?_, fun r' hr' => ?_⟩
    · rw [List.map_cons, List.mem_cons, not_or] at other
      rw [kept name other.2, fields, Members.find?_put_of_ne _ _ other.1]
    · rcases List.mem_cons.mp hr' with rfl | later
      · rw [kept _ distinct.1, fields, Members.find?_put_self]
      · have same : w₁.page.matched r'.selector = w.page.matched r'.selector := by
          rw [Page.matched, Page.matched, page]
        rw [← same]
        exact filled r' later

/-! ## Records -/

/-- How many values a field lists. -/
def breadth : Value → Nat
  | .list items => items.length
  | _ => 0

theorem recordCount_eq_foldl (fields : Members Value) :
    recordCount fields = fields.foldl (fun n m => max n (breadth m.2)) 0 := by
  unfold recordCount
  congr
  funext n m
  obtain ⟨name, v⟩ := m
  cases v <;> simp [breadth]

theorem recordCount_cons (m : String × Value) (rest : Members Value) :
    recordCount (m :: rest) = max (breadth m.2) (recordCount rest) := by
  have begun (ms : Members Value) (k n : Nat) :
      ms.foldl (fun n m => max n (breadth m.2)) (max k n) =
        max k (ms.foldl (fun n m => max n (breadth m.2)) n) := by
    induction ms generalizing n with
    | nil => rfl
    | cons m ms ih => rw [List.foldl_cons, List.foldl_cons, Nat.max_assoc, ih]
  rw [recordCount_eq_foldl, recordCount_eq_foldl, List.foldl_cons, Nat.max_comm, begun]

theorem length_le_of_mem {fields : Members Value} {name : String} {items : List Value}
    (mem : (name, .list items) ∈ fields) : items.length ≤ recordCount fields := by
  induction fields with
  | nil => cases mem
  | cons m rest ih =>
    rw [recordCount_cons]
    obtain rfl | later := List.mem_cons.mp mem
    · exact Nat.le_max_left items.length _
    · exact Nat.le_trans (ih later) (Nat.le_max_right ..)

theorem length_le_recordCount {fields : Members Value} {name : String} {items : List Value}
    (h : fields.find? name = some (.list items)) : items.length ≤ recordCount fields :=
  length_le_of_mem (Members.mem_of_find? h)

theorem records_of_none {fields : Members Value} (none : recordCount fields = 0) :
    records fields = [fields] := by
  unfold records
  rw [none]
  rfl

theorem records_of_some {fields : Members Value} (some_ : recordCount fields ≠ 0) :
    records fields =
      (List.range (recordCount fields)).map fun i => Members.mapValues (cell i) fields := by
  unfold records
  split
  · next none => exact absurd none some_
  · rfl

/-- A record is made of the values at one index, or of the fields as they are when no field lists
any value. -/
theorem mem_records {fields row : Members Value} (h : row ∈ records fields) :
    (∃ i, row = Members.mapValues (cell i) fields) ∨ recordCount fields = 0 ∧ row = fields := by
  by_cases none : recordCount fields = 0
  · rw [records_of_none none] at h
    exact .inr ⟨none, List.mem_singleton.mp h⟩
  · rw [records_of_some none] at h
    obtain ⟨i, -, rfl⟩ := List.mem_map.mp h
    exact .inl ⟨i, rfl⟩

theorem sourceUrl_done {w w' : World} {url : Option String} (h : sourceUrl w = (.done url, w')) :
    w'.context = w.context := by
  obtain ⟨address, u, asked, h⟩ := bind_eq_done_iff.mp h
  obtain ⟨_, u', read, asked⟩ := bind_eq_done_iff.mp asked
  cases asked
  obtain ⟨rules, world⟩ := failing_world .readUrl w
  rw [read] at world
  subst world
  split at h
  · rw [bind_done (read_apply _ _)] at h
    generalize lastAddress (.ofOption (w.context.vars.find? "currentUrl")) = last at h
    cases last <;> cases h
    rfl
  · cases h
    rfl

theorem assemble_done {p : Playbook} {now : Moment} {w w' : World} {found : List Opportunity}
    (h : assemble p now w = (.done found, w')) :
    ∃ url, found =
      (records w.context.extracted).filterMap (opportunity? ⟨p.id, p.name, now, url⟩) := by
  obtain ⟨url, u, placed, h⟩ := bind_eq_done_iff.mp h
  refine ⟨url, ?_⟩
  rw [← sourceUrl_done placed]
  rw [bind_done (read_apply _ _)] at h
  dsimp only at h
  split at h
  · obtain ⟨_, _, _, h⟩ := bind_eq_done_iff.mp h
    cases h
    rfl
  · cases h
    rfl

/-- In a record the field of a rule that read anything holds the given text, or nothing; the field
of one that read nothing holds what stands in for it, which may be a list of values itself. -/
structure Holds (r : ExtractionRule) (elements : List Snapshot) (i : Nat) (row : Members Value)
    (text : Option String) : Prop where
  read : readings r elements ≠ [] → row.find? r.field = some (.ofOption (text.map .text))
  unread : readings r elements = [] →
    row.find? r.field = some (emptyFill r) ∨ row.find? r.field = some (cell i (emptyFill r))

theorem cell_texts (i : Nat) (texts : List String) :
    cell i (.texts texts) = .ofOption (texts[i]?.map .text) := by
  simp [cell, Value.texts]

theorem exists_holds {fields row : Members Value} (h : row ∈ records fields) :
    ∃ i : Nat, ∀ (r : ExtractionRule) (elements : List Snapshot),
      fields.find? r.field = some (filled r elements) →
      Holds r elements i row (readings r elements)[i]? := by
  rcases mem_records h with ⟨i, rfl⟩ | ⟨none, rfl⟩
  · refine ⟨i, fun r elements set => ⟨fun some => ?_, fun none => ?_⟩⟩
    · rw [Members.find?_mapValues, set, filled, if_neg (by simpa using some), Option.map_some,
        cell_texts]
    · rw [Members.find?_mapValues, set, filled, if_pos (by simpa using none)]
      exact .inr rfl
  · refine ⟨0, fun r elements set => ⟨fun some => ?_, fun none => ?_⟩⟩
    · rw [filled, if_neg (by simpa using some)] at set
      have counted := length_le_recordCount set
      rw [none, List.length_map, Nat.le_zero, List.length_eq_zero_iff] at counted
      exact absurd counted some
    · rw [set, filled, if_pos (by simpa using none)]
      exact .inl rfl

/-- Every opportunity of a run whose rules have fields of their own and whose queries are all
answered is described by a record with one index for the fields of all rules.  The field of a rule
that read anything holds the text at that index among the texts that count.  These stand where they
were read, element by element, exactly when the elements that read empty come after all others. -/
theorem run_aligns (p : Playbook) (now : Moment) {w w' : World} {found : List Opportunity}
    (distinct : (p.rules.map ExtractionRule.field).Nodup) (answered : Answered p.rules w)
    (ran : run p now w = (.done found, w')) :
    (∀ o ∈ found, ∃ source row i, opportunity? source row = some o ∧ ∀ r ∈ p.rules,
      let elements := w.page.matched r.selector
      Holds r elements i row (readings r elements)[i]? ∧
      (IsPacked (column r elements) →
        Holds r elements i row ((column r elements)[i]?.filter (· != "")))) ∧
    ∀ r elements, IsPacked (column r elements) ↔
      ∀ i : Nat, (readings r elements)[i]? = (column r elements)[i]?.filter (· != "") := by
  refine ⟨fun o ho => ?_, fun r elements => isPacked_iff (column r elements)⟩
  obtain ⟨_, w₁, applied, assembled⟩ := bind_eq_done_iff.mp ran
  obtain ⟨-, set⟩ := applyRules_done distinct answered applied
  obtain ⟨url, rfl⟩ := assemble_done assembled
  obtain ⟨row, hrow, described⟩ := List.mem_filterMap.mp ho
  obtain ⟨i, holds⟩ := exists_holds hrow
  refine ⟨_, row, i, described, fun r hr => ?_⟩
  have drawn := holds r _ (set r hr)
  refine ⟨drawn, fun packed => ?_⟩
  rw [← (isPacked_iff _).mp packed i]
  exact drawn

def cards (titles addresses : List String) : World :=
  .opening { Page.blank with elements := [
    (".title", titles.map fun t => ⟨t, "", []⟩),
    (".address", addresses.map fun t => ⟨t, "", []⟩)] } []

def board : Playbook :=
  ⟨"b", "B", "", "1.0.0", "b", [], [], [],
    [⟨"title", ".title", none, none, false, .null⟩,
      ⟨"url", ".address", none, none, false, .null⟩], .standard, .standard⟩

def newYearsDay : Moment :=
  ⟨2024, 1, 1, 0, 0, 0, 0, some 0⟩

theorem run_aligns_cards :
    ∃ found w', run board newYearsDay (cards ["A", "B"] ["/a", "/b"]) = (.done found, w') ∧
      (board.rules.map ExtractionRule.field).Nodup ∧
      Answered board.rules (cards ["A", "B"] ["/a", "/b"]) ∧
      found.map Opportunity.title = ["A", "B"] ∧
      ∀ o ∈ found, ∃ source row i, opportunity? source row = some o ∧ ∀ r ∈ board.rules,
        let elements := (cards ["A", "B"] ["/a", "/b"]).page.matched r.selector
        Holds r elements i row ((column r elements)[i]?.filter (· != "")) := by
  have distinct : (board.rules.map ExtractionRule.field).Nodup := by decide
  have answered : Answered board.rules (cards ["A", "B"] ["/a", "/b"]) :=
    ⟨⟨_, _, rfl⟩, ⟨_, _, rfl⟩, trivial⟩
  have packed : ∀ r ∈ board.rules,
      IsPacked (column r ((cards ["A", "B"] ["/a", "/b"]).page.matched r.selector)) := by
    decide
  refine ⟨_, _, rfl, distinct, answered, by decide +kernel, fun o ho => ?_⟩
  obtain ⟨drawn, -⟩ := run_aligns board newYearsDay distinct answered rfl
  obtain ⟨source, row, i, described, holds⟩ := drawn o ho
  exact ⟨source, row, i, described, fun r hr => (holds r hr).2 (packed r hr)⟩

/-- Not every opportunity is read from elements at one index: where the first title is empty, the
second title goes with the first address. -/
theorem empty_title_moves_up :
    ¬ ∀ (p : Playbook) (now : Moment) (w w' : World) (found : List Opportunity) (n : Nat),
      (p.rules.map ExtractionRule.field).Nodup → 1 ≤ n →
      (∀ r ∈ p.rules, (w.page.matched r.selector).length = n) → Answered p.rules w →
      run p now w = (.done found, w') →
      ∀ o ∈ found, ∃ i : Nat, ∀ r ∈ p.rules,
        (r.field = "title" → (column r (w.page.matched r.selector))[i]? = some o.title) ∧
        (r.field = "url" → (column r (w.page.matched r.selector))[i]? = some o.url) := by
  intro claim
  obtain ⟨found, w', ran, pairs⟩ : ∃ found w',
      run board newYearsDay (cards ["", "B"] ["/a", "/b"]) = (.done found, w') ∧
      found.map (fun o => (o.title, o.url)) = [("B", "/a")] :=
    ⟨_, _, rfl, by decide +kernel⟩
  obtain ⟨o, ho, pair⟩ : ∃ o ∈ found, (o.title, o.url) = ("B", "/a") :=
    List.mem_map.mp (by rw [pairs]; exact List.mem_singleton_self _)
  obtain ⟨title, url⟩ := Prod.mk.inj pair
  obtain ⟨i, drawn⟩ := claim board newYearsDay _ w' found 2 (by decide) (by decide) (by decide)
    ⟨⟨_, _, rfl⟩, ⟨_, _, rfl⟩, trivial⟩ ran o ho
  have titled := (drawn _ List.mem_cons_self).1 rfl
  have placed := (drawn _ (List.mem_cons_of_mem _ List.mem_cons_self)).2 rfl
  rw [title] at titled
  rw [url] at placed
  match i with
  | 0 => exact absurd titled (by decide)
  | 1 => exact absurd placed (by decide)
  | i + 2 => cases titled

end Harvest

end Scout
