import Scout.Proofs.Run.Alignment

/-!
# Records of extracted fields

The longest list among the fields says how many records there are.  Each record has all
fields in their order; a listed field gives it the value at its index, or null past the
end of the list, and every other field its value.  So a column of the records is the list
of its field, followed by nulls.  The records with a title and an address become the
opportunities, in their order.
-/

namespace Scout.Harvest

open Exec

/-! ## How many records there are -/

/-- The length of the longest list among some fields. -/
structure IsLongest (fields : Members Value) (n : Nat) : Prop where
  bound : ∀ name items, (name, Value.list items) ∈ fields → items.length ≤ n
  reached : ∃ name items, (name, Value.list items) ∈ fields ∧ items.length = n

section Count

variable {fields : Members Value}

theorem recordCount_reached (some_ : recordCount fields ≠ 0) :
    ∃ name items, (name, Value.list items) ∈ fields ∧ items.length = recordCount fields := by
  induction fields with
  | nil => exact absurd rfl some_
  | cons m rest ih =>
    obtain ⟨name, v⟩ := m
    rw [recordCount_cons] at some_ ⊢
    dsimp only at some_ ⊢
    by_cases longer : breadth v ≤ recordCount rest
    · rw [Nat.max_eq_right longer] at some_ ⊢
      obtain ⟨name', items, mem, length⟩ := ih some_
      exact ⟨name', items, List.mem_cons_of_mem _ mem, length⟩
    · rw [Nat.max_eq_left (by omega)] at some_ ⊢
      cases v with
      | list items => exact ⟨name, items, List.mem_cons_self, rfl⟩
      | _ => exact absurd rfl some_

theorem IsLongest.recordCount_eq {n : Nat} (h : IsLongest fields n) : recordCount fields = n := by
  obtain ⟨name, items, mem, length⟩ := h.reached
  apply Nat.le_antisymm
  · by_cases none : recordCount fields = 0
    · omega
    · obtain ⟨name', items', mem', length'⟩ := recordCount_reached none
      have within := h.bound name' items' mem'
      omega
  · have counted := length_le_of_mem mem
    omega

/-- There is nothing to lay side by side when all lists among the fields are empty. -/
theorem recordCount_eq_zero_iff :
    recordCount fields = 0 ↔ ∀ name items, (name, Value.list items) ∈ fields → items = [] := by
  constructor
  · intro none name items mem
    have counted := length_le_of_mem mem
    exact List.eq_nil_of_length_eq_zero (by omega)
  · intro empty
    by_contra some_
    obtain ⟨name, items, mem, length⟩ := recordCount_reached some_
    rw [empty name items mem] at length
    exact some_ length.symm

end Count

/-! ## Columns of the records -/

/-- The records lay the lists of the fields side by side, and every other value goes into all of
them. -/
structure Zips (fields : Members Value) (n : Nat) (rows : List (Members Value)) : Prop where
  length : rows.length = n
  names : ∀ row ∈ rows, row.names = fields.names
  listed : ∀ name items, fields.find? name = some (.list items) →
    rows.map (fun row => row.find? name) =
      items.map some ++ List.replicate (n - items.length) (some .null)
  single : ∀ name v, fields.find? name = some v → (∀ items, v ≠ .list items) →
    rows.map (fun row => row.find? name) = List.replicate n (some v)

/-- The values of a list by their indexes, up to a length that it does not exceed. -/
theorem map_range_cell {items : List Value} {n : Nat} (within : items.length ≤ n) :
    (List.range n).map (fun i => some (cell i (.list items))) =
      items.map some ++ List.replicate (n - items.length) (some .null) := by
  apply List.ext_getElem?
  intro i
  rw [List.getElem?_map, List.getElem?_append, List.length_map, List.getElem?_map,
    List.getElem?_replicate]
  by_cases inside : i < items.length
  · simp [inside, show i < n by omega, cell, Value.ofOption]
  · by_cases below : i < n
    · simp [inside, below, cell, Value.ofOption, show i - items.length < n - items.length by omega]
    · simp [inside, below, show ¬ i - items.length < n - items.length by omega]

theorem zips_records {fields : Members Value} (some_ : recordCount fields ≠ 0) :
    Zips fields (recordCount fields) (records fields) := by
  rw [records_of_some some_]
  have column (name : String) :
      ((List.range (recordCount fields)).map fun i => Members.mapValues (cell i) fields).map
          (fun row => row.find? name) =
        (List.range (recordCount fields)).map fun i => (fields.find? name).map (cell i) := by
    simp only [List.map_map, Function.comp_def, Members.find?_mapValues]
  refine ⟨by simp, fun row mem => ?_, fun name items found => ?_, fun name v found scalar => ?_⟩
  · obtain ⟨i, -, rfl⟩ := List.mem_map.mp mem
    simp [Members.names, Members.mapValues]
  · rw [column, found]
    exact map_range_cell (length_le_recordCount found)
  · have same (i : Nat) : cell i v = v := by
      unfold cell
      split
      · next items => exact absurd rfl (scalar items)
      · rfl
    rw [column, found]
    simp [same]

/-! ## Opportunities of the records -/

/-- Title and address of a record count as given. -/
def isComplete (row : Members Value) : Bool :=
  (Value.ofOption (row.find? "title")).isTruthy && (Value.ofOption (row.find? "url")).isTruthy

/-- Only the organization of a record can come from another field. -/
theorem find?_withAlias {row : Members Value} {name : String} (other : name ≠ "organization") :
    (withAlias row).find? name = row.find? name := by
  unfold withAlias
  split
  · split
    · exact Members.find?_put_of_ne _ _ other
    · rfl
  · rfl

theorem map_opportunity? (source : Provenance) (row : Members Value) :
    (opportunity? source row).map (fun o => (o.title, o.url, o.source)) =
      if isComplete row then
        some ((Value.ofOption (row.find? "title")).display,
          (Value.ofOption (row.find? "url")).display, source)
      else none := by
  unfold opportunity? isComplete
  dsimp only
  rw [find?_withAlias (by decide), find?_withAlias (by decide)]
  split <;> rfl

theorem filterMap_opportunity? (source : Provenance) (rows : List (Members Value)) :
    (rows.filterMap (opportunity? source)).map (fun o => (o.title, o.url, o.source)) =
      (rows.filter isComplete).map fun row =>
        ((Value.ofOption (row.find? "title")).display,
          (Value.ofOption (row.find? "url")).display, source) := by
  rw [List.map_filterMap]
  simp only [map_opportunity?]
  induction rows with
  | nil => rfl
  | cons row rest ih =>
    by_cases complete : isComplete row = true
    · rw [List.filterMap_cons_some (by rw [if_pos complete]), List.filter_cons_of_pos complete, ih,
        List.map_cons]
    · rw [List.filterMap_cons_none (by rw [if_neg complete]), List.filter_cons_of_neg complete, ih]

theorem sourceUrl_ne_cancelled (w : World) : (sourceUrl w).1 ≠ .cancelled := by
  have uncut := failing_ne_cancelled .readUrl w
  unfold sourceUrl Browse.address
  rw [bind_apply, bind_apply]
  rcases read : failing .readUrl w with ⟨a | e | _, u⟩
  · dsimp only [read_apply]
    split
    · rw [bind_done (read_apply _ _)]
      cases lastAddress (.ofOption (u.context.vars.find? "currentUrl")) <;> simp
    · simp
  · simp
  · rw [read] at uncut
    exact absurd rfl uncut

/-- Once it has the address of the page, assembling gives the opportunities of the records; where
that fails, so does assembling. -/
theorem assemble_cases (p : Playbook) (now : Moment) (w : World) :
    (∃ url u w', sourceUrl w = (.done url, u) ∧ assemble p now w =
      (.done ((records w.context.extracted).filterMap
        (opportunity? ⟨p.id, p.name, now, url⟩)), w')) ∨
    ∃ e u, sourceUrl w = (.failed e, u) ∧ assemble p now w = (.failed e, u) := by
  have uncut := sourceUrl_ne_cancelled w
  rcases placed : sourceUrl w with ⟨url | e | _, u⟩
  · refine .inl ⟨url, u, ?_⟩
    unfold assemble
    rw [bind_done placed, bind_done (read_apply _ _), sourceUrl_done placed]
    dsimp only
    split
    · exact ⟨_, rfl, rfl⟩
    · exact ⟨_, rfl, rfl⟩
  · exact .inr ⟨e, u, rfl, bind_failed placed _⟩
  · rw [placed] at uncut
    exact absurd rfl uncut

/-- Fields of which the longest list has some length give so many records, which lay the lists side
by side.  The records with a title and an address, and they alone, give one opportunity each, in
their order and from one and the same source; but none is assembled where the address of the page
cannot be told. -/
theorem assemble_zips (p : Playbook) (now : Moment) {w : World} {n : Nat}
    (longest : IsLongest w.context.extracted n) (some_ : 0 < n) :
    let rows := records w.context.extracted
    Zips w.context.extracted n rows ∧
    (∀ name items, w.context.extracted.find? name = some (.list items) → items.length = n →
      rows.map (fun row => row.find? name) = items.map some) ∧
    ((∃ url u found w', sourceUrl w = (.done url, u) ∧ assemble p now w = (.done found, w') ∧
        found.map (fun o => (o.title, o.url, o.source)) =
          (rows.filter isComplete).map fun row =>
            ((Value.ofOption (row.find? "title")).display,
              (Value.ofOption (row.find? "url")).display, ⟨p.id, p.name, now, url⟩)) ∨
      ∃ e u, sourceUrl w = (.failed e, u) ∧ assemble p now w = (.failed e, u)) := by
  have zipped : Zips w.context.extracted n (records w.context.extracted) := by
    have counted := longest.recordCount_eq
    rw [← counted]
    exact zips_records (by omega)
  refine ⟨zipped, fun name items found full => ?_, ?_⟩
  · have column := zipped.listed name items found
    rwa [full, Nat.sub_self, List.replicate_zero, List.append_nil] at column
  · obtain ⟨url, u, w', placed, assembled⟩ | failed := assemble_cases p now w
    · exact .inl ⟨url, u, _, w', placed, assembled, filterMap_opportunity? _ _⟩
    · exact .inr failed

def extracting (fields : Members Value) : World :=
  { World.opening .blank [] with
    context := { RunContext.starting [] with extracted := fields } }

/-- Lists of different lengths, an empty one, and a single text. -/
def ragged : Members Value :=
  [("title", .texts ["A", "B", "C"]), ("org", .text "X"), ("url", .texts ["/a", "", "/c"]),
    ("organization", .list [])]

theorem assemble_zips_ragged : IsLongest ragged 3 ∧
    ∃ found w', assemble board newYearsDay (extracting ragged) = (.done found, w') ∧
      found.map (fun o => (o.title, o.url)) = [("A", "/a"), ("C", "/c")] := by
  have longest : IsLongest ragged 3 := by
    have counted : recordCount ragged = 3 := by decide
    refine ⟨fun name items mem => ?_, "title", _, List.mem_cons_self, rfl⟩
    rw [← counted]
    exact length_le_of_mem mem
  obtain ⟨-, -, outcome⟩ :=
    assemble_zips board newYearsDay (w := extracting ragged) longest (by decide)
  refine ⟨longest, ?_⟩
  obtain ⟨url, u, found, w', placed, assembled, described⟩ | ⟨e, u, failed, -⟩ := outcome
  · refine ⟨found, w', assembled, ?_⟩
    have pairs := congrArg (List.map fun t => (t.1, t.2.1)) described
    rw [List.map_map, List.map_map] at pairs
    rw [show found.map (fun o => (o.title, o.url)) = _ from pairs]
    simp only [Function.comp_def]
    decide +kernel
  · cases failed

/-! ## The organization of an opportunity -/

/-- No organization is given: there is none, it is null or empty, or a rule has read no value. -/
def IsVacant (organization : Option Value) : Prop :=
  organization = none ∨ organization = some .null ∨ organization = some (.text "") ∨
    organization = some (.list [])

theorem organization_of_opportunity? {source : Provenance} {row : Members Value} {o : Opportunity}
    (h : opportunity? source row = some o) :
    o.organization = fieldText (withAlias row) "organization" := by
  unfold opportunity? at h
  dsimp only at h
  split at h
  · cases h
    rfl
  · cases h

theorem fieldText_of_unset {row : Members Value} {s : String}
    (short : row.find? "org" = some (.text s)) (nonempty : s ≠ "")
    (unset : isUnset (.ofOption (row.find? "organization")) = true) :
    fieldText (withAlias row) "organization" = s := by
  have put : withAlias row = row.put "organization" (.text s) := by
    unfold withAlias
    rw [short]
    dsimp only
    rw [if_pos unset]
  unfold fieldText
  rw [put, Members.find?_put_self]
  simp [Value.ofOption, Value.isTruthy, Value.display, nonempty]

/-- A list is set, also an empty one. -/
theorem fieldText_of_empty {row : Members Value} {v : Value}
    (short : row.find? "org" = some v) (empty : row.find? "organization" = some (.list [])) :
    fieldText (withAlias row) "organization" = "" := by
  have same : withAlias row = row := by
    unfold withAlias
    rw [short, empty]
    rfl
  unfold fieldText
  rw [same, empty]
  rfl

/-- Where an organization is missing and a short name is there, every opportunity has the short name
as its organization, with one exception: when a rule has read no value for the organization and
no field lists any value, no opportunity has an organization. -/
theorem organization_of_assemble (p : Playbook) (now : Moment) {w w' : World} {s : String}
    {found : List Opportunity} (short : w.context.extracted.find? "org" = some (.text s))
    (nonempty : s ≠ "") (vacant : IsVacant (w.context.extracted.find? "organization"))
    (assembled : assemble p now w = (.done found, w')) :
    let listed := ∃ name items, (name, Value.list items) ∈ w.context.extracted ∧ items ≠ []
    (listed ∨ w.context.extracted.find? "organization" ≠ some (.list []) →
      ∀ o ∈ found, o.organization = s) ∧
    (¬ listed ∧ w.context.extracted.find? "organization" = some (.list []) →
      ∀ o ∈ found, o.organization = "") := by
  generalize hfields : w.context.extracted = fields at short vacant
  obtain ⟨url, rfl⟩ := assemble_done assembled
  rw [hfields]
  have listed_iff : (∃ name items, (name, Value.list items) ∈ fields ∧ items ≠ []) ↔
      recordCount fields ≠ 0 := by
    simp only [ne_eq, recordCount_eq_zero_iff, not_forall, exists_prop]
  dsimp only
  rw [listed_iff]
  constructor
  · rintro given o ho
    obtain ⟨row, hrow, described⟩ := List.mem_filterMap.mp ho
    rw [organization_of_opportunity? described]
    by_cases none : recordCount fields = 0
    · -- the fields themselves are the record
      rw [records_of_none none, List.mem_singleton] at hrow
      subst hrow
      have unlisted := given.resolve_left (not_not_intro none)
      refine fieldText_of_unset short nonempty ?_
      obtain h | h | h | h := vacant
      · rw [h]; rfl
      · rw [h]; rfl
      · rw [h]; rfl
      · exact absurd h unlisted
    · -- an empty list gives null to every record
      rw [records_of_some none] at hrow
      obtain ⟨i, -, rfl⟩ := List.mem_map.mp hrow
      refine fieldText_of_unset (by rw [Members.find?_mapValues, short]; rfl) nonempty ?_
      rw [Members.find?_mapValues]
      obtain h | h | h | h := vacant <;> rw [h] <;> rfl
  · rintro ⟨none, empty⟩ o ho
    rw [records_of_none (not_not.mp none)] at ho
    obtain ⟨row, hrow, described⟩ := List.mem_filterMap.mp ho
    rw [List.mem_singleton] at hrow
    subst hrow
    rw [organization_of_opportunity? described, fieldText_of_empty short empty]

theorem organization_of_assemble_ragged :
    ∃ found w', assemble board newYearsDay (extracting ragged) = (.done found, w') ∧
      ragged.find? "org" = some (.text "X") ∧ IsVacant (ragged.find? "organization") ∧
      found.length = 2 ∧ ∀ o ∈ found, o.organization = "X" := by
  have vacant : IsVacant (ragged.find? "organization") := .inr (.inr (.inr rfl))
  refine ⟨_, _, rfl, rfl, vacant, by decide +kernel, ?_⟩
  have named := organization_of_assemble board newYearsDay (w := extracting ragged) (s := "X") rfl
    (by decide) vacant rfl
  exact named.1 (.inl ⟨"title", _, List.mem_cons_self, by decide⟩)

/-- An optional rule that reads no organization hides the short name from a single record. -/
theorem unread_organization_hides_short_name :
    ¬ ∀ (p : Playbook) (now : Moment) (w w' : World) (s : String) (found : List Opportunity),
      w.context.extracted.find? "org" = some (.text s) → s ≠ "" →
      IsVacant (w.context.extracted.find? "organization") →
      assemble p now w = (.done found, w') → ∀ o ∈ found, o.organization = s := by
  intro claim
  obtain ⟨o, found, w', assembled, ho, unnamed⟩ : ∃ o found w',
      assemble board newYearsDay (extracting [("title", .text "A"), ("url", .text "/a"),
        ("org", .text "X"), ("organization", .list [])]) = (.done found, w') ∧
      o ∈ found ∧ o.organization = "" :=
    ⟨_, _, _, rfl, List.mem_cons_self, by decide +kernel⟩
  have named := claim board newYearsDay _ w' "X" found rfl (by decide) (.inr (.inr (.inr rfl)))
    assembled o ho
  rw [unnamed] at named
  exact absurd named (by decide)

end Scout.Harvest
