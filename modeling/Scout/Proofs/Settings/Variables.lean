import Scout.Proofs.Settings.Layering

/-!
# What variables say

The variables of a process give members that are texts, and the members of sections one by one or a
section as a whole.  A section that is built reads its own variables once more; unless it is given
as a whole that is no record, what it finds is what the variables have said already.
-/

namespace Scout.Settings

/-! ## Members by their names -/

/-- The members of some names, as far as they have values. -/
def keyed (value : String → Option Value) (names : List String) : Members Value :=
  names.filterMap fun name => (value name).map fun v => (name, v)

section Keyed

variable {value : String → Option Value} {names : List String}

theorem sublist_names_keyed : (Members.names (keyed value names)).Sublist names := by
  induction names with
  | nil => exact List.Sublist.slnil
  | cons name rest ih =>
    cases h : value name with
    | none => simpa [keyed, h] using ih.cons name
    | some v => simpa [keyed, h, Members.names] using ih

theorem find?_keyed {name : String} (distinct : names.Nodup) (mem : name ∈ names) :
    Members.find? (keyed value names) name = value name := by
  induction names with
  | nil => cases mem
  | cons first rest ih =>
    obtain ⟨isNew, distinct⟩ := List.nodup_cons.1 distinct
    rcases List.mem_cons.1 mem with rfl | mem
    · cases h : value name with
      | some v => simp [keyed, h, Members.find?]
      | none =>
        have absent : Members.find? (keyed value rest) name = none := by
          rw [Members.find?_eq_none_iff]
          exact fun there => isNew (sublist_names_keyed.subset there)
        simpa [keyed, h] using absent
    · have ne : first ≠ name := fun same => isNew (same ▸ mem)
      cases h : value first with
      | none => simpa [keyed, h] using ih distinct mem
      | some v => simpa [keyed, h, Members.find?, ne] using ih distinct mem

end Keyed

/-! ## All variables -/

def memberNames : List String :=
  plainFields ++ sections.map Prod.fst

/-- A plain member is a text, and a section what is read of its variables. -/
structure Says (e : Environment) (value : String → Option Value) : Prop where
  plain : ∀ f ∈ plainFields, value f = (Members.find? e.normalized (startMark ++ f)).map .text
  part : ∀ s ∈ sections, sectionVariables s.2 s.1 e.normalized = .ok (value s.1)

theorem says_ofEnvironment {e : Environment} {vars : Members Value}
    (h : ofEnvironment e = .ok vars) :
    ∃ value, Says e value ∧ vars = keyed value memberNames := by
  unfold ofEnvironment at h
  simp only [sections, List.mapM_cons, List.mapM_nil] at h
  rcases hb : sectionVariables browserSection.known browserSection.name e.normalized with _ | b <;>
    rw [hb] at h
  · cases h
  rcases hp : sectionVariables playbookSection.known playbookSection.name e.normalized with
    _ | p <;> rw [hp] at h
  · cases h
  rcases ha : sectionVariables serviceSection.known serviceSection.name e.normalized with _ | a <;>
    rw [ha] at h
  · cases h
  let value (name : String) : Option Value :=
    if name = browserSection.name then b else if name = playbookSection.name then p
    else if name = serviceSection.name then a
    else (Members.find? e.normalized (startMark ++ name)).map .text
  have plain : ∀ f ∈ plainFields,
      value f = (Members.find? e.normalized (startMark ++ f)).map .text := by
    intro f mem
    have ne : f ≠ browserSection.name ∧ f ≠ playbookSection.name ∧ f ≠ serviceSection.name := by
      revert f
      decide
    simp [value, ne]
  refine ⟨value, ⟨plain, ?_⟩, ?_⟩
  · intro s mem
    simp only [sections, List.mem_cons, List.not_mem_nil, or_false] at mem
    rcases mem with rfl | rfl | rfl
    · exact hb
    · exact hp
    · exact ha
  · cases h
    have parts : keyed value (sections.map Prod.fst) =
        [b.map fun v => (browserSection.name, v), p.map fun v => (playbookSection.name, v),
          a.map fun v => (serviceSection.name, v)].filterMap id := by
      rfl
    rw [memberNames, keyed, List.filterMap_append, ← keyed, ← keyed, parts]
    refine congrArg (· ++ _) (List.filterMap_congr fun f mem => ?_)
    rw [plain f mem]
    cases Members.find? e.normalized (startMark ++ f) <;> rfl

theorem find?_of_member {value : String → Option Value} {name : String}
    (mem : name ∈ memberNames) : Members.find? (keyed value memberNames) name = value name :=
  find?_keyed (by decide) mem

/-- A name as a section has it, if it is found there in any case. -/
def spelling (known : List String) (name : String) : String :=
  (known.find? fun k => lower k == lower name).getD name

theorem spelling_of_mem {known : List String} {name : String} (distinct : (known.map lower).Nodup)
    (mem : name ∈ known) : spelling known name = name := by
  unfold spelling
  cases found : known.find? fun k => lower k == lower name with
  | none => rfl
  | some k =>
    have same : lower k = lower name := by simpa using List.find?_some found
    exact List.inj_on_of_nodup_map distinct (List.mem_of_find?_eq_some found) mem same

theorem spelled_eq (known : List String) (ms : Members Value) : spelled known ms =
    ms.foldl (fun acc m => Members.put acc (spelling known m.1) m.2) [] :=
  rfl

theorem nodup_spelled (known : List String) (ms : Members Value) :
    (Members.names (spelled known ms)).Nodup := by
  have nothing : (Members.names ([] : Members Value)).Nodup := List.nodup_nil
  rw [spelled_eq]
  exact Members.nodup_names_foldl_put (fun m : String × Value => spelling known m.1)
    (fun _ m => m.2) nothing ms

/-- What is read of the variables of a section: nothing, a record of members that are spelled as the
section has them, or what the variable of the section as a whole gives. -/
inductive Read (known : List String) (part : String) (e : Environment) : Option Value → Prop
  | members {ms : Members Value} (whole : Members.find? e (startMark ++ part) = none)
      (single : memberVariables part e [] = .ok ms) :
      Read known part e (if ms.isEmpty then none else some (.record (spelled known ms)))
  | record {text : String} {given ms : Members Value}
      (whole : Members.find? e (startMark ++ part) = some text)
      (parsed : Json.parse text = .ok (.record given))
      (single : memberVariables part e [] = .ok ms) :
      Read known part e (some (.record (spelled known (deepMembers given ms))))
  | other {text : String} {v : Value} {cell : Option Value}
      (whole : Members.find? e (startMark ++ part) = some text) (parsed : Json.parse text = .ok v)
      (noRecord : ∀ given, v ≠ .record given) (kept : cell = none ∨ cell = some v) :
      Read known part e cell

theorem read_sectionVariables {known : List String} {part : String} {e : Environment}
    {cell : Option Value} (h : sectionVariables known part e = .ok cell) :
    Read known part e cell := by
  unfold sectionVariables at h
  split at h
  · next whole =>
    rcases single : memberVariables part e [] with _ | ms <;> rw [single] at h
    · cases h
    · cases h
      exact .members whole single
  · next text whole =>
    split at h
    · cases h
    · next parsed =>
      cases h
      exact .other whole parsed (by simp) (.inl rfl)
    · next given parsed =>
      rcases single : memberVariables part e [] with _ | ms <;> rw [single] at h
      · cases h
      · cases h
        exact .record whole parsed single
    · next v noNull noRecord parsed =>
      cases h
      exact .other whole parsed (fun given same => noRecord given same) (.inr rfl)

theorem Read.isDistinct {known : List String} {part : String} {e : Environment}
    {cell : Option Value} (h : Read known part e cell) : IsDistinct cell := by
  cases h with
  | members whole single =>
    split
    · exact fun ms held => nomatch held
    · rintro ms ⟨⟩
      exact nodup_spelled _ _
  | record whole parsed single =>
    rintro ms ⟨⟩
    exact nodup_spelled _ _
  | other whole parsed noRecord kept =>
    intro ms held
    rcases kept with rfl | rfl
    · cases held
    · exact absurd (Option.some.inj held) (noRecord ms)

theorem tidy_ofEnvironment {e : Environment} {vars : Members Value}
    (h : ofEnvironment e = .ok vars) : IsTidy vars := by
  obtain ⟨value, said, rfl⟩ := says_ofEnvironment h
  refine ⟨sublist_names_keyed.nodup (by decide), fun part ms held => ?_⟩
  have mem : part ∈ memberNames := by
    refine sublist_names_keyed.subset (?_ : part ∈ Members.names (keyed value memberNames))
    rw [← Members.contains_eq_true_iff, Members.contains, held]
    rfl
  rw [find?_of_member mem] at held
  rcases List.mem_append.1 mem with plain | section_
  · rw [said.plain part plain] at held
    cases hv : Members.find? e.normalized (startMark ++ part) <;> rw [hv] at held <;> cases held
  · obtain ⟨s, listed, rfl⟩ := List.mem_map.1 section_
    exact (read_sectionVariables (said.part s listed)).isDistinct ms held

/-! ## What a section reads once more -/

section Own

variable {e : Environment} {part key : String}

theorem contains_insertAt {ms : Members Value} {v : Value} {path : List String}
    (h : ms.contains key = true) : (insertAt ms v path).contains key = true := by
  unfold insertAt
  split
  · exact h
  · simp [Members.contains_put, h]
  · split
    · simp [Members.contains_put, h]
    · simp [Members.contains_put, h]
    · exact h

theorem afterStart?_append (start s : String) : afterStart? start (start ++ s) = some s.toList := by
  simp [afterStart?, ← String.length_toList]

/-- Single variables give every member that was there, and those that a variable names. -/
theorem contains_memberVariables {vars : Environment} {acc ms : Members Value}
    (h : memberVariables part vars acc = .ok ms)
    (there : acc.contains key = true ∨
      splitLevels [] key.toList = [key] ∧
        (Members.find? vars (startMark ++ part ++ "__" ++ key)).isSome = true) :
    ms.contains key = true := by
  induction vars generalizing acc with
  | nil =>
    cases h
    rcases there with there | ⟨-, absent⟩
    · exact there
    · cases absent
  | cons m rest ih =>
    obtain ⟨name, text⟩ := m
    unfold memberVariables at h
    -- either the variable is the one of the member, or this is there before or comes later
    have split_ : acc.contains key = true ∨ splitLevels [] key.toList = [key] ∧
        (name = startMark ++ part ++ "__" ++ key ∨
          (Members.find? rest (startMark ++ part ++ "__" ++ key)).isSome = true) := by
      refine there.imp_right fun ⟨single, there⟩ => ⟨single, ?_⟩
      rw [Members.find?_cons] at there
      split at there
      · exact .inl (by assumption)
      · exact .inr there
    split at h
    · next elsewhere =>
      refine ih h (split_.imp_right fun ⟨single, there⟩ => ⟨single, there.resolve_left ?_⟩)
      rintro rfl
      rw [afterStart?_append] at elsewhere
      cases elsewhere
    · next cs after =>
      dsimp only at h
      rcases hv : memberValue part (splitLevels [] cs) text with _ | v <;> rw [hv] at h
      · cases h
      · rcases split_ with there | ⟨single, rfl | later⟩
        · exact ih h (.inl (contains_insertAt there))
        · rw [afterStart?_append, Option.some.injEq] at after
          subst after
          refine ih h (.inl ?_)
          rw [single]
          simp [insertAt, Members.contains_put]
        · exact ih h (.inr ⟨single, later⟩)

theorem exists_of_contains {ms : Members Value} (h : ms.contains key = true) :
    ∃ m ∈ ms, m.1 = key := by
  rw [Members.contains_eq_true_iff, Members.names] at h
  exact List.mem_map.1 h

theorem contains_deepMembers {base above : Members Value}
    (h : base.contains key = true ∨ above.contains key = true) :
    Members.contains (deepMembers base above) key = true := by
  rw [deepMembers_eq]
  exact Members.contains_foldl_put Prod.fst (fun ms m => deeply (Members.find? ms m.1) m.2)
    (h.imp_right exists_of_contains)

theorem contains_spelled {known : List String} {ms : Members Value}
    (distinct : (known.map lower).Nodup) (mem : key ∈ known) (h : ms.contains key = true) :
    (spelled known ms).contains key = true := by
  obtain ⟨m, held, rfl⟩ := exists_of_contains h
  rw [spelled_eq]
  exact Members.contains_foldl_put (fun m : String × Value => spelling known m.1)
    (fun _ m => m.2) (.inr ⟨m, held, spelling_of_mem distinct mem⟩)

theorem exists_of_ownMembers {known : List String} {own : Members Value}
    (h : ownMembers e part known = .ok own) (there : own.contains key = true) :
    key ∈ known ∧ (Members.find? e (startMark ++ part ++ "__" ++ key)).isSome = true := by
  induction known generalizing own with
  | nil =>
    cases h
    cases there
  | cons member rest ih =>
    unfold ownMembers at h
    rcases found : ownValue part e member with _ | v <;> rw [found] at h
    · cases h
    rcases later : ownMembers e part rest with _ | ms <;> rw [later] at h
    · cases h
    cases h
    have further (there : Members.contains ms key = true) :
        key ∈ member :: rest ∧ (Members.find? e (startMark ++ part ++ "__" ++ key)).isSome = true :=
      (ih later there).imp_left (List.mem_cons_of_mem _)
    cases v with
    | none => exact further there
    | some v =>
      by_cases same : member = key
      · subst same
        refine ⟨List.mem_cons_self, ?_⟩
        unfold ownValue at found
        split at found
        · cases found
        · next text held =>
          rw [held]
          rfl
      · refine further ?_
        simpa [Members.contains, Members.find?_cons, same] using there

/-- What a section reads once more the variables have said, unless they give the section as a whole
as something else than a record. -/
theorem contains_of_own {known : List String} {own : Members Value} {cell : Option Value}
    (distinct : (known.map lower).Nodup) (single : ∀ k ∈ known, splitLevels [] k.toList = [k])
    (read : sectionVariables known part e = .ok cell)
    (whole : ∀ text, Members.find? e (startMark ++ part) = some text →
      ∃ given, Json.parse text = .ok (.record given))
    (reads : ownMembers e part known = .ok own) (there : own.contains key = true) :
    ∃ inner : Members Value, cell = some (.record inner) ∧ inner.contains key = true := by
  obtain ⟨mem, held⟩ := exists_of_ownMembers reads there
  have named {ms : Members Value} (h : memberVariables part e [] = .ok ms) :
      ms.contains key = true :=
    contains_memberVariables h (.inr ⟨single key mem, held⟩)
  cases read_sectionVariables read with
  | @members ms absent gives =>
    have given := named gives
    have filled : ms.isEmpty = false := by
      cases ms with
      | nil => cases given
      | cons => rfl
    rw [filled]
    exact ⟨_, rfl, contains_spelled distinct mem given⟩
  | record present parsed gives =>
    exact ⟨_, rfl, contains_spelled distinct mem (contains_deepMembers (.inr (named gives)))⟩
  | other present parsed noRecord kept =>
    obtain ⟨given, parsed'⟩ := whole _ present
    rw [parsed, Except.ok.injEq] at parsed'
    exact absurd parsed' (noRecord given)

end Own

end Scout.Settings
