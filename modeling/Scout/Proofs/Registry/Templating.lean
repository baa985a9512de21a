import Scout.Proofs.Registry.Ids

/-!
# Playbooks that are made from templates

A playbook is made of the members of its template, an id and a name, and of what is given over
them. These are laid over one another by the names that stand in the documents, and then every
member is read by either of its spellings, the first one first.  So a member that is given in
the second spelling is not seen where the template has the first.
-/

namespace Scout

/-! ## The members of a playbook -/

namespace Playbook

/-- The members of which a playbook consists. -/
inductive Part where
  | id
  | name
  | description
  | version
  | author
  | tags
  | vars
  | program
  | rules
  | policy
  | metadata

namespace Part

/-- What a member is read as. -/
def Kind : Part → Type
  | id | name | description | version | author => String
  | tags => List String
  | vars => Members Value
  | program => List Action
  | rules => List ExtractionRule
  | policy => ErrorPolicy
  | metadata => Metadata

def label : Part → Label
  | id => .id
  | name => .name
  | description => .description
  | version => .version
  | author => .author
  | tags => .tags
  | vars => .vars
  | program => .program
  | rules => .extractionRules
  | policy => .errorHandling
  | metadata => .metadata

def reader : (m : Part) → Decoder m.Kind
  | id | name | description | version | author => Decoder.text
  | tags => Decoder.list Decoder.text
  | vars => Decoder.dictionary Decoder.any
  | program => Action.decodeList
  | rules => Decoder.list ExtractionRule.decode
  | policy => ErrorPolicy.decode
  | metadata => Metadata.decode

/-- What stands for a member that no document gives. -/
def standard : (m : Part) → m.Kind
  | id | name | description | version | author => ""
  | tags | vars | program | rules => []
  | policy => ErrorPolicy.standard
  | metadata => Metadata.standard

def value : (m : Part) → Playbook → m.Kind
  | id, p => p.id
  | name, p => p.name
  | description, p => p.description
  | version, p => p.version
  | author, p => p.author
  | tags, p => p.tags
  | vars, p => p.vars
  | program, p => p.actions
  | rules, p => p.rules
  | policy, p => p.policy
  | metadata, p => p.metadata

/-- What the members of a record give for a part of a playbook. -/
def read (m : Part) (ms : Members Value) : Decoded m.Kind :=
  m.label.optional m.reader m.standard ms

theorem read_of_some {m : Part} {ms : Members Value} {v : Value} {a : m.Kind}
    (given : m.label.member? ms = some v) : m.read ms = .ok a ↔ m.reader v = .ok a := by
  rw [read, Label.optional, given]
  exact Decoded.under_eq_ok

theorem read_congr {m : Part} {ms ms' : Members Value}
    (same : m.label.member? ms = m.label.member? ms') : m.read ms = m.read ms' := by
  rw [read, read, Label.optional, Label.optional, same]

end Part

/-- A record is read as a playbook when it is read part by part. -/
theorem decode_record_iff {ms : Members Value} {p : Playbook} :
    Playbook.decode (.record ms) = .ok p ↔ ∀ m : Part, m.read ms = .ok (m.value p) := by
  have parts : Playbook.decode (.record ms) = .ok p ↔ ∃ q : Playbook,
      (∀ m : Part, m.read ms = .ok (m.value q)) ∧ q = p := by
    rw [decode, Decoder.model, decodeFields]
    simp only [Decoded.seq_eq_ok, Decoded.map_eq_ok]
    constructor
    · rintro ⟨_, metadata, ⟨_, policy, ⟨_, rules, ⟨_, actions, ⟨_, vars, ⟨_, tags, ⟨_, author,
        ⟨_, version, ⟨_, description, ⟨_, name, ⟨id, hid, rfl⟩, hname, rfl⟩, hdescription, rfl⟩,
        hversion, rfl⟩, hauthor, rfl⟩, htags, rfl⟩, hvars, rfl⟩, hactions, rfl⟩, hrules, rfl⟩,
        hpolicy, rfl⟩, hmetadata, same⟩
      refine ⟨⟨id, name, description, version, author, tags, vars, actions, rules, policy,
        metadata⟩, fun m => ?_, same⟩
      cases m <;> assumption
    · rintro ⟨q, read, rfl⟩
      exact ⟨_, _, ⟨_, _, ⟨_, _, ⟨_, _, ⟨_, _, ⟨_, _, ⟨_, _, ⟨_, _, ⟨_, _, ⟨_, _, ⟨_,
        read .id, rfl⟩, read .name, rfl⟩, read .description, rfl⟩, read .version, rfl⟩,
        read .author, rfl⟩, read .tags, rfl⟩, read .vars, rfl⟩, read .program, rfl⟩,
        read .rules, rfl⟩, read .policy, rfl⟩, read .metadata, rfl⟩
  rw [parts]
  constructor
  · rintro ⟨q, read, rfl⟩
    exact read
  · intro read
    exact ⟨p, read, rfl⟩

/-! ## Members that are hidden -/

namespace Part

variable {m : Part} {given ms : Members Value}

/-- Whether what is given for a member is hidden by a template: it is given in the second spelling
alone, and the template has the first. -/
def IsHidden (m : Part) (given ms : Members Value) : Prop :=
  given.find? m.label.camel = none ∧ (given.find? m.label.snake).isSome = true ∧
    (ms.find? m.label.camel).isSome = true

theorem not_isHidden_of_plain (plain : m.label.snake = m.label.camel) : ¬ m.IsHidden given ms := by
  rintro ⟨absent, present, -⟩
  rw [plain, absent] at present
  cases present

theorem IsHidden.isSpelledTwice (h : m.IsHidden given ms) : m = rules ∨ m = policy := by
  cases m with
  | rules => exact .inl rfl
  | policy => exact .inr rfl
  | _ => exact absurd h (not_isHidden_of_plain rfl)

end Part

end Playbook

open Playbook (Part)

namespace Registry

variable {d d' : Desk} {p : Playbook} {template id : String} {given ms : Members Value}

/-! ## What a playbook is made of -/

/-- The name that a playbook gets for its template and its id. -/
def nameFor (template id : String) (ms : Members Value) : String :=
  ((ms.find? "name").getD (.text template)).display ++ " (" ++ id ++ ")"

/-- The members that a template, an id and what is given come to. -/
def laid (template id : String) (given ms : Members Value) : Members Value :=
  (ms.overlay [("id", .text id), ("name", .text (nameFor template id ms))]).overlay given

theorem find?_laid (distinct : given.names.Nodup) (name : String) :
    (laid template id given ms).find? name = (given.find? name).or
      (if name = "id" then some (.text id)
        else if name = "name" then some (.text (nameFor template id ms)) else ms.find? name) := by
  have own : Members.names [("id", Value.text id), ("name", .text (nameFor template id ms))] =
      ["id", "name"] := rfl
  rw [laid, Members.find?_overlay_of_nodup _ distinct,
    Members.find?_overlay_of_nodup _ (by rw [own]; decide)]
  congr 1
  by_cases isId : name = "id"
  · rw [if_pos isId, Members.find?_cons, if_pos isId.symm]
    rfl
  · rw [if_neg isId, Members.find?_cons, if_neg (Ne.symm isId), Members.find?_cons]
    by_cases isName : name = "name"
    · rw [if_pos isName, if_pos isName.symm]
      rfl
    · rw [if_neg isName, if_neg (Ne.symm isName)]
      rfl

/-- Where the template gives no member of the first spelling, or that is what is given, the member
that is given is the one that is found. -/
theorem member?_laid_of_given {m : Part} {v : Value} (distinct : given.names.Nodup)
    (found : m.label.member? given = some v) (seen : ¬ m.IsHidden given ms) :
    m.label.member? (laid template id given ms) = some v := by
  unfold Label.member? at found ⊢
  rw [find?_laid distinct, find?_laid distinct]
  cases first : given.find? m.label.camel with
  | some w =>
    rw [first] at found
    cases found
    rfl
  | none =>
    rw [first] at found
    dsimp only at found
    have absent : ms.find? m.label.camel = none := by
      by_contra present
      exact seen ⟨first, by rw [found]; rfl, Option.isSome_iff_ne_none.2 present⟩
    rw [found, absent]
    cases m with
    | id | name => cases first.symm.trans found
    | _ => rfl

/-- Whether a member is neither the id nor the name. -/
def IsLaid (m : Part) : Prop :=
  m ≠ .id ∧ m ≠ .name

theorem IsLaid.find? {m : Part} (h : IsLaid m) (distinct : given.names.Nodup) {name : String}
    (spelled : name = m.label.camel ∨ name = m.label.snake) :
    (laid template id given ms).find? name = (given.find? name).or (ms.find? name) := by
  have other : name ≠ "id" ∧ name ≠ "name" := by
    cases m with
    | id => exact absurd rfl h.1
    | name => exact absurd rfl h.2
    | _ => rcases spelled with rfl | rfl <;> decide
  rw [find?_laid distinct, if_neg other.1, if_neg other.2]

theorem IsLaid.member? {m : Part} (h : IsLaid m) (distinct : given.names.Nodup)
    (unseen : m.label.member? given = none ∨ m.IsHidden given ms) :
    m.label.member? (laid template id given ms) = m.label.member? ms := by
  have absent : given.find? m.label.camel = none := by
    rcases unseen with missing | hidden
    · unfold Label.member? at missing
      cases first : given.find? m.label.camel with
      | none => rfl
      | some v =>
        rw [first] at missing
        cases missing
    · exact hidden.1
  unfold Label.member?
  rw [h.find? distinct (.inl rfl), h.find? distinct (.inr rfl), absent, Option.none_or]
  cases first : ms.find? m.label.camel with
  | some v => rfl
  | none =>
    -- nothing is hidden here, so the member is given in neither spelling
    rcases unseen with missing | hidden
    · unfold Label.member? at missing
      rw [absent] at missing
      dsimp only at missing ⊢
      rw [missing, Option.none_or]
    · have present := hidden.2.2
      rw [first] at present
      cases present

/-- What a member of the created playbook is when it is not given. -/
def Inherits (template id : String) (ms : Members Value) (p : Playbook) : Part → Prop
  | .id => p.id = id
  | .name => p.name = nameFor template id ms
  | m => m.read ms = .ok (m.value p)

theorem inherits_of_read {m : Part} (distinct : given.names.Nodup)
    (unseen : m.label.member? given = none ∨ m.IsHidden given ms)
    (read : m.read (laid template id given ms) = .ok (m.value p)) :
    Inherits template id ms p m := by
  by_cases own : IsLaid m
  · rw [Part.read_congr (own.member? distinct unseen)] at read
    cases m with
    | id => exact absurd rfl own.1
    | name => exact absurd rfl own.2
    | _ => exact read
  · have missing : m.label.member? given = none := by
      rcases unseen with missing | hidden
      · exact missing
      · rcases hidden.isSpelledTwice with rfl | rfl
        · exact absurd ⟨nofun, nofun⟩ own
        · exact absurd ⟨nofun, nofun⟩ own
    have first : given.find? m.label.camel = none := by
      unfold Label.member? at missing
      split at missing
      · cases missing
      · next absent => exact absent
    have found : (laid template id given ms).find? m.label.camel = _ := find?_laid distinct _
    rw [first, Option.none_or] at found
    cases m with
    | id =>
      have member : (Part.label .id).member? (laid template id given ms) = some (.text id) := by
        unfold Label.member?
        rw [found]
        rfl
      exact (Decoded.ok.inj ((Part.read_of_some member).1 read)).symm
    | name =>
      have member : (Part.label .name).member? (laid template id given ms) =
          some (.text (nameFor template id ms)) := by
        unfold Label.member?
        rw [found]
        rfl
      exact (Decoded.ok.inj ((Part.read_of_some member).1 read)).symm
    | _ => exact absurd ⟨nofun, nofun⟩ own

theorem find?_of_created {document : Value}
    (created : finish (create document) d = (.ok p, d')) :
    d'.registry.playbooks.find? p.id = some p := by
  rw [finish_create] at created
  split at created
  · cases created
  · split at created
    · cases created
    · split at created
      · cases created
        rw [playbooks_adopt, Members.find?_put_self]
      · cases created

/-- A playbook that is made from a template reads from what was laid together. -/
theorem of_made (loads : d.registry.library.loadTemplate d.files template = .ok ms)
    (made : finish (fromTemplate template id given) d = (.ok p, d')) :
    Playbook.decode (.record (laid template id given ms)) = .ok p := by
  rw [finish_fromTemplate, loads] at made
  obtain ⟨ms', same, decoded, -⟩ := of_accepted (accepted_of_create (congrArg Prod.fst made))
  cases same
  exact decoded

/-- Every member of a playbook that was made from a template has the value that is given for it,
unless the template hides that; and every other member has the value of the template, but for the id
and the name that are made for it.  The playbook is registered as it was made. -/
theorem fromTemplate_members (distinct : given.names.Nodup)
    (made : finish (fromTemplate template id given) d = (.ok p, d')) :
    ∃ ms, d.registry.library.loadTemplate d.files template = .ok ms ∧
      d'.registry.playbooks.find? p.id = some p ∧
      ∀ m : Part,
        (∀ v, m.label.member? given = some v → ¬ m.IsHidden given ms →
          m.reader v = .ok (m.value p)) ∧
        (m.label.member? given = none → Inherits template id ms p m) ∧
        (m.IsHidden given ms →
          (m = .rules ∨ m = .policy) ∧ m.read ms = .ok (m.value p)) := by
  cases loads : d.registry.library.loadTemplate d.files template with
  | error e =>
    rw [finish_fromTemplate, loads] at made
    cases made
  | ok ms =>
    have read := Playbook.decode_record_iff.1 (of_made loads made)
    refine ⟨ms, rfl, ?_, fun m => ⟨fun v found seen => ?_, fun missing => ?_, fun hidden => ?_⟩⟩
    · rw [finish_fromTemplate, loads] at made
      exact find?_of_created made
    · exact (Part.read_of_some (member?_laid_of_given distinct found seen)).1 (read m)
    · exact inherits_of_read distinct (.inl missing) (read m)
    · have twice := hidden.isSpelledTwice
      have inherited := inherits_of_read distinct (.inr hidden) (read m)
      refine ⟨twice, ?_⟩
      rcases twice with rfl | rfl
      · exact inherited
      · exact inherited

/-! ## A policy that is hidden -/

/-- A template that retries once. -/
def patient : Members Value :=
  [("name", .text "A"), ("version", .text "1.0.0"), ("author", .text "b"),
    ("actions", .list [.record [("id", .text "w"), ("type", .text "wait"), ("value", .int 1)]]),
    ("errorHandling", .record [("maxRetries", .int 1)])]

def templateDay : Desk :=
  { firstDay with
    files := firstDay.files.put ["srv", "home", "templates", "board.json"]
      (Library.stored (.record patient)) }

/-- Another author, and five retries in the second spelling. -/
def impatient : Members Value :=
  [("author", .text "me"), ("error_handling", .record [("maxRetries", .int 5)])]

theorem loadTemplate_templateDay :
    templateDay.registry.library.loadTemplate templateDay.files "board" = .ok patient := by
  have place : templateDay.files.locate
      (Library.documentPath templateDay.registry.library.templates "board") =
        .ok ["srv", "home", "templates", "board.json"] := by decide +kernel
  have reads := Library.readValue_stored place (firstDay.files.at?_put_self _ (by decide))
    (by decide +kernel : (Value.record patient).isProper = true)
  have accepted : Library.isTemplateName "board" = true := by decide
  rw [Library.loadTemplate, accepted, Library.readDocument, reads]
  rfl

theorem made_templateDay :
    ∃ p d', finish (fromTemplate "board" "x" impatient) templateDay = (.ok p, d') := by
  have made : (finish (fromTemplate "board" "x" impatient) templateDay).1.isOk = true := by
    decide +kernel
  rcases done : finish (fromTemplate "board" "x" impatient) templateDay with ⟨e | p, d'⟩
  · rw [done] at made
    cases made
  · exact ⟨p, d', rfl⟩

theorem distinct_impatient : impatient.names.Nodup := by decide

theorem isHidden_impatient : Part.policy.IsHidden impatient patient :=
  ⟨by rfl, by rfl, by rfl⟩

theorem fromTemplate_members_templateDay :
    impatient.names.Nodup ∧
      ∃ p d', finish (fromTemplate "board" "x" impatient) templateDay = (.ok p, d') ∧
        p.author = "me" ∧ p.id = "x" ∧ p.version = "1.0.0" ∧ p.policy.maxRetries = 1 := by
  obtain ⟨p, d', made⟩ := made_templateDay
  obtain ⟨ms, loads, -, parts⟩ := fromTemplate_members distinct_impatient made
  cases loads.symm.trans loadTemplate_templateDay
  have author := (parts .author).1 (.text "me") rfl (Part.not_isHidden_of_plain rfl)
  have id : p.id = "x" := (parts .id).2.1 rfl
  have version := (parts .version).2.1 rfl
  have policy := ((parts .policy).2.2 isHidden_impatient).2
  refine ⟨distinct_impatient, p, d', made, ?_, id, ?_, ?_⟩
  · exact (Decoded.ok.inj author).symm
  · exact (Decoded.ok.inj version).symm
  · exact congrArg ErrorPolicy.maxRetries (Decoded.ok.inj policy).symm

/-- Not every member has the value that is given for it. -/
theorem given_member_dropped :
    ¬ ∀ (d d' : Desk) (template id : String) (given : Members Value) (p : Playbook),
      given.names.Nodup → finish (fromTemplate template id given) d = (.ok p, d') →
        ∀ (m : Part) (v : Value),
          m.label.member? given = some v → m.reader v = .ok (m.value p) := by
  intro claim
  obtain ⟨p, d', made⟩ := made_templateDay
  have given := claim templateDay d' "board" "x" impatient p distinct_impatient made .policy _ rfl
  -- the template's policy retries once, the given one five times
  have read := inherits_of_read (m := .policy) distinct_impatient (.inr isHidden_impatient)
    (Playbook.decode_record_iff.1 (of_made loadTemplate_templateDay made) .policy)
  have five : p.policy.maxRetries = 5 := congrArg ErrorPolicy.maxRetries (Decoded.ok.inj given).symm
  have once : p.policy.maxRetries = 1 := congrArg ErrorPolicy.maxRetries (Decoded.ok.inj read).symm
  omega

end Registry

end Scout
