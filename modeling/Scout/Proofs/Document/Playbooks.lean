import Scout.Document.Report
import Scout.Proofs.Document.Decoding

/-!
# Playbooks and executions read back

A playbook is storable when the data that it carries have distinct names and its
moment is a dated one.  Every playbook that a document gives is storable, and a
storable one is read back from its own document form.
-/

namespace Scout

/-! ## Conditions -/

namespace Condition

theorem keeps (c : Condition) : Decoder.Keeps decode encode c := by
  obtain ⟨kind, selector, variableName, value⟩ := c
  have hkind : Decoder.Keeps (.oneOf ConditionKind.all ConditionKind.word)
      (fun k => .text k.word) kind := Decoder.keeps_oneOf (by cases kind <;> rfl)
  have hselector := Decoder.keeps_text? selector
  have hvariable := Decoder.keeps_text? variableName
  have hvalue := Decoder.keeps_scalar? value
  constructor
  · rw [encode, Value.isProper_record]
    refine ⟨by simp [Members.names], ?_⟩
    simp [hselector.proper, hvariable.proper, hvalue.proper, Value.isProper]
  · rw [encode, decode, Decoder.model, decodeFields]
    rw [Label.required_eq rfl hkind.reads, Label.optional_eq rfl hselector.reads,
      Label.optional_eq rfl hvariable.reads, Label.optional_eq rfl hvalue.reads]
    rfl

end Condition

/-! ## Actions -/

def Step.IsStorable (s : Step) : Prop :=
  ∀ ms, s.bindings = some ms → Members.AreProper ms

namespace Action

mutual

def IsStorable : Action → Prop
  | ⟨s, none⟩ => s.IsStorable
  | ⟨s, some as⟩ => s.IsStorable ∧ AreStorable as

def AreStorable : List Action → Prop
  | [] => True
  | a :: rest => a.IsStorable ∧ AreStorable rest

end

def encodeConditions : Option (List Condition) → Value
  | some cs => .list (cs.map Condition.encode)
  | none => .null

def encodeBindings : Option (Members Value) → Value
  | some bs => .record bs
  | none => .null

theorem keeps_conditions (o : Option (List Condition)) :
    (Decoder.nullable (Decoder.list Condition.decode)).Keeps encodeConditions o :=
  Decoder.keeps_nullable rfl (fun _ => rfl)
    (fun cs _ => Decoder.keeps_list fun c _ => c.keeps) (by simp [encodeConditions])

theorem keeps_bindings {s : Step} (h : s.IsStorable) :
    (Decoder.nullable (Decoder.dictionary Decoder.any)).Keeps encodeBindings s.bindings :=
  Decoder.keeps_nullable rfl (fun _ => rfl)
    (fun ms hms => Decoder.keeps_dictionary (h ms hms)) (by simp [encodeBindings])

theorem keeps_kind (kind : ActionKind) :
    Decoder.Keeps (.oneOf ActionKind.all ActionKind.word) (fun k => .text k.word) kind :=
  Decoder.keeps_oneOf (by cases kind <;> rfl)

/-- `encodeFields` with its two optional parts written by name. -/
theorem encodeFields_eq (s : Step) (program : Value) :
    encodeFields s program = .record [
      ("id", .text s.id), ("type", .text s.kind.word), ("description", .text s.description),
      ("selector", .ofText? s.selector), ("value", .ofScalar? s.value),
      ("timeout", .ofInt? s.timeout), ("retries", .ofInt? s.retries),
      ("conditions", encodeConditions s.conditions), ("actions", program),
      ("variables", encodeBindings s.bindings), ("optional", .bool s.optional)] := rfl

theorem proper_encodeFields {s : Step} (h : s.IsStorable) {program : Value}
    (hprogram : program.isProper = true) : (encodeFields s program).isProper = true := by
  have hselector := (Decoder.keeps_text? s.selector).proper
  have hvalue := (Decoder.keeps_scalar? s.value).proper
  have htimeout := (Decoder.keeps_integer? s.timeout).proper
  have hretries := (Decoder.keeps_integer? s.retries).proper
  have hconditions := (keeps_conditions s.conditions).proper
  have hbindings := (keeps_bindings h).proper
  rw [encodeFields_eq, Value.isProper_record]
  refine ⟨by simp [Members.names], ?_⟩
  simp [hselector, hvalue, htimeout, hretries, hconditions, hbindings, hprogram, Value.isProper]

theorem decode_encodeFields {s : Step} (h : s.IsStorable) {as : Option (List Action)}
    {program : Value} (hprogram : decodeProgram program = .ok as) :
    decode (encodeFields s program) = .ok ⟨s, as⟩ := by
  rw [encodeFields_eq, decode, decodeFields]
  rw [Label.optional_eq rfl (Decoder.keeps_text s.id).reads,
    Label.required_eq rfl (keeps_kind s.kind).reads,
    Label.optional_eq rfl (Decoder.keeps_text s.description).reads,
    Label.optional_eq rfl (Decoder.keeps_text? s.selector).reads,
    Label.optional_eq rfl (Decoder.keeps_scalar? s.value).reads,
    Label.optional_eq rfl (Decoder.keeps_integer? s.timeout).reads,
    Label.optional_eq rfl (Decoder.keeps_integer? s.retries).reads,
    Label.optional_eq rfl (keeps_conditions s.conditions).reads,
    Label.optional_eq rfl (keeps_bindings h).reads,
    Label.optional_eq rfl (Decoder.keeps_bool s.optional).reads]
  simp [decodeProgramIn, hprogram, assemble]

mutual

theorem proper_encode : (a : Action) → a.IsStorable → a.encode.isProper = true
  | ⟨_, none⟩, h => proper_encodeFields h rfl
  | ⟨_, some as⟩, h => proper_encodeFields h.1 (Value.isProper_list.2 (proper_encodeItems as h.2))

theorem proper_encodeItems : (as : List Action) → AreStorable as →
    ∀ v ∈ encodeItems as, v.isProper = true
  | [], _ => by simp [encodeItems]
  | a :: rest, h => by
    rw [encodeItems, List.forall_mem_cons]
    exact ⟨proper_encode a h.1, proper_encodeItems rest h.2⟩

end

mutual

theorem decode_encode : (a : Action) → a.IsStorable → decode a.encode = .ok a
  | ⟨_, none⟩, h => decode_encodeFields h rfl
  | ⟨_, some as⟩, h => decode_encodeFields h.1 (by
    rw [decodeProgram, decodeItems_encodeItems as h.2 0]
    rfl)

theorem decodeItems_encodeItems : (as : List Action) → AreStorable as → (i : Nat) →
    decodeItems i (encodeItems as) = .ok as
  | [], _, _ => rfl
  | a :: rest, h, i => by
    rw [encodeItems, decodeItems, decode_encode a h.1, decodeItems_encodeItems rest h.2]
    rfl

end

/-- What is read of an action: its bindings have distinct names, and its program is the one
that was read before. -/
theorem of_decodeFields {ms : Members Value} (hms : ms.AreProper)
    {program : Decoded (Option (List Action))} {a : Action}
    (h : decodeFields ms program = .ok a) :
    a.step.IsStorable ∧ program = .ok a.program := by
  -- every member was read, and only what was read of the bindings and the program matters
  simp only [decodeFields, Decoded.seq_eq_ok, Decoded.map_eq_ok] at h
  obtain ⟨_, _, ⟨_, bindings, ⟨_, as, ⟨_, _, ⟨_, _, ⟨_, _, ⟨_, _, ⟨_, _, ⟨_, _, ⟨_, _, ⟨_, -, rfl⟩,
    -, rfl⟩, -, rfl⟩, -, rfl⟩, -, rfl⟩, -, rfl⟩, -, rfl⟩, -, rfl⟩, hprogram, rfl⟩, hbindings, rfl⟩,
    -, rfl⟩ := h
  refine ⟨?_, Decoded.under_eq_ok.1 hprogram⟩
  exact Label.of_optional (P := fun o => ∀ bs, o = some bs → Members.AreProper bs) hms
    (fun v o hv ho =>
      Decoder.of_nullable (fun v bs hv hbs => Decoder.proper_dictionary hv hbs) hv ho)
    (by simp) hbindings

theorem isStorable_mk {a : Action} (hstep : a.step.IsStorable)
    (hprogram : ∀ as, a.program = some as → AreStorable as) : a.IsStorable := by
  obtain ⟨s, _ | as⟩ := a
  · exact hstep
  · exact ⟨hstep, hprogram as rfl⟩

mutual

theorem isStorable_decode : (v : Value) → v.isProper = true → (a : Action) →
    decode v = .ok a → a.IsStorable
  | .record ms, hv, a, h => by
    have hms := Value.isProper_record.1 hv
    rw [Value.isProper, Bool.and_eq_true] at hv
    rw [decode] at h
    obtain ⟨hstep, hprogram⟩ := of_decodeFields hms h
    exact isStorable_mk hstep fun as has =>
      areStorable_programIn ms hv.2 as (hprogram.trans (by rw [has]))
  | .null, _, _, h | .bool _, _, _, h | .int _, _, _, h | .float _, _, _, h | .text _, _, _, h
  | .list _, _, _, h => by cases h

theorem areStorable_programIn : (ms : List (String × Value)) → Value.haveProper ms = true →
    (as : List Action) → decodeProgramIn ms = .ok (some as) → AreStorable as
  | [], _, _, h => by cases h
  | (k, v) :: rest, hms, as, h => by
    rw [Value.haveProper, Bool.and_eq_true] at hms
    rw [decodeProgramIn] at h
    split at h
    · exact areStorable_program v hms.1 as h
    · exact areStorable_programIn rest hms.2 as h

theorem areStorable_program : (v : Value) → v.isProper = true → (as : List Action) →
    decodeProgram v = .ok (some as) → AreStorable as
  | .list vs, hv, as, h => by
    rw [Value.isProper] at hv
    rw [decodeProgram] at h
    obtain ⟨bs, hbs, hsome⟩ := Decoded.map_eq_ok.1 h
    cases hsome
    exact areStorable_items vs hv 0 as hbs
  | .null, _, _, h | .bool _, _, _, h | .int _, _, _, h | .float _, _, _, h | .text _, _, _, h
  | .record _, _, _, h => by cases h

theorem areStorable_items : (vs : List Value) → Value.areProper vs = true → (i : Nat) →
    (as : List Action) → decodeItems i vs = .ok as → AreStorable as
  | [], _, _, _, h => by
    cases h
    trivial
  | v :: rest, hvs, i, as, h => by
    rw [Value.areProper, Bool.and_eq_true] at hvs
    rw [decodeItems] at h
    obtain ⟨f, bs, hf, hbs, rfl⟩ := Decoded.seq_eq_ok.1 h
    obtain ⟨a, ha, rfl⟩ := Decoded.map_eq_ok.1 hf
    exact ⟨isStorable_decode v hvs.1 a (Decoded.under_eq_ok.1 ha),
      areStorable_items rest hvs.2 (i + 1) bs hbs⟩

end

end Action

/-! ## Rules, policies, metadata -/

namespace ExtractionRule

def IsStorable (r : ExtractionRule) : Prop :=
  r.fallback.isProper = true

theorem keeps (sp : Spelling) {r : ExtractionRule} (h : r.IsStorable) :
    Decoder.Keeps decode (encode sp) r := by
  have hattribute := Decoder.keeps_text? r.attributeName
  have htransform := Decoder.keeps_text? r.transform
  constructor
  · rw [encode, Value.isProper_record]
    refine ⟨by cases sp <;> simp [Members.names, Spelling.name, Label.defaultValue], ?_⟩
    have hfallback : r.fallback.isProper = true := h
    simp [hattribute.proper, htransform.proper, hfallback, Value.isProper]
  · rw [encode, decode, Decoder.model, decodeFields]
    rw [Label.optional_eq rfl (Decoder.keeps_text r.field).reads,
      Label.optional_eq rfl (Decoder.keeps_text r.selector).reads,
      Label.optional_eq rfl hattribute.reads, Label.optional_eq rfl htransform.reads,
      Label.optional_eq rfl (Decoder.keeps_bool r.required).reads,
      Label.optional_eq (d := Decoder.any) (a := r.fallback) (by cases sp <;> rfl) rfl]
    rfl

theorem isStorable_decode {v : Value} {r : ExtractionRule} (hv : v.isProper = true)
    (h : decode v = .ok r) : r.IsStorable := by
  refine Decoder.of_model (P := IsStorable) (fun ms r hms h => ?_) hv h
  simp only [decodeFields, Decoded.seq_eq_ok, Decoded.map_eq_ok] at h
  obtain ⟨_, _, ⟨_, _, ⟨_, _, ⟨_, _, ⟨_, _, ⟨_, -, rfl⟩, -, rfl⟩, -, rfl⟩, -, rfl⟩, -, rfl⟩,
    hfallback, rfl⟩ := h
  refine Label.of_optional (P := fun v => v.isProper = true) hms ?_ rfl hfallback
  intro v w hv hw
  cases hw
  exact hv

end ExtractionRule

namespace ErrorPolicy

theorem keeps (sp : Spelling) (p : ErrorPolicy) : Decoder.Keeps decode (encode sp) p := by
  have hlevel : Decoder.Keeps (.oneOf LogLevel.all LogLevel.word) (fun l => .text l.word)
      p.logLevel := Decoder.keeps_oneOf (by cases p.logLevel <;> rfl)
  constructor
  · rw [encode, Value.isProper_record]
    refine ⟨by cases sp <;> simp [Members.names, Spelling.name, Label.continueOnError,
      Label.maxRetries, Label.retryDelay, Label.screenshotOnError, Label.logLevel], ?_⟩
    simp [Value.isProper]
  · rw [encode, decode, Decoder.model, decodeFields]
    cases sp <;>
      rw [Label.optional_eq rfl (Decoder.keeps_bool p.continueOnError).reads,
        Label.optional_eq rfl (Decoder.keeps_integer p.maxRetries).reads,
        Label.optional_eq rfl (Decoder.keeps_integer p.retryDelay).reads,
        Label.optional_eq rfl (Decoder.keeps_bool p.screenshotOnError).reads,
        Label.optional_eq rfl hlevel.reads] <;>
      rfl

end ErrorPolicy

namespace Metadata

def IsStorable (m : Metadata) : Prop :=
  ∀ t, m.lastTested = some t → t.IsDated

theorem keeps (sp : Spelling) {m : Metadata} (h : m.IsStorable) :
    Decoder.Keeps decode (encode sp) m := by
  have hcomplexity : Decoder.Keeps (.oneOf Complexity.all Complexity.word)
      (fun c => .text c.word) m.complexity := Decoder.keeps_oneOf (by cases m.complexity <;> rfl)
  have htested : (Decoder.nullable Decoder.moment).Keeps Value.ofMoment? m.lastTested :=
    Decoder.keeps_nullable rfl (fun _ => rfl) (fun t ht => Decoder.keeps_moment (h t ht))
      (by simp [Value.ofMoment?])
  constructor
  · rw [encode, Value.isProper_record]
    refine ⟨by cases sp <;> simp [Members.names, Spelling.name, Label.targetSite,
      Label.estimatedDuration, Label.complexity, Label.lastTested, Label.successRate,
      Label.usesBrowser, Label.requiresAuth, Label.plain], ?_⟩
    simp [htested.proper, Value.isProper]
  · rw [encode, decode, Decoder.model, decodeFields]
    cases sp <;>
      rw [Label.optional_eq rfl (Decoder.keeps_text m.targetSite).reads,
        Label.optional_eq rfl (Decoder.keeps_float m.estimatedDuration).reads,
        Label.optional_eq rfl hcomplexity.reads, Label.optional_eq rfl htested.reads,
        Label.optional_eq rfl (Decoder.keeps_float m.successRate).reads,
        Label.optional_eq rfl (Decoder.keeps_bool m.usesBrowser).reads,
        Label.optional_eq rfl (Decoder.keeps_bool m.requiresAuth).reads] <;>
      rfl

theorem isStorable_decode {v : Value} {m : Metadata} (hv : v.isProper = true)
    (h : decode v = .ok m) : m.IsStorable := by
  refine Decoder.of_model (P := IsStorable) (fun ms m hms h => ?_) hv h
  simp only [decodeFields, Decoded.seq_eq_ok, Decoded.map_eq_ok] at h
  obtain ⟨_, _, ⟨_, _, ⟨_, _, ⟨_, _, ⟨_, _, ⟨_, _, ⟨_, -, rfl⟩, -, rfl⟩, -, rfl⟩, htested, rfl⟩,
    -, rfl⟩, -, rfl⟩, -, rfl⟩ := h
  exact Label.of_optional (P := fun o => ∀ t, o = some t → t.IsDated) hms
    (fun v o hv ho => Decoder.of_nullable (fun _ _ _ ht => Decoder.isDated_moment ht) hv ho)
    (by simp) htested

theorem isStorable_standard : standard.IsStorable := by
  simp [IsStorable, standard]

end Metadata

/-! ## Playbooks -/

namespace Playbook

/-- Whether everything that a playbook carries can be stored. -/
structure IsStorable (p : Playbook) : Prop where
  vars : p.vars.AreProper
  actions : Action.AreStorable p.actions
  rules : ∀ r ∈ p.rules, r.IsStorable
  metadata : p.metadata.IsStorable

theorem keeps_actions {as : List Action} (h : Action.AreStorable as) :
    Decoder.Keeps Action.decodeList (fun as => .list (Action.encodeItems as)) as :=
  ⟨Value.isProper_list.2 (Action.proper_encodeItems as h), Action.decodeItems_encodeItems as h 0⟩

/-- A storable playbook is read back from its document form, in either spelling. -/
theorem keeps_encodeAs (sp : Spelling) {p : Playbook} (h : p.IsStorable) :
    Decoder.Keeps decode (encodeAs sp) p := by
  have htags := Decoder.keeps_texts p.tags
  have hvars := Decoder.keeps_dictionary h.vars
  have hactions := keeps_actions h.actions
  have hrules := Decoder.keeps_list fun r hr => ExtractionRule.keeps sp (h.rules r hr)
  have hpolicy := p.policy.keeps sp
  have hmetadata := Metadata.keeps sp h.metadata
  constructor
  · rw [encodeAs, Value.isProper_record]
    refine ⟨by cases sp <;> simp [Members.names, Spelling.name, Label.extractionRules,
      Label.errorHandling], ?_⟩
    simp only [List.forall_mem_cons]
    exact ⟨rfl, rfl, rfl, rfl, rfl, htags.proper, hvars.proper, hactions.proper, hrules.proper,
      hpolicy.proper, hmetadata.proper, by simp⟩
  · rw [encodeAs, decode, Decoder.model, decodeFields]
    cases sp <;>
      rw [Label.optional_eq rfl (Decoder.keeps_text p.id).reads,
        Label.optional_eq rfl (Decoder.keeps_text p.name).reads,
        Label.optional_eq rfl (Decoder.keeps_text p.description).reads,
        Label.optional_eq rfl (Decoder.keeps_text p.version).reads,
        Label.optional_eq rfl (Decoder.keeps_text p.author).reads,
        Label.optional_eq rfl htags.reads, Label.optional_eq rfl hvars.reads,
        Label.optional_eq rfl hactions.reads, Label.optional_eq rfl hrules.reads,
        Label.optional_eq rfl hpolicy.reads, Label.optional_eq rfl hmetadata.reads] <;>
      rfl

theorem keeps {p : Playbook} (h : p.IsStorable) : Decoder.Keeps decode encode p :=
  keeps_encodeAs .camel h

theorem isStorable_decode {v : Value} {p : Playbook} (hv : v.isProper = true)
    (h : decode v = .ok p) : p.IsStorable := by
  refine Decoder.of_model (P := IsStorable) (fun ms p hms h => ?_) hv h
  simp only [decodeFields, Decoded.seq_eq_ok, Decoded.map_eq_ok] at h
  obtain ⟨_, _, ⟨_, _, ⟨_, _, ⟨_, _, ⟨_, _, ⟨_, _, ⟨_, _, ⟨_, _, ⟨_, _, ⟨_, _, ⟨_, -, rfl⟩, -, rfl⟩,
    -, rfl⟩, -, rfl⟩, -, rfl⟩, -, rfl⟩, hvars, rfl⟩, hactions, rfl⟩, hrules, rfl⟩, -, rfl⟩,
    hmetadata, rfl⟩ := h
  exact {
    vars := Label.of_optional (P := Members.AreProper) hms
      (fun v ms hv h => Decoder.proper_dictionary hv h) Members.AreProper.nil hvars
    actions := by
      refine Label.of_optional (P := Action.AreStorable) hms (fun v as hv h => ?_)
        (show Action.AreStorable [] from trivial) hactions
      unfold Action.decodeList at h
      split at h
      · rw [Value.isProper] at hv
        exact Action.areStorable_items _ hv 0 as h
      · cases h
    rules := Label.of_optional (P := fun rs => ∀ r ∈ rs, ExtractionRule.IsStorable r) hms
      (fun v rs hv h =>
        Decoder.of_list (fun _ _ hv h => ExtractionRule.isStorable_decode hv h) hv h)
      (by simp) hrules
    metadata := Label.of_optional (P := Metadata.IsStorable) hms
      (fun v m hv h => Metadata.isStorable_decode hv h) Metadata.isStorable_standard hmetadata }

theorem id_of_decode {ms : Members Value} {s : String} {p : Playbook}
    (named : ms.find? "id" = some (.text s)) (h : decode (.record ms) = .ok p) : p.id = s := by
  have hid : Label.id.optional Decoder.text "" ms = .ok s :=
    Label.optional_eq (by rw [Label.member?, show Label.id.camel = "id" from rfl, named]) rfl
  rw [decode, Decoder.model, decodeFields, hid] at h
  simp only [Decoded.seq_eq_ok, Decoded.map_eq_ok] at h
  obtain ⟨_, _, ⟨_, _, ⟨_, _, ⟨_, _, ⟨_, _, ⟨_, _, ⟨_, _, ⟨_, _, ⟨_, _, ⟨_, _, ⟨_, hs, rfl⟩, -,
    rfl⟩, -, rfl⟩, -, rfl⟩, -, rfl⟩, -, rfl⟩, -, rfl⟩, -, rfl⟩, -, rfl⟩, -, rfl⟩, -, rfl⟩ := h
  cases hs
  rfl

/-- What a playbook is kept as can read as a playbook only under its own id. -/
theorem id_of_decode_encode {p q : Playbook} (h : decode p.encode = .ok q) : q.id = p.id :=
  id_of_decode rfl h

end Playbook

/-! ## Executions -/

namespace HistoryEntry

/-- Whether an execution can be stored: its moment is a dated one, and its variables have
distinct names. -/
structure IsStorable (e : HistoryEntry) : Prop where
  executedAt : e.executedAt.IsDated
  vars : e.vars.AreProper

/-- The document form of an execution has distinct names when its variables have. -/
theorem proper_encodeAs (sp : Spelling) {e : HistoryEntry} (h : e.vars.AreProper) :
    (e.encodeAs sp).isProper = true := by
  rw [encodeAs, Value.isProper_record]
  refine ⟨by cases sp <;> simp [Members.names, Spelling.name, Label.playbookId, Label.executedAt,
    Label.opportunitiesFound, Label.executionTime], ?_⟩
  simp only [List.forall_mem_cons]
  exact ⟨rfl, rfl, rfl, rfl, rfl, rfl, (Decoder.keeps_texts e.errors).proper,
    (Decoder.keeps_texts e.warnings).proper, Value.isProper_record.2 h, by simp⟩

theorem proper_encode {e : HistoryEntry} (h : e.vars.AreProper) : e.encode.isProper = true :=
  proper_encodeAs .camel h

/-- A storable execution is read back from its document form, in either spelling. -/
theorem keeps_encodeAs (sp : Spelling) {e : HistoryEntry} (h : e.IsStorable) :
    Decoder.Keeps decode (encodeAs sp) e := by
  have herrors : Decoder.texts.Keeps Value.texts e.errors := Decoder.keeps_texts e.errors
  have hwarnings : Decoder.texts.Keeps Value.texts e.warnings := Decoder.keeps_texts e.warnings
  have hvars := Decoder.keeps_dictionary h.vars
  refine ⟨proper_encodeAs sp h.vars, ?_⟩
  rw [encodeAs, decode, Decoder.model, decodeFields]
  cases sp <;>
    rw [Label.required_eq rfl (Decoder.keeps_text e.id).reads,
      Label.required_eq rfl (Decoder.keeps_text e.playbookId).reads,
      Label.required_eq rfl (Decoder.keeps_moment h.executedAt).reads,
      Label.required_eq rfl (Decoder.keeps_bool e.success).reads,
      Label.optional_eq rfl (Decoder.keeps_integer e.opportunitiesFound).reads,
      Label.optional_eq rfl (Decoder.keeps_float e.executionTime).reads,
      Label.optional_eq rfl herrors.reads, Label.optional_eq rfl hwarnings.reads,
      Label.optional_eq rfl hvars.reads] <;>
    rfl

theorem keeps {e : HistoryEntry} (h : e.IsStorable) : Decoder.Keeps decode encode e :=
  keeps_encodeAs .camel h

theorem isStorable_decode {v : Value} {e : HistoryEntry} (hv : v.isProper = true)
    (h : decode v = .ok e) : e.IsStorable := by
  refine Decoder.of_model (P := IsStorable) (fun ms e hms h => ?_) hv h
  simp only [decodeFields, Decoded.seq_eq_ok, Decoded.map_eq_ok] at h
  obtain ⟨_, _, ⟨_, _, ⟨_, _, ⟨_, _, ⟨_, _, ⟨_, _, ⟨_, _, ⟨_, _, ⟨_, -, rfl⟩, -, rfl⟩, hexecuted,
    rfl⟩, -, rfl⟩, -, rfl⟩, -, rfl⟩, -, rfl⟩, -, rfl⟩, hvars, rfl⟩ := h
  exact {
    executedAt := Label.of_required (P := Moment.IsDated) hms
      (fun _ _ _ ht => Decoder.isDated_moment ht) hexecuted
    vars := Label.of_optional (P := Members.AreProper) hms
      (fun _ _ hv h => Decoder.proper_dictionary hv h) Members.AreProper.nil hvars }

/-- What an execution is kept as can read as a playbook only under the id of the execution. -/
theorem id_of_decode {e : HistoryEntry} {p : Playbook} (h : Playbook.decode e.encode = .ok p) :
    p.id = e.id :=
  Playbook.id_of_decode rfl h

end HistoryEntry

end Scout
