import Scout.Proofs.Document.Decoding
import Scout.Proofs.Json.Reading
import Scout.Proofs.Settings.Layering

/-!
# How settings are read

A section is read of what is given over its own variables.  Members are read one by one: what one
comes to does not depend on the others.
-/

namespace Scout.Settings

open Json (bind_eq_ok)

/-! ## Sections -/

/-- What a section is read of: what is given over its own variables. -/
def raws (own : Members Value) : Option Value → Members Value
  | some (.record given) => deepMembers own given
  | _ => own

theorem find?_raws (own : Members Value) {cell : Option Value} (distinct : IsDistinct cell)
    (key : String) : ((raws own cell).find? key).map surface =
      ((inside? cell key).or (own.find? key)).map surface := by
  unfold raws inside?
  split
  · next given =>
    rw [find?_deepMembers own (distinct given rfl)]
    exact surface_laid deeply_eq _ _
  · next noSection =>
    split
    · next given => exact absurd rfl (noSection given)
    · rfl

section Sections

variable {α : Type} {sec : Section α} {own : Own} {ms : Members Value} {a : α}

theorem sectionIn_eq_ok (h : sectionIn sec own ms = .ok (.ok a)) :
    yields (ms.find? sec.name) = true ∧ ∃ mine, own sec.name sec.known = .ok mine ∧
      sec.read (raws mine (ms.find? sec.name)) = .ok a := by
  unfold sectionIn at h
  split at h
  · next v held =>
    have decoded := Decoded.under_eq_ok.1 (Except.ok.inj h)
    unfold Section.decode Decoder.model at decoded
    split at decoded
    · next given =>
      split at decoded
      · next mine found => exact ⟨by rw [held]; rfl, mine, found, by rw [held]; exact decoded⟩
      · cases decoded
    · cases decoded
  · next absent =>
    rcases found : own sec.name sec.known with _ | mine
    · rw [found] at h
      cases h
    · refine ⟨by rw [absent]; rfl, mine, rfl, ?_⟩
      rw [found] at h
      unfold Section.alone at h
      simp only [bind, Except.bind] at h
      rw [absent]
      cases read : sec.read mine with
      | ok b =>
        rw [read] at h
        cases h
        exact read
      | invalid issues =>
        rw [read] at h
        cases h

end Sections

/-! ### Members one by one -/

section Members

variable {α : Type} {d : Decoder α} {fallback a a' : α} {ms ms' : Members Value} {key : String}

theorem optional_unique (h : (member key).optional d fallback ms = .ok a)
    (h' : (member key).optional d fallback ms' = .ok a') (same : ms.find? key = ms'.find? key) :
    a = a' := by
  have alike : (member key).optional d fallback ms = (member key).optional d fallback ms' := by
    simp only [Label.optional, Label.member?, member, Label.plain, same]
  exact Decoded.ok.inj (h.symm.trans (alike.trans h'))

end Members

/-- Whether every member of a section is read of the member of its name, whatever the others are. -/
def IsMemberwise {α : Type} (sec : Section α) (encode : α → Value) : Prop :=
  ∀ ms ms' a a', sec.read ms = .ok a → sec.read ms' = .ok a' → ∀ key ∈ sec.known,
    Members.find? ms key = Members.find? ms' key →
      inside? (some (encode a)) key = inside? (some (encode a')) key

open Decoder in
theorem of_read_browser {ms : Members Value} {b : Browser} (h : browserSection.read ms = .ok b) :
    (member "headless").optional bool true ms = .ok b.headless ∧
    (member "timeout_ms").optional integer 30000 ms = .ok b.timeout ∧
    (member "user_agent").optional text "" ms = .ok b.userAgent := by
  simp only [Section.read, browserSection, Decoded.seq_eq_ok, Decoded.map_eq_ok] at h
  obtain ⟨_, _, ⟨_, ⟨_, _, ⟨_, _, ⟨_, h₁, rfl⟩, h₂, rfl⟩, h₃, rfl⟩, rfl⟩, -, rfl⟩ := h
  exact ⟨h₁, h₂, h₃⟩

theorem memberwise_browser : IsMemberwise browserSection Browser.encode := by
  intro ms ms' a a' read read' key mem same
  obtain ⟨h₁, h₂, h₃⟩ := of_read_browser read
  obtain ⟨h₁', h₂', h₃'⟩ := of_read_browser read'
  simp only [browserSection, List.mem_cons, List.not_mem_nil, or_false] at mem
  rcases mem with rfl | rfl | rfl
  · exact congrArg (fun x => some (Value.bool x)) (optional_unique h₁ h₁' same)
  · exact congrArg (fun x => some (Value.int x)) (optional_unique h₂ h₂' same)
  · exact congrArg (fun x => some (Value.text x)) (optional_unique h₃ h₃' same)

open Decoder in
theorem of_read_playbooks {ms : Members Value} {p : Playbooks}
    (h : playbookSection.read ms = .ok p) :
    (member "definitions_dir").optional text "config/playbooks/definitions" ms =
      .ok p.definitionsDir ∧
    (member "templates_dir").optional text "config/playbooks/templates" ms = .ok p.templatesDir ∧
    (member "history_dir").optional text "data/playbooks/history" ms = .ok p.historyDir ∧
    (member "screenshot_dir").optional text "data/screenshots" ms = .ok p.screenshotDir ∧
    (member "navigation_timeout_ms").optional (integerFrom 0) 30000 ms = .ok p.navigationTimeout ∧
    (member "element_timeout_ms").optional (integerFrom 0) 10000 ms = .ok p.elementTimeout ∧
    (member "max_action_depth").optional (integerFrom 1) 8 ms = .ok p.maxDepth ∧
    (member "max_run_duration_sec").optional floatFromZero 0.0 ms = .ok p.budget := by
  simp only [Section.read, playbookSection, Decoded.seq_eq_ok, Decoded.map_eq_ok] at h
  obtain ⟨_, _, ⟨_, ⟨_, _, ⟨_, _, ⟨_, _, ⟨_, _, ⟨_, _, ⟨_, _, ⟨_, _, ⟨_, h₁, rfl⟩, h₂, rfl⟩,
    h₃, rfl⟩, h₄, rfl⟩, h₅, rfl⟩, h₆, rfl⟩, h₇, rfl⟩, h₈, rfl⟩, rfl⟩, -, rfl⟩ := h
  exact ⟨h₁, h₂, h₃, h₄, h₅, h₆, h₇, h₈⟩

theorem memberwise_playbooks : IsMemberwise playbookSection Playbooks.encode := by
  intro ms ms' a a' read read' key mem same
  obtain ⟨h₁, h₂, h₃, h₄, h₅, h₆, h₇, h₈⟩ := of_read_playbooks read
  obtain ⟨h₁', h₂', h₃', h₄', h₅', h₆', h₇', h₈'⟩ := of_read_playbooks read'
  simp only [playbookSection, List.mem_cons, List.not_mem_nil, or_false] at mem
  rcases mem with rfl | rfl | rfl | rfl | rfl | rfl | rfl | rfl
  · exact congrArg (fun x => some (Value.text x)) (optional_unique h₁ h₁' same)
  · exact congrArg (fun x => some (Value.text x)) (optional_unique h₂ h₂' same)
  · exact congrArg (fun x => some (Value.text x)) (optional_unique h₃ h₃' same)
  · exact congrArg (fun x => some (Value.text x)) (optional_unique h₄ h₄' same)
  · exact congrArg (fun x => some (Value.int x)) (optional_unique h₅ h₅' same)
  · exact congrArg (fun x => some (Value.int x)) (optional_unique h₆ h₆' same)
  · exact congrArg (fun x => some (Value.int x)) (optional_unique h₇ h₇' same)
  · exact congrArg (fun x => some (Value.float x)) (optional_unique h₈ h₈' same)

open Decoder in
theorem of_read_service {ms : Members Value} {s : Service} (h : serviceSection.read ms = .ok s) :
    (member "host").optional text "0.0.0.0" ms = .ok s.host ∧
    (member "port").optional integer 8200 ms = .ok s.port ∧
    (member "cors_origins").optional (list text)
      ["http://localhost:3000", "http://localhost:5173"] ms = .ok s.origins := by
  simp only [Section.read, serviceSection, Decoded.seq_eq_ok, Decoded.map_eq_ok] at h
  obtain ⟨_, _, ⟨_, ⟨_, _, ⟨_, _, ⟨_, h₁, rfl⟩, h₂, rfl⟩, h₃, rfl⟩, rfl⟩, -, rfl⟩ := h
  exact ⟨h₁, h₂, h₃⟩

theorem memberwise_service : IsMemberwise serviceSection Service.encode := by
  intro ms ms' a a' read read' key mem same
  obtain ⟨h₁, h₂, h₃⟩ := of_read_service read
  obtain ⟨h₁', h₂', h₃'⟩ := of_read_service read'
  simp only [serviceSection, List.mem_cons, List.not_mem_nil, or_false] at mem
  rcases mem with rfl | rfl | rfl
  · exact congrArg (fun x => some (Value.text x)) (optional_unique h₁ h₁' same)
  · exact congrArg (fun x => some (Value.int x)) (optional_unique h₂ h₂' same)
  · exact congrArg (fun x => some (Value.texts x)) (optional_unique h₃ h₃' same)

/-! ## Settings as a whole -/

open Decoder in
theorem decodeFields_eq_ok {own : Own} {ms : Members Value} {s : Settings}
    (h : decodeFields own ms = .ok (.ok s)) :
    (member "env").optional text "local" ms = .ok s.environment ∧
    (member "project_root").optional filePath "." ms = .ok s.projectRoot ∧
    (member "debug").optional bool false ms = .ok s.debug ∧
    (member "log_level").optional text "INFO" ms = .ok s.logLevel ∧
    (member "log_format").optional text "text" ms = .ok s.logFormat ∧
    sectionIn browserSection own ms = .ok (.ok s.browser) ∧
    (∃ p, sectionIn playbookSection own ms = .ok (.ok p) ∧
      s.playbooks = p.placedUnder s.projectRoot) ∧
    sectionIn serviceSection own ms = .ok (.ok s.service) := by
  unfold decodeFields at h
  obtain ⟨b, hb, h⟩ := bind_eq_ok h
  obtain ⟨p, hp, h⟩ := bind_eq_ok h
  obtain ⟨a, ha, h⟩ := bind_eq_ok h
  have read := Except.ok.inj h
  simp only [Decoded.seq_eq_ok, Decoded.map_eq_ok] at read
  obtain ⟨_, _, ⟨_, _, ⟨_, _, ⟨_, _, ⟨_, _, ⟨_, _, ⟨_, _, ⟨_, h₁, rfl⟩, h₂, rfl⟩, h₃, rfl⟩,
    h₄, rfl⟩, h₅, rfl⟩, rfl, rfl⟩, rfl, rfl⟩, rfl, rfl⟩ := read
  exact ⟨h₁, h₂, h₃, h₄, h₅, hb, ⟨_, hp, rfl⟩, ha⟩

theorem plain_memberwise {own own' : Own} {ms ms' : Members Value} {s s' : Settings}
    (h : decodeFields own ms = .ok (.ok s)) (h' : decodeFields own' ms' = .ok (.ok s'))
    {key : String} (mem : key ∈ plainFields) (same : ms.find? key = ms'.find? key) :
    inside? (some s.encode) key = inside? (some s'.encode) key := by
  obtain ⟨h₁, h₂, h₃, h₄, h₅, -⟩ := decodeFields_eq_ok h
  obtain ⟨h₁', h₂', h₃', h₄', h₅', -⟩ := decodeFields_eq_ok h'
  simp only [plainFields, List.mem_cons, List.not_mem_nil, or_false] at mem
  rcases mem with rfl | rfl | rfl | rfl | rfl
  · exact congrArg (fun x => some (Value.text x)) (optional_unique h₁ h₁' same)
  · exact congrArg (fun x => some (Value.text x)) (optional_unique h₂ h₂' same)
  · exact congrArg (fun x => some (Value.bool x)) (optional_unique h₃ h₃' same)
  · exact congrArg (fun x => some (Value.text x)) (optional_unique h₄ h₄' same)
  · exact congrArg (fun x => some (Value.text x)) (optional_unique h₅ h₅' same)

end Scout.Settings
