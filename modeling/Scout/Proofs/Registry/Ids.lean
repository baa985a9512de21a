import Scout.Proofs.Registry.Beginnings

/-!
# Ids

An id is meant to be a name: letters, digits, hyphens and underscores.  The check also
accepts a name with a line feed behind it.  Whatever a request registers has passed the
check, so the ids of all playbooks that were not loaded from files are of these two kinds.
-/

namespace Scout

namespace Check

/-! ## Names -/

/-- An ASCII letter, a digit, a hyphen or an underscore. -/
def IsNameChar (c : Char) : Prop :=
  'A' ≤ c ∧ c ≤ 'Z' ∨ 'a' ≤ c ∧ c ≤ 'z' ∨ '0' ≤ c ∧ c ≤ '9' ∨ c = '-' ∨ c = '_'

/-- A text of such characters, at least one. -/
def IsName (s : String) : Prop :=
  s ≠ "" ∧ ∀ c ∈ s.toList, IsNameChar c

theorem isIdChar_iff {c : Char} : isIdChar c = true ↔ IsNameChar c := by
  simp only [isIdChar, Char.isAlphanum, Char.isAlpha, Char.isUpper, Char.isLower, Char.isDigit,
    IsNameChar, Bool.or_eq_true, Bool.and_eq_true, decide_eq_true_eq, beq_iff_eq, Char.le_def,
    ge_iff_le]
  tauto

theorem isName_iff {s : String} : IsName s ↔ s.toList ≠ [] ∧ s.toList.all isIdChar = true := by
  simp [IsName, isIdChar_iff]

theorem IsName.getLast?_ne {s : String} (h : IsName s) : s.toList.getLast? ≠ some '\n' := by
  intro last
  have feed := h.2 '\n' (List.mem_of_getLast? last)
  revert feed
  simp [IsNameChar]

theorem IsNameChar.code {c : Char} (h : IsNameChar c) :
    65 ≤ c.toNat ∧ c.toNat ≤ 90 ∨ 97 ≤ c.toNat ∧ c.toNat ≤ 122 ∨ 48 ≤ c.toNat ∧ c.toNat ≤ 57 ∨
      c.toNat = 45 ∨ c.toNat = 95 := by
  rcases h with h | h | h | rfl | rfl
  · exact .inl h
  · exact .inr (.inl h)
  · exact .inr (.inr (.inl h))
  · simp
  · simp

theorem isBlank_of_isNameChar {c : Char} (h : IsNameChar c) : Text.isBlank c = false := by
  have code := h.code
  simp [Text.isBlank, Text.isSpace]
  omega

/-! ## Ids that are accepted -/

/-- A name, or a name with a line feed behind it. -/
def IsAcceptable (id : String) : Prop :=
  ∃ name, IsName name ∧ (id = name ∨ id = name ++ "\n")

theorem IsAcceptable.isName_iff {id : String} (h : IsAcceptable id) :
    IsName id ↔ id.toList.getLast? ≠ some '\n' := by
  refine ⟨IsName.getLast?_ne, fun unended => ?_⟩
  obtain ⟨name, plain, rfl | rfl⟩ := h
  · exact plain
  · exact absurd (by simp) unended

theorem isId_iff {id : String} : isId id = true ↔ IsAcceptable id := by
  constructor
  · intro accepted
    dsimp only [isId] at accepted
    split at accepted
    · next feed =>
      rw [beq_iff_eq] at feed
      refine ⟨String.ofList id.toList.dropLast, isName_iff.2 (by simpa using accepted), .inr ?_⟩
      apply String.toList_injective
      rw [String.toList_append, String.toList_ofList]
      exact (List.dropLast_append_getLast? _ feed).symm
    · exact ⟨id, isName_iff.2 (by simpa using accepted), .inl rfl⟩
  · rintro ⟨name, plain, rfl | rfl⟩
    · have unended := plain.getLast?_ne
      simpa [isId, unended] using isName_iff.1 plain
    · simpa [isId] using isName_iff.1 plain

theorem IsAcceptable.isAllBlank_eq {id : String} (h : IsAcceptable id) :
    Text.isAllBlank id = false := by
  obtain ⟨name, ⟨nonempty, plain⟩, written⟩ := h
  obtain ⟨c, hc⟩ := List.exists_mem_of_ne_nil name.toList (by simpa using nonempty)
  have inside : c ∈ id.toList := by
    rcases written with rfl | rfl
    · exact hc
    · simp [hc]
  rw [Text.isAllBlank, List.all_eq_false]
  exact ⟨c, inside, by simp [isBlank_of_isNameChar (plain c hc)]⟩

theorem idFaults_eq_nil_iff {id : String} : idFaults id = [] ↔ IsAcceptable id := by
  rw [← isId_iff, idFaults]
  cases accepted : isId id
  · split <;> simp
  · simp [(isId_iff.1 accepted).isAllBlank_eq]

end Check

namespace Registry

open Check (IsAcceptable IsName)

variable {d d' : Desk} {q : Request} {p : Playbook}

/-! ## Playbooks that are accepted -/

/-- Whether a playbook was accepted: by the check, from a document that the check passed, or by a
request that registers it. -/
inductive Admitted (p : Playbook) : Prop
  | checked {maxDepth : Int} (valid : (p.check maxDepth).isValid = true)
  | document {maxDepth : Int} {v : Value} (reads : Playbook.decode v = .ok p)
      (valid : (checkDocument maxDepth v).isValid = true)
  | registered {q : Request} {d : Desk} (given : q.registers? d = some p)

theorem accepted_of_create {document : Value}
    (h : (finish (create document) d).1 = .ok p) : d.registry.accepted document = .ok p := by
  rw [finish_create] at h
  cases accepted : d.registry.accepted document with
  | error e => simp [accepted] at h
  | ok saved =>
    simp only [accepted] at h
    split at h
    · cases h
    · split at h <;> cases h
      rfl

theorem accepted_of_update {document : Value}
    (h : (finish (Registry.update document) d).1 = .ok p) :
    d.registry.accepted document = .ok p := by
  rw [finish_update_playbook] at h
  cases accepted : d.registry.accepted document with
  | error e => simp [accepted] at h
  | ok saved =>
    simp only [accepted] at h
    split at h
    · split at h <;> cases h
      rfl
    · cases h

/-- A playbook that a request registers was accepted, whichever way it was handed in. -/
theorem accepted_of_registers (given : q.registers? d = some p) :
    ∃ document, d.registry.accepted document = .ok p := by
  cases q with
  | create document => exact ⟨document, accepted_of_create (Library.toOption_eq_some.1 given)⟩
  | update document => exact ⟨document, accepted_of_update (Library.toOption_eq_some.1 given)⟩
  | fromTemplate template id overrides =>
    have given := Library.toOption_eq_some.1 given
    rw [finish_fromTemplate] at given
    split at given
    · exact ⟨_, accepted_of_create given⟩
    · cases given
  | importFrom path =>
    have given := Library.toOption_eq_some.1 given
    rw [finish_importFrom] at given
    split at given
    · exact ⟨_, accepted_of_create given⟩
    · cases given
    · cases given
  | delete id => cases given
  | execute id visit => cases given
  | record entry => cases given

theorem Admitted.passes (admitted : Admitted p) :
    ∃ maxDepth, (p.check maxDepth).isValid = true := by
  cases admitted with
  | @checked maxDepth valid => exact ⟨maxDepth, valid⟩
  | @document maxDepth v reads valid =>
    rw [checkDocument, reads] at valid
    exact ⟨maxDepth, valid⟩
  | @registered q d given =>
    obtain ⟨document, accepted⟩ := accepted_of_registers given
    obtain ⟨-, -, -, valid⟩ := of_accepted accepted
    exact ⟨_, valid⟩

/-- After any requests, an id is one of those from before or that of a playbook that was
admitted. -/
theorem admitted_afterAll {id : String} (qs : List Request)
    (known : (d.afterAll qs).registry.playbooks.contains id = true) :
    d.registry.playbooks.contains id = true ∨ ∃ p, Admitted p ∧ p.id = id := by
  induction qs using List.reverseRecOn with
  | nil => exact .inl known
  | append_singleton rest q ih =>
    rw [Desk.afterAll_append] at known
    have moves := q.moves (d.afterAll rest)
    have admitted (p : Playbook) (given : q.registers? (d.afterAll rest) = some p) : Admitted p :=
      .registered given
    generalize q.registers? (d.afterAll rest) = given at moves admitted
    generalize (q.after (d.afterAll rest)).registry = r at known moves
    cases moves with
    | stays => exact ih known
    | forgets i =>
      simp only [forget, Members.contains_erase, Bool.and_eq_true] at known
      exact ih known.2
    | enters e =>
      rw [playbooks_enter] at known
      exact ih known
    | @adopts p _ =>
      rw [playbooks_adopt, Members.contains_put, Bool.or_eq_true, decide_eq_true_eq] at known
      rcases known with rfl | known
      · exact .inr ⟨p, admitted p rfl, rfl⟩
      · exact ih known
    | @replaces p isKnown =>
      rw [contains_replace isKnown] at known
      exact ih known

/-- The check accepts the ids that are a name or a name with a line feed behind it, so every
playbook that is accepted or registered has such an id; it is a name exactly when no line feed
ends it. After any requests, an id that was not there before is the id of such a playbook. -/
theorem admitted_ids (d : Desk) (qs : List Request) :
    (∀ id, Check.idFaults id = [] ↔ IsAcceptable id) ∧
    (∀ p, Admitted p →
      IsAcceptable p.id ∧ (IsName p.id ↔ p.id.toList.getLast? ≠ some '\n')) ∧
    ∀ id, (d.afterAll qs).registry.playbooks.contains id = true →
      d.registry.playbooks.contains id = true ∨ ∃ p, Admitted p ∧ p.id = id := by
  refine ⟨fun id => Check.idFaults_eq_nil_iff, fun p admitted => ?_,
    fun id known => admitted_afterAll qs known⟩
  obtain ⟨maxDepth, valid⟩ := admitted.passes
  have acceptable := Check.isId_iff.1 (Check.isId_of_check valid)
  exact ⟨acceptable, acceptable.isName_iff⟩

def waitingAs (id : String) : Value :=
  .record [("id", .text id), ("name", .text "A"), ("version", .text "1.0.0"),
    ("author", .text "b"),
    ("actions", .list [.record [("id", .text "w"), ("type", .text "wait"), ("value", .int 1)]])]

theorem admitted_ids_waiting :
    ∃ p, (Request.create (waitingAs "a-1")).registers? firstDay = some p ∧ IsName p.id ∧
      (firstDay.afterAll [.create (waitingAs "a-1")]).registry.playbooks.contains "a-1" = true ∧
      (firstDay.registry.playbooks.contains "a-1" = true ∨ ∃ p, Admitted p ∧ p.id = "a-1") := by
  obtain ⟨-, ids, runs⟩ := admitted_ids firstDay [.create (waitingAs "a-1")]
  obtain ⟨p, given, hid⟩ := Option.map_eq_some_iff.1
    (show ((Request.create (waitingAs "a-1")).registers? firstDay).map Playbook.id = some "a-1" by
      decide +kernel)
  have unended : p.id.toList.getLast? ≠ some '\n' := by
    rw [hid]
    decide
  have registered :
      (firstDay.afterAll [.create (waitingAs "a-1")]).registry.playbooks.contains "a-1" = true := by
    decide +kernel
  exact ⟨p, given, (ids p (.registered given)).2.2 unended, registered, runs "a-1" registered⟩

/-- Not every playbook that a request registers has a name as its id: a line feed may end it. -/
theorem line_feed_ends_id :
    ¬ ∀ (q : Request) (d : Desk) (p : Playbook), q.registers? d = some p → IsName p.id := by
  intro claim
  obtain ⟨p, given, hid⟩ := Option.map_eq_some_iff.1
    (show ((Request.create (waitingAs "a\n")).registers? firstDay).map Playbook.id = some "a\n" by
      decide +kernel)
  exact (claim _ _ p given).getLast?_ne (by rw [hid]; decide)

end Registry

end Scout
