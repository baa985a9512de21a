import Scout.Proofs.Library.Stored

/-!
# Records that are asked for

Somebody who asks for the record in a file may be kept from it: the path leads to no file, the file
holds no text, the text is no document, or the document is no record.  Some of these hindrances are
told as a refusal of what was asked; the others come out as the faults that they are.
-/

namespace Scout

namespace Library

open Files (Tree)

variable {t : Tree} {path name : String} {shapeless : Refusal}

/-- What keeps somebody from the record in a file. -/
inductive Hindrance where
  | unreachable (e : Files.Fault)
  | undecodable (e : Files.EncodingFault)
  | malformed (message : String)
  | notRecord

def valueIn (c : Files.Content) : Except Hindrance Value :=
  match c.read with
  | .error e => .error (.undecodable e)
  | .ok text => (Json.parse text).mapError fun e => .malformed (e.describe text.toList)

def recordOf : Value → Except Hindrance (Members Value)
  | .record ms => .ok ms
  | _ => .error .notRecord

def valueAt (t : Tree) (path : String) : Except Hindrance Value :=
  match t.content path with
  | .error e => .error (.unreachable e)
  | .ok c => valueIn c

def recordAt (t : Tree) (path : String) : Except Hindrance (Members Value) :=
  valueAt t path >>= recordOf

namespace Hindrance

/-- The fault that a hindrance comes out as; `shapeless` is how it is told that there is no
record. -/
def fault (path : String) (shapeless : Refusal) : Hindrance → Fault
  | .unreachable ⟨.missing, _⟩ => .refused (.missing (Files.normal path))
  | .unreachable e => .file e
  | .undecodable e => .encoding e
  | .malformed message => .refused (.malformed (Files.normal path) message)
  | .notRecord => .refused shapeless

/-- Whether a hindrance is told as a refusal. -/
def isTold : Hindrance → Bool
  | .unreachable e => e.cause = .missing
  | .undecodable _ => false
  | .malformed _ | .notRecord => true

theorem fault_of_isTold {h : Hindrance} (told : h.isTold = true) :
    ∃ r, h.fault path shapeless = .refused r := by
  cases h with
  | unreachable e =>
    obtain ⟨cause, at_⟩ := e
    have missing : cause = .missing := by simpa [isTold] using told
    exact ⟨_, by rw [missing, fault]⟩
  | undecodable e => cases told
  | malformed message => exact ⟨_, rfl⟩
  | notRecord => exact ⟨_, rfl⟩

/-- A hindrance that is not told comes out as the fault of the file system or of the text. -/
theorem fault_of_not_isTold {h : Hindrance} (untold : h.isTold = false) :
    (∃ e, h = .unreachable e ∧ e.cause ≠ .missing ∧ h.fault path shapeless = .file e) ∨
      ∃ e, h = .undecodable e ∧ h.fault path shapeless = .encoding e := by
  cases h with
  | unreachable e =>
    have found : e.cause ≠ .missing := by simpa [isTold] using untold
    obtain ⟨cause, at_⟩ := e
    refine .inl ⟨_, rfl, found, ?_⟩
    cases cause <;> first | rfl | exact absurd rfl found
  | undecodable e => exact .inr ⟨e, rfl, rfl⟩
  | malformed message => cases untold
  | notRecord => cases untold

end Hindrance

/-! ## What is read -/

/-- Reading a document that is asked for gives its value, or what its hindrance comes out as. -/
theorem readDocument_eq (t : Tree) (path : String) (shapeless : Refusal) :
    readDocument t path = (valueAt t path).mapError (Hindrance.fault path shapeless) := by
  unfold readDocument readValue valueAt valueIn
  cases hc : t.content path with
  | error e =>
    obtain ⟨cause, at_⟩ := e
    cases cause <;> rfl
  | ok c =>
    cases hr : c.read with
    | error e => simp [hr, Except.mapError, bind, Except.bind, Hindrance.fault]
    | ok text =>
      cases hp : Json.parse text <;>
        simp [hr, hp, Except.mapError, bind, Except.bind, Hindrance.fault]

theorem loadTemplate_eq {l : Library} (accepted : isTemplateName name = true) :
    l.loadTemplate t name = (recordAt t (documentPath l.templates name)).mapError
      (Hindrance.fault (documentPath l.templates name) (.templateNotRecord name)) := by
  unfold loadTemplate recordAt
  rw [accepted, readDocument_eq t _ (.templateNotRecord name)]
  cases valueAt t (documentPath l.templates name) with
  | error h => rfl
  | ok v => cases v <;> rfl

theorem loadTemplate_of_not_accepted {l : Library} (h : isTemplateName name = false) :
    l.loadTemplate t name = .error (.refused (.badTemplateName name)) := by
  rw [loadTemplate, h]
  rfl

/-- No hindrance of a file comes out as if the name of the template were not accepted. -/
theorem loadTemplate_bad_iff {l : Library} :
    l.loadTemplate t name = .error (.refused (.badTemplateName name)) ↔
      isTemplateName name = false := by
  refine ⟨fun h => ?_, loadTemplate_of_not_accepted⟩
  by_contra accepted
  rw [loadTemplate_eq (Bool.eq_true_of_not_eq_false accepted)] at h
  cases hr : recordAt t (documentPath l.templates name) with
  | ok ms => rw [hr] at h; cases h
  | error e =>
    rw [hr] at h
    have out := Except.error.inj h
    cases e with
    | unreachable e =>
      obtain ⟨cause, at_⟩ := e
      cases cause <;> cases out
    | undecodable e => cases out
    | malformed message => cases out
    | notRecord => cases out

end Library

end Scout
