import Scout.Document.Decoded
import Scout.Document.Report
import Scout.Proofs.Moment.Texts
import Scout.Proofs.Values

/-!
# Decoders that invert writing

A value is *kept* by a decoder and a writer when its document form has distinct
names and is read as the value.  The decoders of single members keep every value
that they can give.
-/

namespace Scout

/-! ## What reading something means for its parts -/

namespace Decoded

variable {α β : Type}

theorem map_eq_ok {f : α → β} {d : Decoded α} {b : β} :
    f <$> d = .ok b ↔ ∃ a, d = .ok a ∧ f a = b := by
  cases d with
  | ok a => simp
  | invalid issues =>
    have h : f <$> (invalid issues : Decoded α) = .invalid issues := rfl
    simp [h]

theorem seq_eq_ok {f : Decoded (α → β)} {d : Decoded α} {b : β} :
    f <*> d = .ok b ↔ ∃ g a, f = .ok g ∧ d = .ok a ∧ g a = b := by
  cases f with
  | ok g =>
    cases d with
    | ok a => simp
    | invalid issues =>
      have h : (ok g <*> invalid issues : Decoded β) = .invalid issues := rfl
      simp [h]
  | invalid issues =>
    cases d with
    | ok a =>
      have h : (invalid issues <*> ok a : Decoded β) = .invalid issues := rfl
      simp [h]
    | invalid more =>
      have h : (invalid issues <*> (invalid more : Decoded α) : Decoded β) =
          .invalid (issues ++ more) := rfl
      simp [h]

@[simp] theorem under_eq_ok {name : String} {d : Decoded α} {a : α} :
    under name d = .ok a ↔ d = .ok a := by
  cases d <;> simp [under]

end Decoded

namespace Label

variable {α : Type} {l : Label} {d : Decoder α} {ms : Members Value} {v : Value} {a : α}

theorem proper_member? (hms : ms.AreProper) (h : l.member? ms = some v) : v.isProper = true := by
  unfold member? at h
  split at h
  · next hcamel =>
    cases h
    exact hms.find? hcamel
  · exact hms.find? h

theorem of_optional {P : α → Prop} {fallback : α} (hms : ms.AreProper)
    (read : ∀ v a, v.isProper = true → d v = .ok a → P a) (missing : P fallback)
    (h : l.optional d fallback ms = .ok a) : P a := by
  unfold optional at h
  split at h
  · next v hv => exact read v a (proper_member? hms hv) (Decoded.under_eq_ok.1 h)
  · cases h
    exact missing

theorem of_required {P : α → Prop} (hms : ms.AreProper)
    (read : ∀ v a, v.isProper = true → d v = .ok a → P a) (h : l.required d ms = .ok a) : P a := by
  unfold required at h
  split at h
  · next v hv => exact read v a (proper_member? hms hv) (Decoded.under_eq_ok.1 h)
  · cases h

theorem optional_eq {fallback : α} (hv : l.member? ms = some v) (h : d v = .ok a) :
    l.optional d fallback ms = .ok a := by
  rw [optional, hv]
  simp [h]

theorem required_eq (hv : l.member? ms = some v) (h : d v = .ok a) :
    l.required d ms = .ok a := by
  rw [required, hv]
  simp [h]

end Label

/-! ## Kept values -/

namespace Decoder

variable {α : Type} {d : Decoder α} {write : α → Value}

/-- The document form of a value has distinct names and is read as the value. -/
structure Keeps (d : Decoder α) (write : α → Value) (a : α) : Prop where
  proper : (write a).isProper = true
  reads : d (write a) = .ok a

theorem keeps_text (s : String) : text.Keeps .text s :=
  ⟨rfl, rfl⟩

theorem keeps_integer (n : Int) : integer.Keeps .int n :=
  ⟨rfl, rfl⟩

theorem keeps_float (x : Float) : float.Keeps .float x :=
  ⟨rfl, rfl⟩

theorem keeps_bool (b : Bool) : bool.Keeps .bool b :=
  ⟨rfl, rfl⟩

theorem keeps_scalar (s : Scalar) : scalar.Keeps Scalar.toValue s := by
  cases s <;> exact ⟨rfl, rfl⟩

theorem keeps_moment {m : Moment} (h : m.IsDated) : moment.Keeps (fun m => .text m.toText) m :=
  ⟨rfl, by rw [moment, Moment.ofDocumentText_toText h]⟩

theorem keeps_oneOf {all : List α} {word : α → String} {a : α}
    (h : all.find? (fun b => word b == word a) = some a) :
    (oneOf all word).Keeps (fun a => .text (word a)) a :=
  ⟨rfl, by simp [oneOf, h]⟩

/-- A missing part is written as null, which no part that is there is written as. -/
theorem keeps_nullable {write? : Option α → Value} (none? : write? none = .null)
    (some? : ∀ a, write? (some a) = write a) {o : Option α} (h : ∀ a, o = some a → d.Keeps write a)
    (isPresent : ∀ a, o = some a → write a ≠ .null) : (nullable d).Keeps write? o := by
  cases o with
  | none => exact ⟨by rw [none?]; rfl, by rw [none?]; rfl⟩
  | some a =>
    refine ⟨by rw [some?, (h a rfl).proper], ?_⟩
    have hread := (h a rfl).reads
    have hpresent := isPresent a rfl
    rw [some?]
    cases hw : write a with
    | null => exact absurd hw hpresent
    | _ =>
      rw [hw] at hread
      simp [nullable, hread]

theorem keeps_text? (o : Option String) : (nullable text).Keeps .ofText? o :=
  keeps_nullable rfl (fun _ => rfl) (fun s _ => keeps_text s) (by simp [Value.ofText?])

theorem keeps_integer? (o : Option Int) : (nullable integer).Keeps .ofInt? o :=
  keeps_nullable rfl (fun _ => rfl) (fun n _ => keeps_integer n) (by simp [Value.ofInt?])

theorem keeps_scalar? (o : Option Scalar) : (nullable scalar).Keeps .ofScalar? o :=
  keeps_nullable rfl (fun _ => rfl) (fun s _ => keeps_scalar s)
    (by rintro (_ | _ | _ | _) - <;> simp [Value.ofScalar?, Scalar.toValue])

theorem items_map {as : List α} (h : ∀ a ∈ as, d.Keeps write a) (i : Nat) :
    items d i (as.map write) = .ok as := by
  induction as generalizing i with
  | nil => rfl
  | cons a rest ih =>
    rw [List.map_cons, items, (h a List.mem_cons_self).reads,
      ih fun b hb => h b (List.mem_cons_of_mem a hb)]
    rfl

theorem keeps_list {as : List α} (h : ∀ a ∈ as, d.Keeps write a) :
    (list d).Keeps (fun as => .list (as.map write)) as := by
  refine ⟨?_, items_map h 0⟩
  rw [Value.isProper_list]
  intro v hv
  obtain ⟨a, ha, rfl⟩ := List.mem_map.1 hv
  exact (h a ha).proper

theorem keeps_texts (ss : List String) : (list text).Keeps Value.texts ss :=
  keeps_list fun s _ => keeps_text s

theorem entries_text (ms : Members String) :
    entries text (ms.mapValues Value.text) = .ok ms := by
  induction ms with
  | nil => rfl
  | cons m rest ih =>
    unfold Members.mapValues at ih ⊢
    rw [List.map_cons, entries, ih]
    rfl

theorem entries_any (ms : Members Value) : entries any ms = .ok ms := by
  induction ms with
  | nil => rfl
  | cons m rest ih =>
    obtain ⟨k, v⟩ := m
    rw [entries, ih]
    rfl

theorem keeps_dictionary {ms : Members Value} (h : ms.AreProper) :
    (dictionary any).Keeps .record ms :=
  ⟨Value.isProper_record.2 h, entries_any ms⟩

/-! ## Read values -/

theorem of_nullable {P : α → Prop} (read : ∀ v a, v.isProper = true → d v = .ok a → P a)
    {v : Value} {o : Option α} (hv : v.isProper = true) (h : nullable d v = .ok o) :
    ∀ a, o = some a → P a := by
  intro a ha
  subst ha
  unfold nullable at h
  split at h
  · cases h
  · obtain ⟨b, hb, hs⟩ := Decoded.map_eq_ok.1 h
    cases hs
    exact read v a hv hb

theorem of_items {P : α → Prop} (read : ∀ v a, v.isProper = true → d v = .ok a → P a)
    {vs : List Value} {i : Nat} {as : List α} (hvs : ∀ v ∈ vs, v.isProper = true)
    (h : items d i vs = .ok as) : ∀ a ∈ as, P a := by
  induction vs generalizing i as with
  | nil =>
    cases h
    simp
  | cons v rest ih =>
    rw [items] at h
    obtain ⟨g, xs, hg, hxs, rfl⟩ := Decoded.seq_eq_ok.1 h
    obtain ⟨x, hx, rfl⟩ := Decoded.map_eq_ok.1 hg
    obtain ⟨hproper, hrest⟩ := List.forall_mem_cons.1 hvs
    exact List.forall_mem_cons.2
      ⟨read v x hproper (Decoded.under_eq_ok.1 hx), ih hrest hxs⟩

theorem of_list {P : α → Prop} (read : ∀ v a, v.isProper = true → d v = .ok a → P a)
    {v : Value} {as : List α} (hv : v.isProper = true) (h : list d v = .ok as) :
    ∀ a ∈ as, P a := by
  unfold list at h
  split at h
  · exact of_items read (Value.isProper_list.1 hv) h
  · cases h

theorem proper_dictionary {v : Value} {ms : Members Value} (hv : v.isProper = true)
    (h : dictionary any v = .ok ms) : ms.AreProper := by
  unfold dictionary at h
  split at h
  · rw [entries_any] at h
    cases h
    exact Value.isProper_record.1 hv
  · cases h

theorem isDated_moment {v : Value} {m : Moment} (h : moment v = .ok m) : m.IsDated := by
  unfold moment at h
  split at h
  · split at h
    · next hm =>
      cases h
      exact Moment.isDated_ofDocumentText hm
    · cases h
  · dsimp only at h
    split at h
    · next hm =>
      cases h
      split at hm
      · exact Moment.isDated_ofTimestamp hm
      · exact Moment.isDated_ofFloatStamp hm
    · cases h
  · split at h
    · next hm =>
      cases h
      exact Moment.isDated_ofFloatStamp hm
    · cases h
  · cases h

theorem of_model {P : α → Prop} {name : String} {fields : Members Value → Decoded α}
    (read : ∀ ms a, ms.AreProper → fields ms = .ok a → P a) {v : Value} {a : α}
    (hv : v.isProper = true) (h : model name fields v = .ok a) : P a := by
  unfold model at h
  split at h
  · exact read _ a (Value.isProper_record.1 hv) h
  · cases h

end Decoder

/-! ## Elements -/

namespace Snapshot

theorem decode_encode (x : Snapshot) : decode x.encode = .ok x := by
  have attributes : Decoder.dictionary Decoder.text (.record (x.attributes.mapValues .text)) =
      .ok x.attributes := Decoder.entries_text x.attributes
  rw [encode, decode, Decoder.model, decodeFields,
    Label.optional_eq (by rfl) (Decoder.keeps_text x.text).reads,
    Label.optional_eq (by rfl) (Decoder.keeps_text x.markup).reads,
    Label.optional_eq (by rfl) attributes]
  rfl

theorem items_encode (found : List Snapshot) (i : Nat) :
    Decoder.items decode i (found.map encode) = .ok found := by
  induction found generalizing i with
  | nil => rfl
  | cons x rest ih =>
    rw [List.map_cons, Decoder.items, decode_encode, ih]
    rfl

end Snapshot

end Scout
