import Scout.Proofs.Json.Numbers
import Scout.Proofs.Json.Texts
import Scout.Proofs.Values

/-!
# Documents read back

The reader inverts the indented form of every value with distinct names.  A
value is read up to a character that can close it, with twice as much fuel as
its text is long.
-/

namespace Scout.Json

/-! ## Blanks -/

/-- A character that a value or a member can begin with. -/
def Begins (c : Char) : Prop :=
  Cursor.isSeparator c = false ∧ c ≠ ']' ∧ c ≠ '\x7d'

def marginChars (depth : Nat) : List Char :=
  '\n' :: List.replicate (2 * depth) ' '

theorem margin_toList (depth : Nat) : (margin depth).toList = marginChars depth := by
  simp [margin, marginChars]

theorem skip_blanks {blanks : List Char} (hb : ∀ c ∈ blanks, Cursor.isSeparator c = true) {c : Char}
    (hc : Cursor.isSeparator c = false) (rest : List Char) (position : Nat) :
    (Cursor.mk (blanks ++ c :: rest) position).skip = ⟨c :: rest, position + blanks.length⟩ := by
  have htake : (blanks ++ c :: rest).takeWhile Cursor.isSeparator = blanks := by
    rw [List.takeWhile_append_of_pos hb, List.takeWhile_cons_of_neg (by simp [hc]), List.append_nil]
  simp [Cursor.skip, Cursor.advance, htake]

theorem separator_margin (depth : Nat) :
    ∀ c ∈ marginChars depth, Cursor.isSeparator c = true := by
  intro c hc
  rcases List.mem_cons.1 hc with rfl | hc
  · rfl
  · rw [List.eq_of_mem_replicate hc]
    rfl

theorem skip_margin (depth : Nat) {c : Char} (hc : Cursor.isSeparator c = false)
    (rest : List Char) (position : Nat) :
    ∃ p, (Cursor.mk (marginChars depth ++ c :: rest) position).skip = ⟨c :: rest, p⟩ :=
  ⟨_, skip_blanks (separator_margin depth) hc rest position⟩

theorem skip_none {c : Char} (hc : Cursor.isSeparator c = false) (rest : List Char)
    (position : Nat) : (Cursor.mk (c :: rest) position).skip = ⟨c :: rest, position⟩ :=
  @skip_blanks [] (by simp) c hc rest position

theorem closes_margin (depth : Nat) (tail : List Char) : Closes (marginChars depth ++ tail) := by
  intro c hc
  obtain rfl : '\n' = c := by simpa [marginChars] using hc
  exact .inr rfl

theorem closes_comma (tail : List Char) : Closes (',' :: tail) := by
  intro c hc
  obtain rfl : ',' = c := by simpa using hc
  exact .inl rfl

/-! ## Parts between brackets -/

/-- The parts of a list or of a record with what stands between them, up to the closing bracket. -/
def partsChars (closing : Char) (depth : Nat) : List (List Char) → List Char
  | [] => []
  | [part] => part ++ (marginChars depth ++ [closing])
  | part :: rest => part ++ (',' :: (marginChars (depth + 1) ++ partsChars closing depth rest))

theorem bracketed_toList {opening closing : Char} {depth : Nat} {parts : List String}
    (h : parts ≠ []) :
    (bracketed opening closing depth parts).toList =
      opening :: (marginChars (depth + 1) ++
        partsChars closing depth (parts.map String.toList)) := by
  have hparts (parts : List String) (h : parts ≠ []) :
      (("," ++ margin (depth + 1)).intercalate parts).toList ++ (marginChars depth ++ [closing]) =
        partsChars closing depth (parts.map String.toList) := by
    induction parts with
    | nil => exact absurd rfl h
    | cons part rest ih =>
      cases rest with
      | nil => simp [partsChars]
      | cons next rest =>
        rw [String.intercalate_cons_cons]
        simp only [List.map_cons] at ih ⊢
        rw [partsChars, ← ih (by simp)]
        · simp [margin_toList]
        · simp
  rw [bracketed, if_neg (by simpa using h)]
  simp [Char.toString, margin_toList, ← hparts parts h]

theorem partsChars_cons {closing : Char} {depth : Nat} {c : Char} {cs : List Char}
    (more : List (List Char)) :
    ∃ tail, partsChars closing depth ((c :: cs) :: more) = c :: tail := by
  cases more with
  | nil => exact ⟨_, rfl⟩
  | cons part more => exact ⟨_, rfl⟩

/-! ## Values without parts -/

/-- The characters of a value that stands at a depth. -/
def chars (v : Value) (depth : Nat) : List Char :=
  (indented true v depth).toList

/-- Reading takes the text of a value off and leaves what follows it. -/
def ReadsBack (v : Value) (text : List Char) (fuel : Nat) : Prop :=
  ∀ rest position, Closes rest →
    ∃ p, readValue fuel ⟨text ++ rest, position⟩ = .ok (v, ⟨rest, p⟩)

theorem readsBack_number {v : Value} {text : List Char} {fuel : Nat}
    (hb : ∀ rest, BeginsNumber (text ++ rest))
    (hn : ∀ rest, Closes rest → readNumber? (text ++ rest) = some (v, text.length)) :
    ReadsBack v text (fuel + 1) := by
  intro rest position hr
  rw [readValue_number (hb rest) (hn rest hr)]
  simp [Cursor.advance]

theorem readsBack_text (s : String) {fuel : Nat} (hf : s.toList.length < fuel) :
    ReadsBack (.text s) (writeText true s).toList (fuel + 1) := by
  intro rest position hr
  rw [writeText_toList, readValue]
  simp only [List.cons_append, List.append_assoc, List.nil_append]
  have htext : readText position fuel ⟨escaped true s.toList ++ '"' :: rest, position + 1⟩ [] = _ :=
    readText_escaped true s.toList rest [] hf
  simp [Cursor.advance, htext, bind, Except.bind, pure, Except.pure]

theorem readsBack_literal {v : Value} {word : String} (h : (word, v) ∈ literals) {fuel : Nat} :
    ReadsBack v word.toList (fuel + 1) := by
  intro rest position hr
  rw [readValue]
  simp only [literals, List.mem_cons, List.not_mem_nil, or_false, Prod.mk.injEq] at h
  rcases h with ⟨rfl, rfl⟩ | ⟨rfl, rfl⟩ | ⟨rfl, rfl⟩ | ⟨rfl, rfl⟩ | ⟨rfl, rfl⟩ | ⟨rfl, rfl⟩ <;>
    simp [literals, Cursor.startsWith, Cursor.advance, List.isPrefixOf] <;>
    rfl

theorem readsBack_float (x : Float) (fuel : Nat) :
    ReadsBack (.float x) (writeFloat x).toList (fuel + 1) := by
  rw [writeFloat]
  cases hx : Decimal.FloatForm.of x with
  | nan =>
    rw [Decimal.of_nan hx]
    exact readsBack_literal (by simp [literals])
  | infinite negative =>
    rw [Decimal.of_infinite hx]
    cases negative
    · exact readsBack_literal (by simp [literals])
    · exact readsBack_literal (by simp [literals])
  | finite b =>
    exact readsBack_number (fun rest => beginsNumber_float hx rest)
      fun rest hr => readNumber?_float hx hr

/-! ## How values begin -/

theorem BeginsNumber.begins {cs : List Char} (h : BeginsNumber cs) :
    ∃ c rest, cs = c :: rest ∧ Begins c := by
  obtain ⟨d, ds, hd, hcs⟩ := h
  have hdigit : Begins d := by
    refine ⟨?_, ?_, ?_⟩
    · have hne {c : Char} (hc : c.isDigit = false) : d ≠ c := by
        rintro rfl
        simp [hc] at hd
      simp [Cursor.isSeparator, hne]
    · rintro rfl
      cases hd
    · rintro rfl
      cases hd
  rcases hcs with rfl | rfl
  · exact ⟨d, ds, rfl, hdigit⟩
  · exact ⟨'-', d :: ds, rfl, by simp [Begins, Cursor.isSeparator]⟩

theorem begins_of_head {cs : List Char} {c : Char} (h : cs.head? = some c) (hc : Begins c) :
    ∃ c rest, cs = c :: rest ∧ Begins c := by
  cases cs with
  | nil => cases h
  | cons d rest =>
    cases h
    exact ⟨c, rest, rfl, hc⟩

theorem begins_float (x : Float) : ∃ c cs, (writeFloat x).toList = c :: cs ∧ Begins c := by
  rw [writeFloat]
  cases hx : Decimal.FloatForm.of x with
  | nan => exact begins_of_head (c := 'N') (by simp) (by simp [Begins, Cursor.isSeparator])
  | infinite negative =>
    cases negative
    · exact begins_of_head (c := 'I') (by simp) (by simp [Begins, Cursor.isSeparator])
    · exact begins_of_head (c := '-') (by simp) (by simp [Begins, Cursor.isSeparator])
  | finite b =>
    have h := beginsNumber_float hx []
    rw [List.append_nil] at h
    exact h.begins

theorem begins_bracketed (opening closing : Char) (depth : Nat) (parts : List String) :
    ∃ cs, (bracketed opening closing depth parts).toList = opening :: cs := by
  rw [bracketed]
  split <;> simp [Char.toString]

theorem begins_chars (v : Value) (depth : Nat) : ∃ c cs, chars v depth = c :: cs ∧ Begins c := by
  unfold chars
  cases v with
  | null =>
    exact begins_of_head (c := 'n') (by simp [indented]) (by simp [Begins, Cursor.isSeparator])
  | bool b =>
    cases b
    · exact begins_of_head (c := 'f') (by simp [indented]) (by simp [Begins, Cursor.isSeparator])
    · exact begins_of_head (c := 't') (by simp [indented]) (by simp [Begins, Cursor.isSeparator])
  | int n =>
    have h := beginsNumber_int n []
    rw [List.append_nil] at h
    exact h.begins
  | float x => exact begins_float x
  | text s =>
    rw [indented, writeText_toList]
    exact ⟨_, _, rfl, by simp [Begins, Cursor.isSeparator]⟩
  | list items =>
    obtain ⟨cs, h⟩ := begins_bracketed '[' ']' depth (indentedItems true items depth)
    exact ⟨_, cs, h, by simp [Begins, Cursor.isSeparator]⟩
  | record ms =>
    obtain ⟨cs, h⟩ := begins_bracketed '\x7b' '\x7d' depth (indentedMembers true ms depth)
    exact ⟨_, cs, h, by simp [Begins, Cursor.isSeparator]⟩

/-! ## Items and members -/

def itemParts (items : List Value) (depth : Nat) : List (List Char) :=
  (indentedItems true items depth).map String.toList

def memberParts (ms : Members Value) (depth : Nat) : List (List Char) :=
  (indentedMembers true ms depth).map String.toList

theorem itemParts_cons (v : Value) (items : List Value) (depth : Nat) :
    itemParts (v :: items) depth = chars v (depth + 1) :: itemParts items depth := rfl

theorem memberParts_cons (k : String) (v : Value) (ms : Members Value) (depth : Nat) :
    memberParts ((k, v) :: ms) depth =
      ((writeText true k).toList ++ ':' :: ' ' :: chars v (depth + 1)) ::
        memberParts ms depth := by
  simp [memberParts, indentedMembers, chars]

theorem chars_list {items : List Value} (h : items ≠ []) (depth : Nat) :
    chars (.list items) depth =
      '[' :: (marginChars (depth + 1) ++ partsChars ']' depth (itemParts items depth)) := by
  obtain ⟨v, rest, rfl⟩ := List.exists_cons_of_ne_nil h
  exact bracketed_toList (by simp [indentedItems])

theorem chars_record {ms : Members Value} (h : ms ≠ []) (depth : Nat) :
    chars (.record ms) depth =
      '\x7b' :: (marginChars (depth + 1) ++ partsChars '\x7d' depth (memberParts ms depth)) := by
  obtain ⟨m, rest, rfl⟩ := List.exists_cons_of_ne_nil h
  obtain ⟨k, v⟩ := m
  exact bracketed_toList (by simp [indentedMembers])

/-! ## One part -/

section

variable {v : Value} {text : List Char} {fuel : Nat}

theorem readItems_last (h : ReadsBack v text fuel) (depth : Nat) (rest : List Char)
    (position : Nat) (acc : List Value) :
    ∃ p, readItems (fuel + 1) ⟨text ++ (marginChars depth ++ ']' :: rest), position⟩ acc =
      .ok (.list (v :: acc).reverse, ⟨rest, p⟩) := by
  obtain ⟨p, hp⟩ := h (marginChars depth ++ ']' :: rest) position (closes_margin depth _)
  obtain ⟨q, hq⟩ := skip_margin depth (c := ']') rfl rest p
  refine ⟨q + 1, ?_⟩
  rw [readItems, hp]
  simp [bind, Except.bind, hq, Cursor.advance, pure, Except.pure]

theorem readItems_more (h : ReadsBack v text fuel) (depth : Nat) {c : Char} (hc : Begins c)
    (cs : List Char) (position : Nat) (acc : List Value) :
    ∃ p, readItems (fuel + 1) ⟨text ++ ',' :: (marginChars depth ++ c :: cs), position⟩ acc =
      readItems fuel ⟨c :: cs, p⟩ (v :: acc) := by
  obtain ⟨p, hp⟩ := h (',' :: (marginChars depth ++ c :: cs)) position (closes_comma _)
  have hcomma := skip_none (c := ',') rfl (marginChars depth ++ c :: cs) p
  obtain ⟨q, hq⟩ := skip_margin depth hc.1 cs (p + 1)
  refine ⟨q, ?_⟩
  rw [readItems, hp]
  simp [bind, Except.bind, hcomma, Cursor.advance, hq]

theorem readMembers_name {k : String} (hk : k.toList.length < fuel) {c : Char} (hc : Begins c)
    (cs : List Char) (position : Nat) (acc : Members Value) :
    ∃ p, readMembers (fuel + 1)
        ⟨(writeText true k).toList ++ ':' :: ' ' :: c :: cs, position⟩ acc = (do
      let (v, c) ← readValue fuel ⟨c :: cs, p⟩
      let c := c.skip
      let acc := acc.put k v
      if c.isAt '\x7d' then pure (.record acc, c.advance 1)
      else if c.isAt ',' then readMembers fuel (c.advance 1).skip acc
      else .error (c.fail "Expecting ',' delimiter")) := by
  obtain ⟨p, hp⟩ : ∃ p, readText position fuel
      ⟨escaped true k.toList ++ '"' :: ':' :: ' ' :: c :: cs, position + 1⟩ [] =
        .ok (k, ⟨':' :: ' ' :: c :: cs, p⟩) := by
    rw [readText_escaped true k.toList _ [] hk]
    exact ⟨_, by simp; rfl⟩
  have hcolon := skip_none (c := ':') rfl (' ' :: c :: cs) p
  have hblank : (Cursor.mk (' ' :: c :: cs) (p + 1)).skip = ⟨c :: cs, p + 1 + 1⟩ :=
    @skip_blanks [' '] (by simp [Cursor.isSeparator]) c hc.1 cs (p + 1)
  refine ⟨p + 1 + 1, ?_⟩
  rw [readMembers, writeText_toList]
  simp [bind, Except.bind, Cursor.advance, hp, hcolon, hblank]

theorem readMembers_last (h : ReadsBack v text fuel) {k : String} (hk : k.toList.length < fuel)
    {c : Char} {cs : List Char} (htext : text = c :: cs) (hc : Begins c) (depth : Nat)
    (rest : List Char) (position : Nat) (acc : Members Value) :
    ∃ p, readMembers (fuel + 1) ⟨(writeText true k).toList ++ ':' :: ' ' ::
        (text ++ (marginChars depth ++ '\x7d' :: rest)), position⟩ acc =
      .ok (.record (acc.put k v), ⟨rest, p⟩) := by
  subst htext
  obtain ⟨p, hp⟩ :=
    readMembers_name hk hc (cs ++ (marginChars depth ++ '\x7d' :: rest)) position acc
  obtain ⟨q, hq⟩ := h (marginChars depth ++ '\x7d' :: rest) p (closes_margin depth _)
  obtain ⟨r, hr⟩ := skip_margin depth (c := '\x7d') rfl rest q
  refine ⟨r + 1, ?_⟩
  rw [List.cons_append] at hq ⊢
  rw [hp, hq]
  simp [bind, Except.bind, hr, Cursor.advance, pure, Except.pure]

theorem readMembers_more (h : ReadsBack v text fuel) {k : String} (hk : k.toList.length < fuel)
    {c : Char} {cs : List Char} (htext : text = c :: cs) (hc : Begins c) (depth : Nat)
    {d : Char} (hd : Begins d) (ds : List Char) (position : Nat) (acc : Members Value) :
    ∃ p, readMembers (fuel + 1) ⟨(writeText true k).toList ++ ':' :: ' ' ::
        (text ++ ',' :: (marginChars depth ++ d :: ds)), position⟩ acc =
      readMembers fuel ⟨d :: ds, p⟩ (acc.put k v) := by
  subst htext
  obtain ⟨p, hp⟩ :=
    readMembers_name hk hc (cs ++ ',' :: (marginChars depth ++ d :: ds)) position acc
  obtain ⟨q, hq⟩ := h (',' :: (marginChars depth ++ d :: ds)) p (closes_comma _)
  have hcomma := skip_none (c := ',') rfl (marginChars depth ++ d :: ds) q
  obtain ⟨r, hr⟩ := skip_margin depth hd.1 ds (q + 1)
  refine ⟨r, ?_⟩
  rw [List.cons_append] at hq ⊢
  rw [hp, hq]
  simp [bind, Except.bind, hcomma, Cursor.advance, hr]

end

/-! ## All values -/

theorem chars_empty_list (depth : Nat) : chars (.list []) depth = ['[', ']'] := by
  simp [chars, indented, indentedItems, bracketed]

theorem chars_empty_record (depth : Nat) : chars (.record []) depth = ['\x7b', '\x7d'] := by
  simp [chars, indented, indentedMembers, bracketed]

theorem readsBack_empty {v : Value} {opening closing : Char} (h : v = .list [] ∧ opening = '[' ∧
    closing = ']' ∨ v = .record [] ∧ opening = '\x7b' ∧ closing = '\x7d') (fuel : Nat) :
    ReadsBack v [opening, closing] (fuel + 1) := by
  intro rest position hr
  rw [readValue]
  rcases h with ⟨rfl, rfl, rfl⟩ | ⟨rfl, rfl, rfl⟩
  · have hskip := skip_none (c := ']') rfl rest (position + 1)
    simp [Cursor.advance, hskip]
  · have hskip := skip_none (c := '\x7d') rfl rest (position + 1)
    simp [Cursor.advance, hskip]

theorem itemParts_begin (w : Value) (more : List Value) (depth : Nat) :
    ∃ c cs, partsChars ']' depth (itemParts (w :: more) depth) = c :: cs ∧ Begins c := by
  obtain ⟨c, cs, hw, hc⟩ := begins_chars w (depth + 1)
  obtain ⟨tail, ht⟩ :
      ∃ tail, partsChars ']' depth ((c :: cs) :: itemParts more depth) = c :: tail :=
    partsChars_cons _
  exact ⟨c, tail, by rw [itemParts_cons, hw, ht], hc⟩

theorem memberParts_begin (m : String × Value) (more : Members Value) (depth : Nat) :
    ∃ cs, partsChars '\x7d' depth (memberParts (m :: more) depth) = '"' :: cs := by
  obtain ⟨k, v⟩ := m
  rw [memberParts_cons, writeText_toList]
  exact partsChars_cons _

theorem length_le_escaped (ascii : Bool) (cs : List Char) :
    cs.length ≤ (escaped ascii cs).length := by
  induction cs with
  | nil => exact Nat.le_refl _
  | cons c cs ih =>
    obtain ⟨d, ds, hd, -⟩ := escapeChar_head ascii c
    simp only [escaped, List.map_cons, List.flatten_cons, List.length_append, hd,
      List.length_cons] at ih ⊢
    omega

theorem length_lt_writeText (s : String) : s.toList.length < (writeText true s).toList.length := by
  have := length_le_escaped true s.toList
  rw [writeText_toList]
  simp only [List.length_cons, List.length_append]
  omega

theorem fuel_of_length {v : Value} {depth fuel : Nat} (hf : 2 * (chars v depth).length ≤ fuel) :
    ∃ f, fuel = f + 1 := by
  obtain ⟨c, cs, h, -⟩ := begins_chars v depth
  rw [h, List.length_cons] at hf
  exact ⟨fuel - 1, by omega⟩

theorem not_mem_names_of_nodup {acc more : Members Value} {k : String} {v : Value}
    (h : (Members.names (acc ++ (k, v) :: more)).Nodup) : k ∉ acc.names := by
  rw [Members.names, List.map_append, List.map_cons, List.nodup_append] at h
  exact fun hk => h.2.2 k hk k List.mem_cons_self rfl

/-- The text of the value is read back at every depth. -/
def Readable (v : Value) : Prop :=
  ∀ depth fuel, 2 * (chars v depth).length ≤ fuel → ReadsBack v (chars v depth) fuel

/-! ## Lists and records -/

theorem partsChars_items (v w : Value) (more : List Value) (depth : Nat) :
    partsChars ']' depth (itemParts (v :: w :: more) depth) =
      chars v (depth + 1) ++ (',' :: (marginChars (depth + 1) ++
        partsChars ']' depth (itemParts (w :: more) depth))) := rfl

theorem readItems_chars {items : List Value} (hne : items ≠ []) (h : ∀ v ∈ items, Readable v)
    {depth fuel : Nat} (hf : 2 * (partsChars ']' depth (itemParts items depth)).length ≤ fuel)
    (rest : List Char) (position : Nat) (acc : List Value) :
    ∃ p, readItems fuel ⟨partsChars ']' depth (itemParts items depth) ++ rest, position⟩ acc =
      .ok (.list (acc.reverse ++ items), ⟨rest, p⟩) := by
  -- the last item is read up to the bracket, any other one up to the item after it
  induction items generalizing fuel position acc with
  | nil => exact absurd rfl hne
  | cons v more ih =>
    have hv := h v List.mem_cons_self
    cases more with
    | nil =>
      have hparts : partsChars ']' depth (itemParts [v] depth) =
          chars v (depth + 1) ++ (marginChars depth ++ [']']) := rfl
      rw [hparts] at hf ⊢
      simp only [List.length_append, List.length_singleton] at hf
      obtain ⟨f, rfl⟩ : ∃ f, fuel = f + 1 := ⟨fuel - 1, by omega⟩
      obtain ⟨p, hp⟩ := readItems_last (hv (depth + 1) f (by omega)) depth rest position acc
      exact ⟨p, by simpa using hp⟩
    | cons w more =>
      obtain ⟨c, cs, hnext, hc⟩ := itemParts_begin w more depth
      rw [partsChars_items] at hf ⊢
      simp only [List.length_append, List.length_cons] at hf
      obtain ⟨f, rfl⟩ : ∃ f, fuel = f + 1 := ⟨fuel - 1, by omega⟩
      obtain ⟨p, hp⟩ :=
        readItems_more (hv (depth + 1) f (by omega)) (depth + 1) hc (cs ++ rest) position acc
      have hfuel : 2 * (partsChars ']' depth (itemParts (w :: more) depth)).length ≤ f := by omega
      obtain ⟨q, hq⟩ :=
        ih (by simp) (fun x hx => h x (List.mem_cons_of_mem v hx)) hfuel p (v :: acc)
      refine ⟨q, ?_⟩
      rw [hnext] at hq ⊢
      simp only [List.cons_append, List.append_assoc, List.reverse_cons] at hp hq ⊢
      rw [hp, hq]
      rfl

section

variable {k : String} {v : Value} {m : String × Value} {more acc : Members Value} {depth fuel : Nat}

theorem partsChars_member (k : String) (v : Value) (depth : Nat) :
    partsChars '\x7d' depth (memberParts [(k, v)] depth) =
      ((writeText true k).toList ++ ':' :: ' ' :: chars v (depth + 1)) ++
        (marginChars depth ++ ['\x7d']) := by
  rw [memberParts_cons]
  rfl

theorem partsChars_members (k : String) (v : Value) (m : String × Value) (more : Members Value)
    (depth : Nat) :
    partsChars '\x7d' depth (memberParts ((k, v) :: m :: more) depth) =
      ((writeText true k).toList ++ ':' :: ' ' :: chars v (depth + 1)) ++
        (',' :: (marginChars (depth + 1) ++
          partsChars '\x7d' depth (memberParts (m :: more) depth))) := by
  rw [memberParts_cons]
  rfl

theorem fuel_of_member
    (hf : 2 * (partsChars '\x7d' depth (memberParts [(k, v)] depth)).length ≤ fuel) :
    ∃ f, fuel = f + 1 ∧ k.toList.length < f ∧ 2 * (chars v (depth + 1)).length ≤ f := by
  have hname := length_lt_writeText k
  rw [partsChars_member] at hf
  simp only [List.length_append, List.length_cons] at hf
  exact ⟨fuel - 1, by omega, by omega, by omega⟩

theorem fuel_of_members
    (hf : 2 * (partsChars '\x7d' depth (memberParts ((k, v) :: m :: more) depth)).length ≤ fuel) :
    ∃ f, fuel = f + 1 ∧ k.toList.length < f ∧ 2 * (chars v (depth + 1)).length ≤ f ∧
      2 * (partsChars '\x7d' depth (memberParts (m :: more) depth)).length ≤ f := by
  have hname := length_lt_writeText k
  rw [partsChars_members] at hf
  simp only [List.length_append, List.length_cons] at hf
  exact ⟨fuel - 1, by omega, by omega, by omega, by omega⟩

theorem readMembers_one (h : ReadsBack v (chars v (depth + 1)) fuel)
    (hk : k.toList.length < fuel) (rest : List Char) (position : Nat)
    (hnodup : (Members.names (acc ++ [(k, v)])).Nodup) :
    ∃ p, readMembers (fuel + 1)
        ⟨partsChars '\x7d' depth (memberParts [(k, v)] depth) ++ rest, position⟩ acc =
      .ok (.record (acc ++ [(k, v)]), ⟨rest, p⟩) := by
  obtain ⟨c, cs, htext, hc⟩ := begins_chars v (depth + 1)
  obtain ⟨p, hp⟩ := readMembers_last h hk htext hc depth rest position acc
  rw [Members.put_of_not_mem v (not_mem_names_of_nodup hnodup)] at hp
  refine ⟨p, ?_⟩
  rw [partsChars_member]
  simpa only [List.append_assoc, List.cons_append, List.nil_append] using hp

theorem readMembers_step (h : ReadsBack v (chars v (depth + 1)) fuel)
    (hk : k.toList.length < fuel) (rest : List Char) (position : Nat)
    (hnodup : (Members.names (acc ++ (k, v) :: m :: more)).Nodup) :
    ∃ p, readMembers (fuel + 1)
        ⟨partsChars '\x7d' depth (memberParts ((k, v) :: m :: more) depth) ++ rest, position⟩ acc =
      readMembers fuel ⟨partsChars '\x7d' depth (memberParts (m :: more) depth) ++ rest, p⟩
        (acc ++ [(k, v)]) := by
  obtain ⟨c, cs, htext, hc⟩ := begins_chars v (depth + 1)
  obtain ⟨ds, hnext⟩ := memberParts_begin m more depth
  obtain ⟨p, hp⟩ := readMembers_more h hk htext hc (depth + 1)
    (d := '"') (by simp [Begins, Cursor.isSeparator]) (ds ++ rest) position acc
  rw [Members.put_of_not_mem v (not_mem_names_of_nodup hnodup)] at hp
  refine ⟨p, ?_⟩
  rw [partsChars_members, hnext]
  simpa only [List.append_assoc, List.cons_append] using hp

theorem readMembers_chars {ms : Members Value} (hne : ms ≠ []) (h : ∀ m ∈ ms, Readable m.2)
    {depth fuel : Nat} (hf : 2 * (partsChars '\x7d' depth (memberParts ms depth)).length ≤ fuel)
    (rest : List Char) (position : Nat) (acc : Members Value)
    (hnodup : (Members.names (acc ++ ms)).Nodup) :
    ∃ p, readMembers fuel ⟨partsChars '\x7d' depth (memberParts ms depth) ++ rest, position⟩ acc =
      .ok (.record (acc ++ ms), ⟨rest, p⟩) := by
  -- the names to come are none of those in `acc`, so each member is put at its end
  induction ms generalizing fuel position acc with
  | nil => exact absurd rfl hne
  | cons m more ih =>
    obtain ⟨k, v⟩ := m
    have hv := h (k, v) List.mem_cons_self
    cases more with
    | nil =>
      obtain ⟨f, rfl, hname, hvalue⟩ := fuel_of_member hf
      exact readMembers_one (hv (depth + 1) f hvalue) hname rest position hnodup
    | cons m more =>
      obtain ⟨f, rfl, hname, hvalue, hfuel⟩ := fuel_of_members hf
      obtain ⟨p, hp⟩ := readMembers_step (hv (depth + 1) f hvalue) hname rest position hnodup
      have hsplit : acc ++ (k, v) :: m :: more = acc ++ [(k, v)] ++ m :: more := by simp
      rw [hsplit] at hnodup ⊢
      obtain ⟨q, hq⟩ := ih (by simp) (fun x hx => h x (List.mem_cons_of_mem _ hx)) hfuel p
        (acc ++ [(k, v)]) hnodup
      exact ⟨q, by rw [hp, hq]⟩

end

theorem readable_list {items : List Value} (h : ∀ v ∈ items, Readable v) :
    Readable (.list items) := by
  intro depth fuel hf
  obtain ⟨f, rfl⟩ := fuel_of_length hf
  cases items with
  | nil =>
    rw [chars_empty_list]
    exact readsBack_empty (.inl ⟨rfl, rfl, rfl⟩) f
  | cons v more =>
    obtain ⟨c, cs, hparts, hc⟩ := itemParts_begin v more depth
    rw [chars_list (by simp)] at hf ⊢
    simp only [List.length_cons, List.length_append] at hf
    intro rest position hr
    obtain ⟨p, hp⟩ := skip_margin (depth + 1) hc.1 (cs ++ rest) (position + 1)
    have hfuel : 2 * (partsChars ']' depth (itemParts (v :: more) depth)).length ≤ f := by omega
    obtain ⟨q, hq⟩ := readItems_chars (by simp) h hfuel rest p []
    refine ⟨q, ?_⟩
    rw [readValue]
    rw [hparts] at hq ⊢
    simp only [List.cons_append] at hq
    simp [Cursor.advance, hp, hc.2.1, hq]

theorem readable_record {ms : Members Value} (hnodup : ms.names.Nodup)
    (h : ∀ m ∈ ms, Readable m.2) : Readable (.record ms) := by
  intro depth fuel hf
  obtain ⟨f, rfl⟩ := fuel_of_length hf
  cases ms with
  | nil =>
    rw [chars_empty_record]
    exact readsBack_empty (.inr ⟨rfl, rfl, rfl⟩) f
  | cons m more =>
    obtain ⟨cs, hparts⟩ := memberParts_begin m more depth
    rw [chars_record (by simp)] at hf ⊢
    simp only [List.length_cons, List.length_append] at hf
    intro rest position hr
    obtain ⟨p, hp⟩ := skip_margin (depth + 1) (c := '"') rfl (cs ++ rest) (position + 1)
    have hfuel : 2 * (partsChars '\x7d' depth (memberParts (m :: more) depth)).length ≤ f := by
      omega
    obtain ⟨q, hq⟩ := readMembers_chars (by simp) h hfuel rest p [] hnodup
    refine ⟨q, ?_⟩
    rw [readValue]
    rw [hparts] at hq ⊢
    simp only [List.cons_append] at hq
    simp [Cursor.advance, hp, hq]

mutual

theorem readable : (v : Value) → v.isProper = true → Readable v
  | .null, _ => fun depth fuel hf => by
    obtain ⟨f, rfl⟩ := fuel_of_length hf
    exact readsBack_literal (by simp [literals, indented])
  | .bool b, _ => fun depth fuel hf => by
    obtain ⟨f, rfl⟩ := fuel_of_length hf
    cases b <;> exact readsBack_literal (by simp [literals, indented])
  | .int n, _ => fun depth fuel hf => by
    obtain ⟨f, rfl⟩ := fuel_of_length hf
    exact readsBack_number (beginsNumber_int n) fun rest hr => readNumber?_int n hr
  | .float x, _ => fun depth fuel hf => by
    obtain ⟨f, rfl⟩ := fuel_of_length hf
    exact readsBack_float x f
  | .text s, _ => fun depth fuel hf => by
    obtain ⟨f, rfl⟩ := fuel_of_length hf
    have hlength := length_lt_writeText s
    change 2 * (writeText true s).toList.length ≤ f + 1 at hf
    exact readsBack_text s (by omega)
  | .list items, hv => readable_list (readable_items items (by rwa [Value.isProper] at hv))
  | .record ms, hv => by
    rw [Value.isProper, Bool.and_eq_true, decide_eq_true_eq] at hv
    exact readable_record hv.1 (readable_members ms hv.2)

theorem readable_items : (items : List Value) → Value.areProper items = true →
    ∀ v ∈ items, Readable v
  | [], _ => by simp
  | w :: more, hv => by
    rw [Value.areProper, Bool.and_eq_true] at hv
    exact List.forall_mem_cons.2 ⟨readable w hv.1, readable_items more hv.2⟩

theorem readable_members : (ms : List (String × Value)) → Value.haveProper ms = true →
    ∀ m ∈ ms, Readable m.2
  | [], _ => by simp
  | (k, w) :: more, hv => by
    rw [Value.haveProper, Bool.and_eq_true] at hv
    exact List.forall_mem_cons.2 ⟨readable w hv.1, readable_members more hv.2⟩

end

end Scout.Json
