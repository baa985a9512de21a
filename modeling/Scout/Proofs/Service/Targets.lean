import Scout.Proofs.Registry.Ids
import Scout.Service.Routes

/-!
# Targets that are paths

A target of letters, digits and a few marks is its own path: there is nothing to resolve in
it.  A line feed at its end is written as an escape and comes back by resolving it.
-/

namespace Scout

/-! ## Bytes of plain characters -/

/-- The byte of a character that has one. -/
def byteOf (c : Char) : UInt8 :=
  UInt8.ofNat c.toNat

theorem toList_toByteArray_singleton (b : UInt8) : [b].toByteArray.toList = [b] := by
  have first : [b].toByteArray.get! 0 = b := rfl
  rw [ByteArray.toList, ByteArray.toList.loop, if_pos (by simp), ByteArray.toList.loop,
    if_neg (by simp), first]
  rfl

theorem toUTF8_of_ascii {c : Char} (ascii : c.toNat < 128) :
    c.toString.toUTF8.toList = [byteOf c] := by
  have encoded : c.toString.toUTF8 = (String.utf8EncodeChar c).toByteArray := by
    simp [Char.toString, String.toUTF8, List.utf8Encode_singleton]
  have short : c.val.toNat ≤ 127 := Nat.le_of_lt_succ ascii
  rw [encoded, String.utf8EncodeChar, if_pos short, toList_toByteArray_singleton]
  rfl

theorem toNat_byteOf {c : Char} (ascii : c.toNat < 128) : (byteOf c).toNat = c.toNat := by
  rw [byteOf, UInt8.toNat_ofNat']
  omega

theorem Files.decodeFrom_ascii {cs : List Char} (ascii : ∀ c ∈ cs, c.toNat < 128) {fuel : Nat}
    (enough : cs.length ≤ fuel) (position : Nat) :
    decodeFrom fuel position (cs.map byteOf) = cs.map Except.ok := by
  induction cs generalizing fuel position with
  | nil => cases fuel <;> rfl
  | cons c rest ih =>
    obtain ⟨hc, hrest⟩ := List.forall_mem_cons.1 ascii
    obtain ⟨fuel, rfl⟩ : ∃ n, fuel = n + 1 :=
      Nat.exists_eq_succ_of_ne_zero (by simp at enough; omega)
    have single : sequenceLength (byteOf c) = 1 := by
      have low : byteOf c < 0x80 := by
        rw [UInt8.lt_iff_toNat_lt, toNat_byteOf hc]
        exact hc
      rw [sequenceLength, if_pos low]
    have none : fittingAfter (byteOf c) 0 (rest.map byteOf) = 0 := rfl
    have own : charOfSequence (byteOf c) [] = c := by
      simp [charOfSequence, toNat_byteOf hc]
    rw [List.map_cons, decodeFrom, single]
    simp only [Nat.sub_self, none, List.take_zero, own, List.drop_zero]
    simp [ih hrest (by simpa using enough)]

namespace Service

variable {cs : List Char} {s name : String}

/-! ## Escapes -/

/-- A character in which nothing is resolved. -/
def IsPlain (c : Char) : Prop :=
  c.toNat < 128 ∧ c ≠ '%'

theorem isPlain_of_isNameChar {c : Char} (h : Check.IsNameChar c) : IsPlain c := by
  have code := h.code
  refine ⟨by omega, ?_⟩
  rintro rfl
  simp at code

theorem escapedBytes_cons {c : Char} (plain : IsPlain c) (rest : List Char) :
    escapedBytes (c :: rest) = byteOf c :: escapedBytes rest := by
  rw [escapedBytes, toUTF8_of_ascii plain.1]
  · rfl
  · intro a b more same
    exact absurd same plain.2

theorem escapedBytes_append (plain : ∀ c ∈ cs, IsPlain c) (rest : List Char) :
    escapedBytes (cs ++ rest) = cs.map byteOf ++ escapedBytes rest := by
  induction cs with
  | nil => rfl
  | cons c more ih =>
    obtain ⟨hc, hmore⟩ := List.forall_mem_cons.1 plain
    rw [List.cons_append, escapedBytes_cons hc, ih hmore]
    rfl

theorem decodeLossy_map_byteOf (plain : ∀ c ∈ cs, IsPlain c) :
    Files.decodeLossy (cs.map byteOf) = String.ofList cs := by
  rw [Files.decodeLossy, Files.decodeFrom_ascii (fun c hc => (plain c hc).1) (by simp),
    List.map_map]
  congr 1
  exact List.map_id _

theorem unescape_of_plain (plain : ∀ c ∈ s.toList, IsPlain c) : unescape s = s := by
  have bytes := escapedBytes_append plain []
  rw [List.append_nil, escapedBytes, List.append_nil] at bytes
  rw [unescape, bytes, decodeLossy_map_byteOf plain, String.ofList_toList]

theorem isPlain_feed : IsPlain '\n' :=
  ⟨by decide, by decide⟩

theorem unescape_feed {tail : String} (plain : ∀ c ∈ s.toList, IsPlain c)
    (plain' : ∀ c ∈ tail.toList, IsPlain c) :
    unescape (s ++ "%0A" ++ tail) = s ++ "\n" ++ tail := by
  have escape (rest : List Char) :
      escapedBytes ('%' :: '0' :: 'A' :: rest) = byteOf '\n' :: escapedBytes rest := by
    simp [escapedBytes, Json.hexDigit?, byteOf]
  have last : escapedBytes tail.toList = tail.toList.map byteOf := by
    have bytes := escapedBytes_append plain' []
    rwa [List.append_nil, escapedBytes, List.append_nil] at bytes
  have text : (s ++ "%0A" ++ tail).toList = s.toList ++ '%' :: '0' :: 'A' :: tail.toList := by
    simp
  have resolved : ∀ c ∈ s.toList ++ '\n' :: tail.toList, IsPlain c := by
    simp only [List.mem_append, List.mem_cons]
    rintro c (hc | rfl | hc)
    · exact plain c hc
    · exact isPlain_feed
    · exact plain' c hc
  have bytes : escapedBytes (s ++ "%0A" ++ tail).toList =
      (s.toList ++ '\n' :: tail.toList).map byteOf := by
    rw [text, escapedBytes_append plain, escape, last, List.map_append, List.map_cons]
  rw [unescape, bytes, decodeLossy_map_byteOf resolved]
  apply String.toList_injective
  simp

/-! ## Paths -/

theorem cut_of_not_mem {mark : Char} (h : mark ∉ cs) : cut mark cs = (cs, []) := by
  have other : ∀ c ∈ cs, (c != mark) = true := by
    intro c hc
    rw [bne_iff_ne]
    rintro rfl
    exact h hc
  rw [cut, List.takeWhile_eq_self_iff.2 other, List.dropWhile_eq_nil_iff.2 other]
  rfl

theorem normalPath_of_not_mem (h : '.' ∉ s.toList) : normalPath s = s := by
  have free (part : String) (inside : '.' ∈ part.toList) :
      (Text.splitOn '/' s).contains part = false := by
    rw [List.contains_eq_mem, decide_eq_false_iff_not, Text.splitOn, List.mem_map]
    rintro ⟨chars, hchars, rfl⟩
    rw [String.toList_ofList] at inside
    exact h ((Text.of_mem_splitAt hchars).2 inside)
  rw [normalPath, free "." (by decide), free ".." (by decide)]
  rfl

def pathMarks : List Char :=
  ['#', '?', '.']

theorem ofText_of_path (first : s.toList.head? ≠ some '/')
    (marks : ∀ mark ∈ pathMarks, mark ∉ ("/" ++ s).toList) :
    Target.ofText ("/" ++ s) = ⟨unescape (unescape ("/" ++ s)), []⟩ := by
  simp only [pathMarks, List.forall_mem_cons] at marks
  obtain ⟨noFragment, noQuery, noDot, -⟩ := marks
  have slash : '/' :: ("/" ++ s).toList.dropWhile (· == '/') = ("/" ++ s).toList := by
    cases hs : s.toList with
    | nil => simp [hs]
    | cons c rest =>
      have other : c ≠ '/' := by simpa [hs] using first
      simp [hs, other]
  rw [Target.ofText, cut_of_not_mem noFragment]
  dsimp only
  rw [cut_of_not_mem noQuery]
  dsimp only
  rw [slash, String.ofList_toList, normalPath_of_not_mem noDot]
  rfl

/-! ## Paths of playbooks -/

/-- An id as it is written in a target: a line feed that ends it is written as an escape. -/
def written (id : String) : String :=
  if id.toList.getLast? = some '\n' then withoutLineFeed id ++ "%0A" else id

theorem written_of_name (h : Check.IsName name) : written name = name :=
  if_neg h.getLast?_ne

theorem written_feed (name : String) : written (name ++ "\n") = name ++ "%0A" := by
  have feed : (name ++ "\n").toList.getLast? = some '\n' := by simp
  have word : withoutLineFeed (name ++ "\n") = name := by
    rw [withoutLineFeed, feed]
    simp
  rw [written, if_pos feed, word]

def IsWords (s : String) : Prop :=
  ∀ c ∈ s.toList, Check.IsNameChar c ∨ c = '/'

theorem IsWords.append {t : String} (h : IsWords s) (h' : IsWords t) : IsWords (s ++ t) := by
  intro c hc
  rw [String.toList_append, List.mem_append] at hc
  exact hc.elim (h c) (h' c)

theorem IsWords.isPlain (h : IsWords s) : ∀ c ∈ s.toList, IsPlain c := by
  intro c hc
  rcases h c hc with letter | rfl
  · exact isPlain_of_isNameChar letter
  · exact ⟨by decide, by decide⟩

theorem IsWords.marks (h : IsWords s) : ∀ mark ∈ pathMarks, mark ∉ s.toList := by
  intro mark listed inside
  rcases h mark inside with letter | rfl
  · have code := letter.code
    simp only [pathMarks, List.mem_cons, List.not_mem_nil, or_false] at listed
    rcases listed with rfl | rfl | rfl <;> simp at code
  · revert listed
    decide

theorem isWords_playbook (h : Check.IsName name) : IsWords ("/playbooks/" ++ name) := by
  have fixed : IsWords "/playbooks/" := by
    simp [IsWords, Check.IsNameChar]
  exact fixed.append fun c hc => .inl (h.2 c hc)

/-- A target that begins with the path of a playbook, as far as it has no marks. -/
theorem ofText_playbook (rest : String)
    (marks : ∀ mark ∈ pathMarks, mark ∉ ("/playbooks/" ++ rest).toList) :
    Target.ofText ("/playbooks/" ++ rest) = ⟨unescape (unescape ("/playbooks/" ++ rest)), []⟩ := by
  have slash : "/playbooks/" ++ rest = "/" ++ ("playbooks/" ++ rest) := by
    apply String.toList_injective
    simp
  rw [slash] at marks ⊢
  exact ofText_of_path (by simp) marks

/-- The target that is written for a playbook leads to the path of the playbook. -/
theorem ofText_written {id tail : String} (h : Check.IsAcceptable id) (words : IsWords tail) :
    Target.ofText ("/playbooks/" ++ written id ++ tail) = ⟨"/playbooks/" ++ id ++ tail, []⟩ := by
  obtain ⟨name, isName, rfl | rfl⟩ := h
  · have whole := (isWords_playbook isName).append words
    have same := unescape_of_plain whole.isPlain
    have target := ofText_playbook (id ++ tail) (by
      rw [← String.append_assoc]
      exact whole.marks)
    rw [← String.append_assoc, same, same] at target
    rw [written_of_name isName]
    exact target
  · have base := isWords_playbook isName
    have resolved : ∀ c ∈ ("/playbooks/" ++ name ++ "\n" ++ tail).toList, IsPlain c := by
      rw [String.toList_append, String.toList_append]
      simp only [List.mem_append]
      rintro c ((hc | hc) | hc)
      · exact base.isPlain c hc
      · have feed : c = '\n' := by simpa using hc
        exact feed ▸ isPlain_feed
      · exact words.isPlain c hc
    have marks : ∀ mark ∈ pathMarks, mark ∉ ("/playbooks/" ++ name ++ "%0A" ++ tail).toList := by
      rw [String.toList_append, String.toList_append]
      simp only [List.mem_append, not_or]
      intro mark listed
      have escape : mark ∉ "%0A".toList := by
        simp only [pathMarks, List.mem_cons, List.not_mem_nil, or_false] at listed
        rcases listed with rfl | rfl | rfl <;> simp
      exact ⟨⟨base.marks mark listed, escape⟩, words.marks mark listed⟩
    have once := unescape_feed base.isPlain words.isPlain
    have twice := unescape_of_plain resolved
    have target := ofText_playbook (name ++ "%0A" ++ tail) (by
      rw [← String.append_assoc, ← String.append_assoc]
      exact marks)
    rw [← String.append_assoc, ← String.append_assoc, once, twice] at target
    rw [written_feed, ← String.append_assoc, ← String.append_assoc]
    exact target

end Service

end Scout
