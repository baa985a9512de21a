import Mathlib
import Scout.Decimal.Read

/-!
# Texts of digits

A text of ASCII digits has a value.  The digits of a number have the number as
their value, and digits that stand before something else are told apart from it
by the first character that is no digit.
-/

namespace Scout.Decimal

def AllDigits (cs : List Char) : Prop :=
  ∀ c ∈ cs, c.isDigit = true

/-- What can follow a text of digits. -/
def NoDigit (cs : List Char) : Prop :=
  ∀ c ∈ cs.head?, c.isDigit = false

/-! ## Digits and what follows them -/

theorem noDigit_nil : NoDigit [] := by
  simp [NoDigit]

theorem AllDigits.append {cs ds : List Char} (hc : AllDigits cs) (hd : AllDigits ds) :
    AllDigits (cs ++ ds) := by
  intro c h
  rcases List.mem_append.1 h with h | h
  · exact hc c h
  · exact hd c h

theorem AllDigits.of_subset {cs ds : List Char} (hd : AllDigits ds) (h : cs ⊆ ds) :
    AllDigits cs :=
  fun c hc => hd c (h hc)

theorem allDigits_zeros (j : Nat) : AllDigits (List.replicate j '0') := by
  intro c h
  rw [List.eq_of_mem_replicate h]
  rfl

theorem allDigits_toDigits (n : Nat) : AllDigits (Nat.toDigits 10 n) :=
  fun _ h => Nat.isDigit_of_mem_toDigits (by decide) (by decide) h

theorem takeWhile_of_noDigit {rest : List Char} (hr : NoDigit rest) :
    rest.takeWhile Char.isDigit = [] := by
  cases rest with
  | nil => rfl
  | cons c rest =>
    have hc : c.isDigit = false := hr c rfl
    rw [List.takeWhile_cons_of_neg (by simp [hc])]

theorem dropWhile_of_noDigit {rest : List Char} (hr : NoDigit rest) :
    rest.dropWhile Char.isDigit = rest := by
  cases rest with
  | nil => rfl
  | cons c rest =>
    have hc : c.isDigit = false := hr c rfl
    rw [List.dropWhile_cons_of_neg (by simp [hc])]

theorem takeWhile_digits {ds rest : List Char} (hd : AllDigits ds) (hr : NoDigit rest) :
    (ds ++ rest).takeWhile Char.isDigit = ds := by
  rw [List.takeWhile_append_of_pos hd, takeWhile_of_noDigit hr, List.append_nil]

theorem dropWhile_digits {ds rest : List Char} (hd : AllDigits ds) (hr : NoDigit rest) :
    (ds ++ rest).dropWhile Char.isDigit = rest := by
  rw [List.dropWhile_append_of_pos hd, dropWhile_of_noDigit hr]

/-! ## Values -/

theorem ofDigits_append (as bs : List Nat) :
    ofDigits (as ++ bs) = ofDigits as * 10 ^ bs.length + ofDigits bs := by
  have shifted (bs : List Nat) (n : Nat) :
      bs.foldl (fun n d => 10 * n + d) n = n * 10 ^ bs.length + ofDigits bs := by
    induction bs generalizing n with
    | nil => simp [ofDigits]
    | cons d bs ih =>
      rw [ofDigits, List.foldl_cons, List.foldl_cons, ih, ih (10 * 0 + d), List.length_cons]
      rw [Nat.mul_zero, Nat.zero_add, Nat.pow_succ, Nat.add_mul]
      rw [Nat.add_assoc, Nat.mul_comm 10 n, Nat.mul_assoc, Nat.mul_comm 10]
  rw [ofDigits, List.foldl_append]
  exact shifted bs _

theorem length_digits {cs : List Char} (hc : AllDigits cs) :
    (cs.filterMap asciiDigit?).length = cs.length := by
  induction cs with
  | nil => rfl
  | cons c cs ih =>
    have hdigit : c.isDigit = true := hc c List.mem_cons_self
    rw [List.filterMap_cons_some (b := c.toNat - 48) (by simp [asciiDigit?, hdigit])]
    rw [List.length_cons, List.length_cons, ih fun x h => hc x (List.mem_cons_of_mem c h)]

theorem valueOf_append (cs : List Char) {ds : List Char} (hd : AllDigits ds) :
    valueOf (cs ++ ds) = valueOf cs * 10 ^ ds.length + valueOf ds := by
  rw [valueOf, List.filterMap_append, ofDigits_append, length_digits hd]
  rfl

theorem valueOf_zeros (j : Nat) : valueOf (List.replicate j '0') = 0 := by
  induction j with
  | zero => rfl
  | succ j ih =>
    rw [List.replicate_succ', valueOf_append _ (by simpa using allDigits_zeros 1), ih]
    rfl

theorem valueOf_digitChar {n : Nat} (hn : n < 10) : valueOf [n.digitChar] = n := by
  have hdigit : n.digitChar.isDigit = true := by simpa using hn
  simp [valueOf, asciiDigit?, hdigit, ofDigits, Nat.toNat_digitChar_sub_48_of_lt_ten hn]

theorem valueOf_toDigits (n : Nat) : valueOf (Nat.toDigits 10 n) = n := by
  induction n using Nat.strongRecOn with
  | ind n ih =>
    rw [Nat.toDigits_eq_if (by decide)]
    split
    · next hn => exact valueOf_digitChar hn
    · next hn =>
      have hlast : n % 10 < 10 := Nat.mod_lt n (by decide)
      have hdigit : AllDigits [(n % 10).digitChar] := by
        intro c h
        rw [List.mem_singleton.1 h]
        simpa using hlast
      rw [valueOf_append _ hdigit, ih (n / 10) (by omega), valueOf_digitChar hlast]
      rw [List.length_singleton]
      omega

theorem head_toDigits {n : Nat} (hn : 0 < n) : (Nat.toDigits 10 n).head? ≠ some '0' := by
  induction n using Nat.strongRecOn with
  | ind n ih =>
    rw [Nat.toDigits_eq_if (by decide)]
    split
    · simp
      omega
    · have hlead := ih (n / 10) (by omega) (by omega)
      rw [List.head?_append]
      cases hd : (Nat.toDigits 10 (n / 10)).head? with
      | none => exact absurd (List.head?_eq_none_iff.1 hd) Nat.toDigits_ne_nil
      | some c => simpa [hd] using hlead

/-! ## Digits read as an integer -/

theorem code_of_isDigit {c : Char} (h : c.isDigit = true) : 48 ≤ c.toNat ∧ c.toNat ≤ 57 := by
  simpa [Char.isDigit, UInt32.le_iff_toNat_le] using h

theorem isBlank_of_isDigit {c : Char} (h : c.isDigit = true) : Text.isBlank c = false := by
  have code := code_of_isDigit h
  simp [Text.isBlank, Text.isSpace]
  omega

theorem plainDigit_of_isDigit {c : Char} (h : c.isDigit = true) : plainDigit c = c := by
  have code := code_of_isDigit h
  obtain ⟨others, zeros⟩ : ∃ others, Text.digitZeros = 48 :: others := ⟨_, rfl⟩
  have value : Text.digitValue? c = some (c.toNat - 48) := by
    rw [Text.digitValue?, zeros, List.find?_cons_of_pos]
    · rfl
    · simp
      omega
  have back : 48 + (c.toNat - 48) = c.toNat := by omega
  unfold plainDigit
  rw [value]
  dsimp only
  rw [back, Char.ofNat_toNat]

theorem joinGroups_of_digits {cs : List Char} (digits : AllDigits cs) :
    joinGroups cs = some cs := by
  induction cs with
  | nil => rfl
  | cons c cs ih =>
    have plain (d : Char) (hd : d ∈ c :: cs) : d ≠ '_' := by
      rintro rfl
      cases digits '_' hd
    have rest := ih (digits.of_subset (List.subset_cons_self c cs))
    unfold joinGroups
    split
    · next same => cases same
    · next same => 
      cases same
      exact absurd rfl (plain '_' (by simp))
    · next same =>
      cases same
      rw [if_neg (by simpa using plain c List.mem_cons_self), rest]
      rfl

theorem trimBy_isBlank_of_digits {cs : List Char} (digits : AllDigits cs) :
    Text.trimBy Text.isBlank cs = cs := by
  have unblank (ds : List Char) (h : AllDigits ds) : ds.dropWhile Text.isBlank = ds := by
    cases ds with
    | nil => rfl
    | cons d ds =>
      rw [List.dropWhile_cons_of_neg]
      simp [isBlank_of_isDigit (h d List.mem_cons_self)]
  have backwards : AllDigits cs.reverse := digits.of_subset (List.reverse_subset.mpr fun _ h => h)
  rw [Text.trimBy, unblank cs digits, unblank _ backwards, List.reverse_reverse]

theorem intOfText?_of_digits {cs : List Char} (digits : AllDigits cs) (nonempty : cs ≠ []) :
    intOfText? (String.ofList cs) = some (valueOf cs : Int) := by
  have plain : cs.map plainDigit = cs := by
    calc cs.map plainDigit = cs.map id :=
          List.map_congr_left fun c h => plainDigit_of_isDigit (digits c h)
      _ = cs := List.map_id cs
  have unsigned : splitSign cs = (false, cs) := by
    unfold splitSign
    split
    · next rest => cases digits '-' List.mem_cons_self
    · next rest => cases digits '+' List.mem_cons_self
    · rfl
  have all : cs.all Char.isDigit = true := List.all_eq_true.mpr digits
  unfold intOfText?
  dsimp only
  rw [String.toList_ofList, trimBy_isBlank_of_digits digits, plain, unsigned]
  rw [joinGroups_of_digits digits, Option.bind_some, all]
  simp [nonempty]

theorem intOfText?_toString (n : Nat) : intOfText? (toString n) = some (n : Int) := by
  have text : toString n = String.ofList (Nat.toDigits 10 n) := rfl
  rw [text, intOfText?_of_digits (allDigits_toDigits n) Nat.toDigits_ne_nil, valueOf_toDigits]

end Scout.Decimal
