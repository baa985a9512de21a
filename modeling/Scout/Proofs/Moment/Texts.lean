import Scout.Proofs.Decimal.Digits
import Scout.Proofs.Moment.Dates

/-!
# Moments read back

Every moment that a document gives is a dated one, and the document form of a
dated moment is read as that moment.
-/

namespace Scout.Moment

open Decimal (AllDigits NoDigit valueOf)

/-! ## Padded numbers -/

theorem valueOf_lt {ds : List Char} (hd : AllDigits ds) : valueOf ds < 10 ^ ds.length := by
  induction ds using List.reverseRecOn with
  | nil => simp [valueOf, Decimal.ofDigits]
  | append_singleton ds c ih =>
    have hc : c.isDigit = true := hd c (by simp)
    have hlast : valueOf [c] < 10 := by
      have hhigh : c.toNat ≤ 57 := by
        rw [Char.isDigit, Bool.and_eq_true, decide_eq_true_eq, decide_eq_true_eq] at hc
        exact hc.2
      simp only [valueOf, List.filterMap_cons, Decimal.asciiDigit?, hc, if_true, List.filterMap_nil,
        Decimal.ofDigits, List.foldl_cons, List.foldl_nil]
      omega
    have hfront := ih fun d h => hd d (List.mem_append_left _ h)
    rw [Decimal.valueOf_append _ (by simpa [AllDigits] using hc), List.length_append,
      List.length_singleton, Nat.pow_succ]
    omega

def padded (width n : Nat) : List Char :=
  (zeroPadded width n).toList

theorem length_padded {width n : Nat} (hwidth : 0 < width) (hn : n < 10 ^ width) :
    (padded width n).length = width := by
  have hlength : (Nat.toDigits 10 n).length ≤ width :=
    (Nat.length_toDigits_le_iff (by decide) hwidth).2 hn
  simp only [padded, zeroPadded, String.toList_ofList, List.length_append, List.length_replicate]
  omega

theorem allDigits_padded (width n : Nat) : AllDigits (padded width n) := by
  simp only [padded, zeroPadded, String.toList_ofList]
  exact (Decimal.allDigits_zeros _).append (Decimal.allDigits_toDigits n)

theorem valueOf_padded (width n : Nat) : valueOf (padded width n) = n := by
  simp only [padded, zeroPadded, String.toList_ofList]
  rw [Decimal.valueOf_append _ (Decimal.allDigits_toDigits n), Decimal.valueOf_zeros,
    Decimal.valueOf_toDigits]
  simp

theorem number?_padded (width n : Nat) : number? (padded width n) = some n := by
  rw [number?, if_pos (List.all_eq_true.2 (allDigits_padded width n)), valueOf_padded]

theorem length_le_utf8Len (cs : List Char) : cs.length ≤ String.utf8Len cs := by
  induction cs with
  | nil => simp
  | cons c cs ih =>
    have hc : 0 < c.utf8Size := c.utf8Size_pos
    rw [List.length_cons, String.utf8Len_cons]
    omega

theorem padded_two {n : Nat} (hn : n < 100) :
    ∃ a b, padded 2 n = [a, b] ∧ number? [a, b] = some n := by
  have hlength : (padded 2 n).length = 2 := length_padded (by decide) hn
  obtain ⟨a, b, h⟩ := List.length_eq_two.1 hlength
  exact ⟨a, b, h, h ▸ number?_padded 2 n⟩

theorem padded_four {n : Nat} (hn : n < 10000) :
    ∃ a b c d, padded 4 n = [a, b, c, d] ∧ number? [a, b, c, d] = some n := by
  have hlength : (padded 4 n).length = 4 := length_padded (by decide) hn
  obtain ⟨a, b, c, d, h⟩ := List.length_eq_four.1 hlength
  exact ⟨a, b, c, d, h, h ▸ number?_padded 4 n⟩

/-! ## Dates -/

theorem day_lt_of_isDate {year : Int} {month day : Nat}
    (h : Calendar.isDate year month day = true) : day < 100 := by
  have longest : Calendar.daysInMonth year month ≤ 31 := by
    unfold Calendar.daysInMonth
    split
    · split <;> decide
    all_goals decide
  simp only [Calendar.isDate, Bool.and_eq_true, decide_eq_true_eq] at h
  omega

theorem month_of_isDate {year : Int} {month day : Nat}
    (h : Calendar.isDate year month day = true) : 1 ≤ month ∧ month ≤ 12 := by
  simp only [Calendar.isDate, Bool.and_eq_true, decide_eq_true_eq] at h
  exact h.1.1

theorem leadingDate_padded {year month day : Nat} (hyear : year < 10000)
    (hdate : Calendar.isDate year month day = true) (rest : List Char) :
    leadingDate (padded 4 year ++ '-' :: (padded 2 month ++ '-' :: (padded 2 day ++ rest))) =
      .ok (year, month, day) := by
  obtain ⟨first, last⟩ := month_of_isDate hdate
  obtain ⟨y₁, y₂, y₃, y₄, hy, year?⟩ := padded_four hyear
  obtain ⟨m₁, m₂, hm, month?⟩ := padded_two (n := month) (by omega)
  obtain ⟨d₁, d₂, hd, day?⟩ := padded_two (day_lt_of_isDate hdate)
  have hsize := length_le_utf8Len
    (padded 4 year ++ '-' :: (padded 2 month ++ '-' :: (padded 2 day ++ rest)))
  rw [hy, hm, hd] at hsize ⊢
  simp only [List.cons_append, List.nil_append, List.length_cons] at hsize ⊢
  rw [leadingDate, String.utf8ByteSize_ofList, if_neg (by omega)]
  simp [year?, month?, day?, hdate, pure, Except.pure, bind, Except.bind]
  omega

/-! ## Times of day -/

theorem twoDigits?_padded {n bound : Nat} (hn : n < bound) (hbound : bound ≤ 100)
    (rest : List Char) : twoDigits? (padded 2 n ++ rest) bound = some (n, rest) := by
  obtain ⟨a, b, h, n?⟩ := padded_two (n := n) (by omega)
  rw [h]
  simp [twoDigits?, n?, hn]

theorem millionths_padded {micro : Nat} (h : micro < 1000000) :
    millionths (padded 6 micro) = micro := by
  have hlength : (padded 6 micro).length = 6 := length_padded (by decide) h
  rw [millionths, List.take_of_length_le (by omega), number?_padded, hlength]
  simp

def fractionChars (micro : Nat) : List Char :=
  if micro == 0 then [] else '.' :: padded 6 micro

def zoneChars : Option Int → List Char
  | none => []
  | some 0 => ['Z']
  | some s => (if s < 0 then '-' else '+') ::
    (padded 2 (s.natAbs / 3600) ++ ':' :: padded 2 (s.natAbs / 60 % 60))

theorem zoneChars_head (offset : Option Int) :
    ∀ c ∈ (zoneChars offset).head?, c = 'Z' ∨ c = '-' ∨ c = '+' := by
  intro c hc
  unfold zoneChars at hc
  split at hc
  · cases hc
  · cases hc
    exact .inl rfl
  · cases hc
    split
    · exact .inr (.inl rfl)
    · exact .inr (.inr rfl)

theorem noDigit_zone (offset : Option Int) : NoDigit (zoneChars offset) := by
  intro c hc
  rcases zoneChars_head offset c hc with rfl | rfl | rfl <;> rfl

theorem secondsOf?_written {second micro : Nat} (hsecond : second < 60) (hmicro : micro < 1000000)
    (offset : Option Int) :
    secondsOf? (':' :: (padded 2 second ++ (fractionChars micro ++ zoneChars offset))) =
      some (second, micro, zoneChars offset) := by
  have hhead := zoneChars_head offset
  simp only [secondsOf?, twoDigits?_padded hsecond (by decide), Option.bind_some, bind]
  by_cases hzero : micro = 0
  · subst hzero
    have hnone : fractionChars 0 = [] := rfl
    rw [hnone, List.nil_append]
    cases hz : zoneChars offset with
    | nil => rfl
    | cons c cs =>
      rw [hz] at hhead
      rcases hhead c rfl with rfl | rfl | rfl <;> rfl
  · have hsome : fractionChars micro = '.' :: padded 6 micro := by
      simp [fractionChars, hzero]
    have hlength : (padded 6 micro).length = 6 := length_padded (by decide) hmicro
    have hne : padded 6 micro ≠ [] := List.ne_nil_of_length_pos (by omega)
    rw [hsome, List.cons_append]
    simp [Decimal.takeWhile_digits (allDigits_padded 6 micro) (noDigit_zone offset),
      Decimal.dropWhile_digits (allDigits_padded 6 micro) (noDigit_zone offset), hne,
      millionths_padded hmicro]

theorem timeOfDay?_written {m : Moment} (h : m.IsDated) :
    timeOfDay? (padded 2 m.hour ++ ':' :: (padded 2 m.minute ++ ':' :: (padded 2 m.second ++
      (fractionChars m.micro ++ zoneChars m.offset)))) =
      some (⟨m.hour, m.minute, m.second, m.micro⟩, zoneChars m.offset) := by
  simp [timeOfDay?, twoDigits?_padded h.hour, twoDigits?_padded h.minute,
    secondsOf?_written h.second h.micro]

theorem zone?_written {offset : Option Int}
    (h : ∀ s, offset = some s → s.natAbs < 86400 ∧ s.natAbs % 60 = 0) :
    zone? (zoneChars offset) = some offset := by
  unfold zoneChars
  split
  · rfl
  · rfl
  · next s hs =>
    obtain ⟨hday, hminutes⟩ := h s rfl
    have inDay : s.natAbs / 3600 < 100 := by omega
    have inHour : s.natAbs / 60 % 60 < 60 := by omega
    have hhour := twoDigits?_padded inDay le_rfl
    have hminute := twoDigits?_padded inHour (by decide) []
    rw [List.append_nil] at hminute
    have hsize : s.natAbs / 3600 * 3600 + s.natAbs / 60 % 60 * 60 = s.natAbs := by omega
    generalize s.natAbs / 3600 = hour at *
    generalize s.natAbs / 60 % 60 = minute at *
    have hshort : hour * 3600 + minute * 60 < 86400 := by omega
    by_cases hs : s < 0
    · simp [zone?, zoneSign?, hs, hhour, hminute, hshort]
      omega
    · simp [zone?, zoneSign?, hs, hhour, hminute, hshort]
      omega

/-! ## Whole texts -/

theorem toText_toList (m : Moment) :
    m.toText.toList = padded 4 m.year ++ '-' :: (padded 2 m.month ++ '-' :: (padded 2 m.day ++
      'T' :: (padded 2 m.hour ++ ':' :: (padded 2 m.minute ++ ':' :: (padded 2 m.second ++
        (fractionChars m.micro ++ zoneChars m.offset)))))) := by
  have hfraction : (if m.micro == 0 then "" else "." ++ zeroPadded 6 m.micro).toList =
      fractionChars m.micro := by
    unfold fractionChars
    split <;> simp [padded]
  rw [toText, String.toList_append, String.toList_append, hfraction]
  split
  · next hzone => simp [hzone, zoneChars, dateText, clockText, padded]
  · next hzone => simp [hzone, zoneChars, dateText, clockText, padded]
  · next s hne hzone =>
    have hchars : zoneChars (some s) = (signedClock s).toList := by
      rw [zoneChars, signedClock]
      · by_cases hneg : s < 0 <;> simp [hneg, padded]
      · exact hne
    simp [hzone, hchars, dateText, clockText, padded]

theorem dateTime?_toText {m : Moment} (h : m.IsDated) : dateTime? m.toText.toList = some m := by
  obtain ⟨y₁, y₂, y₃, y₄, hy, -⟩ := padded_four h.year
  obtain ⟨first, last⟩ := month_of_isDate h.date
  obtain ⟨m₁, m₂, hm, -⟩ := padded_two (n := m.month) (by omega)
  obtain ⟨d₁, d₂, hd, -⟩ := padded_two (day_lt_of_isDate h.date)
  rw [toText_toList]
  rw [dateTime?, leadingDate_padded h.year h.date]
  rw [hy, hm, hd]
  simp [Except.toOption, isDateTimeMark, timeOfDay?_written h, zone?_written h.offset]

theorem ofDocumentText_toText {m : Moment} (h : m.IsDated) :
    ofDocumentText m.toText = .ok m := by
  rw [ofDocumentText]
  simp [dateTime?_toText h]

/-! ## What a document gives -/

theorem number?_lt {cs : List Char} {n : Nat} (h : number? cs = some n) : n < 10 ^ cs.length := by
  unfold number? at h
  split at h
  · next hdigits =>
    cases h
    exact valueOf_lt (List.all_eq_true.1 hdigits)
  · cases h

theorem number?_take_lt {cs : List Char} {count n : Nat} (h : number? (cs.take count) = some n) :
    n < 10 ^ count :=
  lt_of_lt_of_le (number?_lt h)
    (Nat.pow_le_pow_right (by decide) (List.length_take_le count cs))

theorem isDate_of_leadingDate {cs : List Char} {year month day : Nat}
    (h : leadingDate cs = .ok (year, month, day)) :
    year < 10000 ∧ Calendar.isDate year month day = true := by
  simp only [leadingDate, bind, Except.bind, throw, throwThe, MonadExceptOf.throw] at h
  split at h
  · cases h
  cases hyear : number? (cs.take 4) with
  | none => simp [hyear] at h
  | some y =>
    simp only [hyear] at h
    split at h
    · cases h
    cases hmonth : number? ((cs.drop 5).take 2) with
    | none => simp [hmonth] at h
    | some mo =>
      simp only [hmonth] at h
      split at h
      · cases h
      cases hday : number? ((cs.drop 8).take 2) with
      | none => simp [hday] at h
      | some d =>
        simp only [hday] at h
        split at h
        · cases h
        split at h
        · cases h
        · next hdate =>
          cases h
          exact ⟨number?_take_lt hyear, by simpa using hdate⟩

theorem twoDigits?_lt {cs rest : List Char} {bound n : Nat}
    (h : twoDigits? cs bound = some (n, rest)) : n < bound := by
  unfold twoDigits? at h
  split at h
  · cases h
  · obtain ⟨k, -, hk⟩ := Option.bind_eq_some_iff.1 h
    split at hk
    · cases hk
      assumption
    · cases hk

theorem millionths_lt (ds : List Char) : millionths ds < 1000000 := by
  have hlength : (ds.take 6).length ≤ 6 := List.length_take_le 6 ds
  have hkept : (number? (ds.take 6)).getD 0 < 10 ^ (ds.take 6).length := by
    cases h : number? (ds.take 6) with
    | none => exact Nat.pow_pos (by decide)
    | some n => exact number?_lt h
  unfold millionths
  calc _ < 10 ^ (ds.take 6).length * 10 ^ (6 - (ds.take 6).length) :=
        Nat.mul_lt_mul_of_pos_right hkept (Nat.pow_pos (by decide))
    _ = 10 ^ 6 := by rw [← Nat.pow_add, Nat.add_sub_of_le hlength]

theorem secondsOf?_bounds {cs rest : List Char} {second micro : Nat}
    (h : secondsOf? cs = some (second, micro, rest)) : second < 60 ∧ micro < 1000000 := by
  unfold secondsOf? at h
  split at h
  · obtain ⟨⟨n, after⟩, hn, h⟩ := Option.bind_eq_some_iff.1 h
    have hsecond := twoDigits?_lt hn
    dsimp only at h
    split at h
    · split at h
      · split at h
        · cases h
        · cases h
          exact ⟨hsecond, millionths_lt _⟩
      · cases h
        exact ⟨hsecond, by decide⟩
    · cases h
      exact ⟨hsecond, by decide⟩
  · cases h
    exact ⟨by decide, by decide⟩

theorem timeOfDay?_bounds {cs rest : List Char} {t : TimeOfDay}
    (h : timeOfDay? cs = some (t, rest)) :
    t.hour < 24 ∧ t.minute < 60 ∧ t.second < 60 ∧ t.micro < 1000000 := by
  unfold timeOfDay? at h
  obtain ⟨⟨hour, after⟩, hhour, h⟩ := Option.bind_eq_some_iff.1 h
  dsimp only at h
  split at h
  · obtain ⟨⟨minute, after⟩, hminute, h⟩ := Option.bind_eq_some_iff.1 h
    obtain ⟨⟨second, micro, after⟩, hsecond, h⟩ := Option.bind_eq_some_iff.1 h
    cases h
    exact ⟨twoDigits?_lt hhour, twoDigits?_lt hminute, secondsOf?_bounds hsecond⟩
  · cases h

theorem zone?_bounds {cs : List Char} {offset : Option Int} (h : zone? cs = some offset) :
    ∀ s, offset = some s → s.natAbs < 86400 ∧ s.natAbs % 60 = 0 := by
  unfold zone? at h
  split at h
  · cases h
    simp
  · cases h
    simp
  · cases h
    simp
  · obtain ⟨sign, hsign, h⟩ := Option.bind_eq_some_iff.1 h
    obtain ⟨⟨hour, after⟩, -, h⟩ := Option.bind_eq_some_iff.1 h
    obtain ⟨⟨minute, last⟩, -, h⟩ := Option.bind_eq_some_iff.1 h
    have hunit : sign = 1 ∨ sign = -1 := by
      unfold zoneSign? at hsign
      split at hsign
      · exact .inl (by cases hsign; rfl)
      split at hsign
      · exact .inr (by cases hsign; rfl)
      · cases hsign
    dsimp only at h
    split at h
    · next hsize =>
      cases h
      rw [Bool.and_eq_true, decide_eq_true_eq] at hsize
      intro s hs
      cases hs
      rcases hunit with rfl | rfl <;> omega
    · cases h

theorem isDated_dateTime? {cs : List Char} {m : Moment} (h : dateTime? cs = some m) :
    m.IsDated := by
  unfold dateTime? at h
  obtain ⟨⟨year, month, day⟩, hdate, h⟩ := Option.bind_eq_some_iff.1 h
  obtain ⟨mark, -, h⟩ := Option.bind_eq_some_iff.1 h
  dsimp only at h
  split at h
  · cases h
  obtain ⟨⟨t, rest⟩, htime, h⟩ := Option.bind_eq_some_iff.1 h
  obtain ⟨offset, hzone, h⟩ := Option.bind_eq_some_iff.1 h
  cases h
  have hleading : leadingDate cs = .ok (year, month, day) := by
    cases hl : leadingDate cs <;> simp_all [Except.toOption]
  obtain ⟨hyear, hday⟩ := isDate_of_leadingDate hleading
  obtain ⟨hhour, hminute, hsecond, hmicro⟩ := timeOfDay?_bounds htime
  exact ⟨hyear, hday, hhour, hminute, hsecond, hmicro, zone?_bounds hzone⟩

theorem isDated_ofFloatText {x : Float} {m : Moment} (h : ofFloatText x = .ok m) :
    m.IsDated := by
  unfold ofFloatText at h
  extract_lets scaled floor at h
  split at h
  · exact isDated_ofTimestamp h
  · cases h

theorem isDated_ofFloatStamp {x : Float} {m : Moment} (h : ofFloatStamp x = .ok m) :
    m.IsDated := by
  unfold ofFloatStamp at h
  split at h
  · cases h
  · exact isDated_ofTimestamp h

theorem isDated_ofDocumentText {s : String} {m : Moment} (h : ofDocumentText s = .ok m) :
    m.IsDated := by
  unfold ofDocumentText at h
  extract_lets cs stamp at h
  have hstamp (n : Moment) (hn : stamp = .ok n) : n.IsDated := by
    unfold stamp at hn
    split at hn
    · exact isDated_ofTimestamp hn
    · split at hn
      · exact isDated_ofFloatText hn
      · cases hn
  split at h
  · next htext =>
    cases h
    exact isDated_dateTime? htext
  · next hn =>
    cases h
    exact hstamp m hn
  · split at h
    · next hdate =>
      split at h
      · cases h
        obtain ⟨hyear, hday⟩ := isDate_of_leadingDate hdate
        exact ⟨hyear, hday, Nat.succ_pos _, Nat.succ_pos _, Nat.succ_pos _, Nat.succ_pos _, by simp⟩
      · cases h
    · cases h

end Scout.Moment
