import TypedQuery.Calendar.Reader
import TypedQuery.Proofs.Number.Digits

/-!
# The written forms of dates and timestamps

A date reads as it is written, whatever the year (`Date.read?_text`).  A timestamp does so where its
year has four digits and a leap second ends a minute (`Timestamp.read?_text`).  In other years the
written form has a sign in front, which the internet form does not have, and an offset at its end,
which the other forms do not have, so that nothing reads it.

Each reader that takes a number from the front of a text has a lemma for a number that stands there
with its digits, and the whole text is read by these in turn.
-/

namespace TypedQuery

open Number Text

/-! ## Numbers at the front of a text -/

section Taking

variable {width low high n : Nat} {ds rest : List Char}

/-- Digits are taken to the last one, which the width or the rest of the text makes the last. -/
theorem takeNumber?_append (hne : ds ≠ []) (hdigits : ∀ c ∈ ds, c.isDigit = true)
    (hwidth : ds.length ≤ width) (hstop : ds.length = width ∨ EndsDigits rest) :
    takeNumber? width (ds ++ rest) = some (digitsValue ds, rest) := by
  have htaken : ((ds ++ rest).take width).takeWhile Char.isDigit = ds := by
    rw [List.take_append, List.take_of_length_le hwidth]
    refine takeWhile_isDigit_append hdigits ?_
    rcases hstop with hstop | hstop
    · rw [hstop, Nat.sub_self, List.take_zero]
      exact endsDigits_nil
    · intro c hc
      rw [List.head?_take] at hc
      split at hc
      · cases hc
      · exact hstop c hc
  have hnil : ds.isEmpty = false := List.isEmpty_eq_false_iff.2 hne
  rw [takeNumber?, htaken, hnil, List.drop_left]
  rfl

/-- Digits of the width are taken. -/
theorem takeExact?_append (hdigits : ∀ c ∈ ds, c.isDigit = true) (hwidth : ds.length = width) :
    takeExact? width (ds ++ rest) = some (digitsValue ds, rest) := by
  have hall : ds.all Char.isDigit = true := List.all_eq_true.2 hdigits
  have htest : (decide (ds.length = width) && ds.all Char.isDigit) = true := by simp [hwidth, hall]
  rw [takeExact?, List.take_left' hwidth, List.drop_left' hwidth]
  exact if_pos htest

theorem takeExact?_padded (hwidth : 0 < width) (hn : n < 10 ^ width) (rest : List Char) :
    takeExact? width (padded width n ++ rest) = some (n, rest) := by
  rw [takeExact?_append (fun _ => isDigit_of_mem_padded) (length_padded hwidth hn),
    digitsValue_padded]

theorem not_blank_of_mem_padded {c : Char} (h : c ∈ padded width n) : isBlank c = false :=
  not_blank_of_isDigit (isDigit_of_mem_padded h)

theorem dropBlank_append (hne : ds ≠ []) (h : ∀ c ∈ ds, isBlank c = false) (rest : List Char) :
    dropBlank (ds ++ rest) = ds ++ rest := by
  cases ds with
  | nil => exact absurd rfl hne
  | cons c ds => exact dropBlank_cons_of_not_blank (h c (List.mem_cons_self ..)) _

/-- The digits of a fraction are taken as that many places of a thousand million. -/
theorem takeNanos?_padded (hwidth : 0 < width) (hwidth' : width ≤ 9) (hn : n < 10 ^ width)
    (hrest : EndsDigits rest) :
    takeNanos? (padded width n ++ rest) = some (n * 10 ^ (9 - width), rest) := by
  have hlength : (padded width n).length = width := length_padded hwidth hn
  have hnil : (padded width n).isEmpty = false :=
    List.isEmpty_eq_false_iff.2 (padded_ne_nil width n)
  have hkept : (padded width n).take 9 = padded width n :=
    List.take_of_length_le (hlength.le.trans hwidth')
  simp [takeNanos?, takeWhile_isDigit_append (fun _ => isDigit_of_mem_padded) hrest, hnil, hkept,
    List.drop_left' hlength, hlength]

theorem takeBounded?_padded (hlow : low ≤ n) (hhigh : n ≤ high) (hn : n < 100)
    (rest : List Char) : takeBounded? low high (padded 2 n ++ rest) = some (n, rest) := by
  have hlength : (padded 2 n).length = 2 := length_padded (by decide) hn
  have htest : (decide (low ≤ n) && decide (n ≤ high)) = true := by simp [hlow, hhigh]
  rw [takeBounded?, dropBlank_append (padded_ne_nil 2 n) fun _ => not_blank_of_mem_padded,
    takeNumber?_append (padded_ne_nil 2 n) (fun _ => isDigit_of_mem_padded) hlength.le
      (Or.inl hlength), digitsValue_padded]
  exact if_pos htest

theorem takeMark?_cons (c : Char) (rest : List Char) : takeMark? c (c :: rest) = some rest :=
  if_pos (beq_self_eq_true c)

end Taking

/-! ## Dates -/

namespace Date

theorem toList_yearText (year : Int) :
    (yearText year).toList =
      if 0 ≤ year ∧ year ≤ 9999 then padded 4 year.natAbs
      else (if year < 0 then '-' else '+') :: padded 4 year.natAbs := by
  unfold yearText
  by_cases hshort : 0 ≤ year ∧ year ≤ 9999
  · rw [if_pos hshort, if_pos (by simp [hshort])]
    exact String.toList_ofList
  · rw [if_neg hshort, if_neg (by simpa using hshort)]
    split <;> simp [padded]

theorem not_blank_of_mem_yearText {year : Int} {c : Char} (h : c ∈ (yearText year).toList) :
    isBlank c = false := by
  rw [toList_yearText] at h
  split at h
  · exact not_blank_of_mem_padded h
  · rcases List.mem_cons.1 h with rfl | h
    · split <;> rfl
    · exact not_blank_of_mem_padded h

theorem yearText_ne_nil (year : Int) : (yearText year).toList ≠ [] := by
  rw [toList_yearText]
  split
  · exact padded_ne_nil 4 _
  · exact List.cons_ne_nil _ _

/-- A year of four digits is taken by its width, and one with a sign up to where its digits end. -/
theorem takeYear?_yearText (year : Int) {rest : List Char} (hrest : EndsDigits rest) :
    takeYear? ((yearText year).toList ++ rest) = some (year, rest) := by
  have hsigned : takeNumber? (padded 4 year.natAbs ++ rest).length (padded 4 year.natAbs ++ rest) =
      some (year.natAbs, rest) := by
    rw [takeNumber?_append (padded_ne_nil 4 _) (fun _ => isDigit_of_mem_padded) (by simp)
      (Or.inr hrest), digitsValue_padded]
  rw [toList_yearText]
  by_cases hshort : 0 ≤ year ∧ year ≤ 9999
  · have hlength : (padded 4 year.natAbs).length = 4 := length_padded (by decide) (by omega)
    have hnumber : takeNumber? 4 (padded 4 year.natAbs ++ rest) = some (year.natAbs, rest) := by
      rw [takeNumber?_append (padded_ne_nil 4 _) (fun _ => isDigit_of_mem_padded) hlength.le
        (Or.inl hlength), digitsValue_padded]
    have hsign : ∀ c cs, padded 4 year.natAbs ++ rest = c :: cs → c.isDigit = true := by
      intro c cs h
      cases hcs : padded 4 year.natAbs with
      | nil => exact absurd hcs (padded_ne_nil 4 _)
      | cons d ds =>
        rw [hcs] at h
        obtain ⟨rfl, -⟩ := List.cons.inj h
        exact isDigit_of_mem_padded (hcs ▸ List.mem_cons_self)
    rw [if_pos hshort]
    unfold takeYear?
    split
    · rename_i h
      exact absurd (hsign _ _ h) (by decide)
    · rename_i h
      exact absurd (hsign _ _ h) (by decide)
    · have hpos : (year.natAbs : Int) = year := Int.natAbs_of_nonneg hshort.1
      simp only [hnumber, Option.map_some, hpos]
  · rw [if_neg hshort]
    split
    · have hneg : -(year.natAbs : Int) = year := by omega
      simp only [List.cons_append, takeYear?, hsigned, Option.map_some, hneg]
    · have hpos : (year.natAbs : Int) = year := Int.natAbs_of_nonneg (by omega)
      simp only [List.cons_append, takeYear?, hsigned, Option.map_some, hpos]

theorem toList_text (d : Date) :
    d.text.toList =
      (yearText d.year).toList ++ '-' :: (padded 2 d.month ++ '-' :: padded 2 d.day) := by
  simp [text, twoDigits, padded]

theorem not_blank_of_mem_text {d : Date} {c : Char} (h : c ∈ d.text.toList) :
    isBlank c = false := by
  simp only [toList_text, List.mem_append, List.mem_cons] at h
  rcases h with h | rfl | h | rfl | h
  · exact not_blank_of_mem_yearText h
  · rfl
  · exact not_blank_of_mem_padded h
  · rfl
  · exact not_blank_of_mem_padded h

variable {d : Date}

theorem day_le (d : Date) : d.day ≤ 31 := by
  refine d.valid.2.2.2.trans ?_
  unfold daysInMonth
  split <;> (try split) <;> decide

/-- The date of its own parts. -/
theorem of?_self (hyear : -262143 ≤ d.year ∧ d.year ≤ 262142) :
    of? d.year d.month d.day = some d := by
  rw [of?, dif_pos d.valid, if_pos hyear]

theorem readPattern?_text (d : Date) :
    readPattern? datePattern d.text.toList = some ⟨d.year, d.month, d.day, 0, 0, 0, 0⟩ := by
  obtain ⟨hmonth, hmonth', hday, -⟩ := d.valid
  have hday' := d.day_le
  have hhyphen : ∀ rest, EndsDigits ('-' :: rest) := fun rest => endsDigits_cons rfl rest
  have hlast : takeBounded? 1 31 (padded 2 d.day) = some (d.day, []) := by
    simpa using takeBounded?_padded hday hday' (by omega) []
  rw [readPattern?, datePattern, toList_text]
  simp only [takePattern?, PatternItem.take?, dropBlank_append (yearText_ne_nil d.year)
    (fun _ => not_blank_of_mem_yearText), takeYear?_yearText d.year (hhyphen _),
    takeBounded?_padded hmonth hmonth' (show d.month < 100 by omega), hlast, beq_self_eq_true,
    if_true, Option.map_some, Option.bind_eq_bind, Option.bind_some]

/-- A date reads as it is written. -/
theorem read?_text (hyear : -262143 ≤ d.year ∧ d.year ≤ 262142) :
    read? d.text.toList = some d := by
  have hplain : readPlainDate? d.text.toList = some d := by
    rw [readPlainDate?, readPattern?_text, Option.bind_eq_bind, Option.bind_some, Moment.date?,
      of?_self hyear]
  rw [read?, hplain, Option.some_or]

end Date

/-! ## Timestamps -/

namespace Timestamp

variable {t : Timestamp}

theorem toList_text (t : Timestamp) :
    t.text.toList =
      t.date.text.toList ++ 'T' :: (padded 2 (t.second / 3600) ++ ':' ::
        (padded 2 (t.second / 60 % 60) ++ ':' ::
          (padded 2 (t.second % 60 + t.nanos / 1000000000) ++
            ((fractionText (t.nanos % 1000000000)).toList ++ ['+', '0', '0', ':', '0', '0'])))) := by
  simp [text, localText, Date.twoDigits, padded]

/-- No fraction is written, or a point and three, six or nine digits that make it. -/
theorem fractionText_cases {n : Nat} (hn : n < 1000000000) :
    (n = 0 ∧ (fractionText n).toList = []) ∨
      ∃ width m, 0 < width ∧ width ≤ 9 ∧ m < 10 ^ width ∧ m * 10 ^ (9 - width) = n ∧
        (fractionText n).toList = '.' :: padded width m := by
  unfold fractionText
  split
  · exact Or.inl ⟨‹n = 0›, rfl⟩
  refine Or.inr ?_
  split
  · exact ⟨3, n / 1000000, by decide, by decide, by omega, by omega, by simp [padded]⟩
  split
  · exact ⟨6, n / 1000, by decide, by decide, by omega, by omega, by simp [padded]⟩
  · exact ⟨9, n, by decide, by decide, hn, Nat.mul_one n, by simp [padded]⟩

theorem not_blank_of_mem_fractionText {n : Nat} (hn : n < 1000000000) {c : Char}
    (h : c ∈ (fractionText n).toList) : isBlank c = false := by
  obtain ⟨-, hnil⟩ | ⟨width, m, -, -, -, -, htext⟩ := fractionText_cases hn
  · rw [hnil] at h
    cases h
  · rw [htext] at h
    rcases List.mem_cons.1 h with rfl | h
    · rfl
    · exact not_blank_of_mem_padded h

theorem not_blank_of_mem_text {c : Char} (h : c ∈ t.text.toList) : isBlank c = false := by
  have hoffset : ∀ c ∈ ['+', '0', '0', ':', '0', '0'], isBlank c = false := by
    simp only [List.forall_mem_cons]
    exact ⟨rfl, rfl, rfl, rfl, rfl, rfl, nofun⟩
  rw [toList_text] at h
  rcases List.mem_append.1 h with h | h
  · exact Date.not_blank_of_mem_text h
  rcases List.mem_cons.1 h with rfl | h
  · rfl
  rcases List.mem_append.1 h with h | h
  · exact not_blank_of_mem_padded h
  rcases List.mem_cons.1 h with rfl | h
  · rfl
  rcases List.mem_append.1 h with h | h
  · exact not_blank_of_mem_padded h
  rcases List.mem_cons.1 h with rfl | h
  · rfl
  rcases List.mem_append.1 h with h | h
  · exact not_blank_of_mem_padded h
  rcases List.mem_append.1 h with h | h
  · exact not_blank_of_mem_fractionText (Nat.mod_lt _ (by decide)) h
  · exact hoffset c h

theorem minusOffset?_zero (t : Timestamp) : t.minusOffset? 0 = some t := by
  have hsecond := t.second_lt
  have hlow : ¬ (t.second : Int) - 0 < 0 := by omega
  have hhigh : ¬ 86400 ≤ (t.second : Int) - 0 := by omega
  have hkept : (((t.second : Int) - 0) % 86400).toNat = t.second := by omega
  simp only [minusOffset?, hlow, hhigh, if_false, Option.map_some, hkept]

/-- A leap second is written as second 60, so that it has to end a minute to be read. -/
theorem of?_self (hleap : t.nanos < 1000000000 ∨ t.second % 60 = 59) :
    of? t.date (t.second / 3600) (t.second / 60 % 60) (t.second % 60 + t.nanos / 1000000000)
      (t.nanos % 1000000000) = some t := by
  have hsecond := t.second_lt
  have hnanos := t.nanos_lt
  rcases Nat.lt_or_ge t.nanos 1000000000 with hplain | hlate
  · have hnot : (t.second % 60 + t.nanos / 1000000000 == 60) = false := by
      rw [beq_eq_false_iff_ne]; omega
    have hs : t.second / 3600 * 3600 + t.second / 60 % 60 * 60 +
        (t.second % 60 + t.nanos / 1000000000) = t.second := by omega
    have hn : t.nanos % 1000000000 + 0 = t.nanos := by omega
    simp only [of?, hnot, Bool.false_eq_true, if_false, hs, hn]
    exact dif_pos ⟨by omega, by omega, by omega, hsecond, hnanos⟩
  · have hleap : (t.second % 60 + t.nanos / 1000000000 == 60) = true := by
      rw [beq_iff_eq]; omega
    have hs : t.second / 3600 * 3600 + t.second / 60 % 60 * 60 + 59 = t.second := by omega
    have hn : t.nanos % 1000000000 + 1000000000 = t.nanos := by omega
    simp only [of?, hleap, if_true, hs, hn]
    exact dif_pos ⟨by omega, by omega, by omega, hsecond, hnanos⟩

/-- The parts that are written of a timestamp make it up again. -/
theorem timestamp?_parts (hyear : 0 ≤ t.date.year ∧ t.date.year ≤ 9999)
    (hleap : t.nanos < 1000000000 ∨ t.second % 60 = 59) :
    Moment.timestamp? ⟨t.date.year.natAbs, t.date.month, t.date.day, t.second / 3600,
      t.second / 60 % 60, t.second % 60 + t.nanos / 1000000000, t.nanos % 1000000000⟩ 0 =
        some t := by
  rw [Moment.timestamp?, Moment.date?, Int.natAbs_of_nonneg hyear.1, Date.of?_self (by omega)]
  simp only [Option.bind_eq_bind, Option.bind_some, of?_self hleap, minusOffset?_zero]

/-- The internet form reads a timestamp as it is written. -/
theorem readInternet?_text (hyear : 0 ≤ t.date.year ∧ t.date.year ≤ 9999)
    (hleap : t.nanos < 1000000000 ∨ t.second % 60 = 59) :
    readInternet? t.text.toList = some t := by
  obtain ⟨hmonth, hmonth', hday, -⟩ := t.date.valid
  have hday' := t.date.day_le
  have hsecond := t.second_lt
  have hnanos := t.nanos_lt
  have hyearText : (Date.yearText t.date.year).toList = padded 4 t.date.year.natAbs := by
    rw [Date.toList_yearText, if_pos hyear]
  have htakeYear : ∀ rest, takeExact? 4 (padded 4 t.date.year.natAbs ++ rest) =
      some (t.date.year.natAbs, rest) := takeExact?_padded (by decide) (by omega)
  have htake : ∀ n < 100, ∀ rest, takeExact? 2 (padded 2 n ++ rest) = some (n, rest) :=
    fun n hn => takeExact?_padded (by decide) hn
  have hoffset : takeOffset? (takeMark? ':') ['+', '0', '0', ':', '0', '0'] = some (0, []) := rfl
  have hmoment := timestamp?_parts hyear hleap
  rw [toList_text, Date.toList_text, hyearText, readInternet?]
  simp only [List.append_assoc, List.cons_append]
  -- what each step takes, up to the fraction
  refine Option.bind_eq_some_iff.2 ⟨_, htakeYear _, ?_⟩
  refine Option.bind_eq_some_iff.2 ⟨_, takeMark?_cons .., ?_⟩
  refine Option.bind_eq_some_iff.2 ⟨_, htake t.date.month (by omega) _, ?_⟩
  refine Option.bind_eq_some_iff.2 ⟨_, takeMark?_cons .., ?_⟩
  refine Option.bind_eq_some_iff.2 ⟨_, htake t.date.day (by omega) _, ?_⟩
  refine Option.bind_eq_some_iff.2 ⟨_, Option.or_of_isSome rfl, ?_⟩
  refine Option.bind_eq_some_iff.2 ⟨_, htake (t.second / 3600) (by omega) _, ?_⟩
  refine Option.bind_eq_some_iff.2 ⟨_, takeMark?_cons .., ?_⟩
  refine Option.bind_eq_some_iff.2 ⟨_, htake (t.second / 60 % 60) (by omega) _, ?_⟩
  refine Option.bind_eq_some_iff.2 ⟨_, takeMark?_cons .., ?_⟩
  refine Option.bind_eq_some_iff.2
    ⟨_, htake (t.second % 60 + t.nanos / 1000000000) (by omega) _, ?_⟩
  have hends : EndsDigits ['+', '0', '0', ':', '0', '0'] := endsDigits_cons rfl _
  obtain ⟨hzero, hnil⟩ | ⟨width, m, hwidth, hwidth', hm, hvalue, htext⟩ :=
    fractionText_cases (Nat.mod_lt t.nanos (show 0 < 1000000000 by decide))
  · rw [hzero] at hmoment
    rw [hnil]
    refine Option.bind_eq_some_iff.2 ⟨(0, ['+', '0', '0', ':', '0', '0']), rfl, ?_⟩
    refine Option.bind_eq_some_iff.2 ⟨_, hoffset, ?_⟩
    exact (if_pos rfl).trans hmoment
  · rw [← hvalue] at hmoment
    rw [htext]
    refine Option.bind_eq_some_iff.2 ⟨_, takeNanos?_padded hwidth hwidth' hm hends, ?_⟩
    refine Option.bind_eq_some_iff.2 ⟨_, hoffset, ?_⟩
    exact (if_pos rfl).trans hmoment

/-- A timestamp whose year has four digits reads as it is written. -/
theorem read?_text (hyear : 0 ≤ t.date.year ∧ t.date.year ≤ 9999)
    (hleap : t.nanos < 1000000000 ∨ t.second % 60 = 59) : read? t.text.toList = some t := by
  rw [read?, readInternet?_text hyear hleap, Option.some_or]

end Timestamp

end TypedQuery
