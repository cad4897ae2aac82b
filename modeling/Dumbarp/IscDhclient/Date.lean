/-
The dates of lease files.

The fields of a date are runs of digits of any length.  What the parser returns has the month,
the day and the time as they are written; the year passes through a cast from `u32` to `i32`,
which turns the years from 2147483648 on into negative ones.  The calendar takes the first of
these back as years before our era, so a date written for the far future comes out older than
all others.
-/
import Dumbarp.IscDhclient.LeaseParser

namespace Dumbarp.IscDhclient

open Civil Parse

/-- The number that a run of digits stands for. -/
def digitsValue (digits : Run Char.isDigit) : ℕ := Nat.ofDigitChars 10 digits.val 0

/-- Three numbers, as in the day and in the time of a date. -/
structure Numbers where
  first : Run Char.isDigit
  second : Run Char.isDigit
  third : Run Char.isDigit

/-- The numbers with a character between them. -/
def Numbers.text (sep : Char) (n : Numbers) : List Char :=
  n.first.val ++ sep :: (n.second.val ++ sep :: n.third.val)

/-- The numbers begin with a digit. -/
lemma Numbers.stops {sep : Char} {rest : List Char} (n : Numbers) :
    Stops isBlank (n.text sep ++ rest) := by
  rw [Numbers.text, List.append_assoc]
  exact n.first.stops fun _ => isBlank_of_isDigit

/-- What the numbers stand for. -/
def Numbers.values (n : Numbers) : List ℕ :=
  [digitsValue n.first, digitsValue n.second, digitsValue n.third]

/-- The text of a date: its fields and the blanks between them. -/
structure DateText where
  weekday : Run Char.isDigit
  afterWeekday : Run isBlank
  day : Numbers
  afterDay : Run isBlank
  time : Numbers

namespace DateText

/-- The characters of the date. -/
def text (d : DateText) : List Char :=
  d.weekday.val ++ (d.afterWeekday.val ++ (d.day.text '/' ++ (d.afterDay.val ++ d.time.text ':')))

/-- A date begins with a digit. -/
lemma stops {rest : List Char} (d : DateText) : Stops isBlank (d.text ++ rest) := by
  rw [text, List.append_assoc]
  exact d.weekday.stops fun _ => isBlank_of_isDigit

/-- The written fields: year, month, day, hour, minute and second. -/
def fields (d : DateText) : List ℕ := d.day.values ++ d.time.values

/-- The written year. -/
def year (d : DateText) : ℕ := digitsValue d.day.first

/-- The year after the cast. -/
def castYear (d : DateText) : ℤ := (UInt32.ofNat d.year).toInt32.toInt

/-- The moment that the parser makes of the text. -/
structure Gives (platform : Platform) (d : DateText) (t : DateTime) : Prop where
  weekday : digitsValue d.weekday < 2 ^ 32
  year_lt : d.year < 2 ^ 32
  year : t.date.year = d.castYear
  range : platform.chrono.minYear ≤ d.castYear ∧ d.castYear ≤ platform.chrono.maxYear
  month : t.date.month = digitsValue d.day.second
  day : t.date.day = digitsValue d.day.third
  hour : t.hour = digitsValue d.time.first
  minute : t.minute = digitsValue d.time.second
  second : t.second = digitsValue d.time.third

end DateText

section Parsing

variable {platform : Platform} {input rest : List Char} {t : DateTime} {n : UInt32}

lemma parseDigits_eq_some {digits : List Char} :
    parseDigits digits = some n ↔ Nat.ofDigitChars 10 digits 0 = n.toNat := by
  rw [parseDigits]
  constructor
  · intro h
    split at h
    · rename_i hlt
      obtain rfl := Option.some.inj h
      exact (UInt32.toNat_ofNat_of_lt' hlt).symm
    · cases h
  · intro h
    rw [h, if_pos n.toNat_lt, UInt32.ofNat_toNat]

/-- **A number** is read off a whole run of digits if it fits into 32 bits. -/
lemma run_parseU32_eq_some :
    parseU32.run input = some (n, rest) ↔
      ∃ digits : Run Char.isDigit, input = digits.val ++ rest ∧ Stops Char.isDigit rest ∧
        digitsValue digits = n.toNat := by
  rw [parseU32, run_bind_eq_some]
  constructor
  · rintro ⟨digits, mid, hdigits, h⟩
    obtain ⟨hne, hinput, hall, hstop⟩ := run_takeWhile1_eq_some.mp hdigits
    obtain ⟨hparse, rfl⟩ := run_ofOption_eq_some.mp h
    exact ⟨⟨digits, hne, hall⟩, hinput, hstop, parseDigits_eq_some.mp hparse⟩
  · rintro ⟨digits, rfl, hstop, hvalue⟩
    exact ⟨digits.val, rest, run_takeWhile1_run digits hstop,
      run_ofOption_eq_some.mpr ⟨parseDigits_eq_some.mpr hvalue, rfl⟩⟩

/-- A run of blanks. -/
lemma run_space1_eq_some {blanks : List Char} :
    space1.run input = some (blanks, rest) ↔
      ∃ r : Run isBlank, r.val = blanks ∧ input = r.val ++ rest ∧ Stops isBlank rest := by
  rw [space1, run_takeWhile1_eq_some]
  constructor
  · rintro ⟨hne, hinput, hall, hstop⟩
    exact ⟨⟨blanks, hne, hall⟩, rfl, hinput, hstop⟩
  · rintro ⟨r, rfl, hinput, hstop⟩
    exact ⟨r.property.1, hinput, r.property.2, hstop⟩

/-- The moment that the numbers of a date stand for. -/
lemma andHms_fromYmd_eq_some {year : Int32} {month day hour minute second : UInt32} :
    ((platform.chrono.fromYmdOpt year month day).bind
        fun d => Chrono.andHmsOpt d hour minute second) = some t ↔
      (platform.chrono.minYear ≤ year.toInt ∧ year.toInt ≤ platform.chrono.maxYear) ∧
        t.date.year = year.toInt ∧ t.date.month = month.toNat ∧ t.date.day = day.toNat ∧
          t.hour = hour.toNat ∧ t.minute = minute.toNat ∧ t.second = second.toNat := by
  rw [Option.bind_eq_some_iff]
  constructor
  · rintro ⟨date, hdate, htime⟩
    obtain ⟨hrange, hyear, hmonth, hday⟩ := Chrono.fromYmdOpt_eq_some.mp hdate
    obtain ⟨rfl, hhour, hminute, hsecond⟩ := Chrono.andHmsOpt_eq_some.mp htime
    exact ⟨hrange, hyear, hmonth, hday, hhour, hminute, hsecond⟩
  · rintro ⟨hrange, hyear, hmonth, hday, hhour, hminute, hsecond⟩
    exact ⟨t.date, Chrono.fromYmdOpt_eq_some.mpr ⟨hrange, hyear, hmonth, hday⟩,
      Chrono.andHmsOpt_eq_some.mpr ⟨rfl, hhour, hminute, hsecond⟩⟩

/-- Three numbers with a character between them. -/
def parseNumbers (sep : Char) : Parser (UInt32 × UInt32 × UInt32) := do
  let first ← parseU32
  char sep
  let second ← parseU32
  char sep
  let third ← parseU32
  return (first, second, third)

lemma run_parseNumbers_eq_some {sep : Char} (hsep : sep.isDigit = false)
    {ns : UInt32 × UInt32 × UInt32} :
    (parseNumbers sep).run input = some (ns, rest) ↔
      ∃ n : Numbers, input = n.text sep ++ rest ∧ Stops Char.isDigit rest ∧
        digitsValue n.first = ns.1.toNat ∧ digitsValue n.second = ns.2.1.toNat ∧
          digitsValue n.third = ns.2.2.toNat := by
  simp only [parseNumbers, run_bind_eq_some, run_parseU32_eq_some, run_char_eq_some,
    run_pure_eq_some]
  constructor
  · rintro ⟨_, _, ⟨a, rfl, -, ha⟩, _, _, rfl, _, _, ⟨b, rfl, -, hb⟩, _, _, rfl, _, _,
      ⟨c, rfl, hstop, hc⟩, rfl, rfl⟩
    exact ⟨⟨a, b, c⟩, by simp [Numbers.text], hstop, ha, hb, hc⟩
  · rintro ⟨n, rfl, hstop, ha, hb, hc⟩
    have htext : n.text sep ++ rest =
        n.first.val ++ sep :: (n.second.val ++ sep :: (n.third.val ++ rest)) := by
      simp [Numbers.text]
    exact ⟨_, _, ⟨n.first, htext, by simpa using hsep, ha⟩, (), _, rfl,
      _, _, ⟨n.second, rfl, by simpa using hsep, hb⟩, (), _, rfl,
      _, _, ⟨n.third, rfl, hstop, hc⟩, rfl, rfl⟩

lemma parseDatetime_eq :
    parseDatetime platform = (do
      let _ ← parseU32
      let _ ← space1
      let day ← parseNumbers '/'
      let _ ← space1
      let time ← parseNumbers ':'
      ofOption ((platform.chrono.fromYmdOpt day.1.toInt32 day.2.1 day.2.2).bind
        fun d => Chrono.andHmsOpt d time.1 time.2.1 time.2.2)) := by
  simp [parseDatetime, parseNumbers]

lemma DateText.Gives.lt {d : DateText} (h : d.Gives platform t) :
    ∀ n ∈ d.fields, n < 2 ^ 32 := by
  obtain ⟨-, hmonth, -, hday⟩ := t.date.valid
  obtain ⟨hhour, hminute, hsecond⟩ := t.valid
  have hlength := daysInMonth_le t.date.year t.date.month
  simp only [fields, Numbers.values, List.cons_append, List.nil_append, List.mem_cons,
    List.not_mem_nil, or_false, ← h.month, ← h.day, ← h.hour, ← h.minute, ← h.second]
  have hyear := h.year_lt
  rintro n (rfl | rfl | rfl | rfl | rfl | rfl)
  · exact hyear
  all_goals omega

/-- **The parser accepts** the texts of dates, and gives the moment that the fields stand for. -/
theorem run_parseDatetime_eq_some :
    (parseDatetime platform).run input = some (t, rest) ↔
      ∃ d : DateText, input = d.text ++ rest ∧ Stops Char.isDigit rest ∧
        d.Gives platform t := by
  simp only [parseDatetime_eq, run_bind_eq_some, run_parseU32_eq_some, run_space1_eq_some,
    run_parseNumbers_eq_some (show '/'.isDigit = false by decide),
    run_parseNumbers_eq_some (show ':'.isDigit = false by decide), run_ofOption_eq_some,
    andHms_fromYmd_eq_some]
  constructor
  · rintro ⟨weekday, _, ⟨w, rfl, -, hw⟩, _, _, ⟨b, -, rfl, -⟩, ⟨year, month, day⟩, _,
      ⟨n, rfl, -, hy, hm, hd⟩, _, _, ⟨b', -, rfl, -⟩, ⟨hour, minute, second⟩, _,
      ⟨n', rfl, hstop, hh, hmi, hs⟩, ⟨hrange, hyear, hmonth, hday, hhour, hminute, hsecond⟩, rfl⟩
    refine ⟨⟨w, b, n, b', n'⟩, by simp [DateText.text], hstop, ?_⟩
    have hcast : DateText.castYear ⟨w, b, n, b', n'⟩ = year.toInt32.toInt := by
      rw [DateText.castYear, DateText.year, hy, UInt32.ofNat_toNat]
    have hlt : digitsValue n.first < 2 ^ 32 := hy ▸ year.toNat_lt
    exact ⟨hw ▸ weekday.toNat_lt, hlt, hyear.trans hcast.symm,
      hcast.symm ▸ hrange, hmonth.trans hm.symm, hday.trans hd.symm, hhour.trans hh.symm,
      hminute.trans hmi.symm, hsecond.trans hs.symm⟩
  · rintro ⟨d, rfl, hstop, h⟩
    have hlt := h.lt
    simp only [DateText.fields, Numbers.values, List.cons_append, List.nil_append,
      List.forall_mem_cons] at hlt
    obtain ⟨-, hmonth, hday, hhour, hminute, hsecond, -⟩ := hlt
    have htext : d.text ++ rest = d.weekday.val ++ (d.afterWeekday.val ++ (d.day.text '/' ++
        (d.afterDay.val ++ (d.time.text ':' ++ rest)))) := by
      simp [DateText.text]
    have hvalue {k : ℕ} (hk : k < 2 ^ 32) : k = (UInt32.ofNat k).toNat :=
      (UInt32.toNat_ofNat_of_lt' hk).symm
    refine ⟨UInt32.ofNat (digitsValue d.weekday), _,
      ⟨d.weekday, htext, d.afterWeekday.stops fun _ => isDigit_of_isBlank, hvalue h.weekday⟩,
      _, _, ⟨d.afterWeekday, rfl, rfl, d.day.stops⟩,
      (UInt32.ofNat d.year, UInt32.ofNat (digitsValue d.day.second),
        UInt32.ofNat (digitsValue d.day.third)), _,
      ⟨d.day, rfl, d.afterDay.stops fun _ => isDigit_of_isBlank, hvalue h.year_lt, hvalue hmonth,
        hvalue hday⟩,
      _, _, ⟨d.afterDay, rfl, rfl, d.time.stops⟩,
      (UInt32.ofNat (digitsValue d.time.first), UInt32.ofNat (digitsValue d.time.second),
        UInt32.ofNat (digitsValue d.time.third)), rest,
      ⟨d.time, rfl, hstop, hvalue hhour, hvalue hminute, hvalue hsecond⟩, ?_, rfl⟩
    exact ⟨h.range, h.year, h.month.trans (hvalue hmonth), h.day.trans (hvalue hday),
      h.hour.trans (hvalue hhour), h.minute.trans (hvalue hminute),
      h.second.trans (hvalue hsecond)⟩

end Parsing

/-! ## The written fields -/

section Written

variable {platform : Platform} {input input' rest rest' : List Char} {t t' : DateTime}
  {d d' : DateText}

lemma Numbers.text_inj {sep : Char} (hsep : sep.isDigit = false) {n n' : Numbers}
    {s s' : List Char} (hs : Stops Char.isDigit s) (hs' : Stops Char.isDigit s')
    (h : n.text sep ++ s = n'.text sep ++ s') : n = n' ∧ s = s' := by
  obtain ⟨a, b, c⟩ := n
  obtain ⟨a', b', c'⟩ := n'
  simp only [Numbers.text, List.append_assoc, List.cons_append] at h
  have hstop (l : List Char) : Stops Char.isDigit (sep :: l) := by simpa using hsep
  obtain ⟨rfl, hbc⟩ := Run.append_inj (hstop _) (hstop _) h
  obtain ⟨rfl, hc⟩ := Run.append_inj (hstop _) (hstop _) ((List.cons_inj_right sep).mp hbc)
  obtain ⟨rfl, hrest⟩ := Run.append_inj hs hs' ((List.cons_inj_right sep).mp hc)
  exact ⟨rfl, hrest⟩

/-- A text is that of one date only. -/
lemma DateText.text_injective : Function.Injective DateText.text := by
  rintro ⟨w, b, n, c, m⟩ ⟨w', b', n', c', m'⟩ h
  simp only [DateText.text] at h
  have hblank (r : Run isBlank) (l : List Char) : Stops Char.isDigit (r.val ++ l) :=
    r.stops fun _ => isDigit_of_isBlank
  have hnumbers (k : Numbers) : Stops isBlank (k.text ':') := by
    simpa using @Numbers.stops ':' [] k
  obtain ⟨rfl, hrest⟩ := Run.append_inj (hblank _ _) (hblank _ _) h
  obtain ⟨rfl, hday⟩ := Run.append_inj n.stops n'.stops hrest
  obtain ⟨rfl, hblanks⟩ := Numbers.text_inj (show '/'.isDigit = false by decide)
    (hblank _ _) (hblank _ _) hday
  obtain ⟨rfl, htime⟩ := Run.append_inj (hnumbers m) (hnumbers m') hblanks
  obtain ⟨rfl, -⟩ := Numbers.text_inj (show ':'.isDigit = false by decide) stops_nil stops_nil
    (congrArg (· ++ []) htime)
  rfl

/-- What the parser returns is what the text that it took off gives. -/
lemma gives_of_run (h : (parseDatetime platform).run input = some (t, rest))
    (hinput : input = d.text ++ rest) : d.Gives platform t := by
  obtain ⟨d₀, hinput₀, -, hgives⟩ := run_parseDatetime_eq_some.mp h
  have htext : d.text = d₀.text := List.append_cancel_right (hinput.symm.trans hinput₀)
  rwa [DateText.text_injective htext]

/-- The moment has the written fields. -/
structure AsWritten (d : DateText) (t : DateTime) : Prop where
  year : t.date.year = d.year
  month : t.date.month = digitsValue d.day.second
  day : t.date.day = digitsValue d.day.third
  hour : t.hour = digitsValue d.time.first
  minute : t.minute = digitsValue d.time.second
  second : t.second = digitsValue d.time.third

/-- The moments come in the order of the written fields. -/
def SameOrder (d d' : DateText) (t t' : DateTime) : Prop :=
  (t < t' ↔ d.fields < d'.fields) ∧ (t' < t ↔ d'.fields < d.fields)

/-- The cast keeps the years below 2147483648 and takes 4294967296 from the others. -/
lemma DateText.castYear_eq (h : d.year < 2 ^ 32) :
    d.castYear = if d.year < 2 ^ 31 then (d.year : ℤ) else d.year - 2 ^ 32 := by
  have heq : d.castYear = (UInt32.ofNat d.year).toBitVec.toInt := rfl
  rw [heq, BitVec.toInt_eq_toNat_cond, UInt32.toNat_toBitVec, UInt32.toNat_ofNat_of_lt' h]
  split_ifs <;> omega

/-- **The moment is as it is written** exactly if the cast keeps the year. -/
lemma DateText.Gives.asWritten_iff (h : d.Gives platform t) :
    AsWritten d t ↔ d.year < 2 ^ 31 := by
  have hyear := h.year.trans (d.castYear_eq h.year_lt)
  constructor
  · intro hw
    have := hw.year
    split_ifs at hyear <;> omega
  · intro hlt
    rw [if_pos hlt] at hyear
    exact ⟨hyear, h.month, h.day, h.hour, h.minute, h.second⟩

/-- Moments as they are written come in the order of their fields. -/
lemma AsWritten.lt_iff (h : AsWritten d t) (h' : AsWritten d' t') :
    t < t' ↔ d.fields < d'.fields := by
  show t.timestamp < t'.timestamp ↔ _
  rw [DateTime.timestamp_lt_iff, h.year, h.month, h.day, h.hour, h.minute, h.second, h'.year,
    h'.month, h'.day, h'.hour, h'.minute, h'.second]
  simp [DateText.fields, Numbers.values, DateText.year, List.cons_lt_cons_iff]

/-- **Accepted dates are as they are written, and in the written order, exactly if** their
years are below 2147483648. -/
theorem dates_as_written_iff (h : (parseDatetime platform).run input = some (t, rest))
    (h' : (parseDatetime platform).run input' = some (t', rest'))
    (hd : input = d.text ++ rest) (hd' : input' = d'.text ++ rest') :
    (AsWritten d t ∧ AsWritten d' t' ∧ SameOrder d d' t t') ↔
      d.year < 2 ^ 31 ∧ d'.year < 2 ^ 31 := by
  have hgives := gives_of_run h hd
  have hgives' := gives_of_run h' hd'
  constructor
  · rintro ⟨hw, hw', -⟩
    exact ⟨hgives.asWritten_iff.mp hw, hgives'.asWritten_iff.mp hw'⟩
  · rintro ⟨hlt, hlt'⟩
    have hw := hgives.asWritten_iff.mpr hlt
    have hw' := hgives'.asWritten_iff.mpr hlt'
    exact ⟨hw, hw', hw.lt_iff hw', hw'.lt_iff hw⟩

/-- A date of the far future comes out before every date that is as it is written. -/
theorem far_date_comes_first (h : d.Gives platform t) (h' : d'.Gives platform t')
    (hfar : 2 ^ 31 ≤ d.year) (hnear : d'.year < 2 ^ 31) : t < t' := by
  show t.timestamp < t'.timestamp
  rw [DateTime.timestamp_lt_iff]
  refine Or.inl ?_
  rw [h.year, h'.year, d.castYear_eq h.year_lt, d'.castYear_eq h'.year_lt, if_pos hnear,
    if_neg (by omega)]
  have := h.year_lt
  omega

end Written

/-! ## Dates -/

/-- The crates as they are documented, with the alphanumeric characters of ASCII. -/
def asciiPlatform : Platform := ⟨.limits, Char.isAlphanum⟩

/-- One blank between the words. -/
def oneBlank : Run isBlank := ⟨[' '], by decide⟩

/-- `4 4294967295/01/01 00:00:00`. -/
def farDate : DateText where
  weekday := ⟨['4'], by decide⟩
  afterWeekday := oneBlank
  day := ⟨⟨['4', '2', '9', '4', '9', '6', '7', '2', '9', '5'], by decide⟩,
    ⟨['0', '1'], by decide⟩, ⟨['0', '1'], by decide⟩⟩
  afterDay := oneBlank
  time := ⟨⟨['0', '0'], by decide⟩, ⟨['0', '0'], by decide⟩, ⟨['0', '0'], by decide⟩⟩

/-- `0 2026/05/24 21:51:15`. -/
def nearDate : DateText where
  weekday := ⟨['0'], by decide⟩
  afterWeekday := oneBlank
  day := ⟨⟨['2', '0', '2', '6'], by decide⟩, ⟨['0', '5'], by decide⟩, ⟨['2', '4'], by decide⟩⟩
  afterDay := oneBlank
  time := ⟨⟨['2', '1'], by decide⟩, ⟨['5', '1'], by decide⟩, ⟨['1', '5'], by decide⟩⟩

/-- What the parser makes of the far date. -/
def farMoment : DateTime := ⟨⟨-1, 1, 1, by decide⟩, 0, 0, 0, validTime_midnight⟩

/-- What the parser makes of the near date. -/
def nearMoment : DateTime := ⟨⟨2026, 5, 24, by decide⟩, 21, 51, 15, by decide⟩

lemma run_farDate : (parseDatetime asciiPlatform).run farDate.text = some (farMoment, []) :=
  run_parseDatetime_eq_some.mpr ⟨farDate, by simp, stops_nil, by decide, by decide, by decide,
    by decide, by decide, by decide, by decide, by decide, by decide⟩

lemma run_nearDate : (parseDatetime asciiPlatform).run nearDate.text = some (nearMoment, []) :=
  run_parseDatetime_eq_some.mpr ⟨nearDate, by simp, stops_nil, by decide, by decide, by decide,
    by decide, by decide, by decide, by decide, by decide, by decide⟩

/-- **A far date is accepted** as one before our era, and comes before a date of today. -/
theorem farDate_is_misread :
    (parseDatetime asciiPlatform).run farDate.text = some (farMoment, []) ∧
      (parseDatetime asciiPlatform).run nearDate.text = some (nearMoment, []) ∧
      ¬ AsWritten farDate farMoment ∧ nearDate.fields < farDate.fields ∧
      farMoment < nearMoment :=
  ⟨run_farDate, run_nearDate, fun h => absurd h.year (by decide), by decide, by decide⟩

/-- `0 2026/05/24 23:06:18`. -/
def laterDate : DateText :=
  { nearDate with
    time := ⟨⟨['2', '3'], by decide⟩, ⟨['0', '6'], by decide⟩, ⟨['1', '8'], by decide⟩⟩ }

/-- What the parser makes of the later date. -/
def laterMoment : DateTime := ⟨⟨2026, 5, 24, by decide⟩, 23, 6, 18, by decide⟩

lemma run_laterDate : (parseDatetime asciiPlatform).run laterDate.text = some (laterMoment, []) :=
  run_parseDatetime_eq_some.mpr ⟨laterDate, by simp, stops_nil, by decide, by decide, by decide,
    by decide, by decide, by decide, by decide, by decide, by decide⟩

/-- Two dates of one day are as they are written. -/
theorem dates_of_today_as_written : AsWritten nearDate nearMoment ∧
    AsWritten laterDate laterMoment ∧ SameOrder nearDate laterDate nearMoment laterMoment :=
  (dates_as_written_iff run_nearDate run_laterDate (by simp) (by simp)).mpr
    ⟨by decide, by decide⟩

end Dumbarp.IscDhclient
