/-
  Transcripts/Proofs/Calendar/WrittenDates.lean
  =============================================
  **Dates are read as they are written.**

  A bound of a search may be written in two ways, and the text is tried as ISO 8601 before
  it is taken apart at its dots.  So a date `D.M.YYYY` must not look like one of ISO 8601.
  It does not, however many zeros are in front of its parts: without hyphens and weeks ISO
  8601 wants eight digits in a row, and with two more parts behind them the text is longer
  than a date of ISO 8601 may be (`readIso?_dotted`).

  Three numbers between dots name at most one date.  If they fit the calendar's words and
  name none, the text is no date, whatever written forms the numbers have.
-/
import Transcripts.Calendar.Written
import Transcripts.Proofs.Numeral.Decimal

namespace Transcripts.Calendar

open Transcripts.Numeral
open Transcripts.Text

variable {cs : List Char} {year month day : Int}

/-! ### Three numbers -/

/-- Year, month and day of a date are these numbers. -/
structure Date.IsNamedBy (d : Date) (year month day : Int) : Prop where
  year : (d.year : Int) = year
  month : (d.month : Int) = month
  day : (d.day : Int) = day

theorem Date.isNamedBy_self (d : Date) : d.IsNamedBy d.year d.month d.day := ⟨rfl, rfl, rfl⟩

theorem Date.ofNumbers?_eq_some_iff {d : Date} :
    ofNumbers? year month day = some d ↔ d.IsNamedBy year month day := by
  rw [ofNumbers?]
  constructor
  · intro h
    split at h
    · cases h
    · next hsigns =>
      split at h
      · cases h
        constructor <;> exact Int.toNat_of_nonneg (by omega)
      · cases h
  · rintro ⟨rfl, rfl, rfl⟩
    rw [if_neg (by omega)]
    simp only [Int.toNat_natCast]
    rw [dif_pos d.isDate]

theorem Date.ofNumbers?_self (d : Date) : ofNumbers? d.year d.month d.day = some d :=
  ofNumbers?_eq_some_iff.mpr d.isNamedBy_self

theorem Date.ofNumbers?_eq_none_iff :
    ofNumbers? year month day = none ↔ ∀ d : Date, ¬ d.IsNamedBy year month day := by
  rw [Option.eq_none_iff_forall_ne_some]
  exact forall_congr' fun d => not_congr ofNumbers?_eq_some_iff

theorem daysInMonth_le (year month : Nat) : daysInMonth year month ≤ 31 := by
  unfold daysInMonth
  repeat' split
  all_goals decide

theorem month_le_of_daysInMonth {year month : Nat} (h : 0 < daysInMonth year month) : month ≤ 12 := by
  unfold daysInMonth at h
  split at h <;> omega

theorem Date.inRange (d : Date) : d.year ≤ 9999 ∧ d.month ≤ 12 ∧ d.day ≤ 31 := by
  have hdate := d.isDate
  simp only [Calendar.isDate, Bool.and_eq_true, decide_eq_true_eq] at hdate
  obtain ⟨⟨⟨_, hyear⟩, hfirst⟩, hlast⟩ := hdate
  refine ⟨hyear, month_le_of_daysInMonth (Nat.lt_of_lt_of_le hfirst hlast), ?_⟩
  exact hlast.trans (daysInMonth_le d.year d.month)

/-- A number that fits a word of 32 bits. -/
def FitsWord (n : Int) : Prop := -0x80000000 ≤ n ∧ n < 0x80000000

theorem checkSize_of_fitsWord {n : Int} (h : FitsWord n) : checkSize n = .ok () := by
  obtain ⟨hlow, hhigh⟩ := h
  rw [checkSize, if_neg (by omega), if_neg (by omega), if_neg (by omega)]

theorem dateOfNumbers_of_fitsWord (hyear : FitsWord year) (hmonth : FitsWord month)
    (hday : FitsWord day) :
    dateOfNumbers year month day = .ok (Date.ofNumbers? year month day) := by
  rw [dateOfNumbers, checkSize_of_fitsWord hyear, checkSize_of_fitsWord hmonth,
    checkSize_of_fitsWord hday]
  rfl

/-! ### Numbers between dots -/

theorem trim_append {before body after : List Char} (hbefore : ∀ c ∈ before, isBlank c = true)
    (hafter : ∀ c ∈ after, isBlank c = true) (hne : body ≠ [])
    (hbody : ∀ c ∈ body, isBlank c = false) :
    trim (before ++ body ++ after) = body :=
  dropped_ends_append hbefore hafter hne (fun c hc => hbody c (List.mem_of_mem_head? hc))
    fun c hc => hbody c (List.mem_of_mem_getLast? hc)

/-- Three texts with dots between them. -/
def dotted (first second third : List Char) : List Char := first ++ '.' :: second ++ '.' :: third

theorem splitOn_dotted {first second third : List Char} (hfirst : '.' ∉ first) (hsecond : '.' ∉ second)
    (hthird : '.' ∉ third) : splitOn '.' (dotted first second third) = [first, second, third] := by
  have hfree {part : List Char} (hpart : '.' ∉ part) : splitBy (· == '.') part = [part] :=
    splitBy_of_free fun c hc => beq_eq_false_iff_ne.mpr fun hdot => hpart (hdot ▸ hc)
  have hcut (front back : List Char) : splitBy (· == '.') (front ++ '.' :: back) =
      splitBy (· == '.') front ++ splitBy (· == '.') back := by
    apply splitBy_append_cons
    exact beq_self_eq_true '.'
  rw [splitOn, dotted, hcut, hcut, hfree hfirst, hfree hsecond, hfree hthird]
  rfl

theorem readDotted_of_trim {first second third : List Char} (hcs : trim cs = dotted first second third)
    (hday : IsLiteral first day) (hmonth : IsLiteral second month) (hyear : IsLiteral third year)
    (hfits : ∀ n ∈ [day, month, year], FitsWord n) :
    readDotted cs = .ok (Date.ofNumbers? year month day) := by
  simp only [List.forall_mem_cons] at hfits
  rw [readDotted, hcs, splitOn_dotted hday.dot_not_mem hmonth.dot_not_mem hyear.dot_not_mem]
  rw [List.map_cons, List.map_cons, List.map_cons, integer?_eq_some_iff.mpr hday,
    integer?_eq_some_iff.mpr hmonth, integer?_eq_some_iff.mpr hyear]
  exact dateOfNumbers_of_fitsWord hfits.2.2.1 hfits.2.1 hfits.1

/-! ### ISO 8601 -/

theorem asciiDigit?_of_isDigit {c : Char} (h : c.isDigit = true) :
    asciiDigit? c = some (c.toNat - '0'.toNat) := by
  rw [Char.isDigit, Bool.and_eq_true, decide_eq_true_iff, decide_eq_true_iff] at h
  exact if_pos h

theorem isDigit_of_asciiDigit? {c : Char} {k : Nat} (h : asciiDigit? c = some k) : c.isDigit = true := by
  rw [asciiDigit?] at h
  split at h
  · next hrange =>
    rw [Char.isDigit, Bool.and_eq_true, decide_eq_true_iff, decide_eq_true_iff]
    exact hrange
  · cases h

theorem readDigits?_append {digits : List Char} (h : ∀ c ∈ digits, c.isDigit = true) (rest : List Char) :
    readDigits? digits.length (digits ++ rest) = some (Nat.ofDigitChars 10 digits 0, rest) := by
  induction digits with
  | nil => rfl
  | cons c digits ih =>
    obtain ⟨hc, hdigits⟩ := List.forall_mem_cons.mp h
    have hvalue : Nat.ofDigitChars 10 (c :: digits) 0 =
        (c.toNat - '0'.toNat) * Nat.pow 10 digits.length + Nat.ofDigitChars 10 digits 0 := by
      rw [Nat.ofDigitChars_cons, Nat.mul_zero, Nat.zero_add, Nat.ofDigitChars_eq_ofDigitChars_zero,
        Nat.mul_comm, Nat.pow_eq]
    rw [List.length_cons, List.cons_append, readDigits?, asciiDigit?_of_isDigit hc, ih hdigits, hvalue]
    rfl

/-- Digits that are read stand in front of what is read behind them. -/
theorem exists_digits_of_readDigits? {count k : Nat} {rest : List Char}
    (h : readDigits? count cs = some (k, rest)) :
    ∃ digits, cs = digits ++ rest ∧ digits.length = count ∧ ∀ c ∈ digits, c.isDigit = true := by
  induction count generalizing cs k with
  | zero =>
    cases h
    exact ⟨[], rfl, rfl, fun c hc => absurd hc List.not_mem_nil⟩
  | succ count ih =>
    cases cs with
    | nil => cases h
    | cons c cs =>
      rw [readDigits?] at h
      obtain ⟨d, hd, h⟩ := Option.bind_eq_some_iff.mp h
      obtain ⟨⟨l, rest'⟩, hdigits, h⟩ := Option.bind_eq_some_iff.mp h
      cases h
      obtain ⟨digits, rfl, hlength, hall⟩ := ih hdigits
      refine ⟨c :: digits, rfl, congrArg Nat.succ hlength, ?_⟩
      exact List.forall_mem_cons.mpr ⟨isDigit_of_asciiDigit? hd, hall⟩

theorem length_le_utf8ByteSize (cs : List Char) : cs.length ≤ (String.ofList cs).utf8ByteSize := by
  induction cs with
  | nil => exact Nat.zero_le _
  | cons c cs ih =>
    rw [String.ofList_cons, String.utf8ByteSize_append, String.utf8ByteSize_singleton, List.length_cons]
    have hsize := c.utf8Size_pos
    omega

theorem utf8ByteSize_of_ascii (h : ∀ c ∈ cs, c.utf8Size = 1) :
    (String.ofList cs).utf8ByteSize = cs.length := by
  induction cs with
  | nil => rfl
  | cons c cs ih =>
    obtain ⟨hc, hcs⟩ := List.forall_mem_cons.mp h
    rw [String.ofList_cons, String.utf8ByteSize_append, String.utf8ByteSize_singleton, hc, ih hcs,
      List.length_cons, Nat.add_comm]

/-- A text of a size that a date in ISO 8601 may have. -/
def HasIsoSize (cs : List Char) : Prop :=
  (String.ofList cs).utf8ByteSize = 7 ∨ (String.ofList cs).utf8ByteSize = 8 ∨
    (String.ofList cs).utf8ByteSize = 10

/-- What is behind the year is a month and a day, with hyphens if it begins with one. -/
theorem readIso?_of_year {y : Nat} {rest rest' : List Char} {hyphens : Bool} (hsize : HasIsoSize cs)
    (hyear : readDigits? 4 cs = some (y, rest)) (hhyphens : decide (rest.head? = some '-') = hyphens)
    (hrest : dropHyphen? hyphens rest = some rest') (hweek : rest'.head? ≠ some 'W') :
    readIso? cs = (do
      let (m, rest) ← readDigits? 2 rest'
      let rest ← dropHyphen? hyphens rest
      let (d, _) ← readDigits? 2 rest
      Date.ofNumbers? y m d) := by
  rw [HasIsoSize] at hsize
  rw [readIso?, if_pos hsize, hyear]
  simp only [Option.bind_eq_bind, Option.bind_some, hhyphens, hrest]
  split
  · exact absurd rfl hweek
  · rfl

/-- Without hyphens and weeks, ISO 8601 has eight digits in a row, and the text is short. -/
theorem compact_of_readIso? {d : Date} (h : readIso? cs = some d) (hhyphen : '-' ∉ cs)
    (hweek : 'W' ∉ cs) : cs.length ≤ 10 ∧
      ∃ digits rest, cs = digits ++ rest ∧ digits.length = 8 ∧ ∀ c ∈ digits, c.isDigit = true := by
  have hsize : HasIsoSize cs := by
    by_contra hsize
    rw [HasIsoSize] at hsize
    rw [readIso?, if_neg hsize] at h
    cases h
  have hbytes := length_le_utf8ByteSize cs
  cases hyear : readDigits? 4 cs with
  | none =>
    rw [HasIsoSize] at hsize
    rw [readIso?, if_pos hsize, hyear] at h
    cases h
  | some found =>
    obtain ⟨y, behindYear⟩ := found
    obtain ⟨yearDigits, hcs, hyearLength, hyearDigits⟩ := exists_digits_of_readDigits? hyear
    have hmem {c : Char} (hc : behindYear.head? = some c) : c ∈ cs :=
      hcs ▸ List.mem_append_right _ (List.mem_of_mem_head? hc)
    rw [readIso?_of_year hsize hyear (decide_eq_false fun hc => hhyphen (hmem hc)) rfl
      fun hc => hweek (hmem hc)] at h
    obtain ⟨⟨m, behindMonth⟩, hmonth, h⟩ := Option.bind_eq_some_iff.mp h
    obtain ⟨_, hdrop, h⟩ := Option.bind_eq_some_iff.mp h
    cases hdrop
    obtain ⟨⟨k, behindDay⟩, hday, -⟩ := Option.bind_eq_some_iff.mp h
    obtain ⟨monthDigits, rfl, hmonthLength, hmonthDigits⟩ := exists_digits_of_readDigits? hmonth
    obtain ⟨dayDigits, rfl, hdayLength, hdayDigits⟩ := exists_digits_of_readDigits? hday
    refine ⟨?_, yearDigits ++ monthDigits ++ dayDigits, behindDay, ?_, ?_, ?_⟩
    · rw [HasIsoSize] at hsize
      omega
    · rw [hcs, List.append_assoc, List.append_assoc]
    · rw [List.length_append, List.length_append]
      omega
    · exact List.forall_mem_append.mpr
        ⟨List.forall_mem_append.mpr ⟨hyearDigits, hmonthDigits⟩, hdayDigits⟩

/-- A text with two dots in it is no date in ISO 8601: eight digits before the first dot
    leave no room for the rest. -/
theorem readIso?_dotted {first second third : List Char} (hsecond : second ≠ []) (hthird : third ≠ [])
    (hhyphen : '-' ∉ dotted first second third) (hweek : 'W' ∉ dotted first second third) :
    readIso? (dotted first second third) = none := by
  cases hread : readIso? (dotted first second third) with
  | none => rfl
  | some d =>
    exfalso
    obtain ⟨hshort, digits, rest, hcut, hlength, hdigits⟩ := compact_of_readIso? hread hhyphen hweek
    have hfirst : 8 ≤ first.length := by
      rw [dotted, List.append_assoc, List.cons_append] at hcut
      rcases List.append_eq_append_iff.mp hcut with ⟨more, hmore, hbehind⟩ | ⟨more, hmore, -⟩
      · cases more with
        | nil =>
          rw [List.append_nil] at hmore
          rw [← hmore, hlength]
        | cons c more =>
          obtain ⟨rfl, -⟩ := List.cons.inj hbehind
          have hdot := hdigits '.' (hmore ▸ List.mem_append_right _ List.mem_cons_self)
          exact absurd hdot (by decide)
      · rw [hmore, List.length_append]
        omega
    have hsecondLength := List.length_pos_of_ne_nil hsecond
    have hthirdLength := List.length_pos_of_ne_nil hthird
    simp only [dotted, List.length_append, List.length_cons] at hshort
    omega

/-! ### Dates in ISO 8601 -/

theorem toList_padded_eq (width k : Nat) :
    (Date.padded width k).toList = zeroFilled (width - (Nat.toDigits 10 k).length) k :=
  String.toList_ofList

theorem isDigit_padded (width k : Nat) : ∀ c ∈ (Date.padded width k).toList, c.isDigit = true := by
  rw [toList_padded_eq]
  exact isDigit_zeroFilled _ k

theorem length_padded {width k : Nat} (hwidth : 0 < width) (hk : k < Nat.pow 10 width) :
    (Date.padded width k).toList.length = width := by
  have hlength := (Nat.length_toDigits_le_iff (by decide) hwidth).mpr hk
  rw [toList_padded_eq, zeroFilled, List.length_append, List.length_replicate]
  omega

theorem readDigits?_padded {width k : Nat} (hwidth : 0 < width) (hk : k < Nat.pow 10 width) (rest : List Char) :
    readDigits? width ((Date.padded width k).toList ++ rest) = some (k, rest) := by
  have hread := readDigits?_append (isDigit_padded width k) rest
  rwa [length_padded hwidth hk, toList_padded_eq, ofDigitChars_zeroFilled, ← toList_padded_eq] at hread

theorem utf8Size_of_isDigit {c : Char} (h : c.isDigit = true) : c.utf8Size = 1 := by
  rw [Char.isDigit, Bool.and_eq_true, decide_eq_true_iff, decide_eq_true_iff] at h
  exact Char.utf8Size_eq_one_iff.mpr (UInt32.le_trans h.2 (by decide))

theorem Date.toList_iso (d : Date) : d.iso.toList = (padded 4 d.year).toList ++
    '-' :: ((padded 2 d.month).toList ++ '-' :: (padded 2 d.day).toList) := by
  simp [iso, String.toList_append]

theorem Date.mem_iso (d : Date) {c : Char} (hc : c ∈ d.iso.toList) : c.isDigit = true ∨ c = '-' := by
  simp only [toList_iso, List.mem_append, List.mem_cons] at hc
  rcases hc with hc | rfl | hc | rfl | hc
  · exact .inl (isDigit_padded 4 d.year c hc)
  · exact .inr rfl
  · exact .inl (isDigit_padded 2 d.month c hc)
  · exact .inr rfl
  · exact .inl (isDigit_padded 2 d.day c hc)

theorem readIso?_iso (d : Date) : readIso? d.iso.toList = some d := by
  obtain ⟨hyearLe, hmonthLe, hdayLe⟩ := d.inRange
  have hyear : d.year < Nat.pow 10 4 := Nat.lt_succ_of_le hyearLe
  have hmonth : d.month < Nat.pow 10 2 := Nat.lt_of_le_of_lt hmonthLe (by decide)
  have hday : d.day < Nat.pow 10 2 := Nat.lt_of_le_of_lt hdayLe (by decide)
  have hsize : HasIsoSize d.iso.toList := by
    have hascii : ∀ c ∈ d.iso.toList, c.utf8Size = 1 := by
      intro c hc
      rcases d.mem_iso hc with hdigit | rfl
      · exact utf8Size_of_isDigit hdigit
      · rfl
    have hlength : d.iso.toList.length = 10 := by
      rw [d.toList_iso, List.length_append, List.length_cons, List.length_append, List.length_cons,
        length_padded (by decide) hyear, length_padded (by decide) hmonth, length_padded (by decide) hday]
    rw [HasIsoSize, utf8ByteSize_of_ascii hascii, hlength]
    exact .inr (.inr rfl)
  have hweek :
      ((Date.padded 2 d.month).toList ++ '-' :: (Date.padded 2 d.day).toList).head? ≠ some 'W' := by
    intro hhead
    have hmem : 'W' ∈ d.iso.toList := by
      rw [d.toList_iso]
      exact List.mem_append_right _ (List.mem_cons_of_mem _ (List.mem_of_mem_head? hhead))
    rcases d.mem_iso hmem with hdigit | hhyphen
    · exact absurd hdigit (by decide)
    · cases hhyphen
  have hreadYear : readDigits? 4 d.iso.toList = some (d.year,
      '-' :: ((Date.padded 2 d.month).toList ++ '-' :: (Date.padded 2 d.day).toList)) := by
    rw [d.toList_iso]
    exact readDigits?_padded (by decide) hyear _
  have hreadDay : readDigits? 2 (Date.padded 2 d.day).toList = some (d.day, []) := by
    have hread := readDigits?_padded (by decide) hday []
    rwa [List.append_nil] at hread
  rw [readIso?_of_year hsize hreadYear (decide_eq_true rfl) rfl hweek,
    readDigits?_padded (by decide) hmonth]
  simp only [Option.bind_eq_bind, Option.bind_some, dropHyphen?, if_true, hreadDay]
  exact d.ofNumbers?_self

theorem not_isBlank_iso (d : Date) : ∀ c ∈ d.iso.toList, isBlank c = false := by
  intro c hc
  rcases d.mem_iso hc with hdigit | rfl
  · exact not_isBlank_of_ascii hdigit
  · rfl

/-! ### Dates with dots -/

namespace Date

/-- A date as `D.M.YYYY`, with zeros in front of the day, the month and the year. -/
def dotted (d : Date) (dayZeros monthZeros yearZeros : Nat) : List Char :=
  Calendar.dotted (zeroFilled dayZeros d.day) (zeroFilled monthZeros d.month)
    (zeroFilled yearZeros d.year)

variable (d : Date) {i j k : Nat}

theorem fitsWord : ∀ n ∈ [(d.day : Int), (d.month : Int), (d.year : Int)], FitsWord n := by
  obtain ⟨hyear, hmonth, hday⟩ := d.inRange
  refine List.forall_mem_cons.mpr ⟨?_, List.forall_mem_cons.mpr ⟨?_, List.forall_mem_singleton.mpr ?_⟩⟩
  all_goals
    rw [FitsWord]
    omega

theorem mem_dotted {c : Char} (hc : c ∈ d.dotted i j k) : c.isDigit = true ∨ c = '.' := by
  simp only [dotted, Calendar.dotted, List.mem_append, List.mem_cons] at hc
  rcases hc with (hc | rfl | hc) | rfl | hc
  · exact .inl (isDigit_zeroFilled i d.day c hc)
  · exact .inr rfl
  · exact .inl (isDigit_zeroFilled j d.month c hc)
  · exact .inr rfl
  · exact .inl (isDigit_zeroFilled k d.year c hc)

theorem not_isBlank_dotted : ∀ c ∈ d.dotted i j k, isBlank c = false := by
  intro c hc
  rcases d.mem_dotted hc with hdigit | rfl
  · exact not_isBlank_of_ascii hdigit
  · rfl

theorem dotted_ne_nil : d.dotted i j k ≠ [] := by
  simp [dotted, Calendar.dotted]

theorem readIso?_dotted : readIso? (d.dotted i j k) = none := by
  apply Calendar.readIso?_dotted (zeroFilled_ne_nil j d.month) (zeroFilled_ne_nil k d.year)
  · intro hhyphen
    rcases d.mem_dotted hhyphen with hdigit | hdot
    · exact absurd hdigit (by decide)
    · cases hdot
  · intro hweek
    rcases d.mem_dotted hweek with hdigit | hdot
    · exact absurd hdigit (by decide)
    · cases hdot

theorem trim_dotted : trim (d.dotted i j k) = d.dotted i j k := by
  have hnone : ∀ c ∈ ([] : List Char), isBlank c = true := fun c hc => absurd hc List.not_mem_nil
  have htrim : trim ([] ++ d.dotted i j k ++ []) = d.dotted i j k :=
    trim_append hnone hnone d.dotted_ne_nil d.not_isBlank_dotted
  rwa [List.nil_append, List.append_nil] at htrim

end Date

/-! ### Blanks around a text -/

section Surrounded

variable {before after : List Char} (hbefore : ∀ c ∈ before, isBlank c = true)
  (hafter : ∀ c ∈ after, isBlank c = true)

include hbefore hafter

/-- Blanks around the numbers are ignored, those within the first and the last text too. -/
theorem sessionDate_dotted {dayText monthText yearText : List Char} (hday : IsLiteral dayText day)
    (hmonth : IsLiteral monthText month) (hyear : IsLiteral yearText year)
    (hfits : ∀ n ∈ [day, month, year], FitsWord n) :
    sessionDate (.ofList (before ++ dotted dayText monthText yearText ++ after)) =
      .ok (Date.ofNumbers? year month day) := by
  obtain ⟨blanks, first, rfl, hblanks, hfirst, hfirstNe, hhead⟩ := hday.exists_front
  obtain ⟨third, blanks', rfl, hblanks', hthird, hthirdNe, hlast⟩ := hyear.exists_back
  have hcut : before ++ dotted (blanks ++ first) monthText (third ++ blanks') ++ after =
      (before ++ blanks) ++ dotted first monthText third ++ (blanks' ++ after) := by
    simp only [dotted, List.append_assoc, List.cons_append]
  have htrim : trim ((before ++ blanks) ++ dotted first monthText third ++ (blanks' ++ after)) =
      dotted first monthText third := by
    apply dropped_ends_append
    · exact List.forall_mem_append.mpr ⟨hbefore, hblanks⟩
    · exact List.forall_mem_append.mpr ⟨hblanks', hafter⟩
    · simp [dotted]
    · rwa [dotted, List.append_assoc, List.head?_append_of_ne_nil _ hfirstNe]
    · rwa [dotted, List.getLast?_append_of_ne_nil _ (List.cons_ne_nil _ _), ← List.singleton_append,
        List.getLast?_append_of_ne_nil _ hthirdNe]
  rw [sessionDate, String.toList_ofList, hcut]
  exact readDotted_of_trim htrim hfirst hmonth hthird hfits

theorem resolve_iso (d : Date) :
    (DateBound.written (.ofList (before ++ d.iso.toList ++ after))).resolve = .ok (some d) := by
  have hne : d.iso.toList ≠ [] := by
    rw [d.toList_iso]
    simp
  rw [DateBound.resolve, String.toList_ofList, trim_append hbefore hafter hne (not_isBlank_iso d)]
  simp only [List.isEmpty_eq_false_iff.mpr hne, Bool.false_eq_true, if_false, readIso?_iso]

theorem resolve_dotted (d : Date) {i j k : Nat} (hday : IsLiteral (zeroFilled i d.day) d.day)
    (hmonth : IsLiteral (zeroFilled j d.month) d.month) (hyear : IsLiteral (zeroFilled k d.year) d.year) :
    (DateBound.written (.ofList (before ++ d.dotted i j k ++ after))).resolve = .ok (some d) := by
  rw [DateBound.resolve, String.toList_ofList,
    trim_append hbefore hafter d.dotted_ne_nil d.not_isBlank_dotted]
  simp only [List.isEmpty_eq_false_iff.mpr d.dotted_ne_nil, Bool.false_eq_true, if_false,
    d.readIso?_dotted]
  rw [readDotted_of_trim d.trim_dotted hday hmonth hyear d.fitsWord, d.ofNumbers?_self]

end Surrounded

/-! ### Bounds and dates of sessions -/

/-- **Dates are read as they are written.**  A bound in ISO 8601, a bound and a date of a
    session written `D.M.YYYY` with any zeros in front, a date and a moment of it all give
    the date, whatever blanks are around the text.  Three numbers between dots that fit
    the calendar's words but name no date, in whatever form they are written, are no date
    of a session. -/
theorem written_dates_are_read :
    (∀ d : Date,
      (∀ before after : List Char, (∀ c ∈ before, isBlank c = true) → (∀ c ∈ after, isBlank c = true) →
        (DateBound.written (.ofList (before ++ d.iso.toList ++ after))).resolve = .ok (some d) ∧
        ∀ i j k : Nat, (zeroFilled i d.day).length ≤ maxDigits →
          (zeroFilled j d.month).length ≤ maxDigits → (zeroFilled k d.year).length ≤ maxDigits →
          (DateBound.written (.ofList (before ++ d.dotted i j k ++ after))).resolve = .ok (some d) ∧
            sessionDate (.ofList (before ++ d.dotted i j k ++ after)) = .ok (some d)) ∧
      (DateBound.exactly d).resolve = .ok (some d) ∧
      ∀ m : Moment, m.date = d → (DateBound.moment m).resolve = .ok (some d)) ∧
    ∀ (before after dayText monthText yearText : List Char) (day month year : Int),
      (∀ c ∈ before, isBlank c = true) → (∀ c ∈ after, isBlank c = true) →
      IsLiteral dayText day → IsLiteral monthText month → IsLiteral yearText year →
      (∀ n ∈ [day, month, year], FitsWord n) → (∀ d : Date, ¬ d.IsNamedBy year month day) →
      sessionDate (.ofList (before ++ dotted dayText monthText yearText ++ after)) = .ok none := by
  refine ⟨fun d => ⟨?_, rfl, ?_⟩, ?_⟩
  · intro before after hbefore hafter
    refine ⟨resolve_iso hbefore hafter d, ?_⟩
    intro i j k hi hj hk
    have hday := isLiteral_zeroFilled hi
    have hmonth := isLiteral_zeroFilled hj
    have hyear := isLiteral_zeroFilled hk
    refine ⟨resolve_dotted hbefore hafter d hday hmonth hyear, ?_⟩
    rw [Date.dotted, sessionDate_dotted hbefore hafter hday hmonth hyear d.fitsWord, d.ofNumbers?_self]
  · rintro m rfl
    rfl
  · intro before after dayText monthText yearText day month year hbefore hafter hday hmonth hyear hfits hnone
    rw [sessionDate_dotted hbefore hafter hday hmonth hyear hfits, Date.ofNumbers?_eq_none_iff.mpr hnone]

def leapDay : Date := ⟨2024, 2, 29, by decide⟩

/-- A leap day with zeros and blanks around its text, and one in a year that has none. -/
theorem written_dates_are_read_leapDay :
    (DateBound.written "\t029.02.002024 ").resolve = .ok (some leapDay) ∧
      sessionDate "\t029.02.002024 " = .ok (some leapDay) ∧
      (∀ d : Date, ¬ d.IsNamedBy 1900 2 29) ∧ sessionDate "\t29.02.1900 " = .ok none := by
  obtain ⟨hread, hnone⟩ := written_dates_are_read
  have hbefore : ∀ c ∈ ['\t'], isBlank c = true := List.forall_mem_singleton.mpr (by decide)
  have hafter : ∀ c ∈ [' '], isBlank c = true := List.forall_mem_singleton.mpr (by decide)
  have hleap : String.ofList (['\t'] ++ leapDay.dotted 1 1 2 ++ [' ']) = "\t029.02.002024 " := by
    decide +kernel
  have hother : String.ofList (['\t'] ++ dotted (zeroFilled 0 29) (zeroFilled 1 2) (zeroFilled 0 1900) ++
      [' ']) = "\t29.02.1900 " := by
    decide +kernel
  have hunnamed : ∀ d : Date, ¬ d.IsNamedBy 1900 2 29 := by
    rintro ⟨year, month, day, hdate⟩ ⟨hyear, hmonth, hday⟩
    obtain ⟨rfl, rfl, rfl⟩ : year = 1900 ∧ month = 2 ∧ day = 29 := by
      simp only at hyear hmonth hday
      omega
    exact absurd hdate (by decide)
  have hdotted := ((hread leapDay).1 _ _ hbefore hafter).2 1 1 2 (by decide +kernel) (by decide +kernel)
    (by decide +kernel)
  rw [hleap] at hdotted
  refine ⟨hdotted.1, hdotted.2, hunnamed, ?_⟩
  rw [← hother]
  exact hnone _ _ _ _ _ _ _ _ hbefore hafter (isLiteral_zeroFilled (by decide +kernel))
    (isLiteral_zeroFilled (by decide +kernel)) (isLiteral_zeroFilled (by decide +kernel))
    (by simp [FitsWord]) hunnamed

end Transcripts.Calendar
