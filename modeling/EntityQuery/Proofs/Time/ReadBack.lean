import EntityQuery.Proofs.Text.Decimal
import EntityQuery.Proofs.Time.Calendar
import EntityQuery.Time.Instant

/-!
# Instants read back

The text of an instant in a year from 0 to 9999 is read back as the instant, leap
seconds included; the text of any other is refused.  `read?_chars` says both.

* Fields.  `readDigits?_padded` reads a number of fixed width back, and
  `readFraction?_fractionChars` the fraction of a second in each of its lengths.
* The time of day.  `of?_timeOfDay` puts day, time and fraction together again.
-/

namespace EntityQuery.Instant

open EntityQuery.Text

/-- The year of an instant. -/
def year (t : Instant) : Int := (Date.ofDays (t.seconds / 86400)).year

/-- Whether the year of an instant is written in four digits without a sign. -/
def hasFourDigitYear (t : Instant) : Bool := 0 ≤ t.year && t.year ≤ 9999

/-! ## Fields -/

theorem readDigits?_padded {width n : Nat} (hwidth : 0 < width) (h : n < tenTo width)
    (rest : List Char) : readDigits? width (padded width n ++ rest) = some (n, rest) := by
  have hlength := padded_length hwidth h
  have hall : (padded width n).all Char.isDigit = true :=
    List.all_eq_true.2 fun _ => isDigit_of_mem_padded
  simp only [readDigits?, List.take_left' hlength, List.drop_left' hlength, hlength, hall,
    and_self, if_true, foldDigits_padded]

theorem readMark?_cons (mark : Char) (rest : List Char) :
    readMark? mark (mark :: rest) = some rest := by
  simp [readMark?]

/-- A number with a sign in front has no four digits in front. -/
theorem readDigits?_of_not_digit {width : Nat} (hwidth : 0 < width) {c : Char}
    (hc : c.isDigit = false) (rest : List Char) : readDigits? width (c :: rest) = none := by
  obtain ⟨width, rfl⟩ : ∃ more, width = more + 1 := ⟨width - 1, by omega⟩
  simp [readDigits?, List.take_succ_cons, hc]

theorem readFraction?_padded {width n : Nat} (hwidth : 0 < width) (hnine : width ≤ 9)
    (h : n < tenTo width) :
    readFraction? ('.' :: (padded width n ++ ['Z'])) = some (n * tenTo (9 - width), ['Z']) := by
  have hlength := padded_length hwidth h
  have hrest : NoDigitNext ['Z'] := by
    intro c hc
    cases hc
    decide
  have hsplit := splitDigits_append (fun _ => @isDigit_of_mem_padded n width _) hrest
  have htake : (padded width n).take 9 = padded width n := List.take_of_length_le (by omega)
  have hvalue := foldDigits_padded width n
  cases hdigits : padded width n with
  | nil =>
    rw [hdigits] at hlength
    exact absurd hlength (by simp; omega)
  | cons c cs =>
    rw [hdigits] at hsplit htake hlength hvalue
    simp only [readFraction?, hsplit, htake, hlength, hvalue]

theorem readFraction?_fractionChars {nanos : Nat} (h : nanos < 1000000000) :
    readFraction? (fractionChars .fewest nanos ++ ['Z']) = some (nanos, ['Z']) := by
  rw [fractionChars]
  split
  · next hzero =>
    rw [hzero]
    rfl
  · split
    · next hmillis =>
      rw [List.cons_append, readFraction?_padded (by decide) (by decide)
        (show nanos / 1000000 < tenTo 3 by rw [show tenTo 3 = 1000 from rfl]; omega)]
      have hten : tenTo (9 - 3) = 1000000 := rfl
      rw [hten, Nat.div_mul_cancel (Nat.dvd_of_mod_eq_zero hmillis)]
    · split
      · next hmicros =>
        rw [List.cons_append, readFraction?_padded (by decide) (by decide)
          (show nanos / 1000 < tenTo 6 by rw [show tenTo 6 = 1000000 from rfl]; omega)]
        have hten : tenTo (9 - 6) = 1000 := rfl
        rw [hten, Nat.div_mul_cancel (Nat.dvd_of_mod_eq_zero hmicros)]
      · rw [List.cons_append, readFraction?_padded (by decide) (by decide) h]
        have hten : tenTo (9 - 9) = 1 := rfl
        rw [hten, Nat.mul_one]

/-! ## The time of day -/

/-- Day, time of day and fraction of an instant make the instant again. -/
theorem of?_timeOfDay (t : Instant) {day : Int} {time : Nat} (hday : day = t.seconds / 86400)
    (htime : time = (t.seconds % 86400).toNat) :
    (let start := day * 86400 + (time / 3600 : Nat) * 3600 + (time / 60 % 60 : Nat) * 60 - 0
      if time % 60 + t.nanos / 1000000000 = 60 then
        of? (start + 59) (t.nanos % 1000000000 + 1000000000)
      else of? (start + (time % 60 + t.nanos / 1000000000 : Nat)) (t.nanos % 1000000000)) =
      some t := by
  have hleap := t.leap
  have hnanos := t.nanos_lt
  have hof : of? t.seconds t.nanos = some t := by
    rw [of?, dif_pos ⟨hnanos, hleap⟩]
  simp only
  split
  · next hsixty =>
    have hseconds : day * 86400 + (time / 3600 : Nat) * 3600 + (time / 60 % 60 : Nat) * 60 - 0 + 59 =
        t.seconds := by omega
    have hrest : t.nanos % 1000000000 + 1000000000 = t.nanos := by omega
    rw [hseconds, hrest, hof]
  · next hnot =>
    have hseconds : day * 86400 + (time / 3600 : Nat) * 3600 + (time / 60 % 60 : Nat) * 60 - 0 +
        (time % 60 + t.nanos / 1000000000 : Nat) = t.seconds := by omega
    have hrest : t.nanos % 1000000000 = t.nanos := by omega
    rw [hseconds, hrest, hof]

theorem bind_of_eq_some {α β : Type} {x : Option α} {a : α} (h : x = some a)
    (f : α → Option β) : x >>= f = f a := by
  rw [h]
  rfl

theorem readSeparator?_cons (rest : List Char) : readSeparator? ('T' :: rest) = some rest := rfl

/-- A year with a sign is refused at once. -/
theorem read?_signedYear {year : Int} (h : ¬(0 ≤ year ∧ year ≤ 9999)) (rest : List Char) :
    read? (yearChars year ++ rest) = none := by
  have hsign : (if year < 0 then '-' else '+').isDigit = false := by
    split <;> decide
  rw [yearChars, if_neg h, List.cons_append, read?, readDigits?_of_not_digit (by decide) hsign]
  rfl

/-- The fields of a date and of a time of day are read as they were written. -/
theorem read?_fields {year month day hour minute second nanos : Nat} (hyear : year < tenTo 4)
    (hmonth : month < tenTo 2) (hday : day < tenTo 2) (hhour : hour < tenTo 2)
    (hminute : minute < tenTo 2) (hsecond : second < tenTo 2) (hnanos : nanos < 1000000000) :
    read? (padded 4 year ++ '-' :: (padded 2 month ++ '-' :: (padded 2 day ++
        'T' :: (padded 2 hour ++ ':' :: (padded 2 minute ++ ':' :: (padded 2 second ++
          (fractionChars .fewest nanos ++ ['Z']))))))) =
      if (⟨year, month, day⟩ : Date).isValid ∧ hour ≤ 23 ∧ minute ≤ 59 ∧ second ≤ 60 then
        let start := (⟨year, month, day⟩ : Date).toDays * 86400 + hour * 3600 + minute * 60 - 0
        if second = 60 then of? (start + 59) (nanos + 1000000000) else of? (start + second) nanos
      else none := by
  -- one reader after the other, as simplifying all at once is slow
  refine (bind_of_eq_some (readDigits?_padded (by decide) hyear _) _).trans ?_
  refine (bind_of_eq_some (readMark?_cons _ _) _).trans ?_
  refine (bind_of_eq_some (readDigits?_padded (by decide) hmonth _) _).trans ?_
  refine (bind_of_eq_some (readMark?_cons _ _) _).trans ?_
  refine (bind_of_eq_some (readDigits?_padded (by decide) hday _) _).trans ?_
  refine (bind_of_eq_some (readSeparator?_cons _) _).trans ?_
  refine (bind_of_eq_some (readDigits?_padded (by decide) hhour _) _).trans ?_
  refine (bind_of_eq_some (readMark?_cons _ _) _).trans ?_
  refine (bind_of_eq_some (readDigits?_padded (by decide) hminute _) _).trans ?_
  refine (bind_of_eq_some (readMark?_cons _ _) _).trans ?_
  refine (bind_of_eq_some (readDigits?_padded (by decide) hsecond _) _).trans ?_
  refine (bind_of_eq_some (readFraction?_fractionChars hnanos) _).trans ?_
  refine (bind_of_eq_some (show readZone? ['Z'] = some 0 from rfl) _).trans ?_
  rfl

/-- The text of an instant is read back as the instant if the year has four digits, and is
refused if not. -/
theorem read?_chars (t : Instant) :
    read? (t.chars .fewest ['Z']) = if t.hasFourDigitYear then some t else none := by
  have hvalid := Date.isValid_ofDays (t.seconds / 86400)
  have hday := Date.toDays_ofDays (t.seconds / 86400)
  have hnanos := t.nanos_lt
  obtain ⟨time, htime⟩ : ∃ time, time = (t.seconds % 86400).toNat := ⟨_, rfl⟩
  have hclock := of?_timeOfDay t hday htime
  rw [hasFourDigitYear, year]
  simp only [chars, ← htime]
  generalize Date.ofDays (t.seconds / 86400) = date at *
  by_cases hyear : 0 ≤ date.year ∧ date.year ≤ 9999
  · have hmonth : date.month < tenTo 2 ∧ date.day < tenTo 2 := by
      simp only [Date.isValid, Date.monthDays, Bool.and_eq_true, decide_eq_true_eq] at hvalid
      have hten : tenTo 2 = 100 := rfl
      refine ⟨by omega, Nat.lt_of_le_of_lt (of_decide_eq_true hvalid.2) ?_⟩
      repeat' split
      all_goals omega
    have hlt : time < 86400 := by omega
    have hten : tenTo 2 = 100 := rfl
    have hyearText : yearChars date.year = padded 4 date.year.toNat := by
      rw [yearChars, if_pos hyear]
    have hyearLt : date.year.toNat < tenTo 4 := by
      have hten : tenTo 4 = 10000 := rfl
      omega
    have hdate : (⟨(date.year.toNat : Nat), date.month, date.day⟩ : Date) = date := by
      rw [Int.toNat_of_nonneg hyear.1]
    have hhour : time / 3600 < tenTo 2 := by omega
    have hminute : time / 60 % 60 < tenTo 2 := by omega
    have hsecond : time % 60 + t.nanos / 1000000000 < tenTo 2 := by omega
    have hread := read?_fields hyearLt hmonth.1 hmonth.2 hhour hminute hsecond
      (Nat.mod_lt t.nanos (by decide))
    rw [hdate] at hread
    rw [hyearText]
    simp only [List.append_assoc, List.cons_append]
    rw [hread, if_pos ⟨hvalid, by omega, by omega, by omega⟩, hclock, if_pos (by simp [hyear])]
  · have hflag : (decide (0 ≤ date.year) && decide (date.year ≤ 9999)) = false := by
      rw [← Bool.decide_and]
      exact decide_eq_false hyear
    simp only [List.append_assoc]
    rw [read?_signedYear hyear, hflag]
    rfl

end EntityQuery.Instant
