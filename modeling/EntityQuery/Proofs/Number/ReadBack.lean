import EntityQuery.Number.Notation
import EntityQuery.Proofs.Number.Nearest
import EntityQuery.Proofs.Text.Decimal

/-!
# Binary64 numbers read back

The text of a binary64 number is read back as the number.  The proof has three
parts.

* Decimals.  `Decimal.StandsFor` says that a decimal belongs to a code.
  `shortest_standsFor` is the property that the search for the shortest decimal
  keeps, and `ofDecimal?_of_standsFor` takes such a decimal back to the number.
* Text.  `readUnsigned?_plainDigits` and `readUnsigned?_exponentDigits` say which
  decimal the two notations are read as.  Plain notation fills up with zeros, so it
  is read as more digits of the same decimal.
* The assembly, `read?_chars`.
-/

namespace EntityQuery.Binary64

open EntityQuery.Text

/-! ## Decimals -/

/-- A decimal belongs to a code: the nearest number to it has this code. -/
def Decimal.StandsFor (d : Decimal) (code : Nat) : Prop :=
  Nearby code (d.digits * tenTo d.exponent.toNat) (tenTo (-d.exponent).toNat)

/-- Zeros after the last digit change nothing. -/
theorem Decimal.StandsFor.addZeros {n code : Nat} {e : Int} (count : Nat)
    (h : StandsFor ⟨n, e⟩ code) : StandsFor ⟨n * tenTo count, e - count⟩ code := by
  apply Nearby.congr h (tenTo_pos _) (tenTo_pos _)
  have hpower : e.toNat + (-(e - count)).toNat = count + (e - count).toNat + (-e).toNat := by
    omega
  have hten := congrArg tenTo hpower
  rw [tenTo_add, tenTo_add, tenTo_add] at hten
  calc n * tenTo e.toNat * tenTo (-(e - count)).toNat
      = n * (tenTo e.toNat * tenTo (-(e - count)).toNat) := Nat.mul_assoc ..
    _ = n * (tenTo count * tenTo (e - count).toNat * tenTo (-e).toNat) := by rw [hten]
    _ = n * tenTo count * tenTo (e - count).toNat * tenTo (-e).toNat := by
      simp only [Nat.mul_assoc]

theorem nearby_of_readsBack {code place digits : Nat} (h : readsBack code place digits = true) :
    Nearby code (digits * tenTo (place - 1075)) (tenTo (1075 - place)) := by
  rw [readsBack, Nat.mul_right_comm] at h
  split at h
  · next heven =>
    rw [Bool.and_eq_true, decide_eq_true_eq, decide_eq_true_eq] at h
    exact ⟨h.1, h.2, fun hodd => absurd heven (by omega)⟩
  · rw [Bool.and_eq_true, decide_eq_true_eq, decide_eq_true_eq] at h
    exact ⟨Nat.le_of_lt h.1, Nat.le_of_lt h.2, fun _ => h⟩

/-- The point of a grid is one that is read back. -/
theorem readsBack_of_gridPoint? {code place digits : Nat}
    (h : gridPoint? code place = some digits) : readsBack code place digits = true := by
  simp only [gridPoint?] at h
  split at h
  · next hbelow habove =>
    rw [← Option.some.inj h]
    rcases roundHalfEven_cases (weight code * tenTo (1075 - place))
      (twoTo 1074 * tenTo (place - 1075)) with hround | hround
    · rw [hround]
      exact hbelow
    · rw [hround]
      exact habove
  · next hbelow _ =>
    rw [← Option.some.inj h]
    exact hbelow
  · next habove =>
    rw [← Option.some.inj h]
    exact habove
  · cases h

/-- A magnitude in units of `2 ^ (-places)` is a decimal of one place more. -/
theorem mul_five_pow (units places : Nat) :
    units * Nat.pow 5 places * 10 * tenTo 0 * twoTo places = units * tenTo (places + 1) := by
  have hone : tenTo 0 = 1 := rfl
  rw [hone, Nat.mul_one, tenTo_succ, tenTo_eq, Nat.mul_comm (twoTo places)]
  simp only [Nat.mul_assoc, Nat.mul_comm 10]

/-- The magnitude itself is a decimal of 1075 places. -/
theorem exact_standsFor {code places : Nat} (hcode : 0 < code) (hplaces : places = 1074) :
    Decimal.StandsFor ⟨weight code * Nat.pow 5 places * 10, -1075⟩ code := by
  have hup : (-1075 : Int).toNat = 0 := rfl
  have hdown : (-(-1075 : Int)).toNat = places + 1 := by omega
  rw [Decimal.StandsFor, hup, hdown]
  apply nearby_self hcode (tenTo_pos _)
  rw [← hplaces]
  exact mul_five_pow (weight code) places

/-- Every decimal that the search may stop at belongs to the code. -/
theorem search_standsFor {code : Nat} (hcode : 0 < code) (place : Nat) :
    (search code place).StandsFor code := by
  induction place with
  | zero =>
    -- the number of places is kept as a variable, so that nothing computes the power
    obtain ⟨places, hplaces⟩ : ∃ places, places = 1074 := ⟨_, rfl⟩
    rw [search, ← hplaces]
    exact exact_standsFor hcode hplaces
  | succ place ih =>
    unfold search
    split
    · next digits hpoint =>
      have hnear := nearby_of_readsBack (readsBack_of_gridPoint? hpoint)
      have hup : ((place : Int) + 1 - 1075).toNat = place + 1 - 1075 := by omega
      have hdown : (-((place : Int) + 1 - 1075)).toNat = 1075 - (place + 1) := by omega
      simp only [Decimal.StandsFor, hup, hdown]
      exact hnear
    · exact ih

theorem shortest_standsFor {code : Nat} (hcode : 0 < code) :
    (shortest code).StandsFor code := by
  rw [shortest, if_neg (by omega)]
  exact search_standsFor hcode _

theorem lowerHalfway_pos {code : Nat} (hcode : 0 < code) : 0 < lowerHalfway code := by
  have := weight_pos hcode
  unfold lowerHalfway
  omega

/-- A decimal that belongs to a positive number is not zero. -/
theorem Decimal.StandsFor.digits_pos {d : Decimal} {code : Nat} (hcode : 0 < code)
    (h : d.StandsFor code) : 0 < d.digits := by
  apply Nat.pos_of_ne_zero
  intro hzero
  have hlower := h.lower
  rw [hzero, Nat.zero_mul, Nat.zero_mul] at hlower
  have := Nat.mul_pos (lowerHalfway_pos hcode) (tenTo_pos (-d.exponent).toNat)
  omega

/-- A decimal that belongs to a positive number is not below the range of `ofDecimal?`. -/
theorem Decimal.StandsFor.not_too_small {n code : Nat} {e : Int} (hcode : 0 < code)
    (h : StandsFor ⟨n, e⟩ code) : ¬e + (n.log2 + 1) < -330 := by
  intro hsmall
  obtain ⟨places, rfl⟩ : ∃ places : Nat, e = -(places : Int) := ⟨e.natAbs, by omega⟩
  have hlower := h.lower
  have hzero : tenTo (-(places : Int)).toNat = 1 := by
    rw [show (-(places : Int)).toNat = 0 by omega]
    rfl
  have hplaces : (- -(places : Int)).toNat = places := by omega
  simp only [hzero, hplaces, Nat.mul_one] at hlower
  have hpos := Nat.mul_le_mul_right (tenTo places) (Nat.succ_le_of_lt (lowerHalfway_pos hcode))
  have hlog : n < twoTo (n.log2 + 1) := Nat.lt_log2_self
  have hbound : n * twoTo 1075 < twoTo (places + 744) :=
    calc n * twoTo 1075 < twoTo (n.log2 + 1) * twoTo 1075 :=
          Nat.mul_lt_mul_of_pos_right hlog (twoTo_pos _)
      _ = twoTo (n.log2 + 1 + 1075) := (twoTo_add ..).symm
      _ ≤ twoTo (places + 744) := twoTo_le_twoTo (by omega)
  -- ten to the `places` is too large for that, from 332 places on
  have hten : twoTo (places + 744) ≤ tenTo places := by
    obtain ⟨more, rfl⟩ : ∃ more, places = 332 + more := ⟨places - 332, by omega⟩
    have hfirst : twoTo 1076 ≤ tenTo 332 := by decide +kernel
    have hmore : twoTo more ≤ tenTo more := Nat.pow_le_pow_left (by decide) more
    rw [show 332 + more + 744 = 1076 + more by omega, twoTo_add, tenTo_add]
    exact Nat.mul_le_mul hfirst hmore
  omega

theorem weight_lt {code : Nat} (hfinite : code < 0x7FF0000000000000) :
    weight code < twoTo 2098 := by
  have hscale : scale code ≤ 2045 := by
    unfold scale
    omega
  calc weight code < 0x20000000000000 * twoTo (scale code) :=
        Nat.mul_lt_mul_of_pos_right (significand_lt code) (twoTo_pos _)
    _ ≤ 0x20000000000000 * twoTo 2045 := Nat.mul_le_mul_left _ (twoTo_le_twoTo hscale)
    _ = twoTo 2098 := by decide +kernel

/-- A decimal that belongs to a finite number is not above the range of `ofDecimal?`. -/
theorem Decimal.StandsFor.not_too_large {n code : Nat} {e : Int} (hcode : 0 < code)
    (hfinite : code < 0x7FF0000000000000) (h : StandsFor ⟨n, e⟩ code) : ¬310 < e := by
  intro hlarge
  have hn : 0 < n := h.digits_pos hcode
  have hupper := h.upper
  have hone : tenTo (-e).toNat = 1 := by
    rw [show (-e).toNat = 0 by omega]
    rfl
  have hnext : weight (code + 1) ≤ twoTo 2098 + twoTo 2045 := by
    have hscale : scale code ≤ 2045 := by
      unfold scale
      omega
    have := twoTo_le_twoTo hscale
    have := weight_lt hfinite
    rw [weight_succ]
    omega
  have hweight := weight_lt hfinite
  simp only [hone, Nat.mul_one] at hupper
  have hten : tenTo 311 * twoTo 1075 ≤ n * tenTo e.toNat * twoTo 1075 :=
    Nat.mul_le_mul_right _ (Nat.le_trans (tenTo_le_tenTo (by omega))
      (Nat.le_mul_of_pos_left _ hn))
  have hcontra : 2 * twoTo 2098 + twoTo 2045 < tenTo 311 * twoTo 1075 := by
    decide +kernel
  rw [upperHalfway] at hupper
  omega

/-- A decimal that belongs to a number is read as the number. -/
theorem ofDecimal?_of_standsFor (negative : Bool) {n code : Nat} {e : Int} (hcode : 0 < code)
    (hfinite : code < 0x7FF0000000000000) (h : Decimal.StandsFor ⟨n, e⟩ code) :
    ofDecimal? negative n e = some ⟨negative, code, hfinite⟩ := by
  have hn : n ≠ 0 := Nat.ne_of_gt (h.digits_pos hcode)
  have hnear : nearest (n * tenTo e.toNat) (tenTo (-e).toNat) = code :=
    nearest_of_nearby (tenTo_pos _) h
  rw [ofDecimal?, if_neg (not_or.2 ⟨hn, h.not_too_small hcode⟩),
    if_neg (h.not_too_large hcode hfinite)]
  split
  · next hpos =>
    have hone : tenTo (-e).toNat = 1 := by
      rw [show (-e).toNat = 0 by omega]
      rfl
    rw [hone] at hnear
    rw [ofRatio?, hnear, ofCode?, dif_pos hfinite]
  · next hneg =>
    have hone : tenTo e.toNat = 1 := by
      rw [show e.toNat = 0 by omega]
      rfl
    rw [hone, Nat.mul_one] at hnear
    rw [ofRatio?, hnear, ofCode?, dif_pos hfinite]

/-! ## Text -/

/-- A number with a point: the digits on both sides of it, scaled by the exponent. -/
theorem readUnsigned?_point (negative : Bool) {whole fraction rest : List Char} {e : Int}
    (hne : whole ≠ []) (hwhole : ∀ c ∈ whole, c.isDigit = true)
    (hfraction : ∀ c ∈ fraction, c.isDigit = true) (hrest : NoDigitNext rest)
    (hexponent : readExponent? rest = some e) :
    readUnsigned? negative (whole ++ '.' :: (fraction ++ rest)) =
      ofDecimal? negative (foldDigits 0 (whole ++ fraction)) (e - fraction.length) := by
  have hpoint : NoDigitNext ('.' :: (fraction ++ rest)) := by
    intro c hc
    cases hc
    decide
  have hempty : whole.isEmpty = false := by simpa using hne
  simp only [readUnsigned?, splitDigits_append hwhole hpoint, splitFraction,
    splitDigits_append hfraction hrest, hempty, hexponent, Bool.false_and, Bool.false_eq_true,
    if_false, Option.bind_some]

/-- A number without a point: its digits, scaled by the exponent. -/
theorem readUnsigned?_whole (negative : Bool) {whole rest : List Char} {e : Int}
    (hne : whole ≠ []) (hwhole : ∀ c ∈ whole, c.isDigit = true)
    (hexponent : readExponent? ('e' :: rest) = some e) :
    readUnsigned? negative (whole ++ 'e' :: rest) = ofDecimal? negative (foldDigits 0 whole) e := by
  have hletter : NoDigitNext ('e' :: rest) := by
    intro c hc
    cases hc
    decide
  have hempty : whole.isEmpty = false := by simpa using hne
  have hsplit : splitFraction ('e' :: rest) = ([], 'e' :: rest) := rfl
  simp only [readUnsigned?, splitDigits_append hwhole hletter, hsplit, hempty, hexponent,
    Bool.false_and, Bool.false_eq_true, if_false, Option.bind_some, List.append_nil,
    List.length_nil, Int.natCast_zero, Int.sub_zero]

theorem readUnsigned?_pointBehind (negative : Bool) (n zeros : Nat) :
    readUnsigned? negative (natDigits n ++ List.replicate zeros '0' ++ ['.', '0']) =
      ofDecimal? negative (n * tenTo (zeros + 1)) (-1) := by
  have hwhole : ∀ c ∈ natDigits n ++ List.replicate zeros '0', c.isDigit = true := by
    intro c hc
    rcases List.mem_append.1 hc with hc | hc
    · exact isDigit_of_mem_natDigits hc
    · exact isDigit_of_mem_zeros hc
  have hfold : foldDigits 0 (natDigits n ++ List.replicate zeros '0' ++ ['0']) =
      n * tenTo (zeros + 1) := by
    rw [foldDigits_append, foldDigits_append, foldDigits_natDigits, foldDigits_zeros,
      show ['0'] = List.replicate 1 '0' from rfl, foldDigits_zeros, Nat.mul_assoc, ← tenTo_add]
  have hread := @readUnsigned?_point negative (natDigits n ++ List.replicate zeros '0')
    ['0'] [] 0 (by simp [natDigits_ne_nil]) hwhole (fun _ => @isDigit_of_mem_zeros 1 _)
    noDigitNext_nil rfl
  rw [hfold] at hread
  exact hread

theorem readUnsigned?_pointAmong (negative : Bool) {n places : Nat}
    (h : places < (natDigits n).length) :
    readUnsigned? negative ((natDigits n).take ((natDigits n).length - places) ++
        '.' :: (natDigits n).drop ((natDigits n).length - places)) =
      ofDecimal? negative n (-places) := by
  have hne : (natDigits n).take ((natDigits n).length - places) ≠ [] := by
    rw [Ne, List.take_eq_nil_iff]
    rintro (hzero | hnil)
    · omega
    · exact natDigits_ne_nil n hnil
  have htake : ∀ c ∈ (natDigits n).take ((natDigits n).length - places), c.isDigit = true :=
    fun c hc => isDigit_of_mem_natDigits (List.mem_of_mem_take hc)
  have hdrop : ∀ c ∈ (natDigits n).drop ((natDigits n).length - places), c.isDigit = true :=
    fun c hc => isDigit_of_mem_natDigits (List.mem_of_mem_drop hc)
  have hread := @readUnsigned?_point negative _ _ [] 0 hne htake hdrop noDigitNext_nil rfl
  rw [List.take_append_drop, foldDigits_natDigits, List.length_drop, List.append_nil] at hread
  rw [hread]
  congr 1
  omega

theorem readUnsigned?_pointBefore (negative : Bool) (n zeros : Nat) :
    readUnsigned? negative ('0' :: '.' :: List.replicate zeros '0' ++ natDigits n) =
      ofDecimal? negative n (-(zeros + (natDigits n).length : Nat)) := by
  have hfraction : ∀ c ∈ List.replicate zeros '0' ++ natDigits n, c.isDigit = true := by
    intro c hc
    rcases List.mem_append.1 hc with hc | hc
    · exact isDigit_of_mem_zeros hc
    · exact isDigit_of_mem_natDigits hc
  have hfold : foldDigits 0 (['0'] ++ (List.replicate zeros '0' ++ natDigits n)) = n := by
    rw [foldDigits_append, foldDigits_append, show foldDigits 0 ['0'] = 0 from rfl,
      foldDigits_zeros, Nat.zero_mul, foldDigits_natDigits]
  have hread := @readUnsigned?_point negative ['0'] _ [] 0 (by decide)
    (fun _ => @isDigit_of_mem_zeros 1 _) hfraction noDigitNext_nil rfl
  rw [hfold, List.length_append, List.length_replicate, List.append_nil, Int.zero_sub] at hread
  exact hread

/-- Plain notation is read as the decimal with zeros up to the point. -/
theorem readUnsigned?_plainDigits (negative : Bool) (n : Nat) (e : Int) :
    ∃ count : Nat, readUnsigned? negative (plainDigits (natDigits n) e) =
      ofDecimal? negative (n * tenTo count) (e - count) := by
  unfold plainDigits
  split
  · next hpos =>
    -- the zeros up to the point, and one after it
    refine ⟨e.toNat + 1, ?_⟩
    rw [readUnsigned?_pointBehind]
    congr 1
    omega
  · next hneg =>
    refine ⟨0, ?_⟩
    have hzero : n * tenTo 0 = n := Nat.mul_one n
    rw [hzero, Int.natCast_zero, Int.sub_zero]
    simp only
    split
    · next hlt =>
      rw [readUnsigned?_pointAmong negative hlt]
      congr 1
      omega
    · next hge =>
      rw [readUnsigned?_pointBefore]
      congr 1
      omega

/-- Notation with an exponent is read as the decimal. -/
theorem readUnsigned?_exponentDigits (negative : Bool) (n : Nat) (leading : Int) :
    readUnsigned? negative (exponentDigits (natDigits n) leading) =
      ofDecimal? negative n (leading - ((natDigits n).length - 1)) := by
  have hdigits : ∀ c ∈ natDigits n, c.isDigit = true := fun _ => isDigit_of_mem_natDigits
  have hfold := foldDigits_natDigits n
  have hexponent : readExponent?
      ('e' :: (if leading < 0 then '-' else '+') :: natDigits leading.natAbs) = some leading := by
    rw [readExponent?]
    split
    · have hread := readInt?_intDigits leading
      obtain ⟨size, rfl⟩ : ∃ size, leading = Int.negSucc size := Int.eq_negSucc_of_lt_zero ‹_›
      exact hread
    · next hpos =>
      have hread : readInt? ('+' :: natDigits leading.natAbs) =
          (readNat? (natDigits leading.natAbs)).map fun n => (n : Int) := rfl
      have habs : ((leading.natAbs : Nat) : Int) = leading := by omega
      rw [hread, readNat?_natDigits]
      exact congrArg some habs
  have hletter : NoDigitNext
      ('e' :: (if leading < 0 then '-' else '+') :: natDigits leading.natAbs) := by
    intro c hc
    cases hc
    decide
  simp only [exponentDigits]
  cases hn : natDigits n with
  | nil => exact absurd hn (natDigits_ne_nil n)
  | cons first rest =>
    rw [hn] at hdigits hfold
    have hfirst : ∀ c ∈ [first], c.isDigit = true := by
      intro c hc
      rw [List.mem_singleton.1 hc]
      exact hdigits first List.mem_cons_self
    cases rest with
    | nil =>
      have hread := readUnsigned?_whole negative (List.cons_ne_nil first []) hfirst hexponent
      rw [hfold] at hread
      refine hread.trans ?_
      simp
    | cons second rest =>
      have hfraction : ∀ c ∈ second :: rest, c.isDigit = true :=
        fun c hc => hdigits c (List.mem_cons_of_mem _ hc)
      have hread := readUnsigned?_point negative (List.cons_ne_nil first []) hfirst hfraction
        hletter hexponent
      have hjoin : [first] ++ second :: rest = first :: second :: rest := rfl
      rw [hjoin, hfold] at hread
      refine hread.trans ?_
      simp

/-! ## The assembly -/

/-- The characters of the magnitude of a number. -/
def magnitudeChars (code : Nat) : List Char :=
  if code = 0 then ['0', '.', '0']
  else
    let decimal := shortest code
    let digits := natDigits decimal.digits
    let leading := decimal.exponent + (digits.length : Int) - 1
    if plainRange.least ≤ leading ∧ leading ≤ plainRange.greatest then
      plainDigits digits decimal.exponent
    else exponentDigits digits leading

theorem chars_eq (x : Binary64) :
    x.chars = (if x.negative then ['-'] else []) ++ magnitudeChars x.code := by
  simp only [chars, magnitudeChars]
  split
  · rfl
  · split <;> rfl

theorem readUnsigned?_magnitudeChars (negative : Bool) {code : Nat}
    (hfinite : code < 0x7FF0000000000000) :
    readUnsigned? negative (magnitudeChars code) = some ⟨negative, code, hfinite⟩ := by
  simp only [magnitudeChars]
  split
  · next hzero =>
    subst hzero
    rfl
  · next hne =>
    have hcode : 0 < code := Nat.pos_of_ne_zero hne
    have hstands := shortest_standsFor hcode
    split
    · obtain ⟨count, hread⟩ := readUnsigned?_plainDigits negative (shortest code).digits
        (shortest code).exponent
      rw [hread]
      exact ofDecimal?_of_standsFor negative hcode hfinite (hstands.addZeros count)
    · rw [readUnsigned?_exponentDigits]
      have hexponent : (shortest code).exponent + ((natDigits (shortest code).digits).length : Int)
          - 1 - ((natDigits (shortest code).digits).length - 1) = (shortest code).exponent := by
        omega
      rw [hexponent]
      exact ofDecimal?_of_standsFor negative hcode hfinite hstands

/-! ## The shape of the text -/

/-- What follows the first digit of a number without a sign: digits and points, and behind them
an exponent or nothing.  It is a point or an exponent that tells the number from an integer. -/
inductive NumberRest : List Char → Prop where
  | plain {mantissa} (hmantissa : ∀ c ∈ mantissa, c.isDigit = true ∨ c = '.')
      (hpoint : '.' ∈ mantissa) : NumberRest mantissa
  | scaled {mantissa digits sign} (hmantissa : ∀ c ∈ mantissa, c.isDigit = true ∨ c = '.')
      (hsign : sign = '+' ∨ sign = '-') (hdigits : ∀ c ∈ digits, c.isDigit = true) :
      NumberRest (mantissa ++ 'e' :: sign :: digits)

theorem plainDigits_shape (n : Nat) (e : Int) :
    ∃ first rest, plainDigits (natDigits n) e = first :: rest ∧ first.isDigit = true ∧
      NumberRest rest := by
  have hdigits : ∀ c ∈ natDigits n, c.isDigit = true := fun _ => isDigit_of_mem_natDigits
  unfold plainDigits
  split
  · cases hn : natDigits n with
    | nil => exact absurd hn (natDigits_ne_nil n)
    | cons first rest =>
      rw [hn] at hdigits
      refine ⟨first, rest ++ (List.replicate e.toNat '0' ++ ['.', '0']), by simp,
        hdigits first List.mem_cons_self, .plain ?_ (by simp)⟩
      intro c hc
      rcases List.mem_append.1 hc with hc | hc
      · exact .inl (hdigits c (List.mem_cons_of_mem _ hc))
      · rcases List.mem_append.1 hc with hc | hc
        · exact .inl (isDigit_of_mem_zeros hc)
        · simp only [List.mem_cons, List.not_mem_nil, or_false] at hc
          rcases hc with rfl | rfl
          · exact .inr rfl
          · exact .inl (by decide)
  · simp only
    split
    · next hlt =>
      have hdrop : ∀ c ∈ (natDigits n).drop ((natDigits n).length - (-e).toNat),
          c.isDigit = true := fun c hc => hdigits c (List.mem_of_mem_drop hc)
      cases htake : (natDigits n).take ((natDigits n).length - (-e).toNat) with
      | nil =>
        rcases List.take_eq_nil_iff.1 htake with h | h
        · omega
        · exact absurd h (natDigits_ne_nil n)
      | cons first rest =>
        have htaken : ∀ c ∈ first :: rest, c.isDigit = true :=
          fun c hc => hdigits c (List.mem_of_mem_take (htake ▸ hc))
        refine ⟨first, rest ++ '.' :: (natDigits n).drop ((natDigits n).length - (-e).toNat), rfl,
          htaken first List.mem_cons_self, .plain ?_ (by simp)⟩
        intro c hc
        rcases List.mem_append.1 hc with hc | hc
        · exact .inl (htaken c (List.mem_cons_of_mem _ hc))
        · rcases List.mem_cons.1 hc with rfl | hc
          · exact .inr rfl
          · exact .inl (hdrop c hc)
    · refine ⟨'0', '.' :: (List.replicate ((-e).toNat - (natDigits n).length) '0' ++ natDigits n),
        rfl, by decide, .plain ?_ List.mem_cons_self⟩
      intro c hc
      rcases List.mem_cons.1 hc with rfl | hc
      · exact .inr rfl
      · rcases List.mem_append.1 hc with hc | hc
        · exact .inl (isDigit_of_mem_zeros hc)
        · exact .inl (hdigits c hc)

theorem exponentDigits_shape (n : Nat) (leading : Int) :
    ∃ first rest, exponentDigits (natDigits n) leading = first :: rest ∧ first.isDigit = true ∧
      NumberRest rest := by
  have hdigits : ∀ c ∈ natDigits n, c.isDigit = true := fun _ => isDigit_of_mem_natDigits
  have hexponent : ∀ c ∈ natDigits leading.natAbs, c.isDigit = true :=
    fun _ => isDigit_of_mem_natDigits
  have hsign : (if leading < 0 then '-' else '+') = '+' ∨
      (if leading < 0 then '-' else '+') = '-' := by
    split
    · exact .inr rfl
    · exact .inl rfl
  simp only [exponentDigits]
  cases hn : natDigits n with
  | nil => exact absurd hn (natDigits_ne_nil n)
  | cons first rest =>
    rw [hn] at hdigits
    have hfirst := hdigits first List.mem_cons_self
    cases rest with
    | nil =>
      exact ⟨first, [] ++ 'e' :: _ :: natDigits leading.natAbs, rfl, hfirst,
        .scaled (by simp) hsign hexponent⟩
    | cons second rest =>
      refine ⟨first, ('.' :: second :: rest) ++ 'e' :: _ :: natDigits leading.natAbs, rfl, hfirst,
        .scaled ?_ hsign hexponent⟩
      intro c hc
      rcases List.mem_cons.1 hc with rfl | hc
      · exact .inr rfl
      · exact .inl (hdigits c (List.mem_cons_of_mem _ hc))

theorem magnitudeChars_shape (code : Nat) :
    ∃ first rest, magnitudeChars code = first :: rest ∧ first.isDigit = true ∧
      NumberRest rest := by
  simp only [magnitudeChars]
  split
  · exact ⟨'0', ['.', '0'], rfl, by decide, .plain (by simp) List.mem_cons_self⟩
  · split
    · exact plainDigits_shape _ _
    · exact exponentDigits_shape _ _

/-- A number has a character that no integer has. -/
theorem NumberRest.exists_not_digit {rest : List Char} (h : NumberRest rest) :
    ∃ c ∈ rest, c.isDigit = false := by
  cases h with
  | plain _ hpoint => exact ⟨'.', hpoint, by decide⟩
  | scaled => exact ⟨'e', by simp, by decide⟩

/-- Digits in front are neither of the two signs. -/
theorem read?_of_digit {c : Char} (cs : List Char) (hc : c.isDigit = true) :
    read? (c :: cs) = readUnsigned? false (c :: cs) := by
  unfold read?
  split
  · next heq => cases heq; exact absurd hc (by decide)
  · next heq => cases heq; exact absurd hc (by decide)
  · rfl

/-- The text of a number is read back as the number. -/
theorem read?_chars (x : Binary64) : read? x.chars = some x := by
  obtain ⟨negative, code, hfinite⟩ := x
  rw [chars_eq]
  cases negative with
  | true => exact readUnsigned?_magnitudeChars true hfinite
  | false =>
    obtain ⟨first, rest, hchars, hfirst, _⟩ := magnitudeChars_shape code
    have hread := readUnsigned?_magnitudeChars false hfinite
    rw [hchars] at hread
    simp only [Bool.false_eq_true, if_false, List.nil_append, hchars]
    rw [read?_of_digit rest hfirst, hread]

/-- The text of a number is no integer. -/
theorem readInt64?_chars (x : Binary64) : readInt64? x.chars = none := by
  obtain ⟨first, rest, hchars, _, hrest⟩ := magnitudeChars_shape x.code
  obtain ⟨c, hmem, hc⟩ := hrest.exists_not_digit
  rw [chars_eq, hchars]
  refine readInt64?_of_not_digit (c := c) ?_ hc
  split
  · exact List.mem_cons_of_mem _ hmem
  · exact hmem

end EntityQuery.Binary64
