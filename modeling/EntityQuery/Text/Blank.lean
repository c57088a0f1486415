/-!
# White space

The characters with the Unicode property White_Space, and a text without those
at its two ends.
-/

namespace EntityQuery.Text

/-- White space: the 25 characters with the Unicode property White_Space. -/
def isBlank (c : Char) : Bool :=
  let n := c.toNat
  (9 ≤ n && n ≤ 13) || n == 0x20 || n == 0x85 || n == 0xA0 || n == 0x1680 ||
    (0x2000 ≤ n && n ≤ 0x200A) || n == 0x2028 || n == 0x2029 || n == 0x202F ||
    n == 0x205F || n == 0x3000

/-- The code points of white space. -/
def blankPoints : List Nat :=
  [9, 10, 11, 12, 13, 0x20, 0x85, 0xA0, 0x1680, 0x2000, 0x2001, 0x2002, 0x2003, 0x2004, 0x2005,
    0x2006, 0x2007, 0x2008, 0x2009, 0x200A, 0x2028, 0x2029, 0x202F, 0x205F, 0x3000]

theorem toNat_mem_blankPoints {c : Char} (h : isBlank c = true) : c.toNat ∈ blankPoints := by
  simp only [isBlank, Bool.or_eq_true, Bool.and_eq_true, decide_eq_true_eq, beq_iff_eq] at h
  simp only [blankPoints, List.mem_cons, List.not_mem_nil, or_false]
  omega

/-- What is false of the 25 characters is false of all white space. -/
theorem of_isBlank {p : Char → Bool} (hp : ∀ n ∈ blankPoints, p (Char.ofNat n) = false) {c : Char}
    (h : isBlank c = true) : p c = false := by
  have hpoint := hp c.toNat (toNat_mem_blankPoints h)
  rwa [Char.ofNat_toNat] at hpoint

/-- What is false of the 25 characters holds of no white space. -/
theorem isBlank_eq_false_of {p : Char → Bool} (hp : ∀ n ∈ blankPoints, p (Char.ofNat n) = false)
    {c : Char} (h : p c = true) : isBlank c = false :=
  Bool.eq_false_iff.2 fun hblank => Bool.eq_false_iff.1 (of_isBlank hp hblank) h

/-- The characters of a text without the white space at its two ends. -/
def trimChars (cs : List Char) : List Char :=
  ((cs.dropWhile isBlank).reverse.dropWhile isBlank).reverse

/-- Whether a text has nothing but white space. -/
def allBlank (s : String) : Bool := s.toList.all isBlank

end EntityQuery.Text
