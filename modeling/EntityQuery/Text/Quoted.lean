/-!
# Quoted text

A quoted text stands between two quote characters.  Inside, a backslash is
written twice and so is the quote.  `encode` writes the inside; `read` takes a
quoted text from the front, and reads more than `encode` writes: a backslash
makes any character after it stand for itself.
-/

namespace EntityQuery.Text.Quoted

/-- The inside of a quoted text: backslashes and quotes are doubled. -/
def encode (quote : Char) : List Char → List Char
  | [] => []
  | c :: cs =>
    if c = '\\' then '\\' :: '\\' :: encode quote cs
    else if c = quote then quote :: quote :: encode quote cs
    else c :: encode quote cs

/-- The text that a run of characters after an opening quote holds, and what follows the
closing quote.  A doubled quote is a quote and a backslash keeps what follows it. -/
def read (quote : Char) : List Char → Option (List Char × List Char)
  | [] => none
  | [c] => if c ≠ '\\' ∧ c = quote then some ([], []) else none
  | c :: d :: ds =>
    if c = '\\' then (read quote ds).map fun (text, rest) => (d :: text, rest)
    else if c = quote then
      if d = quote then (read quote ds).map fun (text, rest) => (quote :: text, rest)
      else some ([], d :: ds)
    else (read quote (d :: ds)).map fun (text, rest) => (c :: text, rest)

/-- A character that is neither backslash nor quote stands for itself. -/
theorem read_cons {quote c : Char} (hslash : c ≠ '\\') (hquote : c ≠ quote) (cs : List Char) :
    read quote (c :: cs) = (read quote cs).map fun (text, rest) => (c :: text, rest) := by
  cases cs <;> simp [read, hslash, hquote]

/-- What follows a quoted text is shorter than the text. -/
theorem read_length {quote : Char} {cs text rest : List Char}
    (h : read quote cs = some (text, rest)) : rest.length < cs.length := by
  fun_induction read quote cs generalizing text rest with
  | case1 => simp at h
  | case2 => cases h; simp
  | case3 => simp at h
  | case4 d ds ih =>
    obtain ⟨⟨t, r⟩, hread, heq⟩ := Option.map_eq_some_iff.1 h
    cases heq
    have := ih hread
    simp only [List.length_cons]
    omega
  | case5 ds hslash ih =>
    obtain ⟨⟨t, r⟩, hread, heq⟩ := Option.map_eq_some_iff.1 h
    cases heq
    have := ih hread
    simp only [List.length_cons]
    omega
  | case6 => cases h; simp
  | case7 c d ds hslash hquote ih =>
    obtain ⟨⟨t, r⟩, hread, heq⟩ := Option.map_eq_some_iff.1 h
    cases heq
    have := ih hread
    simp only [List.length_cons] at this ⊢
    omega

/-- What was written is read, and reading goes on behind it. -/
theorem read_encode_append {quote : Char} (hquote : quote ≠ '\\') (s more : List Char) :
    read quote (encode quote s ++ more) =
      (read quote more).map fun (text, rest) => (s ++ text, rest) := by
  induction s with
  | nil => cases h : read quote more <;> simp [encode, h]
  | cons c cs ih =>
    have hstep : ∀ d, ((read quote more).map fun (text, rest) => (cs ++ text, rest)).map
        (fun (text, rest) => (d :: text, rest)) =
          (read quote more).map fun (text, rest) => (d :: cs ++ text, rest) := fun d =>
      Option.map_map ..
    rw [encode]
    split
    · next h =>
      subst h
      rw [List.cons_append, List.cons_append, read, if_pos rfl, ih, hstep]
    · next hslash =>
      split
      · next h =>
        subst h
        rw [List.cons_append, List.cons_append, read, if_neg hslash, if_pos rfl, if_pos rfl, ih,
          hstep]
      · next hother => rw [List.cons_append, read_cons hslash hother, ih, hstep]

/-- A quote closes the text if no other quote follows it. -/
theorem read_close {quote : Char} (hquote : quote ≠ '\\') {rest : List Char}
    (hrest : rest.head? ≠ some quote) : read quote (quote :: rest) = some ([], rest) := by
  cases rest with
  | nil => simp [read, hquote]
  | cons d ds =>
    have hd : d ≠ quote := fun h => hrest (h ▸ rfl)
    rw [read, if_neg hquote, if_pos rfl, if_neg hd]

/-- Reading gives back what was written and stops at the closing quote, if what follows does
not begin with another one. -/
theorem read_encode {quote : Char} (hquote : quote ≠ '\\') (s rest : List Char)
    (hrest : ∀ r, rest ≠ quote :: r) :
    read quote (encode quote s ++ quote :: rest) = some (s, rest) := by
  have hhead : rest.head? ≠ some quote := fun h => by
    obtain ⟨r, hr⟩ := List.head?_eq_some_iff.1 h
    exact hrest r hr
  rw [read_encode_append hquote, read_close hquote hhead]
  simp

end EntityQuery.Text.Quoted
