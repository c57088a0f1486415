import EntityQuery.Proofs.Gql.Lexemes
import EntityQuery.Proofs.Query.Compilation
import Mathlib.Data.List.Forall2

/-!
# The tokens of written queries

What a compiled query is cut into again, after it was written as text.  There is a
function for the tokens of each part, beside the function that writes its characters,
and a lemma that the characters are cut into them.

* Values.  `lexes_literal` is by induction on the value, `lexes_value` puts keys and
  timestamps beside it.
* Clauses.  `Clause.IsWritten` says that a clause has one of the seven operators;
  `Clause.CompilesTo.isWritten` gets it from compilation.
* Queries.  `CompiledQuery.tokenize_gql` is the result about a whole text.
-/

namespace EntityQuery

namespace Gql

open EntityQuery.Text

/-! ## Lists -/

/-- The tokens of several things with a comma between them. -/
def separated : List (List Token) → List Token
  | [] => []
  | [first] => first
  | first :: rest => first ++ .comma :: separated rest

theorem separated_cons (first : List Token) (rest : List (List Token)) :
    separated (first :: rest) = first ++ rest.flatMap (Token.comma :: ·) := by
  induction rest generalizing first with
  | nil => simp [separated]
  | cons second rest ih =>
    rw [separated, ih second]
    · simp
    · simp

/-- Pieces with commas between them are cut into the tokens of the pieces. -/
theorem lexes_listed {pieces : List (List Char)} {tokens : List (List Token)}
    (h : List.Forall₂ Lexes pieces tokens) : Lexes (listed pieces) (separated tokens) := by
  induction h with
  | nil => exact .nil
  | @cons first token rest more hfirst hrest ih =>
    cases hrest with
    | nil => exact hfirst
    | cons hsecond hmore =>
      have hspace := ih.break_cons (show isBreak ' ' = true from rfl)
      have hcomma := hspace.break_cons (show isBreak ',' = true from rfl)
      exact hfirst.append hcomma (breaks_cons.2 rfl)

theorem lexes_listed_map {α : Type} {chars : α → List Char} {tokens : α → List Token}
    (h : ∀ x, Lexes (chars x) (tokens x)) (xs : List α) :
    Lexes (listed (xs.map chars)) (separated (xs.map tokens)) := by
  apply lexes_listed
  induction xs with
  | nil => exact .nil
  | cons x xs ih => exact .cons (h x) ih

/-- A word in front of a piece, with a space between them. -/
theorem Lexes.keyword_cons {cs : List Char} {tokens : List Token} (keyword : Keyword)
    (h : Lexes cs tokens) :
    Lexes (keyword.text.toList ++ ' ' :: cs) (.word keyword.text :: tokens) :=
  (lexes_keyword keyword).append (h.break_cons (show isBreak ' ' = true from rfl))
    (breaks_cons.2 rfl)

/-- A call of a keyword on what stands in parentheses behind it. -/
theorem Lexes.call {cs : List Char} {tokens : List Token} (keyword : Keyword)
    (h : Lexes cs tokens) :
    Lexes (keyword.text.toList ++ ('(' :: cs ++ [')']))
      (.word keyword.text :: .openParen :: tokens ++ [.closeParen]) :=
  (lexes_keyword keyword).append h.in_parens (breaks_cons.2 rfl)

/-! ## Values -/

mutual

/-- The tokens of a literal value. -/
def literalTokens : Json → List Token
  | .null => [.word "NULL"]
  | .bool b => [.word (if b then "true" else "false")]
  | .number n => [.number n.reread]
  | .string s => [.text s]
  | .array items => .word "ARRAY" :: .openParen :: separated (itemTokens items) ++ [.closeParen]
  | .object members => [.text (Json.object members).text]

/-- The tokens of each literal of a list. -/
def itemTokens : List Json → List (List Token)
  | [] => []
  | item :: items => literalTokens item :: itemTokens items

end

mutual

theorem lexes_literal : ∀ v : Json, Lexes (literalChars v) (literalTokens v)
  | .null => lexes_keyword .null
  | .bool true => lexes_identifier (c := 't') (by decide) (by decide)
  | .bool false => lexes_identifier (c := 'f') (by decide) (by decide)
  | .number n => lexes_number n
  | .string s => lexes_text s
  | .array items => (lexes_listed (lexes_items items)).call .array
  | .object members => lexes_text (Json.object members).text

theorem lexes_items :
    ∀ items : List Json, List.Forall₂ Lexes (literalItems items) (itemTokens items)
  | [] => .nil
  | item :: items => .cons (lexes_literal item) (lexes_items items)

end

/-- The token of an id. -/
def keyIdToken : KeyId → Token
  | .number id => .number (.ofInt64 id)
  | .name s => .text s

theorem lexes_keyId (id : KeyId) : Lexes id.chars [keyIdToken id] := by
  cases id with
  | number id =>
    have hfits : (JsonNumber.ofInt64 id).fitsInt64 = true := by
      have hlt := id.toInt_lt
      show decide (id.toInt ≤ 9223372036854775807) = true
      exact decide_eq_true (by omega)
    have hnumber := lexes_number (.ofInt64 id)
    rwa [JsonNumber.reread_of_fitsInt64 hfits] at hnumber
  | name s => exact lexes_text s

/-- The tokens of a key literal. -/
def keyTokens (literal : KeyLiteral) : List Token :=
  [.word "KEY", .openParen, nameToken literal.kind, .comma, keyIdToken literal.id, .closeParen]

theorem lexes_key (literal : KeyLiteral) : Lexes (keyChars literal) (keyTokens literal) := by
  have hid := (lexes_keyId literal.id).break_cons (show isBreak ' ' = true from rfl)
  have hcomma := hid.break_cons (show isBreak ',' = true from rfl)
  have hpair := (lexes_name literal.kind).append hcomma (breaks_cons.2 rfl)
  exact hpair.call .key

/-- The tokens of a timestamp. -/
def timestampTokens (t : Instant) : List Token :=
  [.word "DATETIME", .openParen, .text (t.text .fewest), .closeParen]

theorem lexes_timestamp (t : Instant) : Lexes (timestampChars t) (timestampTokens t) :=
  (lexes_text (t.text .fewest)).call .datetime

/-- The tokens of a value. -/
def valueTokens : FilterValue → List Token
  | .literal v => literalTokens v
  | .timestamp t => timestampTokens t
  | .key k => keyTokens k

theorem lexes_value (value : FilterValue) : Lexes value.chars (valueTokens value) := by
  cases value with
  | literal v => exact lexes_literal v
  | timestamp t => exact lexes_timestamp t
  | key k => exact lexes_key k

end Gql

/-! ## Clauses -/

namespace Clause

/-- The operator of a clause in its own spelling. -/
def op (clause : Clause) : Operator :=
  (Operator.ofChars? clause.operator.toList).getD .equal

/-- The operator of the clause is one of the seven, in its own spelling. -/
def IsWritten (clause : Clause) : Prop := clause.operator = clause.op.text

theorem isWritten_of_operator {clause : Clause} {op : Operator}
    (h : clause.operator = op.text) : clause.op = op ∧ clause.IsWritten := by
  have hop : clause.op = op := by
    rw [Clause.op, h, Operator.text, String.toList_ofList, Operator.ofChars?_chars]
    rfl
  exact ⟨hop, by rw [IsWritten, hop, h]⟩

theorem CompilesTo.isWritten {kind : String} {clause compiled : Clause}
    (h : CompilesTo kind clause compiled) : compiled.IsWritten := by
  obtain ⟨op, -, hoperator⟩ := h.operator
  exact (isWritten_of_operator hoperator).2

end Clause

namespace Gql

open EntityQuery.Text

/-- The tokens of a comparison. -/
def clauseTokens (clause : Clause) : List Token :=
  nameToken clause.field :: .operator clause.op :: valueTokens clause.value

theorem lexes_clause {clause : Clause} (h : clause.IsWritten) :
    Lexes (clauseChars clause) (clauseTokens clause) := by
  have hvalue := (lexes_value clause.value).break_cons (show isBreak ' ' = true from rfl)
  have hop := (lexes_operator clause.op).append hvalue (breaks_cons.2 rfl)
  have hspace := hop.break_cons (show isBreak ' ' = true from rfl)
  have hclause := (lexes_name clause.field).append hspace (breaks_cons.2 rfl)
  have hchars : clause.operator.toList = clause.op.chars := by
    rw [h, Operator.text, String.toList_ofList]
  rw [clauseChars, hchars, List.append_assoc]
  exact hclause

/-- The keyword of a connector. -/
def connectorKeyword : Connector → Keyword
  | .and => .and
  | .or => .or

/-- The tokens of a comparison behind its connector. -/
def joinedTokens (clause : Clause) : List Token :=
  .word (connectorKeyword clause.connector).text :: clauseTokens clause

/-- The comparisons after the first begin with a space, if there are any. -/
theorem breaks_joined (clauses : List Clause) : Breaks (joinedChars clauses) := by
  cases clauses with
  | nil => exact breaks_nil
  | cons => exact breaks_cons.2 rfl

theorem lexes_joined {clauses : List Clause} (h : ∀ clause ∈ clauses, clause.IsWritten) :
    Lexes (joinedChars clauses) (clauses.flatMap joinedTokens) := by
  induction clauses with
  | nil => exact .nil
  | cons clause clauses ih =>
    have hclause := lexes_clause (h clause List.mem_cons_self)
    have hrest := ih fun clause hmem => h clause (List.mem_cons_of_mem _ hmem)
    have hword := hclause.keyword_cons (connectorKeyword clause.connector)
    have hspace := hword.break_cons (show isBreak ' ' = true from rfl)
    have htext : (connectorKeyword clause.connector).text = clause.connector.text := by
      cases clause.connector <;> rfl
    rw [htext] at hspace
    rw [List.flatMap_cons, joinedTokens, htext]
    exact hspace.append hrest (breaks_joined clauses)

/-! ## Queries -/

/-- The tokens of the fields to return. -/
def projectionTokens (fields : List String) : List Token :=
  if fields.isEmpty then [.star] else separated (fields.map fun field => [nameToken field])

/-- The tokens of the filter. -/
def filterTokens : List Clause → List Token
  | [] => []
  | clause :: clauses => .word "WHERE" :: clauseTokens clause ++ clauses.flatMap joinedTokens

/-- The keyword of a direction. -/
def directionKeyword : Direction → Keyword
  | .ascending => .asc
  | .descending => .desc

/-- The tokens of a field to sort by. -/
def orderTokens (spec : SortSpec) : List Token :=
  [nameToken spec.field, .word (directionKeyword spec.direction).text]

/-- The tokens of the fields to sort by. -/
def ordersTokens (specs : List SortSpec) : List Token :=
  if specs.isEmpty then []
  else .word "ORDER" :: .word "BY" :: separated (specs.map orderTokens)

/-- The tokens of a keyword and a count. -/
def countTokens (keyword : Keyword) : Option UInt64 → List Token
  | none => []
  | some n => [.word keyword.text, .number (JsonNumber.ofUInt64 n).reread]

theorem lexes_projection (fields : List String) :
    Lexes (projectionChars fields) (projectionTokens fields) := by
  rw [projectionChars, projectionTokens]
  split
  · exact .of_scan (by decide) fun _ _ => rfl
  · exact lexes_listed_map lexes_name fields

theorem lexes_filter {clauses : List Clause} (h : ∀ clause ∈ clauses, clause.IsWritten) :
    Lexes (filterChars clauses) (filterTokens clauses) := by
  cases clauses with
  | nil => exact .nil
  | cons clause clauses =>
    have hclause := lexes_clause (h clause List.mem_cons_self)
    have hrest := lexes_joined fun clause hmem => h clause (List.mem_cons_of_mem _ hmem)
    have hspace := (hclause.keyword_cons .where).break_cons (show isBreak ' ' = true from rfl)
    exact hspace.append hrest (breaks_joined clauses)

theorem lexes_order (spec : SortSpec) : Lexes (orderChars spec) (orderTokens spec) := by
  have hword := lexes_keyword (directionKeyword spec.direction)
  have hspace := hword.break_cons (show isBreak ' ' = true from rfl)
  have htext : (directionKeyword spec.direction).text = spec.direction.text := by
    cases spec.direction <;> rfl
  have hspec := (lexes_name spec.field).append hspace (breaks_cons.2 rfl)
  rw [htext] at hspec
  rw [orderTokens, htext]
  exact hspec

theorem lexes_orders (specs : List SortSpec) :
    Lexes (ordersChars specs) (ordersTokens specs) := by
  rw [ordersChars, ordersTokens]
  split
  · exact .nil
  · have hspecs := lexes_listed_map lexes_order specs
    have hby := (hspecs.keyword_cons .by).keyword_cons .order
    exact hby.break_cons (show isBreak ' ' = true from rfl)

theorem lexes_count (keyword : Keyword) (count : Option UInt64) :
    Lexes (countChars keyword count) (countTokens keyword count) := by
  cases count with
  | none => exact .nil
  | some n =>
    have hnumber := (lexes_number (.ofUInt64 n)).keyword_cons keyword
    exact hnumber.break_cons (show isBreak ' ' = true from rfl)

end Gql

namespace CompiledQuery

/-- The tokens of a query. -/
def tokens (compiled : CompiledQuery) : List Gql.Token :=
  let q := compiled.query
  .word "SELECT" :: Gql.projectionTokens q.projections ++
    .word "FROM" :: Gql.nameToken compiled.kind ::
    (Gql.filterTokens q.clauses ++ (Gql.ordersTokens q.orders ++
      (Gql.countTokens .limit q.limit ++ Gql.countTokens .offset q.offset)))

/-- All clauses of the query have one of the seven operators in its own spelling. -/
def IsWritten (compiled : CompiledQuery) : Prop :=
  ∀ clause ∈ compiled.query.clauses, clause.IsWritten

theorem isWritten_of_compile {q : Query} {compiled : CompiledQuery}
    (h : q.compile = .ok compiled) : compiled.IsWritten := by
  obtain ⟨-, clauses, hquery, hall⟩ := Query.compile_eq_ok_iff.1 h
  intro clause hmem
  rw [hquery] at hmem
  obtain ⟨own, hown⟩ := Clause.exists_of_mem_compiled hall hmem
  exact hown.isWritten

open Gql in
/-- The parts of a query behind the kind begin with a space each. -/
theorem breaks_parts :
    (∀ clauses rest, Breaks rest → Breaks (filterChars clauses ++ rest)) ∧
    (∀ specs rest, Breaks rest → Breaks (ordersChars specs ++ rest)) ∧
    (∀ keyword count rest, Breaks rest → Breaks (countChars keyword count ++ rest)) := by
  refine ⟨fun clauses rest hrest => ?_, fun specs rest hrest => ?_, fun _ count rest hrest => ?_⟩
  · cases clauses with
    | nil => exact hrest
    | cons => exact breaks_cons.2 rfl
  · unfold ordersChars
    split
    · exact hrest
    · exact breaks_cons.2 rfl
  · cases count with
    | none => exact hrest
    | some => exact breaks_cons.2 rfl

open Gql in
/-- The text of a query is cut into its tokens. -/
theorem tokenize_gql {compiled : CompiledQuery} (h : compiled.IsWritten) :
    tokenize compiled.gql = .ok compiled.tokens := by
  obtain ⟨hfilter, horders, hcount⟩ := breaks_parts
  have hoffset := lexes_count .offset compiled.query.offset
  have hoffsetBreaks := hcount .offset compiled.query.offset [] breaks_nil
  rw [List.append_nil] at hoffsetBreaks
  have hlimit := (lexes_count .limit compiled.query.limit).append hoffset hoffsetBreaks
  have hlimitBreaks := hcount .limit compiled.query.limit _ hoffsetBreaks
  have hordered := (lexes_orders compiled.query.orders).append hlimit hlimitBreaks
  have horderedBreaks := horders compiled.query.orders _ hlimitBreaks
  have hfiltered := (lexes_filter h).append hordered horderedBreaks
  have hfilteredBreaks := hfilter compiled.query.clauses _ horderedBreaks
  have hkind := (lexes_name compiled.kind).append hfiltered hfilteredBreaks
  have hfrom := (hkind.keyword_cons .from).break_cons (show isBreak ' ' = true from rfl)
  have hselected := (lexes_projection compiled.query.projections).append hfrom (breaks_cons.2 rfl)
  apply Lexes.tokenize
  rw [gql, String.toList_ofList]
  have hselect : "SELECT ".toList = Keyword.select.text.toList ++ [' '] := by decide
  have hfromText : " FROM ".toList = ' ' :: (Keyword.from.text.toList ++ [' ']) := by decide
  have hchars : compiled.chars = Keyword.select.text.toList ++ ' ' ::
      (projectionChars compiled.query.projections ++ ' ' :: (Keyword.from.text.toList ++ ' ' ::
        (nameChars compiled.kind ++ (filterChars compiled.query.clauses ++
          (ordersChars compiled.query.orders ++ (countChars .limit compiled.query.limit ++
            countChars .offset compiled.query.offset)))))) := by
    have hwritten : compiled.chars =
        "SELECT ".toList ++ projectionChars compiled.query.projections ++ " FROM ".toList ++
          nameChars compiled.kind ++ filterChars compiled.query.clauses ++
          ordersChars compiled.query.orders ++ countChars .limit compiled.query.limit ++
          countChars .offset compiled.query.offset := rfl
    rw [hwritten, hselect, hfromText]
    simp only [List.append_assoc, List.cons_append, List.nil_append]
  rw [hchars]
  exact hselected.keyword_cons .select

end CompiledQuery

end EntityQuery
