import Mathlib.Data.List.DropRight
import DbsMonitor.Lexing

/-!
# SQL text

A string is a list of UTF-16 code units, a scanner returns the text it takes from the beginning of
what is left, and a regular expression gives `none` where it does not match.
-/

namespace DbsMonitor.SqlText

open Lexing

abbrev CodeUnit := UInt16

def unit (char : Char) : CodeUnit := char.toNat.toUInt16

def units (text : String) : List CodeUnit := text.toList.map unit

inductive SqlTokenKind
  | keyword
  | string
  | number
  | parameter
  | comment
  | identifier
  | operator
  | whitespace
  deriving DecidableEq, Repr

structure SqlToken where
  kind : SqlTokenKind
  text : List CodeUnit
  deriving DecidableEq, Repr

def keywords : List (List CodeUnit) :=
  ["ALL", "ALTER", "AND", "ANY", "AS", "ASC", "BEGIN", "BETWEEN", "BY", "CASE", "CAST",
    "COMMIT", "CREATE", "CROSS", "DELETE", "DESC", "DISTINCT", "DO", "DROP", "ELSE", "END",
    "EXCEPT", "EXISTS", "FALSE", "FETCH", "FILTER", "FOR", "FROM", "FULL", "GROUP", "HAVING",
    "ILIKE", "IN", "INNER", "INSERT", "INTERSECT", "INTO", "IS", "JOIN", "LATERAL", "LEFT",
    "LIKE", "LIMIT", "NATURAL", "NOT", "NULL", "NULLS", "OFFSET", "ON", "OR", "ORDER",
    "OUTER", "OVER", "PARTITION", "RETURNING", "RIGHT", "ROLLBACK", "ROWS", "SELECT", "SET",
    "THEN", "TRUE", "UNION", "UPDATE", "USING", "VALUES", "WHEN", "WHERE", "WINDOW",
    "WITH"].map units

def operators : List (List CodeUnit) :=
  ["->>", "#>>", "::", ":=", "->", "#>", "@>", "<@", "<>", "!=", "<=", ">=", "||", ".."].map units

def within (first last : Char) (c : CodeUnit) : Bool :=
  first.toNat ≤ c.toNat && c.toNat ≤ last.toNat

def digit (c : CodeUnit) : Bool := within '0' '9' c

def wordStart (c : CodeUnit) : Bool :=
  within 'A' 'Z' c || within 'a' 'z' c || c = unit '_' || 0x80 ≤ c.toNat

def wordRest (c : CodeUnit) : Bool := wordStart c || digit c || c = unit '$'

def tagRest (c : CodeUnit) : Bool := wordStart c || digit c

def space (c : CodeUnit) : Bool :=
  (9 ≤ c.toNat && c.toNat ≤ 13) || (0x2000 ≤ c.toNat && c.toNat ≤ 0x200a)
    || [0x20, 0xa0, 0x1680, 0x2028, 0x2029, 0x202f, 0x205f, 0x3000, 0xfeff].contains c.toNat

/-- The upper case of a unit, for letters of a keyword. That of others is itself or not ASCII. -/
def upperCase (c : CodeUnit) : List CodeUnit :=
  if within 'a' 'z' c then [c - 32]
  else
    match c.toNat with
    | 0x131 => units "I"
    | 0x17f => units "S"
    | 0xdf => units "SS"
    | 0xfb00 => units "FF"
    | 0xfb01 => units "FI"
    | 0xfb02 => units "FL"
    | 0xfb03 => units "FFI"
    | 0xfb04 => units "FFL"
    | 0xfb05 => units "ST"
    | 0xfb06 => units "ST"
    | _ => [c]

def toUpperCase (text : List CodeUnit) : List CodeUnit := text.flatMap upperCase

def blockCommentLoop (depth : ℤ) : List CodeUnit → List CodeUnit
  | [] => []
  | [c] => [c]
  | c :: d :: rest =>
    if c = unit '/' ∧ d = unit '*' then c :: d :: blockCommentLoop (depth + 1) rest
    else if c = unit '*' ∧ d = unit '/' then
      c :: d :: if depth - 1 = 0 then [] else blockCommentLoop (depth - 1) rest
    else c :: blockCommentLoop depth (d :: rest)

def blockComment (rest : List CodeUnit) : List CodeUnit := blockCommentLoop 0 rest

def quotedLoop (quote : CodeUnit) : List CodeUnit → List CodeUnit
  | [] => []
  | [c] => [c]
  | c :: d :: rest =>
    if c ≠ quote then c :: quotedLoop quote (d :: rest)
    else if d = quote then c :: d :: quotedLoop quote rest
    else [c]

def quoted (char : CodeUnit) (after : List CodeUnit) (quote : CodeUnit) : List CodeUnit :=
  char :: quotedLoop quote after

def parameterPattern (after : List CodeUnit) : Option (List CodeUnit) :=
  if after.takeWhile digit = [] then none else some (unit '$' :: after.takeWhile digit)

def tagName : List CodeUnit → List CodeUnit
  | [] => []
  | c :: rest => if wordStart c then c :: rest.takeWhile tagRest else []

/-- The pattern of a tag, its name between two dollars, behind the first dollar. -/
def tagPattern (after : List CodeUnit) : Option (List CodeUnit) :=
  if (after.drop (tagName after).length).head? = some (unit '$') then
    some (unit '$' :: (tagName after ++ [unit '$']))
  else none

def sign : List CodeUnit → List CodeUnit
  | [] => []
  | c :: _ => if c = unit '+' ∨ c = unit '-' then [c] else []

def exponent : List CodeUnit → List CodeUnit
  | [] => []
  | c :: rest =>
    let digits := (rest.drop (sign rest).length).takeWhile digit
    if (c = unit 'e' ∨ c = unit 'E') ∧ digits ≠ [] then c :: (sign rest ++ digits) else []

def fraction : List CodeUnit → List CodeUnit
  | [] => []
  | c :: rest => if c = unit '.' then c :: rest.takeWhile digit else []

/-- `(?:\d+\.?\d*|\.\d+)`. Without a digit in front only a fraction that has one matches. -/
def mantissa (rest : List CodeUnit) : List CodeUnit :=
  rest.takeWhile digit ++ fraction (rest.drop (rest.takeWhile digit).length)

def numberPattern (rest : List CodeUnit) : Option (List CodeUnit) :=
  if (mantissa rest).any digit then
    some (mantissa rest ++ exponent (rest.drop (mantissa rest).length))
  else none

def dollarToken (after : List CodeUnit) : SqlToken :=
  match parameterPattern after with
  | some text => ⟨.parameter, text⟩
  | none =>
    match tagPattern after with
    | some tag =>
      match indexOf tag ((unit '$' :: after).drop tag.length) with
      | some close => ⟨.string, (unit '$' :: after).take (tag.length + close + tag.length)⟩
      | none => ⟨.string, unit '$' :: after⟩
    | none => ⟨.operator, [unit '$']⟩

def word (char : CodeUnit) (after : List CodeUnit) : SqlToken :=
  let word := char :: after.takeWhile wordRest
  ⟨if toUpperCase word ∈ keywords then .keyword else .identifier, word⟩

def nextToken (char : CodeUnit) (after : List CodeUnit) : SqlToken :=
  if space char then ⟨.whitespace, (char :: after).takeWhile space⟩
  else if units "--" <+: char :: after then
    ⟨.comment, (char :: after).takeWhile fun c => c ≠ unit '\n'⟩
  else if units "/*" <+: char :: after then ⟨.comment, blockComment (char :: after)⟩
  else if char = unit '\'' then ⟨.string, quoted char after (unit '\'')⟩
  else if char = unit '"' then ⟨.identifier, quoted char after (unit '"')⟩
  else if char = unit '$' then dollarToken after
  else if digit char ∨ (char = unit '.' ∧ after.head?.any digit) then
    ⟨.number, (numberPattern (char :: after)).getD [char]⟩
  else if wordStart char then word char after
  else
    ⟨.operator, (operators.find? fun candidate => candidate.isPrefixOf (char :: after)).getD [char]⟩

/-- What a scanner takes at a text that begins with `char`: that unit and some of those after it. -/
def Takes (char : CodeUnit) (after text : List CodeUnit) : Prop :=
  ∃ more, more <+: after ∧ text = char :: more

section Takes

variable {char : CodeUnit} {after text : List CodeUnit}

theorem Takes.of_cons (h : text <+: after) : Takes char after (char :: text) := ⟨text, h, rfl⟩

theorem Takes.of_le (h : text <+: char :: after) (hne : text ≠ []) : Takes char after text := by
  cases text with
  | nil => exact absurd rfl hne
  | cons c text =>
    obtain ⟨rfl, htext⟩ := List.cons_prefix_cons.mp h
    exact .of_cons htext

theorem takes_takeWhile {p : CodeUnit → Bool} (h : p char) :
    Takes char after ((char :: after).takeWhile p) := by
  rw [List.takeWhile_cons_of_pos h]
  exact .of_cons (List.takeWhile_prefix p)

theorem blockCommentLoop_le (depth : ℤ) (rest : List CodeUnit) :
    blockCommentLoop depth rest <+: rest := by
  fun_induction blockCommentLoop depth rest with
  | case1 | case2 => exact List.prefix_rfl
  | case3 _ _ _ _ _ ih => simpa using ih
  | case4 _ _ _ _ _ _ ih =>
    split_ifs
    · simp
    · simpa using ih
  | case5 _ _ _ _ _ _ ih => simpa using ih

theorem quotedLoop_le (quote : CodeUnit) (rest : List CodeUnit) :
    quotedLoop quote rest <+: rest := by
  fun_induction quotedLoop quote rest with
  | case1 | case2 => exact List.prefix_rfl
  | case3 _ _ _ _ ih => simpa using ih
  | case4 _ _ _ ih => simpa using ih
  | case5 => simp

theorem takes_blockComment (h : units "/*" <+: char :: after) :
    Takes char after (blockComment (char :: after)) := by
  refine .of_le (blockCommentLoop_le 0 _) ?_
  obtain ⟨rest, hrest⟩ := h
  change unit '/' :: unit '*' :: rest = char :: after at hrest
  rw [← hrest, blockComment, blockCommentLoop, if_pos ⟨rfl, rfl⟩]
  exact List.cons_ne_nil _ _

theorem sign_le (rest : List CodeUnit) : sign rest <+: rest := by
  unfold sign
  split
  · exact List.prefix_rfl
  · split_ifs <;> simp

theorem append_le {first second rest : List CodeUnit} (hfirst : first <+: rest)
    (hsecond : second <+: rest.drop first.length) : first ++ second <+: rest := by
  obtain ⟨more, rfl⟩ := hfirst
  rw [List.drop_left] at hsecond
  exact (List.prefix_append_right_inj first).mpr hsecond

theorem exponent_le (rest : List CodeUnit) : exponent rest <+: rest := by
  unfold exponent
  split
  · exact List.prefix_rfl
  · dsimp only
    split_ifs
    · rw [List.prefix_cons_inj]
      exact append_le (sign_le _) (List.takeWhile_prefix _)
    · exact List.nil_prefix

theorem fraction_le (rest : List CodeUnit) : fraction rest <+: rest := by
  unfold fraction
  split
  · exact List.prefix_rfl
  · split_ifs
    · rw [List.prefix_cons_inj]
      exact List.takeWhile_prefix _
    · exact List.nil_prefix

theorem takes_numberPattern (char : CodeUnit) (after : List CodeUnit) :
    Takes char after ((numberPattern (char :: after)).getD [char]) := by
  unfold numberPattern
  split_ifs with h
  · refine .of_le (append_le (append_le (List.takeWhile_prefix _) (fraction_le _))
      (exponent_le _)) fun hnil => ?_
    simp [(List.append_eq_nil_iff.mp hnil).1] at h
  · exact .of_cons List.nil_prefix

theorem tagName_le (after : List CodeUnit) : tagName after <+: after := by
  unfold tagName
  split
  · exact List.prefix_rfl
  · split_ifs
    · rw [List.prefix_cons_inj]
      exact List.takeWhile_prefix _
    · exact List.nil_prefix

theorem tagPattern_length (h : tagPattern after = some text) : 2 ≤ text.length := by
  unfold tagPattern at h
  split_ifs at h
  obtain rfl := Option.some.inj h
  simp

theorem takes_dollarToken (after : List CodeUnit) :
    Takes (unit '$') after (dollarToken after).text := by
  unfold dollarToken
  split
  · rename_i text hparameter
    unfold parameterPattern at hparameter
    split_ifs at hparameter
    obtain rfl := Option.some.inj hparameter
    exact .of_cons (List.takeWhile_prefix _)
  · split
    · rename_i tag htag
      have hlength := tagPattern_length htag
      split
      · refine .of_le (List.take_prefix _ _) fun hnil => ?_
        rw [List.take_eq_nil_iff] at hnil
        simp only [List.cons_ne_nil, or_false] at hnil
        omega
      · exact .of_cons List.prefix_rfl
    · exact .of_cons List.nil_prefix

theorem operators_ne_nil : ∀ candidate ∈ operators, candidate ≠ [] := by decide

theorem takes_operator (char : CodeUnit) (after : List CodeUnit) :
    Takes char after
      ((operators.find? fun candidate => candidate.isPrefixOf (char :: after)).getD [char]) := by
  cases hfind : operators.find? fun candidate => candidate.isPrefixOf (char :: after) with
  | none => exact .of_cons List.nil_prefix
  | some candidate =>
    have hle := List.find?_some hfind
    rw [List.isPrefixOf_iff_prefix] at hle
    exact .of_le hle (operators_ne_nil candidate (List.mem_of_find?_eq_some hfind))

theorem takes_nextToken (char : CodeUnit) (after : List CodeUnit) :
    Takes char after (nextToken char after).text := by
  unfold nextToken
  split_ifs with hspace hline hblock hquote hdouble hdollar hnumber hword
  · exact takes_takeWhile hspace
  · have hchar : unit '-' = char := (List.cons_prefix_cons.mp hline).1
    exact takes_takeWhile (p := fun c => c ≠ unit '\n') (hchar ▸ by decide)
  · exact takes_blockComment hblock
  · exact .of_cons (quotedLoop_le _ _)
  · exact .of_cons (quotedLoop_le _ _)
  · rw [hdollar]
    exact takes_dollarToken after
  · exact takes_numberPattern char after
  · exact .of_cons (List.takeWhile_prefix _)
  · exact takes_operator char after

end Takes

def sqlLexer : Lexer CodeUnit SqlToken where
  text := SqlToken.text
  next := nextToken
  next_ne_nil char after := by
    obtain ⟨more, -, htext⟩ := takes_nextToken char after
    rw [htext]
    exact List.cons_ne_nil _ _
  next_le char after := by
    obtain ⟨more, hmore, htext⟩ := takes_nextToken char after
    rw [htext, List.prefix_cons_inj]
    exact hmore

def sqlTokens (sql : List CodeUnit) : List SqlToken := sqlLexer.tokens sql

def clauses : List (List (List CodeUnit)) :=
  [["LEFT", "OUTER", "JOIN"], ["RIGHT", "OUTER", "JOIN"], ["FULL", "OUTER", "JOIN"],
    ["INSERT", "INTO"], ["DELETE", "FROM"], ["GROUP", "BY"], ["ORDER", "BY"], ["UNION", "ALL"],
    ["INNER", "JOIN"], ["LEFT", "JOIN"], ["RIGHT", "JOIN"], ["FULL", "JOIN"], ["CROSS", "JOIN"],
    ["NATURAL", "JOIN"], ["JOIN"],
    ["WITH"], ["SELECT"], ["FROM"], ["WHERE"], ["HAVING"], ["WINDOW"], ["LIMIT"], ["OFFSET"],
    ["FETCH"], ["UNION"], ["INTERSECT"], ["EXCEPT"], ["VALUES"], ["UPDATE"], ["SET"],
    ["RETURNING"], ["ON"], ["AND"], ["OR"]].map (List.map units)

def continuations : List (List CodeUnit) := ["ON", "AND", "OR"].map units

def blockStarters : List (List CodeUnit) := ["SELECT", "VALUES", "WITH"].map units

def separator (previous : Option SqlToken) (token : SqlToken) : List CodeUnit :=
  match previous with
  | none => []
  | some previous =>
    if previous.text = [] then []
    else if token.text ∈ [",", ";", ")", "."].map units then []
    else if previous.text = units "(" ∨ previous.text = units "." then []
    else if previous.text = units "::" ∨ token.text = units "::" then []
    else if token.text = units "(" ∧ previous.kind = .identifier then []
    else units " "

def SqlToken.spells (token : SqlToken) (word : List CodeUnit) : Bool :=
  token.kind = .keyword && toUpperCase token.text = word

def matchClause (tokens : List SqlToken) : Option (List SqlToken) :=
  if tokens.head?.map SqlToken.kind ≠ some .keyword then none
  else
    (clauses.find? fun clause =>
      clause.length ≤ tokens.length && (tokens.zip clause).all fun pair => pair.1.spells pair.2).map
        fun clause => tokens.take clause.length

structure Format where
  lines : List (List CodeUnit) := []
  current : List CodeUnit := []
  currentIndent : ℕ := 0
  indent : ℕ := 0
  blocks : List Bool := []

namespace Format

variable (state : Format)

def line : List CodeUnit :=
  List.replicate (2 * state.currentIndent) (unit ' ') ++ state.current

def flush : Format :=
  { state with
    lines := if state.current = [] then state.lines else state.lines ++ [state.line]
    current := [] }

def begin (level : ℕ) (text : List CodeUnit) : Format :=
  { state with currentIndent := level, current := text }

def opensBlock : Option SqlToken → Bool
  | none => false
  | some next => next.kind = .keyword && toUpperCase next.text ∈ blockStarters

def add (previous : Option SqlToken) (token : SqlToken) (next : Option SqlToken) : Format :=
  let glue := if state.current = [] then [] else separator previous token
  if token = ⟨.operator, units "("⟩ then
    let opened :=
      { state with
        blocks := opensBlock next :: state.blocks, current := state.current ++ glue ++ token.text }
    if opensBlock next then
      { opened.flush with indent := state.indent + 1, currentIndent := state.indent + 1 }
    else opened
  else if token = ⟨.operator, units ")"⟩ then
    let popped := { state with blocks := state.blocks.tail }
    if state.blocks.head? = some true then
      begin { popped.flush with indent := state.indent - 1 } (state.indent - 1) token.text
    else { popped with current := state.current ++ token.text }
  else
    let added := { state with current := state.current ++ glue ++ token.text }
    if token = ⟨.operator, units ","⟩ ∧ state.blocks = [] then
      { added.flush with currentIndent := state.indent + 1 }
    else added

def addClause (token : SqlToken) (clause : List SqlToken) : Format :=
  state.flush.begin
    (if toUpperCase token.text ∈ continuations then state.indent + 1 else state.indent)
    ([unit ' '].intercalate (clause.map SqlToken.text))

end Format

def formatLoop (state : Format) (previous : Option SqlToken) : List SqlToken → Format
  | [] => state
  | token :: rest =>
    match if state.current = [] then none else matchClause (token :: rest) with
    | some clause =>
      formatLoop (state.addClause token clause) clause.getLast? (rest.drop (clause.length - 1))
    | none => formatLoop (state.add previous token rest.head?) (some token) rest
termination_by tokens => tokens.length
decreasing_by
  · rw [List.length_drop, List.length_cons]
    omega
  · exact Nat.lt_succ_self _

def trim (text : List CodeUnit) : List CodeUnit := (text.dropWhile space).rdropWhile space

def formatSql (sql : List CodeUnit) : List CodeUnit :=
  let significant := (sqlTokens sql).filter fun token => token.kind != .whitespace
  if significant = [] then trim sql
  else [unit '\n'].intercalate (formatLoop {} none significant).flush.lines

end DbsMonitor.SqlText
