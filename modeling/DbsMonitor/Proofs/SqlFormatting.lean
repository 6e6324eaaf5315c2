import DbsMonitor.Proofs.SqlBoundaries

/-!
# Formatting keeps the tokens where they stay apart

`formatSql` writes the significant tokens of a statement one by one, each after a gap: a line break
with an indentation, or what `separator` gives (`Laid`). So the significant tokens of the result are
those it was given exactly when each is read before what is written behind it.
-/

namespace DbsMonitor.SqlText

open Lexing

def newline (indent : ℕ) : List CodeUnit := unit '\n' :: List.replicate indent (unit ' ')

theorem intercalate_concat (separator : List CodeUnit) :
    ∀ (lines : List (List CodeUnit)) (line : List CodeUnit), lines ≠ [] →
      separator.intercalate (lines ++ [line]) = separator.intercalate lines ++ separator ++ line
  | [], _, h => absurd rfl h
  | [first], line, _ => by simp [List.intercalate, List.intersperse]
  | first :: second :: lines, line, _ => by
    have ih := intercalate_concat separator (second :: lines) line (List.cons_ne_nil _ _)
    simp only [List.cons_append, List.intercalate_cons_cons] at ih ⊢
    rw [ih]
    simp

namespace Format

variable (state : Format)

def text : List CodeUnit := [unit '\n'].intercalate state.flush.lines

variable {state}

theorem lines_flush_ne_nil (h : state.current ≠ []) : state.flush.lines ≠ [] := by
  simp [flush, h]

/-- What is written in front of a line: its indentation, on a new line unless it is the first. -/
def startGap (lines : List (List CodeUnit)) (indent : ℕ) : List CodeUnit :=
  if lines = [] then List.replicate (2 * indent) (unit ' ') else newline (2 * indent)

theorem lines_flush_of_nil (h : state.current = []) : state.flush.lines = state.lines := by
  simp [flush, h]

theorem text_start {state' : Format} (hlines : state'.lines = state.flush.lines)
    (hcurrent : state'.current ≠ []) :
    state'.text = state.text ++ startGap state.flush.lines state'.currentIndent
      ++ state'.current := by
  have htext : state'.text = [unit '\n'].intercalate (state.flush.lines ++ [state'.line]) := by
    rw [text, flush, if_neg hcurrent, hlines]
  rw [htext, startGap]
  split_ifs with hnil
  · rw [text, hnil]
    simp [List.intercalate, line]
  · rw [intercalate_concat _ _ _ hnil, text, line, newline]
    simp

theorem text_put {state' : Format} {glue more : List CodeUnit} (hlines : state'.lines = state.lines)
    (hindent : state'.currentIndent = state.currentIndent) (hmore : more ≠ [])
    (hcurrent : state'.current
      = state.current ++ (if state.current = [] then [] else glue) ++ more) :
    state'.text = state.text
      ++ (if state.current = [] then startGap state.lines state.currentIndent else glue)
      ++ more := by
  split_ifs at hcurrent ⊢ with h
  · rw [h, List.nil_append, List.nil_append] at hcurrent
    rw [text_start (hlines.trans (lines_flush_of_nil h).symm) (hcurrent ▸ hmore),
      lines_flush_of_nil h, hindent, hcurrent]
  · have hne : state.current ++ glue ++ more ≠ [] := by simp [h]
    simp only [text, flush, line, hlines, hcurrent, hindent, if_neg h, if_neg hne]
    cases hcase : state.lines with
    | nil => simp [List.intercalate]
    | cons first lines =>
      rw [← hcase, intercalate_concat _ _ _ (by simp [hcase]),
        intercalate_concat _ _ _ (by simp [hcase])]
      simp

def blocksAfter (blocks : List Bool) (token : SqlToken) (next : Option SqlToken) : List Bool :=
  if token = ⟨.operator, units "("⟩ then opensBlock next :: blocks
  else if token = ⟨.operator, units ")"⟩ then blocks.tail
  else blocks

def EndsLine (blocks : List Bool) (token : SqlToken) : Prop :=
  (token = ⟨.operator, units ","⟩ ∧ blocks = []) ∨
    (token = ⟨.operator, units "("⟩ ∧ blocks.head? = some true)

structure Settled (state : Format) (token : SqlToken) : Prop where
  current : state.current = [] ↔ EndsLine state.blocks token
  lines : state.current = [] → state.lines ≠ []

variable {previous next : Option SqlToken} {token : SqlToken}

theorem paren_ne : (⟨.operator, units ")"⟩ : SqlToken) ≠ ⟨.operator, units "("⟩ := by decide

theorem comma_ne : (⟨.operator, units ","⟩ : SqlToken) ≠ ⟨.operator, units "("⟩ ∧
    (⟨.operator, units ","⟩ : SqlToken) ≠ ⟨.operator, units ")"⟩ := by decide

theorem blocks_add (state : Format) (previous : Option SqlToken) (token : SqlToken)
    (next : Option SqlToken) :
    (state.add previous token next).blocks = blocksAfter state.blocks token next := by
  unfold add blocksAfter
  dsimp only
  split_ifs <;> rfl

def ClosesBlock (blocks : List Bool) (token : SqlToken) : Prop :=
  token = ⟨.operator, units ")"⟩ ∧ blocks.head? = some true

instance (blocks : List Bool) (token : SqlToken) : Decidable (ClosesBlock blocks token) :=
  inferInstanceAs (Decidable (_ ∧ _))

def gap (state : Format) (previous : Option SqlToken) (token : SqlToken) : List CodeUnit :=
  if ClosesBlock state.blocks token then startGap state.flush.lines (state.indent - 1)
  else if state.current = [] then startGap state.lines state.currentIndent
  else separator previous token

theorem separator_close (previous : Option SqlToken) :
    separator previous ⟨.operator, units ")"⟩ = [] := by
  unfold separator
  cases previous with
  | none => rfl
  | some previous => split_ifs <;> first | rfl | simp_all

theorem text_of_current (h : state.current = []) :
    state.text = [unit '\n'].intercalate state.lines := by
  rw [text, lines_flush_of_nil h]

theorem text_ended {state' : Format} (hlines : state'.lines = state.flush.lines)
    (hcurrent : state'.current = []) : state'.text = state.text := by
  rw [text_of_current hcurrent, hlines, text]

theorem gap_of_not_closes (h : ¬ ClosesBlock state.blocks token) :
    state.gap previous token
      = if state.current = [] then startGap state.lines state.currentIndent
        else separator previous token := by
  rw [gap, if_neg h]

theorem text_add (htoken : token.text ≠ []) :
    (state.add previous token next).text
      = state.text ++ state.gap previous token ++ token.text := by
  by_cases hopen : token = ⟨.operator, units "("⟩
  · have hcloses : ¬ ClosesBlock state.blocks token := fun h => paren_ne (h.1.symm.trans hopen)
    rw [gap_of_not_closes hcloses, add, if_pos hopen]
    by_cases hblock : opensBlock next
    · rw [if_pos hblock]
      exact (text_ended rfl rfl).trans (text_put rfl rfl htoken rfl)
    · rw [if_neg hblock]
      exact text_put rfl rfl htoken rfl
  by_cases hclose : token = ⟨.operator, units ")"⟩
  · rw [add, if_neg hopen, if_pos hclose]
    by_cases hhead : state.blocks.head? = some true
    · rw [if_pos hhead, gap, if_pos ⟨hclose, hhead⟩]
      exact text_start rfl htoken
    · have hcloses : ¬ ClosesBlock state.blocks token := fun h => hhead h.2
      rw [if_neg hhead, gap_of_not_closes hcloses, hclose, separator_close]
      exact text_put rfl rfl (by decide) (by simp)
  · have hcloses : ¬ ClosesBlock state.blocks token := fun h => hclose h.1
    rw [gap_of_not_closes hcloses, add, if_neg hopen, if_neg hclose]
    by_cases htop : token = ⟨.operator, units ","⟩ ∧ state.blocks = []
    · rw [if_pos htop]
      exact (text_ended rfl rfl).trans (text_put rfl rfl htoken rfl)
    · rw [if_neg htop]
      exact text_put rfl rfl htoken rfl

theorem settled_add (htoken : token.text ≠ []) : Settled (state.add previous token next) token := by
  have hput : ∀ glue : List CodeUnit, state.current ++ glue ++ token.text ≠ [] := by
    intro glue
    simp [htoken]
  by_cases hopen : token = ⟨.operator, units "("⟩
  · rw [add, if_pos hopen]
    by_cases hblock : opensBlock next
    · rw [if_pos hblock]
      refine ⟨iff_of_true rfl (.inr ⟨hopen, ?_⟩), fun _ => lines_flush_ne_nil (hput _)⟩
      exact congrArg some hblock
    · rw [if_neg hblock]
      refine ⟨iff_of_false (hput _) ?_, fun h => absurd h (hput _)⟩
      rintro (⟨h, -⟩ | ⟨-, h⟩)
      · exact comma_ne.1 (h.symm.trans hopen)
      · exact hblock (Option.some.inj h)
  by_cases hclose : token = ⟨.operator, units ")"⟩
  · have hends : ∀ blocks, ¬ EndsLine blocks token := by
      rintro blocks (⟨h, -⟩ | ⟨h, -⟩)
      · exact comma_ne.2 (h.symm.trans hclose)
      · exact hopen h
    rw [add, if_neg hopen, if_pos hclose]
    by_cases hhead : state.blocks.head? = some true
    · rw [if_pos hhead]
      exact ⟨iff_of_false htoken (hends _), fun h => absurd h htoken⟩
    · have hne : state.current ++ token.text ≠ [] := by simp [htoken]
      rw [if_neg hhead]
      exact ⟨iff_of_false hne (hends _), fun h => absurd h hne⟩
  · rw [add, if_neg hopen, if_neg hclose]
    by_cases htop : token = ⟨.operator, units ","⟩ ∧ state.blocks = []
    · rw [if_pos htop]
      exact ⟨iff_of_true rfl (.inl htop), fun _ => lines_flush_ne_nil (hput _)⟩
    · rw [if_neg htop]
      refine ⟨iff_of_false (hput _) ?_, fun h => absurd h (hput _)⟩
      rintro (h | ⟨h, -⟩)
      · exact htop h
      · exact hopen h

end Format

section Words

variable {token : SqlToken} {rest : List CodeUnit} {tokens clause : List SqlToken}

theorem keyword_start (h : sqlLexer.Reads token rest) (hkind : token.kind = .keyword) :
    token.text.head?.any wordStart = true := by
  obtain ⟨char, more, htext, hlexeme⟩ := exists_lexeme h
  rw [htext]
  cases hlexeme with
  | word hword => exact hword
  | dollar => exact absurd (kind_dollarToken _) (by rw [hkind]; decide)
  | whitespace | lineComment | blockComment | string | identifier | number | operator =>
    simp at hkind

theorem clauses_ne_nil : ∀ words ∈ clauses, words ≠ [] := by decide

theorem matchClause_eq_some (h : matchClause tokens = some clause) :
    clause ≠ [] ∧ clause <+: tokens ∧ ∀ word ∈ clause, word.kind = .keyword := by
  unfold matchClause at h
  split_ifs at h
  obtain ⟨words, hwords, rfl⟩ := Option.map_eq_some_iff.mp h
  have hspelled := List.find?_some hwords
  rw [Bool.and_eq_true, decide_eq_true_eq, List.all_eq_true] at hspelled
  have hne := clauses_ne_nil words (List.mem_of_find?_eq_some hwords)
  have hpos := List.length_pos_iff.mpr hne
  refine ⟨fun hnil => ?_, List.take_prefix _ _, fun word hword => ?_⟩
  · have hlength := congrArg List.length hnil
    rw [List.length_take, List.length_nil] at hlength
    omega
  · obtain ⟨place, hplace, rfl⟩ := List.getElem_of_mem hword
    rw [List.length_take] at hplace
    have hpair : (tokens[place], words[place]) ∈ tokens.zip words := by
      rw [List.mem_iff_getElem]
      exact ⟨place, by rw [List.length_zip]; omega, by simp⟩
    have hspells := hspelled.2 _ hpair
    simp only [SqlToken.spells, Bool.and_eq_true, decide_eq_true_eq] at hspells
    simpa using hspells.1

theorem matchClause_eq_none (h : token.kind ≠ .keyword) : matchClause (token :: tokens) = none := by
  simp [matchClause, h]

theorem keyword_text_ne (h : sqlLexer.Reads token rest) (hkind : token.kind = .keyword)
    {text : List CodeUnit} (htext : text.head?.any wordStart = false) : token.text ≠ text := by
  rintro rfl
  rw [keyword_start h hkind] at htext
  exact Bool.false_ne_true htext.symm

theorem separator_words {previous : SqlToken} {rest' : List CodeUnit}
    (hprevious : sqlLexer.Reads previous rest) (hkind : previous.kind = .keyword)
    (h : sqlLexer.Reads token rest') (hkind' : token.kind = .keyword) :
    separator (some previous) token = units " " := by
  have hstart : ∀ text ∈ [",", ";", ")", "."].map units, text.head?.any wordStart = false := by
    decide
  rw [separator, if_neg (keyword_text_ne hprevious hkind (by decide)), if_neg, if_neg, if_neg,
    if_neg]
  · exact fun heq => keyword_text_ne h hkind' (by decide) heq.1
  · rintro (heq | heq)
    · exact keyword_text_ne hprevious hkind (by decide) heq
    · exact keyword_text_ne h hkind' (by decide) heq
  · rintro (heq | heq)
    · exact keyword_text_ne hprevious hkind (by decide) heq
    · exact keyword_text_ne hprevious hkind (by decide) heq
  · exact fun hmem => keyword_text_ne h hkind' (hstart _ hmem) rfl

end Words

open Format

def Breaks (blocks : List Bool) (previous token : SqlToken) (rest : List SqlToken) : Prop :=
  EndsLine blocks previous ∨ (matchClause (token :: rest)).isSome ∨ ClosesBlock blocks token

structure Between (blocks : List Bool) (previous : SqlToken) (gap : List CodeUnit)
    (token : SqlToken) (rest : List SqlToken) : Prop where
  shape : (∃ indent, gap = newline indent) ∨ gap = separator (some previous) token
  breaks : previous.kind ≠ .keyword →
    ((∃ indent, gap = newline indent) ↔ Breaks blocks previous token rest)

def Laid (blocks : List Bool) (previous : SqlToken) : List (List CodeUnit × SqlToken) → Prop
  | [] => True
  | (gap, token) :: layout =>
    Between blocks previous gap token (layout.map Prod.snd) ∧
      Laid (blocksAfter blocks token (layout.map Prod.snd).head?) token layout

section Layout

variable {state : Format} {previous token : SqlToken} {tokens clause rest : List SqlToken}
  {blocks : List Bool} {layout : List (List CodeUnit × SqlToken)}

def Lexed (token : SqlToken) : Prop := ∃ rest, sqlLexer.Reads token rest

theorem Lexed.text_ne_nil (h : Lexed token) : token.text ≠ [] := by
  obtain ⟨rest, h⟩ := h
  exact h.text_ne_nil

theorem separator_ne_newline (previous : Option SqlToken) (token : SqlToken) (indent : ℕ) :
    separator previous token ≠ newline indent := by
  have hblank : units " " ≠ newline indent := by
    rw [newline]
    intro h
    exact absurd (List.cons_eq_cons.mp h).1 (by decide)
  unfold separator
  split
  · simp [newline]
  · split_ifs <;> first | exact hblank | simp [newline]

theorem blocksAfter_keyword (h : token.kind = .keyword) (next : Option SqlToken) :
    blocksAfter blocks token next = blocks := by
  rw [blocksAfter, if_neg, if_neg]
  · rintro rfl
    simp at h
  · rintro rfl
    simp at h

theorem laid_words : ∀ {words : List SqlToken} {previous : SqlToken}, Lexed previous →
    previous.kind = .keyword → (∀ word ∈ words, Lexed word ∧ word.kind = .keyword) →
    Laid blocks ((previous :: words).getLast (List.cons_ne_nil _ _)) layout →
      Laid blocks previous (words.map (fun word => (units " ", word)) ++ layout)
  | [], _, _, _, _, h => h
  | word :: words, previous, hprevious, hkind, hwords, h => by
    obtain ⟨hword, hwordKind⟩ := hwords word (by simp)
    refine ⟨⟨.inr ?_, fun hne => absurd hkind hne⟩, ?_⟩
    · obtain ⟨_, hreads⟩ := hprevious
      obtain ⟨_, hreads'⟩ := hword
      exact (separator_words hreads hkind hreads' hwordKind).symm
    · rw [blocksAfter_keyword hwordKind]
      refine laid_words hword hwordKind (fun other hother => hwords other (by simp [hother])) ?_
      rwa [List.getLast_cons (List.cons_ne_nil _ _)] at h

theorem intercalate_cons_eq (separator first : List CodeUnit) (lines : List (List CodeUnit)) :
    separator.intercalate (first :: lines) = first ++ lines.flatMap (separator ++ ·) := by
  induction lines generalizing first with
  | nil => simp [List.intercalate]
  | cons second lines ih => rw [List.intercalate_cons_cons, ih]; simp

theorem Format.Settled.flush_lines_ne_nil (h : Settled state previous) :
    state.flush.lines ≠ [] := by
  by_cases hcurrent : state.current = []
  · rw [lines_flush_of_nil hcurrent]
    exact h.lines hcurrent
  · exact lines_flush_ne_nil hcurrent

theorem between_add (h : Settled state previous)
    (hclause : state.current ≠ [] → matchClause (token :: rest) = none) :
    Between state.blocks previous (state.gap (some previous) token) token rest := by
  by_cases hcloses : ClosesBlock state.blocks token
  · have hgap : state.gap (some previous) token = newline (2 * (state.indent - 1)) := by
      rw [Format.gap, if_pos hcloses, startGap, if_neg h.flush_lines_ne_nil]
    exact ⟨.inl ⟨_, hgap⟩, fun _ => iff_of_true ⟨_, hgap⟩ (.inr (.inr hcloses))⟩
  rw [gap_of_not_closes hcloses]
  by_cases hcurrent : state.current = []
  · rw [if_pos hcurrent, startGap, if_neg (h.lines hcurrent)]
    exact ⟨.inl ⟨_, rfl⟩, fun _ => iff_of_true ⟨_, rfl⟩ (.inl (h.current.mp hcurrent))⟩
  · rw [if_neg hcurrent]
    refine ⟨.inr rfl, fun _ => iff_of_false ?_ ?_⟩
    · exact fun ⟨indent, heq⟩ => separator_ne_newline _ _ indent heq
    · rintro (hends | hsome | hcloses')
      · exact hcurrent (h.current.mpr hends)
      · rw [hclause hcurrent] at hsome
        exact Bool.false_ne_true hsome
      · exact hcloses hcloses'

theorem line_addClause (words : List SqlToken) :
    (state.addClause token (token :: words)).current
      = token.text ++ words.flatMap fun word => units " " ++ word.text := by
  have hline : [unit ' '].intercalate ((token :: words).map SqlToken.text)
      = token.text ++ words.flatMap fun word => units " " ++ word.text := by
    rw [List.map_cons, intercalate_cons_eq, List.flatMap_map]
    rfl
  exact hline

theorem current_addClause_ne_nil (htoken : token.text ≠ []) (words : List SqlToken) :
    (state.addClause token (token :: words)).current ≠ [] := by
  rw [line_addClause]
  simp [htoken]

theorem text_addClause (hcurrent : state.current ≠ []) (htoken : token.text ≠ [])
    (words : List SqlToken) :
    ∃ indent, (state.addClause token (token :: words)).text
      = state.text ++ newline indent ++ token.text
          ++ words.flatMap fun word => units " " ++ word.text := by
  have hstart : (state.addClause token (token :: words)).text = state.text
      ++ startGap state.flush.lines (state.addClause token (token :: words)).currentIndent
      ++ (state.addClause token (token :: words)).current :=
    text_start rfl (current_addClause_ne_nil htoken words)
  rw [startGap, if_neg (lines_flush_ne_nil hcurrent), line_addClause] at hstart
  exact ⟨_, by rw [hstart, ← List.append_assoc]⟩

theorem settled_addClause (htoken : token.text ≠ []) (words : List SqlToken)
    (hkind : previous.kind = .keyword) :
    Settled (state.addClause token (token :: words)) previous := by
  have hcurrent : (state.addClause token (token :: words)).current ≠ [] :=
    current_addClause_ne_nil htoken words
  refine ⟨iff_of_false hcurrent ?_, fun h => absurd h hcurrent⟩
  rintro (⟨rfl, -⟩ | ⟨rfl, -⟩) <;> simp at hkind

def Lays (state : Format) (previous : SqlToken) (tokens : List SqlToken) : Prop :=
  ∃ layout, layout.map Prod.snd = tokens ∧
    (formatLoop state (some previous) tokens).text
      = state.text ++ Blanks.render sqlLexer layout ∧
    Laid state.blocks previous layout

theorem lays_nil : Lays state previous [] :=
  ⟨[], rfl, by rw [formatLoop]; simp, trivial⟩

theorem lays_token (hstate : Settled state previous) (htoken : token.text ≠ [])
    (hclause : (if state.current = [] then none else matchClause (token :: rest)) = none)
    (h : Lays (state.add (some previous) token rest.head?) token rest) :
    Lays state previous (token :: rest) := by
  obtain ⟨layout, rfl, htext, hlaid⟩ := h
  refine ⟨(state.gap (some previous) token, token) :: layout, rfl, ?_, ?_, ?_⟩
  · rw [formatLoop, hclause]
    dsimp only
    rw [htext, text_add htoken, Blanks.render_cons]
    simp [sqlLexer]
  · refine between_add hstate fun hcurrent => ?_
    rwa [if_neg hcurrent] at hclause
  · rwa [blocks_add] at hlaid

theorem lays_clause {words : List SqlToken} (hcurrent : state.current ≠ [])
    (hclause : matchClause (token :: (words ++ rest)) = some (token :: words))
    (hwords : ∀ word ∈ token :: words, Lexed word ∧ word.kind = .keyword)
    (h : Lays (state.addClause token (token :: words))
      ((token :: words).getLast (List.cons_ne_nil _ _)) rest) :
    Lays state previous (token :: (words ++ rest)) := by
  obtain ⟨hlexed, hkind⟩ := hwords token (by simp)
  obtain ⟨layout, rfl, htext, hlaid⟩ := h
  obtain ⟨indent, hclauseText⟩ := text_addClause hcurrent hlexed.text_ne_nil words
  have hmap : (words.map (fun word => (units " ", word)) ++ layout).map Prod.snd
      = words ++ layout.map Prod.snd := by simp [Function.comp_def]
  refine ⟨(newline indent, token) :: (words.map (fun word => (units " ", word)) ++ layout),
    by rw [List.map_cons, hmap], ?_,
    ⟨.inl ⟨indent, rfl⟩, fun _ => iff_of_true ⟨indent, rfl⟩ ?_⟩, ?_⟩
  · have hdrop : (words ++ layout.map Prod.snd).drop ((token :: words).length - 1)
        = layout.map Prod.snd := by simp
    rw [formatLoop, if_neg hcurrent, hclause]
    dsimp only
    rw [hdrop, List.getLast?_eq_some_getLast (List.cons_ne_nil _ _), htext, hclauseText]
    simp [Blanks.render, sqlLexer, List.flatMap_map]
  · refine .inr (.inl ?_)
    rw [hmap, hclause]
    rfl
  · rw [blocksAfter_keyword hkind]
    exact laid_words hlexed hkind (fun word hword => hwords word (by simp [hword])) hlaid

theorem lays_of_settled (tokens : List SqlToken) : ∀ (state : Format) (previous : SqlToken),
    Settled state previous → (∀ token ∈ tokens, Lexed token) → Lays state previous tokens := by
  induction hlength : tokens.length using Nat.strong_induction_on generalizing tokens with
  | _ length ih =>
    intro state previous hstate htokens
    cases tokens with
    | nil => exact lays_nil
    | cons token rest =>
      have htoken : token.text ≠ [] := (htokens token (by simp)).text_ne_nil
      cases hclause : if state.current = [] then none else matchClause (token :: rest) with
      | none =>
        exact lays_token hstate htoken hclause (ih rest.length (by simp [← hlength]) rest rfl _ _
          (settled_add htoken) fun other hother => htokens other (by simp [hother]))
      | some clause =>
        have hcurrent : state.current ≠ [] := by
          intro hcurrent
          simp [hcurrent] at hclause
        rw [if_neg hcurrent] at hclause
        obtain ⟨hne, ⟨tail, htail⟩, hkinds⟩ := matchClause_eq_some hclause
        obtain ⟨first, words, rfl⟩ := List.exists_cons_of_ne_nil hne
        rw [List.cons_append, List.cons_eq_cons] at htail
        obtain ⟨rfl, rfl⟩ := htail
        have hwords : ∀ word ∈ first :: words, Lexed word ∧ word.kind = .keyword :=
          fun word hword => ⟨htokens word (List.mem_append_left tail hword), hkinds word hword⟩
        have hlast := hwords _ (List.getLast_mem (List.cons_ne_nil first words))
        have hshorter : tail.length < length := by
          rw [← hlength, List.length_cons, List.length_append]
          omega
        exact lays_clause hcurrent hclause hwords (ih tail.length hshorter tail rfl _ _
          (settled_addClause htoken words hlast.2)
          fun other hother => htokens other (by simp [hother]))

end Layout

/-- The token runs into the one behind it: a line comment on whose line more follows, a full stop or
a whole number before a full stop or a number, and a colon before a cast. -/
def Collides (blocks : List Bool) (token next : SqlToken) (rest : List SqlToken) : Prop :=
  (units "--" <+: token.text ∧ matchClause (next :: rest) = none ∧ ¬ ClosesBlock blocks next) ∨
    (token.kind = .number ∧ (∀ c ∈ token.text, digit c) ∧ next.text = units ".") ∨
    (token.text = units "." ∧
      (next.kind = .number ∨ next.text = units "." ∨ next.text = units "..")) ∨
    (token.text = units ":" ∧ next.text = units "::")

section Collides

variable {token next : SqlToken} {rest : List SqlToken} {blocks : List Bool}
  {behind gap text : List CodeUnit}

theorem space_start (h : Lexed token) (hkind : token.kind ≠ .whitespace) :
    ∃ c more, token.text = c :: more ∧ space c = false := by
  obtain ⟨rest, h⟩ := h
  obtain ⟨char, more, htext, hlexeme⟩ := exists_lexeme h
  refine ⟨char, more, htext, Bool.eq_false_iff.mpr fun hspace => hkind ?_⟩
  rw [← hlexeme.nextToken_eq]
  exact (kind_nextToken _ _).mpr hspace

theorem kind_of_line (h : sqlLexer.Reads token behind) (hline : units "--" <+: token.text) :
    token.kind = .comment := by
  obtain ⟨char, more, htext, hlexeme⟩ := exists_lexeme h
  rw [htext] at hline
  have hle : units "--" <+: char :: (more ++ behind) :=
    hline.trans (List.prefix_append (char :: more) behind)
  rw [← hlexeme.nextToken_eq, (Lexeme.lineComment hle).nextToken_eq]

theorem dot_start_iff (h : Lexed token) {c : CodeUnit} {more : List CodeUnit}
    (htext : token.text = c :: more) :
    (token.kind = .number ∨ token.text = units "." ∨ token.text = units "..")
      ↔ digit c = true ∨ c = unit '.' := by
  obtain ⟨rest, h⟩ := h
  have hnext := (reads_iff_nextToken htext).mp h
  constructor
  · rintro (hkind | hdot | hrange)
    · have hlexeme := nextToken_eq_iff.mp hnext
      cases hlexeme with
      | number hnumber => exact hnumber.imp_right And.left
      | dollar => exact absurd (kind_dollarToken _) (by rw [hkind]; decide)
      | word =>
        rw [word] at hkind
        dsimp only at hkind
        split_ifs at hkind
      | whitespace | lineComment | blockComment | string | identifier | operator =>
        simp at hkind
    · exact .inr (List.cons_eq_cons.mp (htext.symm.trans hdot)).1
    · exact .inr (List.cons_eq_cons.mp (htext.symm.trans hrange)).1
  · rintro (hdigit | rfl)
    · left
      rw [← hnext, (Lexeme.number (.inl hdigit)).nextToken_eq]
    · by_cases hhead : ∀ d ∈ (more ++ rest).head?, digit d = false ∧ d ≠ unit '.'
      · exact .inr (.inl (by rw [← hnext, nextToken_dot hhead]))
      · push Not at hhead
        obtain ⟨d, hd, hcase⟩ := hhead
        by_cases hdigit : digit d = true
        · left
          rw [← hnext, (Lexeme.number (.inr ⟨rfl, by rw [hd]; simpa using hdigit⟩)).nextToken_eq]
        · obtain ⟨after, hafter⟩ := List.head?_eq_some_iff.mp hd
          rw [hcase (Bool.eq_false_iff.mpr hdigit)] at hafter
          exact .inr (.inr (by rw [← hnext, hafter, nextToken_range]))

theorem separator_cases (htoken : token.text ≠ []) :
    separator (some token) next = units " " ∨ separator (some token) next = [] ∧
      (token.text = units "(" ∨ token.text = units "::" ∨ token.text = units "." ∨
        next.text ∈ [",", ";", ")", ".", "::", "("].map units) := by
  have hmore : ∀ text ∈ [",", ";", ")", "."].map units,
      text ∈ [",", ";", ")", ".", "::", "("].map units := by decide
  rw [separator, if_neg htoken]
  split_ifs with hmark hbefore hcast hcall
  · exact .inr ⟨rfl, .inr (.inr (.inr (hmore _ hmark)))⟩
  · rcases hbefore with hparen | hdot
    · exact .inr ⟨rfl, .inl hparen⟩
    · exact .inr ⟨rfl, .inr (.inr (.inl hdot))⟩
  · rcases hcast with hcast | hcast
    · exact .inr ⟨rfl, .inr (.inl hcast)⟩
    · exact .inr ⟨rfl, .inr (.inr (.inr (by rw [hcast]; decide)))⟩
  · exact .inr ⟨rfl, .inr (.inr (.inr (by rw [hcall.1]; decide)))⟩
  · exact .inl rfl

theorem kind_ne_keyword (h : Lexed token) {text : List CodeUnit} (htext : token.text = text)
    (hstart : text.head?.any wordStart = false) : token.kind ≠ .keyword := by
  obtain ⟨rest, h⟩ := h
  exact fun hkind => keyword_text_ne h hkind hstart htext

theorem gap_eq_separator (hgap : Between blocks token gap next rest)
    (hkind : token.kind ≠ .keyword) (hnext : next.kind ≠ .keyword)
    (hcomma : token.text ≠ units ",") (hparen : token.text ≠ units "(")
    (hclose : next.text ≠ units ")") : gap = separator (some token) next := by
  refine hgap.shape.resolve_left fun hnewline => ?_
  rcases (hgap.breaks hkind).mp hnewline with (⟨rfl, -⟩ | ⟨rfl, -⟩) | hsome | ⟨rfl, -⟩
  · exact hcomma rfl
  · exact hparen rfl
  · rw [matchClause_eq_none hnext] at hsome
    exact Bool.false_ne_true hsome
  · exact hclose rfl

theorem gap_of_collides (hline : ¬ units "--" <+: token.text) (htoken : Lexed token)
    (hnext : Lexed next) (hgap : Between blocks token gap next rest)
    (h : Collides blocks token next rest) : gap = [] := by
  have hne := htoken.text_ne_nil
  rcases h with h | ⟨hkind, hall, hdot⟩ | ⟨hdot, hnumber⟩ | ⟨hcolon, hcast⟩
  · exact absurd h.1 hline
  · have hdigits : ∀ text : List CodeUnit, text.all digit = false → token.text ≠ text := by
      rintro _ htext rfl
      rw [Bool.eq_false_iff, ne_eq, List.all_eq_true] at htext
      exact htext hall
    rw [gap_eq_separator hgap (by simp [hkind]) (kind_ne_keyword hnext hdot (by decide))
      (hdigits _ (by decide)) (hdigits _ (by decide)) (by rw [hdot]; decide), separator, if_neg hne,
      if_pos (by rw [hdot]; decide)]
  · have hkind' : next.kind ≠ .keyword := by
      rcases hnumber with hnumber | hnumber | hnumber
      · simp [hnumber]
      · exact kind_ne_keyword hnext hnumber (by decide)
      · exact kind_ne_keyword hnext hnumber (by decide)
    have hclose : next.text ≠ units ")" := by
      obtain ⟨c, more, htext⟩ := List.exists_cons_of_ne_nil hnext.text_ne_nil
      intro heq
      have hc := (List.cons_eq_cons.mp (htext.symm.trans heq)).1
      rcases (dot_start_iff hnext htext).mp hnumber with hdigit | rfl
      · exact absurd hdigit (by rw [hc]; decide)
      · exact absurd hc (by decide)
    rw [gap_eq_separator hgap (kind_ne_keyword htoken hdot (by decide)) hkind'
      (by rw [hdot]; decide) (by rw [hdot]; decide) hclose, separator, if_neg hne]
    split_ifs with hmark hbefore
    · rfl
    · rfl
    · exact absurd (.inr hdot) hbefore
    · exact absurd (.inr hdot) hbefore
    · exact absurd (.inr hdot) hbefore
  · rw [gap_eq_separator hgap (kind_ne_keyword htoken hcolon (by decide))
      (kind_ne_keyword hnext hcast (by decide)) (by rw [hcolon]; decide) (by rw [hcolon]; decide)
      (by rw [hcast]; decide), separator, if_neg hne, if_neg (by rw [hcast]; decide),
      if_neg (by rw [hcolon]; decide), if_pos (.inr hcast)]

theorem line_collides_iff (hline : units "--" <+: token.text) (hkind : token.kind = .comment) :
    Collides blocks token next rest ↔ ¬ Breaks blocks token next rest := by
  have hshort : ∀ text : List CodeUnit, ¬ units "--" <+: text → token.text ≠ text := by
    rintro _ htext rfl
    exact htext hline
  constructor
  · rintro (⟨-, hclause, hclose⟩ | ⟨hnumber, -⟩ | ⟨hdot, -⟩ | ⟨hcolon, -⟩)
    · rintro ((⟨rfl, -⟩ | ⟨rfl, -⟩) | hsome | hcloses)
      · exact hshort _ (by decide) rfl
      · exact hshort _ (by decide) rfl
      · rw [hclause] at hsome
        exact Bool.false_ne_true hsome
      · exact hclose hcloses
    · simp [hkind] at hnumber
    · exact absurd hdot (hshort _ (by decide))
    · exact absurd hcolon (hshort _ (by decide))
  · intro hbreaks
    refine .inl ⟨hline, ?_, fun hcloses => hbreaks (.inr (.inr hcloses))⟩
    rw [← Option.not_isSome_iff_eq_none]
    exact fun hsome => hbreaks (.inr (.inl hsome))

theorem reads_line_gap_iff (h : sqlLexer.Reads token behind) (hline : units "--" <+: token.text)
    (hnext : Lexed next) (hnextKind : next.kind ≠ .whitespace)
    (hgap : Between blocks token gap next rest) :
    sqlLexer.Reads token (gap ++ next.text ++ text) ↔ ¬ Collides blocks token next rest := by
  have hkind := kind_of_line h hline
  rw [line_collides_iff hline hkind, not_not, ← hgap.breaks (by simp [hkind]),
    reads_line_iff hline h]
  constructor
  · intro hhead
    refine hgap.shape.resolve_right fun hseparator => ?_
    -- the first unit behind the comment is a blank or begins the next token
    obtain ⟨c, more, htext, hspace⟩ := space_start hnext hnextKind
    have hnewline : ∀ d, d = unit '\n' → space d = true ∧ d ≠ unit ' ' := by
      rintro _ rfl
      decide
    rcases @separator_cases token next h.text_ne_nil with hblank | ⟨hnil, -⟩
    · exact (hnewline _ (hhead (unit ' ') (by rw [hseparator, hblank]; rfl))).2 rfl
    · have hc := hhead c (by rw [hseparator, hnil, htext]; rfl)
      rw [(hnewline c hc).1] at hspace
      exact Bool.false_ne_true hspace.symm
  · rintro ⟨indent, rfl⟩ c hc
    exact (Option.some.inj hc).symm

theorem not_collides_of_text (htext : token.text = text) (hline : ¬ units "--" <+: text)
    (hdigits : text.all digit = false) (hdot : text ≠ units ".") (hcolon : text ≠ units ":") :
    ¬ Collides blocks token next rest := by
  subst htext
  rintro (⟨h, -⟩ | ⟨-, hall, -⟩ | ⟨h, -⟩ | ⟨h, -⟩)
  · exact hline h
  · rw [Bool.eq_false_iff, ne_eq, List.all_eq_true] at hdigits
    exact hdigits hall
  · exact hdot h
  · exact hcolon h

theorem dot_collides_iff (htext : token.text = units ".") :
    Collides blocks token next rest
      ↔ next.kind = .number ∨ next.text = units "." ∨ next.text = units ".." := by
  constructor
  · rintro (⟨h, -⟩ | ⟨-, hall, -⟩ | ⟨-, h⟩ | ⟨h, -⟩)
    · exact absurd (htext ▸ h) (by decide)
    · exact absurd (hall (unit '.') (by rw [htext]; decide)) (by decide)
    · exact h
    · exact absurd (htext.symm.trans h) (by decide)
  · exact fun h => .inr (.inr (.inl ⟨htext, h⟩))

theorem collides_iff_joins {c : CodeUnit} {more : List CodeUnit}
    (hline : ¬ units "--" <+: token.text) (hdot : token.text ≠ units ".")
    (hmem : next.text ∈ [",", ";", ")", ".", "::", "("].map units) (htext : next.text = c :: more) :
    Collides blocks token next rest ↔ Joins token c := by
  have hfirst : ∀ mark ∈ [",", ";", ")", ".", "::", "("].map units,
      (mark.head? = some (unit '.') → mark = units ".") ∧
        (mark.head? = some (unit ':') → mark = units "::") := by decide
  obtain ⟨hstop, hcolon⟩ := hfirst _ hmem
  rw [htext, List.head?_cons, Option.some.injEq] at hstop hcolon
  have hhead : ∀ {d : CodeUnit} {tail : List CodeUnit}, next.text = d :: tail → c = d :=
    fun heq => (List.cons_eq_cons.mp (htext.symm.trans heq)).1
  constructor
  · rintro (⟨h, -⟩ | ⟨hkind, hall, hnext⟩ | ⟨h, -⟩ | ⟨h, hnext⟩)
    · exact absurd h hline
    · exact .inl ⟨hhead hnext, .inr ⟨hkind, hall⟩⟩
    · exact absurd h hdot
    · exact .inr ⟨hhead hnext, h⟩
  · rintro (⟨hc, h | ⟨hkind, hall⟩⟩ | ⟨hc, h⟩)
    · exact absurd h hdot
    · exact .inr (.inl ⟨hkind, hall, htext.trans (hstop hc)⟩)
    · exact .inr (.inr (.inr ⟨h, htext.trans (hcolon hc)⟩))

theorem reads_before_iff_not_joins (hkind : token.kind ≠ .whitespace)
    (h : sqlLexer.Reads token behind) (hbehind : behind ≠ [])
    (hline : ¬ units "--" <+: token.text) (hdot : token.text ≠ units ".") {c : CodeUnit}
    (hstop : c ∈ stops) : sqlLexer.Reads token (c :: text) ↔ ¬ Joins token c := by
  constructor
  · rintro hreads (⟨rfl, hjoin | ⟨-, hall⟩⟩ | ⟨rfl, hcolon⟩)
    · exact hdot hjoin
    · exact not_reads_whole hall hreads
    · exact not_reads_colon hcolon hreads
  · intro hjoin
    refine reads_before_stop h hkind hline (fun hnil => absurd hnil hbehind) ?_ ?_
    · rintro d hd
      obtain rfl := Option.some.inj hd
      exact hstop
    · rintro d hd
      obtain rfl := Option.some.inj hd
      exact hjoin

theorem Between.head_mem {c : CodeUnit} {more : List CodeUnit} (htoken : token.text ≠ [])
    (hgap : Between blocks token (c :: more) next rest) : c = unit ' ' ∨ c = unit '\n' := by
  rcases hgap.shape with ⟨indent, hnewline⟩ | hseparator
  · exact .inr (List.cons_eq_cons.mp hnewline).1
  · rcases @separator_cases token next htoken with hblank | ⟨hnil, -⟩
    · exact .inl (List.cons_eq_cons.mp (hseparator.trans hblank)).1
    · exact absurd (hseparator.trans hnil) (List.cons_ne_nil _ _)

theorem reads_next_iff (hkind : token.kind ≠ .whitespace) (h : sqlLexer.Reads token behind)
    (hbehind : behind ≠ []) (hline : ¬ units "--" <+: token.text) (hnext : Lexed next)
    (hseparator : separator (some token) next = []) :
    sqlLexer.Reads token (next.text ++ text) ↔ ¬ Collides blocks token next rest := by
  obtain ⟨c, more, htext⟩ := List.exists_cons_of_ne_nil hnext.text_ne_nil
  by_cases hdot : token.text = units "."
  · rw [dot_collides_iff hdot, dot_start_iff hnext htext, reads_dot_iff hdot h, htext]
    simp
  rcases @separator_cases token next h.text_ne_nil with
    hblank | ⟨-, hparen | hcast | hdot' | hmem⟩
  · rw [hseparator] at hblank
    exact absurd hblank (by decide)
  · exact iff_of_true (reads_paren hparen h _)
      (not_collides_of_text hparen (by decide) (by decide) (by decide) (by decide))
  · exact iff_of_true (reads_cast hcast h _)
      (not_collides_of_text hcast (by decide) (by decide) (by decide) (by decide))
  · exact absurd hdot' hdot
  · have hstops : ∀ mark ∈ [",", ";", ")", ".", "::", "("].map units,
        mark.head?.any stops.contains = true := by decide
    have hstop := hstops _ hmem
    rw [htext] at hstop
    rw [collides_iff_joins hline hdot hmem htext, htext, List.cons_append]
    exact reads_before_iff_not_joins hkind h hbehind hline hdot (by simpa using hstop)

theorem reads_gap_iff (hkind : token.kind ≠ .whitespace) (h : sqlLexer.Reads token behind)
    (hbehind : behind ≠ []) (hnext : Lexed next) (hnextKind : next.kind ≠ .whitespace)
    (hgap : Between blocks token gap next rest) :
    sqlLexer.Reads token (gap ++ next.text ++ text) ↔ ¬ Collides blocks token next rest := by
  by_cases hline : units "--" <+: token.text
  · exact reads_line_gap_iff h hline hnext hnextKind hgap
  cases gap with
  | nil =>
    refine reads_next_iff hkind h hbehind hline hnext ?_
    exact (hgap.shape.resolve_left (by simp [newline])).symm
  | cons c more =>
    -- a blank or a line break stops every token, and what collides has no gap
    refine iff_of_true (reads_before_stop h hkind hline (fun hnil => absurd hnil hbehind) ?_ ?_)
      fun hcollides =>
        absurd (gap_of_collides hline ⟨behind, h⟩ hnext hgap hcollides) (List.cons_ne_nil _ _)
    · rintro d hd
      obtain rfl := Option.some.inj hd
      rcases hgap.head_mem h.text_ne_nil with rfl | rfl <;> decide
    · rintro d hd hjoin
      obtain rfl := Option.some.inj hd
      rcases hgap.head_mem h.text_ne_nil with rfl | rfl
      · exact hjoin.elim (fun hc => absurd hc.1 (by decide)) fun hc => absurd hc.1 (by decide)
      · exact hjoin.elim (fun hc => absurd hc.1 (by decide)) fun hc => absurd hc.1 (by decide)

end Collides

def Apart (blocks : List Bool) (previous : SqlToken) : List SqlToken → Prop
  | [] => True
  | token :: rest =>
    ¬ Collides blocks previous token rest ∧ Apart (blocksAfter blocks token rest.head?) token rest

def KeptApart : List SqlToken → Prop
  | [] => True
  | token :: rest => Apart (blocksAfter [] token rest.head?) token rest

def significantTokens (sql : List CodeUnit) : List SqlToken :=
  (sqlTokens sql).filter fun token => token.kind != .whitespace

section Significant

variable {sql : List CodeUnit} {token : SqlToken} {before rest : List SqlToken}
  {blocks : List Bool} {layout : List (List CodeUnit × SqlToken)}

theorem significantTokens_eq (sql : List CodeUnit) :
    significantTokens sql = sqlBlanks.significant sql := rfl

/-- Tokens that are read one after the other, with a text between them that ends each. -/
def Sourced : List SqlToken → Prop
  | [] => True
  | token :: rest =>
    (token.kind ≠ .whitespace ∧
      ∃ behind, sqlLexer.Reads token behind ∧ (rest ≠ [] → behind ≠ [])) ∧ Sourced rest

theorem sourced_of_significant : ∀ {tokens : List SqlToken} {before : List SqlToken},
    significantTokens sql = before ++ tokens → Sourced tokens
  | [], _, _ => trivial
  | token :: tokens, before, h => by
    have hrest : significantTokens sql = (before ++ [token]) ++ tokens := by simpa using h
    rw [significantTokens_eq] at h
    obtain ⟨hblank, hreads⟩ := Blanks.exists_reads_of_significant_eq h
    refine ⟨⟨fun hkind => ?_, hreads⟩, sourced_of_significant hrest⟩
    simp [sqlBlanks, hkind] at hblank

theorem Sourced.of_mem : ∀ {tokens : List SqlToken}, Sourced tokens →
    ∀ token ∈ tokens, token.kind ≠ .whitespace ∧ Lexed token
  | _ :: _, h, token, hmem => by
    rcases List.mem_cons.mp hmem with rfl | hmem
    · obtain ⟨⟨hkind, behind, hreads, -⟩, -⟩ := h
      exact ⟨hkind, behind, hreads⟩
    · exact Sourced.of_mem h.2 token hmem

theorem Sourced.lexed {tokens : List SqlToken} (h : Sourced tokens) :
    ∀ token ∈ tokens, Lexed token :=
  fun token hmem => (h.of_mem token hmem).2

theorem reads_last {behind : List CodeUnit} (hkind : token.kind ≠ .whitespace)
    (h : sqlLexer.Reads token behind) : sqlLexer.Reads token [] := by
  by_cases hline : units "--" <+: token.text
  · exact (reads_line_iff hline h).mpr (by simp)
  · exact reads_before_stop h hkind hline (fun _ => rfl) (by simp) (by simp)

theorem separate_iff_apart : ∀ {layout : List (List CodeUnit × SqlToken)} {blocks : List Bool}
    {gap : List CodeUnit} {token : SqlToken}, Sourced (token :: layout.map Prod.snd) →
    Laid blocks token layout →
    (Blanks.Separate sqlLexer ((gap, token) :: layout)
      ↔ Apart blocks token (layout.map Prod.snd))
  | [], _, _, token, hsourced, _ => by
    obtain ⟨⟨hkind, behind, hreads, -⟩, -⟩ := hsourced
    exact iff_of_true ⟨reads_last hkind hreads, trivial⟩ trivial
  | (gap', next) :: layout, blocks, gap, token, hsourced, hlaid => by
    obtain ⟨⟨hkind, behind, hreads, hbehind⟩, hrest⟩ := hsourced
    obtain ⟨hbetween, hlaid⟩ := hlaid
    have hboundary : sqlLexer.Reads token (gap' ++ next.text ++ Blanks.render sqlLexer layout)
        ↔ ¬ Collides blocks token next (layout.map Prod.snd) :=
      reads_gap_iff hkind hreads (hbehind (by simp)) (hrest.lexed next (by simp)) hrest.1.1 hbetween
    exact and_congr hboundary (separate_iff_apart hrest hlaid)

theorem skipped_of_spaces {gap : List CodeUnit} (hall : ∀ c ∈ gap, space c = true) :
    sqlBlanks.Skipped gap := by
  cases gap with
  | nil => exact Blanks.skipped_nil
  | cons c more =>
    refine Blanks.skipped_of_reads fun a as ha => ⟨⟨.whitespace, c :: more⟩, rfl, rfl, ?_⟩
    rw [reads_iff_nextToken rfl, (Lexeme.whitespace (hall c (by simp))).nextToken_eq]
    refine congrArg (SqlToken.mk .whitespace) (takeWhile_append_eq_left_iff.mpr ⟨hall, ?_⟩)
    rintro d hd
    obtain rfl := Option.some.inj hd
    exact ha

theorem Between.spaces {gap : List CodeUnit} {previous next : SqlToken}
    (hprevious : previous.text ≠ []) (h : Between blocks previous gap next rest) :
    ∀ c ∈ gap, space c = true := by
  have hblank : ∀ c ∈ units " ", space c = true :=
    @of_decide_eq_true _ (List.decidableBAll _ _) (by decide)
  have hbreak : space (unit '\n') = true := by decide
  rcases h.shape with ⟨indent, rfl⟩ | rfl
  · intro c hc
    rcases List.mem_cons.mp hc with rfl | hc
    · exact hbreak
    · rw [List.eq_of_mem_replicate hc]
      exact hblank _ (by simp [units])
  · rcases @separator_cases previous next hprevious with heq | ⟨heq, -⟩
    · rw [heq]
      exact hblank
    · rw [heq]
      simp

theorem Laid.skipped : ∀ {layout : List (List CodeUnit × SqlToken)} {blocks : List Bool}
    {previous : SqlToken}, previous.text ≠ [] → (∀ token ∈ layout.map Prod.snd, Lexed token) →
    Laid blocks previous layout → ∀ entry ∈ layout, sqlBlanks.Skipped entry.1
  | [], _, _, _, _, _ => by simp
  | (gap, token) :: layout, blocks, previous, hprevious, hlexed, hlaid => by
    have htoken := (hlexed token (by simp)).text_ne_nil
    intro entry hentry
    rcases List.mem_cons.mp hentry with rfl | hentry
    · exact skipped_of_spaces (hlaid.1.spaces hprevious)
    · exact Laid.skipped htoken (fun other hother => hlexed other (by simp [hother])) hlaid.2 entry
        hentry

theorem exists_layout_formatSql (h : significantTokens sql = token :: rest) :
    ∃ layout, layout.map Prod.snd = rest ∧
      formatSql sql = Blanks.render sqlLexer (([], token) :: layout) ∧
      Laid (blocksAfter [] token rest.head?) token layout := by
  have hsourced : Sourced (token :: rest) :=
    sourced_of_significant (h.trans (List.nil_append _).symm)
  have htoken := (hsourced.lexed token (by simp)).text_ne_nil
  obtain ⟨layout, hmap, htext, hlaid⟩ := lays_of_settled rest
    (Format.add {} none token rest.head?) token (settled_add htoken)
    fun other hother => hsourced.lexed other (by simp [hother])
  rw [blocks_add] at hlaid
  refine ⟨layout, hmap, ?_, hlaid⟩
  have hfirst : (Format.add {} none token rest.head?).text = token.text := by
    rw [text_add htoken]
    simp [Format.text, Format.gap, startGap, Format.flush, List.intercalate, ClosesBlock]
  have hformat : formatSql sql = (formatLoop {} none (token :: rest)).text := by
    unfold formatSql
    dsimp only
    rw [← significantTokens, h, if_neg (List.cons_ne_nil _ _)]
    rfl
  rw [hformat, formatLoop, if_pos rfl]
  dsimp only
  rw [htext, hfirst]
  rfl

theorem spaces_of_whitespace {behind : List CodeUnit} (h : sqlLexer.Reads token behind)
    (hkind : token.kind = .whitespace) : ∀ c ∈ token.text, space c = true := by
  obtain ⟨char, after, -, rfl⟩ := h
  have hspace := (kind_nextToken char after).mp hkind
  change ∀ c ∈ (nextToken char after).text, space c = true
  rw [(Lexeme.whitespace hspace).nextToken_eq]
  exact fun c hc => List.mem_takeWhile_imp hc

theorem formatSql_of_nil (h : significantTokens sql = []) : formatSql sql = [] := by
  have hspaces : ∀ c ∈ sql, space c = true := by
    refine sqlLexer.tokens_induction (P := fun text tokens =>
      (tokens.filter fun token => token.kind != .whitespace) = [] → ∀ c ∈ text, space c = true)
      (by simp) (fun token rest hreads ih hfilter => ?_) sql h
    rw [List.filter_cons] at hfilter
    split_ifs at hfilter with hkind
    rw [bne_iff_ne, ne_eq, not_not] at hkind
    intro c hc
    rcases List.mem_append.mp hc with hc | hc
    · exact spaces_of_whitespace hreads hkind c hc
    · exact ih hfilter c hc
  have hdrop : sql.dropWhile space = [] := List.dropWhile_eq_nil_iff.mpr hspaces
  unfold formatSql
  dsimp only
  rw [← significantTokens, h, if_pos rfl, trim, hdrop]
  rfl

theorem significantTokens_nil : significantTokens [] = [] := by
  rw [significantTokens, sqlTokens, Lexer.tokens_nil]
  rfl

theorem formatSql_congr {sql' : List CodeUnit}
    (h : significantTokens sql = significantTokens sql') : formatSql sql = formatSql sql' := by
  by_cases hnil : significantTokens sql = []
  · rw [formatSql_of_nil hnil, formatSql_of_nil (h ▸ hnil)]
  · unfold formatSql
    dsimp only
    rw [← significantTokens, ← significantTokens, if_neg hnil, if_neg (h ▸ hnil), h]

theorem formatted_tokens_iff (sql : List CodeUnit) :
    significantTokens (formatSql sql) = significantTokens sql
      ↔ KeptApart (significantTokens sql) := by
  cases hcase : significantTokens sql with
  | nil =>
    rw [formatSql_of_nil hcase, significantTokens_nil]
    exact iff_of_true rfl trivial
  | cons token rest =>
    obtain ⟨layout, rfl, hformat, hlaid⟩ := exists_layout_formatSql hcase
    have hsourced : Sourced (token :: layout.map Prod.snd) :=
      sourced_of_significant (hcase.trans (List.nil_append _).symm)
    have hskipped : ∀ entry ∈ ([], token) :: layout, sqlBlanks.Skipped entry.1 ∧
        ∃ a as, entry.2.text = a :: as ∧ space a = false := by
      intro entry hentry
      obtain ⟨hkind, hlexed⟩ := hsourced.of_mem entry.2
        (List.mem_map_of_mem (f := Prod.snd) hentry)
      refine ⟨?_, space_start hlexed hkind⟩
      rcases List.mem_cons.mp hentry with rfl | hmem
      · exact Blanks.skipped_nil
      · exact hlaid.skipped (hsourced.lexed token (by simp)).text_ne_nil
          (fun other hother => hsourced.lexed other (by simp [hother])) entry hmem
    have hiff := Blanks.significant_render_iff hskipped
    rw [hformat, significantTokens_eq]
    exact hiff.trans (separate_iff_apart hsourced hlaid)

end Significant

/-- Formatting keeps the tokens, and changes nothing twice, exactly when no token runs into the
next. -/
theorem format_keeps_tokens_iff (sql : List CodeUnit) :
    (significantTokens (formatSql sql) = significantTokens sql ∧
      formatSql (formatSql sql) = formatSql sql)
      ↔ KeptApart (significantTokens sql) := by
  rw [← formatted_tokens_iff]
  exact and_iff_left_of_imp formatSql_congr

/-- A comma moves into the comment before it. -/
theorem format_loses_comma :
    ¬ (significantTokens (formatSql (units "SELECT a -- c\n, b"))
        = significantTokens (units "SELECT a -- c\n, b") ∧
      formatSql (formatSql (units "SELECT a -- c\n, b"))
        = formatSql (units "SELECT a -- c\n, b")) := by
  decide +kernel

end DbsMonitor.SqlText
