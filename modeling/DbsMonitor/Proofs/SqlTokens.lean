import DbsMonitor.SqlText

/-!
# The tokens of an SQL text

The first one or two units of a text decide how its first token is read (`Lexeme`).
-/

namespace DbsMonitor.SqlText

open Lexing

structure Plain (char : CodeUnit) : Prop where
  space : space char = false
  quote : char ≠ unit '\''
  double : char ≠ unit '"'
  dollar : char ≠ unit '$'
  digit : digit char = false
  word : wordStart char = false

inductive Lexeme (char : CodeUnit) (after : List CodeUnit) : SqlToken → Prop
  | whitespace : space char → Lexeme char after ⟨.whitespace, (char :: after).takeWhile space⟩
  | lineComment : units "--" <+: char :: after →
      Lexeme char after ⟨.comment, (char :: after).takeWhile fun c => c ≠ unit '\n'⟩
  | blockComment : units "/*" <+: char :: after →
      Lexeme char after ⟨.comment, blockComment (char :: after)⟩
  | string : char = unit '\'' → Lexeme char after ⟨.string, quoted char after (unit '\'')⟩
  | identifier : char = unit '"' → Lexeme char after ⟨.identifier, quoted char after (unit '"')⟩
  | dollar : char = unit '$' → Lexeme char after (dollarToken after)
  | number : (digit char ∨ (char = unit '.' ∧ after.head?.any digit)) →
      Lexeme char after ⟨.number, (numberPattern (char :: after)).getD [char]⟩
  | word : wordStart char → space char = false → Lexeme char after (word char after)
  | operator : Plain char → ¬ units "--" <+: char :: after → ¬ units "/*" <+: char :: after →
      ¬ (char = unit '.' ∧ after.head?.any digit) →
      Lexeme char after
        ⟨.operator,
          (operators.find? fun candidate => candidate.isPrefixOf (char :: after)).getD [char]⟩

section Lexeme

variable {char : CodeUnit} {after : List CodeUnit} {token : SqlToken}

theorem lexeme_nextToken (char : CodeUnit) (after : List CodeUnit) :
    Lexeme char after (nextToken char after) := by
  unfold nextToken
  split_ifs with hspace hline hblock hquote hdouble hdollar hnumber hword
  · exact .whitespace hspace
  · exact .lineComment hline
  · exact .blockComment hblock
  · exact .string hquote
  · exact .identifier hdouble
  · exact .dollar hdollar
  · exact .number hnumber
  · exact .word hword (Bool.eq_false_iff.mpr hspace)
  · rw [not_or] at hnumber
    refine .operator ⟨?_, hquote, hdouble, hdollar, ?_, ?_⟩ hline hblock hnumber.2
    · exact Bool.eq_false_iff.mpr hspace
    · exact Bool.eq_false_iff.mpr hnumber.1
    · exact Bool.eq_false_iff.mpr hword

theorem space_of_digit (h : digit char = true) : space char = false := by
  simp only [digit, within, Bool.and_eq_true, decide_eq_true_eq] at h
  have hrange : 48 ≤ char.toNat ∧ char.toNat ≤ 57 := h
  simp [space]
  omega

theorem ne_of_class {p : CodeUnit → Bool} {c d : CodeUnit} (hc : p c = true) (hd : p d = false) :
    c ≠ d := by
  rintro rfl
  simp [hc] at hd

theorem not_line_of_ne (h : char ≠ unit '-') : ¬ units "--" <+: char :: after :=
  fun hle => h (List.cons_prefix_cons.mp hle).1.symm

theorem not_block_of_ne (h : char ≠ unit '/') : ¬ units "/*" <+: char :: after :=
  fun hle => h (List.cons_prefix_cons.mp hle).1.symm

theorem digit_of_wordStart (h : wordStart char = true) : digit char = false := by
  cases hdigit : digit char with
  | false => rfl
  | true =>
    simp only [digit, within, Bool.and_eq_true, decide_eq_true_eq] at hdigit
    have hrange : 48 ≤ char.toNat ∧ char.toNat ≤ 57 := hdigit
    have hunder : (unit '_').toNat = 95 := by decide
    simp only [wordStart, within, Bool.or_eq_true, Bool.and_eq_true, decide_eq_true_eq] at h
    rcases h with ((⟨hlow, -⟩ | ⟨hlow, -⟩) | heq) | hhigh
    · have : 65 ≤ char.toNat := hlow
      omega
    · have : 97 ≤ char.toNat := hlow
      omega
    · rw [heq] at hrange
      omega
    · omega

theorem number_start (h : digit char ∨ (char = unit '.' ∧ after.head?.any digit)) :
    space char = false ∧ char ≠ unit '-' ∧ char ≠ unit '/' ∧ char ≠ unit '\'' ∧ char ≠ unit '"' ∧
      char ≠ unit '$' := by
  rcases h with hdigit | ⟨rfl, -⟩
  · exact ⟨space_of_digit hdigit, ne_of_class hdigit (by decide), ne_of_class hdigit (by decide),
      ne_of_class hdigit (by decide), ne_of_class hdigit (by decide),
      ne_of_class hdigit (by decide)⟩
  · decide

theorem Lexeme.nextToken_eq (h : Lexeme char after token) : nextToken char after = token := by
  unfold nextToken
  cases h with
  | whitespace hspace => rw [if_pos hspace]
  | lineComment hline =>
    have hchar : char = unit '-' := (List.cons_prefix_cons.mp hline).1.symm
    rw [if_neg (by subst hchar; decide), if_pos hline]
  | blockComment hblock =>
    have hchar : char = unit '/' := (List.cons_prefix_cons.mp hblock).1.symm
    rw [if_neg (by subst hchar; decide), if_neg (not_line_of_ne (by subst hchar; decide)),
      if_pos hblock]
  | string hchar =>
    subst hchar
    rw [if_neg (by decide), if_neg (not_line_of_ne (by decide)),
      if_neg (not_block_of_ne (by decide)), if_pos rfl]
  | identifier hchar =>
    subst hchar
    rw [if_neg (by decide), if_neg (not_line_of_ne (by decide)),
      if_neg (not_block_of_ne (by decide)), if_neg (by decide), if_pos rfl]
  | dollar hchar =>
    subst hchar
    rw [if_neg (by decide), if_neg (not_line_of_ne (by decide)),
      if_neg (not_block_of_ne (by decide)), if_neg (by decide), if_neg (by decide), if_pos rfl]
  | number hnumber =>
    obtain ⟨hspace, hminus, hslash, hquote, hdouble, hdollar⟩ := number_start hnumber
    rw [if_neg (Bool.eq_false_iff.mp hspace), if_neg (not_line_of_ne hminus),
      if_neg (not_block_of_ne hslash), if_neg hquote, if_neg hdouble, if_neg hdollar,
      if_pos hnumber]
  | word hword hspace =>
    have hne : ∀ c : CodeUnit, wordStart c = false → char ≠ c := fun c => ne_of_class hword
    rw [if_neg (Bool.eq_false_iff.mp hspace), if_neg (not_line_of_ne (hne _ (by decide))),
      if_neg (not_block_of_ne (hne _ (by decide))), if_neg (hne _ (by decide)),
      if_neg (hne _ (by decide)), if_neg (hne _ (by decide)), if_neg, if_pos hword]
    rintro (hdigit | ⟨hdot, -⟩)
    · simp [digit_of_wordStart hword] at hdigit
    · exact hne _ (by decide) hdot
  | operator hplain hline hblock hdot =>
    rw [if_neg (Bool.eq_false_iff.mp hplain.space), if_neg hline, if_neg hblock,
      if_neg hplain.quote, if_neg hplain.double, if_neg hplain.dollar, if_neg,
      if_neg (Bool.eq_false_iff.mp hplain.word)]
    rintro (hdigit | hdot')
    · simp [hplain.digit] at hdigit
    · exact hdot hdot'

theorem nextToken_eq_iff : nextToken char after = token ↔ Lexeme char after token :=
  ⟨fun h => h ▸ lexeme_nextToken char after, Lexeme.nextToken_eq⟩

end Lexeme

/-- `text` ends where something closes for the first time, or is all there is. `closes early late`
says that something closes behind `early` in `early ++ late`. -/
def EndsAtFirst (closes : List CodeUnit → List CodeUnit → Prop) (text rest : List CodeUnit) :
    Prop :=
  (closes text rest ∧
    ∀ early late, text = early ++ late → late ≠ [] → ¬ closes early (late ++ rest)) ∨
  (rest = [] ∧ ∀ early late, text = early ++ late → ¬ closes early late)

inductive Inside (quote : CodeUnit) : List CodeUnit → Prop
  | nil : Inside quote []
  | cons {c : CodeUnit} {body : List CodeUnit} : c ≠ quote → Inside quote body →
      Inside quote (c :: body)
  | doubled {body : List CodeUnit} : Inside quote body → Inside quote (quote :: quote :: body)

def QuoteCloses (quote : CodeUnit) (early late : List CodeUnit) : Prop :=
  ∃ body, Inside quote body ∧ early = quote :: (body ++ [quote]) ∧ late.head? ≠ some quote

def TagCloses (tag early _late : List CodeUnit) : Prop := ∃ body, early = tag ++ body ++ tag

inductive Mark
  | opening
  | closing
  | other
  deriving DecidableEq

def marks : List CodeUnit → List Mark
  | [] => []
  | [_] => [.other]
  | c :: d :: rest =>
    if c = unit '/' ∧ d = unit '*' then .opening :: marks rest
    else if c = unit '*' ∧ d = unit '/' then .closing :: marks rest
    else .other :: marks (d :: rest)

def CommentCloses (depth : ℤ) (early _late : List CodeUnit) : Prop :=
  (marks early).getLast? = some .closing ∧
    depth + (marks early).count .opening = (marks early).count .closing

section EndsAtFirst

variable {closes closes' : List CodeUnit → List CodeUnit → Prop} {text rest : List CodeUnit}

theorem EndsAtFirst.of_unique
    (hunique : ∀ early late, closes early late → early ++ late = text ++ rest → early = text)
    (hend : rest = [] ∨ closes text rest) : EndsAtFirst closes text rest := by
  by_cases hclose : closes text rest
  · refine .inl ⟨hclose, fun early late htext hne hearly => hne ?_⟩
    have heq := hunique early (late ++ rest) hearly (by rw [← List.append_assoc, ← htext])
    rw [heq] at htext
    simpa using htext
  · have hnil : rest = [] := hend.resolve_right hclose
    subst hnil
    refine .inr ⟨rfl, fun early late htext hearly => hclose ?_⟩
    have heq := hunique early late hearly (by rw [← htext, List.append_nil])
    have hlate : late = [] := by
      rw [heq] at htext
      simpa using htext
    rw [← heq, ← hlate]
    exact hearly

theorem EndsAtFirst.append (head : List CodeUnit) (h : EndsAtFirst closes' text rest)
    (hsame : ∀ early late, text = early ++ late → ∀ l, closes (head ++ early) l ↔ closes' early l)
    (hhead : ∀ early late, head = early ++ late → late ≠ [] → ∀ l, ¬ closes early l) :
    EndsAtFirst closes (head ++ text) rest := by
  have hinside : ∀ early late l, head ++ text = early ++ late → closes early l →
      ∃ early', early = head ++ early' ∧ text = early' ++ late ∧ closes' early' l := by
    intro early late l hsplit hclose
    rcases List.append_eq_append_iff.mp hsplit with ⟨early', rfl, htext⟩ | ⟨late', rfl, rfl⟩
    · exact ⟨early', rfl, htext, (hsame early' late htext l).mp hclose⟩
    · cases late' with
      | nil =>
        rw [List.append_nil] at hsame
        exact ⟨[], by simp, by simp, (hsame [] text rfl l).mp (by simpa using hclose)⟩
      | cons c late' => exact absurd hclose (hhead early (c :: late') rfl (List.cons_ne_nil _ _) l)
  rcases h with ⟨hclose, hfirst⟩ | ⟨rfl, hnone⟩
  · refine .inl ⟨(hsame text [] (by simp) rest).mpr hclose, fun early late hsplit hne hearly => ?_⟩
    obtain ⟨early', -, htext, hclose'⟩ := hinside early late _ hsplit hearly
    exact hfirst early' late htext hne hclose'
  · refine .inr ⟨rfl, fun early late hsplit hearly => ?_⟩
    obtain ⟨early', -, htext, hclose'⟩ := hinside early late _ hsplit hearly
    exact hnone early' late htext hclose'

end EndsAtFirst

section Quoted

variable {quote : CodeUnit} {body late rest : List CodeUnit}

theorem quotedLoop_closes (h : Inside quote body) (hlate : late.head? ≠ some quote) :
    quotedLoop quote (body ++ quote :: late) = body ++ [quote] := by
  induction h with
  | nil =>
    cases late with
    | nil => rfl
    | cons c late =>
      have hc : c ≠ quote := by simpa using hlate
      simp [quotedLoop, hc]
  | @cons c body hc _ ih =>
    have hne : body ++ quote :: late ≠ [] := by simp
    obtain ⟨d, more, hmore⟩ := List.exists_cons_of_ne_nil hne
    rw [List.cons_append, hmore, quotedLoop, if_pos hc, ← hmore, ih, List.cons_append]
  | doubled _ ih => simp [quotedLoop, ih]

theorem quotedLoop_open (quote : CodeUnit) (rest : List CodeUnit) :
    quotedLoop quote rest = rest ∨
      ∃ body late, Inside quote body ∧ late.head? ≠ some quote ∧ rest = body ++ quote :: late := by
  fun_induction quotedLoop quote rest with
  | case1 | case2 => exact .inl rfl
  | case3 c d rest hc ih =>
    rcases ih with hwhole | ⟨body, late, hbody, hlate, hrest⟩
    · exact .inl (congrArg (c :: ·) hwhole)
    · exact .inr ⟨c :: body, late, .cons hc hbody, hlate, by rw [hrest, List.cons_append]⟩
  | case4 c rest hc ih =>
    obtain rfl : c = quote := not_not.mp hc
    rcases ih with hwhole | ⟨body, late, hbody, hlate, rfl⟩
    · exact .inl (congrArg (c :: c :: ·) hwhole)
    · exact .inr ⟨c :: c :: body, late, .doubled hbody, hlate, rfl⟩
  | case5 c d rest hc hd =>
    obtain rfl : c = quote := not_not.mp hc
    exact .inr ⟨[], d :: rest, .nil, by simpa using hd, rfl⟩

theorem quoted_ends {after : List CodeUnit}
    (hrest : quote :: after = quoted quote after quote ++ rest) :
    EndsAtFirst (QuoteCloses quote) (quoted quote after quote) rest := by
  refine .of_unique (fun early late hclose heq => ?_) ?_
  · obtain ⟨body, hbody, rfl, hlate⟩ := hclose
    obtain rfl : body ++ quote :: late = after := by simpa [← hrest] using heq
    rw [quoted, quotedLoop_closes hbody hlate]
  · rcases quotedLoop_open quote after with hwhole | ⟨body, late, hbody, hlate, rfl⟩
    · rw [quoted, hwhole] at hrest
      exact .inl (by simpa using hrest.symm)
    · have htext : quoted quote (body ++ quote :: late) quote = quote :: (body ++ [quote]) := by
        rw [quoted, quotedLoop_closes hbody hlate]
      rw [htext] at hrest
      obtain rfl : late = rest := by simpa using hrest
      exact .inr ⟨body, hbody, htext, hlate⟩

end Quoted

section Comment

variable {depth : ℤ} {c d : CodeUnit} {early late rest : List CodeUnit}

theorem not_closes_nil : ¬ CommentCloses depth [] late := by simp [CommentCloses, marks]

theorem not_closes_singleton : ¬ CommentCloses depth [c] late := by simp [CommentCloses, marks]

theorem closes_opening_iff :
    CommentCloses depth (units "/*" ++ early) late ↔ CommentCloses (depth + 1) early late := by
  have hmarks : marks (units "/*" ++ early) = .opening :: marks early := by
    change marks (unit '/' :: unit '*' :: early) = _
    rw [marks, if_pos ⟨rfl, rfl⟩]
  rw [CommentCloses, CommentCloses, hmarks]
  cases hlast : (marks early).getLast? with
  | none => simp [List.getLast?_cons, hlast]
  | some mark =>
    simp [List.getLast?_cons, hlast]
    omega

theorem marks_ne_nil (c : CodeUnit) (rest : List CodeUnit) : marks (c :: rest) ≠ [] := by
  cases rest with
  | nil => simp [marks]
  | cons d rest =>
    unfold marks
    split_ifs <;> simp

theorem closes_closing_iff :
    CommentCloses depth (units "*/" ++ early) late
      ↔ (early = [] ∧ depth = 1) ∨ CommentCloses (depth - 1) early late := by
  have hmarks : marks (units "*/" ++ early) = .closing :: marks early := by
    change marks (unit '*' :: unit '/' :: early) = _
    rw [marks, if_neg (by decide), if_pos ⟨rfl, rfl⟩]
  rw [CommentCloses, CommentCloses, hmarks]
  cases early with
  | nil => simp [marks]
  | cons c early =>
    obtain ⟨mark, more, hmore⟩ := List.exists_cons_of_ne_nil (marks_ne_nil c early)
    simp [hmore, List.getLast?_cons_cons]
    omega

theorem closes_other_iff (hopening : ¬ (c = unit '/' ∧ d = unit '*'))
    (hclosing : ¬ (c = unit '*' ∧ d = unit '/')) :
    CommentCloses depth (c :: d :: early) late ↔ CommentCloses depth (d :: early) late := by
  have hmarks : marks (c :: d :: early) = .other :: marks (d :: early) := by
    rw [marks, if_neg hopening, if_neg hclosing]
  rw [CommentCloses, CommentCloses, hmarks]
  cases hlast : (marks (d :: early)).getLast? with
  | none => simp [List.getLast?_cons, hlast]
  | some mark => simp [List.getLast?_cons, hlast]

theorem not_closes_inside_pair {early' late' : List CodeUnit} (h : [c, d] = early' ++ late')
    (hne : late' ≠ []) : ¬ CommentCloses depth early' late := by
  match early' with
  | [] => exact not_closes_nil
  | [_] => exact not_closes_singleton
  | _ :: _ :: more =>
    have hlength := congrArg List.length h
    have hpos := List.length_pos_iff.mpr hne
    simp only [List.length_append, List.length_cons, List.length_nil] at hlength
    omega

theorem blockCommentLoop_ends (depth : ℤ) (text : List CodeUnit) :
    ∀ rest, text = blockCommentLoop depth text ++ rest →
      EndsAtFirst (CommentCloses depth) (blockCommentLoop depth text) rest := by
  fun_induction blockCommentLoop depth text with
  | case1 =>
    intro rest hrest
    obtain rfl : rest = [] := by simpa using hrest.symm
    refine .inr ⟨rfl, fun early late htext => ?_⟩
    obtain ⟨rfl, rfl⟩ : early = [] ∧ late = [] := by simpa using htext.symm
    exact not_closes_nil
  | case2 depth c =>
    intro rest hrest
    obtain rfl : rest = [] := by simpa using hrest
    refine .inr ⟨rfl, fun early late htext => ?_⟩
    rcases early with _ | ⟨_, _ | _⟩
    · exact not_closes_nil
    · exact not_closes_singleton
    · simp at htext
  | case3 depth c d text hopening ih =>
    intro rest hrest
    obtain ⟨rfl, rfl⟩ := hopening
    refine (ih rest (by simpa using hrest)).append (units "/*")
      (fun _ _ _ _ => closes_opening_iff) fun _ _ hhead hne _ => not_closes_inside_pair hhead hne
  | case4 depth c d text hopening hclosing ih =>
    intro rest hrest
    obtain ⟨rfl, rfl⟩ := hclosing
    split_ifs with hdepth
    · refine .inl ⟨?_, fun early late hsplit hne => not_closes_inside_pair hsplit hne⟩
      exact closes_closing_iff.mpr (.inl ⟨rfl, by omega⟩)
    · rw [if_neg hdepth] at hrest
      refine (ih rest (by simpa using hrest)).append (units "*/") (fun _ _ _ _ => ?_)
        fun _ _ hhead hne _ => not_closes_inside_pair hhead hne
      rw [closes_closing_iff]
      exact or_iff_right fun h => hdepth (by omega)
  | case5 depth c d text hopening hclosing ih =>
    intro rest hrest
    refine (ih rest (by simpa using hrest)).append [c] (fun early late htext l => ?_)
      fun early late hhead hne l => ?_
    · cases early with
      | nil => exact iff_of_false not_closes_singleton not_closes_nil
      | cons d' early =>
        have hd : d = d' := by
          have hle := (blockCommentLoop_le depth (d :: text))
          rw [htext] at hle
          exact (List.cons_prefix_cons.mp ((List.prefix_append _ late).trans hle)).1.symm
        subst hd
        exact closes_other_iff hopening hclosing
    · cases early with
      | nil => exact not_closes_nil
      | cons _ early =>
        obtain ⟨-, hnil⟩ := List.cons_eq_cons.mp hhead
        exact absurd (List.append_eq_nil_iff.mp hnil.symm).2 hne

theorem blockComment_ends {text : List CodeUnit} (hrest : text = blockComment text ++ rest) :
    EndsAtFirst (CommentCloses 0) (blockComment text) rest :=
  blockCommentLoop_ends 0 text rest hrest

end Comment

section Tag

variable {tag after rest : List CodeUnit}

def DollarTag (tag : List CodeUnit) : Prop :=
  ∃ name, tag = unit '$' :: (name ++ [unit '$']) ∧
    ∀ c more, name = c :: more → wordStart c ∧ ∀ d ∈ more, tagRest d

theorem tagPattern_eq_some (h : tagPattern after = some tag) :
    DollarTag tag ∧ tag <+: unit '$' :: after := by
  unfold tagPattern at h
  split_ifs at h with hclose
  obtain rfl := Option.some.inj h
  refine ⟨⟨tagName after, rfl, fun c more hname => ?_⟩, ?_⟩
  · unfold tagName at hname
    split at hname
    · simp at hname
    · split_ifs at hname with hword
      obtain ⟨rfl, rfl⟩ := List.cons_eq_cons.mp hname
      exact ⟨hword, fun d hd => List.mem_takeWhile_imp hd⟩
  · rw [List.prefix_cons_inj]
    refine append_le (tagName_le after) ?_
    obtain ⟨more, hmore⟩ := List.head?_eq_some_iff.mp hclose
    rw [hmore]
    simp

theorem TagCloses.occurs {early late text : List CodeUnit} (h : TagCloses tag early late)
    (hsplit : tag ++ text = early ++ late) :
    ∃ place, tag <+: text.drop place ∧ early.length = tag.length + place + tag.length := by
  obtain ⟨body, rfl⟩ := h
  rw [List.append_assoc, List.append_assoc, List.append_cancel_left_eq] at hsplit
  refine ⟨body.length, ?_, by simp [Nat.add_assoc]⟩
  rw [hsplit, List.drop_left]
  exact List.prefix_append _ _

theorem tag_ends_some {text : List CodeUnit} {close : ℕ} (h : indexOf tag text = some close)
    (hrest : tag ++ text = tag ++ text.take (close + tag.length) ++ rest) :
    EndsAtFirst (TagCloses tag) (tag ++ text.take (close + tag.length)) rest := by
  obtain ⟨hclose, hfirst⟩ := indexOf_eq_some_iff.mp h
  have htext : tag ++ text.take (close + tag.length) = tag ++ text.take close ++ tag := by
    rw [List.take_add, ← List.prefix_iff_eq_take.mp hclose, List.append_assoc]
  have hlength : (text.take close).length ≤ close := List.length_take_le close text
  rw [htext] at hrest ⊢
  refine .inl ⟨⟨_, rfl⟩, fun early late hsplit hne hearly => ?_⟩
  obtain ⟨place, hplace, hearlyLength⟩ := hearly.occurs
    ((hrest.trans (congrArg (· ++ rest) hsplit)).trans (List.append_assoc early late rest))
  refine hfirst place ?_ hplace
  have hsplitLength := congrArg List.length hsplit
  have hpos := List.length_pos_iff.mpr hne
  simp only [List.length_append] at hsplitLength
  omega

theorem tag_ends_none {text : List CodeUnit} (h : indexOf tag text = none) :
    EndsAtFirst (TagCloses tag) (tag ++ text) [] := by
  refine .inr ⟨rfl, fun early late hsplit hearly => ?_⟩
  obtain ⟨place, hplace, -⟩ := hearly.occurs hsplit
  exact indexOf_eq_none_iff.mp h place hplace

end Tag

/-- Quoted texts, dollar quotes and block comments end where they close, or with the input. -/
structure Delimited (token : SqlToken) (rest : List CodeUnit) : Prop where
  string : token.text.head? = some (unit '\'') →
    EndsAtFirst (QuoteCloses (unit '\'')) token.text rest
  identifier : token.text.head? = some (unit '"') →
    EndsAtFirst (QuoteCloses (unit '"')) token.text rest
  dollar : token.kind = .string → token.text.head? = some (unit '$') →
    ∃ tag, DollarTag tag ∧ tag <+: token.text ∧ EndsAtFirst (TagCloses tag) token.text rest
  comment : units "/*" <+: token.text → EndsAtFirst (CommentCloses 0) token.text rest

section Delimited

variable {char : CodeUnit} {after rest : List CodeUnit} {token : SqlToken}

theorem dollarToken_of_some {tag tail : List CodeUnit} {close : ℕ}
    (hparameter : parameterPattern after = none) (htag : tagPattern after = some tag)
    (htail : tag ++ tail = unit '$' :: after) (hindex : indexOf tag tail = some close) :
    dollarToken after = ⟨.string, tag ++ tail.take (close + tag.length)⟩ := by
  have hdrop : (unit '$' :: after).drop tag.length = tail := by rw [← htail, List.drop_left]
  simp only [dollarToken, hparameter, htag, hdrop, hindex]
  rw [← htail, Nat.add_assoc, List.take_length_add_append]

theorem dollarToken_of_none {tag tail : List CodeUnit}
    (hparameter : parameterPattern after = none) (htag : tagPattern after = some tag)
    (htail : tag ++ tail = unit '$' :: after) (hindex : indexOf tag tail = none) :
    dollarToken after = ⟨.string, tag ++ tail⟩ := by
  have hdrop : (unit '$' :: after).drop tag.length = tail := by rw [← htail, List.drop_left]
  simp only [dollarToken, hparameter, htag, hdrop, hindex]
  rw [← htail]

theorem dollarToken_ends (h : unit '$' :: after = (dollarToken after).text ++ rest)
    (hkind : (dollarToken after).kind = .string) :
    ∃ tag, DollarTag tag ∧ tag <+: (dollarToken after).text ∧
      EndsAtFirst (TagCloses tag) (dollarToken after).text rest := by
  cases hparameter : parameterPattern after with
  | some text => simp [dollarToken, hparameter] at hkind
  | none =>
    cases htag : tagPattern after with
    | none => simp [dollarToken, hparameter, htag] at hkind
    | some tag =>
      obtain ⟨hshape, tail, htail⟩ := tagPattern_eq_some htag
      cases hindex : indexOf tag tail with
      | some close =>
        rw [dollarToken_of_some hparameter htag htail hindex] at h ⊢
        rw [← htail] at h
        exact ⟨tag, hshape, List.prefix_append _ _, tag_ends_some hindex h⟩
      | none =>
        rw [dollarToken_of_none hparameter htag htail hindex] at h ⊢
        rw [← htail] at h
        obtain rfl : rest = [] := by simpa using h
        exact ⟨tag, hshape, List.prefix_append _ _, tag_ends_none hindex⟩

theorem head?_nextToken (char : CodeUnit) (after : List CodeUnit) :
    (nextToken char after).text.head? = some char := by
  obtain ⟨more, -, htext⟩ := takes_nextToken char after
  rw [htext]
  rfl

theorem delimited_nextToken (hrest : char :: after = (nextToken char after).text ++ rest) :
    Delimited (nextToken char after) rest := by
  have hhead := head?_nextToken char after
  constructor
  · intro hquote
    obtain rfl := Option.some.inj (hhead.symm.trans hquote)
    rw [(Lexeme.string rfl).nextToken_eq] at hrest ⊢
    exact quoted_ends hrest
  · intro hdouble
    obtain rfl := Option.some.inj (hhead.symm.trans hdouble)
    rw [(Lexeme.identifier rfl).nextToken_eq] at hrest ⊢
    exact quoted_ends hrest
  · intro hkind hdollar
    obtain rfl := Option.some.inj (hhead.symm.trans hdollar)
    rw [(Lexeme.dollar rfl).nextToken_eq] at hrest hkind ⊢
    exact dollarToken_ends hrest hkind
  · intro hblock
    have hle : units "/*" <+: char :: after := by
      rw [hrest]
      exact hblock.trans (List.prefix_append _ _)
    rw [(Lexeme.blockComment hle).nextToken_eq] at hrest ⊢
    exact blockComment_ends hrest

theorem delimited_of_reads (h : sqlLexer.Reads token rest) : Delimited token rest := by
  obtain ⟨char, after, hrest, rfl⟩ := h
  exact delimited_nextToken hrest

end Delimited

theorem kind_dollarToken (after : List CodeUnit) :
    (dollarToken after).kind ∈ [SqlTokenKind.parameter, .string, .operator] := by
  unfold dollarToken
  split
  · simp
  · split
    · split <;> simp
    · simp

theorem kind_word (char : CodeUnit) (after : List CodeUnit) :
    (word char after).kind ≠ .whitespace := by
  unfold word
  dsimp only
  split_ifs <;> simp

theorem kind_nextToken (char : CodeUnit) (after : List CodeUnit) :
    (nextToken char after).kind = .whitespace ↔ space char = true := by
  cases hspace : space char with
  | true => simp [(Lexeme.whitespace hspace).nextToken_eq]
  | false =>
    refine iff_of_false (fun hkind => ?_) Bool.false_ne_true
    have hlexeme := lexeme_nextToken char after
    revert hkind hlexeme
    generalize nextToken char after = token
    intro hkind hlexeme
    cases hlexeme with
    | whitespace h => simp [hspace] at h
    | dollar => exact absurd (kind_dollarToken after) (by rw [hkind]; decide)
    | word => exact kind_word char after hkind
    | lineComment | blockComment | string | identifier | number | operator => simp at hkind

def sqlBlanks : Blanks sqlLexer where
  blank token := token.kind == .whitespace
  starts := space
  blank_next char after := by
    rw [Bool.eq_iff_iff, beq_iff_eq]
    exact kind_nextToken char after

theorem not_blank_of_reads {token next : SqlToken} {rest : List CodeUnit}
    (h : sqlLexer.Reads token (next.text ++ rest)) (hnext : sqlLexer.Reads next rest) :
    ¬ (token.kind = .whitespace ∧ next.kind = .whitespace) := by
  rintro ⟨htoken, hblank⟩
  obtain ⟨char, after, htext, rfl⟩ := h
  obtain ⟨char', after', htext', rfl⟩ := hnext
  have hwhite : nextToken char after = ⟨.whitespace, (char :: after).takeWhile space⟩ :=
    (Lexeme.whitespace ((kind_nextToken char after).mp htoken)).nextToken_eq
  change char :: after = (nextToken char after).text ++ ((nextToken char' after').text ++ rest)
    at htext
  change char' :: after' = (nextToken char' after').text ++ rest at htext'
  rw [hwhite, ← htext'] at htext
  have hstop := (takeWhile_append_eq_left_iff.mp (congrArg (List.takeWhile space) htext).symm).2
  have hspace := (kind_nextToken char' after').mp hblank
  rw [hstop char' rfl] at hspace
  exact Bool.false_ne_true hspace

/-- The loop of `sqlTokens` ends after at most as many passes as the input has units. -/
theorem sql_tokens_lossless (sql : List CodeUnit) :
    (∀ fuel, sql.length ≤ fuel → sqlLexer.loop fuel sql = some (sqlTokens sql)) ∧
    (∀ token ∈ sqlTokens sql, token.text ≠ []) ∧
    (sqlTokens sql).flatMap SqlToken.text = sql ∧
    (sqlTokens sql).IsChain (fun token next =>
      ¬ (token.kind = .whitespace ∧ next.kind = .whitespace)) ∧
    ∀ before token after, sqlTokens sql = before ++ token :: after →
      Delimited token (after.flatMap SqlToken.text) :=
  ⟨sqlLexer.loop_eq_some sql, fun _ => Lexer.text_ne_nil_of_mem, sqlLexer.flatMap_tokens sql,
    Lexer.isChain_tokens sql fun _ _ _ h hnext => not_blank_of_reads h hnext,
    fun _ _ _ h => delimited_of_reads (Lexer.reads_of_tokens_eq h)⟩

end DbsMonitor.SqlText
