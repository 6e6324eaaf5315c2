import DbsMonitor.Proofs.SqlTokens

/-!
# What may stand behind a token

A token that was read before some text is read before any text that begins with a unit that stops
it. The units that the formatter puts directly behind a token (`stops`) stop one that is no line
comment, apart from a full stop behind a full stop or a whole number and a colon behind a colon.
-/

namespace DbsMonitor.SqlText

open Lexing

section Scanners

variable {text rest rest' : List CodeUnit}

theorem blockCommentLoop_ne_nil (depth : ℤ) (c : CodeUnit) (rest : List CodeUnit) :
    blockCommentLoop depth (c :: rest) ≠ [] := by
  cases rest with
  | nil => simp [blockCommentLoop]
  | cons d rest =>
    unfold blockCommentLoop
    split_ifs <;> simp

theorem blockCommentLoop_append (hrest : rest ≠ []) (rest' : List CodeUnit) :
    ∀ (depth : ℤ) (text : List CodeUnit), blockCommentLoop depth (text ++ rest) = text →
      blockCommentLoop depth (text ++ rest') = text
  | depth, [], h => by
    obtain ⟨c, more, rfl⟩ := List.exists_cons_of_ne_nil hrest
    exact absurd h (blockCommentLoop_ne_nil depth c more)
  | depth, [c], h => by
    obtain ⟨d, more, rfl⟩ := List.exists_cons_of_ne_nil hrest
    have hmore := blockCommentLoop_ne_nil depth d more
    change blockCommentLoop depth (c :: d :: more) = [c] at h
    unfold blockCommentLoop at h
    split_ifs at h <;> simp_all
  | depth, c :: d :: text, h => by
    simp only [List.cons_append] at h ⊢
    rw [blockCommentLoop] at h ⊢
    split_ifs at h ⊢ with hopening hclosing hdepth
    · simp only [List.cons_eq_cons, true_and] at h ⊢
      exact blockCommentLoop_append hrest rest' _ text h
    · exact h
    · simp only [List.cons_eq_cons, true_and] at h ⊢
      exact blockCommentLoop_append hrest rest' _ text h
    · simp only [List.cons_eq_cons, true_and] at h ⊢
      exact blockCommentLoop_append hrest rest' _ (d :: text) h

theorem quotedLoop_append {quote : CodeUnit} (hrest : rest ≠ []) (hstop : rest'.head? ≠ some quote)
    (h : quotedLoop quote (text ++ rest) = text) : quotedLoop quote (text ++ rest') = text := by
  rcases quotedLoop_open quote (text ++ rest) with hwhole | ⟨body, late, hbody, hlate, heq⟩
  · rw [h] at hwhole
    exact absurd (by simpa using hwhole) hrest
  · rw [heq, quotedLoop_closes hbody hlate] at h
    rw [← h, List.append_assoc]
    exact quotedLoop_closes hbody hstop

theorem parameterPattern_eq_none_iff :
    parameterPattern rest = none ↔ ∀ c ∈ rest.head?, digit c = false := by
  unfold parameterPattern
  cases rest with
  | nil => simp
  | cons c rest => cases hdigit : digit c <;> simp [hdigit]

theorem tagPattern_append {name : List CodeUnit}
    (hname : ∀ c more, name = c :: more → wordStart c ∧ ∀ d ∈ more, tagRest d)
    (rest : List CodeUnit) :
    tagPattern (name ++ unit '$' :: rest) = some (unit '$' :: (name ++ [unit '$'])) := by
  have htag : tagName (name ++ unit '$' :: rest) = name := by
    cases name with
    | nil => rfl
    | cons c more =>
      obtain ⟨hword, hmore⟩ := hname c more rfl
      have htake : (more ++ unit '$' :: rest).takeWhile tagRest = more :=
        takeWhile_append_eq_left_iff.mpr ⟨hmore, fun d hd => by
          obtain rfl : unit '$' = d := by simpa using hd
          decide⟩
      rw [List.cons_append, tagName, if_pos hword, htake]
  rw [tagPattern, htag, List.drop_left, List.head?_cons, if_pos rfl]

theorem tagPattern_eq_none (h : ∀ c ∈ rest.head?, wordStart c = false ∧ c ≠ unit '$') :
    tagPattern rest = none := by
  cases rest with
  | nil => rfl
  | cons c rest =>
    obtain ⟨hword, hdollar⟩ := h c rfl
    simp [tagPattern, tagName, hword, hdollar]

theorem fraction_append (h : fraction (text ++ rest) = text)
    (hdigit : ∀ c ∈ rest'.head?, digit c = false)
    (hdot : text = [] → ∀ c ∈ rest'.head?, c ≠ unit '.') : fraction (text ++ rest') = text := by
  cases text with
  | nil =>
    cases rest' with
    | nil => rfl
    | cons c rest' => simp [fraction, hdot rfl c rfl]
  | cons c text =>
    rw [List.cons_append, fraction] at h ⊢
    split_ifs at h ⊢ with hc
    rw [List.cons_eq_cons] at h ⊢
    have hall := (takeWhile_append_eq_left_iff.mp h.2).1
    exact ⟨rfl, takeWhile_append_eq_left_iff.mpr ⟨hall, hdigit⟩⟩

theorem exponent_append (h : exponent (text ++ rest) = text)
    (hdigit : ∀ c ∈ rest'.head?, digit c = false)
    (hletter : text = [] → ∀ c ∈ rest'.head?, c ≠ unit 'e' ∧ c ≠ unit 'E') :
    exponent (text ++ rest') = text := by
  cases text with
  | nil =>
    cases rest' with
    | nil => rfl
    | cons c rest' => simp [exponent, hletter rfl c rfl]
  | cons c text =>
    rw [List.cons_append, exponent] at h ⊢
    split_ifs at h with hexponent
    obtain ⟨-, htext⟩ := List.cons_eq_cons.mp h
    obtain ⟨d, more, rfl⟩ : ∃ d more, text = d :: more := by
      refine List.exists_cons_of_ne_nil fun hnil => hexponent.2 ?_
      rw [hnil] at htext ⊢
      exact (List.append_eq_nil_iff.mp htext).2
    -- the sign is read off the first unit, which both texts share
    obtain ⟨signs, hsigns⟩ : ∃ signs, sign (d :: more ++ rest) = signs := ⟨_, rfl⟩
    have hsigns' : sign (d :: more ++ rest') = signs := hsigns
    rw [hsigns] at htext hexponent
    obtain ⟨digits, hdigits⟩ : signs <+: d :: more := ⟨_, htext⟩
    have hdrop : ∀ tail, (d :: more ++ tail).drop signs.length = digits ++ tail := by
      intro tail
      rw [← hdigits, List.append_assoc, List.drop_left]
    rw [hdrop] at htext hexponent
    have htake : (digits ++ rest).takeWhile digit = digits :=
      List.append_cancel_left (htext.trans hdigits.symm)
    have hall := (takeWhile_append_eq_left_iff.mp htake).1
    have htake' : (digits ++ rest').takeWhile digit = digits :=
      takeWhile_append_eq_left_iff.mpr ⟨hall, hdigit⟩
    rw [hsigns', hdrop, htake', if_pos ⟨hexponent.1, htake ▸ hexponent.2⟩, hdigits]

theorem fraction_head {c : CodeUnit} (hpart : fraction rest = text) (h : c ∈ text.head?) :
    c = unit '.' := by
  rw [← hpart] at h
  unfold fraction at h
  split at h
  · simp at h
  · split_ifs at h with hdot
    · obtain rfl := Option.some.inj h
      exact hdot
    · simp at h

theorem exponent_head {c : CodeUnit} (hpower : exponent rest = text) (h : c ∈ text.head?) :
    c = unit 'e' ∨ c = unit 'E' := by
  rw [← hpower] at h
  unfold exponent at h
  split at h
  · simp at h
  · dsimp only at h
    split_ifs at h with hexponent
    · obtain rfl := Option.some.inj h
      exact hexponent.1
    · simp at h

theorem numberPattern_eq_some_iff :
    numberPattern (text ++ rest) = some text
      ↔ ∃ whole part power, text = whole ++ (part ++ power) ∧ (whole ++ part).any digit ∧
          (whole ++ (part ++ (power ++ rest))).takeWhile digit = whole ∧
          fraction (part ++ (power ++ rest)) = part ∧ exponent (power ++ rest) = power := by
  constructor
  · intro h
    unfold numberPattern mantissa at h
    split_ifs at h with hdigit
    obtain ⟨whole, hwhole⟩ : ∃ whole, (text ++ rest).takeWhile digit = whole := ⟨_, rfl⟩
    obtain ⟨tail, htail⟩ : whole <+: text ++ rest := hwhole ▸ List.takeWhile_prefix _
    rw [hwhole, ← htail, List.drop_left] at h hdigit
    obtain ⟨part, hpart⟩ : ∃ part, fraction tail = part := ⟨_, rfl⟩
    obtain ⟨tail', rfl⟩ : part <+: tail := hpart ▸ fraction_le _
    rw [hpart, ← List.append_assoc, List.drop_left] at h
    rw [hpart] at hdigit
    obtain ⟨power, hpower⟩ : ∃ power, exponent tail' = power := ⟨_, rfl⟩
    rw [hpower, List.append_assoc] at h
    obtain rfl := Option.some.inj h
    obtain rfl : tail' = power ++ rest := by simpa using htail
    exact ⟨whole, part, power, rfl, hdigit, by simpa using hwhole, hpart, hpower⟩
  · rintro ⟨whole, part, power, rfl, hdigit, hwhole, hpart, hpower⟩
    have htext : whole ++ (part ++ power) ++ rest = whole ++ (part ++ (power ++ rest)) := by simp
    have hmantissa : mantissa (whole ++ (part ++ (power ++ rest))) = whole ++ part := by
      rw [mantissa, hwhole, List.drop_left, hpart]
    rw [htext, numberPattern, hmantissa, if_pos hdigit, ← List.append_assoc whole part,
      List.drop_left, hpower, List.append_assoc]

theorem numberPattern_append (h : numberPattern (text ++ rest) = some text)
    (hdigit : ∀ c ∈ rest'.head?, digit c = false)
    (hletter : ∀ c ∈ rest'.head?, c ≠ unit 'e' ∧ c ≠ unit 'E')
    (hdot : (∀ c ∈ text, digit c = true) → ∀ c ∈ rest'.head?, c ≠ unit '.') :
    numberPattern (text ++ rest') = some text := by
  obtain ⟨whole, part, power, rfl, hany, hwhole, hpart, hpower⟩ := numberPattern_eq_some_iff.mp h
  have hall := (takeWhile_append_eq_left_iff.mp hwhole).1
  have hhead : ∀ c ∈ (power ++ rest').head?, digit c = false := by
    intro c hc
    rw [List.head?_append] at hc
    cases hcase : power.head? with
    | none => exact hdigit c (by simpa [hcase] using hc)
    | some d =>
      obtain rfl : d = c := by simpa [hcase] using hc
      rcases exponent_head hpower hcase with rfl | rfl
      · decide
      · decide
  refine numberPattern_eq_some_iff.mpr ⟨whole, part, power, rfl, hany,
    takeWhile_append_eq_left_iff.mpr ⟨hall, fun c hc => ?_⟩,
    fraction_append hpart hhead fun hnil c hc => ?_,
    exponent_append hpower hdigit fun _ => hletter⟩
  · rw [List.head?_append] at hc
    cases hcase : part.head? with
    | none => exact hhead c (by simpa [hcase] using hc)
    | some d =>
      obtain rfl : d = c := by simpa [hcase] using hc
      obtain rfl := fraction_head hpart hcase
      decide
  · rw [List.head?_append] at hc
    cases hcase : power.head? with
    | none =>
      obtain rfl := List.head?_eq_none_iff.mp hcase
      refine hdot (fun d hd => ?_) c (by simpa using hc)
      rw [hnil] at hd
      exact hall d (by simpa using hd)
    | some d =>
      obtain rfl : d = c := by simpa [hcase] using hc
      rcases exponent_head hpower hcase with rfl | rfl
      · decide
      · decide

end Scanners

def stops : List CodeUnit := units " \n,;)(.:"

/-- The marks of more than one unit that are looked for at a unit without a class. -/
def pairs : List (List CodeUnit) := units "--" :: units "/*" :: operators

def Joins (token : SqlToken) (c : CodeUnit) : Prop :=
  (c = unit '.' ∧ (token.text = units "." ∨ token.kind = .number ∧ ∀ d ∈ token.text, digit d)) ∨
    (c = unit ':' ∧ token.text = units ":")

theorem stops_facts : ∀ c ∈ stops, wordRest c = false ∧ wordStart c = false ∧ digit c = false ∧
    c ≠ unit '\'' ∧ c ≠ unit '"' ∧ c ≠ unit '$' ∧ c ≠ unit 'e' ∧ c ≠ unit 'E' :=
  @of_decide_eq_true _ (List.decidableBAll _ stops) (by decide)

section Pairs

variable {text rest rest' candidate : List CodeUnit}

theorem pairs_facts : ∀ c ∈ stops, ∀ candidate ∈ pairs, ∀ place ∈ List.range candidate.length,
    0 < place → candidate[place]? = some c →
      (c = unit '.' ∧ candidate.take place = units ".") ∨
        (c = unit ':' ∧ candidate.take place = units ":") :=
  @of_decide_eq_true _ (List.decidableBAll _ stops) (by decide)

theorem le_of_le_append (htext : text ≠ []) (hmem : candidate ∈ pairs)
    (hstop : ∀ c ∈ rest.head?, c ∈ stops)
    (hjoin : ∀ c ∈ rest.head?, ¬ ((c = unit '.' ∧ text = units ".") ∨
      (c = unit ':' ∧ text = units ":"))) (h : candidate <+: text ++ rest) :
    candidate <+: text := by
  rcases List.prefix_or_prefix_of_prefix h (List.prefix_append text rest) with hle | ⟨more, rfl⟩
  · exact hle
  · have hmore : more <+: rest := (List.prefix_append_right_inj text).mp h
    cases more with
    | nil => simp
    | cons c more =>
      obtain ⟨tail, rfl⟩ := hmore
      have hplace := pairs_facts c (hstop c rfl) _ hmem text.length (by simp)
        (List.length_pos_iff.mpr htext) (by simp)
      rw [List.take_left] at hplace
      exact absurd hplace (hjoin c rfl)

theorem find_operator_append {found : Option (List CodeUnit)}
    (hle : ∀ candidate ∈ operators, candidate <+: text ++ rest' → candidate <+: text)
    (hfind : (operators.find? fun candidate => candidate.isPrefixOf (text ++ rest)) = found)
    (hfound : ∀ candidate ∈ found, candidate = text) :
    (operators.find? fun candidate => candidate.isPrefixOf (text ++ rest')) = found := by
  have hmatch : ∀ candidate ∈ operators, candidate <+: text ++ rest' → candidate <+: text ++ rest :=
    fun candidate hmem h => (hle candidate hmem h).trans (List.prefix_append _ _)
  cases found with
  | none =>
    rw [List.find?_eq_none] at hfind ⊢
    intro candidate hmem h
    rw [List.isPrefixOf_iff_prefix] at h
    exact hfind candidate hmem (List.isPrefixOf_iff_prefix.mpr (hmatch candidate hmem h))
  | some candidate =>
    obtain rfl := hfound candidate rfl
    rw [List.find?_eq_some_iff_append] at hfind ⊢
    obtain ⟨-, before, after, hoperators, hbefore⟩ := hfind
    refine ⟨List.isPrefixOf_iff_prefix.mpr (List.prefix_append _ _), before, after, hoperators,
      fun other hother => ?_⟩
    have hmem : other ∈ operators := by simp [hoperators, hother]
    by_contra h
    rw [Bool.not_eq_true', Bool.not_eq_false, List.isPrefixOf_iff_prefix] at h
    have hnot := hbefore other hother
    rw [Bool.not_eq_true', Bool.eq_false_iff] at hnot
    exact hnot (List.isPrefixOf_iff_prefix.mpr (hmatch other hmem h))

end Pairs

section Stop

variable {token : SqlToken} {char : CodeUnit} {more rest rest' : List CodeUnit}

theorem exists_lexeme (h : sqlLexer.Reads token rest) :
    ∃ char more, token.text = char :: more ∧ Lexeme char (more ++ rest) token := by
  obtain ⟨char, after, htext, rfl⟩ := h
  change char :: after = (nextToken char after).text ++ rest at htext
  change ∃ char' more', (nextToken char after).text = char' :: more' ∧
    Lexeme char' (more' ++ rest) (nextToken char after)
  obtain ⟨more, -, hmore⟩ := takes_nextToken char after
  refine ⟨char, more, hmore, ?_⟩
  obtain rfl : after = more ++ rest := by
    rw [hmore, List.cons_append, List.cons_eq_cons] at htext
    exact htext.2
  exact lexeme_nextToken char _

theorem reads_iff_nextToken (htext : token.text = char :: more) :
    sqlLexer.Reads token rest ↔ nextToken char (more ++ rest) = token := by
  constructor
  · intro h
    obtain ⟨char', more', htext', hlexeme⟩ := exists_lexeme h
    obtain ⟨rfl, rfl⟩ := List.cons_eq_cons.mp (htext.symm.trans htext')
    exact hlexeme.nextToken_eq
  · exact fun h => ⟨char, more ++ rest, by rw [← List.cons_append, ← htext]; rfl, h⟩

theorem dollarToken_append (htext : (dollarToken (more ++ rest)).text = unit '$' :: more)
    (hrest : rest = [] → rest' = []) (hstop : ∀ c ∈ rest'.head?, c ∈ stops) :
    dollarToken (more ++ rest') = dollarToken (more ++ rest) := by
  have hdigit : ∀ c ∈ rest'.head?, digit c = false := fun c hc => (stops_facts c (hstop c hc)).2.2.1
  cases hparameter : parameterPattern (more ++ rest) with
  | some text =>
    obtain rfl : text = unit '$' :: more := by simpa [dollarToken, hparameter] using htext
    have hparameter' : parameterPattern (more ++ rest') = some (unit '$' :: more) := by
      unfold parameterPattern at hparameter ⊢
      split_ifs at hparameter with hnil
      have htake : (more ++ rest).takeWhile digit = more :=
        (List.cons_eq_cons.mp (Option.some.inj hparameter)).2
      have htake' : (more ++ rest').takeWhile digit = more :=
        takeWhile_append_eq_left_iff.mpr ⟨(takeWhile_append_eq_left_iff.mp htake).1, hdigit⟩
      rw [htake', if_neg (htake ▸ hnil)]
    simp only [dollarToken, hparameter, hparameter']
  | none =>
    cases htag : tagPattern (more ++ rest) with
    | none =>
      obtain rfl : more = [] := by simpa [dollarToken, hparameter, htag] using htext.symm
      have hparameter' : parameterPattern rest' = none := parameterPattern_eq_none_iff.mpr hdigit
      have htag' : tagPattern rest' = none := tagPattern_eq_none fun c hc =>
        ⟨(stops_facts c (hstop c hc)).2.1, (stops_facts c (hstop c hc)).2.2.2.2.2.1⟩
      rw [List.nil_append] at hparameter htag
      simp only [dollarToken, List.nil_append, hparameter, htag, hparameter', htag']
    | some tag =>
      obtain ⟨⟨name, hname, hshape⟩, tail, htail⟩ := tagPattern_eq_some htag
      cases hindex : indexOf tag tail with
      | none =>
        rw [dollarToken_of_none hparameter htag htail hindex, htail] at htext
        have hnil : rest = [] := by simpa using htext
        rw [hnil, hrest hnil]
      | some close =>
        have htoken := dollarToken_of_some hparameter htag htail hindex
        rw [htoken] at htext ⊢
        -- the tag closes inside the token, which is the same before the other text
        have hclose := (indexOf_eq_some_iff.mp hindex).1.length_le
        have hlength := tagPattern_length htag
        rw [List.length_drop] at hclose
        have hinside : (tail.take (close + tag.length)).length = close + tag.length := by
          rw [List.length_take]
          omega
        have htail' : tag ++ (tail.take (close + tag.length) ++ rest')
            = unit '$' :: (more ++ rest') := by
          rw [← List.cons_append, ← htext, List.append_assoc]
        have hcons : ∀ text, tag ++ text = unit '$' :: (name ++ unit '$' :: text) := by
          intro text
          rw [hname]
          simp
        have hafter : more ++ rest'
            = name ++ unit '$' :: (tail.take (close + tag.length) ++ rest') :=
          (List.cons_eq_cons.mp (htail'.symm.trans (hcons _))).2
        have htag' : tagPattern (more ++ rest') = some tag := by
          rw [hafter, hname]
          exact tagPattern_append hshape _
        have hparameter' : parameterPattern (more ++ rest') = none := by
          rw [parameterPattern_eq_none_iff] at hparameter ⊢
          have hne : more ≠ [] := by
            rintro rfl
            have hone := congrArg List.length htext
            rw [List.length_append] at hone
            simp only [List.length_cons, List.length_nil] at hone
            omega
          rwa [List.head?_append_of_ne_nil _ hne] at hparameter ⊢
        rw [dollarToken_of_some hparameter' htag' htail' (indexOf_take_append hindex rest'),
          List.take_left' hinside]

theorem line_le_takeWhile {text : List CodeUnit} (h : units "--" <+: text) :
    units "--" <+: text.takeWhile fun c => c ≠ unit '\n' := by
  obtain ⟨tail, rfl⟩ := h
  rw [List.takeWhile_append_of_pos (@of_decide_eq_true _ (List.decidableBAll _ _) (by decide))]
  exact List.prefix_append _ _

theorem block_le_blockComment {text : List CodeUnit} (h : units "/*" <+: text) :
    units "/*" <+: blockComment text := by
  obtain ⟨tail, rfl⟩ := h
  change units "/*" <+: blockCommentLoop 0 (unit '/' :: unit '*' :: tail)
  rw [blockCommentLoop, if_pos ⟨rfl, rfl⟩]
  exact List.prefix_append (units "/*") _

theorem numberPattern_isSome {after : List CodeUnit}
    (h : digit char ∨ (char = unit '.' ∧ after.head?.any digit)) :
    (numberPattern (char :: after)).isSome := by
  have hany : (mantissa (char :: after)).any digit := by
    rcases h with hdigit | ⟨rfl, hhead⟩
    · simp [mantissa, hdigit]
    · cases after with
      | nil => simp at hhead
      | cons c after =>
        have hdot : digit (unit '.') = false := by decide
        have hc : digit c = true := by simpa using hhead
        simp [mantissa, fraction, hdot, hc]
  simp [numberPattern, hany]

theorem ne_nil_of_numberPattern (h : numberPattern (char :: more ++ rest) = some (char :: more))
    (hchar : char = unit '.') : more ≠ [] := by
  rintro rfl
  obtain ⟨whole, part, power, htext, hany, -, -, -⟩ := numberPattern_eq_some_iff.mp h
  obtain ⟨c, hc, hdigit⟩ := List.any_eq_true.mp hany
  have hmem : c ∈ [char] := by
    rw [htext, ← List.append_assoc]
    exact List.mem_append_left _ hc
  rw [List.mem_singleton.mp hmem, hchar] at hdigit
  exact absurd hdigit (by decide)

theorem reads_before_stop (h : sqlLexer.Reads token rest) (hkind : token.kind ≠ .whitespace)
    (hline : ¬ units "--" <+: token.text) (hrest : rest = [] → rest' = [])
    (hstop : ∀ c ∈ rest'.head?, c ∈ stops) (hjoin : ∀ c ∈ rest'.head?, ¬ Joins token c) :
    sqlLexer.Reads token rest' := by
  obtain ⟨char, more, htext, hlexeme⟩ := exists_lexeme h
  rw [reads_iff_nextToken htext]
  by_cases hlast : rest = []
  · rw [hrest hlast, ← hlast]
    exact hlexeme.nextToken_eq
  cases hlexeme with
  | whitespace => exact absurd rfl hkind
  | lineComment hmark => exact absurd (line_le_takeWhile hmark) hline
  | blockComment hmark =>
    change blockComment (char :: more ++ rest) = char :: more at htext
    have hmark' : units "/*" <+: char :: (more ++ rest') := by
      have hle := block_le_blockComment hmark
      rw [← List.cons_append, htext] at hle
      exact hle.trans (List.prefix_append _ rest')
    rw [(Lexeme.blockComment hmark').nextToken_eq, ← List.cons_append, ← List.cons_append, htext,
      blockComment, blockCommentLoop_append hlast rest' 0 (char :: more) htext]
  | string hchar =>
    have hloop := (List.cons_eq_cons.mp htext).2
    have hquote : rest'.head? ≠ some (unit '\'') := fun hhead =>
      (stops_facts _ (hstop _ hhead)).2.2.2.1 rfl
    rw [(Lexeme.string hchar).nextToken_eq, quoted, quoted, quotedLoop_append hlast hquote hloop,
      hloop]
  | identifier hchar =>
    have hloop := (List.cons_eq_cons.mp htext).2
    have hquote : rest'.head? ≠ some (unit '"') := fun hhead =>
      (stops_facts _ (hstop _ hhead)).2.2.2.2.1 rfl
    rw [(Lexeme.identifier hchar).nextToken_eq, quoted, quoted,
      quotedLoop_append hlast hquote hloop, hloop]
  | dollar hchar =>
    rw [(Lexeme.dollar hchar).nextToken_eq]
    subst hchar
    exact dollarToken_append htext hrest hstop
  | number hnumber =>
    obtain ⟨text, hpattern⟩ := Option.isSome_iff_exists.mp (numberPattern_isSome hnumber)
    have hnumberText : numberPattern (char :: more ++ rest) = some (char :: more) := by
      have hgetD : (numberPattern (char :: (more ++ rest))).getD [char] = char :: more := htext
      rw [hpattern, Option.getD_some] at hgetD
      rw [List.cons_append, hpattern, hgetD]
    have hpattern' : numberPattern (char :: more ++ rest') = some (char :: more) :=
      numberPattern_append hnumberText (fun c hc => (stops_facts c (hstop c hc)).2.2.1)
        (fun c hc => (stops_facts c (hstop c hc)).2.2.2.2.2.2)
        fun hall c hc hdot => hjoin c hc (.inl ⟨hdot, .inr ⟨rfl, htext ▸ hall⟩⟩)
    have hnumber' : digit char ∨ (char = unit '.' ∧ (more ++ rest').head?.any digit) := by
      refine hnumber.imp_right ?_
      rintro ⟨hchar, hhead⟩
      refine ⟨hchar, ?_⟩
      have hne : more ≠ [] := ne_nil_of_numberPattern hnumberText hchar
      rwa [List.head?_append_of_ne_nil _ hne] at hhead ⊢
    rw [(Lexeme.number hnumber').nextToken_eq, ← List.cons_append, ← List.cons_append, hpattern',
      hnumberText]
  | word hword hspace =>
    have htake : (more ++ rest).takeWhile wordRest = more := (List.cons_eq_cons.mp htext).2
    have htake' : (more ++ rest').takeWhile wordRest = more :=
      takeWhile_append_eq_left_iff.mpr ⟨(takeWhile_append_eq_left_iff.mp htake).1,
        fun c hc => (stops_facts c (hstop c hc)).1⟩
    rw [(Lexeme.word hword hspace).nextToken_eq, word, word, htake, htake']
  | operator hplain hline' hblock hdot =>
    have hne : char :: more ≠ [] := List.cons_ne_nil _ _
    have hle : ∀ candidate ∈ pairs, candidate <+: char :: more ++ rest' →
        candidate <+: char :: more :=
      fun candidate hmem => le_of_le_append hne hmem hstop fun c hc hcase =>
        hjoin c hc (by
          rw [Joins, htext]
          exact hcase.imp (fun h => ⟨h.1, .inl h.2⟩) id)
    have hold : ∀ candidate ∈ pairs, candidate <+: char :: (more ++ rest') →
        candidate <+: char :: (more ++ rest) := fun candidate hmem h =>
      (hle candidate hmem h).trans (List.prefix_append (char :: more) rest)
    have hdot' : ¬ (char = unit '.' ∧ (more ++ rest').head?.any digit) := by
      rintro ⟨hchar, hhead⟩
      cases more with
      | nil =>
        obtain ⟨c, hc, hdigit⟩ := (Option.any_eq_true _ _).mp hhead
        rw [(stops_facts c (hstop c hc)).2.2.1] at hdigit
        exact Bool.false_ne_true hdigit
      | cons c more => exact hdot ⟨hchar, hhead⟩
    obtain ⟨found, hfind⟩ : ∃ found, (operators.find? fun candidate =>
        candidate.isPrefixOf (char :: more ++ rest)) = found := ⟨_, rfl⟩
    have hgetD : found.getD [char] = char :: more := hfind ▸ htext
    have hfind' := find_operator_append
      (fun candidate hmem => hle candidate (by simp [pairs, hmem])) hfind
      (fun candidate hmem => by rwa [hmem, Option.getD_some] at hgetD)
    rw [(Lexeme.operator hplain (fun h => hline' (hold _ (by simp [pairs]) h))
      (fun h => hblock (hold _ (by simp [pairs]) h)) hdot').nextToken_eq, ← List.cons_append,
      ← List.cons_append, hfind, hfind']

end Stop

section Particular

variable {token : SqlToken} {rest rest' after : List CodeUnit} {char : CodeUnit}

theorem nextToken_operator {found : Option (List CodeUnit)} (hplain : Plain char)
    (hminus : char ≠ unit '-') (hslash : char ≠ unit '/')
    (hdot : char = unit '.' → ∀ c ∈ after.head?, digit c = false)
    (hfind : (operators.find? fun candidate => candidate.isPrefixOf (char :: after)) = found) :
    nextToken char after = ⟨.operator, found.getD [char]⟩ := by
  refine hfind ▸
    (Lexeme.operator hplain (not_line_of_ne hminus) (not_block_of_ne hslash) ?_).nextToken_eq
  rintro ⟨hchar, hdigit⟩
  obtain ⟨c, hc, hdigit⟩ := (Option.any_eq_true _ _).mp hdigit
  rw [hdot hchar c hc] at hdigit
  exact Bool.false_ne_true hdigit

theorem plain_of_mem : ∀ c ∈ units "(.:", Plain c := by
  have hfacts : ∀ c ∈ units "(.:", space c = false ∧ c ≠ unit '\'' ∧ c ≠ unit '"' ∧ c ≠ unit '$' ∧
      digit c = false ∧ wordStart c = false :=
    @of_decide_eq_true _ (List.decidableBAll _ _) (by decide)
  intro c hc
  obtain ⟨hspace, hquote, hdouble, hdollar, hdigit, hword⟩ := hfacts c hc
  exact ⟨hspace, hquote, hdouble, hdollar, hdigit, hword⟩

theorem nextToken_paren (after : List CodeUnit) :
    nextToken (unit '(') after = ⟨.operator, units "("⟩ :=
  nextToken_operator (plain_of_mem _ (by decide)) (by decide) (by decide)
    (fun h => absurd h (by decide)) rfl

theorem nextToken_cast (after : List CodeUnit) :
    nextToken (unit ':') (unit ':' :: after) = ⟨.operator, units "::"⟩ :=
  nextToken_operator (plain_of_mem _ (by decide)) (by decide) (by decide)
    (fun h => absurd h (by decide)) rfl

theorem nextToken_range (after : List CodeUnit) :
    nextToken (unit '.') (unit '.' :: after) = ⟨.operator, units ".."⟩ :=
  nextToken_operator (plain_of_mem _ (by decide)) (by decide) (by decide)
    (fun _ c hc => by
      obtain rfl : unit '.' = c := Option.some.inj hc
      decide) rfl

theorem nextToken_dot (h : ∀ c ∈ after.head?, digit c = false ∧ c ≠ unit '.') :
    nextToken (unit '.') after = ⟨.operator, units "."⟩ := by
  have hone : ∀ candidate ∈ operators, candidate.head? = some (unit '.') →
      candidate = units ".." := by decide
  have hfind : (operators.find? fun candidate => candidate.isPrefixOf (unit '.' :: after))
      = none := by
    rw [List.find?_eq_none]
    intro candidate hmem hle
    rw [List.isPrefixOf_iff_prefix] at hle
    obtain ⟨c, more, rfl⟩ := List.exists_cons_of_ne_nil (operators_ne_nil candidate hmem)
    obtain ⟨rfl, hmore⟩ := List.cons_prefix_cons.mp hle
    obtain ⟨-, rfl⟩ := List.cons_eq_cons.mp (hone _ hmem rfl)
    obtain ⟨tail, rfl⟩ := hmore
    exact (h _ rfl).2 rfl
  exact nextToken_operator (plain_of_mem _ (by decide)) (by decide) (by decide)
    (fun _ c hc => (h c hc).1) hfind

theorem nextToken_dot_text_iff :
    (nextToken (unit '.') after).text = units "."
      ↔ ∀ c ∈ after.head?, digit c = false ∧ c ≠ unit '.' := by
  refine ⟨fun htext c hc => ?_, fun h => by rw [nextToken_dot h]⟩
  obtain ⟨after, rfl⟩ := List.head?_eq_some_iff.mp hc
  constructor
  · by_contra hdigit
    rw [Bool.not_eq_false] at hdigit
    have hnumber : digit (unit '.') ∨ (unit '.' = unit '.' ∧ (c :: after).head?.any digit) :=
      .inr ⟨rfl, by simpa using hdigit⟩
    obtain ⟨text, hpattern⟩ := Option.isSome_iff_exists.mp (numberPattern_isSome hnumber)
    rw [(Lexeme.number hnumber).nextToken_eq, hpattern, Option.getD_some] at htext
    change text = [unit '.'] at htext
    rw [htext] at hpattern
    exact ne_nil_of_numberPattern hpattern rfl rfl
  · rintro rfl
    rw [nextToken_range] at htext
    exact absurd htext (by decide)

theorem reads_dot_iff (htext : token.text = units ".") (h : sqlLexer.Reads token rest) :
    sqlLexer.Reads token rest' ↔ ∀ c ∈ rest'.head?, digit c = false ∧ c ≠ unit '.' := by
  change token.text = [unit '.'] at htext
  rw [reads_iff_nextToken htext] at h ⊢
  have hrest := nextToken_dot_text_iff.mp (h ▸ htext : (nextToken (unit '.') rest).text = units ".")
  have htoken : token = ⟨.operator, units "."⟩ := h.symm.trans (nextToken_dot hrest)
  rw [← nextToken_dot_text_iff, htoken]
  refine ⟨fun h' => congrArg SqlToken.text h', fun htext' => nextToken_dot ?_⟩
  exact nextToken_dot_text_iff.mp htext'

theorem reads_paren (htext : token.text = units "(") (h : sqlLexer.Reads token rest)
    (rest' : List CodeUnit) : sqlLexer.Reads token rest' := by
  change token.text = [unit '('] at htext
  rw [reads_iff_nextToken htext] at h ⊢
  rw [nextToken_paren, ← h, nextToken_paren]

theorem reads_cast (htext : token.text = units "::") (h : sqlLexer.Reads token rest)
    (rest' : List CodeUnit) : sqlLexer.Reads token rest' := by
  change token.text = [unit ':', unit ':'] at htext
  rw [reads_iff_nextToken htext, List.singleton_append] at h ⊢
  rw [nextToken_cast, ← h, nextToken_cast]

theorem not_reads_colon (htext : token.text = units ":") :
    ¬ sqlLexer.Reads token (unit ':' :: rest) := by
  change token.text = [unit ':'] at htext
  rw [reads_iff_nextToken htext, List.nil_append, nextToken_cast]
  rintro rfl
  exact absurd htext (by decide)

theorem not_reads_whole (hall : ∀ c ∈ token.text, digit c = true) :
    ¬ sqlLexer.Reads token (unit '.' :: rest) := by
  intro h
  obtain ⟨char, more, htext, hlexeme⟩ := exists_lexeme h
  rw [htext] at hall
  have hdigit : digit char = true := hall char (by simp)
  have hsome : (numberPattern (char :: (more ++ unit '.' :: rest))).isSome :=
    numberPattern_isSome (.inl hdigit)
  obtain ⟨text, hpattern⟩ := Option.isSome_iff_exists.mp hsome
  have hnumber : nextToken char (more ++ unit '.' :: rest)
      = ⟨.number, (numberPattern (char :: (more ++ unit '.' :: rest))).getD [char]⟩ :=
    (Lexeme.number (.inl hdigit)).nextToken_eq
  rw [hlexeme.nextToken_eq, hpattern, Option.getD_some] at hnumber
  obtain rfl : text = char :: more := by rw [← htext, hnumber]
  -- the digits before the full stop are the whole part, and the full stop belongs to the number
  have hdigits : (char :: more ++ unit '.' :: rest).takeWhile digit = char :: more :=
    takeWhile_append_eq_left_iff.mpr ⟨hall, fun c hc => by
      obtain rfl : unit '.' = c := Option.some.inj hc
      decide⟩
  rw [← List.cons_append] at hpattern
  obtain ⟨whole, part, power, hparts, -, hwhole, hpart, -⟩ := numberPattern_eq_some_iff.mp hpattern
  have hsame : whole = char :: more := by
    rw [← hwhole, ← hdigits, hparts]
    simp
  rw [hsame] at hparts
  obtain ⟨rfl, rfl⟩ : part = [] ∧ power = [] := by simpa using hparts
  simp [fraction] at hpart

theorem reads_line_iff (hline : units "--" <+: token.text) (h : sqlLexer.Reads token rest) :
    sqlLexer.Reads token rest' ↔ ∀ c ∈ rest'.head?, c = unit '\n' := by
  obtain ⟨char, more, htext, hlexeme⟩ := exists_lexeme h
  rw [htext] at hline
  have hnext : ∀ tail, nextToken char (more ++ tail)
      = ⟨.comment, (char :: more ++ tail).takeWhile fun c => c ≠ unit '\n'⟩ := fun tail =>
    (Lexeme.lineComment (hline.trans (List.prefix_append _ tail))).nextToken_eq
  have htoken := hlexeme.nextToken_eq
  rw [hnext] at htoken
  have hall := (takeWhile_append_eq_left_iff.mp ((congrArg SqlToken.text htoken).trans htext)).1
  have hsame : sqlLexer.Reads token rest'
      ↔ (char :: more ++ rest').takeWhile (fun c => c ≠ unit '\n') = char :: more := by
    rw [reads_iff_nextToken htext, hnext, ← htext, ← htoken, SqlToken.mk.injEq]
    simp
  rw [hsame, takeWhile_append_eq_left_iff]
  simp only [decide_not, Bool.not_eq_false', decide_eq_true_eq]
  exact and_iff_right (by simpa using hall)

end Particular

end DbsMonitor.SqlText
