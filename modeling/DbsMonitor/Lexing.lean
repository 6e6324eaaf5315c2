import Mathlib.Data.List.Chain
import Mathlib.Data.List.Infix
import Mathlib.Data.List.TakeWhile

/-!
# Cutting a text into tokens

A token is a part of the text and is not empty, so the loop of a lexer ends and loses nothing. A
token `t` is read before a text `u` (`Reads`) when the lexer at the text of `t` followed by `u`
gives `t`. Tokens written with blank gaps are the significant tokens of what was written exactly
when each is read before all that follows (`significant_render_iff`).
-/

namespace DbsMonitor.Lexing

variable {α τ : Type*}

structure Lexer (α τ : Type*) where
  text : τ → List α
  next : α → List α → τ
  next_ne_nil : ∀ a as, text (next a as) ≠ []
  next_le : ∀ a as, text (next a as) <+: a :: as

namespace Lexer

variable (lexer : Lexer α τ)

def loop : ℕ → List α → Option (List τ)
  | _, [] => some []
  | 0, _ :: _ => none
  | fuel + 1, a :: as =>
    (loop fuel ((a :: as).drop (lexer.text (lexer.next a as)).length)).map (lexer.next a as :: ·)

theorem length_drop_next (a : α) (as : List α) :
    ((a :: as).drop (lexer.text (lexer.next a as)).length).length < (a :: as).length := by
  have hpos := List.length_pos_iff.mpr (lexer.next_ne_nil a as)
  rw [List.length_drop, List.length_cons]
  omega

def tokens : List α → List τ
  | [] => []
  | a :: as => lexer.next a as :: tokens ((a :: as).drop (lexer.text (lexer.next a as)).length)
termination_by text => text.length
decreasing_by exact lexer.length_drop_next a as

def Reads (token : τ) (rest : List α) : Prop :=
  ∃ a as, a :: as = lexer.text token ++ rest ∧ lexer.next a as = token

@[simp] theorem tokens_nil : lexer.tokens [] = [] := by rw [tokens]

variable {lexer} {token : τ} {rest : List α}

theorem Reads.text_ne_nil (h : lexer.Reads token rest) : lexer.text token ≠ [] := by
  obtain ⟨a, as, -, rfl⟩ := h
  exact lexer.next_ne_nil a as

theorem Reads.tokens_append (h : lexer.Reads token rest) :
    lexer.tokens (lexer.text token ++ rest) = token :: lexer.tokens rest := by
  obtain ⟨a, as, htext, hnext⟩ := h
  rw [← htext, tokens, hnext, htext, List.drop_left]

variable (lexer)

theorem exists_reads (a : α) (as : List α) :
    ∃ rest, a :: as = lexer.text (lexer.next a as) ++ rest ∧
      lexer.Reads (lexer.next a as) rest := by
  obtain ⟨rest, hrest⟩ := lexer.next_le a as
  exact ⟨rest, hrest.symm, a, as, hrest.symm, rfl⟩

/-- A text is empty, or a token is read before what is left of it. -/
theorem tokens_induction {P : List α → List τ → Prop} (nil : P [] [])
    (cons : ∀ token rest, lexer.Reads token rest → P rest (lexer.tokens rest) →
      P (lexer.text token ++ rest) (token :: lexer.tokens rest)) (text : List α) :
    P text (lexer.tokens text) := by
  induction hlength : text.length using Nat.strong_induction_on generalizing text with
  | _ length ih =>
    cases text with
    | nil => simpa using nil
    | cons a as =>
      obtain ⟨rest, htext, hreads⟩ := lexer.exists_reads a as
      have hpos := List.length_pos_iff.mpr hreads.text_ne_nil
      have hshorter : rest.length < length := by
        rw [← hlength, htext, List.length_append]
        omega
      have h := cons _ rest hreads (ih rest.length hshorter rest rfl)
      rwa [← hreads.tokens_append, ← htext] at h

theorem loop_eq_some (text : List α) :
    ∀ fuel, text.length ≤ fuel → lexer.loop fuel text = some (lexer.tokens text) := by
  refine lexer.tokens_induction
    (P := fun text tokens => ∀ fuel, text.length ≤ fuel → lexer.loop fuel text = some tokens)
    (fun fuel _ => by unfold loop; rfl) (fun token rest hreads ih fuel hfuel => ?_) text
  obtain ⟨a, as, htext, hnext⟩ := hreads
  have hpos := List.length_pos_iff.mpr (lexer.next_ne_nil a as)
  rw [hnext] at hpos
  rw [List.length_append] at hfuel
  cases fuel with
  | zero => omega
  | succ fuel =>
    rw [← htext, loop, hnext, htext, List.drop_left, ih fuel (by omega)]
    rfl

theorem flatMap_tokens (text : List α) : (lexer.tokens text).flatMap lexer.text = text := by
  refine lexer.tokens_induction (P := fun text tokens => tokens.flatMap lexer.text = text) rfl
    (fun token rest _ ih => ?_) text
  rw [List.flatMap_cons, ih]

variable {lexer}

theorem reads_of_tokens_eq {text : List α} {before after : List τ}
    (h : lexer.tokens text = before ++ token :: after) :
    lexer.Reads token (after.flatMap lexer.text) := by
  refine lexer.tokens_induction (P := fun _ tokens => ∀ before, tokens = before ++ token :: after →
      lexer.Reads token (after.flatMap lexer.text)) (fun before h => ?_)
    (fun first rest hreads ih before h => ?_) text before h
  · simp at h
  · cases before with
    | nil =>
      obtain ⟨rfl, rfl⟩ := List.cons_eq_cons.mp h
      rwa [flatMap_tokens]
    | cons _ before =>
      obtain ⟨-, h⟩ := List.cons_eq_cons.mp h
      exact ih before h

theorem text_ne_nil_of_mem {text : List α} (h : token ∈ lexer.tokens text) :
    lexer.text token ≠ [] := by
  obtain ⟨before, after, h⟩ := List.append_of_mem h
  exact (reads_of_tokens_eq h).text_ne_nil

theorem isChain_tokens {R : τ → τ → Prop} (text : List α)
    (h : ∀ token next rest, lexer.Reads token (lexer.text next ++ rest) → lexer.Reads next rest →
      R token next) : (lexer.tokens text).IsChain R := by
  rw [List.isChain_iff_forall_rel_of_append_cons_cons]
  intro token next before after htokens
  have hnext : lexer.tokens text = (before ++ [token]) ++ next :: after := by
    rw [htokens, List.append_assoc, List.singleton_append]
  have hreads := reads_of_tokens_eq htokens
  rw [List.flatMap_cons] at hreads
  exact h token next _ hreads (reads_of_tokens_eq hnext)

end Lexer

structure Blanks (lexer : Lexer α τ) where
  blank : τ → Bool
  starts : α → Bool
  blank_next : ∀ a as, blank (lexer.next a as) = starts a

namespace Blanks

variable {lexer : Lexer α τ} (blanks : Blanks lexer) {token : τ} {text rest : List α}

def significant (text : List α) : List τ :=
  (lexer.tokens text).filter fun token => !blanks.blank token

variable {blanks}

theorem significant_append (h : lexer.Reads token rest) :
    blanks.significant (lexer.text token ++ rest)
      = if blanks.blank token then blanks.significant rest
        else token :: blanks.significant rest := by
  rw [significant, h.tokens_append, List.filter_cons]
  cases blanks.blank token <;> rfl

/-- A significant token is read before what follows, which is not empty unless it is the last. -/
theorem exists_reads_of_significant_eq {before after : List τ}
    (h : blanks.significant text = before ++ token :: after) :
    blanks.blank token = false ∧ ∃ rest, lexer.Reads token rest ∧ (after ≠ [] → rest ≠ []) := by
  obtain ⟨first, second, htokens, -, hsecond⟩ := List.filter_eq_append_iff.mp h
  obtain ⟨skipped, others, rfl, -, htoken, hothers⟩ := List.filter_eq_cons_iff.mp hsecond
  rw [← List.append_assoc] at htokens
  refine ⟨by simpa using htoken, _, Lexer.reads_of_tokens_eq htokens, fun hafter hrest => ?_⟩
  cases others with
  | nil => exact hafter (by simpa using hothers.symm)
  | cons other others =>
    have hother : other ∈ lexer.tokens text := by simp [htokens]
    rw [List.flatMap_cons, List.append_eq_nil_iff] at hrest
    exact Lexer.text_ne_nil_of_mem hother hrest.1

variable (blanks)

/-- The gap adds no significant token before a text that does not begin blank. -/
def Skipped (gap : List α) : Prop :=
  ∀ a as, blanks.starts a = false →
    blanks.significant (gap ++ a :: as) = blanks.significant (a :: as)

def render (lexer : Lexer α τ) (layout : List (List α × τ)) : List α :=
  layout.flatMap fun entry => entry.1 ++ lexer.text entry.2

def Separate (lexer : Lexer α τ) : List (List α × τ) → Prop
  | [] => True
  | entry :: layout => lexer.Reads entry.2 (render lexer layout) ∧ Separate lexer layout

variable {blanks}

@[simp] theorem render_nil : render lexer [] = [] := rfl

@[simp] theorem render_cons (entry : List α × τ) (layout : List (List α × τ)) :
    render lexer (entry :: layout) = entry.1 ++ lexer.text entry.2 ++ render lexer layout := rfl

theorem skipped_nil : blanks.Skipped [] := fun _ _ _ => rfl

theorem skipped_of_reads
    (h : ∀ a as, blanks.starts a = false →
      ∃ token, lexer.text token = text ∧ blanks.blank token = true ∧ lexer.Reads token (a :: as)) :
    blanks.Skipped text := by
  intro a as hstart
  obtain ⟨token, rfl, hblank, hreads⟩ := h a as hstart
  rw [significant_append hreads, if_pos hblank]

/-- A token that does not begin blank is the first significant one exactly when it is read. -/
theorem significant_append_eq_cons_iff {tokens : List τ} {a : α} {as : List α}
    (htoken : lexer.text token = a :: as) (hstart : blanks.starts a = false) :
    blanks.significant (lexer.text token ++ rest) = token :: tokens
      ↔ lexer.Reads token rest ∧ blanks.significant rest = tokens := by
  by_cases hreads : lexer.Reads token rest
  · have hblank : blanks.blank token = false := by
      obtain ⟨b, bs, htext, hnext⟩ := hreads
      rw [htoken, List.cons_append, List.cons_eq_cons] at htext
      rw [← hnext, blanks.blank_next, htext.1, hstart]
    rw [significant_append hreads, hblank, if_neg Bool.false_ne_true, List.cons_eq_cons]
    simp [hreads]
  · -- another token is read, and it is no blank one
    refine iff_of_false (fun h => ?_) fun h => hreads h.1
    rw [htoken, List.cons_append] at h
    obtain ⟨rest', htext, hreads'⟩ := lexer.exists_reads a (as ++ rest)
    have hblank := blanks.blank_next a (as ++ rest)
    rw [htext, significant_append hreads', hblank, hstart, if_neg Bool.false_ne_true,
      List.cons_eq_cons] at h
    exact hreads ⟨a, as ++ rest, by rw [htoken, List.cons_append], h.1⟩

theorem significant_render_iff : ∀ {layout : List (List α × τ)},
    (∀ entry ∈ layout, blanks.Skipped entry.1 ∧
      ∃ a as, lexer.text entry.2 = a :: as ∧ blanks.starts a = false) →
    (blanks.significant (render lexer layout) = layout.map Prod.snd ↔ Separate lexer layout)
  | [], _ => by simp [significant, Separate]
  | (gap, token) :: layout, h => by
    have ih := significant_render_iff fun entry hentry => h entry (List.mem_cons_of_mem _ hentry)
    obtain ⟨hgap, a, as, htoken, hstart⟩ := h (gap, token) (by simp)
    have hskip : blanks.significant (gap ++ lexer.text token ++ render lexer layout)
        = blanks.significant (lexer.text token ++ render lexer layout) := by
      rw [htoken, List.append_assoc, List.cons_append]
      exact hgap a _ hstart
    rw [render_cons, hskip, List.map_cons, significant_append_eq_cons_iff htoken hstart, ih]
    rfl

end Blanks

theorem takeWhile_append_eq_left_iff {p : α → Bool} {text rest : List α} :
    (text ++ rest).takeWhile p = text
      ↔ (∀ a ∈ text, p a = true) ∧ ∀ a ∈ rest.head?, p a = false := by
  constructor
  · intro h
    have hall : ∀ a ∈ text, p a = true := by
      intro a ha
      rw [← h] at ha
      exact List.mem_takeWhile_imp ha
    rw [List.takeWhile_append_of_pos hall] at h
    refine ⟨hall, fun a ha => ?_⟩
    obtain ⟨more, rfl⟩ := List.head?_eq_some_iff.mp ha
    by_contra hpos
    rw [List.takeWhile_cons_of_pos (by simpa using hpos)] at h
    simp at h
  · rintro ⟨hall, hhead⟩
    rw [List.takeWhile_append_of_pos hall]
    cases rest with
    | nil => simp
    | cons a rest => rw [List.takeWhile_cons_of_neg (by simp [hhead a rfl]), List.append_nil]

section Search

variable [DecidableEq α] {needle text : List α} {place : ℕ}

def indexOf (needle : List α) : List α → Option ℕ
  | [] => if needle = [] then some 0 else none
  | a :: as => if needle <+: a :: as then some 0 else (indexOf needle as).map (· + 1)

theorem indexOf_eq_some_iff : ∀ {text : List α} {place : ℕ},
    indexOf needle text = some place
      ↔ needle <+: text.drop place ∧ ∀ earlier < place, ¬ needle <+: text.drop earlier
  | [], place => by
    unfold indexOf
    split_ifs with hnil
    · subst hnil
      cases place with
      | zero => simp
      | succ place =>
        refine iff_of_false nofun fun h => h.2 0 (Nat.succ_pos place) ?_
        exact List.nil_prefix
    · simp [hnil]
  | a :: as, place => by
    unfold indexOf
    split_ifs with hfirst
    · cases place with
      | zero => simpa using hfirst
      | succ place =>
        simp only [Option.some.injEq, Nat.zero_ne_add_one, false_iff, not_and, not_forall, not_not]
        exact fun _ => ⟨0, Nat.succ_pos place, hfirst⟩
    · cases place with
      | zero => simp [hfirst]
      | succ place =>
        rw [Option.map_eq_some_iff]
        simp only [Nat.add_right_cancel_iff, exists_eq_right]
        rw [indexOf_eq_some_iff, List.drop_succ_cons, Nat.forall_lt_succ_left]
        simp [hfirst]

theorem indexOf_eq_none_iff : ∀ {text : List α},
    indexOf needle text = none ↔ ∀ place, ¬ needle <+: text.drop place
  | [] => by simp [indexOf]
  | a :: as => by
    unfold indexOf
    split_ifs with hfirst
    · simpa using ⟨0, hfirst⟩
    · rw [Option.map_eq_none_iff, indexOf_eq_none_iff]
      constructor
      · intro h place
        cases place with
        | zero => exact hfirst
        | succ place => exact h place
      · exact fun h place => h (place + 1)

theorem indexOf_take_append (h : indexOf needle text = some place) (rest : List α) :
    indexOf needle (text.take (place + needle.length) ++ rest) = some place := by
  obtain ⟨hplace, hfirst⟩ := indexOf_eq_some_iff.mp h
  rcases List.eq_nil_or_concat needle with rfl | ⟨_, _, hconcat⟩
  · have hzero : place = 0 := by
      by_contra hne
      exact hfirst 0 (Nat.pos_of_ne_zero hne) List.nil_prefix
    rw [hzero, indexOf_eq_some_iff]
    simp
  have hpos : 0 < needle.length := by simp [hconcat]
  have hlength : place + needle.length ≤ text.length := by
    have hle := hplace.length_le
    rw [List.length_drop] at hle
    omega
  have htake : (text.take (place + needle.length)).length = place + needle.length := by
    rw [List.length_take]
    omega
  -- up to there the two texts have the same units
  have hlocal : ∀ start ≤ place, ∀ tail : List α,
      (needle <+: (text.take (place + needle.length) ++ tail).drop start
        ↔ needle <+: (text.take (place + needle.length)).drop start) := by
    intro start hstart tail
    rw [List.drop_append_of_le_length (by omega)]
    exact List.isPrefix_append_of_length (by rw [List.length_drop]; omega)
  have hsame : ∀ start ≤ place,
      (needle <+: (text.take (place + needle.length) ++ rest).drop start
        ↔ needle <+: text.drop start) := by
    intro start hstart
    have htext := hlocal start hstart (text.drop (place + needle.length))
    rw [List.take_append_drop] at htext
    rw [hlocal start hstart rest, htext]
  rw [indexOf_eq_some_iff]
  exact ⟨(hsame place le_rfl).mpr hplace,
    fun earlier hearlier hle => hfirst earlier hearlier ((hsame earlier hearlier.le).mp hle)⟩

end Search

end DbsMonitor.Lexing
