import Mathlib.Data.List.Infix

/-!
# Texts as bytes of UTF-8

A byte below 128 is a character by itself wherever it stands, so the lower case of a text can be
taken on both sides of it, and a text without it that is found stands on one side.
-/

namespace DbsMonitor.Utf8

def ascii (text : String) : List UInt8 := text.toList.map fun c => UInt8.ofNat c.toNat

def lowerByte (byte : UInt8) : UInt8 := if 65 ≤ byte ∧ byte ≤ 90 then byte + 32 else byte

/-- The lower case, up to what stays beyond ASCII. Two characters beyond it become letters of
ASCII. -/
def toLower : List UInt8 → List UInt8
  | [] => []
  | 0xC4 :: 0xB0 :: text => 0x69 :: toLower text
  | 0xE2 :: 0x84 :: 0xAA :: text => 0x6B :: toLower text
  | byte :: text => lowerByte byte :: toLower text

variable {byte : UInt8} {text more needle : List UInt8}

theorem toLower_append_cons (h : byte < 128) (text more : List UInt8) :
    toLower (text ++ byte :: more) = toLower text ++ lowerByte byte :: toLower more := by
  have hbyte : ∀ b : UInt8, 128 ≤ b → byte ≠ b := fun b hb hsame => by
    subst hsame
    exact absurd h (UInt8.not_lt.mpr hb)
  fun_induction toLower text with
  | case1 =>
    rw [List.nil_append, toLower]
    · rfl
    · exact fun _ hsame => absurd hsame (hbyte _ (by decide))
    · exact fun _ hsame => absurd hsame (hbyte _ (by decide))
  | case2 text ih => simp [toLower, ih]
  | case3 text ih => simp [toLower, ih]
  | case4 first text hi hk ih =>
    rw [List.cons_append, toLower, ih, List.cons_append]
    · intro more' hfirst htext
      cases text with
      | nil => exact absurd (List.cons.inj htext).1 (hbyte _ (by decide))
      | cons second text =>
        obtain ⟨hsecond, -⟩ := List.cons.inj htext
        exact hi text hfirst (by rw [hsecond])
    · intro more' hfirst htext
      rcases text with _ | ⟨second, _ | ⟨third, text⟩⟩
      · exact absurd (List.cons.inj htext).1 (hbyte _ (by decide))
      · exact absurd (List.cons.inj (List.cons.inj htext).2).1 (hbyte _ (by decide))
      · obtain ⟨hsecond, hthird⟩ := List.cons.inj htext
        obtain ⟨hthird, -⟩ := List.cons.inj hthird
        exact hk text hfirst (by rw [hsecond, hthird])

theorem toLower_of_ascii (h : ∀ byte ∈ text, byte < 128) : toLower text = text.map lowerByte := by
  induction text with
  | nil => rfl
  | cons byte text ih =>
    obtain ⟨hbyte, htext⟩ := List.forall_mem_cons.mp h
    rw [List.map_cons, ← ih htext]
    exact toLower_append_cons hbyte [] text

theorem infix_append_cons_iff {α : Type*} {a : α} {needle xs ys : List α} (h : a ∉ needle) :
    needle <:+: xs ++ a :: ys ↔ needle <:+: xs ∨ needle <:+: ys := by
  constructor
  · intro hfound
    rcases List.infix_append_iff.mp hfound with hleft | hright | ⟨start, stop, rfl, hstart, hstop⟩
    · exact .inl hleft
    · rcases List.infix_cons_iff.mp hright with hprefix | hright
      · cases needle with
        | nil => exact .inr List.nil_infix
        | cons b needle =>
          obtain ⟨rfl, -⟩ := List.cons_prefix_cons.mp hprefix
          exact absurd List.mem_cons_self h
      · exact .inr hright
    · cases stop with
      | nil => exact .inl (by simpa using hstart.isInfix)
      | cons b stop =>
        obtain ⟨rfl, -⟩ := List.cons_prefix_cons.mp hstop
        exact absurd (by simp) h
  · rintro (hleft | hright)
    · exact hleft.trans (List.prefix_append _ _).isInfix
    · exact hright.trans ((List.suffix_cons a ys).trans (List.suffix_append xs _)).isInfix

end DbsMonitor.Utf8
