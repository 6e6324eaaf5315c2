import Mathlib.Data.List.Basic

/-!
# Alternation

A list in which two values take turns, and whose turn it is after it.
-/

namespace DbsMonitor

variable {α : Type*}

def Alternates (a b : α) : List α → Prop
  | [] => True
  | x :: xs => x = a ∧ Alternates b a xs

def turn (a b : α) : List α → α
  | [] => a
  | _ :: xs => turn b a xs

theorem Alternates.concat : ∀ {a b : α} {xs : List α}, Alternates a b xs →
    Alternates a b (xs ++ [turn a b xs])
  | _, _, [], _ => ⟨rfl, trivial⟩
  | _, _, _ :: _, h => ⟨h.1, h.2.concat⟩

theorem turn_concat : ∀ (a b x : α) (xs : List α), turn a b (xs ++ [x]) = turn b a xs
  | _, _, _, [] => rfl
  | a, b, x, _ :: xs => turn_concat b a x xs

theorem turn_cases : ∀ (a b : α) (xs : List α),
    turn a b xs = a ∧ turn b a xs = b ∨ turn a b xs = b ∧ turn b a xs = a
  | _, _, [] => .inl ⟨rfl, rfl⟩
  | a, b, _ :: xs => by
    rcases turn_cases a b xs with ⟨h, h'⟩ | ⟨h, h'⟩
    · exact .inr ⟨h', h⟩
    · exact .inl ⟨h', h⟩

end DbsMonitor
