import Mathlib.Data.List.Basic
import Mathlib.Data.List.Induction
import Mathlib.Order.Lattice

/-!
# Switches with hysteresis

A switch turns on when a reading reaches its upper value and off when one falls below its lower
value; in between, and when there is no reading, it keeps its state. Of two switches one of which
has both values below those of the other, that one is on whenever the other is.
-/

namespace DbsMonitor.Hysteresis

structure Switch (κ : Type*) where
  on : κ
  off : κ

variable {κ : Type*} [LinearOrder κ]

namespace Switch

def next (s : Switch κ) (state : Bool) : Option κ → Bool
  | none => state
  | some reading => if s.on ≤ reading then true else if reading < s.off then false else state

def after (s : Switch κ) (readings : List (Option κ)) : Bool := readings.foldl s.next false

variable {s t : Switch κ} {readings : List (Option κ)} {reading : Option κ}

@[simp] theorem after_concat :
    s.after (readings ++ [reading]) = s.next (s.after readings) reading :=
  List.foldl_concat ..

theorem next_some_iff {state : Bool} {value : κ} :
    s.next state (some value) = true ↔ s.on ≤ value ∨ state = true ∧ s.off ≤ value := by
  simp only [next]
  split_ifs with hon hoff
  · simp [hon]
  · simp [hon, hoff]
  · simp [hon, not_lt.mp hoff]

structure Below (s t : Switch κ) : Prop where
  on : s.on ≤ t.on
  off : s.off ≤ t.off

theorem Below.next (h : Below s t) {lower upper : Bool} (hle : upper = true → lower = true)
    (hupper : t.next upper reading = true) : s.next lower reading = true := by
  cases reading with
  | none => exact hle hupper
  | some value =>
    rw [next_some_iff] at hupper ⊢
    rcases hupper with hon | ⟨hstate, hoff⟩
    · exact .inl (h.on.trans hon)
    · exact .inr ⟨hle hstate, h.off.trans hoff⟩

theorem Below.after (h : Below s t) (hupper : t.after readings = true) :
    s.after readings = true := by
  induction readings using List.reverseRecOn with
  | nil => exact hupper
  | append_singleton readings reading ih =>
    rw [after_concat] at hupper ⊢
    exact h.next ih hupper

theorem after_of_forall_none (h : ∀ reading ∈ readings, reading = none) :
    s.after readings = false := by
  induction readings using List.reverseRecOn with
  | nil => rfl
  | append_singleton readings reading ih =>
    rw [after_concat, h reading (List.mem_append_right _ (List.mem_singleton_self _))]
    exact ih fun reading' hreading' => h reading' (List.mem_append_left _ hreading')

end Switch

end DbsMonitor.Hysteresis
