import DbsMonitor.Metric

/-!
# When a run is due

The due instants of a task lie on a grid of its interval, shifted by a phase that spreads the
instances and tasks over it, and after failures a task is held back by a backoff that doubles
from its interval up to a minute.
-/

namespace DbsMonitor

def fnv64a (bytes : List UInt8) : UInt64 :=
  bytes.foldl (fun hash byte => (hash ^^^ byte.toUInt64) * 1099511628211) 14695981039346656037

def utf8 (s : String) : List UInt8 :=
  s.toList.flatMap String.utf8EncodeChar

def initialPhase (instanceId : InstanceId) (taskId : TaskId) (interval : ℤ) : ℤ :=
  if interval ≤ 0 then 0
  else (fnv64a (utf8 instanceId ++ [0] ++ utf8 taskId)).toNat % interval

def nextDueAfter (now phase interval : ℤ) : ℤ :=
  if now < phase then phase else phase + ((now - phase) / interval + 1) * interval

theorem lt_nextDueAfter {now phase interval : ℤ} (h : 0 < interval) :
    now < nextDueAfter now phase interval := by
  unfold nextDueAfter
  split_ifs with hphase
  · exact hphase
  · have hlt := Int.lt_ediv_add_one_mul_self (now - phase) h
    omega

/-- `nextDueAfter` with its durations in 64 bits: `Time.Sub` stops at the ends of the range, the sum
and the product wrap around. -/
def nextDueAfter64 (now phase interval : ℤ) : ℤ :=
  if now < phase then phase
  else
    let elapsed := max (-2 ^ 63) (min (2 ^ 63 - 1) (now - phase))
    phase + int64 (int64 (elapsed / interval + 1) * interval)

/-- The doubling loop of `failureBackoff`, `rounds` turns of it at most. -/
def doubleBackoff : ℕ → ℤ → ℤ
  | 0, backoff => backoff
  | rounds + 1, backoff =>
    if backoff < 60 * second then doubleBackoff rounds (backoff * 2) else backoff

def failureBackoff (kind : TaskKind) (interval : ℤ) (failures : ℤ) : ℤ :=
  if kind = .probe ∨ failures ≤ 0 then 0
  else
    let backoff := doubleBackoff (failures - 1).toNat interval
    if 60 * second < backoff then 60 * second else backoff

def doubleBackoff64 : ℕ → ℤ → ℤ × ℕ
  | 0, backoff => (backoff, 0)
  | rounds + 1, backoff =>
    if backoff < 60 * second then
      let (result, turns) := doubleBackoff64 rounds (int64 (backoff * 2))
      (result, turns + 1)
    else (backoff, 0)

def failureBackoff64 (kind : TaskKind) (interval : ℤ) (failures : ℤ) : ℤ :=
  if kind = .probe ∨ failures ≤ 0 then 0
  else
    let backoff := (doubleBackoff64 (failures - 1).toNat interval).1
    if 60 * second < backoff then 60 * second else backoff

end DbsMonitor
