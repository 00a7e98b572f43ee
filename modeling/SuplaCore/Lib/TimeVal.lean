import Mathlib.Data.List.Basic

/-!
# Times

`struct timeval`: whole seconds and the microseconds of the next one.
-/

structure TimeVal where
  sec : Int
  usec : Nat
  usec_lt : usec < 1000000
  deriving DecidableEq

namespace TimeVal

def zero : TimeVal := ⟨0, 0, Nat.zero_lt_succ _⟩

/-- `tv_sec * 1000000 + tv_usec`. -/
def usecs (t : TimeVal) : Int := t.sec * 1000000 + t.usec

/-- `tv_sec += sec`. -/
def addSec (t : TimeVal) (sec : Int) : TimeVal := { t with sec := t.sec + sec }

theorem ne_zero_iff {t : TimeVal} : t ≠ .zero ↔ t.usec ≠ 0 ∨ t.sec ≠ 0 := by
  obtain ⟨sec, usec, husec⟩ := t
  unfold zero
  rw [ne_eq, TimeVal.mk.injEq, not_and_or]
  exact or_comm

theorem sec_le {a b : TimeVal} (h : a.usecs ≤ b.usecs) : a.sec ≤ b.sec := by
  have ha := a.usec_lt
  have hb := b.usec_lt
  unfold usecs at h
  omega

end TimeVal
