import Mathlib.Data.List.Basic

/-!
# Framing a byte stream

A receiver that holds a growing list of symbols and looks at it from time to time (`look`): it
waits for more, takes one packet off the front, or gives up. If its decisions to take and to give
up do not depend on what arrives later (`Framer`), then what it takes from a stream depends only
on the stream, not on how the stream was cut into pieces (`Drains.append`, `Drains.error_append`).

`Drains F xs ps o`: looking again and again at `xs` takes the packets `ps` and ends with `o`, the
symbols left when the receiver waits, or the error it gave up with.
-/

namespace Framing

/-- What a receiver does with the symbols it holds. -/
inductive Verdict (π ε : Type) where
  | wait
  | take (p : π) (n : Nat)
  | fail (e : ε)

/-- A receiver whose decisions are stable under arrival of more symbols. -/
structure Framer (β π ε : Type) where
  look : List β → Verdict π ε
  take_pos : ∀ {xs p n}, look xs = .take p n → 0 < n ∧ n ≤ xs.length
  take_stable : ∀ {xs ys p n}, look xs = .take p n → look (xs ++ ys) = .take p n
  fail_stable : ∀ {xs ys e}, look xs = .fail e → look (xs ++ ys) = .fail e

variable {β π ε : Type} {F : Framer β π ε}

/-- Looking until the receiver waits or gives up. -/
inductive Drains (F : Framer β π ε) : List β → List π → Except ε (List β) → Prop
  | wait {xs : List β} : F.look xs = .wait → Drains F xs [] (.ok xs)
  | fail {xs : List β} {e : ε} : F.look xs = .fail e → Drains F xs [] (.error e)
  | take {xs : List β} {p : π} {n : Nat} {ps : List π} {o : Except ε (List β)} :
      F.look xs = .take p n → Drains F (xs.drop n) ps o → Drains F xs (p :: ps) o

/-- The packets and the end are determined by the symbols. -/
theorem Drains.unique {xs : List β} {ps ps' : List π} {o o' : Except ε (List β)}
    (h : Drains F xs ps o) (h' : Drains F xs ps' o') : ps = ps' ∧ o = o' := by
  induction h generalizing ps' o' with
  | wait hl => cases h' <;> simp_all
  | fail hl => cases h' <;> simp_all
  | take hl _ ih =>
    cases h' with
    | wait hl' => simp_all
    | fail hl' => simp_all
    | take hl' ht' =>
      rw [hl] at hl'
      cases hl'
      obtain ⟨rfl, rfl⟩ := ih ht'
      exact ⟨rfl, rfl⟩

/-- **A receiver that waited goes on from what it kept.** -/
theorem Drains.append {xs ys r : List β} {ps qs : List π} {o : Except ε (List β)}
    (h : Drains F xs ps (.ok r)) (h' : Drains F (r ++ ys) qs o) :
    Drains F (xs ++ ys) (ps ++ qs) o := by
  generalize ho : Except.ok (ε := ε) r = o' at h
  induction h with
  | wait => cases ho; exact h'
  | fail => cases ho
  | take hl _ ih =>
    have hn := F.take_pos hl
    refine .take (F.take_stable hl) ?_
    rw [List.drop_append_of_le_length hn.2]
    exact ih ho

/-- **A receiver that gave up** would have given up on any longer stream, after the same
packets. -/
theorem Drains.error_append {xs : List β} {ps : List π} {e : ε} (h : Drains F xs ps (.error e))
    (ys : List β) : Drains F (xs ++ ys) ps (.error e) := by
  generalize ho : Except.error (α := List β) e = o' at h
  induction h with
  | wait => cases ho
  | fail hl => cases ho; exact .fail (F.fail_stable hl)
  | take hl _ ih =>
    refine .take (F.take_stable hl) ?_
    rw [List.drop_append_of_le_length (F.take_pos hl).2]
    exact ih ho

/-- A receiver that waits has nothing more to take. -/
theorem Drains.look_rest {xs r : List β} {ps : List π} (h : Drains F xs ps (.ok r)) :
    F.look r = .wait := by
  generalize ho : Except.ok (ε := ε) r = o' at h
  induction h with
  | wait hl => cases ho; exact hl
  | fail => cases ho
  | take _ _ ih => exact ih ho

/-- Encoded packets, each of which the receiver takes as it was encoded, are all taken. -/
theorem Drains.flatMap {α : Type} (enc : α → List β) (dec : α → π)
    (hw : F.look [] = .wait) :
    ∀ {as : List α}, (∀ a ∈ as, F.look (enc a) = .take (dec a) (enc a).length) →
      Drains F (as.flatMap enc) (as.map dec) (.ok [])
  | [], _ => .wait hw
  | a :: as, ht => by
    have ha := ht a List.mem_cons_self
    refine .take (F.take_stable ha) ?_
    rw [List.flatMap_cons, List.drop_left]
    exact Drains.flatMap enc dec hw fun b hb => ht b (List.mem_cons_of_mem _ hb)

end Framing
