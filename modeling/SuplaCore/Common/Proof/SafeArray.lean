import SuplaCore.Common.SafeArray
import SuplaCore.Conn.Proof.AuthkeyCache

/-!
# The shared array keeps its elements

A deletion fills the hole with the last element before it shrinks the block (`delete_granted`), so
where the block is not shrunk the last element is there twice (`delete_denied`). `Keeps` says what
each operation is to do, `Sound` when it does (`right_iff`); what is right balances the ledger of
added and removed elements (`Keeps.balanced`).
-/

namespace SafeArray

variable {P : Type} {s s' pre rest : TSafeArray P} {x : P} {granted : Bool}

/-! ## Reading -/

theorem get_natCast {a : Nat} : get s a = s[a]? := by
  rw [get, if_neg (by omega), Int.toNat_natCast]

/-- A cell that is not behind the end. -/
theorem get_eq_some {idx : Int} : get s idx = some x ↔
    ∃ pre rest, s = pre ++ x :: rest ∧ idx = pre.length := by
  constructor
  · intro h
    by_cases hneg : idx < 0
    · rw [get, if_pos hneg] at h
      cases h
    rw [get, if_neg hneg, List.getElem?_eq_some_iff] at h
    obtain ⟨hlt, rfl⟩ := h
    refine ⟨s.take idx.toNat, s.drop (idx.toNat + 1), ?_, ?_⟩
    · rw [← List.drop_eq_getElem_cons hlt, List.take_append_drop]
    · rw [List.length_take]
      omega
  · rintro ⟨pre, rest, rfl, rfl⟩
    rw [get_natCast, List.getElem?_append_right (Nat.le_refl _), Nat.sub_self]
    rfl

theorem get_eq_none {idx : Int} : get s idx = none ↔ idx < 0 ∨ s.length ≤ idx := by
  by_cases hneg : idx < 0
  · rw [get, if_pos hneg]
    exact ⟨fun _ => .inl hneg, fun _ => rfl⟩
  · rw [get, if_neg hneg, List.getElem?_eq_none_iff]
    omega

/-- The index that is found is the one of an element. -/
theorem get_find [DecidableEq P] : get s (find s (some x)) = if x ∈ s then some x else none := by
  rw [find]
  cases h : s.idxOf? x with
  | none =>
    rw [if_neg (List.idxOf?_eq_none_iff.mp h)]
    rfl
  | some a =>
    obtain ⟨hlt, hx, -⟩ := List.idxOf?_eq_some_iff.mp h
    have heq : s[a] = x := by simpa using hx
    rw [if_pos (heq ▸ List.getElem_mem hlt), get_natCast, List.getElem?_eq_getElem hlt, heq]

/-! ## Deleting -/

/-- The last element in front of the others. -/
def lastFirst (l : List P) : List P :=
  match l.getLast? with
  | some last => last :: l.dropLast
  | none => []

@[simp] theorem lastFirst_nil : lastFirst ([] : List P) = [] := rfl

@[simp] theorem lastFirst_concat (l : List P) (x : P) : lastFirst (l ++ [x]) = x :: l := by
  rw [lastFirst, List.getLast?_concat, List.dropLast_concat]

theorem lastFirst_perm (l : List P) : (lastFirst l).Perm l := by
  obtain rfl | ⟨l, x, rfl⟩ := l.eq_nil_or_concat'
  · exact .refl _
  · rw [lastFirst_concat]
    exact (List.perm_append_singleton x l).symm

theorem length_lastFirst (l : List P) : (lastFirst l).length = l.length :=
  (lastFirst_perm l).length_eq

theorem delete_out {idx : Int} (h : idx < 0 ∨ s.length ≤ idx) : delete granted s idx = s := by
  unfold delete
  split
  · rfl
  · exact if_neg (by omega)

theorem last_of_rest {l : List P} {y : P} : (pre ++ x :: (l ++ [y])).getLast? = some y := by
  rw [← List.cons_append, ← List.append_assoc, List.getLast?_concat]

/-- The cells before the block is shrunk. -/
theorem delete_eq : delete granted (pre ++ x :: rest) pre.length =
    shrink granted (pre ++ match rest.getLast? with
      | some last => last :: rest
      | none => [x]) := by
  unfold delete
  rw [if_neg (by omega), if_pos (by simp)]
  obtain rfl | ⟨l, y, rfl⟩ := rest.eq_nil_or_concat'
  · rw [if_neg (by simp)]
    rfl
  · rw [if_pos (by simp; omega), List.getLast?_concat]
    rw [fillHole, last_of_rest]
    simp

/-- **A deletion** takes out the element at its index; the last one comes to its place. -/
theorem delete_granted (h : granted = true ∨ pre = [] ∧ rest = []) :
    delete granted (pre ++ x :: rest) pre.length = pre ++ lastFirst rest := by
  rw [delete_eq]
  obtain rfl | ⟨l, y, rfl⟩ := rest.eq_nil_or_concat'
  · have hshrinks : (granted || (pre ++ [x]).length == 1) = true := by
      obtain rfl | ⟨rfl, -⟩ := h
      · rfl
      · simp
    show shrink granted (pre ++ [x]) = _
    rw [shrink, if_pos hshrinks]
    simp
  · have hgranted : granted = true := by
      obtain hgranted | ⟨-, hrest⟩ := h
      · exact hgranted
      · exact absurd hrest (by simp)
    rw [List.getLast?_concat, lastFirst_concat, shrink, hgranted, Bool.true_or, if_pos rfl]
    dsimp only
    rw [← List.cons_append, ← List.append_assoc, List.length_append, List.length_singleton,
      Nat.add_sub_cancel, List.take_left']
    rfl

/-- Where the block is not shrunk the last element is in the hole and in its old place. -/
theorem delete_denied (h : pre ≠ [] ∨ rest ≠ []) :
    delete false (pre ++ x :: rest) pre.length = pre ++ match rest.getLast? with
      | some last => last :: rest
      | none => [x] := by
  rw [delete_eq, shrink, if_neg]
  rw [Bool.false_or, beq_iff_eq]
  cases pre with
  | nil =>
    obtain rfl | ⟨l, y, rfl⟩ := rest.eq_nil_or_concat'
    · simp at h
    · rw [List.getLast?_concat]
      simp
  | cons z pre =>
    obtain rfl | ⟨l, y, rfl⟩ := rest.eq_nil_or_concat'
    · simp
    · rw [List.getLast?_concat]
      simp

/-! ## Popping -/

theorem moveDown_eq : moveDown (pre ++ x :: rest) (pre.length + 1) rest.length =
    pre ++ rest ++ [rest.getLast?.getD x] := by
  induction rest generalizing pre x with
  | nil => simp [moveDown]
  | cons y rest ih =>
    have hy : (pre ++ x :: y :: rest)[pre.length + 1]? = some y := by simp
    have hset : (pre ++ x :: y :: rest).set pre.length y = (pre ++ [y]) ++ y :: rest := by simp
    have hrest := @ih (pre ++ [y]) y
    rw [List.length_append, List.length_singleton] at hrest
    rw [List.length_cons, moveDown, hy]
    dsimp only
    rw [Nat.add_sub_cancel, hset, hrest, List.getLast?_cons]
    simp

theorem pop_nil : pop granted ([] : TSafeArray P) = (none, []) := by
  rw [pop]
  rfl

/-- **A pop** gives the first element; the others keep their order, but where the block is not
shrunk the last of them is there twice. -/
theorem pop_cons : pop granted (x :: rest) =
    (some x, if granted = true ∨ rest = [] then rest else rest ++ [rest.getLast?.getD x]) := by
  have hmove : moveDown (x :: rest) 1 rest.length = rest ++ [rest.getLast?.getD x] :=
    @moveDown_eq P [] rest x
  have hpop : pop granted (x :: rest) =
      (some x, delete granted (rest ++ [rest.getLast?.getD x]) rest.length) := by
    show (some x, delete granted (moveDown (x :: rest) 1 rest.length)
      ((moveDown (x :: rest) 1 rest.length).length - 1)) = _
    rw [hmove, List.length_append, List.length_singleton, Int.natCast_add, Int.natCast_one,
      Int.add_sub_cancel]
  rw [hpop]
  split
  · rename_i h
    rw [delete_granted (h.imp id fun h => ⟨h, rfl⟩), lastFirst_nil, List.append_nil]
  · rename_i h
    rw [not_or] at h
    obtain rfl := Bool.eq_false_of_not_eq_true h.1
    rw [delete_denied (.inl h.2)]
    rfl

/-! ## Cleaning -/

variable {delCnd : Nat → P → Int8} {outcomes : Nat → Bool} {n r : Nat}

/-- What is left to visit behind an element with this answer. -/
def following (answer : Int8) (rest : List P) : List P :=
  if answer = 1 then lastFirst rest else rest

theorem following_perm (answer : Int8) (rest : List P) : (following answer rest).Perm rest := by
  unfold following
  split
  · exact lastFirst_perm rest
  · exact .refl _

/-- The calls of `del_cnd` where every deletion takes out its element, from the `n`-th call on. -/
def visits (delCnd : Nat → P → Int8) (n : Nat) : List P → List (P × Int8)
  | [] => []
  | x :: rest => (x, delCnd n x) :: visits delCnd (n + 1) (following (delCnd n x) rest)
termination_by l => l.length
decreasing_by
  rw [(following_perm _ _).length_eq]
  exact Nat.lt_succ_self _

/-- Those that are to be removed, and those that are to stay. -/
def condemned (calls : List (P × Int8)) : List P := (calls.filter (·.2 == 1)).map (·.1)

def spared (calls : List (P × Int8)) : List P := (calls.filter (·.2 != 1)).map (·.1)

@[simp] theorem condemned_cons (x : P) (answer : Int8) (calls : List (P × Int8)) :
    condemned ((x, answer) :: calls) =
      if answer = 1 then x :: condemned calls else condemned calls := by
  unfold condemned
  by_cases h : answer = 1 <;> simp [h]

@[simp] theorem spared_cons (x : P) (answer : Int8) (calls : List (P × Int8)) :
    spared ((x, answer) :: calls) =
      if answer = 1 then spared calls else x :: spared calls := by
  unfold spared
  by_cases h : answer = 1 <;> simp [h]

/-- Every call is one of either kind. -/
theorem spared_append_condemned (calls : List (P × Int8)) :
    (spared calls ++ condemned calls).Perm (calls.map (·.1)) := by
  induction calls with
  | nil => exact .refl _
  | cons call calls ih =>
    obtain ⟨x, answer⟩ := call
    rw [condemned_cons, spared_cons, List.map_cons]
    split
    · exact List.perm_middle.trans (ih.cons x)
    · exact ih.cons x

/-- Each element is visited once. -/
theorem visits_perm (todo : List P) : ((visits delCnd n todo).map (·.1)).Perm todo := by
  induction n, todo using visits.induct delCnd with
  | case1 n =>
    rw [visits]
    exact .refl _
  | case2 n x rest ih =>
    rw [visits, List.map_cons]
    exact (ih.trans (following_perm _ rest)).cons x

/-- `realloc` shrinks the block each time an element of the `count` is to be removed, the first time
with the outcome `r`; the last cell needs no success. -/
def Shrinks (outcomes : Nat → Bool) (r count removed : Nat) : Prop :=
  ∀ m < removed, m + 1 < count → outcomes (r + m) = true

theorem Shrinks.zero {count : Nat} : Shrinks outcomes r count 0 :=
  fun m hm => absurd hm (Nat.not_lt_zero m)

theorem shrinks_succ {count removed : Nat} : Shrinks outcomes r (count + 1) (removed + 1) ↔
    (0 < count → outcomes r = true) ∧ Shrinks outcomes (r + 1) count removed := by
  constructor
  · intro h
    refine ⟨fun hcount => h 0 (by omega) (by omega), fun m hm hlt => ?_⟩
    rw [Nat.add_assoc, Nat.add_comm 1 m]
    exact h (m + 1) (by omega) (by omega)
  · rintro ⟨hfirst, h⟩ m hm hlt
    cases m with
    | zero => exact hfirst (by omega)
    | succ m =>
      rw [Nat.add_comm m 1, ← Nat.add_assoc]
      exact h m (by omega) (by omega)

/-- A turn at the element `x`. -/
theorem cleanTurn_cons {answer : Int8} (h : delCnd n x = answer) :
    cleanTurn delCnd outcomes ⟨pre ++ x :: rest, pre.length, n, r⟩ =
      (true, [(x, answer)],
        if answer = 1 then
          ⟨delete (outcomes r) (pre ++ x :: rest) pre.length, pre.length, n + 1, r + 1⟩
        else ⟨pre ++ x :: rest, pre.length + 1, n + 1, r⟩) := by
  have hget : get (pre ++ x :: rest) pre.length = some x := get_eq_some.mpr ⟨pre, rest, rfl, rfl⟩
  rw [cleanTurn]
  dsimp only
  rw [hget]
  dsimp only
  rw [h]
  split <;> rfl

theorem cleanTurn_nil : cleanTurn delCnd outcomes ⟨pre ++ [], pre.length, n, r⟩ =
    (false, [], ⟨pre ++ [], pre.length, n, r⟩) := by
  have hget : get (pre ++ []) pre.length = none := get_eq_none.mpr (.inr (by simp))
  rw [cleanTurn]
  dsimp only
  rw [hget]

/-- The turn at an element that stays. -/
theorem cleanTurn_spared (h : delCnd n x ≠ 1) :
    cleanTurn delCnd outcomes ⟨pre ++ x :: rest, pre.length, n, r⟩ =
      (true, [(x, delCnd n x)], ⟨(pre ++ [x]) ++ rest, (pre ++ [x]).length, n + 1, r⟩) := by
  rw [cleanTurn_cons rfl, if_neg h, List.append_assoc, List.singleton_append, List.length_append,
    List.length_singleton]

/-- The turn at an element that is to be removed, where the block is shrunk. -/
theorem cleanTurn_condemned (h : delCnd n x = 1)
    (hr : 0 < pre.length + rest.length → outcomes r = true) :
    cleanTurn delCnd outcomes ⟨pre ++ x :: rest, pre.length, n, r⟩ =
      (true, [(x, 1)], ⟨pre ++ lastFirst rest, pre.length, n + 1, r + 1⟩) := by
  have hdelete : delete (outcomes r) (pre ++ x :: rest) pre.length = pre ++ lastFirst rest := by
    refine delete_granted ?_
    obtain hzero | hpos := Nat.eq_zero_or_pos (pre.length + rest.length)
    · exact .inr ⟨List.eq_nil_of_length_eq_zero (by omega),
        List.eq_nil_of_length_eq_zero (by omega)⟩
    · exact .inl (hr hpos)
  rw [cleanTurn_cons h, if_pos rfl, hdelete]

/-- The turn at an element that is to be removed, where the block is not shrunk: there is as much
to visit as before. -/
theorem cleanTurn_denied (h : delCnd n x = 1) (hr : outcomes r = false)
    (hpos : 0 < pre.length + rest.length) :
    ∃ todo, todo.length = rest.length + 1 ∧
      cleanTurn delCnd outcomes ⟨pre ++ x :: rest, pre.length, n, r⟩ =
        (true, [(x, 1)], ⟨pre ++ todo, pre.length, n + 1, r + 1⟩) := by
  have hmore : pre ≠ [] ∨ rest ≠ [] := by
    by_contra hnil
    rw [not_or, not_not, not_not] at hnil
    obtain ⟨rfl, rfl⟩ := hnil
    exact Nat.lt_irrefl 0 hpos
  refine ⟨_, ?_, by rw [cleanTurn_cons h, if_pos rfl, hr, delete_denied hmore]⟩
  obtain rfl | ⟨l, y, rfl⟩ := rest.eq_nil_or_concat'
  · rfl
  · rw [List.getLast?_concat, List.length_cons]

/-- **A clean whose deletions all succeed** ends, visits each element once and leaves those that are
to stay. -/
theorem calls_of_shrinks {todo : List P}
    (h : Shrinks outcomes r (pre.length + todo.length)
      (condemned (visits delCnd n todo)).length) :
    ∃ c, Until.Calls (cleanTurn delCnd outcomes) ⟨pre ++ todo, pre.length, n, r⟩
      (visits delCnd n todo) c ∧ c.arr.Perm (pre ++ spared (visits delCnd n todo)) := by
  induction n, todo using visits.induct delCnd generalizing pre r with
  | case1 n =>
    rw [visits]
    exact ⟨_, .last cleanTurn_nil, .refl _⟩
  | case2 n x rest ih =>
    rw [visits, condemned_cons, List.length_cons, ← Nat.add_assoc] at h
    rw [visits, spared_cons]
    by_cases hx : delCnd n x = 1
    · rw [hx, following, if_pos rfl] at ih
      rw [hx, following, if_pos rfl, if_pos rfl] at h ⊢
      obtain ⟨hfirst, hlater⟩ := shrinks_succ.mp h
      rw [← length_lastFirst rest] at hlater
      obtain ⟨c, hcalls, hperm⟩ := ih hlater
      exact ⟨c, .again (cleanTurn_condemned hx hfirst) hcalls, hperm⟩
    · rw [following, if_neg hx] at ih
      rw [following, if_neg hx, if_neg hx] at h ⊢
      have hlater : Shrinks outcomes r ((pre ++ [x]).length + rest.length)
          (condemned (visits delCnd (n + 1) rest)).length := by
        rw [List.length_append, List.length_singleton, Nat.add_right_comm]
        exact h
      obtain ⟨c, hcalls, hperm⟩ := ih hlater
      rw [List.append_assoc] at hperm
      exact ⟨c, .again (cleanTurn_spared hx) hcalls, hperm⟩

/-- A clean that ends has visited as many elements as there were, and more where a deletion that it
needs has failed. -/
theorem shrinks_of_calls {c c' : Cleaning P} {calls : List (P × Int8)}
    (h : Until.Calls (cleanTurn delCnd outcomes) c calls c') {todo : List P}
    (hc : c = ⟨pre ++ todo, pre.length, n, r⟩) :
    todo.length ≤ calls.length ∧ (calls.length = todo.length →
      Shrinks outcomes r (pre.length + todo.length)
        (condemned (visits delCnd n todo)).length) := by
  induction h generalizing pre todo n r with
  | last hturn =>
    subst hc
    cases todo with
    | nil =>
      rw [visits]
      exact ⟨Nat.zero_le _, fun _ => .zero⟩
    | cons x rest =>
      rw [cleanTurn_cons rfl] at hturn
      cases hturn
  | @again _ _ _ out outs hturn _ ih =>
    subst hc
    cases todo with
    | nil =>
      rw [cleanTurn_nil] at hturn
      cases hturn
    | cons x rest =>
      rw [visits, condemned_cons, List.length_append, List.length_cons, ← Nat.add_assoc]
      by_cases hx : delCnd n x = 1
      · by_cases hr : 0 < pre.length + rest.length → outcomes r = true
        · rw [cleanTurn_condemned hx hr] at hturn
          cases hturn
          obtain ⟨hle, hlater⟩ := ih rfl
          rw [length_lastFirst] at hle hlater
          rw [if_pos hx, hx, following, if_pos rfl, List.length_singleton, List.length_cons]
          refine ⟨by omega, fun heq => ?_⟩
          exact shrinks_succ.mpr ⟨hr, hlater (by omega)⟩
        · rw [Classical.not_imp] at hr
          obtain ⟨todo, hlen, hdenied⟩ :=
            cleanTurn_denied hx (Bool.eq_false_of_not_eq_true hr.2) hr.1
          rw [hdenied] at hturn
          cases hturn
          obtain ⟨hle, -⟩ := ih rfl
          rw [List.length_singleton]
          exact ⟨by omega, fun heq => by omega⟩
      · rw [cleanTurn_spared hx] at hturn
        cases hturn
        obtain ⟨hle, hlater⟩ := ih rfl
        rw [List.length_append, List.length_singleton, Nat.add_right_comm] at hlater
        rw [if_neg hx, following, if_neg hx, List.length_singleton]
        exact ⟨by omega, fun heq => hlater (by omega)⟩

/-- Each call has the answer that `del_cnd` gives then. -/
theorem visits_answer {todo : List P} {k : Nat} {call : P × Int8}
    (h : (visits delCnd n todo)[k]? = some call) : call.2 = delCnd (n + k) call.1 := by
  induction n, todo using visits.induct delCnd generalizing k with
  | case1 n =>
    rw [visits] at h
    cases h
  | case2 n x rest ih =>
    rw [visits] at h
    cases k with
    | zero =>
      cases h
      rfl
    | succ k =>
      rw [List.getElem?_cons_succ] at h
      rw [← Nat.add_assoc, Nat.add_right_comm]
      exact ih h

/-! ## What the operations are to do -/

/-- What an operation is to do with the elements of `s`. -/
def Keeps (s : TSafeArray P) : Operation P → Result P → TSafeArray P → Prop
  | .add ptr, .index n, s' =>
    n = -1 ∧ s' = s ∨ ∃ x, ptr = some x ∧ n = s.length ∧ s' = s ++ [x]
  | .delete idx, .nothing, s' => s' = s ∨ ∃ x, get s idx = some x ∧ (x :: s').Perm s
  | .remove ptr, .nothing, s' => s' = s ∨ ∃ x, ptr = some x ∧ (x :: s').Perm s
  | .pop, .ptr p, s' => p = s.head? ∧ s' = s.tail
  | .moveToBegin _, .nothing, s' => s'.Perm s
  | .clean delCnd, .calls calls, s' =>
    (∀ (k : Nat) call, calls[k]? = some call → call.2 = delCnd k call.1) ∧
      (calls.map (·.1)).Perm s ∧ s'.Perm (spared calls)
  | _, _, _ => False

/-- The operation returns, and has done what it is to do. -/
def Right [DecidableEq P] (s : TSafeArray P) (outcomes : Nat → Bool) (op : Operation P) : Prop :=
  ∃ result s', Exec outcomes s op result s' ∧ Keeps s op result s'

/-- The block is shrunk where a cell is deleted, unless this cell holds what the last one holds. -/
def Sound (s : TSafeArray P) (outcomes : Nat → Bool) : Operation P → Prop
  | .add _ => True
  | .delete idx => outcomes 0 = true ∨ get s idx = none ∨ get s idx = s.getLast?
  | .remove ptr => outcomes 0 = true ∨ ∀ x, ptr = some x → x ∈ s → s.getLast? = some x
  | .pop => outcomes 0 = true ∨ s.length ≤ 1
  | .moveToBegin _ => True
  | .clean delCnd => Shrinks outcomes 0 s.length (condemned (visits delCnd 0 s)).length

theorem add_keeps {ptr : Option P} :
    Keeps s (.add ptr) (.index (add granted s ptr).1) (add granted s ptr).2 := by
  cases ptr with
  | none => exact .inl ⟨rfl, rfl⟩
  | some x =>
    cases granted with
    | false => exact .inl ⟨rfl, rfl⟩
    | true => exact .inr ⟨x, rfl, rfl, rfl⟩

theorem moveToBegin_keeps {idx : Int} :
    Keeps s (.moveToBegin idx) .nothing (moveToBegin s idx) := by
  show (moveToBegin s idx).Perm s
  unfold moveToBegin
  split
  · exact .refl _
  · rename_i h
    exact AuthkeyCache.moveToBegin_perm (List.getElem?_eq_getElem (by omega))

/-- A deletion of the element `x` takes it out, or leaves the array as it was. -/
theorem delete_takes {idx : Int} (h : get s idx = some x) :
    (delete granted s idx = s ∨ (x :: delete granted s idx).Perm s) ↔
      granted = true ∨ some x = s.getLast? := by
  obtain ⟨pre, rest, rfl, rfl⟩ := get_eq_some.mp h
  by_cases hshrinks : granted = true ∨ pre = [] ∧ rest = []
  · rw [delete_granted hshrinks]
    refine ⟨fun _ => hshrinks.imp id ?_, fun _ => .inr ?_⟩
    · rintro ⟨rfl, rfl⟩
      rfl
    · exact List.perm_middle.symm.trans (((lastFirst_perm rest).cons x).append_left pre)
  · rw [not_or, not_and_or] at hshrinks
    obtain ⟨hgranted, hmore⟩ := hshrinks
    obtain rfl := Bool.eq_false_of_not_eq_true hgranted
    rw [delete_denied hmore]
    obtain rfl | ⟨l, y, rfl⟩ := rest.eq_nil_or_concat'
    · exact ⟨fun _ => .inr (by simp), fun _ => .inl rfl⟩
    · rw [last_of_rest, List.getLast?_concat]
      dsimp only
      constructor
      · rintro (heq | hperm)
        · rw [List.append_cancel_left_eq, List.cons.injEq] at heq
          exact .inr (congrArg some heq.1.symm)
        · have hlen := hperm.length_eq
          simp at hlen
      · rintro (hfalse | heq)
        · cases hfalse
        · cases heq
          exact .inl rfl

theorem delete_keeps_iff {idx : Int} :
    Keeps s (.delete idx) .nothing (delete (outcomes 0) s idx) ↔
      Sound s outcomes (.delete idx) := by
  show (_ ∨ ∃ x, get s idx = some x ∧ _) ↔ _ ∨ get s idx = none ∨ get s idx = s.getLast?
  cases h : get s idx with
  | none => exact ⟨fun _ => .inr (.inl rfl), fun _ => .inl (delete_out (get_eq_none.mp h))⟩
  | some x =>
    rw [eq_false (Option.some_ne_none x), false_or, ← delete_takes h]
    constructor
    · rintro (heq | ⟨y, hy, hperm⟩)
      · exact .inl heq
      · cases hy
        exact .inr hperm
    · rintro (heq | hperm)
      · exact .inl heq
      · exact .inr ⟨x, rfl, hperm⟩

theorem pop_keeps_iff : Keeps s .pop (.ptr (pop (outcomes 0) s).1) (pop (outcomes 0) s).2 ↔
    Sound s outcomes .pop := by
  show (_ = _ ∧ _ = _) ↔ _ ∨ _
  cases s with
  | nil =>
    rw [pop_nil]
    exact ⟨fun _ => .inr (Nat.zero_le 1), fun _ => ⟨rfl, rfl⟩⟩
  | cons x rest =>
    have hone : (x :: rest).length ≤ 1 ↔ rest = [] := by simp
    rw [pop_cons, hone]
    constructor
    · rintro ⟨-, htail⟩
      by_contra hnot
      rw [if_neg hnot] at htail
      have hlen := congrArg List.length htail
      simp at hlen
    · intro h
      exact ⟨rfl, if_pos h⟩

section
variable [DecidableEq P]

theorem remove_keeps_iff {ptr : Option P} :
    Keeps s (.remove ptr) .nothing (remove (outcomes 0) s ptr) ↔
      Sound s outcomes (.remove ptr) := by
  show (_ ∨ ∃ x, ptr = some x ∧ _) ↔ _ ∨ ∀ x, ptr = some x → x ∈ s → s.getLast? = some x
  cases ptr with
  | none => exact ⟨fun _ => .inr fun x hx => (by cases hx), fun _ => .inl rfl⟩
  | some x =>
    by_cases hmem : x ∈ s
    · have hget : get s (find s (some x)) = some x := by rw [get_find, if_pos hmem]
      have htakes : (remove (outcomes 0) s (some x) = s ∨
          (x :: remove (outcomes 0) s (some x)).Perm s) ↔
            outcomes 0 = true ∨ some x = s.getLast? := delete_takes hget
      constructor
      · rintro (heq | ⟨y, hy, hperm⟩)
        · exact (htakes.mp (.inl heq)).imp id fun h y hy _ => hy ▸ h.symm
        · cases hy
          exact (htakes.mp (.inr hperm)).imp id fun h y hy _ => hy ▸ h.symm
      · intro h
        exact (htakes.mpr (h.imp id fun h => (h x rfl hmem).symm)).imp id fun h => ⟨x, rfl, h⟩
    · have hget : get s (find s (some x)) = none := by rw [get_find, if_neg hmem]
      refine ⟨fun _ => .inr fun y hy hin => ?_, fun _ => .inl (delete_out (get_eq_none.mp hget))⟩
      cases hy
      exact absurd hin hmem

/-- An operation returns at one place. -/
theorem Exec.unique {op : Operation P} {result₁ result₂ : Result P} {s₁ s₂ : TSafeArray P}
    (h₁ : Exec outcomes s op result₁ s₁) (h₂ : Exec outcomes s op result₂ s₂) :
    result₁ = result₂ ∧ s₁ = s₂ := by
  cases h₁ with
  | clean h₁ =>
    cases h₂ with
    | clean h₂ =>
      obtain ⟨c₁, hcalls₁, rfl⟩ := h₁
      obtain ⟨c₂, hcalls₂, rfl⟩ := h₂
      obtain ⟨rfl, rfl⟩ := hcalls₁.unique hcalls₂
      exact ⟨rfl, rfl⟩
  | _ =>
    cases h₂
    exact ⟨rfl, rfl⟩

theorem Exec.right_iff {op : Operation P} {result : Result P}
    (h : Exec outcomes s op result s') : Right s outcomes op ↔ Keeps s op result s' := by
  constructor
  · rintro ⟨result', s'', h', hkeeps⟩
    obtain ⟨rfl, rfl⟩ := h.unique h'
    exact hkeeps
  · exact fun hkeeps => ⟨result, s', h, hkeeps⟩

theorem clean_right_iff :
    Right s outcomes (.clean delCnd) ↔ Sound s outcomes (.clean delCnd) := by
  constructor
  · rintro ⟨result, s', hexec, hkeeps⟩
    cases hexec with | clean hcleans
    obtain ⟨c, hcalls, rfl⟩ := hcleans
    obtain ⟨-, hperm, -⟩ := hkeeps
    have hlen := hperm.length_eq
    rw [List.length_map] at hlen
    have hstart : ({ arr := s } : Cleaning P) = ⟨[] ++ s, ([] : List P).length, 0, 0⟩ := rfl
    have h := (shrinks_of_calls hcalls hstart).2 hlen
    rw [List.length_nil, Nat.zero_add] at h
    exact h
  · intro h
    have hshrinks : Shrinks outcomes 0 (([] : List P).length + s.length)
        (condemned (visits delCnd 0 s)).length := by
      rw [List.length_nil, Nat.zero_add]
      exact h
    obtain ⟨c, hcalls, hperm⟩ := calls_of_shrinks hshrinks
    refine ⟨_, c.arr, .clean ⟨c, hcalls, rfl⟩, fun k call hcall => ?_, visits_perm s, hperm⟩
    rw [visits_answer hcall, Nat.zero_add]

/-- **Right and sound**: an operation does what it is to do just where it is sound. -/
theorem right_iff {op : Operation P} : Right s outcomes op ↔ Sound s outcomes op := by
  cases op with
  | add ptr => exact (Exec.add ptr).right_iff.trans ⟨fun _ => trivial, fun _ => add_keeps⟩
  | delete idx => exact (Exec.delete idx).right_iff.trans delete_keeps_iff
  | remove ptr => exact (Exec.remove ptr).right_iff.trans remove_keeps_iff
  | pop => exact Exec.pop.right_iff.trans pop_keeps_iff
  | moveToBegin idx =>
    exact (Exec.moveToBegin idx).right_iff.trans ⟨fun _ => trivial, fun _ => moveToBegin_keeps⟩
  | clean delCnd => exact clean_right_iff

end

/-! ## The ledger -/

/-- What the caller has added with a step. -/
def Step.added (t : Step P) : List P :=
  match t.op, t.result with
  | .add ptr, .index n => if n < 0 then [] else ptr.toList
  | _, _ => []

/-- What the caller has removed with it. -/
def Step.removed (t : Step P) : List P :=
  match t.op, t.result with
  | .delete idx, _ => if t.after.length < t.before.length then (get t.before idx).toList else []
  | .remove ptr, _ => if t.after.length < t.before.length then ptr.toList else []
  | .pop, .ptr p => p.toList
  | .clean _, .calls calls => condemned calls
  | _, _ => []

/-- A deletion that is right has removed an element just where the array is shorter. -/
theorem perm_of_takes {p : Option P}
    (h : s' = s ∨ ∃ x, p = some x ∧ (x :: s').Perm s) :
    (s' ++ if s'.length < s.length then p.toList else []).Perm s := by
  obtain rfl | ⟨x, rfl, hperm⟩ := h
  · rw [if_neg (Nat.lt_irrefl _), List.append_nil]
  · have hlen := hperm.length_eq
    rw [List.length_cons] at hlen
    rw [if_pos (by omega)]
    exact (List.perm_append_singleton x s').trans hperm

theorem Keeps.balanced {t : Step P} (h : Keeps t.before t.op t.result t.after) :
    Ledger.Balanced id Step.added Step.removed t.before t t.after := by
  obtain ⟨op, outcomes, s, result, s'⟩ := t
  replace h : Keeps s op result s' := h
  show (s' ++ Step.removed _).Perm (s ++ Step.added _)
  match op, result, h with
  | .add ptr, .index n, h =>
    obtain ⟨rfl, rfl⟩ | ⟨x, rfl, rfl, rfl⟩ := h
    · exact .refl _
    · have hadded : (if (s.length : Int) < 0 then [] else [x]) = [x] := if_neg (by omega)
      show (s ++ [x] ++ []).Perm (s ++ if (s.length : Int) < 0 then [] else [x])
      rw [hadded, List.append_nil]
  | .delete idx, .nothing, h =>
    show (s' ++ if s'.length < s.length then (get s idx).toList else []).Perm (s ++ [])
    rw [List.append_nil]
    exact perm_of_takes h
  | .remove ptr, .nothing, h =>
    show (s' ++ if s'.length < s.length then ptr.toList else []).Perm (s ++ [])
    rw [List.append_nil]
    exact perm_of_takes h
  | .pop, .ptr p, h =>
    obtain ⟨rfl, rfl⟩ := h
    show (s.tail ++ s.head?.toList).Perm (s ++ [])
    rw [List.append_nil]
    cases s with
    | nil => exact .refl _
    | cons x rest => exact List.perm_append_singleton x rest
  | .moveToBegin idx, .nothing, h =>
    show (s' ++ []).Perm (s ++ [])
    rw [List.append_nil, List.append_nil]
    exact h
  | .clean delCnd, .calls calls, h =>
    obtain ⟨-, hvisited, hleft⟩ := h
    show (s' ++ condemned calls).Perm (s ++ [])
    rw [List.append_nil]
    exact (hleft.append_right _).trans ((spared_append_condemned calls).trans hvisited)

section
variable [DecidableEq P]

/-- A sound step has done what it is to do. -/
theorem Step.Does.keeps {t : Step P} (h : t.Does s s')
    (hsound : Sound t.before t.granted t.op) : Keeps t.before t.op t.result t.after := by
  obtain ⟨rfl, rfl, hexec⟩ := h
  exact hexec.right_iff.mp (right_iff.mpr hsound)

/-- **The elements of the array.** After a run whose steps are sound they are those that were added
and not removed, and each step has done what it is to do; the next operation does so just where it
is sound. -/
theorem keeps_elements {steps : List (Step P)} (h : Run steps s)
    (hsound : ∀ t ∈ steps, Sound t.before t.granted t.op) :
    (s ++ steps.flatMap Step.removed).Perm (steps.flatMap Step.added) ∧
      (∀ t ∈ steps, Keeps t.before t.op t.result t.after) ∧
      ∀ op outcomes, Right s outcomes op ↔ Sound s outcomes op := by
  have hstep : ∀ {s t s'}, Sound t.before t.granted t.op → Step.Does s t s' →
      Ledger.Balanced id Step.added Step.removed s t (s' : TSafeArray P) := by
    intro s t s' hsound hdoes
    have hkeeps := hdoes.keeps hsound
    obtain ⟨rfl, rfl, -⟩ := hdoes
    exact hkeeps.balanced
  exact ⟨h.balanced hstep hsound, h.steps (fun hsound hdoes => hdoes.keeps hsound) hsound,
    fun op outcomes => right_iff⟩

end

/-- Two elements are added and the first is deleted, its `realloc` with this outcome. -/
def firstDeleted (shrunk : Bool) : List (Step Nat) :=
  [⟨.add (some 10), fun _ => true, [], .index 0, [10]⟩,
    ⟨.add (some 20), fun _ => true, [10], .index 1, [10, 20]⟩,
    ⟨.delete 0, fun _ => shrunk, [10, 20], .nothing, delete shrunk [10, 20] 0⟩]

theorem firstDeleted_run (shrunk : Bool) :
    Run (firstDeleted shrunk) (delete shrunk [10, 20] 0) := by
  have h₀ : Run (P := Nat) [] [] := .init
  have h₁ := h₀.step (t := ⟨.add (some 10), fun _ => true, [], .index 0, [10]⟩)
    ⟨rfl, rfl, .add (some 10)⟩
  have h₂ := h₁.step (t := ⟨.add (some 20), fun _ => true, [10], .index 1, [10, 20]⟩)
    ⟨rfl, rfl, .add (some 20)⟩
  exact h₂.step ⟨rfl, rfl, .delete 0⟩

theorem keeps_elements_deleted :
    ([20] ++ (firstDeleted true).flatMap Step.removed).Perm
      ((firstDeleted true).flatMap Step.added) :=
  (keeps_elements (firstDeleted_run true) (by
    intro t ht
    simp only [firstDeleted, List.mem_cons, List.not_mem_nil, or_false] at ht
    obtain rfl | rfl | rfl := ht
    · trivial
    · trivial
    · exact .inl rfl)).1

/-- The block is not shrunk: the element is lost, and the other one is there twice. -/
theorem failed_shrink_doubles : Run (firstDeleted false) [20, 20] ∧
    ¬ ([20, 20] ++ (firstDeleted false).flatMap Step.removed).Perm
      ((firstDeleted false).flatMap Step.added) :=
  ⟨firstDeleted_run false, by decide⟩

end SafeArray
