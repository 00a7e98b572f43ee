import SuplaCore.Dobject.Objects

/-!
# Which changed objects a call reaches

Between calls no transaction is open (`Idle`), but `transaction_rejected` keeps the answer of the
last attempt to open one. A call looks at it after every object, also after those that are not
changed: where it is left from an earlier call, only a changed object at the front is reached
(`served_iff`).
-/

namespace Dobject

variable {I : Type} [ChangeIndicator I]

/-- The object at `i` is changed. -/
def Changed (objects : List (Object I)) (i : Nat) : Prop :=
  ∃ o, objects[i]? = some o ∧ o.isChanged = true

/-- The object at `i` is the first one that is changed. -/
def FirstChanged (objects : List (Object I)) (i : Nat) : Prop :=
  Changed objects i ∧ ∀ k < i, ¬ Changed objects k

/-- The updater asks to end the transaction at the object at `i`. -/
def Answers.asksToEnd (a : Answers I) (i : Nat) : Prop :=
  (a.prepareTheUpdate i).transactionShouldEnd = some true

/-- **A call serves the changed objects**: if a transaction would be accepted for the first of
them, it and every later one up to the one at which the updater asks to end is passed to
`prepare_the_update`. -/
def Served (s : Dobjects I) (a : Answers I) : Prop :=
  a.isProtocolVersionAllowed = true → ∀ i, FirstChanged s.objects i →
    a.onTransactionBegin i = true → ∀ j, Changed s.objects j →
      (∀ k < j, Changed s.objects k → ¬ a.asksToEnd k) →
        .prepareTheUpdate j ∈ (updateRemote a s).2.1

/-! ## One object -/

theorem update_unchanged {a : Answers I} {i : Nat} {o : Object I} {u : Updater}
    (h : o.isChanged = false) : update a i o u = (o, u, []) := by
  rw [update, h]
  rfl

/-- The flags in a transaction that goes on. -/
def Updater.Going (u : Updater) : Prop :=
  u.transactionStarted = true ∧ u.transactionRejected = false ∧ u.transactionShouldEnd = false

theorem Updater.Going.on {u : Updater} (h : u.Going) :
    (u.isTransactionRejected || u.isTransactionShouldEnd) = false := by
  simp [isTransactionRejected, isTransactionShouldEnd, h.2.1, h.2.2]

/-- A changed object is passed on where a transaction is open or accepted, and the transaction goes
on unless the updater asks to end it. -/
theorem update_changed {a : Answers I} {i : Nat} {o : Object I} {u : Updater}
    (hchanged : o.isChanged = true)
    (hopen : u.Going ∨ u.transactionStarted = false ∧ a.onTransactionBegin i = true) :
    .prepareTheUpdate i ∈ (update a i o u).2.2 ∧
      (¬ a.asksToEnd i → (update a i o u).2.1.Going) := by
  have hprepare : ∀ u : Updater, u.Going → .prepareTheUpdate i ∈ (prepare a i o u).2.2 ∧
      (¬ a.asksToEnd i → (prepare a i o u).2.1.Going) := by
    rintro u ⟨hstarted, hrejected, hend⟩
    have hflag : ¬ a.asksToEnd i →
        (a.prepareTheUpdate i).transactionShouldEnd.getD u.transactionShouldEnd = false := by
      intro hask
      rcases Option.eq_none_or_eq_some (a.prepareTheUpdate i).transactionShouldEnd with h | ⟨b, h⟩
      · rw [h, Option.getD_none, hend]
      · cases b with
        | false => rw [h, Option.getD_some]
        | true => exact absurd h hask
    unfold prepare
    dsimp only
    split
    · exact ⟨List.mem_singleton_self _, fun hask => ⟨hstarted, hrejected, hflag hask⟩⟩
    · exact ⟨List.mem_singleton_self _, fun hask => ⟨hstarted, hrejected, hflag hask⟩⟩
  unfold update
  rw [if_pos hchanged]
  rcases hopen with hgoing | ⟨hstarted, haccepted⟩
  · rw [if_pos hgoing.1]
    exact hprepare u hgoing
  · have hbegin :
        beginTransaction a i u = (⟨true, false, false, false⟩, [.onTransactionBegin i]) := by
      rw [beginTransaction, hstarted, haccepted]
      rfl
    obtain ⟨hmem, hgoing⟩ := hprepare ⟨true, false, false, false⟩ ⟨rfl, rfl, rfl⟩
    simp only [hstarted, hbegin, Bool.false_eq_true, if_false]
    exact ⟨List.mem_append_right _ hmem, hgoing⟩

/-! ## The loop -/

theorem changed_succ {o : Object I} {objects : List (Object I)} {j : Nat} :
    Changed (o :: objects) (j + 1) ↔ Changed objects j := Iff.rfl

theorem changed_zero {o : Object I} {objects : List (Object I)} :
    Changed (o :: objects) 0 ↔ o.isChanged = true := by
  simp [Changed]

/-- In an open transaction every changed object is reached up to the one that ends it. -/
theorem updateAll_going {a : Answers I} : ∀ {objects : List (Object I)} {i j : Nat} {u : Updater},
    u.Going → Changed objects j → (∀ k < j, Changed objects k → ¬ a.asksToEnd (i + k)) →
      .prepareTheUpdate (i + j) ∈ (updateAll a i objects u).2.2 := by
  intro objects
  induction objects with
  | nil =>
    rintro i j u - ⟨o, ho, -⟩
    cases ho
  | cons o objects ih =>
    intro i j u hgoing hchanged hends
    have hshift : ∀ k, i + (k + 1) = i + 1 + k := fun k => by omega
    by_cases hfirst : o.isChanged = true
    · obtain ⟨hmem, hgoing'⟩ := update_changed (i := i) hfirst (.inl hgoing)
      rw [updateAll]
      cases j with
      | zero =>
        split
        · exact hmem
        · exact List.mem_append_left _ hmem
      | succ j =>
        have hon := hgoing' (hends 0 (Nat.succ_pos j) (changed_zero.mpr hfirst))
        simp only [hon.on, Bool.false_eq_true, if_false]
        refine List.mem_append_right _ ?_
        rw [hshift j]
        refine ih hon (changed_succ.mp hchanged) fun k hk hck => ?_
        rw [← hshift k]
        exact hends (k + 1) (Nat.succ_lt_succ hk) (changed_succ.mpr hck)
    · cases j with
      | zero => exact absurd (changed_zero.mp hchanged) hfirst
      | succ j =>
        rw [updateAll, update_unchanged (Bool.not_eq_true _ ▸ hfirst)]
        simp only [hgoing.on, Bool.false_eq_true, if_false, List.nil_append]
        rw [hshift j]
        refine ih hgoing (changed_succ.mp hchanged) fun k hk hck => ?_
        rw [← hshift k]
        exact hends (k + 1) (Nat.succ_lt_succ hk) (changed_succ.mpr hck)

/-- From the first changed object on, unless an old rejection stops the call before it. -/
theorem updateAll_first {a : Answers I} : ∀ {objects : List (Object I)} {i m j : Nat} {u : Updater},
    u.transactionStarted = false → u.transactionRejected = false ∨ m = 0 →
    FirstChanged objects m → a.onTransactionBegin (i + m) = true → Changed objects j →
    (∀ k < j, Changed objects k → ¬ a.asksToEnd (i + k)) →
      .prepareTheUpdate (i + j) ∈ (updateAll a i objects u).2.2 := by
  intro objects
  induction objects with
  | nil =>
    rintro i m j u - - - - ⟨o, ho, -⟩
    cases ho
  | cons o objects ih =>
    intro i m j u hstarted hrejected hfirst haccepted hchanged hends
    have hshift : ∀ k, i + (k + 1) = i + 1 + k := fun k => by omega
    cases m with
    | zero =>
      -- the object at the front opens the transaction
      have ho := changed_zero.mp hfirst.1
      obtain ⟨hmem, hgoing⟩ := update_changed (i := i) ho (.inr ⟨hstarted, haccepted⟩)
      rw [updateAll]
      cases j with
      | zero =>
        split
        · exact hmem
        · exact List.mem_append_left _ hmem
      | succ j =>
        have hon := hgoing (hends 0 (Nat.succ_pos j) hfirst.1)
        simp only [hon.on, Bool.false_eq_true, if_false]
        refine List.mem_append_right _ ?_
        rw [hshift j]
        refine updateAll_going hon (changed_succ.mp hchanged) fun k hk hck => ?_
        rw [← hshift k]
        exact hends (k + 1) (Nat.succ_lt_succ hk) (changed_succ.mpr hck)
    | succ m =>
      have ho : o.isChanged = false :=
        Bool.eq_false_iff.mpr fun h => hfirst.2 0 (Nat.succ_pos m) (changed_zero.mpr h)
      have hrejected' : u.transactionRejected = false :=
        hrejected.resolve_right (Nat.succ_ne_zero m)
      have hon : (u.isTransactionRejected || u.isTransactionShouldEnd) = false := by
        simp [Updater.isTransactionRejected, Updater.isTransactionShouldEnd, hrejected', hstarted]
      cases j with
      | zero =>
        have hchanged' := changed_zero.mp hchanged
        rw [ho] at hchanged'
        cases hchanged'
      | succ j =>
        rw [updateAll, update_unchanged ho]
        simp only [hon, Bool.false_eq_true, if_false, List.nil_append]
        rw [hshift j]
        refine ih hstarted (.inl hrejected') ⟨changed_succ.mp hfirst.1, fun k hk hck => ?_⟩ ?_
          (changed_succ.mp hchanged) fun k hk hck => ?_
        · exact hfirst.2 (k + 1) (Nat.succ_lt_succ hk) (changed_succ.mpr hck)
        · rw [← hshift m]
          exact haccepted
        · rw [← hshift k]
          exact hends (k + 1) (Nat.succ_lt_succ hk) (changed_succ.mpr hck)

/-- An old rejection ends the call at an unchanged object at the front. -/
theorem updateAll_rejected {a : Answers I} {i : Nat} {o : Object I} {objects : List (Object I)}
    {u : Updater} (ho : o.isChanged = false) (hrejected : u.transactionRejected = true) :
    updateAll a i (o :: objects) u = (o :: objects, u, []) := by
  rw [updateAll, update_unchanged ho]
  simp [Updater.isTransactionRejected, hrejected]

omit [ChangeIndicator I] in
theorem not_mem_verifyAll {a : Answers I} {j : Nat} : ∀ {objects : List (Object I)} {i : Nat},
    .prepareTheUpdate j ∉ verifyAll a i objects := by
  intro objects
  induction objects with
  | nil =>
    intro i hmem
    cases hmem
  | cons o objects ih =>
    intro i hmem
    rw [verifyAll, List.mem_cons] at hmem
    rcases hmem with hmem | hmem
    · cases hmem
    · split at hmem
      · exact ih hmem
      · cases hmem

/-! ## Calls -/

/-- No transaction is open. -/
def Idle (s : Dobjects I) : Prop := s.updater.transactionStarted = false

theorem Idle.step {s s' : Dobjects I} {op : Op I} (h : Idle s) (hs : step s op = some s') :
    Idle s' := by
  cases op with
  | updateRemote a =>
    cases hs
    unfold updateRemote
    split
    · simp only [Idle, endTransaction]
      split
      · rfl
      · rename_i hnot
        exact Bool.eq_false_iff.mpr hnot
    · exact h
  | setChangeIndicator i indicator =>
    simp only [Dobject.step] at hs
    split at hs
    · cases hs
    · cases hs
      exact h
  | add o =>
    cases hs
    exact h
  | remove id =>
    cases hs
    exact h
  | clear =>
    cases hs
    exact h

/-- Between calls no transaction is open. -/
theorem Idle.reach {s : Dobjects I} (h : Sys.Reach (machine I) Sys.Any s) : Idle s := by
  refine Sys.Reach.invariant ?_ ?_ h
  · rintro s rfl
    rfl
  · intro s s' op _ hidle hs
    exact hidle.step hs

/-- **A call serves the changed objects just when no old rejection is in the way**: the last
attempt to open a transaction was accepted, or the first changed object is at the front. -/
theorem served_iff (s : Dobjects I) (hrun : Sys.Reach (machine I) Sys.Any s) (a : Answers I) :
    Served s a ↔ (a.isProtocolVersionAllowed = true → ∀ i, FirstChanged s.objects i →
      a.onTransactionBegin i = true → s.updater.transactionRejected = false ∨ i = 0) := by
  have hidle : s.updater.transactionStarted = false := Idle.reach hrun
  constructor
  · intro hserved hallowed i hfirst haccepted
    by_contra hnot
    obtain ⟨hrejected, hpos⟩ := not_or.mp hnot
    have hmem := hserved hallowed i hfirst haccepted i hfirst.1
      fun k hk hck => absurd hck (hfirst.2 k hk)
    -- the object at the front is not changed, and the call ends there
    obtain ⟨o, ho, -⟩ := hfirst.1
    obtain ⟨o₀, objects, hobjects⟩ : ∃ o₀ objects, s.objects = o₀ :: objects := by
      cases hs : s.objects with
      | nil =>
        rw [hs] at ho
        cases ho
      | cons o₀ objects => exact ⟨o₀, objects, rfl⟩
    have ho₀ : o₀.isChanged = false := by
      refine Bool.eq_false_iff.mpr fun h => hfirst.2 0 (Nat.pos_of_ne_zero hpos) ?_
      rw [hobjects]
      exact changed_zero.mpr h
    have hcalls : (updateRemote a s).2.1 = verifyAll a 0 s.objects := by
      have hrejected' : s.updater.transactionRejected = true := Bool.not_eq_false _ ▸ hrejected
      simp only [updateRemote, hallowed, if_true, hobjects, updateAll_rejected ho₀ hrejected',
        endTransaction, hidle, Bool.false_eq_true, if_false, List.append_nil]
    rw [hcalls] at hmem
    exact not_mem_verifyAll hmem
  · intro hclear hallowed i hfirst haccepted j hchanged hends
    have hmem := updateAll_first (i := 0) hidle (hclear hallowed i hfirst haccepted) hfirst
      (by rwa [Nat.zero_add]) hchanged fun k hk hck => by
        rw [Nat.zero_add]
        exact hends k hk hck
    rw [Nat.zero_add] at hmem
    rw [updateRemote, if_pos hallowed]
    exact List.mem_append_left _ (List.mem_append_right _ hmem)

/-! ## A rejection that starves -/

/-- The answers of an updater that accepts a transaction or not and then takes every object. -/
def takesAll (accepts : Bool) : Answers Bool where
  isProtocolVersionAllowed := true
  preTransactionVerification _ := true
  onTransactionBegin _ := accepts
  prepareTheUpdate _ := ⟨true, some false, none⟩

/-- An unchanged object with a changed one behind it. -/
def behindUnchanged : List (Op Bool) := [.add ⟨1, some false⟩, .add ⟨2, some true⟩]

/-- Without a rejection the object behind is reached. -/
theorem served_behind : ∃ s, Sys.Reach (machine Bool) Sys.Any s ∧
    s.objects = [⟨1, some false⟩, ⟨2, some true⟩] ∧ Served s (takesAll true) := by
  have hrun : (machine Bool).run ⟨[], .init⟩ behindUnchanged = some _ := rfl
  have hreach := Sys.Reach.run (.init rfl) hrun
  exact ⟨_, hreach, rfl, (served_iff _ hreach _).mpr fun _ _ _ _ => .inl rfl⟩

/-- After a call whose transaction was rejected, the next one ends at the unchanged object, though
its transaction would be accepted. -/
theorem rejection_starves : ∃ s, Sys.Reach (machine Bool) Sys.Any s ∧
    s.objects = [⟨1, some false⟩, ⟨2, some true⟩] ∧ ¬ Served s (takesAll true) := by
  have hrun : (machine Bool).run ⟨[], .init⟩
      (behindUnchanged ++ [.updateRemote (takesAll false)]) = some _ := rfl
  refine ⟨_, Sys.Reach.run (.init rfl) hrun, rfl, fun hserved => ?_⟩
  have hchanged : @Changed Bool _ [⟨1, some false⟩, ⟨2, some true⟩] 1 := ⟨_, rfl, rfl⟩
  have hnot : ¬ @Changed Bool _ [⟨1, some false⟩, ⟨2, some true⟩] 0 := by
    rintro ⟨o, ⟨⟩, ho⟩
    cases ho
  have hbefore : ∀ k < 1, ¬ @Changed Bool _ [⟨1, some false⟩, ⟨2, some true⟩] k := by
    intro k hk
    rwa [Nat.lt_one_iff.mp hk]
  have hmem := hserved rfl 1 ⟨hchanged, hbefore⟩ rfl 1 hchanged
    fun k hk hck => absurd hck (hbefore k hk)
  exact absurd hmem (by decide)

end Dobject
