import SuplaCore.Scheduler.Action

/-!
# The set/check/retry protocol ends

`execute_spec` says what one run does: a few answers, then exactly one statement. A run that asks
for a retry leaves one run less to go (`left`), so the runs on a row end with one `set_result`
after at most `max 1 (2 * try_limit)` of them (`runs_finish`).
-/

namespace Scheduler

/-- The calls that change the row. -/
def Call.IsWrite : Call → Prop
  | .setResult _ => True
  | .setRetry _ => True
  | _ => False

def Call.isDoAction : Call → Bool
  | .doAction _ => true
  | _ => false

/-- The number of `do_action` calls. -/
def doActions (tr : List (Nat × Call)) : Nat := tr.countP (·.2.isDoAction)

namespace SWorkerAction

/-- An action that gets one run only. -/
def Single (a : SWorkerAction) : Prop := a.channelGroup = true ∨ a.tryLimit ≤ 1

/-- A retry count the protocol gets to. -/
structure Live (a : SWorkerAction) (k : Nat) : Prop where
  single : a.Single → k = 0
  bound : ¬ a.Single → (k : Int) < 2 * a.tryLimit

open Classical in
/-- The runs still to go. -/
noncomputable def left (a : SWorkerAction) (k : Nat) : Nat :=
  if a.Single then 1 else (2 * a.tryLimit).toNat - k

variable {a : SWorkerAction} {k : Nat} {o : Outcomes}

theorem wrap32_le {t : Int} (h : 0 ≤ t) : wrap32 (t * 2) ≤ 2 * t := by
  unfold wrap32
  omega

theorem left_pos (h : a.Live k) : 1 ≤ a.left k := by
  unfold left
  split
  · exact Nat.le_refl _
  · rename_i hs
    have := h.bound hs
    omega

/-- What a retry leaves to be done. -/
theorem left_succ (h : ¬ a.Single) (hk : (k : Int) + 1 < 2 * a.tryLimit) :
    a.Live (k + 1) ∧ a.left k = a.left (k + 1) + 1 := by
  refine ⟨⟨fun hs => absurd hs h, fun _ => by omega⟩, ?_⟩
  unfold left
  rw [if_neg h, if_neg h]
  omega

/-- What the statement at the end of a run says. -/
structure Verdict (a : SWorkerAction) (k : Nat) (answers : List Call) (w : Call) : Prop where
  write : w.IsWrite
  success : w = .setResult .success → Call.resultSuccess true ∈ answers
  denied : Call.isActionAllowed false ∈ answers → w = .setResult .cancelled
  retry : ∀ sec, w = .setRetry sec → a.Live (k + 1) ∧ a.left k = a.left (k + 1) + 1

theorem afterSet_verdict {answers : List Call} (h : a.Live k) (he : k % 2 = 0)
    (hd : Call.isActionAllowed false ∉ answers) : a.Verdict k answers (a.afterSet k o) := by
  unfold afterSet
  split
  · split
    · exact ⟨trivial, nofun, fun hm => absurd hm hd, nofun⟩
    · split
      · exact ⟨trivial, nofun, fun hm => absurd hm hd, nofun⟩
      · exact ⟨trivial, nofun, fun hm => absurd hm hd, nofun⟩
  · rename_i hg
    split
    · refine ⟨trivial, ?_, fun hm => absurd hm hd, nofun⟩
      split <;> nofun
    · rename_i hk
      refine ⟨trivial, nofun, fun hm => absurd hm hd, fun _ _ => ?_⟩
      have hs : ¬ a.Single := by
        rintro (hs | hs)
        · exact hg hs
        · exact hk ⟨h.single (.inr hs), hs⟩
      have hb := h.bound hs
      exact left_succ hs (by omega)

theorem afterCheck_verdict {answers : List Call} (h : a.Live k) (ho : k % 2 ≠ 0)
    (hd : Call.isActionAllowed false ∉ answers)
    (hs : Call.resultSuccess o.resultSuccess ∈ answers) :
    a.Verdict k answers (a.afterCheck k o) := by
  unfold afterCheck
  split
  · rename_i hr
    exact ⟨trivial, fun _ => hr ▸ hs, fun hm => absurd hm hd, nofun⟩
  · split
    · rename_i hr
      refine ⟨trivial, nofun, fun hm => absurd hm hd, fun _ _ => ?_⟩
      have hn : ¬ a.Single := fun hs => by
        rw [h.single hs] at ho
        exact ho rfl
      have ht : 0 ≤ a.tryLimit := by
        have := h.bound hn
        omega
      have hw := wrap32_le ht
      exact left_succ hn (by omega)
    · cases o.failResultCode <;> cases o.ipccIsConnected <;>
        exact ⟨trivial, nofun, fun hm => absurd hm hd, nofun⟩

/-- One run: answers, at most one `do_action` among them and none at an odd count, and then the
statement. -/
def RunSpec (a : SWorkerAction) (k : Nat) (calls : List Call) : Prop :=
  ∃ answers w, calls = answers ++ [w] ∧ (∀ c ∈ answers, ¬ c.IsWrite) ∧
    answers.countP Call.isDoAction ≤ 1 - k % 2 ∧ a.Verdict k answers w

theorem phases_spec {before : List Call} (h : a.Live k) (hb : ∀ c ∈ before, ¬ c.IsWrite)
    (hd : Call.isActionAllowed false ∉ before) (ha : before.countP Call.isDoAction = 0) :
    a.RunSpec k (before ++ a.phases k o) := by
  have hsnoc : ∀ c : Call, ¬ c.IsWrite → ∀ c' ∈ before ++ [c], ¬ c'.IsWrite := by
    intro c hc c' hm
    rcases List.mem_append.1 hm with hm | hm
    · exact hb c' hm
    · rw [List.mem_singleton.1 hm]
      exact hc
  unfold phases
  split
  · rename_i he
    refine ⟨before ++ [.doAction o.doAction], a.afterSet k o, by simp, hsnoc _ nofun, ?_, ?_⟩
    · rw [List.countP_append, ha, he]
      exact Nat.le_refl 1
    · exact afterSet_verdict h he (by simpa using hd)
  · rename_i ho
    refine ⟨before ++ [.resultSuccess o.resultSuccess], a.afterCheck k o, by simp,
      hsnoc _ nofun, ?_, ?_⟩
    · rw [List.countP_append, ha]
      exact Nat.zero_le _
    · exact afterCheck_verdict h ho (by simpa using hd) (by simp)

/-- **What one run does.** -/
theorem execute_spec (h : a.Live k) : a.RunSpec k (a.execute k o) := by
  unfold execute
  cases o.isActionAllowed with
  | false =>
    refine ⟨[.isActionAllowed false], .setResult .cancelled, rfl, ?_, Nat.zero_le _, ?_⟩
    · simp [Call.IsWrite]
    · exact ⟨trivial, nofun, fun _ => rfl, nofun⟩
  | true =>
    simp only [Bool.not_true, Bool.false_eq_true, if_false]
    split
    · cases o.successBefore with
      | true =>
        refine ⟨[.isActionAllowed true, .resultSuccess true], .setResult .success, rfl, ?_,
          Nat.zero_le _, ?_⟩
        · simp [Call.IsWrite]
        · exact ⟨trivial, by simp, by simp, nofun⟩
      | false =>
        exact @phases_spec _ _ _ [.isActionAllowed true, .resultSuccess false] h
          (by simp [Call.IsWrite]) (by simp) rfl
    · exact @phases_spec _ _ _ [.isActionAllowed true] h (by simp [Call.IsWrite]) (by simp) rfl

end SWorkerAction

open SWorkerAction

/-! ## The row -/

/-- A row before a run: not fetched, no result, read with count `k`. -/
structure Open (e : Execution) (k : Nat) : Prop where
  fetched : e.fetchedTimestamp = none
  resultTimestamp : e.resultTimestamp = none
  retries : e.retries = k

theorem write_answers {now : Nat} {cs : List Call} (h : ∀ c ∈ cs, ¬ c.IsWrite) (e : Execution) :
    cs.foldl (fun e c => c.write now e) e = e := by
  induction cs with
  | nil => rfl
  | cons c cs ih =>
    rw [List.foldl_cons]
    have hc : c.write now e = e := by
      cases c with
      | setResult r => exact absurd trivial (h _ List.mem_cons_self)
      | setRetry sec => exact absurd trivial (h _ List.mem_cons_self)
      | isActionAllowed b => rfl
      | resultSuccess b => rfl
      | doAction b => rfl
    rw [hc]
    exact ih fun c hm => h c (List.mem_cons_of_mem _ hm)

/-- The row after a run that ended with the statement `w`. -/
theorem runOnce_row {a : SWorkerAction} {r : Run} {e : Execution} {k : Nat} {answers : List Call}
    {w : Call} (he : Open e k) (hs : a.execute k r.outcomes = answers ++ [w])
    (hn : ∀ c ∈ answers, ¬ c.IsWrite) :
    (runOnce a r e).2 =
      w.write r.now { e with consumed := true, fetchedTimestamp := some r.now } := by
  have hf : (Update.setFetched r.now).apply e =
      { e with consumed := true, fetchedTimestamp := some r.now } := by
    simp [Update.apply, Update.setFetched, he.fetched]
  rw [runOnce, he.retries, hs, List.foldl_append, hf, write_answers hn]
  rfl

theorem runOnce_calls {a : SWorkerAction} {r : Run} {e : Execution} {k : Nat} {answers : List Call}
    {w : Call} (he : Open e k) (hs : a.execute k r.outcomes = answers ++ [w]) :
    (runOnce a r e).1 = answers.map (k, ·) ++ [(k, w)] := by
  rw [runOnce, he.retries, hs, List.map_append]
  rfl

/-! ## All runs -/

/-- The calls made until the result, and the row then. -/
structure Finished (p : List (Nat × Call) × Execution) : Prop where
  ends : ∃ before k r, p.1 = before ++ [(k, .setResult r)] ∧
    (∀ x ∈ before, ∀ r', x.2 ≠ .setResult r') ∧ p.2.result = some r ∧
    (r = .success → ∃ k', (k', .resultSuccess true) ∈ before) ∧
    ((∃ k', (k', .isActionAllowed false) ∈ before) → r ≠ .success)
  closed : p.2.resultTimestamp.isSome = true
  even : ∀ k b, (k, .doAction b) ∈ p.1 → k % 2 = 0

theorem doActions_append (xs ys : List (Nat × Call)) :
    doActions (xs ++ ys) = doActions xs + doActions ys := List.countP_append

theorem doActions_map (k : Nat) (cs : List Call) :
    doActions (cs.map (k, ·)) = cs.countP Call.isDoAction := by
  rw [doActions, List.countP_map]
  rfl

/-- No `do_action` in the answers of a run at an odd count. -/
theorem even_of_mem {k k' : Nat} {b : Bool} {answers : List Call} {w : Call} (hw : w.IsWrite)
    (hc : answers.countP Call.isDoAction ≤ 1 - k % 2)
    (hm : (k', Call.doAction b) ∈ answers.map (k, ·) ++ [(k, w)]) : k' % 2 = 0 := by
  rcases List.mem_append.1 hm with hm | hm
  · obtain ⟨c, hc', he⟩ := List.mem_map.1 hm
    cases he
    have hpos : 0 < answers.countP Call.isDoAction := List.countP_pos_iff.2 ⟨_, hc', rfl⟩
    omega
  · cases List.mem_singleton.1 hm
    exact hw.elim

/-- The last run. -/
theorem runs_stop {a : SWorkerAction} {env : Nat → Run} {n k : Nat} {e : Execution}
    {answers : List Call} {r : ActionResult} (he : Open e k)
    (hs : a.execute k (env 0).outcomes = answers ++ [.setResult r])
    (hn : ∀ c ∈ answers, ¬ c.IsWrite) (hc : answers.countP Call.isDoAction ≤ 1 - k % 2)
    (hv : a.Verdict k answers (.setResult r)) :
    Finished (runs a env (n + 1) e) ∧ doActions (runs a env (n + 1) e).1 ≤ 1 - k % 2 := by
  have hrow := runOnce_row he hs hn
  have hcalls := runOnce_calls he hs
  have hdone : (runOnce a (env 0) e).2.resultTimestamp = some (env 0).now ∧
      (runOnce a (env 0) e).2.result = some r := by
    rw [hrow]
    exact ⟨rfl, rfl⟩
  have hend : runs a env (n + 1) e = runOnce a (env 0) e := by
    rw [runs, he.resultTimestamp, if_neg (by simp)]
    cases n with
    | zero => simp [runs]
    | succ n => simp [runs, hdone.1]
  rw [hend]
  refine ⟨⟨⟨answers.map (k, ·), k, r, hcalls, ?_, hdone.2, ?_, ?_⟩, ?_, ?_⟩, ?_⟩
  · intro x hx
    obtain ⟨c, hc', rfl⟩ := List.mem_map.1 hx
    rintro r' rfl
    exact hn _ hc' trivial
  · rintro rfl
    exact ⟨k, List.mem_map.2 ⟨_, hv.success rfl, rfl⟩⟩
  · rintro ⟨k', hm⟩ rfl
    obtain ⟨c, hc', he'⟩ := List.mem_map.1 hm
    cases he'
    cases hv.denied hc'
  · rw [hdone.1]
    rfl
  · rw [hcalls]
    exact fun k' b hm => even_of_mem hv.write hc hm
  · rw [hcalls, doActions_append, doActions_map]
    exact hc

/-- A run before the last. -/
theorem runs_retry {a : SWorkerAction} {env : Nat → Run} {n k : Nat} {e : Execution}
    {answers : List Call} {sec : Int} (he : Open e k)
    (hs : a.execute k (env 0).outcomes = answers ++ [.setRetry sec])
    (hn : ∀ c ∈ answers, ¬ c.IsWrite) (hc : answers.countP Call.isDoAction ≤ 1 - k % 2)
    (hv : a.Verdict k answers (.setRetry sec))
    (hrest : ∀ e', Open e' (k + 1) → Finished (runs a (fun i => env (i + 1)) n e') ∧
      doActions (runs a (fun i => env (i + 1)) n e').1 ≤ (a.left (k + 1) + 1 - (k + 1) % 2) / 2) :
    Finished (runs a env (n + 1) e) ∧
      doActions (runs a env (n + 1) e).1 ≤ (a.left k + 1 - k % 2) / 2 := by
  have hcalls := runOnce_calls he hs
  have hopen : Open (runOnce a (env 0) e).2 (k + 1) := by
    rw [runOnce_row he hs hn]
    refine ⟨rfl, he.resultTimestamp, ?_⟩
    rw [← he.retries]
    rfl
  have hend : runs a env (n + 1) e = ((runOnce a (env 0) e).1 ++
      (runs a (fun i => env (i + 1)) n (runOnce a (env 0) e).2).1,
      (runs a (fun i => env (i + 1)) n (runOnce a (env 0) e).2).2) := by
    rw [runs, he.resultTimestamp, if_neg (by simp)]
  have hleft := (hv.retry sec rfl).2
  obtain ⟨⟨⟨before, k', r, htr, hnone, hres, hsucc, hden⟩, hclosed, heven⟩, hacts⟩ :=
    hrest _ hopen
  rw [hend, hcalls]
  refine ⟨⟨⟨answers.map (k, ·) ++ [(k, .setRetry sec)] ++ before, k', r, ?_, ?_, hres, ?_, ?_⟩,
    hclosed, ?_⟩, ?_⟩
  · simp only [htr, List.append_assoc]
  · intro x hx
    rcases List.mem_append.1 hx with hx | hx
    · rcases List.mem_append.1 hx with hx | hx
      · obtain ⟨c, hc', rfl⟩ := List.mem_map.1 hx
        rintro r' rfl
        exact hn _ hc' trivial
      · rw [List.mem_singleton.1 hx]
        nofun
    · exact hnone x hx
  · intro h
    obtain ⟨k'', hm⟩ := hsucc h
    exact ⟨k'', List.mem_append_right _ hm⟩
  · rintro ⟨k'', hm⟩
    rcases List.mem_append.1 hm with hm | hm
    · rcases List.mem_append.1 hm with hm | hm
      · obtain ⟨c, hc', he'⟩ := List.mem_map.1 hm
        cases he'
        cases hv.denied hc'
      · cases List.mem_singleton.1 hm
    · exact hden ⟨k'', hm⟩
  · intro k'' b hm
    rcases List.mem_append.1 hm with hm | hm
    · exact even_of_mem hv.write hc hm
    · exact heven k'' b hm
  · rw [doActions_append, doActions_append, doActions_map]
    have hw : doActions [(k, Call.setRetry sec)] = 0 := rfl
    omega

theorem runs_spec {a : SWorkerAction} : ∀ (n : Nat) (env : Nat → Run) {e : Execution} {k : Nat},
    Open e k → a.Live k → a.left k ≤ n → Finished (runs a env n e) ∧
      doActions (runs a env n e).1 ≤ (a.left k + 1 - k % 2) / 2 := by
  intro n
  induction n with
  | zero =>
    intro env e k _ hl hn
    have := left_pos hl
    omega
  | succ n ih =>
    intro env e k he hl hn
    obtain ⟨answers, w, hs, hnw, hc, hv⟩ := @execute_spec a k (env 0).outcomes hl
    have hpos := left_pos hl
    cases w with
    | setResult r =>
      obtain ⟨hf, hd⟩ := runs_stop (n := n) he hs hnw hc hv
      exact ⟨hf, by omega⟩
    | setRetry sec =>
      obtain ⟨hl', hleft⟩ := hv.retry sec rfl
      exact runs_retry he hs hnw hc hv fun e' he' => ih _ he' hl' (by omega)
    | isActionAllowed b => exact hv.write.elim
    | resultSuccess b => exact hv.write.elim
    | doAction b => exact hv.write.elim

/-- Once there is a result, further runs do nothing. -/
theorem runs_more {a : SWorkerAction} : ∀ {n m : Nat} {env : Nat → Run} {e : Execution},
    n ≤ m → (runs a env n e).2.resultTimestamp.isSome = true → runs a env m e = runs a env n e := by
  intro n
  induction n with
  | zero =>
    intro m env e _ h
    cases m with
    | zero => rfl
    | succ m =>
      rw [runs, runs]
      exact if_pos h
  | succ n ih =>
    intro m env e hm h
    obtain ⟨m, rfl⟩ : ∃ m', m = m' + 1 := ⟨m - 1, by omega⟩
    rw [runs] at h ⊢
    rw [runs]
    split
    · rfl
    · rename_i hr
      rw [if_neg hr] at h
      rw [ih (by omega) h]

/-- The most runs a row can take. -/
def SWorkerAction.maxRuns (a : SWorkerAction) : Nat := (max 1 (2 * a.tryLimit)).toNat

/-- **The set/check/retry protocol ends** within `max 1 (2 * try_limit)` runs, with one
`set_result` as the last call of all. -/
theorem runs_finish (a : SWorkerAction) (env : Nat → Run) (time : Nat) :
    Finished (runs a env a.maxRuns (.planned time)) ∧
      (∀ m ≥ a.maxRuns, runs a env m (.planned time) = runs a env a.maxRuns (.planned time)) ∧
      (doActions (runs a env a.maxRuns (.planned time)).1 : Int) ≤ max 1 a.tryLimit := by
  have hlive : a.Live 0 := ⟨fun _ => rfl, fun h => by
    have : 1 < a.tryLimit := by
      by_contra hle
      exact h (.inr (by omega))
    omega⟩
  have hleft : a.left 0 ≤ a.maxRuns := by
    unfold left maxRuns
    split <;> omega
  obtain ⟨hf, hd⟩ := runs_spec a.maxRuns env (e := .planned time) ⟨rfl, rfl, rfl⟩ hlive hleft
  refine ⟨hf, fun m hm => runs_more hm hf.closed, ?_⟩
  unfold left at hd
  split at hd <;> omega

end Scheduler
