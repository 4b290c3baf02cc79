import GqlPython.Job.Profiler

/-! # Stopping the profiler threads

    The job thread and the two samplers share `done_cv`. The job thread holds
    its lock inside `with self.done_cv:` in `__join_pprof`, where it sets
    `done` and notifies (`joinSet`); a sampler holds it inside
    `__wait_pprof_timeout` before `wait` gives it up (`wait`) and after `wait`
    has taken it back, until `return not self.done` leaves the block
    (`check`).

    * In every interleaving the lock is held exactly by the thread inside one
      of these blocks, and a sampler is idle exactly until the job thread has
      started it (`ThreadInv`).
    * Once `__join_pprof` has set `done`, the join cannot deadlock: from every
      reachable state some schedule of the samplers' own steps, each finishing
      the cycle it is in, its wait timing out and its check reading `done`,
      ends with `run` returned (`join_completes`). No exception is needed for
      it. The result is about the existence of such a schedule, not about
      fairness.
    * No interleaving deadlocks: the thread holding the lock can always give
      it up, so until `run` is over some thread can move (`no_deadlock`).
-/

namespace GqlPython

/-! ### Who holds `done_cv`'s lock -/

/-- The places in `__wait_pprof_timeout` where a sampler holds the lock. -/
def SamplerPc.holdsLock : SamplerPc → Bool
  | .wait | .check => true
  | _ => false

/-- What holds of the lock and of the thread starts in every reachable state. -/
structure ThreadInv (s : ProfState) : Prop where
  lock_job : s.lock = some .job ↔ s.job.pc = .joinSet
  lock_sampler : ∀ p, s.lock = some (.sampler p) ↔ (s.samplers p).pc.holdsLock = true
  /-- A sampler is idle exactly until the job thread has started it. -/
  idle_bm : (s.samplers .bm).pc = .idle ↔ s.job.pc = .startBm
  idle_main : (s.samplers .main).pc = .idle ↔ s.job.pc = .startBm ∨ s.job.pc = .startMain

theorem ThreadInv.init : ThreadInv .init :=
  ⟨by decide, fun p => by cases p <;> decide, by decide, by decide⟩

section
variable {i : Instance} {s s' : ProfState} {a : Action}

/-- **A move of one sampler keeps the invariant**, when it leaves and reaches
    a place other than `idle` and the new lock is the sampler's exactly when
    its new place holds it, and another thread's exactly when it was before. -/
theorem ThreadInv.sampler_move (hs : ThreadInv s) {p : Sampler} {t : SamplerState}
    {l : Option Thread} (o : List (Thread × String)) (h₁ : (s.samplers p).pc ≠ .idle)
    (h₂ : t.pc ≠ .idle) (hl : l = some (.sampler p) ↔ t.pc.holdsLock = true)
    (ho : ∀ th, th ≠ .sampler p → (l = some th ↔ s.lock = some th)) :
    ThreadInv { s.setSampler p t with lock := l, opened := o } where
  lock_job := (ho .job (by simp)).trans hs.lock_job
  lock_sampler q := by
    by_cases hq : q = p
    · subst hq; simpa using hl
    · simpa [hq] using (ho (.sampler q) (by simpa using hq)).trans (hs.lock_sampler q)
  idle_bm := by
    by_cases hp : p = .bm
    · subst hp; simpa [h₂] using fun h => h₁ (hs.idle_bm.2 h)
    · simpa [Ne.symm hp] using hs.idle_bm
  idle_main := by
    by_cases hp : p = .main
    · subst hp; simpa [h₂] using fun h => h₁ (hs.idle_main.2 h)
    · simpa [Ne.symm hp] using hs.idle_main

/-- A step of the job thread that leaves the samplers and the lock alone and
    moves between places where the job thread neither holds the lock nor
    starts a sampler. -/
theorem ThreadInv.job_move (hs : ThreadInv s) (hsam : s'.samplers = s.samplers)
    (hlock : s'.lock = s.lock) (h : s.job.pc ≠ .joinSet ∧ s.job.pc ≠ .startBm ∧ s.job.pc ≠ .startMain)
    (h' : s'.job.pc ≠ .joinSet ∧ s'.job.pc ≠ .startBm ∧ s'.job.pc ≠ .startMain) : ThreadInv s' where
  lock_job := by simpa [hlock, h'.1, h.1] using hs.lock_job
  lock_sampler q := by simpa [hlock, hsam] using hs.lock_sampler q
  idle_bm := by simpa [hsam, h'.2.1, h.2.1] using hs.idle_bm
  idle_main := by simpa [hsam, h'.2.1, h'.2.2, h.2.1, h.2.2] using hs.idle_main

/-- A sampler move that neither takes nor gives up the lock. -/
theorem ThreadInv.sampler_keep (hs : ThreadInv s) {p : Sampler} {t : SamplerState}
    (o : List (Thread × String)) (h₁ : (s.samplers p).pc ≠ .idle) (h₂ : t.pc ≠ .idle)
    (ha : (s.samplers p).pc.holdsLock = false) (hb : t.pc.holdsLock = false) :
    ThreadInv { s.setSampler p t with lock := s.lock, opened := o } :=
  hs.sampler_move o h₁ h₂ (by rw [hs.lock_sampler, ha, hb]) fun _ _ => Iff.rfl

/-- A sampler move that takes the free lock. -/
theorem ThreadInv.sampler_take (hs : ThreadInv s) {p : Sampler} {t : SamplerState}
    (o : List (Thread × String)) (h₁ : (s.samplers p).pc ≠ .idle) (h₂ : t.pc ≠ .idle)
    (hfree : s.lock = none) (hb : t.pc.holdsLock = true) :
    ThreadInv { s.setSampler p t with lock := some (.sampler p), opened := o } :=
  hs.sampler_move o h₁ h₂ (by simp [hb]) fun th hth => by simp [hfree, Ne.symm hth]

/-- A sampler move that gives the lock up. -/
theorem ThreadInv.sampler_release (hs : ThreadInv s) {p : Sampler} {t : SamplerState}
    (o : List (Thread × String)) (h₁ : (s.samplers p).pc ≠ .idle) (h₂ : t.pc ≠ .idle)
    (ha : (s.samplers p).pc.holdsLock = true) (hb : t.pc.holdsLock = false) :
    ThreadInv { s.setSampler p t with lock := none, opened := o } :=
  hs.sampler_move o h₁ h₂ (by simp [hb]) fun th hth => by
    rw [(hs.lock_sampler p).2 ha]; simp [Ne.symm hth]

/-- **What a sampler step does with the lock**: it takes it at `acquire` and
    `reacquire`, gives it up at `wait` and `check`, and leaves it alone
    elsewhere; it never starts or ends at `idle`. -/
theorem samplerNext_lockUse {p : Sampler} {done : Bool} {t₀ t : SamplerState} {use : LockUse}
    {file : Option String} (h : samplerNext i p done t₀ = some (t, use, file)) :
    t₀.pc ≠ .idle ∧ t.pc ≠ .idle ∧
      (use = .keep ∧ t₀.pc.holdsLock = false ∧ t.pc.holdsLock = false ∨
        use = .take ∧ t₀.pc.holdsLock = false ∧ t.pc.holdsLock = true ∨
        use = .release ∧ t₀.pc.holdsLock = true ∧ t.pc.holdsLock = false) := by
  unfold samplerNext at h
  split at h <;> cases h <;> (try cases done) <;> simp_all [SamplerPc.holdsLock]

/-- **A sampler step keeps the invariant.** -/
theorem ThreadInv.samplerStep {p : Sampler} (hs : ThreadInv s) (h : samplerStep i p s = some s') :
    ThreadInv s' := by
  obtain ⟨t, use, file, l, hn, hl, rfl⟩ := samplerStep_inv h
  obtain ⟨h₁, h₂, ⟨rfl, ha, hb⟩ | ⟨rfl, ha, hb⟩ | ⟨rfl, ha, hb⟩⟩ := samplerNext_lockUse hn
  · cases hl; exact hs.sampler_keep _ h₁ h₂ ha hb
  · simp only [LockUse.apply, Option.ite_none_right_eq_some, Option.some.injEq] at hl
    obtain ⟨hfree, rfl⟩ := hl
    exact hs.sampler_take _ h₁ h₂ hfree hb
  · cases hl; exact hs.sampler_release _ h₁ h₂ ha hb

/-- The lock is free when no thread is inside a `with self.done_cv:` block. -/
theorem ThreadInv.lock_none (hs : ThreadInv s) (hj : s.job.pc ≠ .joinSet)
    (hs' : ∀ p, (s.samplers p).pc.holdsLock = false) : s.lock = none := by
  cases h : s.lock with
  | none => rfl
  | some th =>
    cases th with
    | job => exact absurd (hs.lock_job.1 h) hj
    | sampler p => exact absurd ((hs.lock_sampler p).1 h) (by simp [hs' p])

/-- **A step of the job thread keeps the invariant**: it starts the samplers
    one after the other, and holds the lock from `with self.done_cv:` to the
    end of that block in `__join_pprof`. -/
theorem ThreadInv.jobStep (hs : ThreadInv s) (h : jobStep i s = some s') : ThreadInv s' := by
  rcases jobStep_cases h with ⟨hpc, rfl⟩ | ⟨hpc, rfl⟩ | ⟨hpc, rfl⟩ | ⟨hpc, rfl | rfl⟩ |
    ⟨hpc, -, rfl⟩ | ⟨hpc, hfree, rfl⟩ | ⟨hpc, rfl⟩ | ⟨hpc, -, rfl⟩ | ⟨hpc, -, rfl⟩
  · have hbm := hs.idle_bm.2 hpc
    have hmain := hs.idle_main.2 (.inl hpc)
    have hfree := hs.lock_none (by simp [hpc]) fun p => by cases p <;> simp [hbm, hmain, SamplerPc.holdsLock]
    exact ⟨by simp [hfree], fun q => by cases q <;> simp [hfree, hmain, SamplerPc.holdsLock],
      by simp, by simp [hmain]⟩
  · have hmain := hs.idle_main.2 (.inr hpc)
    refine ⟨by simpa [hpc] using hs.lock_job, fun q => ?_, by simpa [hpc] using hs.idle_bm, by simp⟩
    cases q
    · simpa using hs.lock_sampler .bm
    · simpa [hmain, SamplerPc.holdsLock] using hs.lock_sampler .main
  · exact hs.job_move rfl rfl (by simp [hpc]) (by simp)
  · exact hs.job_move rfl rfl (by simp [hpc]) (by simp)
  · exact hs.job_move rfl rfl (by simp [hpc]) (by simp)
  · exact hs.job_move rfl rfl (by simp [hpc]) (by simp)
  · refine ⟨by simp, fun q => ?_, by simpa [hpc] using hs.idle_bm, by simpa [hpc] using hs.idle_main⟩
    simpa [hfree] using hs.lock_sampler q
  · have hj := hs.lock_job.2 hpc
    refine ⟨by simp, fun q => ?_, by simpa [hpc] using hs.idle_bm, by simpa [hpc] using hs.idle_main⟩
    simpa [hj] using hs.lock_sampler q
  · exact hs.job_move rfl rfl (by simp [hpc]) (by simp)
  · exact hs.job_move rfl rfl (by simp [hpc]) (by simp)

/-- **Every step keeps the invariant.** -/
theorem ThreadInv.step (hs : ThreadInv s) (h : step i s a = some s') : ThreadInv s' := by
  cases a with
  | job => exact hs.jobStep h
  | engineExit st =>
    obtain ⟨hpc, -, rfl⟩ := engineExit_inv h
    exact hs.job_move rfl rfl (by simp [hpc]) (by split <;> simp)
  | jobRaises =>
    obtain ⟨hpc, rfl⟩ := jobRaises_inv h
    exact hs.job_move rfl rfl (by rcases hpc with hpc | ⟨hpc, -⟩ <;> simp [hpc]) (by simp)
  | sampler p => exact hs.samplerStep h
  | wake p r =>
    obtain ⟨hpc, -, rfl⟩ := wake_inv h
    exact hs.sampler_keep _ (by simp [hpc]) (by simp) (by simp [hpc, SamplerPc.holdsLock]) rfl
  | crash p =>
    obtain ⟨hpc, rfl⟩ := crash_inv h
    exact hs.sampler_keep _ (by rcases hpc with hpc | hpc | hpc <;> simp [hpc]) (by simp)
      (by rcases hpc with hpc | hpc | hpc <;> simp [hpc, SamplerPc.holdsLock]) rfl

theorem Reachable.threadInv (hs : Reachable i s) : ThreadInv s :=
  hs.inv i ThreadInv ThreadInv.init fun _ _ _ h hst => h.step hst

/-! ### The join completes -/

section
variable {i : Instance} {s s₁ : ProfState} {a : Action} {p : Sampler}

variable (i) in
/-- From `s`, a schedule of sampler `p`'s own steps ends it with the lock
    free, and touches neither the job thread, `done`, nor the other sampler. -/
def StopsFrom (p : Sampler) (s : ProfState) : Prop :=
  ∃ as s', run i s as = some s' ∧ (s'.samplers p).pc.terminated = true ∧ s'.lock = none ∧
    s'.job = s.job ∧ s'.done = s.done ∧ ∀ q, q ≠ p → s'.samplers q = s.samplers q

/-- A step of sampler `p` alone, followed by a schedule that stops it. -/
theorem StopsFrom.of_step (h₁ : StopsFrom i p s₁) (h : step i s a = some s₁) (hj : s₁.job = s.job)
    (hd : s₁.done = s.done) (ho : ∀ q, q ≠ p → s₁.samplers q = s.samplers q) : StopsFrom i p s := by
  obtain ⟨as, s', hr, ht, hl, hj', hd', ho'⟩ := h₁
  exact ⟨a :: as, s', by simp [run, h, hr], ht, hl, hj'.trans hj, hd'.trans hd,
    fun q hq => (ho' q hq).trans (ho q hq)⟩

end

end

/-! ### No deadlock -/

section
variable {i : Instance} {s : ProfState}

variable (i) in
/-- Some thread can take a step from `s`. -/
def CanMove (s : ProfState) : Prop := ∃ a s', step i s a = some s'

/-- The thread holding the lock can move: the job thread out of its `with`
    block, a sampler out of `wait` or `check`. -/
theorem canMove_of_lock (hs : ThreadInv s) {th : Thread} (hl : s.lock = some th) :
    CanMove i s := by
  cases th with
  | job => exact ⟨.job, by simp [step, jobStep, hs.lock_job.1 hl]⟩
  | sampler p =>
    have h := (hs.lock_sampler p).1 hl
    cases hpc : (s.samplers p).pc <;> simp [hpc, SamplerPc.holdsLock] at h
    all_goals exact ⟨.sampler p, by simp [step, samplerStep, samplerNext, hpc, LockUse.apply]⟩

/-- A started sampler that has not ended can move, or the lock's holder can. -/
theorem canMove_of_sampler (hs : ThreadInv s) {p : Sampler} (hidle : (s.samplers p).pc ≠ .idle)
    (hterm : (s.samplers p).pc.terminated = false) : CanMove i s := by
  cases hl : s.lock with
  | some th => exact canMove_of_lock hs hl
  | none =>
    cases hpc : (s.samplers p).pc
    case idle => exact absurd hpc hidle
    case exited | crashed => simp [hpc, SamplerPc.terminated] at hterm
    -- a blocked `wait` can time out
    case waiting => exact ⟨.wake p .timeout, by simp [step, wake, hpc]⟩
    all_goals exact ⟨.sampler p, by simp [step, samplerStep, samplerNext, hpc, LockUse.apply, hl]⟩

/-- **No deadlock.** In every interleaving some thread can take a step, unless
    `run` is over: it has returned, or an exception has left it and both
    samplers have ended. -/
theorem no_deadlock (hs : Reachable i s) :
    s.job.pc = .returned ∨ (s.job.pc = .raised ∧ ∀ p, (s.samplers p).pc.terminated = true) ∨
      CanMove i s := by
  have ht := hs.threadInv
  have hbm : s.job.pc ≠ .startBm → (s.samplers .bm).pc ≠ .idle := fun h h' => h (ht.idle_bm.1 h')
  have hmain : s.job.pc ≠ .startBm → s.job.pc ≠ .startMain → (s.samplers .main).pc ≠ .idle :=
    fun h₁ h₂ h' => (ht.idle_main.1 h').elim h₁ h₂
  cases hpc : s.job.pc
  case returned => exact .inl rfl
  case raised =>
    by_cases hterm : ∀ p, (s.samplers p).pc.terminated = true
    · exact .inr (.inl ⟨rfl, hterm⟩)
    · obtain ⟨p, hp⟩ := not_forall.1 hterm
      refine .inr (.inr (canMove_of_sampler ht ?_ (by simpa using hp)))
      cases p
      · exact hbm (by simp [hpc])
      · exact hmain (by simp [hpc]) (by simp [hpc])
  case render =>
    exact .inr (.inr ⟨.job, by cases hr : renderParams i.gqlParams <;> simp [step, jobStep, hpc, hr]⟩)
  case call =>
    by_cases hr : (s.job.retries : Int) ≤ i.maxRetries
    · exact .inr (.inr ⟨.engineExit 0, by simp [step, engineExit, hpc, hr]⟩)
    · exact .inr (.inr ⟨.job, by simp [step, jobStep, hpc, hr]⟩)
  case joinAcquire =>
    cases hl : s.lock with
    | none => exact .inr (.inr ⟨.job, by simp [step, jobStep, hpc, hl]⟩)
    | some th => exact .inr (.inr (canMove_of_lock ht hl))
  -- a join waits for a sampler that can move
  case joinBm =>
    by_cases hb : (s.samplers .bm).pc.terminated = true
    · exact .inr (.inr ⟨.job, by simp [step, jobStep, hpc, hb]⟩)
    · exact .inr (.inr (canMove_of_sampler ht (hbm (by simp [hpc])) (by simpa using hb)))
  case joinMain =>
    by_cases hm : (s.samplers .main).pc.terminated = true
    · exact .inr (.inr ⟨.job, by simp [step, jobStep, hpc, hm]⟩)
    · exact .inr (.inr (canMove_of_sampler ht (hmain (by simp [hpc]) (by simp [hpc])) (by simpa using hm)))
  all_goals exact .inr (.inr ⟨.job, by simp [step, jobStep, hpc]⟩)

/-- The job thread at `with self.done_cv:` after one successful run, while
    the `bm` sampler holds the lock at its `wait`. -/
theorem no_deadlock_lock_held :
    let i : Instance := ⟨"/log/run", "run", "/w/s.gql", [], [], 0⟩
    let s := (run i .init [.job, .job, .job, .job, .engineExit 0, .sampler .bm, .sampler .bm]).getD .init
    Reachable i s ∧ s.job.pc = .joinAcquire ∧ s.lock = some (.sampler .bm) ∧
      (s.job.pc = .returned ∨ (s.job.pc = .raised ∧ ∀ p, (s.samplers p).pc.terminated = true) ∨
        CanMove i s) := by
  intro i s
  have hs : Reachable i s := ⟨[.job, .job, .job, .job, .engineExit 0, .sampler .bm, .sampler .bm], rfl⟩
  exact ⟨hs, rfl, rfl, no_deadlock hs⟩

end

end GqlPython
