import GqlPython.Job.Paths

/-! # The profiler threads of a job

    `_Instance.run` starts two sampler threads (`__start_pprof`), opens the
    engine log, renders the parameters, runs the retry loop, and then stops the
    samplers (`__join_pprof`): under the condition variable `done_cv` it sets
    `done` and notifies, then joins both threads. Each sampler runs `__pprof`:
    it opens `log_prefix + 'pprof_log.txt'` and, while `__wait_pprof_timeout()`
    (a `done_cv.wait(30)` followed by `not self.done`, under the lock) is true,
    fetches a CPU and a heap profile into sequence-numbered files and sleeps.

    The three threads are modelled as one transition system: a state holds each
    thread's program counter and locals, `done`, the owner of `done_cv`'s lock,
    and the files opened for writing; `step` performs one atomic action of one
    thread. The environment's choices are actions of their own: the engine's
    exit status, an exception in the job thread (`open` or `subprocess.call`
    raising), a sampler's exception, and how a wait returns (notified, timed
    out, or spuriously).

    Results, for every interleaving:

    * after `done` is set, no sampler starts another fetch cycle
      (`started_le_of_done`), and `__join_pprof` returns only once both samplers
      have left `__pprof` (`returned_samplers_terminated`);
    * nothing in `run` stops the samplers when an exception leaves it: `done`
      stays unset and the samplers go on fetching (`samplers_outlive_raise`);
    * both samplers open the same profiler log, which is the only file two
      threads of a job open (`opened_by_both_samplers`).
-/

namespace GqlPython

/-! ### State -/

/-- The threads of one job. -/
inductive Thread
  | job
  | sampler (p : Sampler)
  deriving DecidableEq, Repr

/-- Where a sampler thread is in `__pprof` and `__wait_pprof_timeout`. -/
inductive SamplerPc
  /-- Not started yet. -/
  | idle
  /-- `with open(log_path, 'w') as log_fd`. -/
  | openLog
  /-- `with self.done_cv:` entering `__wait_pprof_timeout`. -/
  | acquire
  /-- `self.done_cv.wait(30)` while holding the lock. -/
  | wait
  /-- Blocked in `wait`, the lock released. -/
  | waiting
  /-- Woken, taking the lock back. -/
  | reacquire
  /-- `return not self.done`, still holding the lock. -/
  | check
  /-- Writing `f'{prefix}_cpu.{seq}.pprof'`. -/
  | fetchCpu
  /-- Writing `f'{prefix}_heap.{seq}.pprof'`. -/
  | fetchHeap
  /-- `time.sleep(30); seq += 1`. -/
  | sleep
  /-- Left the loop; the `with` closed the log. -/
  | exited
  /-- Ended by an exception. -/
  | crashed
  deriving DecidableEq, Repr

/-- The thread has ended, so `join` on it returns. -/
def SamplerPc.terminated : SamplerPc → Bool
  | .exited | .crashed => true
  | _ => false

/-- Between a check that returned true and the `seq += 1` ending that cycle. -/
def SamplerPc.inCycle : SamplerPc → Bool
  | .fetchCpu | .fetchHeap | .sleep => true
  | _ => false

/-- A sampler thread. -/
structure SamplerState where
  pc : SamplerPc
  /-- The local `seq` of `__pprof`: the cycles completed. -/
  seq : Nat
  /-- A `notify_all` reached the thread in its current wait. -/
  notified : Bool
  deriving DecidableEq, Repr

/-- The fetch cycles the sampler has begun: those completed, and the one it is
    in, if any. -/
def SamplerState.started (t : SamplerState) : Nat := t.seq + if t.pc.inCycle then 1 else 0

/-- `notify_all` reaches a thread that is waiting. -/
def SamplerState.notify (t : SamplerState) : SamplerState :=
  if t.pc = .waiting then { t with notified := true } else t

/-- Where the job thread is in `_Instance.run` and `__join_pprof`. -/
inductive JobPc
  /-- `self.bm_pprof_thread.start()`. -/
  | startBm
  /-- `self.main_pprof_thread.start()`. -/
  | startMain
  /-- `log_out = open(log_path, 'wb')`. -/
  | openLog
  /-- `gql_params = [f'--{k}={v}' for k, v in self.gql_params]`. -/
  | render
  /-- The `while retries <= self.max_retries` loop. -/
  | call
  /-- `with self.done_cv:` in `__join_pprof`. -/
  | joinAcquire
  /-- `self.done = True; self.done_cv.notify_all()`, then the lock is released. -/
  | joinSet
  /-- `self.bm_pprof_thread.join()`. -/
  | joinBm
  /-- `self.main_pprof_thread.join()`. -/
  | joinMain
  /-- `run` has returned `self.status`. -/
  | returned
  /-- An exception has left `run`. -/
  | raised
  deriving DecidableEq, Repr

/-- The job thread. -/
structure JobState where
  pc : JobPc
  retries : Nat
  /-- `self.status`. -/
  status : Int
  deriving DecidableEq, Repr

/-- The state of one job's threads. -/
structure ProfState where
  job : JobState
  samplers : Sampler → SamplerState
  /-- `self.done`. -/
  done : Bool
  /-- The thread holding `done_cv`'s lock. -/
  lock : Option Thread
  /-- The files opened for writing, in order, with the thread that opened each. -/
  opened : List (Thread × String)

/-- The state when `run` is entered: `__init__` has set `done` to false and
    `status` to 0. -/
def ProfState.init : ProfState :=
  ⟨⟨.startBm, 0, 0⟩, fun _ => ⟨.idle, 0, false⟩, false, none, []⟩

namespace ProfState

/-- Replace sampler `p`'s state. -/
def setSampler (s : ProfState) (p : Sampler) (t : SamplerState) : ProfState :=
  { s with samplers := Function.update s.samplers p t }

/-- Move sampler `p` to `pc`. -/
def goSampler (s : ProfState) (p : Sampler) (pc : SamplerPc) : ProfState :=
  s.setSampler p { s.samplers p with pc := pc }

/-- Move the job thread to `pc`. -/
def goJob (s : ProfState) (pc : JobPc) : ProfState := { s with job := { s.job with pc := pc } }

/-- Thread `t` opens `path` for writing. -/
def openFile (s : ProfState) (t : Thread) (path : String) : ProfState :=
  { s with opened := s.opened ++ [(t, path)] }

@[simp] theorem setSampler_samplers (s : ProfState) (p q : Sampler) (t : SamplerState) :
    (s.setSampler p t).samplers q = if q = p then t else s.samplers q := by
  simp [setSampler, Function.update_apply]

@[simp] theorem setSampler_job (s : ProfState) (p : Sampler) (t : SamplerState) :
    (s.setSampler p t).job = s.job := rfl

@[simp] theorem setSampler_done (s : ProfState) (p : Sampler) (t : SamplerState) :
    (s.setSampler p t).done = s.done := rfl

@[simp] theorem setSampler_lock (s : ProfState) (p : Sampler) (t : SamplerState) :
    (s.setSampler p t).lock = s.lock := rfl

@[simp] theorem setSampler_opened (s : ProfState) (p : Sampler) (t : SamplerState) :
    (s.setSampler p t).opened = s.opened := rfl

@[simp] theorem goSampler_eq (s : ProfState) (p : Sampler) (pc : SamplerPc) :
    s.goSampler p pc = s.setSampler p { s.samplers p with pc := pc } := rfl

@[simp] theorem goJob_job (s : ProfState) (pc : JobPc) : (s.goJob pc).job = { s.job with pc := pc } := rfl
@[simp] theorem goJob_samplers (s : ProfState) (pc : JobPc) : (s.goJob pc).samplers = s.samplers := rfl
@[simp] theorem goJob_done (s : ProfState) (pc : JobPc) : (s.goJob pc).done = s.done := rfl
@[simp] theorem goJob_lock (s : ProfState) (pc : JobPc) : (s.goJob pc).lock = s.lock := rfl
@[simp] theorem goJob_opened (s : ProfState) (pc : JobPc) : (s.goJob pc).opened = s.opened := rfl

@[simp] theorem openFile_job (s : ProfState) (t : Thread) (path : String) :
    (s.openFile t path).job = s.job := rfl
@[simp] theorem openFile_samplers (s : ProfState) (t : Thread) (path : String) :
    (s.openFile t path).samplers = s.samplers := rfl
@[simp] theorem openFile_done (s : ProfState) (t : Thread) (path : String) :
    (s.openFile t path).done = s.done := rfl
@[simp] theorem openFile_lock (s : ProfState) (t : Thread) (path : String) :
    (s.openFile t path).lock = s.lock := rfl
@[simp] theorem openFile_opened (s : ProfState) (t : Thread) (path : String) :
    (s.openFile t path).opened = s.opened ++ [(t, path)] := rfl

end ProfState

/-! ### The files -/

/-- `log_path = self.log_prefix + 'pprof_log.txt'` in `__pprof`: the same for
    both samplers. -/
def pprofLogPath (i : Instance) : String := i.logPrefix ++ "pprof_log.txt"

/-- The `prefix` argument `__start_pprof` gives sampler `p`. -/
def samplerPrefix (i : Instance) (p : Sampler) : String := i.logPrefix ++ p.tag

/-- `f'{prefix}_cpu.{seq}.pprof'` and `f'{prefix}_heap.{seq}.pprof'`. -/
def profPath (pfx : String) (r : Resource) (seq : Nat) : String :=
  pfx ++ "_" ++ r.tag ++ "." ++ toString seq ++ ".pprof"

/-- `cpu_prof_path`. -/
def cpuProfPath (pfx : String) (seq : Nat) : String := profPath pfx .cpu seq

/-- `heap_prof_path`. -/
def heapProfPath (pfx : String) (seq : Nat) : String := profPath pfx .heap seq

theorem pprofLogPath_eq (i : Instance) : pprofLogPath i = JobFile.profilerLog.path i.logPrefix := rfl

theorem logPath_eq (i : Instance) : i.logPath = JobFile.engineLog.path i.logPrefix := rfl

theorem profPath_eq (i : Instance) (p : Sampler) (r : Resource) (n : Nat) :
    profPath (samplerPrefix i p) r n = (JobFile.snapshot p r n).path i.logPrefix := by
  simp [profPath, samplerPrefix, JobFile.path, JobFile.suffix, String.append_assoc]

/-! ### Actions -/

/-- What a step does with `done_cv`'s lock. -/
inductive LockUse
  | keep
  /-- Acquire it: the step waits while another thread holds it. -/
  | take
  | release
  deriving DecidableEq, Repr

/-- The lock after thread `th`'s step, or `none` when the step must wait. -/
def LockUse.apply (th : Thread) (lock : Option Thread) : LockUse → Option (Option Thread)
  | .keep => some lock
  | .take => if lock = none then some (some th) else none
  | .release => some none

/-- How a `wait` returns. -/
inductive WakeReason
  | notify
  | timeout
  | spurious
  deriving DecidableEq, Repr

/-- One atomic step of one thread, or a choice of the environment. -/
inductive Action
  /-- The job thread's next step. -/
  | job
  /-- `subprocess.call` returns this exit status. -/
  | engineExit (status : Int)
  /-- `open(log_path, 'wb')` or `subprocess.call` raises. -/
  | jobRaises
  /-- Sampler `p`'s next step. -/
  | sampler (p : Sampler)
  /-- Sampler `p`'s `wait` returns. -/
  | wake (p : Sampler) (r : WakeReason)
  /-- `open` or `subprocess.call` raises in sampler `p`. -/
  | crash (p : Sampler)
  deriving DecidableEq, Repr

section
variable (i : Instance)

/-- The job thread's steps that do not wait for the engine. -/
def jobStep (s : ProfState) : Option ProfState :=
  match s.job.pc with
  | .startBm => some ((s.goJob .startMain).goSampler .bm .openLog)
  | .startMain => some ((s.goJob .openLog).goSampler .main .openLog)
  | .openLog => some ((s.goJob .render).openFile .job i.logPath)
  | .render =>
    match renderParams i.gqlParams with
    | .ok _ => some (s.goJob .call)
    | .error _ => some (s.goJob .raised)
  | .call => if (s.job.retries : Int) ≤ i.maxRetries then none else some (s.goJob .joinAcquire)
  | .joinAcquire => if s.lock = none then some { s.goJob .joinSet with lock := some .job } else none
  | .joinSet =>
    some { s.goJob .joinBm with
      done := true, lock := none, samplers := fun p => (s.samplers p).notify }
  | .joinBm => if (s.samplers .bm).pc.terminated then some (s.goJob .joinMain) else none
  | .joinMain => if (s.samplers .main).pc.terminated then some (s.goJob .returned) else none
  | .returned | .raised => none

/-- One invocation of the engine in the retry loop, exiting with `st`. -/
def engineExit (st : Int) (s : ProfState) : Option ProfState :=
  if s.job.pc = .call ∧ (s.job.retries : Int) ≤ i.maxRetries then
    some { s with job :=
      if st = 0 then ⟨.joinAcquire, s.job.retries, st⟩ else ⟨.call, s.job.retries + 1, st⟩ }
  else none

/-- An exception from `open(log_path, 'wb')` or from `subprocess.call`. -/
def jobRaises (s : ProfState) : Option ProfState :=
  if s.job.pc = .openLog ∨ (s.job.pc = .call ∧ (s.job.retries : Int) ≤ i.maxRetries) then
    some (s.goJob .raised)
  else none

/-- A step of sampler `p` on its own locals, given the value of `done` it would
    read: the next locals, what it does with `done_cv`'s lock, and the file it
    opens for writing. -/
def samplerNext (p : Sampler) (done : Bool) (t : SamplerState) :
    Option (SamplerState × LockUse × Option String) :=
  match t.pc with
  | .openLog => some ({ t with pc := .acquire }, .keep, some (pprofLogPath i))
  | .acquire => some ({ t with pc := .wait }, .take, none)
  | .wait => some ({ t with pc := .waiting, notified := false }, .release, none)
  | .reacquire => some ({ t with pc := .check }, .take, none)
  | .check => some ({ t with pc := if done then .exited else .fetchCpu }, .release, none)
  | .fetchCpu => some ({ t with pc := .fetchHeap }, .keep, some (cpuProfPath (samplerPrefix i p) t.seq))
  | .fetchHeap => some ({ t with pc := .sleep }, .keep, some (heapProfPath (samplerPrefix i p) t.seq))
  | .sleep => some ({ t with pc := .acquire, seq := t.seq + 1 }, .keep, none)
  | .idle | .waiting | .exited | .crashed => none

/-- Sampler `p`'s next step: `samplerNext` applied to the shared state. -/
def samplerStep (p : Sampler) (s : ProfState) : Option ProfState := do
  let (t, use, file) ← samplerNext i p s.done (s.samplers p)
  let lock ← use.apply (.sampler p) s.lock
  return { s.setSampler p t with lock := lock, opened := s.opened ++ file.toList.map ((.sampler p), ·) }

/-- Sampler `p`'s `wait` returns; by notification only if one reached it. -/
def wake (p : Sampler) (r : WakeReason) (s : ProfState) : Option ProfState :=
  if (s.samplers p).pc = .waiting ∧ (r = .notify → (s.samplers p).notified = true) then
    some (s.goSampler p .reacquire)
  else none

/-- An exception ends sampler `p` while it opens or writes a file. -/
def crash (p : Sampler) (s : ProfState) : Option ProfState :=
  if (s.samplers p).pc = .openLog ∨ (s.samplers p).pc = .fetchCpu ∨
      (s.samplers p).pc = .fetchHeap then
    some (s.goSampler p .crashed)
  else none

/-- One step of the system. -/
def step (s : ProfState) : Action → Option ProfState
  | .job => jobStep i s
  | .engineExit st => engineExit i st s
  | .jobRaises => jobRaises i s
  | .sampler p => samplerStep i p s
  | .wake p r => wake p r s
  | .crash p => crash p s

/-- The steps of a list of actions, in order. -/
def run (s : ProfState) : List Action → Option ProfState
  | [] => some s
  | a :: as => (step i s a).bind fun s' => run s' as

/-- The states some interleaving reaches from the start of `run`. -/
def Reachable (s : ProfState) : Prop := ∃ as, run i .init as = some s

theorem run_append (s : ProfState) (as bs : List Action) :
    run i s (as ++ bs) = (run i s as).bind fun s' => run i s' bs := by
  induction as generalizing s with
  | nil => rfl
  | cons a as ih => simp only [List.cons_append, run]; cases step i s a <;> simp [ih]

/-- **Run lemma**: what every step preserves holds after every run. -/
theorem run_preserves (P : ProfState → Prop) (hstep : ∀ s a s', P s → step i s a = some s' → P s')
    {s s' : ProfState} {as : List Action} (hs : P s) (h : run i s as = some s') : P s' := by
  induction as generalizing s with
  | nil => cases h; exact hs
  | cons a as ih =>
    simp only [run] at h
    cases hst : step i s a with
    | none => simp [hst] at h
    | some s₁ => rw [hst, Option.some_bind] at h; exact ih (hstep s a s₁ hs hst) h

theorem Reachable.of_run {s s' : ProfState} {as : List Action} (hs : Reachable i s)
    (h : run i s as = some s') : Reachable i s' := by
  obtain ⟨bs, hb⟩ := hs
  exact ⟨bs ++ as, by rw [run_append, hb, Option.some_bind, h]⟩

/-- An invariant that holds initially and is kept by every step holds in every
    reachable state. -/
theorem Reachable.inv (P : ProfState → Prop) (h0 : P .init)
    (hstep : ∀ s a s', P s → step i s a = some s' → P s') {s : ProfState} (hs : Reachable i s) :
    P s :=
  let ⟨_, h⟩ := hs; run_preserves i P hstep h0 h

end

/-! ### `done` and the fetch cycles -/

section
variable {i : Instance} {s s' : ProfState} {a : Action}

/-- **What a job step does**, for each place the job thread can be. -/
theorem jobStep_cases (h : jobStep i s = some s') :
    s.job.pc = .startBm ∧ s' = (s.goJob .startMain).goSampler .bm .openLog ∨
    s.job.pc = .startMain ∧ s' = (s.goJob .openLog).goSampler .main .openLog ∨
    s.job.pc = .openLog ∧ s' = (s.goJob .render).openFile .job i.logPath ∨
    s.job.pc = .render ∧ (s' = s.goJob .call ∨ s' = s.goJob .raised) ∨
    s.job.pc = .call ∧ ¬ (s.job.retries : Int) ≤ i.maxRetries ∧ s' = s.goJob .joinAcquire ∨
    s.job.pc = .joinAcquire ∧ s.lock = none ∧ s' = { s.goJob .joinSet with lock := some .job } ∨
    s.job.pc = .joinSet ∧ s' = { s.goJob .joinBm with
      done := true, lock := none, samplers := fun p => (s.samplers p).notify } ∨
    s.job.pc = .joinBm ∧ (s.samplers .bm).pc.terminated = true ∧ s' = s.goJob .joinMain ∨
    s.job.pc = .joinMain ∧ (s.samplers .main).pc.terminated = true ∧ s' = s.goJob .returned := by
  unfold jobStep at h
  split at h <;> (try split at h) <;> cases h <;> simp_all

/-- **What an engine exit does**: at the loop's test with retries left, it
    records the status and leaves the loop on `0` or counts a retry. -/
theorem engineExit_inv {st : Int} (h : engineExit i st s = some s') :
    s.job.pc = .call ∧ (s.job.retries : Int) ≤ i.maxRetries ∧ s' = { s with job :=
      if st = 0 then ⟨.joinAcquire, s.job.retries, st⟩ else ⟨.call, s.job.retries + 1, st⟩ } := by
  rw [engineExit, Option.ite_none_right_eq_some, Option.some_inj] at h
  exact ⟨h.1.1, h.1.2, h.2.symm⟩

theorem jobRaises_inv (h : jobRaises i s = some s') :
    (s.job.pc = .openLog ∨ s.job.pc = .call ∧ (s.job.retries : Int) ≤ i.maxRetries) ∧
      s' = s.goJob .raised := by
  rw [jobRaises, Option.ite_none_right_eq_some, Option.some_inj] at h
  exact ⟨h.1, h.2.symm⟩

theorem wake_inv {p : Sampler} {r : WakeReason} (h : wake p r s = some s') :
    (s.samplers p).pc = .waiting ∧ (r = .notify → (s.samplers p).notified = true) ∧
      s' = s.goSampler p .reacquire := by
  rw [wake, Option.ite_none_right_eq_some, Option.some_inj] at h
  exact ⟨h.1.1, h.1.2, h.2.symm⟩

theorem crash_inv {p : Sampler} (h : crash p s = some s') :
    ((s.samplers p).pc = .openLog ∨ (s.samplers p).pc = .fetchCpu ∨
      (s.samplers p).pc = .fetchHeap) ∧ s' = s.goSampler p .crashed := by
  rw [crash, Option.ite_none_right_eq_some, Option.some_inj] at h
  exact ⟨h.1, h.2.symm⟩

/-- **What a sampler step does**: it applies `samplerNext` to the sampler's
    locals, and changes nothing else but the lock and the files it opens. -/
theorem samplerStep_inv {p : Sampler} (h : samplerStep i p s = some s') :
    ∃ t use file lock, samplerNext i p s.done (s.samplers p) = some (t, use, file) ∧
      use.apply (.sampler p) s.lock = some lock ∧
      s' = { s.setSampler p t with
        lock := lock, opened := s.opened ++ file.toList.map ((.sampler p), ·) } := by
  unfold samplerStep at h
  cases hn : samplerNext i p s.done (s.samplers p) with
  | none => simp [hn] at h
  | some x =>
    obtain ⟨t, use, file⟩ := x
    cases hl : use.apply (.sampler p) s.lock with
    | none => simp [hn, hl] at h
    | some l => simp only [hn, hl, Option.bind_eq_bind, Option.some_bind] at h; exact ⟨t, use, file, l, rfl, hl, (Option.some.inj h).symm⟩

theorem samplerNext_started {p : Sampler} {done : Bool} {t t' : SamplerState} {u : LockUse}
    {f : Option String} (hd : done = true) (h : samplerNext i p done t = some (t', u, f)) :
    t'.started ≤ t.started := by
  unfold samplerNext at h
  split at h <;> cases h <;> simp [SamplerState.started, SamplerPc.inCycle, *]

theorem SamplerState.started_setPc_le (t : SamplerState) {pc : SamplerPc} (h : pc.inCycle = false) :
    ({ t with pc := pc } : SamplerState).started ≤ t.started := by
  simp [SamplerState.started, h]

@[simp] theorem SamplerState.notify_pc (t : SamplerState) : t.notify.pc = t.pc := by
  unfold SamplerState.notify; split <;> rfl

@[simp] theorem SamplerState.notify_seq (t : SamplerState) : t.notify.seq = t.seq := by
  unfold SamplerState.notify; split <;> rfl

theorem SamplerState.started_notify (t : SamplerState) : t.notify.started = t.started := by
  simp [SamplerState.started]

/-- Only `__join_pprof` writes `done`, and it writes `True`. -/
theorem step_done_mono (h : step i s a = some s') (hd : s.done = true) : s'.done = true := by
  cases a with
  | job =>
    rcases jobStep_cases h with ⟨-, rfl⟩ | ⟨-, rfl⟩ | ⟨-, rfl⟩ | ⟨-, rfl | rfl⟩ | ⟨-, -, rfl⟩ |
      ⟨-, -, rfl⟩ | ⟨-, rfl⟩ | ⟨-, -, rfl⟩ | ⟨-, -, rfl⟩ <;> simp [hd]
  | engineExit st => obtain ⟨-, -, rfl⟩ := engineExit_inv h; exact hd
  | jobRaises => obtain ⟨-, rfl⟩ := jobRaises_inv h; exact hd
  | sampler p => obtain ⟨_, _, _, _, -, -, rfl⟩ := samplerStep_inv h; exact hd
  | wake p r => obtain ⟨-, -, rfl⟩ := wake_inv h; simpa using hd
  | crash p => obtain ⟨-, rfl⟩ := crash_inv h; simpa using hd

theorem started_goSampler_le (t : ProfState) (p q : Sampler) {pc : SamplerPc}
    (hpc : pc.inCycle = false) : ((t.goSampler q pc).samplers p).started ≤ (t.samplers p).started := by
  simp only [ProfState.goSampler_eq, ProfState.setSampler_samplers]
  split
  · subst p; exact SamplerState.started_setPc_le _ hpc
  · exact le_rfl

/-- **No cycle starts after the stop request.** Once `done` is set, a step
    never increases the cycles a sampler has begun: its check now returns
    false, and every other step keeps the count or ends the thread. -/
theorem started_le_of_done (hd : s.done = true) (h : step i s a = some s') (p : Sampler) :
    (s'.samplers p).started ≤ (s.samplers p).started := by
  cases a with
  | job =>
    rcases jobStep_cases h with ⟨-, rfl⟩ | ⟨-, rfl⟩ | ⟨-, rfl⟩ | ⟨-, rfl | rfl⟩ | ⟨-, -, rfl⟩ |
      ⟨-, -, rfl⟩ | ⟨-, rfl⟩ | ⟨-, -, rfl⟩ | ⟨-, -, rfl⟩
    · exact started_goSampler_le _ _ _ rfl
    · exact started_goSampler_le _ _ _ rfl
    all_goals simp [SamplerState.started_notify]
  | engineExit st => obtain ⟨-, -, rfl⟩ := engineExit_inv h; exact le_rfl
  | jobRaises => obtain ⟨-, rfl⟩ := jobRaises_inv h; exact le_rfl
  | sampler q =>
    obtain ⟨t, _, _, _, hn, -, rfl⟩ := samplerStep_inv h
    simp only [ProfState.setSampler_samplers]
    split
    · subst p; exact samplerNext_started hd hn
    · exact le_rfl
  | wake q r => obtain ⟨-, -, rfl⟩ := wake_inv h; exact started_goSampler_le _ _ _ rfl
  | crash q => obtain ⟨-, rfl⟩ := crash_inv h; exact started_goSampler_le _ _ _ rfl

end

/-! ### `__join_pprof` -/

section
variable {i : Instance} {s s' : ProfState} {a : Action}

theorem samplerNext_of_terminated {p : Sampler} {done : Bool} {t : SamplerState}
    (ht : t.pc.terminated = true) : samplerNext i p done t = none := by
  unfold samplerNext; split <;> simp_all [SamplerPc.terminated]

/-- A sampler that has ended stays ended when `p` moves to `t`, if `p` itself
    stays ended. -/
theorem terminated_setSampler {p q : Sampler} {t : SamplerState}
    (ht : (s.samplers p).pc.terminated = true → t.pc.terminated = true)
    (hq : (s.samplers q).pc.terminated = true) :
    ((s.setSampler p t).samplers q).pc.terminated = true := by
  rw [ProfState.setSampler_samplers]
  split
  · subst q; exact ht hq
  · exact hq

/-- A step of anything but the job thread leaves the job thread and `done`
    alone, and a sampler that has ended stays ended. -/
theorem step_frame_of_ne_job (h : step i s a = some s')
    (ha : a ≠ .job ∧ (∀ st, a ≠ .engineExit st) ∧ a ≠ .jobRaises) :
    s'.job = s.job ∧ s'.done = s.done ∧
      ∀ q, (s.samplers q).pc.terminated = true → (s'.samplers q).pc.terminated = true := by
  cases a with
  | job => exact absurd rfl ha.1
  | engineExit st => exact absurd rfl (ha.2.1 st)
  | jobRaises => exact absurd rfl ha.2.2
  | sampler p =>
    obtain ⟨t, _, _, _, hn, -, rfl⟩ := samplerStep_inv (h.trans rfl)
    exact ⟨rfl, rfl, fun q => terminated_setSampler fun hp => by
      simp [samplerNext_of_terminated hp] at hn⟩
  | wake p r =>
    obtain ⟨hw, -, rfl⟩ := wake_inv h
    exact ⟨rfl, rfl, fun q => terminated_setSampler fun hp => by
      simp [hw, SamplerPc.terminated] at hp⟩
  | crash p =>
    obtain ⟨-, rfl⟩ := crash_inv h
    exact ⟨rfl, rfl, fun q => terminated_setSampler fun _ => rfl⟩

/-- What holds of the job thread in every reachable state. -/
structure JobInv (s : ProfState) : Prop where
  /-- `done` is set exactly from the end of `__join_pprof`'s `with` block on. -/
  done_iff : s.done = true ↔ s.job.pc = .joinBm ∨ s.job.pc = .joinMain ∨ s.job.pc = .returned
  /-- Past `self.bm_pprof_thread.join()`, the `bm` sampler has ended. -/
  bm_terminated : s.job.pc = .joinMain ∨ s.job.pc = .returned →
    (s.samplers .bm).pc.terminated = true
  /-- Past `self.main_pprof_thread.join()`, the `main` sampler has ended. -/
  main_terminated : s.job.pc = .returned → (s.samplers .main).pc.terminated = true

theorem JobInv.init : JobInv .init := ⟨by decide, by decide, by decide⟩

/-- Before `__join_pprof` has set `done`, the invariant says `done` is unset. -/
theorem JobInv.done_eq_false (hs : JobInv s)
    (h : s.job.pc ≠ .joinBm ∧ s.job.pc ≠ .joinMain ∧ s.job.pc ≠ .returned) : s.done = false := by
  rw [Bool.eq_false_iff, Ne, hs.done_iff]
  rintro (h' | h' | h') <;> simp_all

theorem JobInv.of_done_eq_false (hd : s.done = false)
    (h : s.job.pc ≠ .joinBm ∧ s.job.pc ≠ .joinMain ∧ s.job.pc ≠ .returned) : JobInv s :=
  ⟨by simp [hd, h.1, h.2.1, h.2.2], fun h' => (h'.elim h.2.1 h.2.2).elim, fun h' => absurd h' h.2.2⟩

theorem JobInv.step (hs : JobInv s) (h : step i s a = some s') : JobInv s' := by
  by_cases ha : a ≠ .job ∧ (∀ st, a ≠ .engineExit st) ∧ a ≠ .jobRaises
  · obtain ⟨hj, hd, ht⟩ := step_frame_of_ne_job h ha
    obtain ⟨h1, h2, h3⟩ := hs
    exact ⟨by rw [hj, hd, h1], fun h => ht _ (h2 (hj ▸ h)), fun h => ht _ (h3 (hj ▸ h))⟩
  cases a with
  | job =>
    rcases jobStep_cases h with ⟨hpc, rfl⟩ | ⟨hpc, rfl⟩ | ⟨hpc, rfl⟩ | ⟨hpc, rfl | rfl⟩ |
      ⟨hpc, -, rfl⟩ | ⟨hpc, -, rfl⟩ | ⟨-, rfl⟩ | ⟨hpc, hb, rfl⟩ | ⟨hpc, hm, rfl⟩
    -- up to `joinSet`, `done` stays unset
    iterate 7 exact .of_done_eq_false (by simpa using hs.done_eq_false (by simp [hpc])) (by simp)
    · exact ⟨by simp, fun h => by simp at h, fun h => by simp at h⟩
    · exact ⟨by simp [hs.done_iff, hpc], fun _ => by simpa using hb, fun h => by simp at h⟩
    · exact ⟨by simp [hs.done_iff, hpc], fun _ => by simpa using hs.bm_terminated (.inl hpc),
        fun _ => by simpa using hm⟩
  | engineExit st =>
    obtain ⟨hpc, -, rfl⟩ := engineExit_inv h
    split <;> exact .of_done_eq_false (hs.done_eq_false (by simp [hpc])) (by simp)
  | jobRaises =>
    obtain ⟨hpc, rfl⟩ := jobRaises_inv h
    exact .of_done_eq_false (hs.done_eq_false (by rcases hpc with h | ⟨h, -⟩ <;> simp [h]))
      (by simp)
  | _ => simp at ha

theorem Reachable.jobInv (hs : Reachable i s) : JobInv s :=
  hs.inv i JobInv JobInv.init fun _ _ _ h hst => h.step hst

/-- **`__join_pprof` returns only when both samplers have left `__pprof`.** -/
theorem returned_samplers_terminated (hs : Reachable i s) (hr : s.job.pc = .returned)
    (p : Sampler) : (s.samplers p).pc.terminated = true := by
  cases p
  · exact hs.jobInv.bm_terminated (.inr hr)
  · exact hs.jobInv.main_terminated hr

end

/-! ### The stop request -/

section
variable {i : Instance} {s s' : ProfState} {as : List Action}

/-- Over any run from a state where `done` is set, `done` stays set and no
    sampler begins another cycle. -/
theorem run_after_done (hd : s.done = true) (hrun : run i s as = some s') :
    s'.done = true ∧ ∀ p, (s'.samplers p).started ≤ (s.samplers p).started :=
  run_preserves i (fun t => t.done = true ∧ ∀ p, (t.samplers p).started ≤ (s.samplers p).started)
    (fun _ _ _ ⟨ht, hp⟩ hst => ⟨step_done_mono hst ht, fun p => (started_le_of_done ht hst p).trans (hp p)⟩)
    ⟨hd, fun _ => le_rfl⟩ hrun

/-- **The stop procedure.** From any reachable state in which `done` is set,
    every interleaving keeps it set, and no sampler begins a fetch cycle: each
    completes at most the one cycle it was in. And in every state reached,
    `run` has returned only if both samplers have left `__pprof`. -/
theorem stop_request_honoured (hs : Reachable i s) (hrun : run i s as = some s') :
    (s.done = true → s'.done = true ∧ ∀ p, (s'.samplers p).started ≤ (s.samplers p).started ∧
      (s'.samplers p).seq ≤ (s.samplers p).seq + 1) ∧
      (s'.job.pc = .returned → ∀ p, (s'.samplers p).pc.terminated = true) := by
  refine ⟨fun hd => ?_, returned_samplers_terminated (hs.of_run i hrun)⟩
  obtain ⟨hd', hp⟩ := run_after_done hd hrun
  refine ⟨hd', fun p => ⟨hp p, ?_⟩⟩
  have := hp p
  simp only [SamplerState.started] at this
  split at this <;> split at this <;> omega

/-- After `__join_pprof` has set `done` (seven job steps with no retry left),
    each sampler opens its log, waits, wakes on the timeout, reads `done` and
    exits, and the job thread joins both: `run` returns. -/
theorem stop_request_honoured_join :
    let i : Instance := ⟨"/log/run", "run", "/w/s.gql", [], [], -1⟩
    let s := (run i .init (List.replicate 7 .job)).getD .init
    let stop (p : Sampler) : List Action :=
      [.sampler p, .sampler p, .sampler p, .wake p .timeout, .sampler p, .sampler p, .job]
    let s' := (run i s (stop .bm ++ stop .main)).getD s
    Reachable i s ∧ run i s (stop .bm ++ stop .main) = some s' ∧ s.done = true ∧
      s'.job.pc = .returned ∧
      ((s.done = true → s'.done = true ∧ ∀ p, (s'.samplers p).started ≤ (s.samplers p).started ∧
          (s'.samplers p).seq ≤ (s.samplers p).seq + 1) ∧
        (s'.job.pc = .returned → ∀ p, (s'.samplers p).pc.terminated = true)) := by
  intro i s stop s'
  have hs : Reachable i s := ⟨List.replicate 7 .job, rfl⟩
  have hrun : run i s (stop .bm ++ stop .main) = some s' := rfl
  exact ⟨hs, hrun, rfl, rfl, stop_request_honoured hs hrun⟩

end

/-! ### An exception in `run` -/

section
variable {i : Instance} {s : ProfState} {p : Sampler}

/-- The actions of one fetch cycle of sampler `p` whose wait times out. -/
def cycleActions (p : Sampler) : List Action :=
  [.sampler p, .sampler p, .wake p .timeout, .sampler p, .sampler p, .sampler p, .sampler p,
    .sampler p]

/-- The first half of a cycle: the sampler waits, the wait times out, and it
    reads `done` unset and goes on to fetch. -/
theorem run_wait_timeout (hd : s.done = false) (hpc : (s.samplers p).pc = .acquire)
    (hl : s.lock = none) :
    ∃ s', run i s [.sampler p, .sampler p, .wake p .timeout, .sampler p, .sampler p] = some s' ∧
      s'.job = s.job ∧ s'.done = false ∧ s'.lock = none ∧
      s'.samplers p = { s.samplers p with pc := .fetchCpu, notified := false } := by
  simp only [run, step, samplerStep, samplerNext, hpc, LockUse.apply, hl, ↓reduceIte, hd, wake,
    ProfState.setSampler_job, ProfState.setSampler_done, ProfState.setSampler_samplers,
    ProfState.setSampler_lock, ProfState.setSampler_opened, ProfState.goSampler_eq,
    Option.pure_def, Option.bind_eq_bind, Option.some_bind, Option.bind_some, Option.toList_none,
    List.map_nil, List.append_nil, reduceCtorEq, IsEmpty.forall_iff, and_true, Bool.false_eq_true,
    Option.some.injEq, exists_eq_left', and_self]

/-- The second half: the two profiles are fetched and the sampler sleeps. -/
theorem run_fetch (hpc : (s.samplers p).pc = .fetchCpu) :
    ∃ s', run i s [.sampler p, .sampler p, .sampler p] = some s' ∧
      s'.job = s.job ∧ s'.done = s.done ∧ s'.lock = s.lock ∧
      s'.samplers p = { s.samplers p with pc := .acquire, seq := (s.samplers p).seq + 1 } := by
  simp only [run, step, samplerStep, samplerNext, hpc, LockUse.apply, ↓reduceIte,
    ProfState.setSampler_job, ProfState.setSampler_done, ProfState.setSampler_samplers,
    Option.pure_def, Option.bind_eq_bind, Option.some_bind, Option.bind_some, Option.toList_some,
    Option.toList_none, List.map_cons, List.map_nil, List.append_assoc, List.singleton_append,
    List.cons_append, Option.some.injEq, exists_eq_left', and_self]

/-- While `done` is unset, a sampler at the top of its loop can run a whole
    cycle, which leaves it at the top again with `seq` one higher. -/
theorem run_cycle (hd : s.done = false) (hpc : (s.samplers p).pc = .acquire)
    (hl : s.lock = none) :
    ∃ s', run i s (cycleActions p) = some s' ∧ s'.job = s.job ∧ s'.done = false ∧
      s'.lock = none ∧ (s'.samplers p).pc = .acquire ∧
      (s'.samplers p).seq = (s.samplers p).seq + 1 := by
  obtain ⟨s₁, h₁, hj₁, hd₁, hl₁, hp₁⟩ := run_wait_timeout (i := i) hd hpc hl
  obtain ⟨s₂, h₂, hj₂, hd₂, hl₂, hp₂⟩ := run_fetch (i := i) (s := s₁) (p := p) (by simp [hp₁])
  refine ⟨s₂, ?_, hj₂.trans hj₁, hd₂.trans hd₁, hl₂.trans hl₁, by simp [hp₂], by simp [hp₂, hp₁]⟩
  rw [show cycleActions p = [.sampler p, .sampler p, .wake p .timeout, .sampler p, .sampler p] ++
    [.sampler p, .sampler p, .sampler p] from rfl, run_append, h₁, Option.some_bind, h₂]

/-- A sampler at the top of its loop can run any number of cycles while `done`
    is unset. -/
theorem run_cycles (hd : s.done = false) (hpc : (s.samplers p).pc = .acquire)
    (hl : s.lock = none) (n : Nat) :
    ∃ s', run i s (List.replicate n (cycleActions p)).flatten = some s' ∧ s'.job = s.job ∧
      s'.done = false ∧ s'.lock = none ∧ (s'.samplers p).pc = .acquire ∧
      (s'.samplers p).seq = (s.samplers p).seq + n := by
  induction n with
  | zero => exact ⟨s, rfl, rfl, hd, hl, hpc, rfl⟩
  | succ n ih =>
    obtain ⟨s₁, h₁, hj₁, hd₁, hl₁, hpc₁, hseq₁⟩ := ih
    obtain ⟨s₂, h₂, hj₂, hd₂, hl₂, hpc₂, hseq₂⟩ := run_cycle (i := i) hd₁ hpc₁ hl₁
    refine ⟨s₂, ?_, hj₂.trans hj₁, hd₂, hl₂, hpc₂, by omega⟩
    rw [List.replicate_succ', List.flatten_append, run_append, h₁, Option.some_bind,
      List.flatten_singleton, h₂]

/-- **An exception leaves the samplers running.** For every job, if
    `open(log_path, 'wb')` raises, the exception leaves `run` with `done`
    unset, and the `bm` sampler can go on to complete any number of cycles. -/
theorem samplers_outlive_raise (i : Instance) :
    ∃ s, run i .init [.job, .job, .jobRaises] = some s ∧ s.job.pc = .raised ∧ s.done = false ∧
      ∀ n, ∃ s', run i s (.sampler .bm :: (List.replicate n (cycleActions .bm)).flatten) = some s' ∧
        s'.job.pc = .raised ∧ s'.done = false ∧ (s'.samplers .bm).seq = n := by
  refine ⟨_, rfl, rfl, rfl, fun n => ?_⟩
  obtain ⟨s', h, hj, hd, -, -, hseq⟩ := run_cycles (i := i) (p := .bm) (s :=
    ((((ProfState.init.goJob .startMain).goSampler .bm .openLog).goJob .openLog).goSampler .main
      .openLog |>.goJob .raised).goSampler .bm .acquire |>.openFile (.sampler .bm) (pprofLogPath i))
    rfl rfl rfl n
  exact ⟨s', h, by rw [hj]; rfl, hd, by simp [hseq, ProfState.init]⟩

end

/-! ### Files opened for writing -/

section
variable {i : Instance} {s s' : ProfState} {a : Action}

/-- The files a thread may open for writing: the engine log for the job
    thread; the profiler log and its own snapshots for a sampler. -/
def MayOpen (i : Instance) : Thread × String → Prop
  | (.job, path) => path = i.logPath
  | (.sampler p, path) => path = pprofLogPath i ∨ ∃ r n, path = profPath (samplerPrefix i p) r n

theorem samplerNext_mayOpen {p : Sampler} {done : Bool} {t t' : SamplerState} {u : LockUse}
    {f : Option String} (h : samplerNext i p done t = some (t', u, f)) :
    ∀ path ∈ f, MayOpen i (.sampler p, path) := by
  unfold samplerNext at h
  split at h <;> cases h <;> simp [MayOpen, cpuProfPath, heapProfPath]

/-- A step only appends to the opened files, and only files its thread may open. -/
theorem step_opened (h : step i s a = some s') :
    ∃ new, s'.opened = s.opened ++ new ∧ ∀ e ∈ new, MayOpen i e := by
  have hsame : s'.opened = s.opened → ∃ new, s'.opened = s.opened ++ new ∧ ∀ e ∈ new, MayOpen i e :=
    fun he => ⟨[], by rw [he, List.append_nil], by simp⟩
  cases a with
  | job =>
    rcases jobStep_cases h with ⟨-, rfl⟩ | ⟨-, rfl⟩ | ⟨-, rfl⟩ | ⟨-, rfl | rfl⟩ | ⟨-, -, rfl⟩ |
      ⟨-, -, rfl⟩ | ⟨-, rfl⟩ | ⟨-, -, rfl⟩ | ⟨-, -, rfl⟩
    -- only `open_log` opens a file
    all_goals first | exact hsame rfl | exact ⟨_, rfl, by simp [MayOpen]⟩
  | engineExit st => obtain ⟨-, -, rfl⟩ := engineExit_inv h; exact hsame rfl
  | jobRaises => obtain ⟨-, rfl⟩ := jobRaises_inv h; exact hsame rfl
  | sampler p =>
    obtain ⟨t, _, f, _, hn, -, rfl⟩ := samplerStep_inv h
    refine ⟨_, rfl, fun e he => ?_⟩
    obtain ⟨path, hp, rfl⟩ := List.mem_map.1 he
    exact samplerNext_mayOpen hn path (Option.mem_toList.1 hp)
  | wake p r => obtain ⟨-, -, rfl⟩ := wake_inv h; exact hsame rfl
  | crash p => obtain ⟨-, rfl⟩ := crash_inv h; exact hsame rfl

theorem Reachable.mayOpen (hs : Reachable i s) : ∀ e ∈ s.opened, MayOpen i e :=
  hs.inv i (fun t => ∀ e ∈ t.opened, MayOpen i e) (by simp [ProfState.init])
    fun _ _ _ ht hst => by
      obtain ⟨new, hn, hnew⟩ := step_opened hst
      intro e he
      rw [hn, List.mem_append] at he
      exact he.elim (ht e) (hnew e)

/-- The job thread and a sampler never open the same file. -/
theorem opened_by_job_and_sampler (hs : Reachable i s) {path : String} {p : Sampler}
    (hj : (.job, path) ∈ s.opened) (hp : (.sampler p, path) ∈ s.opened) : False := by
  have hj := hs.mayOpen _ hj
  rcases hs.mayOpen _ hp with h | ⟨r, n, h⟩ <;> simp only [MayOpen] at hj <;> rw [hj] at h
  · rw [logPath_eq, pprofLogPath_eq] at h; cases JobFile.path_injective _ h
  · rw [logPath_eq, profPath_eq] at h; cases JobFile.path_injective _ h

/-- **The only file both samplers open is the profiler log**: their snapshots
    are apart, and both open `log_prefix + 'pprof_log.txt'`. -/
theorem opened_by_both_samplers (hs : Reachable i s) {path : String}
    (hb : (.sampler .bm, path) ∈ s.opened) (hm : (.sampler .main, path) ∈ s.opened) :
    path = pprofLogPath i := by
  rcases hs.mayOpen _ hb with h | ⟨r, n, rfl⟩
  · exact h
  · rcases hs.mayOpen _ hm with h | ⟨r', n', h⟩
    · rw [profPath_eq, pprofLogPath_eq] at h; cases JobFile.path_injective _ h
    · rw [profPath_eq, profPath_eq] at h; cases JobFile.path_injective _ h

/-- For every job, after its two sampler threads have each taken their first
    step, both have opened `log_prefix + 'pprof_log.txt'` for writing. -/
theorem samplers_open_same_log (i : Instance) :
    ∃ s, run i .init [.job, .job, .sampler .bm, .sampler .main] = some s ∧
      (.sampler .bm, pprofLogPath i) ∈ s.opened ∧ (.sampler .main, pprofLogPath i) ∈ s.opened :=
  ⟨_, rfl, by simp [ProfState.init], by simp [ProfState.init]⟩

end

end GqlPython
