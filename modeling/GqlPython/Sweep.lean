import GqlPython.RunPy

/-! # The `--quintile` sweep of `run.py`

    With `--quintile`, `main` runs

        for quintile in range(0, 5):
            params = dict(gql_params)
            params['quintile'] = f'{quintile}'
            callback = lambda: gql_sess.run(label=f'{quintile}', ...,
                                            gql_params=params)
            results.append(pool.submit(callback))

    The lambda does not capture `quintile` and `params`: it reads `main`'s
    variables when a pool worker calls it, and by then the loop may have moved
    on. The loop and the five callbacks are modelled as threads over the shared
    variables: `main`'s steps are the lines of the loop body, a callback's two
    steps are the evaluation of `label=f'{quintile}'` and of
    `gql_params=params`, in the order Python evaluates keyword arguments. Each
    iteration's `dict(gql_params)` is a new object, named by the iteration
    that built it.

    In every interleaving a callback reads the variables of its own iteration
    or of a later one (`SweepInv.reads_later`); which one is up to the
    schedule: if every callback runs as soon as it is submitted, the five jobs
    get quintiles `0` to `4`, but if the pool runs them after the loop, all
    five get label `'4'` and the dictionary whose `'quintile'` is `'4'`
    (`lazy_sweep_all_four`). Whatever the schedule, no job of the sweep runs
    the engine: `_Instance.run` unpacks each key of the parameters, and the
    eight characters of `'quintile'` make it raise `ValueError` once the log
    is truncated (`sweep_job_raises`).
-/

namespace GqlPython

/-! ### State and steps -/

/-- Where `main` is in the loop. -/
inductive MainPc
  /-- `for quintile in range(0, 5)`, about to take the value `k`. -/
  | loop (k : Nat)
  /-- `params = dict(gql_params)`. -/
  | copy (k : Nat)
  /-- `params['quintile'] = f'{quintile}'`. -/
  | setKey (k : Nat)
  /-- `results.append(pool.submit(callback))`. -/
  | submit (k : Nat)
  /-- `gql_status = [r.result() for r in results]`. -/
  | collect
  deriving DecidableEq, Repr

/-- Where the callback of iteration `j` is. -/
inductive CallbackPc
  | unsubmitted
  | queued
  /-- `label=f'{quintile}'` evaluated, with the value of `quintile` read. -/
  | labelRead (q : Nat)
  /-- `gql_params=params` evaluated too: `gql_sess.run` is called with label
      `f'{q}'` and the dictionary built by iteration `d`. -/
  | called (q d : Nat)
  deriving DecidableEq, Repr

/-- The shared state of the sweep. -/
structure SweepState where
  main : MainPc
  /-- The loop variable `quintile`. -/
  quintile : Nat
  /-- The dictionary the name `params` is bound to. -/
  params : Nat
  /-- The `'quintile'` entry of each iteration's dictionary, once set. -/
  quintileKey : Nat → Option Nat
  callbacks : Nat → CallbackPc

/-- Before the loop; `quintile` and `params` are not read before a callback is
    submitted, so their initial values do not matter. -/
def SweepState.init : SweepState := ⟨.loop 0, 0, 0, fun _ => none, fun _ => .unsubmitted⟩

/-- A step of `main` or of the callback of iteration `j`. -/
inductive SweepAction
  | main
  | callback (j : Nat)
  deriving DecidableEq, Repr

/-- One step of the sweep. -/
def sweepStep (s : SweepState) : SweepAction → Option SweepState
  | .main =>
    match s.main with
    | .loop k => if k < 5 then some { s with main := .copy k, quintile := k }
      else some { s with main := .collect }
    | .copy k => some { s with main := .setKey k, params := k }
    | .setKey k => some { s with
        main := .submit k, quintileKey := Function.update s.quintileKey s.params (some s.quintile) }
    | .submit k => some { s with
        main := .loop (k + 1), callbacks := Function.update s.callbacks k .queued }
    | .collect => none
  | .callback j =>
    match s.callbacks j with
    | .queued => some { s with callbacks := Function.update s.callbacks j (.labelRead s.quintile) }
    | .labelRead q => some { s with callbacks := Function.update s.callbacks j (.called q s.params) }
    | .unsubmitted | .called _ _ => none

/-- The steps of a schedule, in order. -/
def sweepRun (s : SweepState) : List SweepAction → Option SweepState
  | [] => some s
  | a :: as => (sweepStep s a).bind fun s' => sweepRun s' as

/-- The job a called callback starts: `gql_sess.run(label=f'{q}',
    script_path=args.script, gql_params=params)` with the dictionary of
    iteration `d`. -/
def sweepJob (a : RunPyArgs) (gqlParams : List (String × String)) (s : SweepState) (q d : Nat) :
    JobArgs :=
  { runDefaults with
    label := toString q, scriptPath := a.script,
    gqlParams := dictSet gqlParams "quintile" (toString ((s.quintileKey d).getD 0)) }

/-! ### Every schedule -/

/-- How many callbacks `main` has submitted. -/
def MainPc.submitted : MainPc → Nat
  | .loop k | .copy k | .setKey k | .submit k => k
  | .collect => 5

/-- The loop stays in `range(0, 5)`. -/
def MainPc.Valid : MainPc → Prop
  | .loop k => k ≤ 5
  | .copy k | .setKey k | .submit k => k < 5
  | .collect => True

/-- The values of `quintile` and `params` at each point of the loop: those of
    the iteration `main` is in, `params` lagging until the copy is made. -/
def MainPc.vars : MainPc → Nat × Nat
  | .loop k => (k - 1, k - 1)
  | .copy k => (k, k - 1)
  | .setKey k | .submit k => (k, k)
  | .collect => (4, 4)

/-- What holds in every state of every schedule. -/
structure SweepInv (s : SweepState) : Prop where
  valid : s.main.Valid
  vars : (s.quintile, s.params) = s.main.vars
  /-- A submitted callback belongs to an iteration `main` has passed. -/
  submitted : ∀ j, s.callbacks j ≠ .unsubmitted → j < s.main.submitted
  /-- **Late binding**: a callback reads the values of its own iteration or of
      a later one. -/
  reads_later : ∀ j q d, (s.callbacks j = .labelRead q → j ≤ q) ∧
    (s.callbacks j = .called q d → j ≤ q ∧ j ≤ d)

theorem SweepInv.init : SweepInv .init :=
  ⟨Nat.zero_le _, rfl, fun _ h => absurd rfl h, fun _ _ _ => ⟨nofun, nofun⟩⟩

/-- Past iteration `j`, both variables hold `j` or a later iteration's value. -/
theorem SweepInv.le_vars {s : SweepState} (hs : SweepInv s) {j : Nat}
    (hj : j < s.main.submitted) : j ≤ s.quintile ∧ j ≤ s.params := by
  have hv := hs.vars
  have hm := hs.valid
  cases h : s.main <;> simp only [h, MainPc.vars, MainPc.submitted, MainPc.Valid,
    Prod.mk.injEq] at hv hj hm <;> omega

/-- A callback of an iteration `main` has passed moving to a state that reads
    values of its own iteration or of a later one keeps the invariant. -/
theorem SweepInv.setCallback {s : SweepState} (hs : SweepInv s) {j : Nat}
    (hj : j < s.main.submitted) {c : CallbackPc}
    (hc : ∀ q d, (c = .labelRead q → j ≤ q) ∧ (c = .called q d → j ≤ q ∧ j ≤ d)) :
    SweepInv { s with callbacks := Function.update s.callbacks j c } := by
  refine ⟨hs.valid, hs.vars, fun i hi => ?_, fun i q d => ?_⟩ <;> by_cases hij : i = j
  · subst i; exact hj
  · simpa [Function.update_apply, hij] using hs.submitted i (by simpa [Function.update_apply, hij] using hi)
  · subst i; simpa using hc q d
  · simpa [Function.update_apply, hij] using hs.reads_later i q d

/-- `main` moving on to `m`, with the loop variables `m` has and passing no
    fewer iterations, keeps the invariant. -/
theorem SweepInv.setMain {s : SweepState} (hs : SweepInv s) {m : MainPc} {q pa : Nat}
    {qk : Nat → Option Nat} (hm : m.Valid) (hv : (q, pa) = m.vars)
    (hsub : s.main.submitted ≤ m.submitted) :
    SweepInv { s with main := m, quintile := q, params := pa, quintileKey := qk } :=
  ⟨hm, hv, fun j hj => (hs.submitted j hj).trans_le hsub, hs.reads_later⟩

theorem SweepInv.step {s s' : SweepState} {a : SweepAction} (hs : SweepInv s)
    (h : sweepStep s a = some s') : SweepInv s' := by
  cases a with
  | main =>
    have hv := hs.vars
    have hm := hs.valid
    cases hpc : s.main with
    | loop k =>
      simp only [sweepStep, hpc] at h
      simp only [hpc, MainPc.vars, MainPc.Valid, Prod.mk.injEq] at hv hm
      split at h <;> cases h
      · exact hs.setMain ‹k < 5› (by simp [MainPc.vars, hv.2]) (by rw [hpc]; exact le_rfl)
      · exact hs.setMain trivial (by simp [MainPc.vars]; omega)
          (by rw [hpc]; simp [MainPc.submitted]; omega)
    | copy k =>
      simp only [sweepStep, hpc, Option.some.injEq] at h; subst h
      simp only [hpc, MainPc.vars, MainPc.Valid, Prod.mk.injEq] at hv hm
      exact hs.setMain hm (by simp [MainPc.vars, hv.1]) (by rw [hpc]; exact le_rfl)
    | setKey k =>
      simp only [sweepStep, hpc, Option.some.injEq] at h; subst h
      rw [hpc] at hv hm
      exact hs.setMain hm hv (by rw [hpc]; exact le_rfl)
    | submit k =>
      simp only [sweepStep, hpc, Option.some.injEq] at h; subst h
      simp only [hpc, MainPc.vars, MainPc.Valid] at hv hm
      exact (hs.setMain (m := .loop (k + 1)) (by simp [MainPc.Valid]; omega)
        (by simpa [MainPc.vars] using hv) (by rw [hpc]; simp [MainPc.submitted])).setCallback
        (by simp [MainPc.submitted]) fun _ _ => ⟨nofun, nofun⟩
    | collect => simp [sweepStep, hpc] at h
  | callback j =>
    have hj : j < s.main.submitted := hs.submitted j fun h' => by simp [sweepStep, h'] at h
    have hge := hs.le_vars hj
    cases hc : s.callbacks j with
    | queued =>
      simp only [sweepStep, hc, Option.some.injEq] at h; subst h
      exact hs.setCallback hj fun q d => ⟨fun h => by cases h; exact hge.1, nofun⟩
    | labelRead q₀ =>
      simp only [sweepStep, hc, Option.some.injEq] at h; subst h
      exact hs.setCallback hj fun q d =>
        ⟨nofun, fun h => by cases h; exact ⟨(hs.reads_later j q₀ 0).1 hc, hge.2⟩⟩
    | unsubmitted | called _ _ => simp [sweepStep, hc] at h

theorem sweepRun_inv {s s' : SweepState} {as : List SweepAction} (hs : SweepInv s)
    (h : sweepRun s as = some s') : SweepInv s' := by
  induction as generalizing s with
  | nil => cases h; exact hs
  | cons a as ih =>
    simp only [sweepRun] at h
    cases hst : sweepStep s a with
    | none => simp [hst] at h
    | some s₁ => rw [hst, Option.some_bind] at h; exact ih (hs.step hst) h

/-- **Every schedule**: the job the callback of iteration `j` starts has the
    label of iteration `j` or of a later one, and the dictionary of iteration
    `j` or of a later one. -/
theorem sweep_reads_later {as : List SweepAction} {s : SweepState}
    (h : sweepRun .init as = some s) {j q d : Nat} (hc : s.callbacks j = .called q d) :
    j ≤ q ∧ j ≤ d :=
  ((sweepRun_inv SweepInv.init h).reads_later j q d).2 hc

/-- If each callback runs as soon as it is submitted, the jobs get the labels
    and dictionaries of their own iterations. -/
example : ∃ s, sweepRun .init
    [.main, .main, .main, .main, .callback 0, .callback 0,
     .main, .main, .main, .main, .callback 1, .callback 1,
     .main, .main, .main, .main, .callback 2, .callback 2,
     .main, .main, .main, .main, .callback 3, .callback 3,
     .main, .main, .main, .main, .callback 4, .callback 4, .main] = some s ∧
    ∀ j < 5, s.callbacks j = .called j j ∧ s.quintileKey j = some j :=
  ⟨_, rfl, by decide⟩

/-- When the pool runs the callbacks only after the loop has ended, all five
    jobs get label `'4'` and the dictionary whose `'quintile'` is `'4'`. -/
theorem lazy_sweep_all_four (a : RunPyArgs) (ps : List (String × String)) :
    ∃ s, sweepRun .init (List.replicate 21 .main ++
        [.callback 0, .callback 0, .callback 1, .callback 1, .callback 2, .callback 2,
          .callback 3, .callback 3, .callback 4, .callback 4]) = some s ∧
      (∀ j < 5, s.callbacks j = .called 4 4) ∧
      sweepJob a ps s 4 4 =
        { runDefaults with
          label := "4", scriptPath := a.script, gqlParams := dictSet ps "quintile" "4" } :=
  ⟨_, rfl, by decide, rfl⟩

/-! ### On the store -/

theorem mem_dictSet (d : List (String × String)) (k v : String) : (k, v) ∈ dictSet d k v := by
  unfold dictSet
  split
  · next h =>
    obtain ⟨kv, hkv, hk⟩ := List.any_eq_true.1 h
    exact List.mem_map.2 ⟨kv, hkv, by simp only [decide_eq_true_eq] at hk; simp [hk]⟩
  · exact List.mem_append_right _ (List.mem_singleton_self _)

theorem toString_ne_empty (n : Nat) : toString n ≠ "" := fun h =>
  toDigits_ne_nil n (congrArg String.data h)

/-- **No job of the sweep runs the engine.** Whatever the schedule gave a
    callback, its job truncates its log and raises `ValueError` before any
    run, for every engine and store. -/
theorem sweep_job_raises (engine : List String → Py Int) (hash : String → Int) (a : RunPyArgs)
    (hs : a.script ≠ "") (ps : List (String × String)) (s : SweepState) (qn d : Nat)
    (gqlPath grailFilePath startTime rand : String) (σ : Store) :
    ∃ msg, gqlRun engine hash (runPySession a gqlPath grailFilePath startTime) rand
        (sweepJob a ps s qn d) σ =
      .raised (.value msg) (σ.setFile (pathJoin (runPySession a gqlPath grailFilePath startTime).logDir
        (toString qn) ++ "log.txt") (some "")) := by
  obtain ⟨msg, hmsg⟩ := renderParams_error ⟨_, mem_dictSet ps "quintile"
    (toString ((s.quintileKey d).getD 0)), show "quintile".length ≠ 2 by decide⟩
  refine ⟨msg, ?_⟩
  have hne : dictSet ps "quintile" (toString ((s.quintileKey d).getD 0)) ≠ [] :=
    List.ne_nil_of_mem (mem_dictSet _ _ _)
  have hres : resolveJob (runPySession a gqlPath grailFilePath startTime) "anon_run" (sweepJob a ps s qn d) =
      .ok { sweepJob a ps s qn d with flags := (runPySession a gqlPath grailFilePath startTime).defaultFlags } := by
    simp [resolveJob, sweepJob, runDefaults, hs, toString_ne_empty, hne]
  have hinit : Instance.init (runPySession a gqlPath grailFilePath startTime) (toString qn) a.script ""
      (runPySession a gqlPath grailFilePath startTime).defaultFlags
      (dictSet ps "quintile" (toString ((s.quintileKey d).getD 0))) 0 rand σ =
      .ok ⟨pathJoin (runPySession a gqlPath grailFilePath startTime).logDir (toString qn), toString qn,
        a.script, (runPySession a gqlPath grailFilePath startTime).defaultFlags,
        dictSet ps "quintile" (toString ((s.quintileKey d).getD 0)), 0⟩ σ := by
    rw [Instance.init_apply (fun h => hs h.1) (toString_ne_empty qn), if_neg (by simp)]
  simp only [gqlRun, Py.bind_apply, Py.ofExcept_apply, hres]
  dsimp only [sweepJob, runDefaults]
  simp only [hinit, Instance.runPy, Py.bind_apply, writeFile_apply, Py.ofExcept_apply, Instance.cmdline, hmsg]
  rfl

/-- The first callback of `run.py --quintile /w/s.gql`, with an engine that
    would succeed. -/
theorem sweep_job_raises_first :
    ∃ msg, gqlRun (fun _ => pure 0) (fun _ => 0)
        (runPySession ⟨true, false, 0, "/w/s.gql", []⟩ "gql" "grail-file" "T") "r"
        (sweepJob ⟨true, false, 0, "/w/s.gql", []⟩ [] .init 0 0) ⟨fun _ => none, fun _ => none⟩ =
      .raised (.value msg) (Store.setFile ⟨fun _ => none, fun _ => none⟩
        (pathJoin (runPySession ⟨true, false, 0, "/w/s.gql", []⟩ "gql" "grail-file" "T").logDir
          (toString 0) ++ "log.txt") (some "")) :=
  sweep_job_raises _ _ ⟨true, false, 0, "/w/s.gql", []⟩ (by decide) [] .init 0 0 "gql" "grail-file" "T" "r" _

end GqlPython
