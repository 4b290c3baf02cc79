import GqlPython.Job.Paths
import GqlPython.Tidy.RoundTrip
import GqlPython.Text.Path

/-! # The session API over the store: `GQL.run`, `GQL.eval`, `GQL.copy_tsv`

    `GqlPython.Job.Instance` gives the pieces of a job as pure functions: the
    argument resolution, the command line and the retry loop over the exit
    statuses. Here the job runs on the store. `_Instance.run` truncates the
    engine log, builds the command line and calls the engine until it exits
    with 0 or the retries run out; the engine is external, a computation
    `engine cmd` on the store that returns the exit status. `GQL.run` returns
    that status; `GQL.eval` adds `--output=<temp path>` to the flags, raises on
    a non-zero status and reads the table back with `tidytsv_to_dataframe`;
    `GQL.copy_tsv` runs `read(...) | write(...)` and deletes the destination
    when anything raises.

    What holds for every engine that does not raise:
    * a job runs the engine exactly `min (r + 1, k)` times, `k` the first run
      that exits with 0, and returns the last status (`instance_run_invocations`);
    * an inline expression is in the script the command line names when the
      loop starts (`run_expr_reaches_engine`);
    * `copy_tsv` runs the engine once, returns its status and leaves the store
      as the engine left it, while a failed `copy_tsv` removes a local
      destination, even a file that was there before (`copy_tsv_outcome`);
    * `eval` of a job whose engine writes a table in the tidy format returns
      that table (`eval_returns_engine_table`);
    * `eval` of a job whose engine never exits with 0 raises with the
      expression and the non-zero status the loop ended with
      (`eval_raises_status`);
    * with a negative `max_retries`, `eval` never runs the engine and reads
      the temporary table from the store the job started with
      (`eval_skips_engine`).

    The profiler threads `_Instance.run` starts, their writes of
    `pprof_log.txt` and of the snapshots, and the join at the end are
    `GqlPython.Job.Profiler`'s and are left out of the store here: every result
    below that names the store a job ends with describes it up to those files.
    The temporary table `eval` reads is none of them
    (`session_writes_meet_iff`).
-/

namespace GqlPython

/-! ### One job -/

/-- `_Instance.__init__` for a label and a script or an expression. -/
theorem Instance.init_apply {q : GQL} {label sp expr : String} {flags : List String}
    {params : List (String × String)} {r : Int} {rand : String}
    (hne : ¬ (sp = "" ∧ expr = "")) (hl : label ≠ "") (σ : Store) :
    Instance.init q label sp expr flags params r rand σ =
      if expr ≠ "" then
        .ok ⟨pathJoin q.logDir label, label, tempScriptPath (pathJoin q.logDir label) rand, flags,
          params, r⟩ (σ.setFile (tempScriptPath (pathJoin q.logDir label) rand) (some expr))
      else .ok ⟨pathJoin q.logDir label, label, sp, flags, params, r⟩ σ := by
  rw [Instance.init, if_neg hne, if_neg hl]
  by_cases he : expr = "" <;> simp [he]

/-- Whatever the script, the instance has the log prefix, flags, parameters
    and retries it was given. -/
theorem Instance.init_ok {q : GQL} {label sp expr : String} {flags : List String}
    {params : List (String × String)} {r : Int} {rand : String}
    (hne : ¬ (sp = "" ∧ expr = "")) (hl : label ≠ "") (σ : Store) :
    ∃ sp' σ', Instance.init q label sp expr flags params r rand σ =
      .ok ⟨pathJoin q.logDir label, label, sp', flags, params, r⟩ σ' := by
  rw [Instance.init_apply hne hl]
  split
  · exact ⟨_, _, rfl⟩
  · exact ⟨_, _, rfl⟩

/-- A resolved job has exactly one of `expr` and `script_path`. -/
theorem resolveJob_script {q : GQL} {anon : String} {a b : JobArgs}
    (h : resolveJob q anon a = .ok b) : ¬ (b.scriptPath = "" ∧ b.expr = "") := by
  unfold resolveJob at h
  split at h
  · cases h
  · next hone =>
    cases h
    rintro ⟨hs, he⟩
    dsimp only at hs he
    simp [hs, he] at hone

theorem resolveJob_expr {q : GQL} {anon : String} {a b : JobArgs}
    (h : resolveJob q anon a = .ok b) : b.expr = a.expr := by
  unfold resolveJob at h; split at h <;> cases h; rfl

theorem resolveJob_label_ne {q : GQL} {anon : String} {a b : JobArgs} (hanon : anon ≠ "")
    (h : resolveJob q anon a = .ok b) : b.label ≠ "" := by
  rw [resolveJob_label h]
  split
  · exact hanon
  · assumption

/-- The command line of a job whose parameter keys have two characters. -/
theorem Instance.cmdline_ok (i : Instance) (hkeys : ∀ kv ∈ i.gqlParams, kv.1.length = 2)
    (gqlPath : String) (hash : String → Int) :
    i.cmdline gqlPath hash = .ok ([gqlPath] ++
      (i.gqlFlags ++ profilingFlags (i.ports hash).1 (i.ports hash).2) ++ [i.scriptPath] ++
        i.gqlParams.map fun kv => paramArg (⟨kv.1.data.take 1⟩, ⟨kv.1.data.drop 1⟩)) := by
  simp only [Instance.cmdline, renderParams_two_char_keys hkeys]
  rfl

section
variable (engine : List String → Py Int) (hash : String → Int)

/-- The `while retries <= self.max_retries` loop of `_Instance.run` on the
    store, from `retries` and `self.status`. -/
def retryPy (maxRetries : Int) (cmd : List String) (retries : Nat) (status : Int) : Py Int :=
  if (retries : Int) ≤ maxRetries then do
    let st ← engine cmd
    if st = 0 then pure st else retryPy maxRetries cmd (retries + 1) st
  else pure status
termination_by (maxRetries + 1 - retries).toNat

/-- `_Instance.run`: `open(log_path, 'wb')`, the command line, then the loop
    from `retries = 0` and `self.status = 0`. The sampler threads, the files
    they write and `__join_pprof` are left out of the store. -/
def Instance.runPy (i : Instance) (gqlPath : String) : Py Int := do
  writeFile i.logPath ""
  let cmd ← Py.ofExcept (i.cmdline gqlPath hash)
  retryPy engine i.maxRetries cmd 0 0

/-- `GQL.run`. -/
def gqlRun (q : GQL) (rand : String) (a : JobArgs) : Py Int := do
  let a ← Py.ofExcept (resolveJob q "anon_run" a)
  let i ← Instance.init q a.label a.scriptPath a.expr a.flags a.gqlParams a.maxRetries rand
  i.runPy engine hash q.gqlPath

/-- `GQL.copy_tsv`, with `os.getcwd()` = `cwd`: a `read | write` job with
    `-overwrite-files`, no parameters and no retries, whose destination
    `_removeall` deletes when anything raises. -/
def copyTsv (q : GQL) (cwd rand fromPath toPath : String) : Py Int :=
  let fromPath := abspath cwd fromPath
  let toPath := abspath cwd toPath
  Py.tryCatch
    (do
      let i ← Instance.init q "copy_tsv" "" ("read(`" ++ fromPath ++ "`) | write(`" ++ toPath ++ "`)")
        ["-overwrite-files"] [] 0 rand
      i.runPy engine hash q.gqlPath)
    fun e => do
      removeall toPath
      Py.raise e

section
variable (cacheDir : String) (btsvToTsv : String → Option String) {F : Type} (ops : FloatOps F)

/-- `GQL.eval`, for the value `seq` the session's counter gives: the job
    writes its table to the temporary path, which is read back once the job
    has exited with 0. -/
def gqlEval (q : GQL) (seq : Nat) (rand : String) (a : JobArgs) : Py (Frame F) := do
  let a ← Py.ofExcept (resolveJob q "anon_expr" a)
  let tempPath := evalTempPath q.logDir a.label seq
  let i ← Instance.init q a.label a.scriptPath a.expr (a.flags ++ ["--output=" ++ tempPath])
    a.gqlParams a.maxRetries rand
  let status ← i.runPy engine hash q.gqlPath
  if status ≠ 0 then
    Py.raise (.exception ("eval " ++ a.expr ++ ": gql finished with status " ++ toString status))
  tidyRead cacheDir q.grailFilePath btsvToTsv ops tempPath

end

/-- A request with both or neither of `expr` and `script_path` is refused
    before anything is written; `eval` says `run` in its message too. -/
theorem gqlRun_refused {q : GQL} {a : JobArgs} (h : (a.expr == "") = (a.scriptPath == ""))
    (rand : String) (σ : Store) :
    gqlRun engine hash q rand a σ =
      .raised (.exception "run: Exactly one of expr or script_path must be set") σ := by
  simp [gqlRun, resolveJob, h]

theorem gqlEval_refused {q : GQL} {a : JobArgs} (h : (a.expr == "") = (a.scriptPath == ""))
    (cacheDir : String) (btsvToTsv : String → Option String) {F : Type} (ops : FloatOps F)
    (seq : Nat) (rand : String) (σ : Store) :
    gqlEval engine hash cacheDir btsvToTsv ops q seq rand a σ =
      .raised (.exception "run: Exactly one of expr or script_path must be set") σ := by
  simp [gqlEval, resolveJob, h]

/-! ### The retry loop on the store -/

/-- **The loop on the store runs `retryLoop`.** For an engine that does not
    raise, with status `st σ` and effect `eff σ` on a store `σ`, the loop
    returns the status `retryLoop` gives for the statuses of the successive
    runs, and leaves the store after as many runs as `retryLoop` counts. -/
theorem retryPy_pure {cmd : List String} {st : Store → Int} {eff : Store → Store}
    (h : ∀ σ, engine cmd σ = .ok (st σ) (eff σ)) (r : Int) (σ₀ : Store) (j : Nat) (s : Int) :
    retryPy engine r cmd j s (eff^[j] σ₀) =
      .ok (retryLoop r (fun k => st (eff^[k] σ₀)) j s).2
        (eff^[(retryLoop r (fun k => st (eff^[k] σ₀)) j s).1] σ₀) := by
  induction j, s using retryLoop.induct r (fun k => st (eff^[k] σ₀)) with
  | case1 j s hle hz =>
    rw [retryPy, if_pos hle, retryLoop, if_pos hle, if_pos hz, Py.bind_apply, h]
    simp only [if_pos hz, Py.pure_apply, Function.iterate_succ_apply']
  | case2 j s hle hz ih =>
    rw [retryPy, if_pos hle, retryLoop, if_pos hle, if_neg hz, Py.bind_apply, h]
    simp only [if_neg hz, ← ih, Function.iterate_succ_apply']
  | case3 j s hgt =>
    rw [retryPy, if_neg hgt, retryLoop, if_neg hgt]
    rfl

/-- A run that exits with 0 ends the loop. -/
theorem retryPy_ok_zero {r : Int} {cmd : List String} {j : Nat} (s : Int) {σ σ' : Store}
    (hj : (j : Int) ≤ r) (h : engine cmd σ = .ok 0 σ') : retryPy engine r cmd j s σ = .ok 0 σ' := by
  rw [retryPy, if_pos hj, Py.bind_apply, h]
  rfl

/-- An engine whose every run exits non-zero: once the loop has run it, it
    ends with a non-zero status. -/
theorem retryPy_fails {r : Int} {cmd : List String}
    (hfail : ∀ σ, ∃ s σ', engine cmd σ = .ok s σ' ∧ s ≠ 0) (j : Nat) (s : Int) :
    ((j : Int) ≤ r ∨ s ≠ 0) → ∀ σ, ∃ s' σ', s' ≠ 0 ∧ retryPy engine r cmd j s σ = .ok s' σ' := by
  induction j, s using retryPy.induct engine r cmd with
  | case1 j s hle ih =>
    intro _ σ
    obtain ⟨s₁, σ₁, h₁, hs₁⟩ := hfail σ
    rw [retryPy, if_pos hle, Py.bind_apply, h₁]
    simpa only [if_neg hs₁] using ih s₁ (.inr hs₁) σ₁
  | case2 j s hgt =>
    intro h σ
    rw [retryPy, if_neg hgt]
    exact ⟨s, σ, h.resolve_left hgt, rfl⟩

/-- Without retries the loop runs the engine once, whatever it does. -/
theorem retryPy_once (cmd : List String) (s : Int) (σ : Store) :
    retryPy engine 0 cmd 0 s σ = engine cmd σ := by
  rw [retryPy, if_pos (by omega), Py.bind_apply]
  cases engine cmd σ with
  | ok st σ' =>
    by_cases h : st = 0
    · simp [h]
    · simp only [if_neg h]
      rw [retryPy, if_neg (by omega)]
      rfl
  | raised e σ' => rfl

/-- A job truncates its log, then loops on its command line. -/
theorem Instance.runPy_apply (i : Instance) (gqlPath : String) {cmd : List String}
    (hcmd : i.cmdline gqlPath hash = .ok cmd) (σ : Store) :
    i.runPy engine hash gqlPath σ =
      retryPy engine i.maxRetries cmd 0 0 (σ.setFile i.logPath (some "")) := by
  simp only [Instance.runPy, Py.bind_apply, writeFile_apply, Py.ofExcept_apply, hcmd]

/-- **How often a job runs the engine.** For an engine that does not raise,
    a job whose command line renders and whose `max_retries` is not negative
    runs the engine exactly `min (max_retries + 1) k` times, `k` the first run
    that exits with 0, on the store with the engine log truncated, and returns
    the status of the last run. -/
theorem instance_run_invocations (i : Instance) (gqlPath : String)
    {cmd : List String} (hcmd : i.cmdline gqlPath hash = .ok cmd)
    {st : Store → Int} {eff : Store → Store} (h : ∀ σ, engine cmd σ = .ok (st σ) (eff σ))
    (hr : 0 ≤ i.maxRetries) (σ : Store) {k : Option Nat}
    (hk : IsFirstZero (fun n => st (eff^[n] (σ.setFile i.logPath (some "")))) k) :
    i.runPy engine hash gqlPath σ =
      .ok (st (eff^[minInvocations i.maxRetries.toNat k - 1] (σ.setFile i.logPath (some ""))))
        (eff^[minInvocations i.maxRetries.toNat k] (σ.setFile i.logPath (some ""))) := by
  obtain ⟨hn, hs⟩ := retryLoop_invocations hr hk
  have := retryPy_pure engine h i.maxRetries (σ.setFile i.logPath (some "")) 0 0
  rw [Function.iterate_zero_apply] at this
  rw [Instance.runPy_apply engine hash i gqlPath hcmd, this, hs, hn]

/-- An engine that always exits with 1, under `max_retries = 2`: three runs. -/
theorem instance_run_invocations_failing :
    Instance.runPy (fun _ => pure 1) (fun _ => 0) ⟨"/log/run", "run", "/w/s.gql", [], [], 2⟩ "gql"
        ⟨fun _ => none, fun _ => none⟩ =
      .ok 1 (Store.setFile ⟨fun _ => none, fun _ => none⟩ "/log/runlog.txt" (some "")) :=
  instance_run_invocations (fun _ => pure 1) (fun _ => 0) ⟨"/log/run", "run", "/w/s.gql", [], [], 2⟩
    "gql" rfl (fun _ => rfl) (by decide) _ (k := none) fun _ => by simp

/-! ### `run` -/

/-- The temporary script of a job is not its engine log: one ends in `l`,
    the other in `t`. -/
theorem tempScriptPath_ne_logPath (logPrefix rand : String) :
    tempScriptPath logPrefix rand ≠ logPrefix ++ "log.txt" := fun h => by
  simpa [tempScriptPath] using congrArg (fun s : String => s.data.reverse.head?) h

/-- **An inline expression reaches the engine.** A `run` of an expression
    writes it to a temporary script, names that script on the command line
    and starts the retry loop on a store where the script holds the
    expression: truncating the engine log does not touch it. -/
theorem run_expr_reaches_engine {q : GQL} {a b : JobArgs} (hres : resolveJob q "anon_run" a = .ok b)
    (he : a.expr ≠ "") (hkeys : ∀ kv ∈ b.gqlParams, kv.1.length = 2) (rand : String) (σ : Store) :
    ∃ cmd σ₁, tempScriptPath (pathJoin q.logDir b.label) rand ∈ cmd ∧
      σ₁.files (tempScriptPath (pathJoin q.logDir b.label) rand) = some a.expr ∧
      gqlRun engine hash q rand a σ = retryPy engine b.maxRetries cmd 0 0 σ₁ := by
  have hbe : b.expr = a.expr := resolveJob_expr hres
  have hinit := @Instance.init_apply q _ _ _ b.flags b.gqlParams b.maxRetries rand
    (resolveJob_script hres) (resolveJob_label_ne (by decide) hres) σ
  rw [if_pos (hbe ▸ he)] at hinit
  let i : Instance := ⟨pathJoin q.logDir b.label, b.label,
    tempScriptPath (pathJoin q.logDir b.label) rand, b.flags, b.gqlParams, b.maxRetries⟩
  obtain ⟨cmd, hcmd, hmem⟩ : ∃ cmd, i.cmdline q.gqlPath hash = .ok cmd ∧ i.scriptPath ∈ cmd :=
    ⟨_, Instance.cmdline_ok i hkeys _ _, by simp⟩
  refine ⟨cmd, (σ.setFile i.scriptPath (some b.expr)).setFile i.logPath (some ""), hmem, ?_, ?_⟩
  · simp [i, Instance.logPath, tempScriptPath_ne_logPath, hbe]
  · simp only [gqlRun, Py.bind_apply, Py.ofExcept_apply, hres, hinit]
    exact Instance.runPy_apply engine hash i _ hcmd _

theorem run_expr_reaches_engine_inline :
    ∃ cmd σ₁, tempScriptPath (pathJoin "/log/t" "anon_run") "r" ∈ cmd ∧
      σ₁.files (tempScriptPath (pathJoin "/log/t" "anon_run") "r") = some "x" ∧
      gqlRun (fun _ => pure 0) (fun _ => 0) ⟨"gql", "grail-file", [], [], 0, "/log/t"⟩ "r"
          ⟨"x", "", "", [], [], 0⟩ ⟨fun _ => none, fun _ => none⟩ =
        retryPy (fun _ => pure 0) 0 cmd 0 0 σ₁ :=
  run_expr_reaches_engine _ _ (q := ⟨"gql", "grail-file", [], [], 0, "/log/t"⟩)
    (a := ⟨"x", "", "", [], [], 0⟩) (b := ⟨"x", "", "anon_run", [], [], 0⟩) (by simp [resolveJob])
    (by decide) (fun _ h => (List.not_mem_nil _ h).elim) "r" _

/-! ### `copy_tsv` -/

/-- **What `copy_tsv` does, for every engine.** It writes the `read | write`
    script, truncates the log and runs the engine exactly once, with
    `-overwrite-files` and the script; the status comes back as it is, so a
    copy that exits non-zero keeps whatever it wrote. When the engine raises,
    a local destination is deleted, even a file that was there before the
    copy, and the same exception is raised again. -/
theorem copy_tsv_outcome (q : GQL) (cwd rand fromPath toPath : String) (σ : Store) :
    let i : Instance := ⟨pathJoin q.logDir "copy_tsv", "copy_tsv",
      tempScriptPath (pathJoin q.logDir "copy_tsv") rand, ["-overwrite-files"], [], 0⟩
    let dst := abspath cwd toPath
    copyTsv engine hash q cwd rand fromPath toPath σ =
      match engine ([q.gqlPath, "-overwrite-files"] ++ profilingFlags (i.ports hash).1 (i.ports hash).2 ++
          [i.scriptPath]) ((σ.setFile i.scriptPath
            (some ("read(`" ++ abspath cwd fromPath ++ "`) | write(`" ++ dst ++ "`)"))).setFile
              i.logPath (some "")) with
      | .ok s σ' => .ok s σ'
      | .raised e σ' => .raised e (if isS3 dst then σ' else σ'.setFile dst none) := by
  intro i dst
  have hexpr : "read(`" ++ abspath cwd fromPath ++ "`) | write(`" ++ dst ++ "`)" ≠ "" := fun h => by
    simpa using congrArg String.data h
  have hcmd : i.cmdline q.gqlPath hash = .ok ([q.gqlPath, "-overwrite-files"] ++
      profilingFlags (i.ports hash).1 (i.ports hash).2 ++ [i.scriptPath]) := rfl
  have hinit : Instance.init q "copy_tsv" "" ("read(`" ++ abspath cwd fromPath ++ "`) | write(`" ++
      dst ++ "`)") ["-overwrite-files"] [] 0 rand σ =
      .ok i (σ.setFile i.scriptPath (some ("read(`" ++ abspath cwd fromPath ++ "`) | write(`" ++
        dst ++ "`)"))) := by
    rw [Instance.init_apply (fun h => hexpr h.2) (by decide), if_pos hexpr]
  simp only [copyTsv, Py.tryCatch, Py.bind_apply, hinit, Instance.runPy_apply engine hash i q.gqlPath hcmd,
    retryPy_once]
  cases engine _ _ with
  | ok s σ' => rfl
  | raised e σ' => by_cases hs : isS3 (abspath cwd toPath) = true <;> simp [removeall, hs, dst]

/-! ### `eval` -/

theorem evalTempPath_data (logDir label : String) (seq : Nat) :
    (evalTempPath logDir label seq).data =
      (logDir ++ "-" ++ label ++ "-expr_to_dataframe_tmp").data ++ '-' :: Nat.toDigits 10 seq ++
        ".tsv".data := by
  have : (toString seq).data = Nat.toDigits 10 seq := rfl
  simp only [evalTempPath, String.data_append, this, List.append_assoc]
  rfl

/-- The temporary table of an `eval` is a `.tsv` path. -/
theorem splitext_evalTempPath (logDir label : String) (seq : Nat) :
    (splitext (evalTempPath logDir label seq)).2 = ".tsv" := by
  have hdigit : ∀ c, c ≠ '-' → c.isDigit = false → c ∉ '-' :: Nat.toDigits 10 seq :=
    fun c hm hc h => by
      rcases List.mem_cons.1 h with rfl | h
      · exact hm rfl
      · simpa [hc] using isDigit_toDigits seq c h
  rw [show evalTempPath logDir label seq = ⟨_⟩ from String.ext (evalTempPath_data logDir label seq)]
  exact splitext_tsv (hdigit '/' (by decide) rfl) (hdigit '.' (by decide) rfl) (List.cons_ne_nil _ _)

/-- The temporary table of an `eval` is local when the log directory is. -/
theorem isS3_evalTempPath {logDir : String} (h : isS3 logDir = false) (label : String) (seq : Nat) :
    isS3 (evalTempPath logDir label seq) = false := by
  obtain ⟨cs⟩ := logDir
  simp only [isS3, startsWith] at h ⊢
  rw [evalTempPath_data]
  simp only [String.data_append, List.append_assoc]
  rw [List.singleton_append]
  generalize (_ : List Char) = rest
  match cs with
  | [] | [_] | [_, _] | [_, _, _] | [_, _, _, _] => simp [List.isPrefixOf]
  | _ :: _ :: _ :: _ :: _ :: _ => simpa [List.isPrefixOf] using h

section
variable (cacheDir : String) (btsvToTsv : String → Option String) {F : Type} {ops : FloatOps F}

/-- **`eval` returns the table the engine wrote.** Take a job that resolves,
    with retries allowed (`max_retries` after the session's default is not
    negative), two-character parameter keys, and a local log directory. If
    the engine, given `--output=<temp path>`, exits with 0 and leaves there the
    tidy files of an encodable table `t`, then `eval` returns `t`: the same
    columns in the same order, and the same rows up to NaN. -/
theorem eval_returns_engine_table (hF : ops.Lawful) (t : TidyTable F) (ht : t.Encodable ops)
    {q : GQL} {a b : JobArgs} (hres : resolveJob q "anon_expr" a = .ok b) (hr : 0 ≤ b.maxRetries)
    (hkeys : ∀ kv ∈ b.gqlParams, kv.1.length = 2) (hlocal : isS3 q.logDir = false)
    (seq : Nat) (rand : String)
    (hengine : ∀ cmd σ, "--output=" ++ evalTempPath q.logDir b.label seq ∈ cmd → ∃ σ',
      engine cmd σ = .ok 0 σ' ∧
      σ'.files ((splitext (evalTempPath q.logDir b.label seq)).1 ++ "_data_dictionary.tsv") =
        some (dictionaryText t.columns) ∧
      σ'.files (evalTempPath q.logDir b.label seq) = some (dataText ops t.toFrame))
    (σ : Store) :
    ∃ df σ', gqlEval engine hash cacheDir btsvToTsv ops q seq rand a σ = .ok df σ' ∧
      df.columns = t.columns ∧ List.Forall₂ (List.Forall₂ (Cell.Same ops)) df.rows t.rows := by
  obtain ⟨df, hdf, hcols, hrows⟩ := parseTidy_round_trip hF t ht
  obtain ⟨sp, σ₁, hinit⟩ := @Instance.init_ok q _ _ _
    (b.flags ++ ["--output=" ++ evalTempPath q.logDir b.label seq]) b.gqlParams b.maxRetries rand
    (resolveJob_script hres) (resolveJob_label_ne (by decide) hres) σ
  let i : Instance := ⟨pathJoin q.logDir b.label, b.label, sp,
    b.flags ++ ["--output=" ++ evalTempPath q.logDir b.label seq], b.gqlParams, b.maxRetries⟩
  obtain ⟨cmd, hcmd, hmem⟩ : ∃ cmd, i.cmdline q.gqlPath hash = .ok cmd ∧
      "--output=" ++ evalTempPath q.logDir b.label seq ∈ cmd :=
    ⟨_, Instance.cmdline_ok i hkeys _ _, by simp [i]⟩
  obtain ⟨σ', h0, hd, htf⟩ := hengine cmd (σ₁.setFile i.logPath (some "")) hmem
  refine ⟨df, σ', ?_, hcols, hrows⟩
  simp only [gqlEval, Py.bind_apply, Py.ofExcept_apply, hres, hinit]
  rw [Instance.runPy_apply engine hash i q.gqlPath hcmd, retryPy_ok_zero engine 0 hr h0]
  simp only [ne_eq, not_true_eq_false, if_false, Py.bind_apply, Py.pure_apply]
  rw [tidyRead_local cacheDir q.grailFilePath btsvToTsv ops (isS3_evalTempPath hlocal _ _)
    (splitext_evalTempPath _ _ _) hd htf, hdf]

/-- The engine `GQL.eval` runs for `expr = "x"` in a session logging to
    `/log/t`: it writes `digitTable` to the first temporary table. -/
def digitEngine : List String → Py Int := fun _ => do
  writeFile ((splitext (evalTempPath "/log/t" "anon_expr" 0)).1 ++ "_data_dictionary.tsv")
    (dictionaryText digitTable.columns)
  writeFile (evalTempPath "/log/t" "anon_expr" 0) (dataText digitFloats digitTable.toFrame)
  pure 0

theorem eval_returns_engine_table_digits :
    ∃ df σ', gqlEval digitEngine (fun _ => 0) "/tmp/cache" (fun _ => none) digitFloats
        ⟨"gql", "grail-file", [], [], 0, "/log/t"⟩ 0 "r" ⟨"x", "", "", [], [], -1⟩
        ⟨fun _ => none, fun _ => none⟩ = .ok df σ' ∧
      df.columns = digitTable.columns ∧
      List.Forall₂ (List.Forall₂ (Cell.Same digitFloats)) df.rows digitTable.rows :=
  eval_returns_engine_table digitEngine (fun _ => 0) "/tmp/cache" (fun _ => none) digitFloats_lawful
    digitTable digitTable_encodable (q := ⟨"gql", "grail-file", [], [], 0, "/log/t"⟩)
    (a := ⟨"x", "", "", [], [], -1⟩) (b := ⟨"x", "", "anon_expr", [], [], 0⟩) (by simp [resolveJob]) le_rfl
    (fun _ h => (List.not_mem_nil _ h).elim) (by decide) 0 "r"
    (fun _ σ _ => ⟨_, rfl, by simp [dictPath_ne (splitext_evalTempPath _ _ _)], by simp⟩) _


/-- **A negative `max_retries` skips the engine.** When `max_retries`, after
    the session's default, is negative, `eval` writes the script and truncates
    the log, never runs the engine, and reads the temporary table from that
    store: whatever an earlier job left there, or a `FileNotFoundError`. -/
theorem eval_skips_engine {q : GQL} {a b : JobArgs} (hres : resolveJob q "anon_expr" a = .ok b)
    (hneg : b.maxRetries < 0) (hkeys : ∀ kv ∈ b.gqlParams, kv.1.length = 2)
    (ops : FloatOps F) (seq : Nat) (rand : String) (σ : Store) :
    gqlEval engine hash cacheDir btsvToTsv ops q seq rand a σ =
      tidyRead cacheDir q.grailFilePath btsvToTsv ops (evalTempPath q.logDir b.label seq)
        ((if b.expr ≠ "" then (σ.setFile (tempScriptPath (pathJoin q.logDir b.label) rand) (some b.expr))
          else σ).setFile (pathJoin q.logDir b.label ++ "log.txt") (some "")) := by
  have hinit := @Instance.init_apply q _ _ _
    (b.flags ++ ["--output=" ++ evalTempPath q.logDir b.label seq]) b.gqlParams b.maxRetries rand
    (resolveJob_script hres) (resolveJob_label_ne (by decide) hres) σ
  have hrun : ∀ (sp : String) (σ₁ : Store), (⟨pathJoin q.logDir b.label, b.label, sp,
      b.flags ++ ["--output=" ++ evalTempPath q.logDir b.label seq], b.gqlParams, b.maxRetries⟩ :
        Instance).runPy engine hash q.gqlPath σ₁ = .ok 0 (σ₁.setFile (pathJoin q.logDir b.label ++ "log.txt") (some "")) :=
    fun sp σ₁ => by
      rw [Instance.runPy_apply engine hash _ q.gqlPath (Instance.cmdline_ok _ hkeys _ _), retryPy,
        if_neg (show ¬ ((0 : Nat) : Int) ≤ b.maxRetries by omega)]
      rfl
  simp only [gqlEval, Py.bind_apply, Py.ofExcept_apply, hres, hinit]
  by_cases he : b.expr = "" <;>
    simp only [he, hrun, ne_eq, not_true_eq_false, not_false_eq_true, if_true, if_false, Py.bind_apply,
      Py.pure_apply]

/-- **An engine that always fails makes `eval` raise with its status.** When
    every run of the engine exits non-zero and retries are allowed, `eval`
    raises `Exception('eval <expr>: gql finished with status <s>')`, `<expr>`
    the expression it was given and `<s>` the non-zero status the loop ended
    with. -/
theorem eval_raises_status {q : GQL} {a b : JobArgs} (hres : resolveJob q "anon_expr" a = .ok b)
    (hr : 0 ≤ b.maxRetries) (hkeys : ∀ kv ∈ b.gqlParams, kv.1.length = 2)
    (hfail : ∀ cmd σ, ∃ s σ', engine cmd σ = .ok s σ' ∧ s ≠ 0)
    (ops : FloatOps F) (seq : Nat) (rand : String) (σ : Store) :
    ∃ (s : Int) (σ' : Store), s ≠ 0 ∧ gqlEval engine hash cacheDir btsvToTsv ops q seq rand a σ =
      .raised (.exception ("eval " ++ a.expr ++ ": gql finished with status " ++ toString s)) σ' := by
  obtain ⟨sp, σ₁, hinit⟩ := @Instance.init_ok q _ _ _
    (b.flags ++ ["--output=" ++ evalTempPath q.logDir b.label seq]) b.gqlParams b.maxRetries rand
    (resolveJob_script hres) (resolveJob_label_ne (by decide) hres) σ
  let i : Instance := ⟨pathJoin q.logDir b.label, b.label, sp,
    b.flags ++ ["--output=" ++ evalTempPath q.logDir b.label seq], b.gqlParams, b.maxRetries⟩
  obtain ⟨s, σ', hs, hloop⟩ := retryPy_fails engine (hfail _) 0 0 (.inl (by exact_mod_cast hr))
    (σ₁.setFile i.logPath (some ""))
  refine ⟨s, σ', hs, ?_⟩
  simp only [gqlEval, Py.bind_apply, Py.ofExcept_apply, hres, hinit]
  rw [Instance.runPy_apply engine hash i q.gqlPath (Instance.cmdline_ok i hkeys _ _), hloop]
  simp only [ne_eq, hs, not_false_eq_true, if_true, Py.bind_apply, Py.raise_apply, resolveJob_expr hres]

/-- An engine that always exits with 1, in a session whose default is two
    retries: `eval` raises with status 1. -/
theorem eval_raises_status_failing :
    ∃ (s : Int) (σ' : Store), s ≠ 0 ∧
      gqlEval (fun _ => pure 1) (fun _ => 0) "/tmp/cache" (fun _ => none) digitFloats
        ⟨"gql", "grail-file", [], [], 2, "/log/t"⟩ 0 "r" ⟨"x", "", "", [], [], -1⟩
        ⟨fun _ => none, fun _ => none⟩ =
      .raised (.exception ("eval " ++ "x" ++ ": gql finished with status " ++ toString s)) σ' :=
  eval_raises_status _ _ "/tmp/cache" (fun _ => none) (q := ⟨"gql", "grail-file", [], [], 2, "/log/t"⟩)
    (a := ⟨"x", "", "", [], [], -1⟩) (b := ⟨"x", "", "anon_expr", [], [], 2⟩) (by simp [resolveJob])
    (by decide) (fun _ h => (List.not_mem_nil _ h).elim) (fun _ σ => ⟨1, σ, rfl, by decide⟩)
    digitFloats 0 "r" _

/-- A session whose default is `-1`, asked for an expression with the
    default `max_retries = -1`: the engine is never run. -/
theorem eval_skips_engine_default :
    gqlEval (fun _ => pure 1) (fun _ => 0) "/tmp/cache" (fun _ => none) digitFloats
        ⟨"gql", "grail-file", [], [], -1, "/log/t"⟩ 0 "r" { evalDefaults with expr := "x" }
        ⟨fun _ => none, fun _ => none⟩ =
      tidyRead "/tmp/cache" "grail-file" (fun _ => none) digitFloats (evalTempPath "/log/t" "anon_expr" 0)
        ((if "x" ≠ "" then (Store.setFile ⟨fun _ => none, fun _ => none⟩
            (tempScriptPath (pathJoin "/log/t" "anon_expr") "r") (some "x"))
          else ⟨fun _ => none, fun _ => none⟩).setFile (pathJoin "/log/t" "anon_expr" ++ "log.txt") (some "")) :=
  eval_skips_engine _ _ "/tmp/cache" (fun _ => none) (q := ⟨"gql", "grail-file", [], [], -1, "/log/t"⟩)
    (a := { evalDefaults with expr := "x" }) (b := ⟨"x", "", "anon_expr", [], [], -1⟩)
    (by simp [resolveJob, evalDefaults])
    (by decide) (fun _ h => (List.not_mem_nil _ h).elim) digitFloats 0 "r" _

end

end

end GqlPython
