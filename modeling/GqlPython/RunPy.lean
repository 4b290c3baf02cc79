import GqlPython.Job.Session

/-! # `run.py`

    `run.py` parses `--quintile`, `--overwrite`, `--max_retries`, the script
    and `--key=value` parameters, creates one `GQL` session and starts either
    one job or a sweep of five jobs over `quintile` on a thread pool. This
    module covers the arguments, the session and the single job; the sweep's
    interleavings are in `GqlPython.Sweep`.

    `--max_retries` becomes the session's `default_max_retries`, but the job is
    started by `gql_sess.run(...)` without `max_retries`, whose default in
    `GQL.run` is `0`, not negative: the session default is never consulted.
    On the store, whatever the flag, the single job runs the engine once and
    passes its outcome through (`run_py_runs_engine_once`).

    The `--key=value` parameters are read into a dict: each key once, with the
    value of the last parameter naming it (`parse_params_dict`); the first
    parameter of another form raises, named in the message
    (`parseParams_first_bad`).
-/

namespace GqlPython

/-- The parsed command line of `run.py`, after `os.path.realpath(args.script)`. -/
structure RunPyArgs where
  quintile : Bool
  overwrite : Bool
  maxRetries : Int
  script : String
  params : List String

/-- `re.match('--([^=]+)=(.*)', param)`: the key runs to the first `=`, the
    value to the first newline. -/
def matchParam (param : String) : Option (String × String) :=
  match param.data with
  | '-' :: '-' :: rest =>
    match rest.takeWhile (· ≠ '='), rest.dropWhile (· ≠ '=') with
    | _ :: _, '=' :: value => some (⟨rest.takeWhile (· ≠ '=')⟩, ⟨value.takeWhile (· ≠ '\n')⟩)
    | _, _ => none
  | _ => none

/-- One pass of the loop over `args.params`: `gql_params[m.group(1)] = m.group(2)`. -/
def addParam (d : List (String × String)) (param : String) : Except PyError (List (String × String)) :=
  match matchParam param with
  | some (k, v) => .ok (dictSet d k v)
  | none => .error (.exception ("GQL param must be in form --key=value, but got " ++ param))

/-- The loop that fills `gql_params` from the positional parameters. -/
def parseParams (params : List String) : Except PyError (List (String × String)) :=
  params.foldlM addParam []

/-! ### `--key=value` parameters -/

/-- A parameter `run.py` reads back as it was written: a non-empty key without
    `=`, and a value without a newline. -/
def ParamReadable (kv : String × String) : Prop :=
  kv.1 ≠ "" ∧ '=' ∉ kv.1.data ∧ '\n' ∉ kv.2.data

/-- `re.match('--([^=]+)=(.*)', '--' + k + '=' + v)` gives back `k` and `v`. -/
theorem matchParam_paramArg {kv : String × String} (h : ParamReadable kv) :
    matchParam (paramArg kv) = some kv := by
  obtain ⟨⟨k⟩, ⟨v⟩⟩ := kv
  obtain ⟨hk, hk', hv⟩ := h
  obtain ⟨c, cs, rfl⟩ := List.exists_cons_of_ne_nil fun h : k = [] => hk (by rw [h])
  have hpos : ∀ a ∈ c :: cs, decide (a ≠ '=') = true := fun a ha => decide_eq_true fun h => hk' (h ▸ ha)
  have hv' : v.takeWhile (· ≠ '\n') = v :=
    List.takeWhile_eq_self_iff.2 fun a ha => decide_eq_true fun h => hv (h ▸ ha)
  have hdata : (paramArg (⟨c :: cs⟩, ⟨v⟩)).data = '-' :: '-' :: ((c :: cs) ++ '=' :: v) := by
    simp only [paramArg, String.data_append, List.append_assoc]; rfl
  have h₁ : ('=' :: v).takeWhile (· ≠ '=') = [] := by simp [List.takeWhile_cons]
  have h₂ : ('=' :: v).dropWhile (· ≠ '=') = '=' :: v := by simp [List.dropWhile_cons]
  simp only [matchParam, hdata, List.takeWhile_append_of_pos hpos, List.dropWhile_append_of_pos hpos,
    h₁, h₂, List.append_nil, hv']

/-- A value is cut at its first newline, as `.` does not match one. -/
example : matchParam "--k=a\nb" = some ("k", "a") := by decide

/-- Every parameter of that form passes the loop, which sets its key. -/
theorem foldlM_addParam {kvs : List (String × String)} (h : ∀ kv ∈ kvs, ParamReadable kv)
    (d : List (String × String)) :
    (kvs.map paramArg).foldlM addParam d = .ok (kvs.foldl (fun d kv => dictSet d kv.1 kv.2) d) := by
  induction kvs generalizing d with
  | nil => rfl
  | cons kv kvs ih =>
    simp only [List.map_cons, List.foldlM_cons, addParam,
      matchParam_paramArg (h kv (List.mem_cons_self _ _)), List.foldl_cons]
    exact ih (fun kv' h' => h kv' (List.mem_cons_of_mem _ h')) _

/-- The dict after a run of `d[k] = v`: the last value set for a key. -/
theorem lookup_foldl_dictSet (kvs d : List (String × String)) (a : String) :
    (kvs.foldl (fun d kv => dictSet d kv.1 kv.2) d).lookup a = (kvs.reverse.lookup a).or (d.lookup a) := by
  induction kvs generalizing d with
  | nil => simp
  | cons kv kvs ih =>
    obtain ⟨k, v⟩ := kv
    rw [List.foldl_cons, ih, lookup_dictSet, List.reverse_cons, List.lookup_append, Option.or_assoc]
    by_cases ha : a = k
    · simp [ha, List.lookup_cons]
    · simp [ha, List.lookup_cons, beq_eq_false_iff_ne.2 ha]

theorem keys_nodup_dictSet {d : List (String × String)} (h : (d.map Prod.fst).Nodup) (k v : String) :
    ((dictSet d k v).map Prod.fst).Nodup := by
  unfold dictSet
  split
  · rwa [List.map_map, List.map_congr_left fun kv _ => by
      show (if kv.1 = k then (k, v) else kv).1 = kv.1; split <;> simp_all]
  · next hk =>
    rw [List.map_append, List.nodup_append]
    exact ⟨h, List.nodup_singleton _, fun a ha ha' => hk (by
      obtain ⟨kv, hkv, rfl⟩ := List.mem_map.1 ha
      exact List.any_eq_true.2 ⟨kv, hkv, by simpa using ha'⟩)⟩

theorem keys_nodup_foldl_dictSet (kvs : List (String × String)) {d : List (String × String)}
    (hd : (d.map Prod.fst).Nodup) : ((kvs.foldl (fun d kv => dictSet d kv.1 kv.2) d).map Prod.fst).Nodup := by
  induction kvs generalizing d with
  | nil => exact hd
  | cons kv kvs ih => exact ih (keys_nodup_dictSet hd _ _)

/-- **`run.py` reads its parameters into a dict.** For parameters written
    `--key=value`, each key non-empty and without `=` and each value without
    a newline, the loop succeeds; the dict has each key once, with the value of
    the last parameter that names it. -/
theorem parse_params_dict (kvs : List (String × String)) (h : ∀ kv ∈ kvs, ParamReadable kv) :
    ∃ d, parseParams (kvs.map paramArg) = .ok d ∧ (d.map Prod.fst).Nodup ∧
      ∀ k, d.lookup k = kvs.reverse.lookup k :=
  ⟨_, foldlM_addParam h [], keys_nodup_foldl_dictSet kvs List.nodup_nil,
    fun k => by simp [lookup_foldl_dictSet]⟩

/-- The parameters `--quintile=3 --label=a=b --quintile=4`: the key ends at
    the first `=`, and the later `quintile` wins. -/
theorem parse_params_dict_repeat :
    (∀ kv ∈ [("quintile", "3"), ("label", "a=b"), ("quintile", "4")], ParamReadable kv) ∧
      ∃ d, parseParams (([("quintile", "3"), ("label", "a=b"), ("quintile", "4")] :
        List (String × String)).map paramArg) = .ok d ∧ (d.map Prod.fst).Nodup ∧
        ∀ k, d.lookup k = ([("quintile", "3"), ("label", "a=b"), ("quintile", "4")] :
          List (String × String)).reverse.lookup k := by
  have h : ∀ kv ∈ [("quintile", "3"), ("label", "a=b"), ("quintile", "4")], ParamReadable kv := by
    simp only [List.mem_cons, List.mem_singleton, List.not_mem_nil, or_false]
    rintro _ (rfl | rfl | rfl) <;> exact ⟨by decide, by decide, by decide⟩
  exact ⟨h, parse_params_dict _ h⟩

/-- The loop raises at the first parameter not of the form `--key=value`, with
    that parameter in its message. -/
theorem parseParams_first_bad {pre : List String} {param : String} (post : List String)
    (hpre : ∀ q ∈ pre, (matchParam q).isSome) (hp : matchParam param = none) :
    parseParams (pre ++ param :: post) =
      .error (.exception ("GQL param must be in form --key=value, but got " ++ param)) := by
  suffices ∀ d, ∃ d', pre.foldlM addParam d = .ok d' by
    obtain ⟨d', hd'⟩ := this []
    simp only [parseParams, List.foldlM_append, hd', List.foldlM_cons, addParam, hp]
    rfl
  induction pre with
  | nil => exact fun d => ⟨d, rfl⟩
  | cons q pre ih =>
    intro d
    obtain ⟨kv, hq⟩ := Option.isSome_iff_exists.1 (hpre q (List.mem_cons_self _ _))
    simp only [List.foldlM_cons, addParam, hq]
    exact ih (fun q' h' => hpre q' (List.mem_cons_of_mem _ h')) _

/-- The session `run.py` creates; `gqlPath` and `grailFilePath` are the
    binaries the constructor builds and `startTime` the timestamp it appends. -/
def runPySession (a : RunPyArgs) (gqlPath grailFilePath startTime : String) : GQL where
  gqlPath := gqlPath
  grailFilePath := grailFilePath
  defaultFlags := if a.overwrite then ["--overwrite-files=true"] else []
  defaultParams := []
  defaultMaxRetries := a.maxRetries
  logDir := "/tmp/" ++ (splitext (basename a.script)).1 ++ startTime

/-- The single job: `gql_sess.run(label='', script_path=args.script,
    gql_params=gql_params)`. -/
def runPyJob (a : RunPyArgs) (gqlParams : List (String × String)) : JobArgs :=
  { runDefaults with scriptPath := a.script, gqlParams := gqlParams }

/-- **`--max_retries` does not reach the job**: whatever the flag, the job of
    `run.py` resolves to `max_retries = 0`. -/
theorem runPyJob_maxRetries (a : RunPyArgs) (ps : List (String × String)) (q : GQL)
    {b : JobArgs} (h : resolveJob q "anon_run" (runPyJob a ps) = .ok b) : b.maxRetries = 0 := by
  rw [resolveJob_maxRetries h]; rfl

/-- `run.py --max_retries 2 s.gql` against an engine that always exits 1
    invokes it once, not three times; and a session whose default is `-1`,
    asked for `max_retries=-1`, reports status 0 without invoking it at all. -/
theorem run_py_retries_diverge :
    (∃ b, resolveJob (runPySession ⟨false, false, 2, "/w/s.gql", []⟩ "gql" "grail-file" "T")
        "anon_run" (runPyJob ⟨false, false, 2, "/w/s.gql", []⟩ []) = .ok b ∧
      retryLoop b.maxRetries (fun _ => 1) 0 0 = (1, 1)) ∧
    (∃ b, resolveJob ⟨"gql", "grail-file", [], [], -1, "/tmp/sT"⟩ "anon_run"
        { runDefaults with scriptPath := "/w/s.gql", maxRetries := -1 } = .ok b ∧
      retryLoop b.maxRetries (fun _ => 1) 0 0 = (0, 0)) :=
  ⟨⟨_, rfl, by rw [retryLoop, if_pos (by decide), if_neg (by decide), retryLoop_of_gt (by decide)]⟩,
    ⟨_, rfl, retryLoop_neg (by decide)⟩⟩

/-- **`run.py` runs its job once.** For every engine, store and `--max_retries`,
    the single job of `run.py` (a non-empty script, parameter keys of two
    characters) truncates the log and runs the engine exactly once on its
    command line, and `GQL.run` returns what that run returns. -/
theorem run_py_runs_engine_once (engine : List String → Py Int) (hash : String → Int)
    (a : RunPyArgs) {ps : List (String × String)} (hkeys : ∀ kv ∈ ps, kv.1.length = 2)
    (hs : a.script ≠ "") (gqlPath grailFilePath startTime rand : String) (σ : Store) :
    ∃ cmd, (⟨pathJoin (runPySession a gqlPath grailFilePath startTime).logDir "anon_run", "anon_run",
        a.script, (runPySession a gqlPath grailFilePath startTime).defaultFlags, ps, 0⟩ : Instance).cmdline
          gqlPath hash = .ok cmd ∧
      gqlRun engine hash (runPySession a gqlPath grailFilePath startTime) rand (runPyJob a ps) σ =
        engine cmd (σ.setFile (pathJoin (runPySession a gqlPath grailFilePath startTime).logDir "anon_run" ++
          "log.txt") (some "")) := by
  obtain ⟨cmd, hcmd⟩ : ∃ cmd, (⟨pathJoin (runPySession a gqlPath grailFilePath startTime).logDir
      "anon_run", "anon_run", a.script, (runPySession a gqlPath grailFilePath startTime).defaultFlags, ps,
        0⟩ : Instance).cmdline gqlPath hash = .ok cmd :=
    ⟨_, Instance.cmdline_ok _ hkeys _ _⟩
  refine ⟨cmd, hcmd, ?_⟩
  have hres : resolveJob (runPySession a gqlPath grailFilePath startTime) "anon_run" (runPyJob a ps) =
      .ok ⟨"", a.script, "anon_run", (runPySession a gqlPath grailFilePath startTime).defaultFlags, ps, 0⟩ := by
    simp only [resolveJob, runPyJob, runDefaults, runPySession, beq_self_eq_true, beq_eq_false_iff_ne.2 hs]
    cases ps <;> rfl
  have hinit : Instance.init (runPySession a gqlPath grailFilePath startTime) "anon_run" a.script ""
      (runPySession a gqlPath grailFilePath startTime).defaultFlags ps 0 rand σ =
      .ok ⟨pathJoin (runPySession a gqlPath grailFilePath startTime).logDir "anon_run", "anon_run",
        a.script, (runPySession a gqlPath grailFilePath startTime).defaultFlags, ps, 0⟩ σ := by
    rw [Instance.init_apply (fun h => hs h.1) (by decide), if_neg (by simp)]
  simp only [gqlRun, Py.bind_apply, Py.ofExcept_apply, hres, hinit]
  rw [show (runPySession a gqlPath grailFilePath startTime).gqlPath = gqlPath from rfl,
    Instance.runPy_apply engine hash _ gqlPath hcmd, retryPy_once, Instance.logPath]

theorem run_py_runs_engine_once_flag :
    ∃ cmd, (⟨pathJoin (runPySession ⟨false, false, 2, "/w/s.gql", []⟩ "gql" "grail-file" "T").logDir
        "anon_run", "anon_run", "/w/s.gql", [], [], 0⟩ : Instance).cmdline "gql" (fun _ => 0) = .ok cmd ∧
      gqlRun (fun _ => pure 1) (fun _ => 0) (runPySession ⟨false, false, 2, "/w/s.gql", []⟩ "gql" "grail-file" "T")
          "r" (runPyJob ⟨false, false, 2, "/w/s.gql", []⟩ []) ⟨fun _ => none, fun _ => none⟩ =
        (fun _ => pure 1 : List String → Py Int) cmd (Store.setFile ⟨fun _ => none, fun _ => none⟩
          (pathJoin (runPySession ⟨false, false, 2, "/w/s.gql", []⟩ "gql" "grail-file" "T").logDir "anon_run" ++
            "log.txt") (some "")) :=
  run_py_runs_engine_once _ _ ⟨false, false, 2, "/w/s.gql", []⟩ (fun _ h => (List.not_mem_nil _ h).elim)
    (by decide) "gql" "grail-file" "T" "r" _

end GqlPython
