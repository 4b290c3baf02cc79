import GqlPython.Storage.Files
import GqlPython.Text.Decimal

/-! # Jobs: `GQL.run`, `GQL.eval` and `_Instance`

    A job is started by `GQL.run` or `GQL.eval`. Both check that exactly one
    of `expr` and `script_path` is given and fill in defaults from the session
    (`resolveJob`); `_Instance.__init__` then fixes the log prefix
    `os.path.join(log_dir, label)` and, for an inline expression, a temporary
    script. `_Instance.run` builds one command line (`Instance.cmdline`) and
    invokes the engine with it until it exits with status 0 or the retries run
    out (`retryLoop`).

    The engine is external: its exit status on the `k`-th invocation is
    `call k`. The profiler threads `_Instance.run` starts around the loop are
    the subject of `GqlPython.Job.Profiler`; they do not affect the status.
-/

namespace GqlPython

/-! ### Sessions and job arguments -/

/-- A `GQL` session as its constructor leaves it. The counter `__seq` is
    state of the session and is kept apart. -/
structure GQL where
  gqlPath : String
  grailFilePath : String
  defaultFlags : List String
  /-- `default_params`, a `dict`, in its iteration order. -/
  defaultParams : List (String × String)
  defaultMaxRetries : Int
  /-- `log_prefix` followed by the start time. -/
  logDir : String

/-- The keyword arguments of `GQL.run` and `GQL.eval`. -/
structure JobArgs where
  expr : String
  scriptPath : String
  label : String
  flags : List String
  /-- `gql_params`, a `dict`, in its iteration order. -/
  gqlParams : List (String × String)
  maxRetries : Int

/-- The defaults of `GQL.run`. -/
def runDefaults : JobArgs := ⟨"", "", "", [], [], 0⟩

/-- The defaults of `GQL.eval`: only `max_retries` differs. -/
def evalDefaults : JobArgs := ⟨"", "", "", [], [], -1⟩

/-- The checks and defaults `GQL.run` and `GQL.eval` share; `anonLabel` is
    `'anon_run'` or `'anon_expr'`. -/
def resolveJob (q : GQL) (anonLabel : String) (a : JobArgs) : Except PyError JobArgs :=
  if (a.expr == "") == (a.scriptPath == "") then
    .error (.exception "run: Exactly one of expr or script_path must be set")
  else .ok
    { a with
      label := if a.label = "" then anonLabel else a.label
      flags := if a.flags.isEmpty then q.defaultFlags else a.flags
      maxRetries := if a.maxRetries < 0 then q.defaultMaxRetries else a.maxRetries
      gqlParams := if a.gqlParams.isEmpty then q.defaultParams else a.gqlParams }

theorem resolveJob_maxRetries {q : GQL} {anon : String} {a b : JobArgs}
    (h : resolveJob q anon a = .ok b) :
    b.maxRetries = if a.maxRetries < 0 then q.defaultMaxRetries else a.maxRetries := by
  unfold resolveJob at h; split at h <;> cases h; rfl

theorem resolveJob_label {q : GQL} {anon : String} {a b : JobArgs}
    (h : resolveJob q anon a = .ok b) : b.label = if a.label = "" then anon else a.label := by
  unfold resolveJob at h; split at h <;> cases h; rfl

theorem resolveJob_gqlParams {q : GQL} {anon : String} {a b : JobArgs}
    (h : resolveJob q anon a = .ok b) :
    b.gqlParams = if a.gqlParams.isEmpty then q.defaultParams else a.gqlParams := by
  unfold resolveJob at h; split at h <;> cases h; rfl

/-! ### `_Instance` -/

/-- An `_Instance` after `__init__`. -/
structure Instance where
  logPrefix : String
  label : String
  scriptPath : String
  gqlFlags : List String
  gqlParams : List (String × String)
  maxRetries : Int

/-- The name `tempfile.NamedTemporaryFile(dir=dirname(prefix),
    prefix=basename(prefix), suffix='.gql')` picks, for the random part
    `rand`. -/
def tempScriptPath (logPrefix rand : String) : String :=
  logPrefix ++ "scripttmp" ++ rand ++ ".gql"

/-- `_Instance.__init__`. An inline expression is written to a temporary
    script, whose random name part is `rand`. Only an empty `expr` together
    with an empty `script_path` is refused here; `expr` wins over
    `script_path` when both are given. -/
def Instance.init (q : GQL) (label scriptPath expr : String) (flags : List String)
    (params : List (String × String)) (maxRetries : Int) (rand : String) : Py Instance :=
  if scriptPath = "" ∧ expr = "" then
    Py.raise (.exception "Exactly one of script_path or expr must be set")
  else if label = "" then Py.raise (.exception "label cannot be empty")
  else do
    let logPrefix := pathJoin q.logDir label
    let scriptPath ← if expr ≠ "" then do
        writeFile (tempScriptPath logPrefix rand) expr
        pure (tempScriptPath logPrefix rand)
      else pure scriptPath
    return ⟨logPrefix, label, scriptPath, flags, params, maxRetries⟩

/-- The engine log, `log_prefix + "log.txt"`. -/
def Instance.logPath (i : Instance) : String := i.logPrefix ++ "log.txt"

/-- `2000 + hash(log_path) % 20000` and `22000 + hash(log_path) % 20000`, for
    the process's string hash `hash`. -/
def Instance.ports (i : Instance) (hash : String → Int) : Int × Int :=
  (2000 + hash i.logPath % 20000, 22000 + hash i.logPath % 20000)

/-! ### The command line -/

/-- Unpacking a `str` into `k, v`, as the loop `for k, v in d` does for each key
    `d` yields: it takes the two characters of a two-character key. -/
def unpackKey (key : String) : Except PyError (String × String) :=
  match key.data with
  | [a, b] => .ok (a.toString, b.toString)
  | cs =>
    if cs.length < 2 then
      .error (.value ("not enough values to unpack (expected 2, got " ++
        toString cs.length ++ ")"))
    else .error (.value "too many values to unpack (expected 2)")

/-- `[f'--{k}={v}' for k, v in self.gql_params]`: iterating a `dict` yields its
    keys, so each key, not each item, is unpacked. -/
def renderParams (params : List (String × String)) : Except PyError (List String) :=
  params.mapM fun kv => do
    let (k, v) ← unpackKey kv.1
    return "--" ++ k ++ "=" ++ v

/-- The flags `_Instance.run` appends to `gql_flags`. -/
def profilingFlags (bmPort mainPort : Int) : List String :=
  ["--pprof=:" ++ toString mainPort, "--bigslice.http=:" ++ toString bmPort,
    "--bigslice.parallelism=8192", "--bigslice.system=ec2-gql"]

/-- `cmdline = [self.gql.gql_path()] + gql_flags + [self.script_path] + gql_params`. -/
def Instance.cmdline (i : Instance) (gqlPath : String) (hash : String → Int) :
    Except PyError (List String) := do
  let params ← renderParams i.gqlParams
  return [gqlPath] ++ (i.gqlFlags ++ profilingFlags (i.ports hash).1 (i.ports hash).2) ++
    [i.scriptPath] ++ params

/-- The argument the spec expects for one item of the mapping: `'--' + k + '=' + v`. -/
def paramArg (kv : String × String) : String := "--" ++ kv.1 ++ "=" ++ kv.2

theorem unpackKey_two {key : String} (h : key.length = 2) :
    unpackKey key = .ok (⟨key.data.take 1⟩, ⟨key.data.drop 1⟩) := by
  obtain ⟨cs⟩ := key
  match cs, h with
  | [_, _], _ => rfl

theorem unpackKey_ne_two {key : String} (h : key.length ≠ 2) :
    ∃ msg, unpackKey key = .error (.value msg) := by
  obtain ⟨cs⟩ := key
  unfold unpackKey
  split
  · next heq => exact absurd (by rw [show cs = _ from heq]; rfl) h
  · split <;> exact ⟨_, rfl⟩

/-- With two-character keys the rendering succeeds, and a key `k` is passed as
    the item `(k[:1], k[1:])` would be under the spec's rendering. -/
theorem renderParams_two_char_keys {P : List (String × String)}
    (h : ∀ kv ∈ P, kv.1.length = 2) :
    renderParams P = .ok (P.map fun kv => paramArg (⟨kv.1.data.take 1⟩, ⟨kv.1.data.drop 1⟩)) := by
  induction P with
  | nil => rfl
  | cons p P ih =>
    simp only [renderParams, List.mapM_cons, unpackKey_two (h p (List.mem_cons_self _ _))]
    rw [show P.mapM _ = renderParams P from rfl,
      ih (fun kv hkv => h kv (List.mem_cons_of_mem _ hkv))]
    rfl

/-- Any key of another length makes the rendering raise `ValueError`. -/
theorem renderParams_error {P : List (String × String)} (h : ∃ kv ∈ P, kv.1.length ≠ 2) :
    ∃ msg, renderParams P = .error (.value msg) := by
  induction P with
  | nil => simp at h
  | cons p P ih =>
    simp only [renderParams, List.mapM_cons]
    by_cases hp : p.1.length = 2
    · rw [unpackKey_two hp]
      obtain ⟨kv, hkv, hne⟩ := h
      rcases List.mem_cons.1 hkv with rfl | hkv
      · exact absurd hp hne
      · obtain ⟨msg, hm⟩ := ih ⟨kv, hkv, hne⟩
        rw [show P.mapM _ = renderParams P from rfl, hm]
        exact ⟨msg, rfl⟩
    · obtain ⟨msg, hm⟩ := unpackKey_ne_two hp
      rw [hm]; exact ⟨msg, rfl⟩

/-- `run.py --quintile` passes `{'quintile': '0'}`; unpacking the key
    `'quintile'` raises before the engine is ever invoked. -/
theorem quintile_param_raises (logPrefix label script gqlPath : String) (flags : List String)
    (maxRetries : Int) (hash : String → Int) :
    (⟨logPrefix, label, script, flags, [("quintile", "0")], maxRetries⟩ : Instance).cmdline
      gqlPath hash = .error (.value "too many values to unpack (expected 2)") := rfl

/-! ### The retry loop -/

/-- The loop of `_Instance.run`, from `retries` and `self.status`: while
    `retries <= self.max_retries` the engine is invoked; status 0 breaks, any
    other status counts one retry. Returns the number of invocations made and
    the final `self.status`. -/
def retryLoop (maxRetries : Int) (call : Nat → Int) (retries : Nat) (status : Int) : Nat × Int :=
  if (retries : Int) ≤ maxRetries then
    if call retries = 0 then (retries + 1, call retries)
    else retryLoop maxRetries call (retries + 1) (call retries)
  else (retries, status)
termination_by (maxRetries + 1 - retries).toNat

section
variable {r : Int} {call : Nat → Int}

theorem retryLoop_of_gt {j : Nat} {st : Int} (h : ¬ (j : Int) ≤ r) :
    retryLoop r call j st = (j, st) := by
  rw [retryLoop, if_neg h]

/-- From `retries = j ≤ max_retries`, the loop invokes the engine at least once
    more and at most up to `max_retries + 1` invocations in all; it stops early
    only on a zero status, and reports the last invocation's status. -/
theorem retryLoop_from {j : Nat} {st : Int} (hj : (j : Int) ≤ r) :
    j < (retryLoop r call j st).1 ∧ ((retryLoop r call j st).1 : Int) ≤ r + 1 ∧
      (retryLoop r call j st).2 = call ((retryLoop r call j st).1 - 1) ∧
      (∀ i, j ≤ i → i + 1 < (retryLoop r call j st).1 → call i ≠ 0) ∧
      (((retryLoop r call j st).1 : Int) < r + 1 →
        call ((retryLoop r call j st).1 - 1) = 0) := by
  induction j, st using retryLoop.induct r call with
  | case1 j st hle hz =>
    rw [retryLoop, if_pos hle, if_pos hz]
    exact ⟨by omega, by omega, rfl, fun i _ _ => by omega, fun _ => by simpa using hz⟩
  | case2 j st hle hz ih =>
    rw [retryLoop, if_pos hle, if_neg hz]
    by_cases hj' : ((j + 1 : Nat) : Int) ≤ r
    · obtain ⟨h1, h2, h3, h4, h5⟩ := ih hj'
      refine ⟨by omega, h2, h3, fun i hi hi' => ?_, h5⟩
      rcases Nat.eq_or_lt_of_le hi with rfl | hi
      · exact hz
      · exact h4 i hi hi'
    · rw [retryLoop_of_gt hj']
      exact ⟨by omega, by omega, by simp, fun i _ _ => by rwa [show i = j by omega],
        fun _ => by omega⟩
  | case3 j st hgt => exact absurd hj hgt

/-- With a negative `max_retries` the loop body never runs: no invocation, and
    the initial status 0 is reported. -/
theorem retryLoop_neg (hr : r < 0) : retryLoop r call 0 0 = (0, 0) :=
  retryLoop_of_gt (by omega)

/-- The 1-based position of the first zero status, `none` when there is none. -/
def IsFirstZero (call : Nat → Int) : Option Nat → Prop
  | some k => 0 < k ∧ call (k - 1) = 0 ∧ ∀ i, i + 1 < k → call i ≠ 0
  | none => ∀ i, call i ≠ 0

/-- `min (r + 1) k`, with `k = none` standing for an infinite `k`. -/
def minInvocations (r : Nat) : Option Nat → Nat
  | some k => min (r + 1) k
  | none => r + 1

/-- **Retries**: with `max_retries = r ≥ 0` the engine is invoked exactly
    `min (r + 1) k` times, `k` the position of the first zero status, and the
    status reported is the last invocation's. -/
theorem retryLoop_invocations (hr : 0 ≤ r) {k : Option Nat} (hk : IsFirstZero call k) :
    (retryLoop r call 0 0).1 = minInvocations r.toNat k ∧
      (retryLoop r call 0 0).2 = call ((retryLoop r call 0 0).1 - 1) := by
  obtain ⟨h1, h2, h3, h4, h5⟩ := @retryLoop_from r call 0 0 (by simpa)
  refine ⟨?_, h3⟩
  generalize (retryLoop r call 0 0).1 = n at *
  cases k with
  | none => have := mt h5 (hk (n - 1)); simp only [minInvocations]; omega
  | some k =>
    obtain ⟨hk0, hkz, hkb⟩ := hk
    simp only [minInvocations]
    by_cases hn : (n : Int) < r + 1
    · have hz := h5 hn
      have : n = k := by
        by_contra hne
        rcases Nat.lt_or_gt_of_ne hne with hlt | hgt
        · exact hkb (n - 1) (by omega) hz
        · exact h4 (k - 1) (by omega) (by omega) hkz
      omega
    · have : ¬ k < n := fun hlt => h4 (k - 1) (by omega) (by omega) hkz
      omega

end

end GqlPython
