import GqlPython.Job.Instance

/-! # The files a job writes

    A job with log prefix `P = os.path.join(log_dir, label)` writes

    * the engine log `P + 'log.txt'` (`_Instance.run`),
    * the profiler log `P + 'pprof_log.txt'`, opened by each sampler thread,
    * the snapshots `P + 'bm_cpu.7.pprof'`, `P + 'main_heap.0.pprof'`, … that
      the sampler for `'bm'` or `'main'` writes in each cycle (`__pprof`),

    and `GQL.eval` adds the table the engine writes to
    `f'{log_dir}-{label}-expr_to_dataframe_tmp-{seq}.tsv'`, with `seq` drawn
    from the session's counter.

    All these names are the prefix followed by a fixed suffix (`JobFile`), so
    which files two jobs share is decided by comparing suffixes read from the
    end. The results: the snapshot names are injective in (sampler, resource,
    cycle) (`JobFile.suffix_injective`); one suffix ends another only when
    `log.txt` ends `pprof_log.txt` (`suffix_eq_append`); so two prefixes have a
    common file exactly when they are equal or differ by `pprof_`
    (`jobFiles_meet_iff`). The temporary tables of an `eval` are apart from
    every log and snapshot and from each other (`evalTempPath_injective`).
-/

namespace GqlPython

/-! ### Suffixes -/

/-- The two sampler threads `__start_pprof` starts, with the prefix each is
    given: `log_prefix + 'bm'` for the bigmachine master, `log_prefix + 'main'`
    for the engine process. -/
inductive Sampler
  | bm
  | main
  deriving DecidableEq, Repr

/-- The two profiles each cycle of `__pprof` fetches. -/
inductive Resource
  | cpu
  | heap
  deriving DecidableEq, Repr

/-- The text `__start_pprof` appends to the log prefix for this sampler. -/
def Sampler.tag : Sampler → String
  | .bm => "bm"
  | .main => "main"

/-- The text between `_` and `.` in a snapshot name. -/
def Resource.tag : Resource → String
  | .cpu => "cpu"
  | .heap => "heap"

/-- A file a job writes under its log prefix. -/
inductive JobFile
  | engineLog
  | profilerLog
  | snapshot (p : Sampler) (r : Resource) (seq : Nat)
  deriving DecidableEq, Repr

/-- What follows the log prefix in the file's path: `"log.txt"` in `run`,
    `'pprof_log.txt'` and `f'{prefix}_cpu.{seq}.pprof'` in `__pprof`. -/
def JobFile.suffix : JobFile → String
  | .engineLog => "log.txt"
  | .profilerLog => "pprof_log.txt"
  | .snapshot p r seq => p.tag ++ "_" ++ r.tag ++ "." ++ toString seq ++ ".pprof"

/-- The path of a job file under the prefix `P`. -/
def JobFile.path (P : String) (f : JobFile) : String := P ++ f.suffix

theorem not_mem_toDigits_reverse {c : Char} (hc : c.isDigit = false) (n : Nat) :
    c ∉ (Nat.toDigits 10 n).reverse := fun h => by
  simpa [hc] using isDigit_toDigits n c (List.mem_reverse.1 h)

theorem Resource.tag_inj : ∀ {r r' : Resource}, r.tag.data.reverse = r'.tag.data.reverse → r = r'
  | .cpu, .cpu, _ | .heap, .heap, _ => rfl
  | .cpu, .heap, h | .heap, .cpu, h => absurd h (by decide)

theorem Resource.underscore_not_mem (r : Resource) : '_' ∉ r.tag.data.reverse := by
  cases r <;> decide

/-- One sampler tag, reversed, ends another only when they are the same tag. -/
theorem Sampler.tag_rev_eq_append : ∀ {p p' : Sampler} {w : List Char},
    p.tag.data.reverse = p'.tag.data.reverse ++ w → p = p' ∧ w = []
  | .bm, .bm, _, h | .main, .main, _, h => ⟨rfl, by simpa using h⟩
  | .bm, .main, _, h | .main, .bm, _, h => by simp [Sampler.tag] at h

/-- The reversed text of a snapshot suffix: `forpp.`, the reversed cycle
    number, then the rest. -/
theorem snapshot_rev (p : Sampler) (r : Resource) (n : Nat) :
    (JobFile.snapshot p r n).suffix.data.reverse =
      ['f', 'o', 'r', 'p', 'p', '.'] ++ (Nat.toDigits 10 n).reverse ++
        '.' :: (r.tag.data.reverse ++ '_' :: p.tag.data.reverse) := by
  have : (toString n).data = Nat.toDigits 10 n := rfl
  simp only [JobFile.suffix, String.data_append, List.reverse_append, this, List.append_assoc]
  rfl

/-- **One suffix ends another** only when they are equal, or when `pprof_log.txt`
    ends in `log.txt`. -/
theorem suffix_eq_append {f₁ f₂ : JobFile} {w : List Char}
    (h : f₁.suffix.data = w ++ f₂.suffix.data) :
    (w = [] ∧ f₁ = f₂) ∨ (w = "pprof_".data ∧ f₁ = .profilerLog ∧ f₂ = .engineLog) := by
  have hr := congrArg List.reverse h
  rw [List.reverse_append] at hr
  cases f₁ with
  | engineLog => cases f₂ with
    | engineLog => left; simpa [JobFile.suffix] using h
    | profilerLog => have := congrArg List.length h; simp [JobFile.suffix] at this
    | snapshot p r n => rw [snapshot_rev] at hr; simp [JobFile.suffix] at hr
  | profilerLog => cases f₂ with
    | engineLog =>
      right
      exact ⟨List.append_cancel_right (h.symm.trans (by rfl : _ = "pprof_".data ++ _)), rfl, rfl⟩
    | profilerLog => left; simpa [JobFile.suffix] using h
    | snapshot p r n => rw [snapshot_rev] at hr; simp [JobFile.suffix] at hr
  | snapshot p r n => cases f₂ with
    | engineLog => rw [snapshot_rev] at hr; simp [JobFile.suffix] at hr
    | profilerLog => rw [snapshot_rev] at hr; simp [JobFile.suffix] at hr
    | snapshot p' r' n' =>
      rw [snapshot_rev, snapshot_rev] at hr
      simp only [List.append_assoc, List.cons_append, List.nil_append, List.cons.injEq,
        true_and] at hr
      obtain ⟨hD, hY⟩ := append_cons_cancel (not_mem_toDigits_reverse (c := '.') rfl n)
        (not_mem_toDigits_reverse (c := '.') rfl n') hr
      obtain rfl : n = n' := toDigits_injective (List.reverse_injective hD)
      obtain ⟨hR, hP⟩ := append_cons_cancel (Resource.underscore_not_mem r)
        (Resource.underscore_not_mem r') hY
      obtain ⟨rfl, hw⟩ := Sampler.tag_rev_eq_append hP
      exact .inl ⟨List.reverse_eq_nil_iff.1 hw, by rw [Resource.tag_inj hR]⟩

theorem JobFile.suffix_injective : Function.Injective JobFile.suffix := fun f₁ f₂ h => by
  have : f₁.suffix.data = [] ++ f₂.suffix.data := by rw [h]; rfl
  rcases suffix_eq_append this with ⟨-, h⟩ | ⟨h, -⟩
  · exact h
  · cases h

/-- Under one prefix, distinct job files have distinct paths: in particular the
    snapshot path is injective in (sampler, resource, cycle). -/
theorem JobFile.path_injective (P : String) : Function.Injective (JobFile.path P) :=
  fun f₁ f₂ h => JobFile.suffix_injective (by
    simpa [JobFile.path, String.ext_iff] using h)

/-- **Which prefixes share a file.** Jobs with log prefixes `P₁` and `P₂` write a
    common file exactly when the prefixes are equal, or one is the other
    followed by `pprof_`: then the engine log of the longer is the profiler log
    of the shorter. -/
theorem jobFiles_meet_iff (P₁ P₂ : String) :
    (∃ f₁ f₂ : JobFile, f₁.path P₁ = f₂.path P₂) ↔
      P₁ = P₂ ∨ P₂ = P₁ ++ "pprof_" ∨ P₁ = P₂ ++ "pprof_" := by
  constructor
  · rintro ⟨f₁, f₂, h⟩
    rw [JobFile.path, JobFile.path, String.ext_iff, String.data_append, String.data_append,
      List.append_eq_append_iff] at h
    rcases h with ⟨a, h₂, h₁⟩ | ⟨c, h₁, h₂⟩
    · rcases suffix_eq_append h₁ with ⟨rfl, -⟩ | ⟨rfl, -, -⟩
      · left; simpa [String.ext_iff] using h₂.symm
      · right; left; simpa [String.ext_iff] using h₂
    · rcases suffix_eq_append h₂ with ⟨rfl, -⟩ | ⟨rfl, -, -⟩
      · left; simpa [String.ext_iff] using h₁
      · right; right; simpa [String.ext_iff] using h₁
  · rintro (rfl | rfl | rfl)
    · exact ⟨.engineLog, .engineLog, rfl⟩
    · exact ⟨.profilerLog, .engineLog, by simp [JobFile.path, String.ext_iff, JobFile.suffix]⟩
    · exact ⟨.engineLog, .profilerLog, by simp [JobFile.path, String.ext_iff, JobFile.suffix]⟩

/-! ### The temporary table of `eval` -/

/-- `f'{self.__log_dir}-{label}-expr_to_dataframe_tmp-{seq}.tsv'`. -/
def evalTempPath (logDir label : String) (seq : Nat) : String :=
  logDir ++ "-" ++ label ++ "-expr_to_dataframe_tmp-" ++ toString seq ++ ".tsv"

theorem evalTempPath_rev (logDir label : String) (seq : Nat) :
    (evalTempPath logDir label seq).data.reverse =
      ['v', 's', 't', '.'] ++ (Nat.toDigits 10 seq).reverse ++
        '-' :: ("-expr_to_dataframe_tmp".data.reverse ++ label.data.reverse ++
          '-' :: logDir.data.reverse) := by
  have : (toString seq).data = Nat.toDigits 10 seq := rfl
  simp only [evalTempPath, String.data_append, List.reverse_append, this, List.append_assoc]
  rfl

/-- Temporary tables with different counter values differ, whatever the labels. -/
theorem evalTempPath_injective {d l₁ l₂ : String} {n₁ n₂ : Nat}
    (h : evalTempPath d l₁ n₁ = evalTempPath d l₂ n₂) : n₁ = n₂ := by
  have hr := congrArg (fun s : String => s.data.reverse) h
  simp only [evalTempPath_rev, List.cons_append, List.nil_append, List.cons.injEq,
    true_and] at hr
  exact toDigits_injective (List.reverse_injective
    (append_cons_cancel (not_mem_toDigits_reverse (c := '-') rfl n₁)
      (not_mem_toDigits_reverse (c := '-') rfl n₂) hr).1)

/-- Every job file ends in `t` (`.txt`) or `f` (`.pprof`). -/
theorem JobFile.suffix_rev_cons : ∀ f : JobFile,
    ∃ c rest, f.suffix.data.reverse = c :: rest ∧ (c = 't' ∨ c = 'f')
  | .engineLog => ⟨_, _, rfl, .inl rfl⟩
  | .profilerLog => ⟨_, _, rfl, .inl rfl⟩
  | .snapshot p r n => ⟨_, _, snapshot_rev p r n, .inr rfl⟩

/-- A temporary table ends in `.tsv`, no job file does. -/
theorem evalTempPath_ne_path (d l P : String) (n : Nat) (f : JobFile) :
    evalTempPath d l n ≠ f.path P := by
  intro h
  have hr := congrArg (fun s : String => s.data.reverse.head?) h
  obtain ⟨c, rest, hf, hc⟩ := f.suffix_rev_cons
  simp only [JobFile.path, String.data_append, List.reverse_append, evalTempPath_rev, hf,
    List.cons_append, List.head?_cons, Option.some.injEq] at hr
  rcases hc with rfl | rfl <;> exact absurd hr (by decide)

/-! ### The jobs of one session -/

/-- A call of `GQL.run` or `GQL.eval`, with its `label` argument. -/
inductive Request
  | run (label : String)
  | eval (label : String)
  deriving DecidableEq, Repr

/-- A started job: an `eval` has drawn `seq` from `next(self.__seq)`. -/
inductive Call
  | run (label : String)
  | eval (label : String) (seq : Nat)
  deriving DecidableEq, Repr

/-- The label after the default of `run` or `eval`, as `resolveJob` fills it in. -/
def Call.label : Call → String
  | .run l => if l = "" then "anon_run" else l
  | .eval l _ => if l = "" then "anon_expr" else l

/-- `os.path.join(q.log_dir(), label)`, as `Instance.init` computes it. -/
def Call.logPrefix (logDir : String) (c : Call) : String := pathJoin logDir c.label

/-- The counter value an `eval` drew. -/
def Call.seq : Call → Option Nat
  | .run _ => none
  | .eval _ n => some n

/-- The files the job writes in a session whose `log_dir` is `logDir`. -/
def Call.Writes (logDir : String) (c : Call) (path : String) : Prop :=
  (∃ f : JobFile, path = f.path (c.logPrefix logDir)) ∨
    ∃ n, c.seq = some n ∧ path = evalTempPath logDir c.label n

/-- The calls of a session in the order they reach the counter, which starts at
    `seq`: `itertools.count()` gives each `eval` the next number. -/
def drawSeqs (seq : Nat) : List Request → List Call
  | [] => []
  | .run l :: rs => .run l :: drawSeqs seq rs
  | .eval l :: rs => .eval l seq :: drawSeqs (seq + 1) rs

theorem le_of_mem_drawSeqs {s n : Nat} {c : Call} :
    ∀ {rs : List Request}, c ∈ drawSeqs s rs → c.seq = some n → s ≤ n
  | .run _ :: _, h, hn => by
    rcases List.mem_cons.1 h with rfl | h
    · cases hn
    · exact le_of_mem_drawSeqs h hn
  | .eval _ :: _, h, hn => by
    rcases List.mem_cons.1 h with rfl | h
    · cases hn; exact le_rfl
    · exact Nat.le_of_succ_le (le_of_mem_drawSeqs h hn)

/-- Counter values only grow along a session. -/
theorem drawSeqs_seq_lt (s : Nat) (rs : List Request) :
    (drawSeqs s rs).Pairwise fun c₁ c₂ => ∀ n₁ n₂, c₁.seq = some n₁ → c₂.seq = some n₂ → n₁ < n₂ := by
  induction rs generalizing s with
  | nil => exact .nil
  | cons r rs ih =>
    cases r with
    | run l => exact .cons (fun _ _ _ _ h => by cases h) (ih s)
    | eval l =>
      refine .cons (fun c hc n₁ n₂ h₁ h₂ => ?_) (ih (s + 1))
      cases h₁
      exact le_of_mem_drawSeqs hc h₂

/-- **Two jobs with distinct counter values share a file exactly when their log
    prefixes are equal or differ by `pprof_`.** -/
theorem calls_meet_iff (d : String) {c₁ c₂ : Call}
    (hseq : ∀ n₁ n₂, c₁.seq = some n₁ → c₂.seq = some n₂ → n₁ ≠ n₂) :
    (∃ path, c₁.Writes d path ∧ c₂.Writes d path) ↔
      ∃ f₁ f₂ : JobFile, f₁.path (c₁.logPrefix d) = f₂.path (c₂.logPrefix d) := by
  constructor
  · rintro ⟨_, ⟨f₁, rfl⟩ | ⟨n₁, h₁, rfl⟩, ⟨f₂, h⟩ | ⟨n₂, h₂, h⟩⟩
    · exact ⟨f₁, f₂, h⟩
    · exact absurd h.symm (evalTempPath_ne_path _ _ _ _ _)
    · exact absurd h (evalTempPath_ne_path _ _ _ _ _)
    · exact absurd (evalTempPath_injective h) (hseq n₁ n₂ h₁ h₂)
  · rintro ⟨f₁, f₂, h⟩
    exact ⟨_, .inl ⟨f₁, rfl⟩, .inl ⟨f₂, h⟩⟩

/-- **The files of two jobs of one session.** For any calls of `run` and `eval`
    on a session, with any labels: the temporary table of an `eval` is none of
    the logs, profiler logs and snapshots of any job of the session, two
    `eval`s never share a temporary table, and two jobs write a common file
    exactly when their log prefixes `os.path.join(log_dir, label)` are equal or
    one is the other followed by `pprof_`. -/
theorem session_writes_meet_iff (logDir : String) (rs : List Request) :
    (∀ c ∈ drawSeqs 0 rs, ∀ c' ∈ drawSeqs 0 rs, ∀ n, c.seq = some n → ∀ f : JobFile,
        evalTempPath logDir c.label n ≠ f.path (c'.logPrefix logDir)) ∧
    (drawSeqs 0 rs).Pairwise fun c₁ c₂ =>
      (∀ n₁ n₂, c₁.seq = some n₁ → c₂.seq = some n₂ →
          evalTempPath logDir c₁.label n₁ ≠ evalTempPath logDir c₂.label n₂) ∧
      ((∃ path, c₁.Writes logDir path ∧ c₂.Writes logDir path) ↔
        c₁.logPrefix logDir = c₂.logPrefix logDir ∨
          c₂.logPrefix logDir = c₁.logPrefix logDir ++ "pprof_" ∨
          c₁.logPrefix logDir = c₂.logPrefix logDir ++ "pprof_") :=
  ⟨fun _ _ _ _ _ _ f => evalTempPath_ne_path _ _ _ _ f,
    (drawSeqs_seq_lt 0 rs).imp fun h =>
      ⟨fun n₁ n₂ h₁ h₂ he => (h n₁ n₂ h₁ h₂).ne (evalTempPath_injective he),
        (calls_meet_iff logDir fun n₁ n₂ h₁ h₂ => (h n₁ n₂ h₁ h₂).ne).trans
          (jobFiles_meet_iff _ _)⟩⟩

/-- Two `eval` calls with the default label draw different counter values and
    still write the same engine log `log_dir/anon_exprlog.txt`, here with
    `log_dir = /tmp/gql`. -/
theorem default_evals_share_log :
    drawSeqs 0 [.eval "", .eval ""] = [.eval "" 0, .eval "" 1] ∧
      (Call.eval "" 0).Writes "/tmp/gql" "/tmp/gql/anon_exprlog.txt" ∧
      (Call.eval "" 1).Writes "/tmp/gql" "/tmp/gql/anon_exprlog.txt" :=
  ⟨rfl, .inl ⟨.engineLog, rfl⟩, .inl ⟨.engineLog, rfl⟩⟩

end GqlPython
