import GqlPython.Tidy.Csv

/-! # GQL file access: local files, S3 objects and the local cache

    `GQL` reads and writes paths that are either local files or S3 objects
    (`s3://...`). Remote reads go through a cache directory `CACHE_DIR`, where
    `maybe_cache_file` keeps a copy of each object under the key
    `path.replace('/', '_')`; remote writes go through a staging file in the same
    directory (`_S3FileWriter`) that `copy_file` uploads on close. Copies are made
    by the `grail-file cp` binary the `GQL` constructor builds.

    The state is a `Store`: the contents of local files and of S3 objects by
    path. Operations run in `Py`, the state-and-exception monad, so that the
    store an exception leaves behind is kept: `copy_file`'s `finally` and
    `file_exists`'s `except` both depend on it. Directories and permissions are
    not modelled: a local write always succeeds.
-/

namespace GqlPython

/-! ### Exceptions and the store -/

/-- The exceptions the modelled code raises or lets through. -/
inductive PyError
  /-- `raise Exception(msg)` in `gql.py` or `run.py`. -/
  | exception (msg : String)
  /-- `FileNotFoundError` from `open`. -/
  | fileNotFound (path : String)
  /-- `subprocess.CalledProcessError` from `check_call`. -/
  | calledProcess (argv : List String)
  /-- `_csv.Error`. -/
  | csv (msg : String)
  /-- `IndexError: list index out of range`. -/
  | index
  /-- `ValueError`, e.g. from unpacking, `int()` or `float()`. -/
  | value (what : String)
  /-- `TypeError`. -/
  | type (what : String)
  /-- `OverflowError`. -/
  | overflow (what : String)
  /-- `AssertionError`. -/
  | assertion
  deriving DecidableEq, Repr

/-- Local files and S3 objects, by path. -/
structure Store where
  files : String → Option String
  objects : String → Option String

/-- How running modelled code ends: with a value or an exception, and in
    either case with the store it leaves. -/
inductive Outcome (α : Type) where
  | ok (a : α) (σ : Store)
  | raised (e : PyError) (σ : Store)

/-- Code that reads and writes the store and may raise. -/
def Py (α : Type) : Type := Store → Outcome α

namespace Py

/-- Sequencing: an exception skips the rest. -/
def bind {α β : Type} (x : Py α) (f : α → Py β) : Py β := fun σ =>
  match x σ with
  | .ok a σ => f a σ
  | .raised e σ => .raised e σ

instance : Monad Py where
  pure a := fun σ => .ok a σ
  bind := Py.bind

/-- The current store. -/
def get : Py Store := fun σ => .ok σ σ

/-- Update the store. -/
def modify (f : Store → Store) : Py Unit := fun σ => .ok () (f σ)

/-- `raise e`. -/
def raise {α : Type} (e : PyError) : Py α := fun σ => .raised e σ

/-- `try: x finally: fin`: `fin` runs in both cases, and an exception it
    raises replaces the one `x` raised. -/
def tryFinally {α β : Type} (x : Py α) (fin : Py β) : Py α := fun σ =>
  match x σ with
  | .ok a σ => match fin σ with
    | .ok _ σ => .ok a σ
    | .raised e σ => .raised e σ
  | .raised e σ => match fin σ with
    | .ok _ σ => .raised e σ
    | .raised e' σ => .raised e' σ

/-- `try: x except ...: handler`, the handler seeing the exception and the
    store `x` left. -/
def tryCatch {α : Type} (x : Py α) (handler : PyError → Py α) : Py α := fun σ =>
  match x σ with
  | .ok a σ => .ok a σ
  | .raised e σ => handler e σ

@[simp] theorem bind_apply {α β : Type} (x : Py α) (f : α → Py β) (σ : Store) :
    (x >>= f) σ = match x σ with
      | .ok a σ' => f a σ'
      | .raised e σ' => .raised e σ' := rfl

@[simp] theorem pure_apply {α : Type} (a : α) (σ : Store) : (pure a : Py α) σ = .ok a σ := rfl

@[simp] theorem get_apply (σ : Store) : get σ = .ok σ σ := rfl

@[simp] theorem modify_apply (f : Store → Store) (σ : Store) : modify f σ = .ok () (f σ) := rfl

@[simp] theorem raise_apply {α : Type} (e : PyError) (σ : Store) :
    (raise e : Py α) σ = .raised e σ := rfl

/-- A computation of `Except` run in `Py`: its error is raised. -/
def ofExcept {α : Type} : Except PyError α → Py α
  | .ok a => pure a
  | .error e => Py.raise e

@[simp] theorem ofExcept_apply {α : Type} (x : Except PyError α) (σ : Store) :
    ofExcept x σ = match x with
      | .ok a => .ok a σ
      | .error e => .raised e σ := by
  cases x <;> rfl

/-- A sequence that returns ran both parts to a return. -/
theorem bind_ok {α β : Type} {x : Py α} {f : α → Py β} {σ σ'' : Store} {b : β}
    (h : (x >>= f) σ = .ok b σ'') : ∃ a σ', x σ = .ok a σ' ∧ f a σ' = .ok b σ'' := by
  rw [bind_apply] at h
  cases hx : x σ with
  | ok a σ' => rw [hx] at h; exact ⟨a, σ', rfl, h⟩
  | raised e σ' => rw [hx] at h; cases h

theorem ofExcept_ok {α : Type} {x : Except PyError α} {σ σ' : Store} {a : α}
    (h : ofExcept x σ = .ok a σ') : x = .ok a ∧ σ' = σ := by
  cases x with
  | ok a' => cases h; exact ⟨rfl, rfl⟩
  | error e => cases h

end Py

/-- Set or delete one local file. -/
def Store.setFile (σ : Store) (p : String) (c : Option String) : Store :=
  { σ with files := fun q => if q = p then c else σ.files q }

/-- Set one S3 object. -/
def Store.setObject (σ : Store) (p : String) (c : Option String) : Store :=
  { σ with objects := fun q => if q = p then c else σ.objects q }

@[simp] theorem Store.setFile_files (σ : Store) (p q : String) (c : Option String) :
    (σ.setFile p c).files q = if q = p then c else σ.files q := rfl

@[simp] theorem Store.setFile_objects (σ : Store) (p : String) (c : Option String) :
    (σ.setFile p c).objects = σ.objects := rfl

@[simp] theorem Store.setObject_files (σ : Store) (p : String) (c : Option String) :
    (σ.setObject p c).files = σ.files := rfl

@[simp] theorem Store.setObject_objects (σ : Store) (p q : String) (c : Option String) :
    (σ.setObject p c).objects q = if q = p then c else σ.objects q := rfl

@[simp] theorem Store.setFile_setFile (σ : Store) (p : String) (a b : Option String) :
    (σ.setFile p a).setFile p b = σ.setFile p b := by
  simp only [Store.setFile, Store.mk.injEq, and_true]
  funext q; split <;> rfl

/-- Setting a file to what it already holds changes nothing. -/
theorem Store.setFile_of_eq {σ : Store} {p : String} {c : Option String} (h : σ.files p = c) :
    σ.setFile p c = σ := by
  simp only [Store.setFile]
  congr
  funext q
  split
  · next hq => rw [hq, h]
  · rfl

/-- Whether a path names an S3 object (`path.startswith('s3://')`). -/
def isS3 (p : String) : Bool := startsWith p "s3://"

/-- The content at a path, in the store the path lives in. -/
def Store.get (σ : Store) (p : String) : Option String :=
  if isS3 p then σ.objects p else σ.files p

/-- `open(path).read()` for a local file. -/
def readFile (p : String) : Py String := do
  match (← Py.get).files p with
  | some c => pure c
  | none => Py.raise (.fileNotFound p)

/-- `open(path, 'w')`, writes, and `close()` for a local file. -/
def writeFile (p c : String) : Py Unit := Py.modify (·.setFile p (some c))

/-- `os.path.exists(path)` for a local path. -/
def existsFile (p : String) : Py Bool := return ((← Py.get).files p).isSome

theorem readFile_apply (p : String) (σ : Store) :
    readFile p σ = match σ.files p with
      | some c => .ok c σ
      | none => .raised (.fileNotFound p) σ := by
  simp only [readFile, Py.bind_apply, Py.get_apply]; cases σ.files p <;> rfl

@[simp] theorem writeFile_apply (p c : String) (σ : Store) :
    writeFile p c σ = .ok () (σ.setFile p (some c)) := rfl

@[simp] theorem existsFile_apply (p : String) (σ : Store) :
    existsFile p σ = .ok (σ.files p).isSome σ := rfl

/-! ### Copies -/

/-- `grail-file cp src dst` under `check_call`: it exits nonzero, and
    `check_call` raises, when the source does not exist. -/
def grailFileCp (grailFile src dst : String) : Py Unit := do
  match (← Py.get).get src with
  | none => Py.raise (.calledProcess [grailFile, "cp", src, dst])
  | some c =>
    Py.modify fun τ => if isS3 dst then τ.setObject dst (some c) else τ.setFile dst (some c)

/-- `_removeall(path)`: S3 paths are left alone, a local path is deleted. -/
def removeall (p : String) : Py Unit :=
  if isS3 p then pure () else Py.modify (·.setFile p none)

/-- `GQL.copy_file`: the copy, then `_removeall(to_path)` in a `finally`. The
    paths are taken as already absolute and normalised, so `abspath` is left
    out. -/
def copyFile (grailFile src dst : String) : Py Unit :=
  Py.tryFinally (grailFileCp grailFile src dst) (removeall dst)

/-- Copying to a local path: the copy is made and then deleted again by the
    `finally`, whether or not `grail-file` succeeded. -/
theorem copyFile_local {g src dst : String} {σ : Store} (h : isS3 dst = false) :
    copyFile g src dst σ =
      match σ.get src with
      | none => .raised (.calledProcess [g, "cp", src, dst]) (σ.setFile dst none)
      | some c => .ok () ((σ.setFile dst (some c)).setFile dst none) := by
  simp only [copyFile, Py.tryFinally, grailFileCp, removeall, h, Py.bind_apply, Py.get_apply]
  cases σ.get src <;> simp

/-- Copying to S3: `_removeall` leaves the uploaded object alone. -/
theorem copyFile_s3 {g src dst : String} {σ : Store} (h : isS3 dst = true) :
    copyFile g src dst σ =
      match σ.get src with
      | none => .raised (.calledProcess [g, "cp", src, dst]) σ
      | some c => .ok () (σ.setObject dst (some c)) := by
  simp only [copyFile, Py.tryFinally, grailFileCp, removeall, h, Py.bind_apply, Py.get_apply]
  cases σ.get src <;> simp

/-! ### Reads through the cache -/

section
variable (cacheDir grailFile : String)

/-- `os.path.join(CACHE_DIR, path.replace('/', '_'))`, the cache file of an
    S3 path. -/
def cachePath (p : String) : String := pathJoin cacheDir (replaceChar p '/' '_')

/-- `GQL.maybe_cache_file`. -/
def maybeCacheFile (path : String) : Py String := do
  if isS3 path then
    let localPath := cachePath cacheDir path
    if !(← existsFile localPath) then copyFile grailFile path localPath
    return localPath
  else return path

/-- `GQL.open_file`, with the content the returned file object reads. -/
def openFile (path : String) : Py String := do
  readFile (← maybeCacheFile cacheDir grailFile path)

/-- `GQL.file_exists`: `open_file` with `CalledProcessError` and
    `FileNotFoundError` turned into `False`. -/
def fileExists (path : String) : Py Bool :=
  Py.tryCatch (do let _ ← openFile cacheDir grailFile path; return true) fun e =>
    match e with
    | .calledProcess _ | .fileNotFound _ => return false
    | e => Py.raise e

/-- The local staging file of `_S3FileWriter`:
    `os.path.join(CACHE_DIR, path.replace('/', '_') + 'tmp')`. -/
def stagingPath (p : String) : String := pathJoin cacheDir (replaceChar p '/' '_' ++ "tmp")

/-- `GQL.create_file(path)` followed by writes of `content` and `close()`. For
    an S3 path this is `_S3FileWriter`: the content goes to the staging file,
    which `close` hands to `copy_file`. -/
def createFile (path content : String) : Py Unit :=
  if isS3 path then do
    writeFile (stagingPath cacheDir path) content
    copyFile grailFile (stagingPath cacheDir path) path
  else writeFile path content

end

/-! ### `open_tsv` -/

/-- `_comment_stripper`: drops lines starting with `#` and blank lines, and the
    first line left, which is the header. `n` counts the lines kept so far. -/
def commentStripper (n : Nat) : List String → List String
  | [] => []
  | line :: rest =>
    if line.data.take 1 = ['#'] then commentStripper n rest
    else if isBlank line then commentStripper n rest
    else if n + 1 = 1 then commentStripper (n + 1) rest
    else line :: commentStripper (n + 1) rest

/-- A line that the stripper keeps: not a comment, not blank. -/
def KeptLine (line : String) : Prop := line.data.take 1 ≠ ['#'] ∧ isBlank line = false

instance : DecidablePred KeptLine := fun _ => inferInstanceAs (Decidable (_ ∧ _))

/-- **The stripper as a filter.** With its counter at `n`, the stripper yields
    the kept lines in order, less the first one while no line has been kept. -/
theorem commentStripper_eq_filter : ∀ (n : Nat) (ls : List String),
    commentStripper n ls = (ls.filter fun l => decide (KeptLine l)).drop (1 - n)
  | n, [] => by simp [commentStripper]
  | n, line :: rest => by
    rw [commentStripper, List.filter_cons]
    by_cases h1 : line.data.take 1 = ['#']
    · simp [h1, KeptLine, commentStripper_eq_filter n rest]
    by_cases h2 : isBlank line = true
    · simp [h2, KeptLine, commentStripper_eq_filter n rest]
    have hk : decide (KeptLine line) = true := decide_eq_true ⟨h1, Bool.eq_false_iff.2 h2⟩
    rw [if_neg h1, if_neg h2, if_pos hk]
    split
    · rw [commentStripper_eq_filter, show n = 0 by omega]; rfl
    · rw [commentStripper_eq_filter, show 1 - (n + 1) = 0 by omega, show 1 - n = 0 by omega]; rfl

/-- **`_comment_stripper(L)`**: the lines that are neither comments nor blank,
    in order, less the first of them, which is the header. -/
theorem comment_stripper_drop_header (L : List String) :
    commentStripper 0 L =
      (L.filter fun l => !startsWith l "#" && !(pyStrip l.data).isEmpty).drop 1 := by
  have hkeep : ∀ l : String,
      (!startsWith l "#" && !(pyStrip l.data).isEmpty) = decide (KeptLine l) := fun l => by
    rw [Bool.eq_iff_iff]
    simp [KeptLine, ← startsWith_hash_iff, ← isBlank_iff_pyStrip]
  simp only [commentStripper_eq_filter 0 L, hkeep]

example : commentStripper 0 ["# c", "name", "  ", "a", "#b", "c\n"] = ["a", "c\n"] := by decide

/-- A kept line stays kept with its newline. -/
theorem KeptLine.newline {line : String} (h : KeptLine line) : KeptLine (line ++ "\n") := by
  obtain ⟨h1, h2⟩ := h
  refine ⟨?_, by simp [h2]⟩
  cases hl : line.data <;> simp_all [isBlank]

/-- A header and rows that are all kept lines: the stripper yields the rows. -/
theorem commentStripper_header {hd : String} {ls : List String} (hh : KeptLine hd)
    (h : ∀ l ∈ ls, KeptLine l) : commentStripper 0 (hd :: ls) = ls := by
  rw [commentStripper_eq_filter, List.filter_cons, if_pos (decide_eq_true hh),
    List.filter_eq_self.2 fun l hl => decide_eq_true (h l hl)]
  rfl

section
variable (cacheDir grailFile : String) (btsvToTsv : String → Option String)

/-- The `grail-query` translation `open_tsv` runs for a `.btsv` file:
    `btsvToTsv` is what `read(...) | write(...)` makes of the binary content,
    `none` when the command fails. -/
def translateBtsv (path tsvPath : String) : Py Unit := do
  let argv := ["grail-query", "-overwrite-files", "-eval",
    "read(`" ++ path ++ "`) | write(`" ++ tsvPath ++ "`)"]
  match (← Py.get).files path >>= btsvToTsv with
  | some c => writeFile tsvPath c
  | none => Py.raise (.calledProcess argv)

/-- `GQL.open_tsv`: the lines the returned `csv.reader` parses, i.e. the
    comment-stripped lines of the file, or of its `.tsv` translation for a
    `.btsv` path. -/
def openTsv (path : String) : Py (List String) := do
  let path ← maybeCacheFile cacheDir grailFile path
  let path ← if endsWith path ".btsv" then do
      let tsvPath := path.replace ".btsv" ".tsv"
      if !(← existsFile tsvPath) then translateBtsv btsvToTsv path tsvPath
      pure tsvPath
    else pure path
  return commentStripper 0 (readLines (← readFile path))

end

end GqlPython
