import GqlPython.Storage.Files

/-! # What the cache serves

    `maybe_cache_file` is meant to download an S3 object once into
    `CACHE_DIR` and reuse the copy. It downloads with `copy_file`, whose
    `finally: _removeall(to_path)` deletes the local destination of every copy,
    successful or not: the copy the cache has just made is gone before
    `open_file` opens it. The sibling `copy_tsv` cleans up only on failure
    (`except: _removeall(to_path); raise`).

    Two consequences for every store whose cache holds no file for an S3
    path `p`:

    * `open_file(p)` raises and `file_exists(p)` is `False`, even for an
      object that exists (`openFile_uncached`, `fileExists_uncached`); in
      particular `file_exists(p)` is `False` right after `create_file(p)` has
      uploaded it (`fileExists_after_createFile`), the scenario of
      `test_file_exists`.
-/

namespace GqlPython

/-- `CACHE_DIR`: `/tmp/gql_python_cache_` followed by `$USER`. -/
def cacheDirOf (user : String) : String := "/tmp/gql_python_cache_" ++ user

section
variable (user grailFile : String) {p c : String} {σ : Store}

/-! ### Cache paths -/

theorem cacheDirOf_head : (cacheDirOf user).data.head? = some '/' := rfl

theorem cachePath_local (q : String) : isS3 (cachePath (cacheDirOf user) q) = false :=
  startsWith_eq_false_of_head (pathJoin_head (cacheDirOf_head user)) rfl (by decide)

theorem stagingPath_local (q : String) : isS3 (stagingPath (cacheDirOf user) q) = false :=
  startsWith_eq_false_of_head (pathJoin_head (cacheDirOf_head user)) rfl (by decide)

/-- The cache key of an S3 path starts with the `s` of `s3:`. -/
theorem key_head (hp : isS3 p) : (replaceChar p '/' '_').data.head? = some 's' := by
  obtain ⟨t, ht⟩ := List.isPrefixOf_iff_prefix.1 hp
  simp [replaceChar, ← ht]

theorem stagingPath_eq (hp : isS3 p) :
    stagingPath (cacheDirOf user) p = cachePath (cacheDirOf user) p ++ "tmp" :=
  pathJoin_append _ (by rw [key_head hp]; decide) (by
    intro h; have := key_head hp; rw [h] at this; cases this)

theorem cachePath_ne_stagingPath (hp : isS3 p) :
    cachePath (cacheDirOf user) p ≠ stagingPath (cacheDirOf user) p := by
  rw [stagingPath_eq user hp]
  intro h
  have := congrArg (·.length) (congrArg String.data h)
  simp at this

theorem isS3_append {q : String} (t : String) (hq : isS3 q) : isS3 (q ++ t) := by
  obtain ⟨u, hu⟩ := List.isPrefixOf_iff_prefix.1 hq
  exact List.isPrefixOf_iff_prefix.2 ⟨u ++ t.data, by simp [← hu]⟩

/-! ### Reads of an uncached object -/

/-- `maybe_cache_file` on an uncached S3 path returns the cache path, which
    the copy's `finally` has left deleted. -/
theorem maybeCacheFile_uncached (hp : isS3 p)
    (hc : σ.files (cachePath (cacheDirOf user) p) = none) :
    maybeCacheFile (cacheDirOf user) grailFile p σ =
      match σ.objects p with
      | none => .raised (.calledProcess [grailFile, "cp", p, cachePath (cacheDirOf user) p])
          (σ.setFile (cachePath (cacheDirOf user) p) none)
      | some _ => .ok (cachePath (cacheDirOf user) p)
          (σ.setFile (cachePath (cacheDirOf user) p) none) := by
  simp only [maybeCacheFile, hp, if_true, Py.bind_apply, existsFile_apply, hc, Option.isSome_none,
    Bool.not_false, copyFile_local (cachePath_local user p), Store.get, Py.pure_apply]
  cases σ.objects p <;> simp

/-- **`open_file` of an uncached S3 object raises**, `FileNotFoundError` when
    the object exists. -/
theorem openFile_uncached (hp : isS3 p) (hc : σ.files (cachePath (cacheDirOf user) p) = none) :
    openFile (cacheDirOf user) grailFile p σ =
      .raised (if σ.objects p = none
          then .calledProcess [grailFile, "cp", p, cachePath (cacheDirOf user) p]
          else .fileNotFound (cachePath (cacheDirOf user) p))
        (σ.setFile (cachePath (cacheDirOf user) p) none) := by
  simp only [openFile, Py.bind_apply, maybeCacheFile_uncached user grailFile hp hc]
  cases σ.objects p <;> simp [readFile_apply]

/-- **`file_exists` of an uncached S3 object is `False`**, whether or not the
    object exists. -/
theorem fileExists_uncached (hp : isS3 p) (hc : σ.files (cachePath (cacheDirOf user) p) = none) :
    fileExists (cacheDirOf user) grailFile p σ =
      .ok false (σ.setFile (cachePath (cacheDirOf user) p) none) := by
  simp only [fileExists, Py.tryCatch, Py.bind_apply, openFile_uncached user grailFile hp hc]
  split <;> rfl

/-! ### Writes -/

/-- `create_file` of an S3 path uploads the content and leaves the staging
    file behind. -/
theorem createFile_s3 (hp : isS3 p) :
    createFile (cacheDirOf user) grailFile p c σ =
      .ok () ((σ.setFile (stagingPath (cacheDirOf user) p) (some c)).setObject p (some c)) := by
  simp [createFile, hp, copyFile_s3 hp, Store.get, stagingPath_local]

/-- **A freshly written object is reported missing.** From any store whose
    cache holds no file for `p`, after `create_file(p)` writes `c`,
    `file_exists(p)` returns `False` while the object `p` holds `c`. -/
theorem fileExists_after_createFile (hp : isS3 p)
    (hc : σ.files (cachePath (cacheDirOf user) p) = none) :
    ∃ σ', (do createFile (cacheDirOf user) grailFile p c
              fileExists (cacheDirOf user) grailFile p) σ = .ok false σ' ∧
      σ'.objects p = some c := by
  have hc' : ((σ.setFile (stagingPath (cacheDirOf user) p) (some c)).setObject p
      (some c)).files (cachePath (cacheDirOf user) p) = none := by
    simp [cachePath_ne_stagingPath user hp, hc]
  simp only [Py.bind_apply, createFile_s3 user grailFile hp, fileExists_uncached user grailFile hp hc']
  exact ⟨_, rfl, by simp⟩

/-! ### Reads leave the store as they found it -/

/-- **`maybe_cache_file` is a pure read.** The copy it makes is deleted again
    by `copy_file`'s `finally`, so the store is the one it started with; it
    returns the cache path when the cache file or the object exists, and
    raises otherwise. -/
theorem maybeCacheFile_apply (p : String) (σ : Store) :
    maybeCacheFile (cacheDirOf user) grailFile p σ =
      if isS3 p then
        if (σ.files (cachePath (cacheDirOf user) p)).isSome || (σ.objects p).isSome then
          .ok (cachePath (cacheDirOf user) p) σ
        else .raised (.calledProcess [grailFile, "cp", p, cachePath (cacheDirOf user) p]) σ
      else .ok p σ := by
  by_cases hp : isS3 p = true
  · rw [if_pos hp]
    cases hc : σ.files (cachePath (cacheDirOf user) p) with
    | none =>
      rw [maybeCacheFile_uncached user grailFile hp hc, Store.setFile_of_eq hc]
      cases σ.objects p <;> rfl
    | some c => simp [maybeCacheFile, hp, hc]
  · simp [maybeCacheFile, hp]

/-- A path `maybe_cache_file` resolves stays resolved, to the same local
    path, while files are only added and the objects stay. -/
theorem maybeCacheFile_grow {p r : String} {σ σ' : Store}
    (hm : maybeCacheFile (cacheDirOf user) grailFile p σ = .ok r σ)
    (hf : ∀ q, (σ.files q).isSome → (σ'.files q).isSome) (ho : σ'.objects = σ.objects) :
    maybeCacheFile (cacheDirOf user) grailFile p σ' = .ok r σ' := by
  rw [maybeCacheFile_apply] at hm ⊢
  by_cases hp : isS3 p = true
  · simp only [hp, if_true] at hm ⊢
    split at hm
    · next h =>
      cases hm
      rw [if_pos]
      rcases Bool.or_eq_true _ _ ▸ h with h | h
      · simp [hf _ h]
      · simp [ho, h]
    · cases hm
  · simpa [hp] using hm

/-- **A read of an S3 path sees only the cache.** `open_file(p)` returns the
    cache file of `p` when there is one and raises otherwise, and
    `file_exists(p)` says whether that cache file exists: what the object
    holds never reaches the caller, and neither call changes the store. -/
theorem s3_reads_see_cache (hp : isS3 p) (σ : Store) :
    openFile (cacheDirOf user) grailFile p σ =
      (match σ.files (cachePath (cacheDirOf user) p) with
        | some c => .ok c σ
        | none => .raised (if σ.objects p = none
            then .calledProcess [grailFile, "cp", p, cachePath (cacheDirOf user) p]
            else .fileNotFound (cachePath (cacheDirOf user) p)) σ) ∧
    fileExists (cacheDirOf user) grailFile p σ =
      .ok (σ.files (cachePath (cacheDirOf user) p)).isSome σ := by
  have hopen : openFile (cacheDirOf user) grailFile p σ =
      (match σ.files (cachePath (cacheDirOf user) p) with
        | some c => .ok c σ
        | none => .raised (if σ.objects p = none
            then .calledProcess [grailFile, "cp", p, cachePath (cacheDirOf user) p]
            else .fileNotFound (cachePath (cacheDirOf user) p)) σ) := by
    simp only [openFile, Py.bind_apply, maybeCacheFile_apply user grailFile p σ, hp, if_true]
    cases hc : σ.files (cachePath (cacheDirOf user) p) <;> cases σ.objects p <;>
      simp [readFile_apply, hc]
  refine ⟨hopen, ?_⟩
  simp only [fileExists, Py.tryCatch, Py.bind_apply, hopen]
  cases σ.files (cachePath (cacheDirOf user) p) <;> cases σ.objects p <;> rfl

end

/-- An object whose cache file is there: reading it serves the cache file,
    not the object. -/
theorem s3_reads_see_cache_stale :
    let σ : Store := ⟨fun q => if q = cachePath (cacheDirOf "alice") "s3://b/x" then some "old" else none,
      fun q => if q = "s3://b/x" then some "new" else none⟩
    openFile (cacheDirOf "alice") "grail-file" "s3://b/x" σ = .ok "old" σ ∧
      fileExists (cacheDirOf "alice") "grail-file" "s3://b/x" σ = .ok true σ := by
  intro σ
  obtain ⟨h1, h2⟩ := s3_reads_see_cache "alice" "grail-file" (p := "s3://b/x") rfl σ
  exact ⟨h1.trans (by simp [σ]), h2.trans (by simp [σ])⟩

/-! ### `open_tsv` once and twice -/

section
variable (user grailFile : String) (btsvToTsv : String → Option String)

/-- `open_tsv` once `maybe_cache_file` has resolved the path to `r`: a
    `.btsv` file is read through its `.tsv` translation, which is made only
    when it does not exist yet. -/
theorem openTsv_apply {p r : String} {σ : Store}
    (hm : maybeCacheFile (cacheDirOf user) grailFile p σ = .ok r σ) :
    openTsv (cacheDirOf user) grailFile btsvToTsv p σ =
      if endsWith r ".btsv" then
        match σ.files (r.replace ".btsv" ".tsv") with
        | some c => .ok (commentStripper 0 (readLines c)) σ
        | none => match (σ.files r).bind btsvToTsv with
          | some c => .ok (commentStripper 0 (readLines c)) (σ.setFile (r.replace ".btsv" ".tsv") (some c))
          | none => .raised (.calledProcess ["grail-query", "-overwrite-files", "-eval",
              "read(`" ++ r ++ "`) | write(`" ++ r.replace ".btsv" ".tsv" ++ "`)"]) σ
      else match σ.files r with
        | some c => .ok (commentStripper 0 (readLines c)) σ
        | none => .raised (.fileNotFound r) σ := by
  simp only [openTsv, Py.bind_apply, hm]
  split
  · cases ht : σ.files (r.replace ".btsv" ".tsv") with
    | some c => simp [ht, readFile_apply]
    | none => cases hb : (σ.files r).bind btsvToTsv <;> simp [ht, hb, translateBtsv, readFile_apply]
  · simp only [Py.bind_apply, Py.pure_apply, readFile_apply]
    cases σ.files r <;> rfl

/-- A successful `open_tsv` leaves a store on which `open_tsv` of the same
    path returns the same lines and changes nothing. -/
theorem openTsv_settles {p : String} {σ σ₁ : Store} {ls : List String}
    (h : openTsv (cacheDirOf user) grailFile btsvToTsv p σ = .ok ls σ₁) :
    openTsv (cacheDirOf user) grailFile btsvToTsv p σ₁ = .ok ls σ₁ := by
  have h₀ := h
  obtain ⟨r, hm⟩ : ∃ r, maybeCacheFile (cacheDirOf user) grailFile p σ = .ok r σ := by
    have hm := maybeCacheFile_apply user grailFile p σ
    split_ifs at hm
    · exact ⟨_, hm⟩
    · simp [openTsv, hm] at h
    · exact ⟨_, hm⟩
  rw [openTsv_apply user grailFile btsvToTsv hm] at h
  split at h
  · next hb =>
    split at h
    · cases h; exact h₀
    · next ht =>
      split at h
      · next c hc =>
        cases h
        have hm₁ := @maybeCacheFile_grow user grailFile p r σ
          (σ.setFile (r.replace ".btsv" ".tsv") (some c)) hm
          (fun q hq => by by_cases e : q = r.replace ".btsv" ".tsv" <;> simp [e, hq]) rfl
        rw [openTsv_apply user grailFile btsvToTsv hm₁, if_pos hb]
        simp
      · cases h
  · split at h
    · cases h; exact h₀
    · cases h

/-- **`open_tsv` twice is `open_tsv` once.** A second `open_tsv` of a path
    returns the same lines and leaves the same store as the first: a `.btsv`
    file is translated at most once, and what is read from then on is that
    translation. -/
theorem open_tsv_twice (p : String) (σ : Store) :
    (do let _ ← openTsv (cacheDirOf user) grailFile btsvToTsv p
        openTsv (cacheDirOf user) grailFile btsvToTsv p) σ =
      openTsv (cacheDirOf user) grailFile btsvToTsv p σ := by
  rw [Py.bind_apply]
  cases h : openTsv (cacheDirOf user) grailFile btsvToTsv p σ with
  | ok ls σ₁ => exact openTsv_settles user grailFile btsvToTsv h
  | raised e σ₁ => rfl

end

/-- `test_file_exists` on an empty cache: after `create_file` uploads
    `testdata`, `file_exists` answers `False`. -/
theorem file_exists_false_after_create :
    ∃ σ', (do createFile (cacheDirOf "alice") "grail-file" "s3://bucket/x.txt" "testdata\n"
              fileExists (cacheDirOf "alice") "grail-file" "s3://bucket/x.txt")
          ⟨fun _ => none, fun _ => none⟩ = .ok false σ' ∧
      σ'.objects "s3://bucket/x.txt" = some "testdata\n" :=
  fileExists_after_createFile "alice" "grail-file" rfl rfl

end GqlPython
