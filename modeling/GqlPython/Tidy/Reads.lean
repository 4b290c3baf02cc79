import GqlPython.Tidy.RoundTrip
import GqlPython.Tidy.Ragged
import GqlPython.Storage.Cache
import GqlPython.Text.Path

/-! # What `tidytsv_to_dataframe` returns

    `GqlPython.Tidy.RoundTrip` reads back what `dataframe_to_tidytsv` wrote to
    a local path. This module is about any read.

    * Whatever the two files hold, a frame `read` returns whose column names
      are distinct is a tidy table: every row has one cell per column, of the
      column's dtype (`tidy_read_tidy_table`). `__hack_na` gives `NA` the
      missing value of the column's own type, `pd.DataFrame` pads with `None`
      and `astype` converts each cell or raises; the three agree because
      `astype` looks the type up by a name that names one column. With two
      columns of one name and two types, a `NA` of the first keeps the
      missing value of its own type in a column of the other (the example
      after the theorem).
    * Both directions assert that `os.path.splitext` gives `.tsv`: the last
      component must be a stem with a character other than `.` followed by
      `.tsv`. Any other path is refused, a `.btsv` table, which `open_tsv`
      would translate, and `/tmp/.tsv` included (`non_tsv_path_refused`).
    * A table written to an S3 path cannot be read back through a cache that
      holds no copy of its dictionary: `read` fetches the dictionary through
      `maybe_cache_file`, whose copy `copy_file` deletes again
      (`GqlPython.Storage.Cache`), and raises `FileNotFoundError` although
      both objects were uploaded (`s3_table_unreadable`).
-/

namespace GqlPython

/-! ### The records of a file -/

/-- What running `g` on each record returns is made of `g`'s results. -/
theorem mem_mapRecords {ε β : Type} {lift : String → ε} {g : List String → Except ε β} :
    ∀ {lines : List String} {r : CsvReader} {bs : List β}, mapRecords lift g r lines = .ok bs →
      ∀ b ∈ bs, ∃ fs, g fs = .ok b
  | [], r, bs, h, b, hb => by
    simp only [mapRecords] at h
    split at h
    · obtain ⟨b', hb', h⟩ := except_bind_ok h
      cases h
      rcases List.mem_singleton.1 hb with rfl
      exact ⟨_, hb'⟩
    · cases h; cases hb
  | line :: rest, r, bs, h, b, hb => by
    simp only [mapRecords] at h
    split at h
    · cases h
    · split at h
      · obtain ⟨b', hb', h⟩ := except_bind_ok h
        obtain ⟨bs', hbs, h⟩ := except_bind_ok h
        cases h
        rcases List.mem_cons.1 hb with rfl | hb
        · exact ⟨_, hb'⟩
        · exact mem_mapRecords hbs b hb
      · exact mem_mapRecords h b hb

/-! ### Every cell of a returned frame fits its column -/

section
variable {F : Type} {ops : FloatOps F}

variable (ops) in
/-- A cell of a column of declared type `t` as `read` has it before
    `astype`: a field through `__hack_na`, or the `None` that `pd.DataFrame`
    pads with. -/
def RawCell (t : DType) (c : Cell F) : Prop := c = .none ∨ ∃ v, c = hackNaField ops t v

/-- **`astype` gives a raw cell its column's dtype**: a field converts or
    raises, `NA` is already the column's missing value, and `None` becomes
    NaN in a float column. -/
theorem RawCell.astype_fits {t : DType} {c c' : Cell F} (hc : RawCell ops t c)
    (h : c.astype ops t = .ok c') : c'.Fits t := by
  rcases hc with rfl | ⟨v, rfl⟩
  · rcases astype_none h with ⟨rfl, rfl⟩ | ⟨rfl, rfl⟩ <;> trivial
  · unfold hackNaField at h
    split at h
    · cases t with
      | int64 =>
        simp only [Cell.astype] at h
        split at h
        · split at h
          · cases h; assumption
          · cases h
        · cases h
      | float64 =>
        simp only [Cell.astype] at h
        split at h <;> cases h
        trivial
      | object => cases h; trivial
    · cases t <;> cases h
      · exact ⟨by decide, by decide⟩
      · trivial
      · trivial

/-- A record through `__hack_na`, padded by `pd.DataFrame` to one cell per
    column, is raw in every column. -/
theorem rawCell_pad : ∀ {row : List String} {cols : List (String × DType)},
    row.length ≤ cols.length →
    List.Forall₂ (fun c col => RawCell ops col.2 c)
      (List.zipWith (fun v col => hackNaField ops col.2 v) row cols ++
        List.replicate (cols.length - row.length) .none) cols
  | [], [], _ => .nil
  | [], _ :: cols, _ => by
    simpa [List.replicate_succ] using
      List.Forall₂.cons (.inl rfl) (@rawCell_pad [] cols (by simp))
  | _ :: _, [], h => absurd h (by simp)
  | v :: row, col :: cols, h => by
    simpa using
      List.Forall₂.cons (.inr ⟨v, rfl⟩) (@rawCell_pad row cols (by simpa using h))

/-- `astype` on a row of raw cells, one per column: every cell fits its
    column. -/
theorem astypeRow_fits : ∀ {r r' : List (Cell F)} {cols : List (String × DType)},
    List.Forall₂ (fun c col => RawCell ops col.2 c) r cols →
    astypeRow ops (cols.map (·.2)) r = .ok r' → List.Forall₂ (fun c col => c.Fits col.2) r' cols
  | [], r', [], .nil, h => by cases h; exact .nil
  | _ :: _, _, _ :: _, .cons hc hr, h => by
    obtain ⟨c', r'', hc', hr', rfl⟩ := astypeRow_cons_ok h
    exact .cons (hc.astype_fits hc') (astypeRow_fits hr hr')

/-- **The rows `read` builds fit their columns**, when no two columns share
    a name: from the records through `__hack_na`, `pd.DataFrame` and `astype`. -/
theorem parsed_rows_fit {cols : List (String × DType)} {lines : List String}
    {rows₁ rows₂ rows₃ : List (List (Cell F))} (hn : (cols.map (·.1)).Nodup)
    (h₁ : mapRecords .csv (hackNa ops · cols) .reset lines = .ok rows₁)
    (h₂ : dataFrame rows₁ (cols.map (·.1)) = .ok rows₂)
    (h₃ : astypeRows ops (cols.map fun col => astypeType cols col.1) rows₂ = .ok rows₃) :
    ∀ r ∈ rows₃, List.Forall₂ (fun c col => c.Fits col.2) r cols := by
  have htypes : (cols.map fun col => astypeType cols col.1) = cols.map (·.2) :=
    List.map_congr_left fun col hc =>
      astypeType_of_mem ((List.pairwise_map.1 hn).imp fun hne heq => absurd heq hne) hc
  rw [htypes] at h₃
  intro r hr
  obtain ⟨r₂, hr₂, hast⟩ := exists_of_forall₂ (forall₂_of_mapM_ok h₃).flip hr
  rcases dataFrame_ok h₂ with ⟨-, rfl⟩ | ⟨hw, rfl⟩
  · exact absurd hr₂ (List.not_mem_nil _)
  obtain ⟨r₁, hr₁, rfl⟩ := List.mem_map.1 hr₂
  obtain ⟨fs, hfs⟩ := mem_mapRecords h₁ r₁ hr₁
  have hle : fs.length ≤ cols.length := by
    rw [← hackNa_length ops hfs]
    simpa [hw] using le_foldr_max _ (List.mem_map_of_mem List.length hr₁)
  rw [hackNa_eq ops hle] at hfs
  cases hfs
  rw [List.length_map, List.length_zipWith, min_eq_left hle] at hast
  exact astypeRow_fits (rawCell_pad hle) hast

end

section
variable (cacheDir grailFile : String) (btsvToTsv : String → Option String)
variable {F : Type} {ops : FloatOps F}

/-- What `read` computes when it returns, whatever it read. -/
theorem tidyRead_ok {p : String} {σ σ' : Store} {df : Frame F}
    (h : tidyRead cacheDir grailFile btsvToTsv ops p σ = .ok df σ') :
    ∃ cols lines rows₁ rows₂ rows₃,
      mapRecords .csv (hackNa ops · cols) .reset lines = .ok rows₁ ∧
      dataFrame rows₁ (cols.map (·.1)) = .ok rows₂ ∧
      astypeRows ops (cols.map fun col => astypeType cols col.1) rows₂ = .ok rows₃ ∧
      df = ⟨(cols.map (·.1)).zip (cols.map fun col => astypeType cols col.1), rows₃⟩ := by
  obtain ⟨cols, _, -, h⟩ := Py.bind_ok h
  obtain ⟨lines, _, -, h⟩ := Py.bind_ok h
  obtain ⟨rows₁, _, h₁, h⟩ := Py.bind_ok h
  obtain ⟨rows₂, _, h₂, h⟩ := Py.bind_ok h
  obtain ⟨rows₃, _, h₃, h⟩ := Py.bind_ok h
  cases h
  exact ⟨cols, lines, rows₁, rows₂, rows₃, (Py.ofExcept_ok h₁).1, (Py.ofExcept_ok h₂).1,
    (Py.ofExcept_ok h₃).1, rfl⟩

/-- **Every frame `read` returns with distinct column names is a tidy
    table**, whatever the dictionary and the data file hold and wherever they
    are: one cell per column in every row, each of its column's dtype. -/
theorem tidy_read_tidy_table {p : String} {σ σ' : Store} {df : Frame F}
    (h : tidyRead cacheDir grailFile btsvToTsv ops p σ = .ok df σ')
    (hn : (df.columns.map (·.1)).Nodup) : ∃ t : TidyTable F, t.toFrame = df := by
  obtain ⟨cols, lines, rows₁, rows₂, rows₃, h₁, h₂, h₃, rfl⟩ := tidyRead_ok cacheDir grailFile btsvToTsv h
  have hnames : ((cols.map (·.1)).zip (cols.map fun col => astypeType cols col.1)).map (·.1) =
      cols.map (·.1) := List.map_fst_zip _ _ (by simp)
  rw [hnames] at hn
  have hcols : (cols.map (·.1)).zip (cols.map fun col => astypeType cols col.1) = cols := by
    rw [List.map_congr_left fun col hc =>
      astypeType_of_mem ((List.pairwise_map.1 hn).imp fun hne heq => absurd heq hne) hc]
    simp [List.zip_map']
  refine ⟨⟨⟨_, rows₃⟩, fun r hr => ?_⟩, rfl⟩
  rw [hcols]
  exact parsed_rows_fit hn h₁ h₂ h₃ r hr

theorem tidy_read_tidy_table_ragged :
    ∃ t : TidyTable (Option (Fin 10)),
      t.toFrame = ⟨[("A", .object), ("B", .object)], [[.str "x", .str "y"], [.str "z", .none]]⟩ :=
  @tidy_read_tidy_table "/tmp/cache" "grail-file" (fun _ => none) _ digitFloats "/tmp/t.tsv"
    (raggedStore ⟨fun _ => none, fun _ => none⟩) _ _ rfl (by decide)

/-- Two columns named `A`, an int and a string: the `NA` of the int column
    becomes `-9999999`, which the string type of the name keeps as an int. -/
example : tidyRead "/tmp/cache" "grail-file" (fun _ => none) digitFloats "/tmp/t.tsv"
      ((Store.setFile ⟨fun _ => none, fun _ => none⟩ "/tmp/t_data_dictionary.tsv"
        (some "column_name\ttype\tdescription\nA\tint\tUnknown\nA\tstring\tUnknown\n")).setFile
        "/tmp/t.tsv" (some "A\tA\nNA\tx\n")) =
    .ok ⟨[("A", .object), ("A", .object)], [[.int (-9999999), .str "x"]]⟩
      ((Store.setFile ⟨fun _ => none, fun _ => none⟩ "/tmp/t_data_dictionary.tsv"
        (some "column_name\ttype\tdescription\nA\tint\tUnknown\nA\tstring\tUnknown\n")).setFile
        "/tmp/t.tsv" (some "A\tA\nNA\tx\n")) := rfl

end

/-! ### Paths other than `.tsv` -/

section
variable (cacheDir grailFile : String) (btsvToTsv : String → Option String)
variable {F : Type} (ops : FloatOps F)

/-- **Only `.tsv` paths are read or written.** `_tidy_data_dictionary_path`
    asserts that `os.path.splitext` gives `.tsv`, which holds exactly when the
    last component is a stem with a character other than `.` followed by
    `.tsv`. For any other path (`x.btsv`, `/tmp/.tsv`, `..tsv`, `x.tsv/`) both
    `dataframe_to_tidytsv` and `tidytsv_to_dataframe` raise `AssertionError`
    before anything is read or written. -/
theorem non_tsv_path_refused (p : String) :
    ((splitext p).2 = ".tsv" ↔ TsvPath p) ∧
      (¬ TsvPath p → ∀ (df : Frame F) (σ : Store),
        tidyWrite cacheDir grailFile ops df p σ = .raised .assertion σ ∧
          tidyRead cacheDir grailFile btsvToTsv ops p σ = .raised .assertion σ) := by
  refine ⟨splitext_eq_tsv_iff p, fun hp df σ => ?_⟩
  have hext : (splitext p).2 ≠ ".tsv" := mt (splitext_eq_tsv_iff p).1 hp
  simp [tidyWrite, tidyRead, readDictionary, tidyDataDictionaryPath, hext]

/-- `/tmp/.tsv` ends in `.tsv` but has no extension, and is refused. -/
theorem non_tsv_path_refused_dotfile :
    ¬ TsvPath "/tmp/.tsv" ∧
      tidyWrite "/tmp/cache" "grail-file" digitFloats digitTable.toFrame "/tmp/.tsv"
          ⟨fun _ => none, fun _ => none⟩ = .raised .assertion ⟨fun _ => none, fun _ => none⟩ ∧
        tidyRead "/tmp/cache" "grail-file" (fun _ => none) digitFloats "/tmp/.tsv"
          ⟨fun _ => none, fun _ => none⟩ = .raised .assertion ⟨fun _ => none, fun _ => none⟩ :=
  have h := non_tsv_path_refused "/tmp/cache" "grail-file" (fun _ => none) digitFloats "/tmp/.tsv"
  have hp : ¬ TsvPath "/tmp/.tsv" := fun ht => absurd (h.1.2 ht) (by decide)
  ⟨hp, h.2 hp digitTable.toFrame _⟩

end

/-! ### A table written to S3 -/

/-- The base of an S3 `.tsv` path is an S3 path. -/
theorem isS3_of_tsv {b : String} (h : isS3 (b ++ ".tsv")) : isS3 b := by
  obtain ⟨cs⟩ := b
  simp only [isS3, startsWith, String.append, String.data] at h ⊢
  match cs with
  | [] | [_] | [_, _] | [_, _, _] | [_, _, _, _] => simp [List.isPrefixOf] at h
  | _ :: _ :: _ :: _ :: _ :: _ => simpa [List.isPrefixOf] using h

section
variable (user grailFile : String) (btsvToTsv : String → Option String)
variable {F : Type} (ops : FloatOps F)

/-- The cache file of an S3 dictionary is the cache file of the base with
    the dictionary's suffix. -/
theorem cachePath_dict {b : String} (hb : isS3 b) :
    cachePath (cacheDirOf user) (b ++ "_data_dictionary.tsv") =
      cachePath (cacheDirOf user) b ++ "_data_dictionary.tsv" := by
  rw [cachePath, replaceChar_append, pathJoin_append _ (by rw [key_head hb]; decide)
    (fun h => by simpa [h] using key_head hb)]
  rfl

/-- The dictionary's cache file is none of the staging files the write
    leaves: it ends in `v`, they in `p`. -/
theorem cachePath_dict_ne_stagingPath {b : String} (hb : isS3 b) {q : String} (hq : isS3 q) :
    cachePath (cacheDirOf user) (b ++ "_data_dictionary.tsv") ≠ stagingPath (cacheDirOf user) q := by
  rw [cachePath_dict user hb, stagingPath_eq user hq]
  intro h
  simpa using congrArg (fun s : String => s.data.getLast?) h

/-- `write` to an S3 `.tsv` path uploads both files through their staging
    files. -/
theorem tidyWrite_s3 {p : String} (hp : isS3 p) (hext : (splitext p).2 = ".tsv") (df : Frame F)
    (σ : Store) :
    tidyWrite (cacheDirOf user) grailFile ops df p σ =
      .ok () ((((σ.setFile (stagingPath (cacheDirOf user) ((splitext p).1 ++ "_data_dictionary.tsv"))
          (some (dictionaryText df.columns))).setObject ((splitext p).1 ++ "_data_dictionary.tsv")
          (some (dictionaryText df.columns))).setFile (stagingPath (cacheDirOf user) p)
          (some (dataText ops df))).setObject p (some (dataText ops df))) := by
  have hd : isS3 ((splitext p).1 ++ "_data_dictionary.tsv") :=
    isS3_append _ (isS3_of_tsv (by rw [← tsv_eq hext]; exact hp))
  simp only [tidyWrite, tidyDataDictionaryPath, hext, if_true, Py.bind_apply, Py.ofExcept_apply,
    createFile_s3 user grailFile hd, createFile_s3 user grailFile hp]

/-- **A table written to S3 cannot be read back.** After
    `dataframe_to_tidytsv(df, p)` for an S3 path `p` whose `os.path.splitext`
    extension is `.tsv`, from a store
    whose cache holds no copy of `p`'s dictionary, `tidytsv_to_dataframe(p)`
    raises `FileNotFoundError` on that cache file, while both objects hold
    what was written. -/
theorem s3_table_unreadable {p : String} (hp : isS3 p) (hext : (splitext p).2 = ".tsv")
    (df : Frame F) {σ : Store}
    (hc : σ.files (cachePath (cacheDirOf user) ((splitext p).1 ++ "_data_dictionary.tsv")) = none) :
    ∃ σ', (do tidyWrite (cacheDirOf user) grailFile ops df p
              tidyRead (cacheDirOf user) grailFile btsvToTsv ops p) σ =
        .raised (.fileNotFound (cachePath (cacheDirOf user) ((splitext p).1 ++ "_data_dictionary.tsv"))) σ' ∧
      σ'.objects ((splitext p).1 ++ "_data_dictionary.tsv") = some (dictionaryText df.columns) ∧
      σ'.objects p = some (dataText ops df) := by
  have hb : isS3 (splitext p).1 := isS3_of_tsv (by rw [← tsv_eq hext]; exact hp)
  have hd : isS3 ((splitext p).1 ++ "_data_dictionary.tsv") := isS3_append _ hb
  set dictPath := (splitext p).1 ++ "_data_dictionary.tsv"
  set σw := (((σ.setFile (stagingPath (cacheDirOf user) dictPath) (some (dictionaryText df.columns))).setObject
    dictPath (some (dictionaryText df.columns))).setFile (stagingPath (cacheDirOf user) p)
    (some (dataText ops df))).setObject p (some (dataText ops df))
  have hne : dictPath ≠ p := fun h => by
    have h' := congrArg String.data (h.trans (tsv_eq hext))
    simp only [dictPath, String.data_append] at h'
    exact absurd (List.append_cancel_left h') (by decide)
  have hcw : σw.files (cachePath (cacheDirOf user) dictPath) = none := by
    simp [σw, cachePath_dict_ne_stagingPath user hb hd, cachePath_dict_ne_stagingPath user hb hp, hc]
  have hobj : σw.objects dictPath = some (dictionaryText df.columns) := by
    simp only [σw, Store.setObject_objects, Store.setFile_objects, hne, if_false, if_true]
  have hm : maybeCacheFile (cacheDirOf user) grailFile dictPath σw =
      .ok (cachePath (cacheDirOf user) dictPath) σw := by
    rw [maybeCacheFile_apply, if_pos hd, if_pos (by rw [hobj, Option.isSome_some, Bool.or_true])]
  have hopen : openTsv (cacheDirOf user) grailFile btsvToTsv dictPath σw =
      .raised (.fileNotFound (cachePath (cacheDirOf user) dictPath)) σw := by
    rw [openTsv_apply user grailFile btsvToTsv hm, cachePath_dict user hb, endsWith_dict_btsv,
      ← cachePath_dict user hb, hcw]
    rfl
  refine ⟨σw, ?_, hobj, by simp [σw]⟩
  simp only [Py.bind_apply, tidyWrite_s3 user grailFile ops hp hext, tidyRead, readDictionary,
    tidyDataDictionaryPath, hext, if_true, Py.ofExcept_apply, hopen]

theorem s3_table_unreadable_digits :
    ∃ σ', (do tidyWrite (cacheDirOf "alice") "grail-file" digitFloats digitTable.toFrame "s3://b/t.tsv"
              tidyRead (cacheDirOf "alice") "grail-file" (fun _ => none) digitFloats "s3://b/t.tsv")
            ⟨fun _ => none, fun _ => none⟩ =
        .raised (.fileNotFound (cachePath (cacheDirOf "alice") "s3://b/t_data_dictionary.tsv")) σ' ∧
      σ'.objects "s3://b/t_data_dictionary.tsv" = some (dictionaryText digitTable.columns) ∧
      σ'.objects "s3://b/t.tsv" = some (dataText digitFloats digitTable.toFrame) :=
  s3_table_unreadable "alice" "grail-file" (fun _ => none) digitFloats (p := "s3://b/t.tsv") rfl
    (by decide) digitTable.toFrame rfl

end

end GqlPython
