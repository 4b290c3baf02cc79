import GqlPython.Tidy.Frame

/-! # The tidy TSV codec: `_TidyTSVParser` and `_TidyTSVWriter`

    A tidy table `foo.tsv` comes with a data dictionary
    `foo_data_dictionary.tsv`, whose rows name each column and give its tidy
    type. `GQL.dataframe_to_tidytsv` writes both files with `print`: the
    dictionary's header and one line per column, then the data's header (the
    column names) and one line per row, each value through
    `numpy_value_to_tidy`. `GQL.tidytsv_to_dataframe` reads the dictionary,
    reads the rows through `open_tsv` (so comment lines, blank lines and the
    header are dropped and the rest is parsed by `csv.reader`), replaces `NA`
    by each column's missing value, builds the `DataFrame` and casts each
    column to its type.

    `parseTidy` is what `read` computes from the texts of the two files
    (`tidyRead_local`); the round trip and the treatment of ragged rows are
    proved about it in `GqlPython.Tidy.RoundTrip` and `GqlPython.Tidy.Ragged`.
-/

namespace GqlPython

/-- `_tidy_data_dictionary_path(tsv_path)`: the `assert ext == ".tsv"` fails
    for any other extension. -/
def tidyDataDictionaryPath (tsvPath : String) : Except PyError String :=
  if (splitext tsvPath).2 = ".tsv" then .ok ((splitext tsvPath).1 ++ "_data_dictionary.tsv")
  else .error .assertion

/-! ### The two paths -/

/-- `splitext` splits: base and extension make the path again. -/
theorem splitext_append (p : String) : (splitext p).1 ++ (splitext p).2 = p := by
  simp only [splitext]
  cases List.findIdx? (· = '.') p.data.reverse with
  | none => simp
  | some i => dsimp only; split <;> simp [String.ext_iff]

theorem endsWith_tsv_btsv (b : String) : endsWith (b ++ ".tsv") ".btsv" = false := by
  simp [endsWith, List.isSuffixOf, List.reverse_append, List.isPrefixOf]

theorem endsWith_dict_btsv (b : String) : endsWith (b ++ "_data_dictionary.tsv") ".btsv" = false := by
  simp [endsWith, List.isSuffixOf, List.reverse_append, List.isPrefixOf]

/-- The dictionary of a local `.tsv` path is local too. -/
theorem isS3_dictPath {b : String} (h : isS3 (b ++ ".tsv") = false) :
    isS3 (b ++ "_data_dictionary.tsv") = false := by
  obtain ⟨cs⟩ := b
  simp only [isS3, startsWith, String.append, String.data] at h ⊢
  match cs with
  | [] | [_] | [_, _] | [_, _, _] | [_, _, _, _] => simp [List.isPrefixOf]
  | _ :: _ :: _ :: _ :: _ :: _ => simpa [List.isPrefixOf] using h


theorem tsv_eq {p : String} (hext : (splitext p).2 = ".tsv") : p = (splitext p).1 ++ ".tsv" := by
  conv_lhs => rw [← splitext_append p, hext]

/-- One row of the data dictionary: `(row[0], parse_type(row[1]))`. -/
def dictionaryEntry : List String → Except PyError (String × DType)
  | n :: t :: _ => .ok (n, parseType t)
  | _ => .error .index

section
variable (cacheDir grailFile : String) (btsvToTsv : String → Option String)
variable {F : Type} (ops : FloatOps F)

/-! ### Reading -/

/-- `_TidyTSVParser.__read_dictionary`. -/
def readDictionary (tsvPath : String) : Py (List (String × DType)) := do
  let dictPath ← Py.ofExcept (tidyDataDictionaryPath tsvPath)
  let lines ← openTsv cacheDir grailFile btsvToTsv dictPath
  Py.ofExcept (mapRecords .csv dictionaryEntry .reset lines)

/-- `_TidyTSVParser.read`, which `GQL.tidytsv_to_dataframe` calls. -/
def tidyRead (tsvPath : String) : Py (Frame F) := do
  let cols ← readDictionary cacheDir grailFile btsvToTsv tsvPath
  let lines ← openTsv cacheDir grailFile btsvToTsv tsvPath
  let rows ← Py.ofExcept (mapRecords .csv (hackNa ops · cols) .reset lines)
  let rows ← Py.ofExcept (dataFrame rows (cols.map (·.1)))
  let types := cols.map fun col => astypeType cols col.1
  let rows ← Py.ofExcept (astypeRows ops types rows)
  return ⟨(cols.map (·.1)).zip types, rows⟩

/-! ### Writing -/

/-- The data dictionary `write` prints. -/
def dictionaryText (cols : List (String × DType)) : String :=
  printLines ("column_name\ttype\tdescription" ::
    cols.map fun col => col.1 ++ "\t" ++ numpyTypeToTidy col.2 ++ "\tUnknown")

/-- One data line: the row as `iterrows` yields it, each value through
    `numpy_value_to_tidy`, joined by tabs. -/
def rowText (types : List DType) (r : List (Cell F)) : String :=
  pyJoin "\t" (r.map fun c => numpyValueToTidy ops (c.upcast ops (rowType types)))

/-- The data file `write` prints: the column names, then the rows. -/
def dataText (df : Frame F) : String :=
  printLines (pyJoin "\t" (df.columns.map (·.1)) :: df.rows.map (rowText ops (df.columns.map (·.2))))

/-- `_TidyTSVWriter.write`, which `GQL.dataframe_to_tidytsv` calls. -/
def tidyWrite (df : Frame F) (tsvPath : String) : Py Unit := do
  let dictPath ← Py.ofExcept (tidyDataDictionaryPath tsvPath)
  createFile cacheDir grailFile dictPath (dictionaryText df.columns)
  createFile cacheDir grailFile tsvPath (dataText ops df)

end

/-! ### `read` on the texts of the files -/

section
variable {F : Type} (ops : FloatOps F)

/-- What `read` computes from the text of the dictionary and of the data file. -/
def parseTidy (dictText dataText : String) : Except PyError (Frame F) := do
  let cols ← mapRecords .csv dictionaryEntry .reset (commentStripper 0 (readLines dictText))
  let rows ← mapRecords .csv (hackNa ops · cols) .reset (commentStripper 0 (readLines dataText))
  let rows ← dataFrame rows (cols.map (·.1))
  let types := cols.map fun col => astypeType cols col.1
  let rows ← astypeRows ops types rows
  return ⟨(cols.map (·.1)).zip types, rows⟩

end

section
variable (cacheDir grailFile : String) (btsvToTsv : String → Option String)
variable {F : Type} (ops : FloatOps F)

/-- `open_tsv` of a local path other than `.btsv`: the stripped lines of the file. -/
theorem openTsv_local {path : String} (hs : isS3 path = false) (hb : endsWith path ".btsv" = false)
    (σ : Store) :
    openTsv cacheDir grailFile btsvToTsv path σ = match σ.files path with
      | some c => .ok (commentStripper 0 (readLines c)) σ
      | none => .raised (.fileNotFound path) σ := by
  simp only [openTsv, maybeCacheFile, hs, hb, Bool.false_eq_true, if_false, Py.bind_apply,
    Py.pure_apply, readFile_apply]
  cases σ.files path <;> rfl

/-- **`read` of a local `.tsv` path is `parseTidy` of the two files.** -/
theorem tidyRead_local {p : String} (hs : isS3 p = false) (hext : (splitext p).2 = ".tsv")
    {σ : Store} {dc tc : String} (hd : σ.files ((splitext p).1 ++ "_data_dictionary.tsv") = some dc)
    (ht : σ.files p = some tc) :
    tidyRead cacheDir grailFile btsvToTsv ops p σ = match parseTidy ops dc tc with
      | .ok df => .ok df σ
      | .error e => .raised e σ := by
  have hds : isS3 ((splitext p).1 ++ "_data_dictionary.tsv") = false :=
    isS3_dictPath (by rw [← tsv_eq hext]; exact hs)
  have hpb : endsWith p ".btsv" = false := by rw [tsv_eq hext]; exact endsWith_tsv_btsv _
  simp only [tidyRead, readDictionary, tidyDataDictionaryPath, hext, if_true, Py.bind_apply,
    Py.ofExcept_apply, openTsv_local _ _ _ hds (endsWith_dict_btsv _), hd, parseTidy]
  cases mapRecords .csv dictionaryEntry .reset (commentStripper 0 (readLines dc)) with
  | error e => rfl
  | ok cols =>
    simp only [openTsv_local _ _ _ hs hpb, ht, bind, Except.bind]
    cases mapRecords .csv (hackNa ops · cols) .reset (commentStripper 0 (readLines tc)) with
    | error e => rfl
    | ok rows =>
      simp only
      cases dataFrame rows (cols.map (·.1)) with
      | error e => rfl
      | ok rows =>
        simp only
        cases astypeRows ops (cols.map fun col => astypeType cols col.1) rows <;> rfl

end

end GqlPython
