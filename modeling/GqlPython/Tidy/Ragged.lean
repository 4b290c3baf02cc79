import Mathlib.Data.List.Forall2
import GqlPython.Tidy.Codec

/-! # Ragged data rows

    `read` hands every record of the data file to `__hack_na`, which looks up
    the dictionary by field position without checking the record's length,
    and gives the rows to `pd.DataFrame`, which pads the rows shorter than the
    longest one with `None` and refuses a longest row that is not as long as
    the dictionary. So a record longer than the dictionary makes `read` raise
    (`IndexError` for an `NA` past the last column, `ValueError` otherwise),
    and so do records that are all shorter than it; but a short record beside
    a full one is padded, and `astype` turns the padding into `None` in a
    string column and NaN in a float column (it raises `TypeError` in an int
    column).

    `read_ragged_rows` states what `read` returns; `short_row_padded` is a
    file whose short row comes back padded.
-/

namespace GqlPython

/-! ### Inverting `Except` -/

theorem except_bind_ok {ε α β : Type} {x : Except ε α} {f : α → Except ε β} {b : β}
    (h : (x >>= f) = .ok b) : ∃ a, x = .ok a ∧ f a = .ok b := by
  cases x with
  | error e => exact absurd h (by rintro ⟨⟩)
  | ok a => exact ⟨a, rfl, h⟩

theorem mapM_cons_ok {ε α β : Type} {f : α → Except ε β} {a : α} {l : List α} {bs : List β}
    (h : (a :: l).mapM f = .ok bs) : ∃ b bs', f a = .ok b ∧ l.mapM f = .ok bs' ∧ bs = b :: bs' := by
  rw [List.mapM_cons] at h
  obtain ⟨b, hb, h⟩ := except_bind_ok h
  obtain ⟨bs', hbs, h⟩ := except_bind_ok h
  exact ⟨b, bs', hb, hbs, by cases h; rfl⟩

theorem forall₂_of_mapM_ok {ε α β : Type} {f : α → Except ε β} :
    ∀ {l : List α} {bs : List β}, l.mapM f = .ok bs → List.Forall₂ (fun a b => f a = .ok b) l bs
  | [], bs, h => by cases h; exact .nil
  | a :: l, bs, h => by
    obtain ⟨b, bs', hb, hbs, rfl⟩ := mapM_cons_ok h
    exact .cons hb (forall₂_of_mapM_ok hbs)

theorem forall₂_comp {α β γ : Type} {R : α → β → Prop} {S : β → γ → Prop} {T : α → γ → Prop} :
    ∀ {l₁ : List α} {l₂ : List β} {l₃ : List γ}, List.Forall₂ R l₁ l₂ → List.Forall₂ S l₂ l₃ →
      (∀ a ∈ l₁, ∀ b c, R a b → S b c → T a c) → List.Forall₂ T l₁ l₃
  | _, _, _, .nil, .nil, _ => .nil
  | _, _, _, .cons hr hrs, .cons hs hss, h =>
    .cons (h _ (List.mem_cons_self _ _) _ _ hr hs)
      (forall₂_comp hrs hss fun a ha => h a (List.mem_cons_of_mem _ ha))

/-! ### The records of a file -/

/-- Running `g` on each record as it is read is running it on the list of
    records `csv.reader` reads, when it reads them all. -/
theorem mapRecords_of_ok {ε β : Type} (lift : String → ε) (g : List String → Except ε β) :
    ∀ (lines : List String) {r : CsvReader} {rows : List (List String)},
      mapRecords lift Except.ok r lines = .ok rows → mapRecords lift g r lines = rows.mapM g
  | [], r, rows, h => by
    simp only [mapRecords] at h ⊢
    split at h
    · next hc =>
      rw [if_pos hc]
      cases h
      rw [List.mapM_cons, List.mapM_nil]
      cases g r.saveField.fields <;> rfl
    · next hc => rw [if_neg hc]; cases h; rfl
  | line :: rest, r, rows, h => by
    simp only [mapRecords] at h ⊢
    cases hf : r.feedLine line.data with
    | error e => rw [hf] at h; cases h
    | ok r' =>
      simp only [hf] at h ⊢
      split at h
      · next hs =>
        rw [if_pos hs]
        obtain ⟨b, hb, h⟩ := except_bind_ok h
        obtain ⟨bs, hbs, h⟩ := except_bind_ok h
        cases hb; cases h
        rw [List.mapM_cons, mapRecords_of_ok lift g rest hbs]
      · next hs => rw [if_neg hs]; exact mapRecords_of_ok lift g rest h

/-! ### Padded rows -/

section
variable {F : Type} (ops : FloatOps F)

theorem hackNa_length {row : List String} {cols : List (String × DType)} {cells : List (Cell F)}
    (h : hackNa ops row cols = .ok cells) : cells.length = row.length := by
  rw [← (forall₂_of_mapM_ok h).length_eq, List.enum_length]

variable {ops}

theorem astype_none {t : DType} {c : Cell F} (h : Cell.none.astype ops t = .ok c) :
    t = .object ∧ c = .none ∨ t = .float64 ∧ c = .float ops.nan := by
  cases t <;> simp only [Cell.astype, Except.ok.injEq, reduceCtorEq] at h <;> simp [h]

theorem astypeRow_cons_ok {t : DType} {types : List DType} {c : Cell F} {r r' : List (Cell F)}
    (h : astypeRow ops (t :: types) (c :: r) = .ok r') :
    ∃ c' r'', c.astype ops t = .ok c' ∧ astypeRow ops types r = .ok r'' ∧ r' = c' :: r'' :=
  mapM_cons_ok h

/-- A row `DataFrame` padded with `None` comes out of `astype` with one cell
    per column, the padding turned into missing values. -/
theorem astypeRow_pad : ∀ (types : List DType) {r r' : List (Cell F)}, r.length ≤ types.length →
    astypeRow ops types (r ++ List.replicate (types.length - r.length) .none) = .ok r' →
    r'.length = types.length ∧
      List.Forall₂ (fun c t => t = .object ∧ c = .none ∨ t = .float64 ∧ c = .float ops.nan)
        (r'.drop r.length) (types.drop r.length)
  | [], [], r', _, h => by cases h; exact ⟨rfl, .nil⟩
  | [], _ :: _, _, hl, _ => absurd hl (by simp)
  | t :: types, [], r', _, h => by
    obtain ⟨c', r'', hc, hr, rfl⟩ := astypeRow_cons_ok (by simpa [List.replicate_succ] using h)
    obtain ⟨hlen, hpad⟩ := astypeRow_pad types (r := []) (Nat.zero_le _) (by simpa using hr)
    exact ⟨by simp [hlen], .cons (astype_none hc) (by simpa using hpad)⟩
  | t :: types, c :: r, r', hl, h => by
    rw [List.length_cons, List.length_cons, Nat.add_sub_add_right, List.cons_append] at h
    obtain ⟨c', r'', hc, hr, rfl⟩ := astypeRow_cons_ok h
    obtain ⟨hlen, hpad⟩ := astypeRow_pad types (by simpa using hl) hr
    exact ⟨by simp [hlen], by simpa using hpad⟩

end

/-! ### What `read` returns -/

section
variable {F : Type} {ops : FloatOps F}

/-- What `read` computes from a dictionary of columns `cols` and a data file
    whose records are `rows`, when it returns. -/
theorem parseTidy_ragged {dc tc : String} {cols : List (String × DType)} {rows : List (List String)}
    (hcols : mapRecords .csv dictionaryEntry .reset (commentStripper 0 (readLines dc)) = .ok cols)
    (hrows : mapRecords PyError.csv Except.ok .reset (commentStripper 0 (readLines tc)) = .ok rows)
    {df : Frame F} (hdf : parseTidy ops dc tc = .ok df) :
    (∀ r ∈ rows, r.length ≤ cols.length) ∧ (rows = [] ∨ ∃ r ∈ rows, r.length = cols.length) ∧
      List.Forall₂ (fun r r' => r'.length = cols.length ∧
          List.Forall₂ (fun c t => t = .object ∧ c = .none ∨ t = .float64 ∧ c = .float ops.nan)
            (r'.drop r.length) ((df.columns.map (·.2)).drop r.length)) rows df.rows := by
  obtain ⟨cols', hc, hdf⟩ := except_bind_ok hdf
  rw [hcols] at hc; cases hc
  obtain ⟨rows1, h1, hdf⟩ := except_bind_ok hdf
  obtain ⟨rows2, h2, hdf⟩ := except_bind_ok hdf
  obtain ⟨rows3, h3, hdf⟩ := except_bind_ok hdf
  cases hdf
  rw [mapRecords_of_ok PyError.csv _ _ hrows] at h1
  have hf1 := forall₂_of_mapM_ok h1
  have hlen : rows.map List.length = rows1.map List.length := by
    rw [← List.forall₂_eq_eq_eq, List.forall₂_map_left_iff, List.forall₂_map_right_iff]
    exact hf1.imp fun _ _ h => (hackNa_length ops h).symm
  have htypes : ((cols.map (·.1)).zip (cols.map fun col => astypeType cols col.1)).map (·.2) =
      cols.map fun col => astypeType cols col.1 := List.map_snd_zip _ _ (by simp)
  rcases dataFrame_ok h2 with ⟨rfl, rfl⟩ | ⟨hw, rfl⟩
  · cases hf1
    cases h3
    exact ⟨fun _ h => absurd h (List.not_mem_nil _), .inl rfl, .nil⟩
  · rw [← hlen, List.length_map] at hw
    have hle : ∀ r ∈ rows, r.length ≤ cols.length := fun r hr =>
      hw ▸ le_foldr_max _ (List.mem_map_of_mem _ hr)
    refine ⟨hle, ?_, ?_⟩
    · rcases eq_or_ne rows [] with h | h
      · exact .inl h
      · obtain ⟨r, hr, hrl⟩ := List.mem_map.1 (hw ▸ foldr_max_mem (by simpa using h))
        exact .inr ⟨r, hr, hrl⟩
    · rw [htypes]
      refine forall₂_comp hf1 (List.forall₂_map_left_iff.1 (forall₂_of_mapM_ok h3))
        fun a hmem r1 r3 ha h => ?_
      have ha' := hackNa_length ops ha
      obtain ⟨hl3, hpad⟩ := astypeRow_pad (cols.map fun col => astypeType cols col.1) (r := r1)
        (by simpa [ha'] using hle a hmem) (by simpa using h)
      exact ⟨by simpa using hl3, ha' ▸ hpad⟩

end

section
variable (cacheDir grailFile : String) (btsvToTsv : String → Option String)
variable {F : Type} {ops : FloatOps F}

/-- The dictionary of two string columns `A` and `B`. -/
def raggedDictionary : String :=
  "column_name\ttype\tdescription\nA\tstring\tUnknown\nB\tstring\tUnknown\n"

/-- A data file for it whose second row has one field. -/
def raggedData : String := "A\tB\nx\ty\nz\n"

/-- The store with both files at `/tmp/t.tsv`. -/
def raggedStore (σ : Store) : Store :=
  (σ.setFile "/tmp/t_data_dictionary.tsv" (some raggedDictionary)).setFile "/tmp/t.tsv" (some raggedData)

/-- **Ragged rows.** `read` of a local `.tsv` path returns a table only if no
    record of the data file is longer than the dictionary and, unless there
    are no records, one is exactly as long. Each record comes back with one
    cell per column; the cells past a shorter record's fields are missing
    values, `None` in a string column and NaN in a float column (in an int
    column `read` raises). -/
theorem read_ragged_rows {p : String} (hs : isS3 p = false) (hext : (splitext p).2 = ".tsv")
    {σ σ' : Store} {dc tc : String} (hd : σ.files ((splitext p).1 ++ "_data_dictionary.tsv") = some dc)
    (ht : σ.files p = some tc) {cols : List (String × DType)} {rows : List (List String)}
    (hcols : mapRecords .csv dictionaryEntry .reset (commentStripper 0 (readLines dc)) = .ok cols)
    (hrows : mapRecords PyError.csv Except.ok .reset (commentStripper 0 (readLines tc)) = .ok rows)
    {df : Frame F} (hread : tidyRead cacheDir grailFile btsvToTsv ops p σ = .ok df σ') :
    (∀ r ∈ rows, r.length ≤ cols.length) ∧ (rows = [] ∨ ∃ r ∈ rows, r.length = cols.length) ∧
      List.Forall₂ (fun r r' => r'.length = cols.length ∧
          List.Forall₂ (fun c t => t = .object ∧ c = .none ∨ t = .float64 ∧ c = .float ops.nan)
            (r'.drop r.length) ((df.columns.map (·.2)).drop r.length)) rows df.rows := by
  rw [tidyRead_local cacheDir grailFile btsvToTsv ops hs hext hd ht] at hread
  cases hp : parseTidy ops dc tc with
  | error e => rw [hp] at hread; cases hread
  | ok df' =>
    rw [hp] at hread
    cases hread
    exact parseTidy_ragged hcols hrows hp

theorem read_ragged_rows_padded :
    let σ := raggedStore ⟨fun _ => none, fun _ => none⟩
    let cols : List (String × DType) := [("A", .object), ("B", .object)]
    let rows := [["x", "y"], ["z"]]
    let df : Frame (Option (Fin 10)) := ⟨cols, [[.str "x", .str "y"], [.str "z", .none]]⟩
    (isS3 "/tmp/t.tsv" = false ∧ (splitext "/tmp/t.tsv").2 = ".tsv" ∧
      σ.files "/tmp/t_data_dictionary.tsv" = some raggedDictionary ∧
      σ.files "/tmp/t.tsv" = some raggedData ∧
      mapRecords .csv dictionaryEntry .reset (commentStripper 0 (readLines raggedDictionary)) =
        .ok cols ∧
      mapRecords PyError.csv Except.ok .reset (commentStripper 0 (readLines raggedData)) = .ok rows ∧
      tidyRead "/tmp/cache" "grail-file" (fun _ => none) digitFloats "/tmp/t.tsv" σ = .ok df σ) ∧
    (∀ r ∈ rows, r.length ≤ cols.length) ∧ (rows = [] ∨ ∃ r ∈ rows, r.length = cols.length) ∧
      List.Forall₂ (fun r r' => r'.length = cols.length ∧
          List.Forall₂ (fun c t => t = .object ∧ c = .none ∨ t = .float64 ∧ c = .float digitFloats.nan)
            (r'.drop r.length) ((df.columns.map (·.2)).drop r.length)) rows df.rows :=
  have hread : tidyRead "/tmp/cache" "grail-file" (fun _ => none) digitFloats "/tmp/t.tsv"
      (raggedStore ⟨fun _ => none, fun _ => none⟩) =
      .ok ⟨[("A", .object), ("B", .object)], [[.str "x", .str "y"], [.str "z", .none]]⟩
        (raggedStore ⟨fun _ => none, fun _ => none⟩) := rfl
  ⟨⟨by decide, by decide, rfl, rfl, rfl, rfl, hread⟩,
    read_ragged_rows "/tmp/cache" "grail-file" (fun _ => none) (by decide) (by decide)
      (p := "/tmp/t.tsv") (σ := raggedStore ⟨fun _ => none, fun _ => none⟩) rfl rfl rfl rfl hread⟩

/-- A full row and a short one: `read` pads the short row with `None`
    instead of raising. -/
theorem short_row_padded :
    tidyRead "/tmp/cache" "grail-file" (fun _ => none) digitFloats "/tmp/t.tsv"
        (raggedStore ⟨fun _ => none, fun _ => none⟩) =
      .ok ⟨[("A", .object), ("B", .object)], [[.str "x", .str "y"], [.str "z", .none]]⟩
        (raggedStore ⟨fun _ => none, fun _ => none⟩) :=
  rfl

end

end GqlPython
