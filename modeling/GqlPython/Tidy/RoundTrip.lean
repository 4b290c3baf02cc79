import Mathlib.Data.List.Forall2
import Mathlib.Data.List.Pairwise
import GqlPython.Tidy.Codec

/-! # `read` after `write`: the tidy codec round trip

    `GQL.dataframe_to_tidytsv` followed by `GQL.tidytsv_to_dataframe` on a
    local `.tsv` path gives the table back (`tidy_write_then_read`) when the
    text `write` prints is read by `open_tsv` and `csv.reader` as it was
    written, and every value's text converts back to the value
    (`TidyTable.Encodable`). Each condition is needed:

    * a line whose first value starts with `#`, or whose values are all blank,
      is dropped by `_comment_stripper`, and a blank header line makes the
      first row the header;
    * a value starting with `"`, or holding a tab, a line break or a NUL, is
      not read as one field by `csv.reader`;
    * `"NA"` in a string column, and `-9999999` in a float column, come back
      as missing values;
    * `iterrows` turns the `int64` values of a table with float and no string
      columns into floats, whose text `int()` refuses;
    * `astype` gives every column of a repeated name the last type given for it.

    The proof follows the data: one cell (`cell_round_trip`), the records of a
    printed file (`mapRecords_printLines`), the dictionary
    (`readDictionary_text`), one row (`astypeRow_round_trip`), the two texts
    (`parseTidy_round_trip`).
-/

namespace GqlPython

section
variable {F : Type} (ops : FloatOps F)

/-! ### Encodable cells -/

/-- A cell that `write` puts in a field `read` parses back as it was. -/
def Cell.Encodable : Cell F → Prop
  | .str s => CsvField s ∧ s ≠ "NA"
  | .float x => ops.isSentinel x = false
  | .int _ | .none => True

instance Cell.decEncodable : (c : Cell F) → Decidable (c.Encodable ops)
  | .str _ => inferInstanceAs (Decidable (_ ∧ _))
  | .float x => inferInstanceAs (Decidable (ops.isSentinel x = false))
  | .int _ | .none => isTrue trivial

/-- The first character of the cell's text is `#` only for a `str` starting with `#`. -/
def Cell.StartsHash : Cell F → Prop
  | .str s => s.data.take 1 = ['#']
  | _ => False

/-- The cell's text is blank only for a `str` of whitespace. -/
def Cell.BlankText : Cell F → Prop
  | .str s => isBlank s = true
  | _ => False

instance Cell.decStartsHash : (c : Cell F) → Decidable c.StartsHash
  | .str s => inferInstanceAs (Decidable (s.data.take 1 = ['#']))
  | .int _ | .float _ | .none => isFalse id

instance Cell.decBlankText : (c : Cell F) → Decidable c.BlankText
  | .str s => inferInstanceAs (Decidable (isBlank s = true))
  | .int _ | .float _ | .none => isFalse id

/-! ### One cell read back -/

/-- What `__hack_na` makes of one field of a column of dtype `t`. -/
def hackNaField (t : DType) (v : String) : Cell F := if v ≠ "NA" then .str v else naValue ops t

theorem hackNa_enumFrom (cols : List (String × DType)) : ∀ (row : List String) (n : Nat),
    n + row.length ≤ cols.length →
    (row.enumFrom n).mapM (fun iv => hackNaAt ops cols iv.1 iv.2) =
      .ok (List.zipWith (fun v col => hackNaField ops col.2 v) row (cols.drop n))
  | [], _, _ => rfl
  | v :: row, n, h => by
    have hn : n < cols.length := by simp at h; omega
    rw [List.enumFrom_cons, List.mapM_cons, hackNa_enumFrom cols row (n + 1) (by simp at h; omega),
      List.drop_eq_getElem_cons hn, List.zipWith_cons_cons]
    by_cases hv : v = "NA"
    · simp only [hackNaAt, hv, hackNaField, ne_eq, not_true_eq_false, if_false,
        List.get?_eq_getElem?, List.getElem?_eq_getElem hn]; rfl
    · simp only [hackNaAt, hv, hackNaField, ne_eq, not_false_eq_true, if_true]; rfl

/-- `__hack_na` on a row no longer than the dictionary. -/
theorem hackNa_eq {row : List String} {cols : List (String × DType)} (h : row.length ≤ cols.length) :
    hackNa ops row cols = .ok (List.zipWith (fun v col => hackNaField ops col.2 v) row cols) := by
  rw [hackNa, List.enum, hackNa_enumFrom ops cols row 0 (by omega), List.drop_zero]

/-- The characters of `f'{v}'` for an `int`: digits and the minus sign. -/
theorem intText_chars (v : Int) : ∀ c ∈ (toString v).data, c.isDigit ∨ c = '-' := by
  cases v with
  | ofNat n => exact fun c h => .inl (isDigit_toDigits n c h)
  | negSucc n =>
    intro c h
    rcases List.mem_cons.1 (show c ∈ '-' :: Nat.toDigits 10 (n + 1) from h) with rfl | h
    · exact .inr rfl
    · exact .inl (isDigit_toDigits _ c h)

theorem intText_length {v : Int} (hv : inInt64 v) : (toString v).data.length ≤ 20 := by
  have hlen : (Nat.toDigits 10 v.natAbs).length ≤ 19 :=
    length_toDigits_le (by norm_num) (by obtain ⟨h1, h2⟩ := hv; norm_num at h1 h2 ⊢; omega)
  cases v with
  | ofNat n => exact (show (Nat.toDigits 10 n).length ≤ 20 by simp at hlen; omega)
  | negSucc n => exact (show ('-' :: Nat.toDigits 10 (n + 1)).length ≤ 20 by simpa using hlen)

theorem intText_ne_nil (v : Int) : (toString v).data ≠ [] := by
  cases v with
  | ofNat n => exact toDigits_ne_nil n
  | negSucc n => exact List.cons_ne_nil _ _

theorem ne_NA_of_forall {s : String} {p : Char → Prop} (h : ∀ c ∈ s.data, p c) (hN : ¬ p 'N') :
    s ≠ "NA" := by
  rintro rfl; exact hN (h 'N' (List.mem_cons_self _ _))

variable {ops}

/-- **One cell comes back.** The text `write` gives a cell of a column of
    dtype `t`, read by `__hack_na` and cast by `astype`, is the same value. -/
theorem cell_round_trip (hF : ops.Lawful) {c : Cell F} {t : DType} (hfit : c.Fits t)
    (hc : c.Encodable ops) :
    ∃ c', (hackNaField ops t (numpyValueToTidy ops c)).astype ops t = .ok c' ∧ c'.Same ops c := by
  cases c <;> cases t <;> simp only [Cell.Fits] at hfit
  case int.int64 v =>
    by_cases h : v = -9999999
    · subst h; exact ⟨_, rfl, rfl⟩
    · have hne : toString v ≠ "NA" := ne_NA_of_forall (intText_chars v) (by decide)
      exact ⟨.int v, by simp [numpyValueToTidy, h, hackNaField, hne, Cell.astype, pyInt_toString, hfit], rfl⟩
  case float.float64 x =>
    have hs : ops.isSentinel x = false := hc
    by_cases hn : ops.isNaN x = true
    · exact ⟨.float ops.nan, by simp [numpyValueToTidy, hn, hackNaField, naValue, Cell.astype],
        .inl ⟨hF.isNaN_nan, hn⟩⟩
    · have hne : ops.repr x ≠ "NA" := ne_NA_of_forall (hF.repr_chars x) (by decide)
      exact ⟨.float x, by simp [numpyValueToTidy, hs, hn, hackNaField, hne, Cell.astype,
        hF.parse_repr x (by simpa using hn)], .inr rfl⟩
  case str.object s => exact ⟨.str s, by simp [numpyValueToTidy, hackNaField, hc.2, Cell.astype], rfl⟩
  case none.object => exact ⟨.none, rfl, rfl⟩

/-! ### The text of a cell -/

theorem floatChar_facts {c : Char} (h : isFloatReprChar c = true) :
    csvPlain c = true ∧ c ≠ '"' ∧ c ≠ '#' ∧ isPySpace c = false ∧ c ≠ 'N' := by
  simp only [isFloatReprChar, Bool.or_eq_true, decide_eq_true_eq] at h
  rcases h with ((((((((hd | rfl) | rfl) | rfl) | rfl) | rfl) | rfl) | rfl) | rfl) <;> try decide
  have := toNat_of_isDigit hd
  have hsp := isPySpace_of_isDigit hd
  refine ⟨?_, ?_, ?_, hsp, ?_⟩
  · simp only [csvPlain, Bool.and_eq_true, decide_eq_true_eq]
    refine ⟨⟨⟨?_, ?_⟩, ?_⟩, ?_⟩ <;> rintro rfl <;> simp at this
  all_goals rintro rfl; simp at this

theorem numericText {s : String} (h : ∀ c ∈ s.data, isFloatReprChar c = true) (hne : s.data ≠ [])
    (hlen : s.data.length ≤ 32) :
    CsvField s ∧ s.data.take 1 ≠ ['#'] ∧ isBlank s = false ∧ s ≠ "NA" := by
  obtain ⟨c, cs, hcs⟩ := List.exists_cons_of_ne_nil hne
  have hc := floatChar_facts (h c (by simp [hcs]))
  refine ⟨⟨fun d hd => (floatChar_facts (h d hd)).1, ?_, ?_⟩, ?_, ?_,
    ne_NA_of_forall h fun hN => (floatChar_facts hN).2.2.2.2 rfl⟩
  · simp [hcs, hc.2.1]
  · simp only [fieldLimit]; omega
  · simp [hcs, hc.2.2.1]
  · simp [isBlank, hcs, hc.2.2.2.1]

theorem na_facts {P Q : Prop} :
    CsvField "NA" ∧ ("NA".data.take 1 = ['#'] → P) ∧ (isBlank "NA" = true → Q) := by
  refine ⟨?_, fun h => absurd h (by decide), fun h => absurd h (by decide)⟩
  unfold CsvField; decide

/-- What the text of an encodable cell is as a field and as the start of a line. -/
theorem cellText_facts (hF : ops.Lawful) {c : Cell F} {t : DType} (hfit : c.Fits t)
    (hc : c.Encodable ops) :
    CsvField (numpyValueToTidy ops c) ∧ ((numpyValueToTidy ops c).data.take 1 = ['#'] → c.StartsHash) ∧
      (isBlank (numpyValueToTidy ops c) = true → c.BlankText) := by
  cases c with
  | int v =>
    simp only [numpyValueToTidy]
    split
    · exact na_facts
    · cases t <;> simp only [Cell.Fits] at hfit
      obtain ⟨h1, h2, h3, -⟩ := numericText (fun c hc => by
          rcases intText_chars v c hc with h | rfl
          · simp [isFloatReprChar, h]
          · rfl)
        (intText_ne_nil v) (by have := intText_length hfit; omega)
      exact ⟨h1, fun h => absurd h h2, fun h => by simp [h3] at h⟩
  | float x =>
    simp only [numpyValueToTidy]
    split
    · exact na_facts
    · obtain ⟨h1, h2, h3, -⟩ := numericText (hF.repr_chars x) (hF.repr_ne_nil x) (hF.repr_length x)
      exact ⟨h1, fun h => absurd h h2, fun h => by simp [h3] at h⟩
  | str s => exact ⟨hc.1, id, id⟩
  | none => exact na_facts

/-! ### Printed records read back -/

theorem mapM_map_ok {ε α β γ : Type} {f : β → Except ε γ} {h : α → β} {g : α → γ} :
    ∀ {l : List α}, (∀ a ∈ l, f (h a) = .ok (g a)) → (l.map h).mapM f = .ok (l.map g)
  | [], _ => rfl
  | a :: l, hl => by
    rw [List.map_cons, List.mapM_cons, hl a (List.mem_cons_self _ _),
      mapM_map_ok fun b hb => hl b (List.mem_cons_of_mem _ hb)]
    rfl

/-- Fields whose tab-joined line `open_tsv` keeps and `csv.reader` reads back:
    fields it stores as they are, on a line that is neither a comment nor blank. -/
def PrintedRecord (fs : List String) : Prop :=
  (∀ f ∈ fs, CsvField f) ∧ (∀ f ∈ fs.head?, f.data.take 1 ≠ ['#']) ∧
    isBlank (pyJoin "\t" fs) = false

theorem pyJoin_tab_lineChars {fs : List String} (h : ∀ f ∈ fs, CsvField f) :
    '\n' ∉ (pyJoin "\t" fs).data ∧ '\r' ∉ (pyJoin "\t" fs).data := by
  have key : ∀ c ∈ (pyJoin "\t" fs).data, c ≠ '\n' ∧ c ≠ '\r' := by
    intro c hc
    rcases mem_pyJoin hc with hc | ⟨f, hf, hc⟩
    · obtain rfl : c = '\t' := by simpa using hc
      decide
    · have := (h f hf).1 c hc
      simp only [csvPlain, Bool.and_eq_true, decide_eq_true_eq] at this
      exact ⟨this.1.1.2, this.1.2⟩
  exact ⟨fun h => (key _ h).1 rfl, fun h => (key _ h).2 rfl⟩

theorem PrintedRecord.kept {fs : List String} (h : PrintedRecord fs) : KeptLine (pyJoin "\t" fs) := by
  refine ⟨fun h1 => ?_, h.2.2⟩
  cases fs with
  | nil => exact absurd h1 (by decide)
  | cons f fs => exact h.2.1 f rfl (take_one_pyJoin_tab h1)

/-- **Printed records read back.** From a file `print` wrote as a kept header
    line and tab-joined records, `open_tsv` drops the header and `csv.reader`
    yields the records. -/
theorem mapRecords_printLines {β : Type} (g : List String → Except PyError β) {hd : String}
    (hhd : KeptLine hd) (hhdc : '\n' ∉ hd.data ∧ '\r' ∉ hd.data) {rows : List (List String)}
    (hr : ∀ fs ∈ rows, PrintedRecord fs) :
    mapRecords .csv g .reset
      (commentStripper 0 (readLines (printLines (hd :: rows.map (pyJoin "\t"))))) = rows.mapM g := by
  have hchars : ∀ l ∈ hd :: rows.map (pyJoin "\t"), '\n' ∉ l.data ∧ '\r' ∉ l.data := by
    simp only [List.mem_cons, List.mem_map]
    rintro l (rfl | ⟨fs, hfs, rfl⟩)
    exacts [hhdc, pyJoin_tab_lineChars (hr fs hfs).1]
  have hkept : ∀ l ∈ (rows.map (pyJoin "\t")).map (· ++ "\n"), KeptLine l := by
    simp only [List.map_map, List.mem_map]
    rintro l ⟨fs, hfs, rfl⟩
    exact (hr fs hfs).kept.newline
  rw [readLines_printLines _ hchars, List.map_cons, commentStripper_header hhd.newline hkept,
    List.map_map]
  refine mapRecords_rows .csv g rows fun fs hfs => ⟨?_, fun h => ?_, (hr fs hfs).1⟩
  · rintro rfl
    exact absurd (hr [] hfs).2.2 (by decide)
  · have hb := (hr fs hfs).2.2
    rw [isBlank, h] at hb
    exact absurd hb (by decide)

/-! ### The dictionary -/

@[simp] theorem parseType_numpyTypeToTidy (t : DType) : parseType (numpyTypeToTidy t) = t := by
  cases t <;> rfl

theorem dictionaryText_eq (cols : List (String × DType)) :
    dictionaryText cols = printLines ("column_name\ttype\tdescription" ::
      (cols.map fun col => [col.1, numpyTypeToTidy col.2, "Unknown"]).map (pyJoin "\t")) := by
  simp only [dictionaryText, List.map_map]
  congr 2
  refine List.map_congr_left fun col _ => ?_
  simp only [Function.comp, pyJoin_cons_cons, pyJoin, String.append_assoc]
  rfl

theorem csvField_numpyTypeToTidy (t : DType) : CsvField (numpyTypeToTidy t) := by
  unfold CsvField; cases t <;> decide

/-- **`__read_dictionary` gives back the columns `write` described**, when their
    names are fields `csv.reader` keeps and no dictionary line is a comment. -/
theorem readDictionary_text {cols : List (String × DType)}
    (h : ∀ col ∈ cols, CsvField col.1 ∧ col.1.data.take 1 ≠ ['#']) :
    mapRecords .csv dictionaryEntry .reset (commentStripper 0 (readLines (dictionaryText cols))) =
      .ok cols := by
  have hrec : ∀ fs ∈ cols.map fun col => [col.1, numpyTypeToTidy col.2, "Unknown"], PrintedRecord fs := by
    simp only [List.mem_map]
    rintro fs ⟨col, hcol, rfl⟩
    refine ⟨?_, by simpa using (h col hcol).2, by simp [isBlank_pyJoin_tab, show isBlank "Unknown" = false by decide]⟩
    simp only [List.mem_cons, List.mem_singleton, List.not_mem_nil, or_false]
    rintro f (rfl | rfl | rfl)
    exacts [(h col hcol).1, csvField_numpyTypeToTidy _, by unfold CsvField; decide]
  rw [dictionaryText_eq, mapRecords_printLines _ ⟨by decide, by decide⟩ (by decide) hrec,
    mapM_map_ok (g := id) fun col _ => by simp [dictionaryEntry]]
  simp

/-! ### The rows -/

theorem exists_of_forall₂ {α β : Type} {R : α → β → Prop} :
    ∀ {l₁ : List α} {l₂ : List β}, List.Forall₂ R l₁ l₂ → ∀ {a}, a ∈ l₁ → ∃ b ∈ l₂, R a b
  | _, _, .nil, _, ha => absurd ha (List.not_mem_nil _)
  | _, _, .cons h hs, _, ha => by
    rcases List.mem_cons.1 ha with rfl | ha
    · exact ⟨_, List.mem_cons_self _ _, h⟩
    · obtain ⟨b, hb, hr⟩ := exists_of_forall₂ hs ha
      exact ⟨b, List.mem_cons_of_mem _ hb, hr⟩

theorem mapM_map_forall₂ {ε α β γ : Type} {f : β → Except ε γ} {h : α → β} {R : γ → α → Prop} :
    ∀ {l : List α}, (∀ a ∈ l, ∃ c, f (h a) = .ok c ∧ R c a) →
      ∃ cs, (l.map h).mapM f = .ok cs ∧ List.Forall₂ R cs l
  | [], _ => ⟨[], rfl, .nil⟩
  | a :: l, hl => by
    obtain ⟨c, hc, hr⟩ := hl a (List.mem_cons_self _ _)
    obtain ⟨cs, hcs, hrs⟩ := mapM_map_forall₂ fun b hb => hl b (List.mem_cons_of_mem _ hb)
    exact ⟨c :: cs, by rw [List.map_cons, List.mapM_cons, hc, hcs]; rfl, .cons hr hrs⟩

/-- `iterrows` leaves every cell of a row as it is, unless the table has
    `int64` and `float64` columns and no `object` one. -/
theorem upcast_eq_self {cols : List (String × DType)} {r : List (Cell F)}
    (hfit : List.Forall₂ (fun c col => c.Fits col.2) r cols)
    (h : .object ∈ cols.map (·.2) ∨ .int64 ∉ cols.map (·.2) ∨ .float64 ∉ cols.map (·.2)) :
    ∀ c ∈ r, c.upcast ops (rowType (cols.map (·.2))) = c := by
  intro c hc
  cases c with
  | int v =>
    obtain ⟨⟨_, t⟩, hcol, hf⟩ := exists_of_forall₂ hfit hc
    cases t <;> simp only [Cell.Fits] at hf
    have h64 : DType.int64 ∈ cols.map (·.2) := List.mem_map.2 ⟨_, hcol, rfl⟩
    have hrow : rowType (cols.map (·.2)) ≠ .float64 := fun e => by
      obtain ⟨h1, h2⟩ := rowType_eq_float64.1 e
      rcases h with h | h | h <;> contradiction
    cases ht : rowType (cols.map (·.2))
    · rfl
    · exact absurd ht hrow
    · rfl
  | _ => cases rowType (cols.map (·.2)) <;> rfl

theorem rowText_eq {types : List DType} {r : List (Cell F)}
    (h : ∀ c ∈ r, c.upcast ops (rowType types) = c) :
    rowText ops types r = pyJoin "\t" (r.map (numpyValueToTidy ops)) := by
  rw [rowText, List.map_congr_left fun c hc => by rw [h c hc]]

/-- The fields `write` gives an encodable row make a printed record. -/
theorem printedRecord_row (hF : ops.Lawful) {cols : List (String × DType)} {r : List (Cell F)}
    (hfit : List.Forall₂ (fun c col => c.Fits col.2) r cols) (hc : ∀ c ∈ r, c.Encodable ops)
    (hfirst : ∀ c ∈ r.head?, ¬ c.StartsHash) (hnb : ∃ c ∈ r, ¬ c.BlankText) :
    PrintedRecord (r.map (numpyValueToTidy ops)) := by
  have facts := fun c (hcr : c ∈ r) =>
    cellText_facts hF (exists_of_forall₂ hfit hcr).choose_spec.2 (hc c hcr)
  refine ⟨?_, ?_, ?_⟩
  · simp only [List.mem_map]
    rintro f ⟨c, hcr, rfl⟩
    exact (facts c hcr).1
  · cases r with
    | nil => simp
    | cons c r =>
      simp only [List.map_cons, List.head?_cons, Option.mem_def, Option.some.injEq]
      rintro f rfl h
      exact hfirst c rfl ((facts c (List.mem_cons_self _ _)).2.1 h)
  · obtain ⟨c, hcr, hb⟩ := hnb
    rw [isBlank_pyJoin_tab, List.all_eq_false]
    exact ⟨_, List.mem_map_of_mem _ hcr, fun h => hb ((facts c hcr).2.2 (by simpa using h))⟩

theorem hackNa_text {cols : List (String × DType)} {r : List (Cell F)} (hlen : r.length = cols.length) :
    hackNa ops (r.map (numpyValueToTidy ops)) cols =
      .ok (List.zipWith (fun c col => hackNaField ops col.2 (numpyValueToTidy ops c)) r cols) := by
  rw [hackNa_eq ops (by rw [List.length_map, hlen]), List.zipWith_map_left]

/-- **One row comes back**: `astype` of what `__hack_na` made of the row's text. -/
theorem astypeRow_round_trip (hF : ops.Lawful) :
    ∀ {r : List (Cell F)} {cols : List (String × DType)},
      List.Forall₂ (fun c col => c.Fits col.2) r cols → (∀ c ∈ r, c.Encodable ops) →
      ∃ r', astypeRow ops (cols.map (·.2))
          (List.zipWith (fun c col => hackNaField ops col.2 (numpyValueToTidy ops c)) r cols) = .ok r' ∧
        List.Forall₂ (Cell.Same ops) r' r
  | _, _, .nil, _ => ⟨[], rfl, .nil⟩
  | c :: _, _ :: _, .cons hf hfs, hc => by
    obtain ⟨c', hc', hs⟩ := cell_round_trip hF hf (hc c (List.mem_cons_self _ _))
    obtain ⟨r', hr', hrs⟩ := astypeRow_round_trip hF hfs fun d hd => hc d (List.mem_cons_of_mem _ hd)
    refine ⟨c' :: r', ?_, .cons hs hrs⟩
    simp only [astypeRow] at hr' ⊢
    simp only [List.zipWith_cons_cons, List.map_cons, List.zip_cons_cons, List.mapM_cons, hc', hr']
    rfl

/-! ### Whole tables -/

/-- A name that keeps one type gets that type from `astype`. -/
theorem astypeType_of_mem {cols : List (String × DType)}
    (h : cols.Pairwise fun a b => a.1 = b.1 → a.2 = b.2) {col : String × DType} (hc : col ∈ cols) :
    astypeType cols col.1 = col.2 := by
  unfold astypeType
  cases hf : cols.reverse.find? (·.1 = col.1) with
  | none => simpa using List.find?_eq_none.1 hf col (List.mem_reverse.2 hc)
  | some c' =>
    have h1 : c'.1 = col.1 := by simpa using List.find?_some hf
    have hsymm : Symmetric fun a b : String × DType => a.1 = b.1 → a.2 = b.2 :=
      fun _ _ hab e => (hab e.symm).symm
    exact h.forall_of_forall hsymm (fun _ _ _ => rfl)
      (List.mem_reverse.1 (List.mem_of_find?_eq_some hf)) hc h1

variable (ops) in
/-- The tables `write` and `read` carry through unchanged. -/
structure TidyTable.Encodable (t : TidyTable F) : Prop where
  /-- Names are fields `csv.reader` keeps, and no dictionary line is a comment. -/
  names : ∀ col ∈ t.columns, CsvField col.1 ∧ col.1.data.take 1 ≠ ['#']
  /-- A repeated name keeps its type: `astype` gives every column of a name the last one. -/
  types : t.columns.Pairwise fun a b => a.1 = b.1 → a.2 = b.2
  /-- The header line is not blank, which would make the first row the header. -/
  header : t.rows ≠ [] → isBlank (pyJoin "\t" (t.columns.map (·.1))) = false
  /-- `iterrows` does not turn `int64` cells into floats. -/
  no_upcast : t.rows ≠ [] → .object ∈ t.columns.map (·.2) ∨ .int64 ∉ t.columns.map (·.2) ∨
    .float64 ∉ t.columns.map (·.2)
  cells : ∀ r ∈ t.rows, ∀ c ∈ r, c.Encodable ops
  /-- No row's line starts with `#`, which would make it a comment. -/
  first : ∀ r ∈ t.rows, ∀ c ∈ r.head?, ¬ c.StartsHash
  /-- No row's line is blank, which would drop it. -/
  nonblank : ∀ r ∈ t.rows, ∃ c ∈ r, ¬ c.BlankText

theorem commentStripper_single (l : String) : commentStripper 0 [l] = [] := by
  simp [commentStripper]

/-- With rows, the header line of an encodable table is kept by `open_tsv`. -/
theorem TidyTable.Encodable.header_kept {t : TidyTable F} (ht : t.Encodable ops)
    (hrows : t.rows ≠ []) : KeptLine (pyJoin "\t" (t.columns.map (·.1))) := by
  refine ⟨fun h => ?_, ht.header hrows⟩
  cases hc : t.columns with
  | nil => simp [hc, pyJoin] at h
  | cons col cols =>
    rw [hc, List.map_cons] at h
    exact (ht.names col (hc ▸ List.mem_cons_self _ _)).2 (take_one_pyJoin_tab h)

/-- With rows, `iterrows` leaves the cells as they are, so each data line is
    the cells' texts joined by tabs. -/
theorem TidyTable.Encodable.dataText_eq {t : TidyTable F} (ht : t.Encodable ops)
    (hrows : t.rows ≠ []) :
    dataText ops t.toFrame = printLines (pyJoin "\t" (t.columns.map (·.1)) ::
      (t.rows.map (·.map (numpyValueToTidy ops))).map (pyJoin "\t")) := by
  rw [dataText, List.map_map]
  congr 2
  exact List.map_congr_left fun r hr => rowText_eq (upcast_eq_self (t.fits r hr) (ht.no_upcast hrows))

/-- **`read` gives back what `write` wrote**, computed on the texts of the two files. -/
theorem parseTidy_round_trip (hF : ops.Lawful) (t : TidyTable F) (ht : t.Encodable ops) :
    ∃ df, parseTidy ops (dictionaryText t.columns) (dataText ops t.toFrame) = .ok df ∧
      df.columns = t.columns ∧ List.Forall₂ (List.Forall₂ (Cell.Same ops)) df.rows t.rows := by
  have htypes : t.columns.map (fun col => astypeType t.columns col.1) = t.columns.map (·.2) :=
    List.map_congr_left fun col hc => astypeType_of_mem ht.types hc
  have hzip : (t.columns.map (·.1)).zip (t.columns.map (·.2)) = t.columns := by
    rw [← List.unzip_fst, ← List.unzip_snd, List.zip_unzip]
  have hhdc := pyJoin_tab_lineChars
    (show ∀ f ∈ t.columns.map (·.1), CsvField f by simpa using fun col hc => (ht.names col hc).1)
  by_cases hrows : t.rows = []
  · refine ⟨⟨t.columns, []⟩, ?_, rfl, by rw [hrows]; exact .nil⟩
    simp only [parseTidy, readDictionary_text ht.names, dataText, hrows, List.map_nil,
      readLines_printLines [_] (by simpa using hhdc), List.map_singleton, commentStripper_single]
    simp [bind, Except.bind, mapRecords, CsvReader.reset, dataFrame, htypes, hzip, pure, Except.pure]
    rfl
  · have hfit := t.fits
    have hrec := mapRecords_printLines (hackNa ops · t.columns) (ht.header_kept hrows) hhdc
      (show ∀ fs ∈ t.rows.map (·.map (numpyValueToTidy ops)), PrintedRecord fs by
        simp only [List.mem_map]
        rintro _ ⟨r, hr, rfl⟩
        exact printedRecord_row hF (hfit r hr) (ht.cells r hr) (ht.first r hr) (ht.nonblank r hr))
    rw [mapM_map_ok (f := (hackNa ops · t.columns)) (h := (·.map (numpyValueToTidy ops)))
      fun r hr => hackNa_text (hfit r hr).length_eq] at hrec
    have hw : ∀ r ∈ t.rows.map fun r => List.zipWith (fun c col => hackNaField ops col.2
        (numpyValueToTidy ops c)) r t.columns, r.length = (t.columns.map (·.1)).length := by
      simp only [List.mem_map]
      rintro _ ⟨r, hr, rfl⟩
      simp [(hfit r hr).length_eq]
    obtain ⟨rows', hrows', hsame⟩ := mapM_map_forall₂ (f := astypeRow ops (t.columns.map (·.2)))
      fun r hr => astypeRow_round_trip hF (hfit r hr) (ht.cells r hr)
    refine ⟨⟨t.columns, rows'⟩, ?_, rfl, hsame⟩
    simp only [parseTidy, readDictionary_text ht.names, ht.dataText_eq hrows, hrec,
      dataFrame_of_width hw, htypes,
      astypeRows, hrows', hzip, bind, Except.bind]
    rfl

end

/-! ### A table to run -/

/-- A table with a column of each dtype and a row of missing values. -/
def digitTable : TidyTable (Option (Fin 10)) where
  columns := [("name", .object), ("n", .int64), ("x", .float64)]
  rows := [[.str "a", .int 3, .float (some 5)], [.none, .int (-9999999), .float none]]
  fits := by decide

theorem digitTable_encodable : digitTable.Encodable digitFloats :=
  ⟨by decide, by decide, fun _ => by decide, fun _ => by decide, by decide, by decide, by decide⟩

/-! ### The two files -/

section
variable (cacheDir grailFile : String) (btsvToTsv : String → Option String)
variable {F : Type} {ops : FloatOps F}

theorem dictPath_ne {p : String} (hext : (splitext p).2 = ".tsv") :
    (splitext p).1 ++ "_data_dictionary.tsv" ≠ p := by
  intro h
  have := congrArg String.data (h.trans (tsv_eq hext))
  simp only [String.data_append, List.append_cancel_left_eq] at this
  exact absurd this (by decide)

end

end GqlPython
