import GqlPython.Text.Str

/-! # The `csv.reader` that `open_tsv` builds

    `GQL.open_tsv` returns `csv.reader(_comment_stripper(open(path)),
    delimiter='\t')`. The reader is CPython's `_csv.c` state machine with the
    `excel` dialect: quote character `"`, `doublequote` on, no escape character,
    `skipinitialspace` and `strict` off, and here the tab as delimiter. This
    module transcribes `parse_process_char` and `Reader_iternext` of Python 3.6
    (the version `gql.py` asks for): a `'\0'` in a line is an error, the end of
    each line is fed to the machine as the marker `'\0'` (`none` below), and a
    field may hold at most `field_size_limit()` characters.

    A record is complete when the machine is back in `startRecord` after a
    line; a quoted field that contains a line break makes the record span
    several lines.
-/

namespace GqlPython

/-! ### Parser state -/

/-- The states of `_csv.c` reachable without an escape character. -/
inductive CsvState
  | startRecord
  | startField
  | inField
  | inQuotedField
  | quoteInQuotedField
  | eatCrnl
  deriving DecidableEq, Repr

/-- A reader in the middle of a record. -/
structure CsvReader where
  state : CsvState
  /-- The field being read, reversed. -/
  field : List Char
  /-- The fields of the record saved so far. -/
  fields : List String
  deriving DecidableEq, Repr

/-- `parse_reset`: the reader at the start of each record. -/
def CsvReader.reset : CsvReader := ⟨.startRecord, [], []⟩

/-- `_csv.field_size_limit()`, by default `128 * 1024`. -/
def fieldLimit : Nat := 131072

/-- `parse_save_field`. -/
def CsvReader.saveField (r : CsvReader) : CsvReader :=
  { r with field := [], fields := r.fields ++ [⟨r.field.reverse⟩] }

/-- `parse_add_char`, which refuses to grow a field past the limit. -/
def CsvReader.addChar (r : CsvReader) (c : Char) : Except String CsvReader :=
  if fieldLimit ≤ r.field.length then .error "field larger than field limit (131072)"
  else .ok { r with field := c :: r.field }

/-- Whether `c` ends the line: `'\n'`, `'\r'` or the end-of-line marker. -/
def isLineEnd : Option Char → Bool
  | some '\n' | some '\r' | none => true
  | _ => false

/-- Save the field at a line end; the marker returns to `startRecord`, a real
    line break waits in `eatCrnl` for it. -/
def CsvReader.endLine (r : CsvReader) (c : Option Char) : CsvReader :=
  { r.saveField with state := if c = none then .startRecord else .eatCrnl }

/-- `parse_add_char` for a character; the end-of-line marker adds nothing (no
    case below passes it). -/
def CsvReader.addCharOpt (r : CsvReader) : Option Char → Except String CsvReader
  | some c => r.addChar c
  | none => .ok r

/-- The `START_FIELD` case, also reached from `START_RECORD` by fall-through. -/
def CsvReader.startField (r : CsvReader) (c : Option Char) : Except String CsvReader :=
  if isLineEnd c then .ok (r.endLine c)
  else if c = some '"' then .ok { r with state := .inQuotedField }
  else if c = some '\t' then .ok r.saveField
  else return { (← r.addCharOpt c) with state := .inField }

/-- `parse_process_char`: one character, or the end-of-line marker `none`. The
    tests follow the order of the `switch` in `_csv.c`. -/
def CsvReader.processChar (r : CsvReader) (c : Option Char) : Except String CsvReader :=
  match r.state with
  | .startRecord =>
    if c = none then .ok r
    else if isLineEnd c then .ok { r with state := .eatCrnl }
    else { r with state := .startField }.startField c
  | .startField => r.startField c
  | .inField =>
    if isLineEnd c then .ok (r.endLine c)
    else if c = some '\t' then .ok { r.saveField with state := .startField }
    else r.addCharOpt c
  | .inQuotedField =>
    if c = none then .ok r
    else if c = some '"' then .ok { r with state := .quoteInQuotedField }
    else r.addCharOpt c
  | .quoteInQuotedField =>
    if c = some '"' then return { (← r.addChar '"') with state := .inQuotedField }
    else if c = some '\t' then .ok { r.saveField with state := .startField }
    else if isLineEnd c then .ok (r.endLine c)
    else return { (← r.addCharOpt c) with state := .inField }
  | .eatCrnl =>
    if c = none then .ok { r with state := .startRecord }
    else if isLineEnd c then .ok r
    else .error
      "new-line character seen in unquoted field - do you need to open the file in universal-newline mode?"

/-! ### Records -/

/-- The inner loop of `Reader_iternext` over one line: a `'\0'` in the line is
    refused, and the end of the line is fed as the marker. -/
def CsvReader.feedLine (r : CsvReader) : List Char → Except String CsvReader
  | [] => r.processChar none
  | c :: cs =>
    if c = '\x00' then .error "line contains NULL byte"
    else do
      let r ← r.processChar (some c)
      r.feedLine cs

/-- Iterating the reader and applying `g` to each record as it is produced,
    as `[g(row) for row in reader]` does; `r` holds the record being read.
    At the end of input a pending quoted field is saved as the last record. -/
def mapRecords {ε β : Type} (lift : String → ε) (g : List String → Except ε β)
    (r : CsvReader) : List String → Except ε (List β)
  | [] =>
    if r.field ≠ [] || r.state = .inQuotedField then do
      return [← g r.saveField.fields]
    else .ok []
  | line :: rest =>
    match r.feedLine line.data with
    | .error e => .error (lift e)
    | .ok r' =>
      if r'.state = .startRecord then do
        let b ← g r'.fields
        let bs ← mapRecords lift g .reset rest
        return b :: bs
      else mapRecords lift g r' rest

/-! ### Written rows read back -/

/-- A character the reader stores as it is inside an unquoted field. -/
def csvPlain (c : Char) : Bool := c ≠ '\t' && c ≠ '\n' && c ≠ '\r' && c ≠ '\x00'

section
variable {r : CsvReader}

theorem isLineEnd_of_plain {c : Char} (h : csvPlain c) : isLineEnd (some c) = false := by
  simp only [csvPlain, Bool.and_eq_true, decide_eq_true_eq] at h
  unfold isLineEnd; split <;> simp_all

theorem processChar_inField {c : Char} (hc : csvPlain c) (hst : r.state = .inField)
    (hlen : r.field.length < fieldLimit) :
    r.processChar (some c) = .ok { r with field := c :: r.field } := by
  have ht : c ≠ '\t' := by simp only [csvPlain, Bool.and_eq_true, decide_eq_true_eq] at hc; exact hc.1.1.1
  simp [CsvReader.processChar, hst, isLineEnd_of_plain hc, ht, CsvReader.addCharOpt,
    CsvReader.addChar, Nat.not_le.2 hlen]

theorem feedLine_cons {c : Char} {cs : List Char} (hc : c ≠ '\x00') :
    r.feedLine (c :: cs) = (r.processChar (some c)).bind fun r' => r'.feedLine cs := by
  rw [CsvReader.feedLine, if_neg hc]; rfl

theorem ne_nul_of_plain {c : Char} (hc : csvPlain c) : c ≠ '\x00' := by
  simp only [csvPlain, Bool.and_eq_true, decide_eq_true_eq] at hc; exact hc.2

theorem feedLine_plain (rest : List Char) : ∀ {r : CsvReader} {cs : List Char},
    (∀ c ∈ cs, csvPlain c) → r.state = .inField → r.field.length + cs.length ≤ fieldLimit →
    r.feedLine (cs ++ rest) = { r with field := cs.reverse ++ r.field }.feedLine rest
  | r, [], _, _, _ => by simp
  | r, c :: cs, hcs, hst, hlen => by
    have hc := hcs c (List.mem_cons_self _ _)
    rw [List.cons_append, feedLine_cons (ne_nul_of_plain hc), processChar_inField hc hst (by simp at hlen; omega)]
    simp only [Except.bind]
    rw [feedLine_plain rest (r := { r with field := c :: r.field })
      (fun c h => hcs c (List.mem_cons_of_mem _ h)) hst (by simp at hlen ⊢; omega)]
    simp

/-- A field that `csv.reader` reads back as written: plain characters, no `"`
    in front, and within the field size limit. -/
def CsvField (f : String) : Prop :=
  (∀ c ∈ f.data, csvPlain c) ∧ f.data.head? ≠ some '"' ∧ f.data.length ≤ fieldLimit

instance : DecidablePred CsvField := fun _ => inferInstanceAs (Decidable (_ ∧ _ ∧ _))

/-- The reader between fields, before anything of the next field is read. -/
def CsvReader.AtField (r : CsvReader) : Prop :=
  r.field = [] ∧ (r.state = .startRecord ∨ r.state = .startField)

theorem processChar_start {c : Char} (hc : csvPlain c) (hq : c ≠ '"') (hr : r.AtField) :
    r.processChar (some c) = .ok { r with state := .inField, field := [c] } := by
  have ht : c ≠ '\t' := by simp only [csvPlain, Bool.and_eq_true, decide_eq_true_eq] at hc; exact hc.1.1.1
  obtain ⟨hf, hst | hst⟩ := hr <;>
  simp [CsvReader.processChar, CsvReader.startField, hst, hf, isLineEnd_of_plain hc, ht, hq,
    CsvReader.addCharOpt, CsvReader.addChar, fieldLimit]

theorem feedLine_field (rest : List Char) {f : String} (hf : CsvField f) (hne : f.data ≠ [])
    (hr : r.AtField) :
    r.feedLine (f.data ++ rest) = { r with state := .inField, field := f.data.reverse }.feedLine rest := by
  obtain ⟨hplain, hq, hlen⟩ := hf
  obtain ⟨c, cs, hcs⟩ := List.exists_cons_of_ne_nil hne
  rw [hcs] at hplain hq hlen ⊢
  have hc := hplain c (List.mem_cons_self _ _)
  rw [List.cons_append, feedLine_cons (ne_nul_of_plain hc), processChar_start hc (by simpa using hq) hr]
  simp only [Except.bind]
  rw [feedLine_plain rest (r := { r with state := .inField, field := [c] })
    (fun c h => hplain c (List.mem_cons_of_mem _ h)) rfl (by simp at hlen ⊢; omega)]
  simp

theorem feedLine_tab (rest : List Char) (hr : r.state = .inField ∨ r.AtField) :
    r.feedLine ('\t' :: rest) = { r.saveField with state := .startField }.feedLine rest := by
  rw [feedLine_cons (by decide)]
  rcases hr with hst | ⟨hf, hst | hst⟩ <;>
  simp [CsvReader.processChar, CsvReader.startField, hst, isLineEnd, CsvReader.saveField, Except.bind]

theorem feedLine_newline (hr : r.state = .inField ∨ r.state = .startField) :
    r.feedLine ['\n'] = .ok { r.saveField with state := .startRecord } := by
  rcases hr with hst | hst <;>
  simp [CsvReader.feedLine, CsvReader.processChar, CsvReader.startField, hst, isLineEnd,
    CsvReader.endLine, CsvReader.saveField, bind, Except.bind]


/-- **One written record reads back.** Fields joined by tabs and ended by a
    newline are read, from between two fields, as exactly those fields; from
    the start of a record the line must not be empty, which would read as the
    empty record. -/
theorem feedLine_record : ∀ (fs : List String) {r : CsvReader}, fs ≠ [] → (∀ f ∈ fs, CsvField f) →
    r.AtField → (r.state = .startRecord → (pyJoin "\t" fs).data ≠ []) →
    r.feedLine ((pyJoin "\t" fs).data ++ ['\n']) = .ok ⟨.startRecord, [], r.fields ++ fs⟩
  | [], _, hne, _, _, _ => absurd rfl hne
  | [f], r, _, hfs, hr, hrec => by
    simp only [pyJoin] at hrec ⊢
    by_cases hf : f.data = []
    · have hst : r.state = .startField := hr.2.resolve_left fun h => hrec h hf
      rw [hf, List.nil_append, feedLine_newline (.inr hst)]
      simp [CsvReader.saveField, hr.1, String.ext_iff, hf]
    · rw [feedLine_field _ (hfs f (List.mem_singleton_self _)) hf hr, feedLine_newline (.inl rfl)]
      simp [CsvReader.saveField]
  | f :: f' :: fs, r, _, hfs, hr, _ => by
    have hrest : ∀ g ∈ f' :: fs, CsvField g := fun g hg => hfs g (List.mem_cons_of_mem _ hg)
    simp only [pyJoin, String.data_append, List.append_assoc]
    show r.feedLine (f.data ++ '\t' :: ((pyJoin "\t" (f' :: fs)).data ++ ['\n'])) = _
    by_cases hf : f.data = []
    · rw [hf, List.nil_append, feedLine_tab _ (.inr hr),
        feedLine_record (f' :: fs) (List.cons_ne_nil _ _) hrest ⟨rfl, .inr rfl⟩ (fun h => by simp at h)]
      simp [CsvReader.saveField, hr.1, String.ext_iff, hf]
    · rw [feedLine_field _ (hfs f (List.mem_cons_self _ _)) hf hr, feedLine_tab _ (.inl rfl),
        feedLine_record (f' :: fs) (List.cons_ne_nil _ _) hrest ⟨rfl, .inr rfl⟩ (fun h => by simp at h)]
      simp [CsvReader.saveField]

end

/-- **Written rows read back.** The lines `'\t'.join(fields) + '\n'` of rows
    whose fields are all `CsvField`s and whose lines are not empty are read by
    `csv.reader` as exactly those rows. -/
theorem mapRecords_rows {ε β : Type} (lift : String → ε) (g : List String → Except ε β) :
    ∀ rows : List (List String), (∀ fs ∈ rows, fs ≠ [] ∧ (pyJoin "\t" fs).data ≠ [] ∧ ∀ f ∈ fs, CsvField f) →
      mapRecords lift g .reset (rows.map fun fs => pyJoin "\t" fs ++ "\n") = rows.mapM g
  | [], _ => rfl
  | fs :: rows, h => by
    obtain ⟨hne, hline, hfs⟩ := h fs (List.mem_cons_self _ _)
    have hrec := feedLine_record fs (r := .reset) hne hfs ⟨rfl, .inl rfl⟩ fun _ => hline
    have ih := mapRecords_rows lift g rows fun fs' h' => h fs' (List.mem_cons_of_mem _ h')
    simp only [List.map_cons, mapRecords, String.data_append, hrec, List.mapM_cons]
    simp only [CsvReader.reset, List.nil_append, if_true] at ih ⊢
    rw [ih]

end GqlPython
