import GqlPython.Storage.Files
import GqlPython.Text.Decimal

/-! # The pandas and numpy operations of the tidy codec

    `_TidyTSVParser` and `_TidyTSVWriter` move a `pandas.DataFrame` through a
    tidy TSV file with a handful of library calls. This module models the part
    of each that the codec relies on, for the three dtypes the codec knows:
    `int64`, `float64` and `object`.

    * A cell is an `int64` or a Python `int`, a `float64`, a `str`, or `None`.
    * float64 values are kept abstract (`FloatOps`): the codec needs `np.nan`,
      `np.isnan`, `v == -9999999`, the upcast of an `int64`, `f'{v}'` (the
      shortest round-trip `repr`) and `float(s)`. `FloatOps.Lawful` states what
      Python guarantees of them.
    * `pd.DataFrame(rows, columns=names)` widens short rows with `None` to the
      longest one, whose width must be the number of names (`dataFrame`).
    * `df.astype({name: type})` converts each cell with `int()` or `float()`;
      `None` becomes NaN in a float column and is refused in an int column
      (`Cell.astype`). The conversion goes row by row; pandas goes column by
      column, which only decides which error is reported when there are several.
    * `df.iterrows()` yields each row at numpy's common type of the columns, so
      an `int64` cell becomes a float in a row of numbers with a float column
      (`Cell.upcast`).

    The dtype inference `pd.DataFrame` makes before `astype` is left out: the
    cells here convert to the same values either way.
-/

namespace GqlPython

/-! ### float64 -/

/-- The float64 operations the tidy codec uses, over a type `F` of doubles. -/
structure FloatOps (F : Type) where
  /-- `np.nan`. -/
  nan : F
  /-- `np.isnan(v)`. -/
  isNaN : F → Bool
  /-- `v == -9999999`. -/
  isSentinel : F → Bool
  /-- The float an `int64` becomes in a row of floats. -/
  ofInt : Int → F
  /-- `f'{v}'`: Python's shortest round-trip `repr`, e.g. `1.5`, `1e+16`, `inf`. -/
  repr : F → String
  /-- `float(s)`, `none` where it raises `ValueError`. -/
  parse : String → Option F

/-- The characters of a float's `repr`: digits, `.`, `e`, signs, and the
    letters of `inf` and `nan`. -/
def isFloatReprChar (c : Char) : Bool :=
  c.isDigit || c = '.' || c = 'e' || c = '+' || c = '-' || c = 'i' || c = 'n' || c = 'f' ||
    c = 'a'

/-- What Python guarantees of the float operations: `float(repr(x)) == x` for
    every non-NaN `x`, and `repr` writes a short, non-empty run of the
    characters above. -/
structure FloatOps.Lawful {F : Type} (ops : FloatOps F) : Prop where
  isNaN_nan : ops.isNaN ops.nan = true
  parse_repr : ∀ x, ops.isNaN x = false → ops.parse (ops.repr x) = some x
  repr_chars : ∀ x, ∀ c ∈ (ops.repr x).data, isFloatReprChar c = true
  repr_ne_nil : ∀ x, (ops.repr x).data ≠ []
  repr_length : ∀ x, (ops.repr x).data.length ≤ 32

/-- The text `repr` gives NaN and the whole numbers `0.0` to `9.0`. -/
def digitRepr : Option (Fin 10) → String
  | none => "nan"
  | some d => toString d.val ++ ".0"

/-- Doubles restricted to NaN and the whole numbers `0.0` to `9.0`, with
    `float(s)` reading exactly their `repr`s. -/
def digitFloats : FloatOps (Option (Fin 10)) where
  nan := none
  isNaN := Option.isNone
  isSentinel _ := false
  ofInt v := some ⟨v.toNat % 10, Nat.mod_lt _ (by decide)⟩
  repr := digitRepr
  parse s := (none :: (List.finRange 10).map some).find? (digitRepr · = s)

theorem digitFloats_lawful : digitFloats.Lawful where
  isNaN_nan := rfl
  parse_repr x hx := by
    cases x with
    | none => exact absurd hx (by decide)
    | some d => revert d; decide
  repr_chars x := by cases x with
    | none => decide
    | some d => revert d; decide
  repr_ne_nil x := by cases x with
    | none => decide
    | some d => revert d; decide
  repr_length x := by cases x with
    | none => decide
    | some d => revert d; decide

/-! ### Cells, columns and frames -/

/-- The dtypes the codec distinguishes. -/
inductive DType
  | int64
  | float64
  | object
  deriving DecidableEq, Repr

/-- A value in a `DataFrame` cell. -/
inductive Cell (F : Type)
  /-- An `int64`, or a Python `int` before `astype`. -/
  | int (v : Int)
  | float (x : F)
  | str (s : String)
  | none

/-- The values an `int64` holds. -/
def inInt64 (v : Int) : Prop := -2 ^ 63 ≤ v ∧ v < 2 ^ 63

instance (v : Int) : Decidable (inInt64 v) := inferInstanceAs (Decidable (_ ∧ _))

/-- A cell of a column of dtype `t` in a tidy table: string columns hold
    `str` or `None`. -/
def Cell.Fits {F : Type} : Cell F → DType → Prop
  | .int v, .int64 => inInt64 v
  | .float _, .float64 => True
  | .str _, .object | .none, .object => True
  | _, _ => False

instance Cell.decFits {F : Type} : (c : Cell F) → (t : DType) → Decidable (c.Fits t)
  | .int v, .int64 => inferInstanceAs (Decidable (inInt64 v))
  | .float _, .float64 | .str _, .object | .none, .object => isTrue trivial
  | .int _, .float64 | .int _, .object | .float _, .int64 | .float _, .object
  | .str _, .int64 | .str _, .float64 | .none, .int64 | .none, .float64 => isFalse id

/-- A `DataFrame`: named, typed columns and its rows. -/
structure Frame (F : Type) where
  columns : List (String × DType)
  rows : List (List (Cell F))

/-- A tidy table: every row has one cell per column, of the column's dtype. -/
structure TidyTable (F : Type) extends Frame F where
  fits : ∀ r ∈ rows, List.Forall₂ (fun (c : Cell F) (col : String × DType) => c.Fits col.2) r columns

/-- Two cells hold the same value, NaN matching NaN. -/
def Cell.Same {F : Type} (ops : FloatOps F) : Cell F → Cell F → Prop
  | .float x, .float y => (ops.isNaN x = true ∧ ops.isNaN y = true) ∨ x = y
  | c, d => c = d

/-! ### Reading -/

section
variable {F : Type} (ops : FloatOps F)

/-- `_TidyTSVParser.parse_type`: unknown tidy types become `object`. -/
def parseType (name : String) : DType :=
  if name = "int" then .int64 else if name = "float" then .float64 else .object

/-- What `__hack_na` puts for `"NA"` in a column of dtype `t`. -/
def naValue : DType → Cell F
  | .float64 => .float ops.nan
  | .int64 => .int (-9999999)
  | .object => .none

/-- The body of the loop of `__hack_na` for the field `v` of column `i`: `"NA"`
    becomes the missing value of `cols[i]`'s type, which raises `IndexError`
    past the last column; every other field stays a `str`. -/
def hackNaAt (cols : List (String × DType)) (i : Nat) (v : String) : Except PyError (Cell F) :=
  if v ≠ "NA" then .ok (.str v)
  else match cols.get? i with
    | some col => .ok (naValue ops col.2)
    | none => .error .index

/-- `_TidyTSVParser.__hack_na(row, cols)`. -/
def hackNa (row : List String) (cols : List (String × DType)) : Except PyError (List (Cell F)) :=
  row.enum.mapM fun iv => hackNaAt ops cols iv.1 iv.2

/-- `pd.DataFrame(rows, columns=names)` for a list of rows: rows shorter than
    the longest are filled with `None`, and the longest must have one value
    per name. No rows give an empty frame. -/
def dataFrame (rows : List (List (Cell F))) (names : List String) :
    Except PyError (List (List (Cell F))) :=
  if rows.isEmpty then .ok []
  else
    let w := (rows.map List.length).foldr max 0
    if w = names.length then .ok (rows.map fun r => r ++ List.replicate (w - r.length) .none)
    else .error (.value (toString names.length ++ " columns passed, passed data had " ++
      toString w ++ " columns"))

theorem foldr_max_le {n : Nat} : ∀ {l : List Nat}, (∀ x ∈ l, x ≤ n) → l.foldr max 0 ≤ n
  | [], _ => Nat.zero_le _
  | x :: _, h =>
    max_le (h x (List.mem_cons_self _ _)) (foldr_max_le fun y hy => h y (List.mem_cons_of_mem _ hy))

/-- Rows that all have one value per name pass through unchanged. -/
theorem dataFrame_of_width {rows : List (List (Cell F))} {names : List String}
    (h : ∀ r ∈ rows, r.length = names.length) : dataFrame rows names = .ok rows := by
  cases rows with
  | nil => rfl
  | cons r rs =>
    have hw : ((r :: rs).map List.length).foldr max 0 = names.length :=
      le_antisymm (foldr_max_le (by simpa using fun r hr => (h r hr).le))
        (by simp [h r (List.mem_cons_self _ _)])
    simp only [dataFrame, List.isEmpty_cons, Bool.false_eq_true, if_false, hw, if_true]
    congr 1
    conv_rhs => rw [← List.map_id (r :: rs)]
    exact List.map_congr_left fun r' hr' => by simp [h r' hr']

theorem foldr_max_mem : ∀ {l : List Nat}, l ≠ [] → l.foldr max 0 ∈ l
  | [], h => absurd rfl h
  | [a], _ => by simp
  | a :: b :: l, _ => by
    rcases max_choice a ((b :: l).foldr max 0) with h | h <;> rw [List.foldr_cons, h]
    · exact List.mem_cons_self _ _
    · exact List.mem_cons_of_mem _ (foldr_max_mem (List.cons_ne_nil _ _))

theorem le_foldr_max : ∀ {l : List Nat}, ∀ x ∈ l, x ≤ l.foldr max 0
  | a :: l, x, hx => by
    rcases List.mem_cons.1 hx with rfl | hx
    · exact le_max_left _ _
    · exact (le_foldr_max x hx).trans (le_max_right _ _)

/-- What `pd.DataFrame(rows, columns=names)` returns: no rows, or the rows
    padded to the longest one, which has one value per name. -/
theorem dataFrame_ok {rows rows' : List (List (Cell F))} {names : List String}
    (h : dataFrame rows names = .ok rows') :
    rows = [] ∧ rows' = [] ∨ (rows.map List.length).foldr max 0 = names.length ∧
      rows' = rows.map fun r => r ++ List.replicate (names.length - r.length) .none := by
  unfold dataFrame at h
  split at h
  · next he => cases h; exact .inl ⟨List.isEmpty_iff.1 he, rfl⟩
  · dsimp only at h
    split at h
    · next hw => cases h; exact .inr ⟨hw, by rw [hw]⟩
    · cases h

/-- The type `df.astype({col_name: col_type for col_name, col_type in cols})`
    gives the column named `n`: the last one given for that name. -/
def astypeType (cols : List (String × DType)) (n : String) : DType :=
  ((cols.reverse.find? (·.1 = n)).map (·.2)).getD .object

/-- Python's quoting of a string in an error message. -/
def pyQuote (s : String) : String := "'" ++ s ++ "'"

/-- One cell through `astype`: `int()` or `float()` on a `str`; `None` is NaN
    in a float column and a `TypeError` in an int column. A float never
    reaches an int column (`__hack_na` puts `-9999999` there). -/
def Cell.astype : DType → Cell F → Except PyError (Cell F)
  | .int64, .int v => .ok (.int v)
  | .int64, .str s =>
    match pyInt s with
    | .some v => if inInt64 v then .ok (.int v)
      else .error (.overflow "Python int too large to convert to C long")
    | .none => .error (.value ("invalid literal for int() with base 10: " ++ pyQuote s))
  | .int64, .none =>
    .error (.type "int() argument must be a string, a bytes-like object or a number, not 'NoneType'")
  | .int64, .float _ => .error (.value "cannot convert float NaN to integer")
  | .float64, .float x => .ok (.float x)
  | .float64, .str s =>
    match ops.parse s with
    | .some x => .ok (.float x)
    | .none => .error (.value ("could not convert string to float: " ++ pyQuote s))
  | .float64, .none => .ok (.float ops.nan)
  | .float64, .int v => .ok (.float (ops.ofInt v))
  | .object, c => .ok c

/-- `astype` on one row, each cell with its column's type. -/
def astypeRow (types : List DType) (r : List (Cell F)) : Except PyError (List (Cell F)) :=
  (r.zip types).mapM fun ct => ct.1.astype ops ct.2

/-- `astype` on every row. -/
def astypeRows (types : List DType) (rows : List (List (Cell F))) :
    Except PyError (List (List (Cell F))) :=
  rows.mapM (astypeRow ops types)

end

/-! ### Writing -/

section
variable {F : Type} (ops : FloatOps F)

/-- `_TidyTSVWriter.numpy_type_to_tidy`. -/
def numpyTypeToTidy : DType → String
  | .int64 => "int"
  | .float64 => "float"
  | .object => "string"

/-- `_TidyTSVWriter.numpy_value_to_tidy`: `None`, anything equal to `-9999999`
    and NaN are written `NA`, everything else as `f'{v}'`. -/
def numpyValueToTidy : Cell F → String
  | .none => "NA"
  | .int v => if v = -9999999 then "NA" else toString v
  | .float x => if ops.isSentinel x || ops.isNaN x then "NA" else ops.repr x
  | .str s => s

/-- The dtype of the rows `iterrows` yields: numpy's common type of the
    columns' dtypes. -/
def rowType (types : List DType) : DType :=
  if types.contains .object then .object else if types.contains .float64 then .float64 else .int64

/-- The rows are floats when there is a float column and no `object` one. -/
theorem rowType_eq_float64 {types : List DType} :
    rowType types = .float64 ↔ .object ∉ types ∧ .float64 ∈ types := by
  unfold rowType
  split_ifs <;> simp_all

/-- A cell as it is in a row of dtype `t`: an `int64` in a float row is a float. -/
def Cell.upcast : DType → Cell F → Cell F
  | .float64, .int v => .float (ops.ofInt v)
  | _, c => c

end

end GqlPython
