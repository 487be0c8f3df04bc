import PgReplicate.Utf8

/-!
# `TableRowConverter::try_from`: one COPY TEXT row to a `TableRow`

The loop of `etl/src/conversions/table_row.rs`, one character at a time.  The inner
`loop { match chars.next() … }` and the outer `while !done` are one fold here: `scanChar`
is the inner loop's body for a character, and when that body `break`s on a tab or a line
feed, the outer loop's field step `endField` runs at once; `endInput` is the `None` arm.

    TableRowConverter.tryFrom tryFromStr row columnSchemas
      = fromUtf8 row  >>=  foldlM scanChar  >>=  endInput

`Cell`, `ColumnSchema` and the text decoder `TextFormatConverter::try_from_str` live outside
this file: `Cell` keeps its `Null` variant and gathers the others in `value`, the decoder is
the parameter `tryFromStr`.
-/

namespace PgReplicate

/-- The crate's `Cell`, seen from `try_from`: `Cell::Null` keeps the column's type; every
other variant is a value `v` the text decoder made. -/
inductive Cell (Ty V : Type) where
  | null (typ : Ty)
  | value (v : V)
  deriving DecidableEq, Repr

/-- `postgres::schema::ColumnSchema`, the fields `try_from` reads. -/
structure ColumnSchema (Ty : Type) where
  name : String
  typ : Ty
  deriving DecidableEq, Repr

structure TableRow (Ty V : Type) where
  values : List (Cell Ty V)
  deriving DecidableEq, Repr

inductive TableRowConversionError (Ty E : Type) where
  | unsupportedType (typ : Ty)
  | invalidString (e : Utf8Error)
  | numColsMismatch
  | unterminatedRow
  | invalidValue (e : E)
  deriving DecidableEq, Repr

/-- The variables of `try_from`'s loop: `values`, the columns `column_schemas_iter` has
left, `val_str`, `in_escape` and `row_terminated`. -/
structure Scan (Ty V : Type) where
  values : List (Cell Ty V)
  columns : List (ColumnSchema Ty)
  valStr : String
  inEscape : Bool
  rowTerminated : Bool

/-! ## Algorithm -/

/-- `val_str` after the character `c` that follows a backslash. -/
def pushEscaped (valStr : String) (c : Char) : String :=
  if c = 'N' then (valStr.push '\\').push c
  else if c = 'b' then valStr.push (Char.ofNat 8)
  else if c = 'f' then valStr.push (Char.ofNat 12)
  else if c = 'n' then valStr.push '\n'
  else if c = 'r' then valStr.push '\r'
  else if c = 't' then valStr.push '\t'
  else if c = 'v' then valStr.push (Char.ofNat 11)
  else valStr.push c

section
variable {Ty V E : Type} (tryFromStr : Ty → String → Except E (Cell Ty V))

/-- The cell of a finished field: `Cell::Null` of the column's type for the text `\N`,
else what the decoder makes of the text; its error becomes `InvalidValue`. -/
def fieldValue (col : ColumnSchema Ty) (valStr : String) :
    Except (TableRowConversionError Ty E) (Cell Ty V) :=
  if valStr = "\\N" then .ok (.null col.typ)
  else match tryFromStr col.typ valStr with
    | .ok value => .ok value
    | .error e => .error (.invalidValue e)

/-- The outer loop's body once a field has ended (`if !done`): the next column or
`NumColsMismatch`, then the cell pushed and `val_str` cleared. -/
def endField (s : Scan Ty V) : Except (TableRowConversionError Ty E) (Scan Ty V) :=
  match s.columns with
  | [] => .error .numColsMismatch
  | col :: cols =>
    (fieldValue tryFromStr col s.valStr).map fun value =>
      { s with values := s.values ++ [value], columns := cols, valStr := "" }

/-- The inner loop's body for one character, in the order of its match arms. -/
def scanChar (s : Scan Ty V) (c : Char) : Except (TableRowConversionError Ty E) (Scan Ty V) :=
  if s.inEscape then .ok { s with valStr := pushEscaped s.valStr c, inEscape := false }
  else if c = '\t' then endField tryFromStr s
  else if c = '\n' then endField tryFromStr { s with rowTerminated := true }
  else if c = '\\' then .ok { s with inEscape := true }
  else .ok { s with valStr := s.valStr.push c }

end

/-- The inner loop's `None` arm: the row must have seen a line feed. -/
def endInput {Ty V E : Type} (s : Scan Ty V) : Except (TableRowConversionError Ty E) (TableRow Ty V) :=
  if !s.rowTerminated then .error .unterminatedRow else .ok ⟨s.values⟩

def Scan.init {Ty V : Type} (columnSchemas : List (ColumnSchema Ty)) : Scan Ty V :=
  ⟨[], columnSchemas, "", false, false⟩

def TableRowConverter.tryFrom {Ty V E : Type} (tryFromStr : Ty → String → Except E (Cell Ty V))
    (row : List UInt8) (columnSchemas : List (ColumnSchema Ty)) :
    Except (TableRowConversionError Ty E) (TableRow Ty V) := do
  let rowStr ← (fromUtf8 row).mapError .invalidString
  let s ← rowStr.foldlM (scanChar tryFromStr) (Scan.init columnSchemas)
  endInput s

/-! ## Lemmas -/

@[simp] theorem except_ok_bind {ε α β : Type} (a : α) (f : α → Except ε β) :
    (Except.ok a >>= f) = f a := rfl

@[simp] theorem except_error_bind {ε α β : Type} (e : ε) (f : α → Except ε β) :
    (Except.error e >>= f) = .error e := rfl

@[simp] theorem except_pure {ε α : Type} (a : α) : (pure a : Except ε α) = .ok a := rfl

@[simp] theorem except_throw {ε α : Type} (e : ε) : (throw e : Except ε α) = .error e := rfl

@[simp] theorem except_map_ok {ε α β : Type} (f : α → β) (a : α) :
    (Except.ok a : Except ε α).map f = .ok (f a) := rfl

@[simp] theorem except_map_error {ε α β : Type} (f : α → β) (e : ε) :
    (Except.error e : Except ε α).map f = .error e := rfl

@[simp] theorem except_mapError_ok {ε ε' α : Type} (f : ε → ε') (a : α) :
    (Except.ok a : Except ε α).mapError f = .ok a := rfl

@[simp] theorem except_mapError_error {ε ε' α : Type} (f : ε → ε') (e : ε) :
    (Except.error e : Except ε α).mapError f = .error (f e) := rfl

theorem except_bind_eq_ok {ε α β : Type} {x : Except ε α} {f : α → Except ε β} {b : β} :
    (x >>= f) = .ok b ↔ ∃ a, x = .ok a ∧ f a = .ok b := by
  cases x <;> simp

theorem except_bind_eq_error {ε α β : Type} {x : Except ε α} {f : α → Except ε β} {e : ε} :
    (x >>= f) = .error e ↔ x = .error e ∨ ∃ a, x = .ok a ∧ f a = .error e := by
  cases x <;> simp

theorem except_map_eq_ok {ε α β : Type} {x : Except ε α} {f : α → β} {b : β} :
    x.map f = .ok b ↔ ∃ a, x = .ok a ∧ f a = b := by
  cases x <;> simp

/-- The escape table appends to `val_str`, whatever was there. -/
theorem pushEscaped_data (valStr : String) (c : Char) :
    (pushEscaped valStr c).data = valStr.data ++ (pushEscaped "" c).data := by
  simp only [pushEscaped, apply_ite String.data, String.data_push, List.append_assoc]
  by_cases h1 : c = 'N'
  · simp only [if_pos h1]; rfl
  by_cases h2 : c = 'b'
  · simp only [if_neg h1, if_pos h2]; rfl
  by_cases h3 : c = 'f'
  · simp only [if_neg h1, if_neg h2, if_pos h3]; rfl
  by_cases h4 : c = 'n'
  · simp only [if_neg h1, if_neg h2, if_neg h3, if_pos h4]; rfl
  by_cases h5 : c = 'r'
  · simp only [if_neg h1, if_neg h2, if_neg h3, if_neg h4, if_pos h5]; rfl
  by_cases h6 : c = 't'
  · simp only [if_neg h1, if_neg h2, if_neg h3, if_neg h4, if_neg h5, if_pos h6]; rfl
  by_cases h7 : c = 'v'
  · simp only [if_neg h1, if_neg h2, if_neg h3, if_neg h4, if_neg h5, if_neg h6, if_pos h7]; rfl
  · simp only [if_neg h1, if_neg h2, if_neg h3, if_neg h4, if_neg h5, if_neg h6, if_neg h7]; rfl

theorem endField_cons {Ty V E : Type} (tryFromStr : Ty → String → Except E (Cell Ty V))
    (s : Scan Ty V) (col : ColumnSchema Ty) (cols : List (ColumnSchema Ty)) (h : s.columns = col :: cols) :
    endField tryFromStr s = (fieldValue tryFromStr col s.valStr).map fun value =>
      { s with values := s.values ++ [value], columns := cols, valStr := "" } := by
  simp only [endField, h]

section
variable {Ty V E : Type} (tryFromStr : Ty → String → Except E (Cell Ty V))

/-- A field that ends takes the next column and pushes its cell. -/
theorem endField_eq_ok {s s' : Scan Ty V} (h : endField tryFromStr s = .ok s') :
    ∃ col v, s.columns = col :: s'.columns ∧ fieldValue tryFromStr col s.valStr = .ok v ∧
      s'.values = s.values ++ [v] := by
  cases hc : s.columns with
  | nil => simp [endField, hc] at h
  | cons col cols =>
    rw [endField_cons tryFromStr s col cols hc] at h
    obtain ⟨v, hv, rfl⟩ := except_map_eq_ok.1 h
    exact ⟨col, v, rfl, hv, rfl⟩

/-- **One character**, all it can do to the cells and the columns: nothing, or end a field. -/
theorem scanChar_eq_ok {s s' : Scan Ty V} {c : Char} (h : scanChar tryFromStr s c = .ok s') :
    (s'.values = s.values ∧ s'.columns = s.columns) ∨
      ∃ col v, s.columns = col :: s'.columns ∧ fieldValue tryFromStr col s.valStr = .ok v ∧
        s'.values = s.values ++ [v] := by
  unfold scanChar at h
  split_ifs at h
  · cases h; exact .inl ⟨rfl, rfl⟩
  · exact .inr (endField_eq_ok tryFromStr h)
  · have := endField_eq_ok tryFromStr h
    exact .inr this
  · cases h; exact .inl ⟨rfl, rfl⟩
  · cases h; exact .inl ⟨rfl, rfl⟩

/-- The end of input returns the cells, once a line feed was seen. -/
theorem endInput_eq_ok {s : Scan Ty V} {r : TableRow Ty V}
    (h : (endInput s : Except (TableRowConversionError Ty E) (TableRow Ty V)) = .ok r) :
    s.rowTerminated = true ∧ r = ⟨s.values⟩ := by
  unfold endInput at h
  split_ifs at h with ht
  cases h
  exact ⟨by simpa using ht, rfl⟩

/-- An accepted row: the bytes decode, the loop runs through the text, a line feed was seen,
and the row is the loop's cells. -/
theorem tryFrom_eq_ok {row : List UInt8} {columnSchemas : List (ColumnSchema Ty)}
    {r : TableRow Ty V} (h : TableRowConverter.tryFrom tryFromStr row columnSchemas = .ok r) :
    ∃ chars s, fromUtf8 row = .ok chars ∧
      chars.foldlM (scanChar tryFromStr) (Scan.init columnSchemas) = .ok s ∧
      s.rowTerminated = true ∧ r = ⟨s.values⟩ := by
  unfold TableRowConverter.tryFrom at h
  obtain ⟨chars, hc, h⟩ := except_bind_eq_ok.1 h
  obtain ⟨s, hs, h⟩ := except_bind_eq_ok.1 h
  cases hu : fromUtf8 row with
  | error e => rw [hu] at hc; cases hc
  | ok chars' =>
    rw [hu] at hc
    cases hc
    exact ⟨_, s, rfl, hs, endInput_eq_ok h⟩

end

end PgReplicate
