import PgReplicate.CopyText

/-!
# Which rows `try_from` accepts

Through `tryFrom_eq_parseRow`: a row is accepted exactly when its bytes are UTF-8, a line
feed is among its separators, and every field a separator ends decodes against a column of
its own (`tryFrom_ok_iff`).  Two kinds of input pass that the code's own checks are there to
stop:

* a record with fewer fields than columns is accepted as a shorter row
  (`tryFrom_short_record`): the column count is checked only when a field finds no column;
* text after the last separator is dropped once a line feed came before it
  (`tryFrom_drops_unterminated_tail`): `row_terminated` is set by the first line feed and never
  reset, so the end-of-input check that answers `UnterminatedRow` lets it through.

So columns added to a schema go unnoticed: a row accepted against a schema is accepted, as the
same row, against the schema with more columns after its own (`tryFrom_append_columns`).
-/

namespace PgReplicate

section
variable {Ty V E : Type} (tryFromStr : Ty → String → Except E (Cell Ty V))

/-- The layered reading accepts exactly the rows whose text has an unescaped line feed and
whose separator-ended fields decode, in order, to the row's cells. -/
theorem parseRow_eq_ok_iff (row : List UInt8) (columnSchemas : List (ColumnSchema Ty))
    (r : TableRow Ty V) :
    parseRow tryFromStr row columnSchemas = .ok r ↔
      ∃ chars, fromUtf8 row = .ok chars ∧ Token.lineFeed ∈ tokens false chars ∧
        decodeFields tryFromStr columnSchemas ((splitFields [] (tokens false chars)).1.map String.mk)
          = .ok r.values := by
  rw [parseRow]
  cases fromUtf8 row with
  | error e => simp
  | ok chars =>
    cases hd : decodeFields tryFromStr columnSchemas
        ((splitFields [] (tokens false chars)).1.map String.mk) with
    | error e => simp [hd]
    | ok vs =>
      by_cases hl : Token.lineFeed ∈ tokens false chars
      · cases r
        simp [hd, hl, eq_comm]
      · simp [hd, hl]

/-- **Acceptance.** `try_from` returns a row exactly when the text decodes, has an unescaped
line feed, and its separator-ended fields decode, in order, to the row's cells. -/
theorem tryFrom_ok_iff (row : List UInt8) (columnSchemas : List (ColumnSchema Ty))
    (r : TableRow Ty V) :
    TableRowConverter.tryFrom tryFromStr row columnSchemas = .ok r ↔
      ∃ chars, fromUtf8 row = .ok chars ∧ Token.lineFeed ∈ tokens false chars ∧
        decodeFields tryFromStr columnSchemas ((splitFields [] (tokens false chars)).1.map String.mk)
          = .ok r.values := by
  rw [tryFrom_eq_parseRow]
  exact parseRow_eq_ok_iff tryFromStr row columnSchemas r

end

/-- A text column, for the rows below: its decoder takes any text. -/
def textColumn (name : String) : ColumnSchema String := ⟨name, "text"⟩

def textFromStr (_ : String) (s : String) : Except Unit (Cell String String) := .ok (.value s)

/-- The spec's third scenario, `a,b\n` against three columns: one field, and `try_from`
returns it as a one-cell row. -/
theorem tryFrom_short_record :
    TableRowConverter.tryFrom textFromStr "a,b\n".toUTF8.data.toList
        [textColumn "a", textColumn "b", textColumn "c"] = .ok ⟨[.value "a,b"]⟩ := by
  rw [tryFrom_eq_parseRow, parseRow, fromUtf8_toUTF8]
  rfl

/-- `a`, a line feed, then `b` against one column: the line feed sets `row_terminated`, `b`
is never ended by a separator, and at the end of input the set flag lets the row through
without it. -/
theorem tryFrom_drops_unterminated_tail :
    TableRowConverter.tryFrom textFromStr "a\nb".toUTF8.data.toList [textColumn "x"] =
      .ok ⟨[.value "a"]⟩ := by
  rw [tryFrom_eq_parseRow, parseRow, fromUtf8_toUTF8]
  rfl

section
variable {Ty V E : Type} (tryFromStr : Ty → String → Except E (Cell Ty V))

theorem decodeFields_append_columns {cols : List (ColumnSchema Ty)} {fs : List String}
    {vs : List (Cell Ty V)} (h : decodeFields tryFromStr cols fs = .ok vs)
    (more : List (ColumnSchema Ty)) :
    decodeFields tryFromStr (cols ++ more) fs = .ok vs := by
  induction fs generalizing cols vs with
  | nil =>
    rw [decodeFields] at h ⊢
    exact h
  | cons f fs ih =>
    cases cols with
    | nil => cases h
    | cons col cols =>
      rw [decodeFields] at h
      obtain ⟨v, hv, h⟩ := except_bind_eq_ok.1 h
      obtain ⟨vs', hr, h⟩ := except_bind_eq_ok.1 h
      cases h
      rw [List.cons_append, decodeFields, hv, except_ok_bind, ih hr, except_ok_bind]
      rfl

/-- **Schema growth.** A row that `try_from` accepts is accepted, as the same row, against
the schema with any columns added after its own: added columns are never noticed, and the
record of the old shape comes back short. -/
theorem tryFrom_append_columns {row : List UInt8} {columnSchemas : List (ColumnSchema Ty)}
    {r : TableRow Ty V} (h : TableRowConverter.tryFrom tryFromStr row columnSchemas = .ok r)
    (more : List (ColumnSchema Ty)) :
    TableRowConverter.tryFrom tryFromStr row (columnSchemas ++ more) = .ok r := by
  rw [tryFrom_eq_parseRow, parseRow_eq_ok_iff] at h ⊢
  obtain ⟨chars, hc, hl, hd⟩ := h
  exact ⟨chars, hc, hl, decodeFields_append_columns tryFromStr hd more⟩

end

theorem tryFrom_append_columns_one :
    TableRowConverter.tryFrom textFromStr "a\n".toUTF8.data.toList [textColumn "x"] =
        .ok ⟨[.value "a"]⟩ ∧
      TableRowConverter.tryFrom textFromStr "a\n".toUTF8.data.toList
        ([textColumn "x"] ++ [textColumn "y"]) = .ok ⟨[.value "a"]⟩ := by
  have h : TableRowConverter.tryFrom textFromStr "a\n".toUTF8.data.toList [textColumn "x"] =
      .ok ⟨[.value "a"]⟩ := by
    rw [tryFrom_eq_parseRow, parseRow, fromUtf8_toUTF8]
    rfl
  exact ⟨h, tryFrom_append_columns textFromStr h [textColumn "y"]⟩

end PgReplicate
