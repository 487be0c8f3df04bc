import PgReplicate.RowShape

/-!
# Which error `try_from` returns, and when

Through `tryFrom_eq_parseRow` the errors come in the order of the layers: the bytes, then the
fields against the columns, then the line feed (`parseRow_eq_error_iff`).  Each kind has an
exact trigger:

* `InvalidString`: the bytes are no string's UTF-8 encoding (`tryFrom_invalidString_iff`);
* `NumColsMismatch`: more separator-ended fields than columns, and those with a column decode
  (`tryFrom_numColsMismatch_iff`), so a record with too few fields never gets it;
* `InvalidValue(e)`: in column order, the first field that fails is a text other than `\N`
  whose decode returns `e` (`tryFrom_invalidValue_iff`);
* `UnterminatedRow`: no unescaped line feed, and the fields all decode
  (`tryFrom_unterminatedRow_iff`);
* `UnsupportedType`: never (`tryFrom_ne_unsupportedType`).

For a caller that reads a row in pieces: an accepted record cut before its first line feed is
`UnterminatedRow` (`tryFrom_truncated_unterminated`); every other error stays under appended
text (`tryFrom_error_append`); and text appended to an accepted record keeps its cells first,
or is rejected with such a final error (`tryFrom_append_of_ok`).
-/

namespace PgReplicate

section
variable {Ty V E : Type} (tryFromStr : Ty → String → Except E (Cell Ty V))

theorem fieldValue_error {col : ColumnSchema Ty} {t : String}
    {e : TableRowConversionError Ty E} (h : fieldValue tryFromStr col t = .error e) :
    ∃ x, e = .invalidValue x := by
  unfold fieldValue at h
  split_ifs at h
  cases hd : tryFromStr col.typ t with
  | error x =>
    simp only [hd, Except.error.injEq] at h
    exact ⟨x, h.symm⟩
  | ok v => simp [hd] at h

/-- A first field against a first column: the fields decode exactly when it does and the rest
do. -/
theorem decodeFields_cons_ok_iff (col : ColumnSchema Ty) (cols : List (ColumnSchema Ty))
    (f : String) (fs : List String) :
    (∃ vs, decodeFields tryFromStr (col :: cols) (f :: fs) = .ok vs) ↔
      (∃ v, fieldValue tryFromStr col f = .ok v) ∧ ∃ vs, decodeFields tryFromStr cols fs = .ok vs := by
  rw [decodeFields]
  constructor
  · rintro ⟨vs, h⟩
    obtain ⟨v, hv, h⟩ := except_bind_eq_ok.1 h
    obtain ⟨vs', hr, -⟩ := except_bind_eq_ok.1 h
    exact ⟨⟨v, hv⟩, vs', hr⟩
  · rintro ⟨⟨v, hv⟩, vs, hr⟩
    exact ⟨v :: vs, by simp [hv, hr]⟩

/-- The same fails with `e` exactly when the first field does, or it decodes and the rest
fails with `e`. -/
theorem decodeFields_cons_eq_error_iff (col : ColumnSchema Ty) (cols : List (ColumnSchema Ty))
    (f : String) (fs : List String) (e : TableRowConversionError Ty E) :
    decodeFields tryFromStr (col :: cols) (f :: fs) = .error e ↔
      fieldValue tryFromStr col f = .error e ∨
        (∃ v, fieldValue tryFromStr col f = .ok v) ∧ decodeFields tryFromStr cols fs = .error e := by
  rw [decodeFields, except_bind_eq_error]
  refine or_congr Iff.rfl ⟨?_, ?_⟩
  · rintro ⟨v, hv, h⟩
    rcases except_bind_eq_error.1 h with hr | ⟨vs, -, h⟩
    · exact ⟨⟨v, hv⟩, hr⟩
    · cases h
  · rintro ⟨⟨v, hv⟩, hr⟩
    exact ⟨v, hv, by simp [hr]⟩

theorem decodeFields_append_ok {cols : List (ColumnSchema Ty)} {fs₁ fs₂ : List String}
    {vs : List (Cell Ty V)} (h : decodeFields tryFromStr cols (fs₁ ++ fs₂) = .ok vs) :
    ∃ vs₁, decodeFields tryFromStr cols fs₁ = .ok vs₁ := by
  induction fs₁ generalizing cols vs with
  | nil => exact ⟨[], by cases cols <;> rfl⟩
  | cons f fs ih =>
    cases cols with
    | nil => cases h
    | cons col cols =>
      obtain ⟨hv, vs', hr⟩ := (decodeFields_cons_ok_iff tryFromStr col cols f (fs ++ fs₂)).1 ⟨vs, h⟩
      exact (decodeFields_cons_ok_iff tryFromStr col cols f fs).2 ⟨hv, ih hr⟩

theorem decodeFields_append_prefix {cols : List (ColumnSchema Ty)} {fs₁ fs₂ : List String}
    {vs₁ vs : List (Cell Ty V)} (h₁ : decodeFields tryFromStr cols fs₁ = .ok vs₁)
    (h : decodeFields tryFromStr cols (fs₁ ++ fs₂) = .ok vs) : vs₁ <+: vs := by
  induction fs₁ generalizing cols vs₁ vs with
  | nil =>
    rw [decodeFields] at h₁
    cases h₁
    exact List.nil_prefix
  | cons f fs ih =>
    cases cols with
    | nil => cases h₁
    | cons col cols =>
      rw [decodeFields] at h₁
      rw [List.cons_append, decodeFields] at h
      obtain ⟨v, hv, h₁⟩ := except_bind_eq_ok.1 h₁
      obtain ⟨ws₁, hr₁, h₁⟩ := except_bind_eq_ok.1 h₁
      obtain ⟨v', hv', h⟩ := except_bind_eq_ok.1 h
      obtain ⟨ws, hr, h⟩ := except_bind_eq_ok.1 h
      cases h₁
      cases h
      rw [hv] at hv'
      cases hv'
      exact List.prefix_cons_inj v |>.2 (ih hr₁ hr)

theorem decodeFields_append_error {cols : List (ColumnSchema Ty)} {fs₁ : List String}
    {e : TableRowConversionError Ty E} (h : decodeFields tryFromStr cols fs₁ = .error e)
    (fs₂ : List String) : decodeFields tryFromStr cols (fs₁ ++ fs₂) = .error e := by
  induction fs₁ generalizing cols with
  | nil => cases cols <;> cases h
  | cons f fs ih =>
    cases cols with
    | nil =>
      cases h
      rfl
    | cons col cols =>
      rw [List.cons_append, decodeFields_cons_eq_error_iff]
      rcases (decodeFields_cons_eq_error_iff tryFromStr col cols f fs e).1 h with hv | ⟨hv, hr⟩
      · exact .inl hv
      · exact .inr ⟨hv, ih hr⟩

theorem decodeFields_error {cols : List (ColumnSchema Ty)} {fs : List String}
    {e : TableRowConversionError Ty E} (h : decodeFields tryFromStr cols fs = .error e) :
    e = .numColsMismatch ∨ ∃ x, e = .invalidValue x := by
  induction fs generalizing cols with
  | nil => cases cols <;> cases h
  | cons f fs ih =>
    cases cols with
    | nil =>
      cases h
      exact .inl rfl
    | cons col cols =>
      rcases (decodeFields_cons_eq_error_iff tryFromStr col cols f fs e).1 h with hv | ⟨-, hr⟩
      · exact .inr (fieldValue_error tryFromStr hv)
      · exact ih hr

/-- **Column count.** The fields run out of columns exactly when there are more of them than
columns and those that have a column decode. -/
theorem decodeFields_eq_numColsMismatch_iff (cols : List (ColumnSchema Ty)) (fs : List String) :
    decodeFields tryFromStr cols fs = .error .numColsMismatch ↔
      cols.length < fs.length ∧ ∃ vs, decodeFields tryFromStr cols (fs.take cols.length) = .ok vs := by
  induction cols generalizing fs with
  | nil => cases fs <;> simp [decodeFields]
  | cons col cols ih =>
    cases fs with
    | nil => simp [decodeFields]
    | cons f fs =>
      have hf : fieldValue tryFromStr col f ≠ .error .numColsMismatch := fun h => by
        obtain ⟨y, hy⟩ := fieldValue_error tryFromStr h
        cases hy
      rw [decodeFields_cons_eq_error_iff, ih, List.length_cons, List.length_cons,
        List.take_succ_cons, decodeFields_cons_ok_iff, Nat.add_lt_add_iff_right]
      simp only [hf, false_or]
      exact and_left_comm

theorem fieldValue_eq_invalidValue_iff (col : ColumnSchema Ty) (t : String) (x : E) :
    fieldValue tryFromStr col t = .error (.invalidValue x) ↔
      t ≠ "\\N" ∧ tryFromStr col.typ t = .error x := by
  unfold fieldValue
  by_cases hn : t = "\\N"
  · simp [hn]
  · cases tryFromStr col.typ t <;> simp [hn]

/-- **First failing field.** The fields fail on a decoder's error exactly at the first field,
in column order, whose text is not `\N` and whose decode under its column's type fails; the
fields before it all decode. -/
theorem decodeFields_eq_invalidValue_iff (cols : List (ColumnSchema Ty)) (fs : List String) (x : E) :
    decodeFields tryFromStr cols fs = .error (.invalidValue x) ↔
      ∃ colsPre col colsPost fsPre f fsPost, cols = colsPre ++ col :: colsPost ∧
        fs = fsPre ++ f :: fsPost ∧ colsPre.length = fsPre.length ∧
        (∃ vs, decodeFields tryFromStr colsPre fsPre = .ok vs) ∧
        f ≠ "\\N" ∧ tryFromStr col.typ f = .error x := by
  induction cols generalizing fs with
  | nil =>
    refine ⟨fun h => (by cases fs <;> cases h), ?_⟩
    rintro ⟨colsPre, col, colsPost, -, -, -, hc, -⟩
    simp at hc
  | cons col cols ih =>
    cases fs with
    | nil =>
      refine ⟨fun h => (by cases h), ?_⟩
      rintro ⟨-, -, -, fsPre, f, fsPost, -, hf, -⟩
      simp at hf
    | cons f fs =>
      rw [decodeFields_cons_eq_error_iff, ih, fieldValue_eq_invalidValue_iff]
      constructor
      · rintro (⟨hn, hx⟩ | ⟨hv, colsPre, c, colsPost, fsPre, g, fsPost, rfl, rfl, hlen, hpre, hn, hx⟩)
        · exact ⟨[], col, cols, [], f, fs, rfl, rfl, rfl, ⟨[], rfl⟩, hn, hx⟩
        · exact ⟨col :: colsPre, c, colsPost, f :: fsPre, g, fsPost, rfl, rfl,
            congrArg (· + 1) hlen, (decodeFields_cons_ok_iff tryFromStr _ _ _ _).2 ⟨hv, hpre⟩, hn, hx⟩
      · rintro ⟨_ | ⟨c0, colsPre⟩, c, colsPost, _ | ⟨f0, fsPre⟩, g, fsPost, hc, hf, hlen, hpre, hn, hx⟩
        · obtain ⟨rfl, rfl⟩ := List.cons.inj hc
          obtain ⟨rfl, rfl⟩ := List.cons.inj hf
          exact .inl ⟨hn, hx⟩
        · cases hlen
        · cases hlen
        · obtain ⟨rfl, rfl⟩ := List.cons.inj hc
          obtain ⟨rfl, rfl⟩ := List.cons.inj hf
          obtain ⟨hv, hpre⟩ := (decodeFields_cons_ok_iff tryFromStr _ _ _ _).1 hpre
          exact .inr ⟨hv, colsPre, c, colsPost, fsPre, g, fsPost, rfl, rfl, Nat.succ.inj hlen, hpre,
            hn, hx⟩
/-- The errors of the layered reading, in its order: the bytes, the fields, the line feed. -/
theorem parseRow_eq_error_iff (row : List UInt8) (columnSchemas : List (ColumnSchema Ty))
    (e : TableRowConversionError Ty E) :
    parseRow tryFromStr row columnSchemas = .error e ↔
      (∃ u, fromUtf8 row = .error u ∧ e = .invalidString u) ∨
      ∃ chars, fromUtf8 row = .ok chars ∧
        (decodeFields tryFromStr columnSchemas
            ((splitFields [] (tokens false chars)).1.map String.mk) = .error e ∨
          (∃ vs, decodeFields tryFromStr columnSchemas
            ((splitFields [] (tokens false chars)).1.map String.mk) = .ok vs) ∧
          Token.lineFeed ∉ tokens false chars ∧ e = .unterminatedRow) := by
  rw [parseRow]
  cases fromUtf8 row with
  | error u =>
    simp only [Except.mapError, except_error_bind, Except.error.injEq, eq_comm, exists_eq_left',
      reduceCtorEq, false_and, exists_false, or_false]
  | ok chars =>
    simp only [Except.mapError, except_ok_bind, reduceCtorEq, false_and, exists_false,
      Except.ok.injEq, exists_eq_left', false_or]
    cases hd : decodeFields tryFromStr columnSchemas
        ((splitFields [] (tokens false chars)).1.map String.mk) with
    | error x => simp [hd]
    | ok vs =>
      by_cases hl : Token.lineFeed ∈ tokens false chars
      · simp [hd, hl]
      · simp [hd, hl, eq_comm]

/-- **`InvalidString`.** `try_from` rejects a row as `InvalidString` exactly when its bytes are
no string's UTF-8 encoding. -/
theorem tryFrom_invalidString_iff (row : List UInt8) (columnSchemas : List (ColumnSchema Ty)) :
    (∃ u, TableRowConverter.tryFrom tryFromStr row columnSchemas = .error (.invalidString u)) ↔
      ∀ s : String, s.toUTF8.data.toList ≠ row := by
  have hdec : (∃ u, fromUtf8 row = .error u) ↔ ∀ s : String, s.toUTF8.data.toList ≠ row := by
    constructor
    · rintro ⟨u, hu⟩ s rfl
      rw [fromUtf8_toUTF8] at hu
      cases hu
    · intro h
      cases hr : fromUtf8 row with
      | error u => exact ⟨u, rfl⟩
      | ok cs => exact absurd ((fromUtf8_eq_ok_iff row cs).1 hr) (h ⟨cs⟩)
  rw [← hdec]
  simp only [tryFrom_eq_parseRow, parseRow_eq_error_iff]
  constructor
  · rintro ⟨u, ⟨u', hu, -⟩ | ⟨chars, -, hd | ⟨-, -, hu⟩⟩⟩
    · exact ⟨u', hu⟩
    · rcases decodeFields_error tryFromStr hd with hu | ⟨x, hu⟩ <;> cases hu
    · cases hu
  · rintro ⟨u, hu⟩
    exact ⟨u, .inl ⟨u, hu, rfl⟩⟩

/-- **`NumColsMismatch`.** `try_from` reports a column-count mismatch exactly when the text
has more separator-ended fields than the schema has columns, and the fields that have a
column decode. -/
theorem tryFrom_numColsMismatch_iff (row : List UInt8) (columnSchemas : List (ColumnSchema Ty)) :
    TableRowConverter.tryFrom tryFromStr row columnSchemas = .error .numColsMismatch ↔
      ∃ chars, fromUtf8 row = .ok chars ∧
        columnSchemas.length < (splitFields [] (tokens false chars)).1.length ∧
        ∃ vs, decodeFields tryFromStr columnSchemas
          (((splitFields [] (tokens false chars)).1.map String.mk).take columnSchemas.length) =
            .ok vs := by
  rw [tryFrom_eq_parseRow, parseRow_eq_error_iff]
  constructor
  · rintro (⟨u, -, hu⟩ | ⟨chars, hc, hd | ⟨-, -, hu⟩⟩)
    · cases hu
    · have := (decodeFields_eq_numColsMismatch_iff tryFromStr _ _).1 hd
      rw [List.length_map] at this
      exact ⟨chars, hc, this⟩
    · cases hu
  · rintro ⟨chars, hc, hl, hvs⟩
    refine .inr ⟨chars, hc, .inl ((decodeFields_eq_numColsMismatch_iff tryFromStr _ _).2 ?_)⟩
    rw [List.length_map]
    exact ⟨hl, hvs⟩

/-- **`InvalidValue`.** `try_from` reports the decoder's error `x` exactly when, in column
order, the first field that fails is a text other than `\N` whose decode under its column's
type returns `x`: every field before it decodes, and it has a column. -/
theorem tryFrom_invalidValue_iff (row : List UInt8) (columnSchemas : List (ColumnSchema Ty)) (x : E) :
    TableRowConverter.tryFrom tryFromStr row columnSchemas = .error (.invalidValue x) ↔
      ∃ chars, fromUtf8 row = .ok chars ∧
        ∃ colsPre col colsPost fsPre f fsPost, columnSchemas = colsPre ++ col :: colsPost ∧
          (splitFields [] (tokens false chars)).1.map String.mk = fsPre ++ f :: fsPost ∧
          colsPre.length = fsPre.length ∧ (∃ vs, decodeFields tryFromStr colsPre fsPre = .ok vs) ∧
          f ≠ "\\N" ∧ tryFromStr col.typ f = .error x := by
  rw [tryFrom_eq_parseRow, parseRow_eq_error_iff]
  constructor
  · rintro (⟨u, -, hu⟩ | ⟨chars, hc, hd | ⟨-, -, hu⟩⟩)
    · cases hu
    · exact ⟨chars, hc, (decodeFields_eq_invalidValue_iff tryFromStr _ _ x).1 hd⟩
    · cases hu
  · rintro ⟨chars, hc, h⟩
    exact .inr ⟨chars, hc, .inl ((decodeFields_eq_invalidValue_iff tryFromStr _ _ x).2 h)⟩

/-- **`UnterminatedRow`.** `try_from` reports an unterminated row exactly when the text has
no unescaped line feed and its fields all decode: a failing field or a field with no column
is reported first. -/
theorem tryFrom_unterminatedRow_iff (row : List UInt8) (columnSchemas : List (ColumnSchema Ty)) :
    TableRowConverter.tryFrom tryFromStr row columnSchemas = .error .unterminatedRow ↔
      ∃ chars, fromUtf8 row = .ok chars ∧ Token.lineFeed ∉ tokens false chars ∧
        ∃ vs, decodeFields tryFromStr columnSchemas
          ((splitFields [] (tokens false chars)).1.map String.mk) = .ok vs := by
  rw [tryFrom_eq_parseRow, parseRow_eq_error_iff]
  constructor
  · rintro (⟨u, -, hu⟩ | ⟨chars, hc, hd | ⟨hvs, hl, -⟩⟩)
    · cases hu
    · rcases decodeFields_error tryFromStr hd with hu | ⟨x, hu⟩ <;> cases hu
    · exact ⟨chars, hc, hl, hvs⟩
  · rintro ⟨chars, hc, hl, hvs⟩
    exact .inr ⟨chars, hc, .inr ⟨hvs, hl, rfl⟩⟩

/-- **Truncated reads.** Cut an accepted record at a character boundary before its first line
feed: `try_from` reports the cut as `UnterminatedRow`, never as another error, so a caller that
buffers its reads can take that error as "more bytes needed". -/
theorem tryFrom_truncated_unterminated {s : String} {p : List Char}
    {columnSchemas : List (ColumnSchema Ty)} {r : TableRow Ty V}
    (h : TableRowConverter.tryFrom tryFromStr s.toUTF8.data.toList columnSchemas = .ok r)
    (hp : p <+: s.data) (hlf : '\n' ∉ p) :
    TableRowConverter.tryFrom tryFromStr (String.mk p).toUTF8.data.toList columnSchemas =
      .error .unterminatedRow := by
  obtain ⟨q, hq⟩ := hp
  rw [tryFrom_eq_parseRow] at h ⊢
  obtain ⟨chars, hc, -, hd⟩ := (parseRow_eq_ok_iff tryFromStr _ _ _).1 h
  rw [fromUtf8_toUTF8, Except.ok.injEq, ← hq] at hc
  obtain ⟨b, hb⟩ := tokens_append false p q
  rw [← hc, hb, splitFields_append, List.map_append] at hd
  obtain ⟨vs, hvs⟩ := decodeFields_append_ok tryFromStr hd
  exact (parseRow_eq_error_iff tryFromStr _ _ _).2
    (.inr ⟨p, fromUtf8_toUTF8 ⟨p⟩, .inr ⟨⟨vs, hvs⟩, lineFeed_not_mem_tokens hlf false, rfl⟩⟩)

end

theorem tryFrom_truncated_unterminated_tab :
    TableRowConverter.tryFrom textFromStr "a\tb\n".toUTF8.data.toList
        [textColumn "x", textColumn "y"] = .ok ⟨[.value "a", .value "b"]⟩ ∧
      ['a', '\t'] <+: "a\tb\n".data ∧ '\n' ∉ ['a', '\t'] ∧
      TableRowConverter.tryFrom textFromStr (String.mk ['a', '\t']).toUTF8.data.toList
        [textColumn "x", textColumn "y"] = .error .unterminatedRow := by
  have h : TableRowConverter.tryFrom textFromStr "a\tb\n".toUTF8.data.toList
      [textColumn "x", textColumn "y"] = .ok ⟨[.value "a", .value "b"]⟩ := by
    rw [tryFrom_eq_parseRow, parseRow, fromUtf8_toUTF8]
    rfl
  exact ⟨h, ⟨['b', '\n'], rfl⟩, by decide,
    tryFrom_truncated_unterminated textFromStr h ⟨['b', '\n'], rfl⟩ (by decide)⟩

section
variable {Ty V E : Type} (tryFromStr : Ty → String → Except E (Cell Ty V))

/-- **Final errors.** Once the text read so far is rejected with an error other than
`UnterminatedRow`, no text that follows changes the answer: a caller reading a row in pieces
can give up on it at `NumColsMismatch` or `InvalidValue`, where `UnterminatedRow` only asks for
more bytes. -/
theorem tryFrom_error_append {s t : String} {columnSchemas : List (ColumnSchema Ty)}
    {e : TableRowConversionError Ty E}
    (h : TableRowConverter.tryFrom tryFromStr s.toUTF8.data.toList columnSchemas = .error e)
    (he : e ≠ .unterminatedRow) :
    TableRowConverter.tryFrom tryFromStr (s ++ t).toUTF8.data.toList columnSchemas = .error e := by
  rw [tryFrom_eq_parseRow, parseRow_eq_error_iff, fromUtf8_toUTF8] at h
  rcases h with ⟨u, hu, -⟩ | ⟨chars, hc, hd | ⟨-, -, rfl⟩⟩
  · cases hu
  · cases hc
    obtain ⟨b, hb⟩ := tokens_append false s.data t.data
    rw [tryFrom_eq_parseRow]
    refine (parseRow_eq_error_iff tryFromStr _ _ _).2 (.inr ⟨_, fromUtf8_toUTF8 _, .inl ?_⟩)
    rw [String.data_append, hb, splitFields_append, List.map_append]
    exact decodeFields_append_error tryFromStr hd _
  · exact absurd rfl he

end

theorem tryFrom_error_append_numCols :
    TableRowConverter.tryFrom textFromStr "a\tb\t".toUTF8.data.toList [textColumn "x"] =
        .error .numColsMismatch ∧
      (TableRowConversionError.numColsMismatch : TableRowConversionError String Unit) ≠
        .unterminatedRow ∧
      TableRowConverter.tryFrom textFromStr ("a\tb\t" ++ "c\n").toUTF8.data.toList
        [textColumn "x"] = .error .numColsMismatch := by
  have h : TableRowConverter.tryFrom textFromStr "a\tb\t".toUTF8.data.toList [textColumn "x"] =
      .error .numColsMismatch := by
    rw [tryFrom_eq_parseRow, parseRow, fromUtf8_toUTF8]
    rfl
  exact ⟨h, by decide, tryFrom_error_append textFromStr h (by decide)⟩

section
variable {Ty V E : Type} (tryFromStr : Ty → String → Except E (Cell Ty V))

/-- **Reading on.** Text appended to a record `try_from` accepts never takes back a cell: the
longer text is accepted with the old cells first, or rejected with an error other than
`UnterminatedRow`, the line feed being already there. -/
theorem tryFrom_append_of_ok {s t : String} {columnSchemas : List (ColumnSchema Ty)}
    {r : TableRow Ty V}
    (h : TableRowConverter.tryFrom tryFromStr s.toUTF8.data.toList columnSchemas = .ok r) :
    (∃ r', TableRowConverter.tryFrom tryFromStr (s ++ t).toUTF8.data.toList columnSchemas =
        .ok r' ∧ r.values <+: r'.values) ∨
      ∃ e, TableRowConverter.tryFrom tryFromStr (s ++ t).toUTF8.data.toList columnSchemas =
        .error e ∧ e ≠ .unterminatedRow := by
  rw [tryFrom_eq_parseRow, parseRow_eq_ok_iff, fromUtf8_toUTF8] at h
  obtain ⟨chars, hc, hl, hd⟩ := h
  cases hc
  obtain ⟨b, hb⟩ := tokens_append false s.data t.data
  have hl' : Token.lineFeed ∈ tokens false (s ++ t).data := by
    rw [String.data_append, hb]
    exact List.mem_append_left _ hl
  have hfields : (splitFields [] (tokens false (s ++ t).data)).1.map String.mk =
      (splitFields [] (tokens false s.data)).1.map String.mk ++
        (splitFields (splitFields [] (tokens false s.data)).2 (tokens b t.data)).1.map String.mk := by
    rw [String.data_append, hb, splitFields_append, List.map_append]
  rw [tryFrom_eq_parseRow]
  cases hd' : decodeFields tryFromStr columnSchemas
      ((splitFields [] (tokens false (s ++ t).data)).1.map String.mk) with
  | ok vs =>
    refine .inl ⟨⟨vs⟩, (parseRow_eq_ok_iff tryFromStr _ _ _).2 ⟨_, fromUtf8_toUTF8 _, hl', hd'⟩, ?_⟩
    rw [hfields] at hd'
    exact decodeFields_append_prefix tryFromStr hd hd'
  | error e =>
    refine .inr ⟨e, (parseRow_eq_error_iff tryFromStr _ _ _).2
      (.inr ⟨_, fromUtf8_toUTF8 _, .inl hd'⟩), ?_⟩
    rcases decodeFields_error tryFromStr hd' with rfl | ⟨x, rfl⟩ <;> nofun
end

theorem tryFrom_append_of_ok_lineFeed :
    TableRowConverter.tryFrom textFromStr "a\n".toUTF8.data.toList [textColumn "x", textColumn "y"] =
        .ok ⟨[.value "a"]⟩ ∧
      ((∃ r', TableRowConverter.tryFrom textFromStr ("a\n" ++ "b\n").toUTF8.data.toList
          [textColumn "x", textColumn "y"] = .ok r' ∧ [.value "a"] <+: r'.values) ∨
        ∃ e, TableRowConverter.tryFrom textFromStr ("a\n" ++ "b\n").toUTF8.data.toList
          [textColumn "x", textColumn "y"] = .error e ∧ e ≠ .unterminatedRow) := by
  have h : TableRowConverter.tryFrom textFromStr "a\n".toUTF8.data.toList
      [textColumn "x", textColumn "y"] = .ok ⟨[.value "a"]⟩ := by
    rw [tryFrom_eq_parseRow, parseRow, fromUtf8_toUTF8]
    rfl
  exact ⟨h, tryFrom_append_of_ok textFromStr h⟩

end PgReplicate
