import PgReplicate.RowShape

/-!
# Records Postgres writes, read back

The writer side is PostgreSQL's COPY TEXT output with a tab delimiter (`CopyAttributeOutText`
in `copyto.c`, cited by `try_from`): NULL is `\N`; in a string, backslash and the six control
characters backspace, form feed, line feed, carriage return, tab and vertical tab are written
as a backslash and a letter, every other character as itself; fields are joined by tabs and
the record ends with one line feed.  Read back by `try_from`, a record of `n ≥ 1` fields
against `n` columns gives the first decoder error in column order, or one cell a field:

    TableRowConverter.tryFrom tryFromStr (copyRecord fields).toUTF8.data.toList cols
      = ((cols.zip fields).mapM fun p => copyValue tryFromStr p.1 p.2).map TableRow.mk
                                                                  (tryFrom_copyRecord)

where a NULL field and the string `\N` alike read as `Cell::Null` of the column's type.

Records written one after another into one buffer are read as the one record of all their
fields (`tryFrom_copyRecords`): a line feed ends a field as a tab does, and nothing tells the
reader where one record stops.
-/

namespace PgReplicate

/-! ## The writer -/

/-- One character of a string field, escaped. -/
def copyEscapeChar (c : Char) : List Char :=
  if c = '\\' then ['\\', '\\']
  else if c = Char.ofNat 8 then ['\\', 'b']
  else if c = Char.ofNat 12 then ['\\', 'f']
  else if c = '\n' then ['\\', 'n']
  else if c = '\r' then ['\\', 'r']
  else if c = '\t' then ['\\', 't']
  else if c = Char.ofNat 11 then ['\\', 'v']
  else [c]

/-- A field as written: NULL, or an escaped string. -/
def copyField : Option String → List Char
  | none => ['\\', 'N']
  | some s => s.data.flatMap copyEscapeChar

/-- Fields joined by tabs, and one line feed after the last. -/
def copyRecordChars : List (Option String) → List Char
  | [] => ['\n']
  | [f] => copyField f ++ ['\n']
  | f :: fs => copyField f ++ '\t' :: copyRecordChars fs

def copyRecord (fields : List (Option String)) : String := ⟨copyRecordChars fields⟩

section
variable {Ty V E : Type} (tryFromStr : Ty → String → Except E (Cell Ty V))

/-- Field `f` under column `col`, as the reader should take it: `Cell::Null` for NULL and
for the string `\N`, else the decoder's value or its error. -/
def copyValue (col : ColumnSchema Ty) : Option String →
    Except (TableRowConversionError Ty E) (Cell Ty V)
  | none => .ok (.null col.typ)
  | some s => if s = "\\N" then .ok (.null col.typ) else (tryFromStr col.typ s).mapError .invalidValue

end

/-! ## Reading the writer's escapes -/

/-- The text a field stands for once read: `\N` for NULL. -/
def fieldText : Option String → String
  | none => "\\N"
  | some s => s

theorem tokens_copyEscapeChar (c : Char) (rest : List Char) :
    tokens false (copyEscapeChar c ++ rest) = .char c :: tokens false rest := by
  unfold copyEscapeChar
  -- each escape pair is read back by running `tokens` and the escape table on it
  by_cases h1 : c = '\\'
  · subst h1; rfl
  by_cases h2 : c = Char.ofNat 8
  · subst h2; rfl
  by_cases h3 : c = Char.ofNat 12
  · subst h3; rfl
  by_cases h4 : c = '\n'
  · subst h4; rfl
  by_cases h5 : c = '\r'
  · subst h5; rfl
  by_cases h6 : c = '\t'
  · subst h6; rfl
  by_cases h7 : c = Char.ofNat 11
  · subst h7; rfl
  · rw [if_neg h1, if_neg h2, if_neg h3, if_neg h4, if_neg h5, if_neg h6, if_neg h7,
      List.singleton_append, tokens, if_neg h6, if_neg h4, if_neg h1]

theorem tokens_copyField (f : Option String) (rest : List Char) :
    tokens false (copyField f ++ rest) = (fieldText f).data.map .char ++ tokens false rest := by
  cases f with
  | none => simp [copyField, fieldText, tokens, pushEscaped]
  | some s =>
    simp only [copyField, fieldText]
    induction s.data with
    | nil => rfl
    | cons c l ih => simp [List.append_assoc, tokens_copyEscapeChar, ih]

/-- A record of at least one field splits into its fields' texts, with nothing left over,
and it has its line feed. -/
theorem splitFields_copyRecordChars (f : Option String) (fs : List (Option String)) :
    splitFields [] (tokens false (copyRecordChars (f :: fs))) =
        ((f :: fs).map fun f => (fieldText f).data, []) ∧
      Token.lineFeed ∈ tokens false (copyRecordChars (f :: fs)) := by
  induction fs generalizing f with
  | nil => simp [copyRecordChars, tokens_copyField, splitFields_chars, tokens, splitFields]
  | cons g gs ih =>
    obtain ⟨h1, h2⟩ := ih g
    simp only [copyRecordChars] at h1 h2 ⊢
    simp [tokens_copyField, splitFields_chars, tokens, splitFields, h1, h2]

/-- A record ends outside an escape: what follows it is read from a fresh state. -/
theorem tokens_copyRecordChars_append (f : Option String) (fs : List (Option String))
    (rest : List Char) :
    tokens false (copyRecordChars (f :: fs) ++ rest) =
      tokens false (copyRecordChars (f :: fs)) ++ tokens false rest := by
  induction fs generalizing f with
  | nil => simp [copyRecordChars, tokens_copyField, tokens]
  | cons g gs ih =>
    simp only [copyRecordChars] at ih ⊢
    simp [tokens_copyField, tokens, ih]

theorem splitFields_copyRecords (records : List (List (Option String)))
    (hne : ∀ r ∈ records, r ≠ []) :
    splitFields [] (tokens false (records.flatMap copyRecordChars)) =
      (records.flatten.map fun f => (fieldText f).data, []) := by
  induction records with
  | nil => rfl
  | cons r rs ih =>
    obtain ⟨f, fs, rfl⟩ := List.exists_cons_of_ne_nil (hne r (List.mem_cons_self _ _))
    have hrs := ih fun r' h => hne r' (List.mem_cons_of_mem _ h)
    obtain ⟨hs, -⟩ := splitFields_copyRecordChars f fs
    rw [List.flatMap_cons, tokens_copyRecordChars_append, Prod.ext_iff]
    refine ⟨?_, ?_⟩
    · rw [splitFields_append, hs, hrs, List.flatten_cons, List.map_append]
    · rw [splitFields_append_snd, hs, hrs]

section
variable {Ty V E : Type} (tryFromStr : Ty → String → Except E (Cell Ty V))

theorem fieldValue_fieldText (col : ColumnSchema Ty) (f : Option String) :
    fieldValue tryFromStr col (fieldText f) = copyValue tryFromStr col f := by
  cases f with
  | none => simp [fieldValue, fieldText, copyValue]
  | some s =>
    simp only [fieldValue, copyValue, fieldText]
    split_ifs
    · rfl
    · cases tryFromStr col.typ s <;> rfl

theorem decodeFields_fieldText (cols : List (ColumnSchema Ty)) (fields : List (Option String))
    (hlen : fields.length = cols.length) :
    decodeFields tryFromStr cols (fields.map fieldText) =
      (cols.zip fields).mapM fun p => copyValue tryFromStr p.1 p.2 := by
  induction cols generalizing fields with
  | nil =>
    cases fields with
    | nil => rfl
    | cons f fs => simp at hlen
  | cons col cols ih =>
    cases fields with
    | nil => simp at hlen
    | cons f fs =>
      simp only [List.map_cons, decodeFields, List.zip_cons_cons, List.mapM_cons,
        fieldValue_fieldText, ih fs (by simpa using hlen)]

/-- **Round trip.** A record written by Postgres's COPY TEXT escaping, of `n ≥ 1` fields
against `n` columns, reads back as the first decoder error in column order, or as `n` cells:
`Cell::Null` for NULL and for the string `\N`, the decoder's value otherwise. -/
theorem tryFrom_copyRecord (cols : List (ColumnSchema Ty)) (fields : List (Option String))
    (hn : 0 < cols.length) (hlen : fields.length = cols.length) :
    TableRowConverter.tryFrom tryFromStr (copyRecord fields).toUTF8.data.toList cols =
      ((cols.zip fields).mapM fun p => copyValue tryFromStr p.1 p.2).map TableRow.mk := by
  obtain ⟨f, fs, rfl⟩ : ∃ f fs, fields = f :: fs :=
    List.exists_cons_of_ne_nil (by rintro rfl; simp at hlen; omega)
  obtain ⟨hs, hl⟩ := splitFields_copyRecordChars f fs
  rw [tryFrom_eq_parseRow, parseRow, fromUtf8_toUTF8]
  have htext : ((f :: fs).map fun f => (fieldText f).data).map String.mk = (f :: fs).map fieldText := by
    rw [List.map_map]; rfl
  simp only [copyRecord, except_mapError_ok, except_ok_bind, hs, hl, if_true, htext,
    ← decodeFields_fieldText tryFromStr cols _ hlen]
  cases decodeFields tryFromStr cols ((f :: fs).map fieldText) <;> rfl

end

/-- The spec's first scenario, `1\t foo\t \N` written from `[1, foo, NULL]`, against three
columns. -/
theorem tryFrom_copyRecord_scenario :
    (0 < [textColumn "a", textColumn "b", textColumn "c"].length ∧
      [some "1", some "foo", none].length = [textColumn "a", textColumn "b", textColumn "c"].length) ∧
    TableRowConverter.tryFrom textFromStr (copyRecord [some "1", some "foo", none]).toUTF8.data.toList
        [textColumn "a", textColumn "b", textColumn "c"] =
      (([textColumn "a", textColumn "b", textColumn "c"].zip [some "1", some "foo", none]).mapM
        fun p => copyValue textFromStr p.1 p.2).map TableRow.mk :=
  ⟨⟨by decide, rfl⟩, tryFrom_copyRecord textFromStr _ _ (by decide) rfl⟩

section
variable {Ty V E : Type} (tryFromStr : Ty → String → Except E (Cell Ty V))

/-- **Several records in one buffer.** Records written by COPY TEXT one after another, each of
at least one field, are read by `try_from` exactly like the one record of all their fields:
the line feed between two records ends a field as a tab does, so the later records' fields
join the same row. -/
theorem tryFrom_copyRecords (cols : List (ColumnSchema Ty)) (records : List (List (Option String)))
    (hne : ∀ r ∈ records, r ≠ []) (hr : records ≠ []) :
    TableRowConverter.tryFrom tryFromStr (String.mk (records.flatMap copyRecordChars)).toUTF8.data.toList
        cols =
      TableRowConverter.tryFrom tryFromStr (copyRecord records.flatten).toUTF8.data.toList cols := by
  obtain ⟨r, rs, rfl⟩ := List.exists_cons_of_ne_nil hr
  obtain ⟨f, fs, rfl⟩ := List.exists_cons_of_ne_nil (hne r (List.mem_cons_self _ _))
  obtain ⟨hs, hl⟩ := splitFields_copyRecordChars f (fs ++ (rs.flatten))
  have hl' : Token.lineFeed ∈ tokens false (((f :: fs) :: rs).flatMap copyRecordChars) := by
    rw [List.flatMap_cons, tokens_copyRecordChars_append]
    exact List.mem_append_left _ (splitFields_copyRecordChars f fs).2
  rw [tryFrom_eq_parseRow, tryFrom_eq_parseRow, parseRow, parseRow, fromUtf8_toUTF8, fromUtf8_toUTF8]
  simp only [copyRecord, except_mapError_ok, except_ok_bind, splitFields_copyRecords _ hne,
    List.flatten_cons, List.cons_append, hs, hl, hl', if_true]

end

theorem tryFrom_copyRecords_two :
    (∀ r ∈ [[some "1"], [some "2"]], r ≠ []) ∧ [[some "1"], [some "2"]] ≠ [] ∧
      TableRowConverter.tryFrom textFromStr
          (String.mk ([[some "1"], [some "2"]].flatMap copyRecordChars)).toUTF8.data.toList
          [textColumn "a", textColumn "b"] =
        TableRowConverter.tryFrom textFromStr
          (copyRecord [[some "1"], [some "2"]].flatten).toUTF8.data.toList
          [textColumn "a", textColumn "b"] :=
  ⟨by decide, by decide, tryFrom_copyRecords textFromStr _ _ (by decide) (by decide)⟩

end PgReplicate
