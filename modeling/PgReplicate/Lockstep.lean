import PgReplicate.RowShape

/-!
# Cells and columns in lockstep

`try_from` pushes a cell only when a field ends, and takes the column for it from
`column_schemas_iter` at that moment.  So along every run of the loop the cells pushed so far
pair off, in order, with the columns the iterator has handed out, and the iterator holds the
rest of the schema (`Scan.Lockstep`).  The pairing is `CellOf`: a cell that a field of that
column can become.  One character keeps the invariant (`lockstep_scanChar`), so a whole run
does (`lockstep_foldlM`), and an accepted row is a prefix of the schema, cell by cell:

    TableRowConverter.tryFrom tryFromStr row columnSchemas = .ok r →
      List.Forall₂ (CellOf tryFromStr) (columnSchemas.take r.values.length) r.values
                                                                        (tryFrom_cells)

Cell `i` is `Cell::Null` of column `i`'s own type, or what the decoder made of a text under
that type: a `Null` never carries another column's type.
-/

namespace PgReplicate

section
variable {Ty V E : Type} (tryFromStr : Ty → String → Except E (Cell Ty V))

/-- A cell a field of column `col` can become: `Cell::Null` of the column's type, or what the
decoder makes of a text other than `\N` under that type. -/
def CellOf (col : ColumnSchema Ty) (v : Cell Ty V) : Prop :=
  v = .null col.typ ∨ ∃ t, t ≠ "\\N" ∧ tryFromStr col.typ t = .ok v

/-- The loop's invariant against the schema `cols`: the schema is the columns handed out,
each paired with the cell pushed for it, followed by the columns the iterator has left. -/
def Scan.Lockstep (cols : List (ColumnSchema Ty)) (s : Scan Ty V) : Prop :=
  ∃ handedOut, cols = handedOut ++ s.columns ∧ List.Forall₂ (CellOf tryFromStr) handedOut s.values

/-! ## Lemmas -/

theorem fieldValue_cellOf {col : ColumnSchema Ty} {t : String} {v : Cell Ty V}
    (h : fieldValue tryFromStr col t = .ok v) : CellOf tryFromStr col v := by
  unfold fieldValue at h
  split_ifs at h with hn
  · cases h
    exact .inl rfl
  · cases hd : tryFromStr col.typ t with
    | error e => simp [hd] at h
    | ok w =>
      simp only [hd, Except.ok.injEq] at h
      exact .inr ⟨t, hn, h ▸ hd⟩

theorem lockstep_init (cols : List (ColumnSchema Ty)) :
    (Scan.init cols : Scan Ty V).Lockstep tryFromStr cols :=
  ⟨[], rfl, .nil⟩

/-- **Step.** One character keeps the cells and the columns in lockstep. -/
theorem lockstep_scanChar {cols : List (ColumnSchema Ty)} {s s' : Scan Ty V} {c : Char}
    (hs : s.Lockstep tryFromStr cols) (h : scanChar tryFromStr s c = .ok s') :
    s'.Lockstep tryFromStr cols := by
  obtain ⟨handedOut, hcols, hcells⟩ := hs
  rcases scanChar_eq_ok tryFromStr h with ⟨hv, hc⟩ | ⟨col, v, hc, hv, hvs⟩
  · exact ⟨handedOut, hc ▸ hcols, hv ▸ hcells⟩
  · refine ⟨handedOut ++ [col], by rw [hcols, hc, List.append_assoc]; rfl, ?_⟩
    rw [hvs]
    exact List.rel_append hcells (.cons (fieldValue_cellOf tryFromStr hv) .nil)

/-- **Run.** So does every run of the loop. -/
theorem lockstep_foldlM {cols : List (ColumnSchema Ty)} (cs : List Char) {s s' : Scan Ty V}
    (hs : s.Lockstep tryFromStr cols) (h : cs.foldlM (scanChar tryFromStr) s = .ok s') :
    s'.Lockstep tryFromStr cols := by
  induction cs generalizing s with
  | nil =>
    cases h
    exact hs
  | cons c cs ih =>
    rw [List.foldlM_cons] at h
    obtain ⟨s₁, h₁, h₂⟩ := except_bind_eq_ok.1 h
    exact ih (lockstep_scanChar tryFromStr hs h₁) h₂

/-- **Typed cells.** An accepted row pairs off with the first columns of the schema: cell `i`
is `Cell::Null` of column `i`'s type, or the decoder's value for a text under that type. -/
theorem tryFrom_cells {row : List UInt8} {columnSchemas : List (ColumnSchema Ty)}
    {r : TableRow Ty V} (h : TableRowConverter.tryFrom tryFromStr row columnSchemas = .ok r) :
    List.Forall₂ (CellOf tryFromStr) (columnSchemas.take r.values.length) r.values := by
  obtain ⟨chars, s, -, hrun, -, rfl⟩ := tryFrom_eq_ok tryFromStr h
  obtain ⟨handedOut, hcols, hcells⟩ :=
    lockstep_foldlM tryFromStr chars (lockstep_init tryFromStr columnSchemas) hrun
  rw [hcols, List.take_left' hcells.length_eq]
  exact hcells

end

theorem tryFrom_cells_two_fields :
    TableRowConverter.tryFrom textFromStr "a\tb\n".toUTF8.data.toList
        [textColumn "x", textColumn "y"] = .ok ⟨[.value "a", .value "b"]⟩ ∧
      List.Forall₂ (CellOf textFromStr) ([textColumn "x", textColumn "y"].take 2)
        [.value "a", .value "b"] := by
  have h : TableRowConverter.tryFrom textFromStr "a\tb\n".toUTF8.data.toList
      [textColumn "x", textColumn "y"] = .ok ⟨[.value "a", .value "b"]⟩ := by
    rw [tryFrom_eq_parseRow, parseRow, fromUtf8_toUTF8]
    rfl
  exact ⟨h, tryFrom_cells textFromStr h⟩

end PgReplicate
