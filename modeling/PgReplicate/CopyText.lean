import PgReplicate.TableRow

/-!
# COPY TEXT in layers, and `try_from` against them

What `try_from` computes, said in three layers that know nothing of each other: escapes
(`tokens`: a backslash makes the next character an escape letter, and tab and line feed
outside an escape are separators), fields (`splitFields`: the text before each separator,
and what is left after the last one), and cells (`decodeFields`: each field against the
next column, left to right).  The loop interleaves the three and stops at the first field
that fails; it computes the same thing:

    TableRowConverter.tryFrom tryFromStr row cols = parseRow tryFromStr row cols
                                                                    (tryFrom_eq_parseRow)

The simulation relation is `Scan.parseRest`: what the layers make of the characters still to
come, from a state of the loop.  One character preserves it (`scanChar_parseRest`), hence a
whole run does (`foldlM_scanChar`); `tryFrom_refines_parseRow` states both levels together.
-/

namespace PgReplicate

inductive Token where
  | char (c : Char)
  | tab
  | lineFeed
  deriving DecidableEq, Repr

/-! ## The layers -/

/-- Escapes resolved; the flag says whether the first character follows a backslash. -/
def tokens : Bool → List Char → List Token
  | _, [] => []
  | true, c :: cs => (pushEscaped "" c).data.map .char ++ tokens false cs
  | false, c :: cs =>
    if c = '\t' then .tab :: tokens false cs
    else if c = '\n' then .lineFeed :: tokens false cs
    else if c = '\\' then tokens true cs
    else .char c :: tokens false cs

/-- The fields that separators end, and the text after the last separator; `cur` is the
text of the field already begun. -/
def splitFields : List Char → List Token → List (List Char) × List Char
  | cur, [] => ([], cur)
  | cur, .char c :: ts => splitFields (cur ++ [c]) ts
  | cur, .tab :: ts => (cur :: (splitFields [] ts).1, (splitFields [] ts).2)
  | cur, .lineFeed :: ts => (cur :: (splitFields [] ts).1, (splitFields [] ts).2)

section
variable {Ty V E : Type} (tryFromStr : Ty → String → Except E (Cell Ty V))

/-- Fields against columns, left to right: the first field that fails is the error, and a
field with no column left is `NumColsMismatch`.  Columns left without a field are no error. -/
def decodeFields : List (ColumnSchema Ty) → List String →
    Except (TableRowConversionError Ty E) (List (Cell Ty V))
  | _, [] => .ok []
  | [], _ :: _ => .error .numColsMismatch
  | col :: cols, f :: fs => do
    let v ← fieldValue tryFromStr col f
    let vs ← decodeFields cols fs
    pure (v :: vs)

/-- A row read in layers: text, escapes, fields, cells; and a line feed must be among the
separators. -/
def parseRow (row : List UInt8) (columnSchemas : List (ColumnSchema Ty)) :
    Except (TableRowConversionError Ty E) (TableRow Ty V) := do
  let chars ← (fromUtf8 row).mapError .invalidString
  let ts := tokens false chars
  let values ← decodeFields tryFromStr columnSchemas ((splitFields [] ts).1.map String.mk)
  if Token.lineFeed ∈ ts then pure ⟨values⟩ else throw .unterminatedRow

/-- What the layers make of the characters `cs` still to come, from loop state `s`. -/
def Scan.parseRest (s : Scan Ty V) (cs : List Char) :
    Except (TableRowConversionError Ty E) (TableRow Ty V) := do
  let ts := tokens s.inEscape cs
  let vs ← decodeFields tryFromStr s.columns ((splitFields s.valStr.data ts).1.map String.mk)
  if s.rowTerminated ∨ Token.lineFeed ∈ ts then pure ⟨s.values ++ vs⟩
  else throw .unterminatedRow

end

/-! ## Lemmas -/

theorem splitFields_chars (cur l : List Char) (ts : List Token) :
    splitFields cur (l.map .char ++ ts) = splitFields (cur ++ l) ts := by
  induction l generalizing cur with
  | nil => simp
  | cons c l ih => simp [splitFields, ih]

/-- The escapes of `p ++ q` are those of `p`, then those of `q` from the state `p` leaves. -/
theorem tokens_append (b : Bool) (p q : List Char) :
    ∃ b', tokens b (p ++ q) = tokens b p ++ tokens b' q := by
  induction p generalizing b with
  | nil => exact ⟨b, by cases b <;> rfl⟩
  | cons c p ih =>
    obtain ⟨b', hb⟩ := ih false
    cases b
    · rw [List.cons_append, tokens, tokens]
      split_ifs
      · exact ⟨b', by rw [hb, List.cons_append]⟩
      · exact ⟨b', by rw [hb, List.cons_append]⟩
      · exact ih true
      · exact ⟨b', by rw [hb, List.cons_append]⟩
    · exact ⟨b', by rw [List.cons_append, tokens, tokens, hb, List.append_assoc]⟩

theorem lineFeed_not_mem_tokens {cs : List Char} (h : '\n' ∉ cs) (b : Bool) :
    Token.lineFeed ∉ tokens b cs := by
  induction cs generalizing b with
  | nil => cases b <;> simp [tokens]
  | cons c cs ih =>
    rw [List.mem_cons, not_or] at h
    obtain ⟨hc, hcs⟩ := h
    cases b
    · rw [tokens]
      split_ifs with h1 h2
      · simp [ih hcs]
      · exact absurd h2.symm hc
      · exact ih hcs true
      · simp [ih hcs]
    · simp [tokens, ih hcs]

theorem splitFields_append (cur : List Char) (ts₁ ts₂ : List Token) :
    (splitFields cur (ts₁ ++ ts₂)).1 =
      (splitFields cur ts₁).1 ++ (splitFields (splitFields cur ts₁).2 ts₂).1 := by
  induction ts₁ generalizing cur with
  | nil => rfl
  | cons t ts ih => cases t <;> simp [splitFields, ih]

theorem splitFields_append_snd (cur : List Char) (ts₁ ts₂ : List Token) :
    (splitFields cur (ts₁ ++ ts₂)).2 = (splitFields (splitFields cur ts₁).2 ts₂).2 := by
  induction ts₁ generalizing cur with
  | nil => rfl
  | cons t ts ih => cases t <;> simp [splitFields, ih]

section
variable {Ty V E : Type} (tryFromStr : Ty → String → Except E (Cell Ty V))

theorem endField_parseRest (s : Scan Ty V) (hs : s.inEscape = false) (cs : List Char) :
    (endField tryFromStr s >>= fun s' => s'.parseRest tryFromStr cs) =
      (do
        let ts := tokens false cs
        let vs ← decodeFields tryFromStr s.columns
          (s.valStr :: (splitFields [] ts).1.map String.mk)
        if s.rowTerminated ∨ Token.lineFeed ∈ ts then pure ⟨s.values ++ vs⟩
        else throw .unterminatedRow : Except (TableRowConversionError Ty E) (TableRow Ty V)) := by
  cases hc : s.columns with
  | nil => simp [endField, hc, decodeFields]
  | cons col cols =>
    rw [endField_cons _ _ _ _ hc]
    cases hv : fieldValue tryFromStr col s.valStr with
    | error e => simp [decodeFields, hv]
    | ok v =>
      simp [decodeFields, hv, Scan.parseRest, hs]

/-- **Step.** One character of the loop keeps the layered reading of what remains. -/
theorem scanChar_parseRest (s : Scan Ty V) (c : Char) (cs : List Char) :
    (scanChar tryFromStr s c >>= fun s' => s'.parseRest tryFromStr cs) =
      s.parseRest tryFromStr (c :: cs) := by
  cases he : s.inEscape
  · by_cases ht : c = '\t'
    · subst ht
      rw [scanChar, if_neg (by simp [he]), if_pos rfl, endField_parseRest _ _ he]
      simp [Scan.parseRest, he, tokens, splitFields]
    by_cases hn : c = '\n'
    · subst hn
      rw [scanChar, if_neg (by simp [he]), if_neg (by decide), if_pos rfl,
        endField_parseRest tryFromStr { s with rowTerminated := true } he]
      simp [Scan.parseRest, he, tokens, splitFields]
    by_cases hb : c = '\\'
    · subst hb
      simp [scanChar, he, Scan.parseRest, tokens]
    · simp [scanChar, he, ht, hn, hb, Scan.parseRest, tokens, splitFields]
  · simp [scanChar, he, Scan.parseRest, tokens, splitFields_chars, ← pushEscaped_data]

/-- **Run.** The loop from any state, then its end-of-input arm, is the layered reading. -/
theorem foldlM_scanChar (cs : List Char) (s : Scan Ty V) :
    (cs.foldlM (scanChar tryFromStr) s >>= endInput) = s.parseRest tryFromStr cs := by
  induction cs generalizing s with
  | nil =>
    cases h : s.rowTerminated <;> simp [Scan.parseRest, endInput, tokens, splitFields,
      decodeFields, h]
  | cons c cs ih =>
    rw [List.foldlM_cons, bind_assoc]
    simp only [ih]
    exact scanChar_parseRest tryFromStr s c cs

/-- **`try_from` is the layered reading.** -/
theorem tryFrom_eq_parseRow (row : List UInt8) (columnSchemas : List (ColumnSchema Ty)) :
    TableRowConverter.tryFrom tryFromStr row columnSchemas =
      parseRow tryFromStr row columnSchemas := by
  unfold TableRowConverter.tryFrom parseRow
  cases fromUtf8 row with
  | error e => rfl
  | ok chars =>
    show (chars.foldlM (scanChar tryFromStr) (Scan.init columnSchemas) >>= endInput) = _
    rw [foldlM_scanChar]
    simp [Scan.parseRest, Scan.init]

/-- **Refinement.** `try_from`'s character loop implements the layered reading: from every state
of the loop and for every rest of the input, the rest of the loop followed by its end-of-input
arm gives what the layers make of the characters still to come; from the initial state after
`str::from_utf8`, that is `try_from` itself. -/
theorem tryFrom_refines_parseRow (row : List UInt8) (columnSchemas : List (ColumnSchema Ty)) :
    TableRowConverter.tryFrom tryFromStr row columnSchemas = parseRow tryFromStr row columnSchemas ∧
      ∀ (s : Scan Ty V) (cs : List Char),
        (cs.foldlM (scanChar tryFromStr) s >>= endInput) = s.parseRest tryFromStr cs :=
  ⟨tryFrom_eq_parseRow tryFromStr row columnSchemas, fun s cs => foldlM_scanChar tryFromStr cs s⟩

end

end PgReplicate
