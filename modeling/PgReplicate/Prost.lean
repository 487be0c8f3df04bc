import PgReplicate.TableRow

/-!
# `prost::Message` for `TableRow`: the bytes and their length

`encode_raw` and `encoded_len` walk the cells in column order with a counter `tag` that
starts at 1; a cell's own bytes and their length, `Cell::encode_prost` and
`Cell::encoded_len_prost`, live outside this file and are the parameters `encodeProst` and
`encodedLenProst`.  The counter is the `u32` prost takes, so `tag += 1` wraps as a `u32`
does; the length is summed in `Nat`.

Both loops give the cell at position `i` (from 1) the tag `i`, so the length `encoded_len`
announces is the length `encode_raw` writes whenever each cell's length is right:

    (row.encodeRaw encodeProst buf).length = buf.length + row.encodedLen encodedLenProst
                                                                  (encodeRaw_encodedLen)
-/

namespace PgReplicate

section
variable {Ty V : Type} (encodeProst : Cell Ty V → UInt32 → List UInt8)
  (encodedLenProst : Cell Ty V → UInt32 → Nat)

/-- `encode_raw`: each cell appends its bytes to `buf`, under the tag the loop has reached. -/
def TableRow.encodeRaw (row : TableRow Ty V) (buf : List UInt8) : List UInt8 :=
  (row.values.foldl (fun (st : UInt32 × List UInt8) cell =>
    (st.1 + 1, st.2 ++ encodeProst cell st.1)) (1, buf)).2

/-- `encoded_len`: the cells' lengths summed, under the same tags. -/
def TableRow.encodedLen (row : TableRow Ty V) : Nat :=
  (row.values.foldl (fun (st : Nat × UInt32) cell =>
    (st.1 + encodedLenProst cell st.2, st.2 + 1)) (0, 1)).1

def TableRow.clear (cellClear : Cell Ty V → Cell Ty V) (row : TableRow Ty V) : TableRow Ty V :=
  ⟨row.values.map cellClear⟩

end

/-! ## Lemmas -/

theorem toUInt32_succ (k : Nat) : (k + 1).toUInt32 = k.toUInt32 + 1 := by
  apply UInt32.eq_of_toBitVec_eq
  apply BitVec.eq_of_toNat_eq
  show (k + 1) % 2 ^ 32 = (k % 2 ^ 32 + 1 % 2 ^ 32) % 2 ^ 32
  omega

section
variable {Ty V : Type} (encodeProst : Cell Ty V → UInt32 → List UInt8)
  (encodedLenProst : Cell Ty V → UInt32 → Nat)

/-- The `encode_raw` loop from tag `k`: the cells' bytes in order, cell `i` under tag `i`. -/
theorem foldl_encodeProst (cells : List (Cell Ty V)) (k : Nat) (buf : List UInt8) :
    (cells.foldl (fun (st : UInt32 × List UInt8) cell =>
      (st.1 + 1, st.2 ++ encodeProst cell st.1)) (k.toUInt32, buf)).2 =
      buf ++ ((cells.enumFrom k).map fun p => encodeProst p.2 p.1.toUInt32).flatten := by
  induction cells generalizing k buf with
  | nil => simp
  | cons c cells ih => simp [← toUInt32_succ, ih]

/-- The `encoded_len` loop from tag `k`: the cells' lengths summed, cell `i` under tag `i`. -/
theorem foldl_encodedLenProst (cells : List (Cell Ty V)) (k len : Nat) :
    (cells.foldl (fun (st : Nat × UInt32) cell =>
      (st.1 + encodedLenProst cell st.2, st.2 + 1)) (len, k.toUInt32)).1 =
      len + ((cells.enumFrom k).map fun p => encodedLenProst p.2 p.1.toUInt32).sum := by
  induction cells generalizing k len with
  | nil => simp
  | cons c cells ih => simp [← toUInt32_succ, ih, Nat.add_assoc]

/-- **Framing.** `encode_raw` appends the cells' `encode_prost` bytes in column order and
`encoded_len` sums their `encoded_len_prost`, both giving the `i`-th cell the tag `i`; so when
every cell's length is the length of its bytes, `encoded_len` is what `encode_raw` writes. -/
theorem encodeRaw_encodedLen (row : TableRow Ty V) (buf : List UInt8) :
    row.encodeRaw encodeProst buf =
        buf ++ ((row.values.enumFrom 1).map fun p => encodeProst p.2 p.1.toUInt32).flatten ∧
      row.encodedLen encodedLenProst =
        ((row.values.enumFrom 1).map fun p => encodedLenProst p.2 p.1.toUInt32).sum ∧
      ((∀ c t, encodedLenProst c t = (encodeProst c t).length) →
        (row.encodeRaw encodeProst buf).length = buf.length + row.encodedLen encodedLenProst) := by
  have hraw := foldl_encodeProst encodeProst row.values 1 buf
  have hlen := foldl_encodedLenProst encodedLenProst row.values 1 0
  rw [Nat.zero_add] at hlen
  refine ⟨hraw, hlen, fun h => ?_⟩
  rw [TableRow.encodeRaw, TableRow.encodedLen]
  erw [hraw, hlen]
  simp [h, Function.comp_def]

end

theorem encodeRaw_encodedLen_two_cells :
    (∀ (c : Cell String String) (t : UInt32),
      (fun _ _ => 1 : Cell String String → UInt32 → Nat) c t = [t.toUInt8].length) ∧
    ((TableRow.mk [.null "int4", .value "foo"]).encodeRaw (fun _ t => [t.toUInt8]) []).length =
      ([] : List UInt8).length + (TableRow.mk [.null "int4", .value "foo"]).encodedLen (fun _ _ => 1) :=
  ⟨fun _ _ => rfl, (encodeRaw_encodedLen (fun _ t => [t.toUInt8]) (fun _ _ => 1)
    (TableRow.mk [.null "int4", .value "foo"]) []).2.2 fun _ _ => rfl⟩

end PgReplicate
