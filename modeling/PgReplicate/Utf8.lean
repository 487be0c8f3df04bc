import Mathlib

/-!
# `str::from_utf8`, then `chars()`: from the row's bytes to its characters

`TableRowConverter::try_from` begins with `str::from_utf8(row)?` and reads the text with
`chars()`.  `fromUtf8` does both in one pass: the checks of Rust's `run_utf8_validation`
(the lead-byte width table, the narrowed second byte after `0xE0`, `0xED`, `0xF0`, `0xF4`,
the continuation test) and the reassembly of `next_code_point`.  A failure is the
`Utf8Error` Rust builds: the offset of the sequence that failed, with `none` when the input
ends inside it and `some n` when its byte `n` is wrong.

The encoder is Lean's own `String.utf8EncodeChar`, so a string's bytes are `String.toUTF8`:

    fromUtf8 s.toUTF8.data.toList = .ok s.data                      (fromUtf8_toUTF8)
-/

namespace PgReplicate

/-- `core::str::Utf8Error`. -/
structure Utf8Error where
  validUpTo : Nat
  errorLen : Option Nat
  deriving DecidableEq, Repr

/-! ## Algorithm -/

/-- `utf8_char_width`: the length of the sequence a lead byte opens, `0` for a byte that
cannot open one. -/
def utf8CharWidth (b : UInt8) : Nat :=
  if b.toNat < 0x80 then 1
  else if b.toNat < 0xC2 then 0
  else if b.toNat < 0xE0 then 2
  else if b.toNat < 0xF0 then 3
  else if b.toNat < 0xF5 then 4
  else 0

/-- A continuation byte `0x80..=0xBF`; Rust rejects a byte with `b as i8 >= -64`. -/
def utf8IsContByte (b : UInt8) : Bool := 0x80 ≤ b.toNat && b.toNat ≤ 0xBF

/-- The `match (first, next!())` of `run_utf8_validation` after a three-byte lead: the
second byte's range rules out overlong forms and surrogates. -/
def secondByteOk3 (x y : UInt8) : Bool :=
  (x.toNat = 0xE0 && 0xA0 ≤ y.toNat && y.toNat ≤ 0xBF) ||
  (0xE1 ≤ x.toNat && x.toNat ≤ 0xEC && utf8IsContByte y) ||
  (x.toNat = 0xED && 0x80 ≤ y.toNat && y.toNat ≤ 0x9F) ||
  (0xEE ≤ x.toNat && x.toNat ≤ 0xEF && utf8IsContByte y)

/-- The same after a four-byte lead: no overlong forms, nothing past `0x10FFFF`. -/
def secondByteOk4 (x y : UInt8) : Bool :=
  (x.toNat = 0xF0 && 0x90 ≤ y.toNat && y.toNat ≤ 0xBF) ||
  (0xF1 ≤ x.toNat && x.toNat ≤ 0xF3 && utf8IsContByte y) ||
  (x.toNat = 0xF4 && 0x80 ≤ y.toNat && y.toNat ≤ 0x8F)

/-- `utf8_acc_cont_byte`: six more bits of the scalar value, from a continuation byte
(`(ch << 6) | (b & 0x3F)`). -/
def utf8AccContByte (ch : Nat) (b : UInt8) : Nat := ch * 0x40 + b.toNat % 0x40

/-! The arms of `run_utf8_validation`'s `match w` after a lead byte `x` of width `w`, each
with the reassembly of `next_code_point`: the character and how many bytes follow the lead, or
the `error_len` of the failure.  `x.toNat % 0x20` is `utf8_first_byte(x, 2)`; the shifted parts
of the scalar value have no bits in common, so Rust's `|` is `+` here. -/

/-- The `2 =>` arm: one continuation byte. -/
def decodeTwo (x : UInt8) (rest : List UInt8) : Except (Option Nat) (Char × Nat) :=
  match rest with
  | y :: _ =>
    if !utf8IsContByte y then .error (some 1)
    else .ok (Char.ofNat (utf8AccContByte (x.toNat % 0x20) y), 1)
  | [] => .error none

/-- The `3 =>` arm: a second byte in the range the lead byte allows, then a continuation
byte. -/
def decodeThree (x : UInt8) (rest : List UInt8) : Except (Option Nat) (Char × Nat) :=
  match rest with
  | y :: z :: _ =>
    if !secondByteOk3 x y then .error (some 1)
    else if !utf8IsContByte z then .error (some 2)
    else .ok (Char.ofNat (x.toNat % 0x20 * 0x1000 + utf8AccContByte (y.toNat % 0x40) z), 2)
  | [y] => .error (if !secondByteOk3 x y then some 1 else none)
  | [] => .error none

/-- The `4 =>` arm: a second byte in the range the lead byte allows, then two continuation
bytes. -/
def decodeFour (x : UInt8) (rest : List UInt8) : Except (Option Nat) (Char × Nat) :=
  match rest with
  | y :: z :: w :: _ =>
    if !secondByteOk4 x y then .error (some 1)
    else if !utf8IsContByte z then .error (some 2)
    else if !utf8IsContByte w then .error (some 3)
    else .ok (Char.ofNat (x.toNat % 0x20 % 8 * 0x40000 +
      utf8AccContByte (utf8AccContByte (y.toNat % 0x40) z) w), 3)
  | [y, z] =>
    .error (if !secondByteOk4 x y then some 1 else if !utf8IsContByte z then some 2 else none)
  | [y] => .error (if !secondByteOk4 x y then some 1 else none)
  | [] => .error none

/-- One sequence of `run_utf8_validation`, lead byte `x` first: an ASCII byte, or the arm of
the lead byte's width. -/
def decodeSeq (x : UInt8) (rest : List UInt8) : Except (Option Nat) (Char × Nat) :=
  if x.toNat < 0x80 then .ok (Char.ofNat x.toNat, 0)
  else if utf8CharWidth x = 2 then decodeTwo x rest
  else if utf8CharWidth x = 3 then decodeThree x rest
  else if utf8CharWidth x = 4 then decodeFour x rest
  else .error (some 1)

/-- The decoding loop from byte offset `pos`; a sequence that fails gives `Utf8Error` its
offset. -/
def fromUtf8Aux (pos : Nat) (bytes : List UInt8) : Except Utf8Error (List Char) :=
  match bytes with
  | [] => .ok []
  | x :: rest =>
    match decodeSeq x rest with
    | .error len => .error ⟨pos, len⟩
    | .ok (c, n) => (fromUtf8Aux (pos + n + 1) (rest.drop n)).map (c :: ·)
termination_by bytes.length
decreasing_by simp only [List.length_drop, List.length_cons]; omega

/-- `str::from_utf8(row)` followed by `chars()`. -/
def fromUtf8 (bytes : List UInt8) : Except Utf8Error (List Char) := fromUtf8Aux 0 bytes

section
variable {pos : Nat} {x : UInt8} {rest : List UInt8} {c : Char}

theorem fromUtf8Aux_cons_ok {n : Nat} (h : decodeSeq x rest = .ok (c, n)) :
    fromUtf8Aux pos (x :: rest) = (fromUtf8Aux (pos + n + 1) (rest.drop n)).map (c :: ·) := by
  rw [fromUtf8Aux, h]

theorem fromUtf8Aux_cons_error {len : Option Nat} (h : decodeSeq x rest = .error len) :
    fromUtf8Aux pos (x :: rest) = .error ⟨pos, len⟩ := by
  rw [fromUtf8Aux, h]

end

/-! ## The bytes of `String.utf8EncodeChar` -/

theorem shiftRight_toNat (v k : UInt32) : (v >>> k).toNat = v.toNat / 2 ^ (k.toNat % 32) := by
  show (v.toBitVec >>> (k.toBitVec % 32)).toNat = _
  simp [BitVec.toNat_ushiftRight, Nat.shiftRight_eq_div_pow]
  rfl

theorem toUInt8_toNat (v : UInt32) : v.toUInt8.toNat = v.toNat % 256 := rfl

theorem or_toNat (a b : UInt8) : (a ||| b).toNat = a.toNat ||| b.toNat := BitVec.toNat_or _ _

/-- A lead or continuation byte: the low `k` bits of `a` under a tag `t` whose low `k` bits
are clear. -/
theorem tagged_toNat (a m t : UInt8) (k : Nat) (hm : m.toNat = 2 ^ k - 1)
    (ht : t.toNat % 2 ^ k = 0) : (a &&& m ||| t).toNat = a.toNat % 2 ^ k + t.toNat := by
  have hq : t.toNat = 2 ^ k * (t.toNat / 2 ^ k) := by
    have := Nat.div_add_mod t.toNat (2 ^ k); omega
  rw [or_toNat, UInt8.and_toNat, hm, Nat.and_pow_two_sub_one_eq_mod, Nat.or_comm, hq,
    ← Nat.mul_add_lt_is_or (Nat.mod_lt _ (Nat.two_pow_pos k)), ← hq, Nat.add_comm]

/-- A continuation byte of `String.utf8EncodeChar`: six bits of `v` from bit `k` up. -/
theorem contByte_toNat (v k : UInt32) :
    ((v >>> k).toUInt8 &&& 0x3f ||| 0x80).toNat = v.toNat / 2 ^ (k.toNat % 32) % 64 + 0x80 := by
  rw [tagged_toNat _ 0x3f 0x80 6 rfl rfl, toUInt8_toNat, shiftRight_toNat]
  show _ % 256 % 64 + 128 = _
  omega

theorem lastByte_toNat (v : UInt32) : (v.toUInt8 &&& 0x3f ||| 0x80).toNat = v.toNat % 64 + 0x80 := by
  rw [tagged_toNat _ 0x3f 0x80 6 rfl rfl, toUInt8_toNat]
  show _ % 256 % 64 + 128 = _
  omega

/-- Six bits `b` below `a`: division and remainder by `64` take them apart again. -/
theorem sixBits_div_mod (a : Nat) {b : Nat} (hb : b < 64) :
    (a * 64 + b) / 64 = a ∧ (a * 64 + b) % 64 = b :=
  ⟨by rw [Nat.add_comm, Nat.add_mul_div_right _ _ (by decide), Nat.div_eq_of_lt hb, Nat.zero_add],
    by rw [Nat.add_comm, Nat.add_mul_mod_self_right, Nat.mod_eq_of_lt hb]⟩

section
variable (c : Char)

theorem utf8EncodeChar_one (h1 : c.val.toNat ≤ 0x7f) :
    ∃ x, String.utf8EncodeChar c = [x] ∧ x.toNat = c.val.toNat := by
  unfold String.utf8EncodeChar
  rw [if_pos (show c.val ≤ 0x7f from h1)]
  exact ⟨_, rfl, by rw [toUInt8_toNat]; omega⟩

theorem utf8EncodeChar_two (h1 : 0x7f < c.val.toNat) (h2 : c.val.toNat ≤ 0x7ff) :
    ∃ x y, String.utf8EncodeChar c = [x, y] ∧
      x.toNat = c.val.toNat / 64 + 0xC0 ∧ y.toNat = c.val.toNat % 64 + 0x80 := by
  unfold String.utf8EncodeChar
  rw [if_neg (show ¬ c.val ≤ 0x7f from Nat.not_le.2 h1), if_pos (show c.val ≤ 0x7ff from h2)]
  refine ⟨_, _, rfl, ?_, lastByte_toNat c.val⟩
  rw [tagged_toNat _ 0x1f 0xc0 5 rfl rfl, toUInt8_toNat, shiftRight_toNat]
  show c.val.toNat / 64 % 256 % 32 + 192 = _
  omega

theorem utf8EncodeChar_three (h2 : 0x7ff < c.val.toNat) (h3 : c.val.toNat ≤ 0xffff) :
    ∃ x y z, String.utf8EncodeChar c = [x, y, z] ∧ x.toNat = c.val.toNat / 64 / 64 + 0xE0 ∧
      y.toNat = c.val.toNat / 64 % 64 + 0x80 ∧ z.toNat = c.val.toNat % 64 + 0x80 := by
  unfold String.utf8EncodeChar
  rw [if_neg (show ¬ c.val ≤ 0x7f from Nat.not_le.2 (show 0x7f < c.val.toNat by omega)),
    if_neg (show ¬ c.val ≤ 0x7ff from Nat.not_le.2 h2), if_pos (show c.val ≤ 0xffff from h3)]
  refine ⟨_, _, _, rfl, ?_, contByte_toNat c.val 6, lastByte_toNat c.val⟩
  rw [tagged_toNat _ 0x0f 0xe0 4 rfl rfl, toUInt8_toNat, shiftRight_toNat, Nat.div_div_eq_div_mul]
  show c.val.toNat / 4096 % 256 % 16 + 224 = _
  omega

theorem utf8EncodeChar_four (h3 : 0xffff < c.val.toNat) :
    ∃ x y z w, String.utf8EncodeChar c = [x, y, z, w] ∧
      x.toNat = c.val.toNat / 64 / 64 / 64 + 0xF0 ∧ y.toNat = c.val.toNat / 64 / 64 % 64 + 0x80 ∧
      z.toNat = c.val.toNat / 64 % 64 + 0x80 ∧ w.toNat = c.val.toNat % 64 + 0x80 := by
  have hmax : c.val.toNat < 0x110000 := by have := c.valid; omega
  unfold String.utf8EncodeChar
  rw [if_neg (show ¬ c.val ≤ 0x7f from Nat.not_le.2 (show 0x7f < c.val.toNat by omega)),
    if_neg (show ¬ c.val ≤ 0x7ff from Nat.not_le.2 (show 0x7ff < c.val.toNat by omega)),
    if_neg (show ¬ c.val ≤ 0xffff from Nat.not_le.2 h3)]
  refine ⟨_, _, _, _, rfl, ?_, ?_, contByte_toNat c.val 6, lastByte_toNat c.val⟩
  · rw [tagged_toNat _ 0x07 0xf0 3 rfl rfl, toUInt8_toNat, shiftRight_toNat,
      Nat.div_div_eq_div_mul, Nat.div_div_eq_div_mul]
    show c.val.toNat / 262144 % 256 % 8 + 240 = _
    omega
  · rw [contByte_toNat, Nat.div_div_eq_div_mul]
    rfl

end

/-! ## One sequence at a time -/

section
variable {x y z w : UInt8} {rest : List UInt8}

theorem decodeSeq_one (hx : x.toNat < 0x80) : decodeSeq x rest = .ok (Char.ofNat x.toNat, 0) := by
  simp only [decodeSeq, if_pos hx]

theorem decodeSeq_two (hx : 0xC2 ≤ x.toNat ∧ x.toNat < 0xE0) (hy : utf8IsContByte y) :
    decodeSeq x (y :: rest) = .ok (Char.ofNat (utf8AccContByte (x.toNat % 0x20) y), 1) := by
  have hw : utf8CharWidth x = 2 := by
    rw [utf8CharWidth, if_neg (by omega), if_neg (by omega), if_pos hx.2]
  simp only [decodeSeq, if_neg (show ¬ x.toNat < 0x80 by omega), hw, decodeTwo, hy]
  rfl

theorem decodeSeq_three (hx : 0xE0 ≤ x.toNat ∧ x.toNat < 0xF0) (hy : secondByteOk3 x y)
    (hz : utf8IsContByte z) :
    decodeSeq x (y :: z :: rest) =
      .ok (Char.ofNat (x.toNat % 0x20 * 0x1000 + utf8AccContByte (y.toNat % 0x40) z), 2) := by
  have hw : utf8CharWidth x = 3 := by
    rw [utf8CharWidth, if_neg (by omega), if_neg (by omega), if_neg (by omega), if_pos hx.2]
  simp only [decodeSeq, if_neg (show ¬ x.toNat < 0x80 by omega), hw, decodeThree, hy, hz]
  rfl

theorem decodeSeq_four (hx : 0xF0 ≤ x.toNat ∧ x.toNat < 0xF5) (hy : secondByteOk4 x y)
    (hz : utf8IsContByte z) (hw : utf8IsContByte w) :
    decodeSeq x (y :: z :: w :: rest) = .ok (Char.ofNat (x.toNat % 0x20 % 8 * 0x40000 +
      utf8AccContByte (utf8AccContByte (y.toNat % 0x40) z) w), 3) := by
  have hw4 : utf8CharWidth x = 4 := by
    rw [utf8CharWidth, if_neg (by omega), if_neg (by omega), if_neg (by omega), if_neg (by omega),
      if_pos hx.2]
  simp only [decodeSeq, if_neg (show ¬ x.toNat < 0x80 by omega), hw4, decodeFour, hy, hz, hw]
  rfl

theorem utf8IsContByte_of {n : Nat} (hy : y.toNat = n + 0x80) (hn : n < 64) :
    utf8IsContByte y := by
  simp only [utf8IsContByte, hy, Bool.and_eq_true, decide_eq_true_eq]
  omega

/-- After `0xE0 + a`, a second byte `0x80 + b` passes when `(a, b)` is neither overlong nor
the start of a surrogate. -/
theorem secondByteOk3_of {a b : Nat} (hx : x.toNat = a + 0xE0) (hy : y.toNat = b + 0x80)
    (ha : a < 16) (hb : b < 64) (hlong : 32 ≤ a * 64 + b) (hsur : a = 13 → b < 32) :
    secondByteOk3 x y := by
  simp only [secondByteOk3, utf8IsContByte, hx, hy, Bool.or_eq_true, Bool.and_eq_true,
    decide_eq_true_eq]
  omega

/-- After `0xF0 + a`, a second byte `0x80 + b` passes when `(a, b)` is neither overlong nor
past `0x10FFFF`. -/
theorem secondByteOk4_of {a b : Nat} (hx : x.toNat = a + 0xF0) (hy : y.toNat = b + 0x80)
    (hb : b < 64) (hlong : 16 ≤ a * 64 + b) (hhigh : a * 64 + b < 0x110) :
    secondByteOk4 x y := by
  simp only [secondByteOk4, utf8IsContByte, hx, hy, Bool.or_eq_true, Bool.and_eq_true,
    decide_eq_true_eq]
  omega

end

/-! The bytes of a sequence `decodeSeq` accepts, as tags and payloads: the lead byte
`0xC0 + a`, `0xE0 + a` or `0xF0 + a`, each continuation byte `0x80` plus six bits. -/

section
variable {x y z w : UInt8} {rest : List UInt8} {a b c d : Nat}

theorem utf8IsContByte_payload (h : utf8IsContByte y) : ∃ b, b < 64 ∧ y.toNat = b + 0x80 := by
  simp only [utf8IsContByte, Bool.and_eq_true, decide_eq_true_eq] at h
  exact ⟨y.toNat - 0x80, by omega, by omega⟩

theorem secondByteOk3_payload (hx : 0xE0 ≤ x.toNat ∧ x.toNat < 0xF0) (h : secondByteOk3 x y) :
    ∃ a b, a < 16 ∧ b < 64 ∧ 32 ≤ a * 64 + b ∧ (a = 13 → b < 32) ∧ x.toNat = a + 0xE0 ∧
      y.toNat = b + 0x80 := by
  simp only [secondByteOk3, utf8IsContByte, Bool.or_eq_true, Bool.and_eq_true,
    decide_eq_true_eq] at h
  refine ⟨x.toNat - 0xE0, y.toNat - 0x80, by omega, by omega, by omega, fun ha => by omega,
    by omega, by omega⟩

theorem secondByteOk4_payload (hx : 0xF0 ≤ x.toNat ∧ x.toNat < 0xF5) (h : secondByteOk4 x y) :
    ∃ a b, a < 8 ∧ b < 64 ∧ 16 ≤ a * 64 + b ∧ a * 64 + b < 0x110 ∧ x.toNat = a + 0xF0 ∧
      y.toNat = b + 0x80 := by
  simp only [secondByteOk4, utf8IsContByte, Bool.or_eq_true, Bool.and_eq_true,
    decide_eq_true_eq] at h
  refine ⟨x.toNat - 0xF0, y.toNat - 0x80, by omega, by omega, by omega, by omega, by omega,
    by omega⟩

/-- A continuation byte's six bits. -/
theorem contByte_mod (hy : y.toNat = b + 0x80) (hb : b < 64) : y.toNat % 0x40 = b := by
  rw [hy, show 0x80 = 2 * 0x40 from rfl, Nat.add_mul_mod_self_right, Nat.mod_eq_of_lt hb]

/-- The scalar value `decodeSeq` assembles from two bytes. -/
theorem value_two (ha : a < 32) (hb : b < 64) (hx : x.toNat = a + 0xC0) (hy : y.toNat = b + 0x80) :
    utf8AccContByte (x.toNat % 0x20) y = a * 64 + b := by
  rw [utf8AccContByte, contByte_mod hy hb, hx]
  omega

/-- The scalar value `decodeSeq` assembles from three bytes. -/
theorem value_three (ha : a < 16) (hb : b < 64) (hc : c < 64) (hx : x.toNat = a + 0xE0)
    (hy : y.toNat = b + 0x80) (hz : z.toNat = c + 0x80) :
    x.toNat % 0x20 * 0x1000 + utf8AccContByte (y.toNat % 0x40) z = (a * 64 + b) * 64 + c := by
  rw [utf8AccContByte, contByte_mod hy hb, contByte_mod hz hc, hx]
  omega

/-- The scalar value `decodeSeq` assembles from four bytes. -/
theorem value_four (ha : a < 8) (hb : b < 64) (hc : c < 64) (hd : d < 64)
    (hx : x.toNat = a + 0xF0) (hy : y.toNat = b + 0x80) (hz : z.toNat = c + 0x80)
    (hw : w.toNat = d + 0x80) :
    x.toNat % 0x20 % 8 * 0x40000 + utf8AccContByte (utf8AccContByte (y.toNat % 0x40) z) w =
      ((a * 64 + b) * 64 + c) * 64 + d := by
  rw [utf8AccContByte, utf8AccContByte, contByte_mod hy hb, contByte_mod hz hc, contByte_mod hw hd,
    hx]
  omega

/-- A two-byte sequence with payloads `a` (five bits) and `b` (six bits). -/
theorem decodeSeq_two_of (ha : 2 ≤ a ∧ a < 32) (hb : b < 64) (hx : x.toNat = a + 0xC0)
    (hy : y.toNat = b + 0x80) : decodeSeq x (y :: rest) = .ok (Char.ofNat (a * 64 + b), 1) := by
  rw [decodeSeq_two (by omega) (utf8IsContByte_of hy hb), value_two ha.2 hb hx hy]

/-- A three-byte sequence with payloads `a`, `b`, `c`, neither overlong nor a surrogate. -/
theorem decodeSeq_three_of (ha : a < 16) (hb : b < 64) (hc : c < 64) (hlong : 32 ≤ a * 64 + b)
    (hsur : a = 13 → b < 32) (hx : x.toNat = a + 0xE0) (hy : y.toNat = b + 0x80)
    (hz : z.toNat = c + 0x80) :
    decodeSeq x (y :: z :: rest) = .ok (Char.ofNat ((a * 64 + b) * 64 + c), 2) := by
  rw [decodeSeq_three (by omega) (secondByteOk3_of hx hy ha hb hlong hsur)
    (utf8IsContByte_of hz hc), value_three ha hb hc hx hy hz]

/-- A four-byte sequence with payloads `a`, `b`, `c`, `d`, neither overlong nor past
`0x10FFFF`. -/
theorem decodeSeq_four_of (ha : a < 8) (hb : b < 64) (hc : c < 64) (hd : d < 64)
    (hlong : 16 ≤ a * 64 + b) (hhigh : a * 64 + b < 0x110) (hx : x.toNat = a + 0xF0)
    (hy : y.toNat = b + 0x80) (hz : z.toNat = c + 0x80) (hw : w.toNat = d + 0x80) :
    decodeSeq x (y :: z :: w :: rest) = .ok (Char.ofNat (((a * 64 + b) * 64 + c) * 64 + d), 3) := by
  rw [decodeSeq_four (by omega) (secondByteOk4_of hx hy hb hlong hhigh) (utf8IsContByte_of hz hc)
    (utf8IsContByte_of hw hd), value_four ha hb hc hd hx hy hz hw]

end

/-! ## Lean's encoder, read back -/

/-- Every character Lean encodes is one sequence that `decodeSeq` reads back. -/
theorem decodeSeq_utf8EncodeChar (c : Char) (rest : List UInt8) :
    ∃ x tl, String.utf8EncodeChar c = x :: tl ∧ decodeSeq x (tl ++ rest) = .ok (c, tl.length) := by
  have hc : Char.ofNat c.val.toNat = c := Char.ofNat_toNat c
  have h64 : ∀ v, v % 64 < 64 := fun v => Nat.mod_lt v (by decide)
  by_cases h1 : c.val.toNat ≤ 0x7f
  · obtain ⟨x, he, hx⟩ := utf8EncodeChar_one c h1
    refine ⟨x, [], he, ?_⟩
    rw [List.nil_append, decodeSeq_one (by omega), hx, hc]
    rfl
  by_cases h2 : c.val.toNat ≤ 0x7ff
  · obtain ⟨x, y, he, hx, hy⟩ := utf8EncodeChar_two c (by omega) h2
    refine ⟨x, [y], he, ?_⟩
    rw [List.cons_append, List.nil_append, decodeSeq_two_of (by omega) (h64 _) hx hy,
      Nat.div_add_mod', hc]
    rfl
  by_cases h3 : c.val.toNat ≤ 0xffff
  · have hv : c.val.toNat < 0xd800 ∨ 0xdfff < c.val.toNat := c.valid.imp_right And.left
    obtain ⟨x, y, z, he, hx, hy, hz⟩ := utf8EncodeChar_three c (by omega) h3
    refine ⟨x, [y, z], he, ?_⟩
    rw [List.cons_append, List.cons_append, List.nil_append,
      decodeSeq_three_of (by omega) (h64 _) (h64 _) (by omega) (by omega) hx hy hz,
      Nat.div_add_mod', Nat.div_add_mod', hc]
    rfl
  have hmax : c.val.toNat < 0x110000 := by have := c.valid; omega
  obtain ⟨x, y, z, w, he, hx, hy, hz, hw⟩ := utf8EncodeChar_four c (by omega)
  refine ⟨x, [y, z, w], he, ?_⟩
  rw [List.cons_append, List.cons_append, List.cons_append, List.nil_append,
    decodeSeq_four_of (by omega) (h64 _) (h64 _) (h64 _) (by omega) (by omega) hx hy hz hw,
    Nat.div_add_mod', Nat.div_add_mod', Nat.div_add_mod', hc]
  rfl

theorem fromUtf8Aux_utf8EncodeChar (pos : Nat) (c : Char) (rest : List UInt8) :
    fromUtf8Aux pos (String.utf8EncodeChar c ++ rest) =
      (fromUtf8Aux (pos + c.utf8Size) rest).map (c :: ·) := by
  obtain ⟨x, tl, he, hd⟩ := decodeSeq_utf8EncodeChar c rest
  have hlen := String.length_utf8EncodeChar c
  rw [he, List.length_cons] at hlen
  rw [he, List.cons_append, fromUtf8Aux_cons_ok hd, List.drop_left, Nat.add_assoc, hlen]

theorem fromUtf8Aux_flatMap (pos : Nat) (l : List Char) :
    fromUtf8Aux pos (l.flatMap String.utf8EncodeChar) = .ok l := by
  induction l generalizing pos with
  | nil => rw [List.flatMap_nil, fromUtf8Aux]
  | cons c l ih => rw [List.flatMap_cons, fromUtf8Aux_utf8EncodeChar, ih]; rfl

/-- **Round trip**: `str::from_utf8` reads back exactly the characters of a string's
UTF-8 bytes. -/
theorem fromUtf8_toUTF8 (s : String) : fromUtf8 s.toUTF8.data.toList = .ok s.data :=
  fromUtf8Aux_flatMap 0 s.data

/-! ## What `fromUtf8` accepts -/

/-- A valid scalar value is the value of its character. -/
theorem ofNat_val_toNat (v : Nat) (h : v.isValidChar) : (Char.ofNat v).val.toNat = v := by
  rw [Char.ofNat, dif_pos h]
  rfl

/-- The lead bytes of each width. -/
theorem utf8CharWidth_ranges (x : UInt8) :
    (utf8CharWidth x = 2 → 0xC2 ≤ x.toNat ∧ x.toNat < 0xE0) ∧
    (utf8CharWidth x = 3 → 0xE0 ≤ x.toNat ∧ x.toNat < 0xF0) ∧
    (utf8CharWidth x = 4 → 0xF0 ≤ x.toNat ∧ x.toNat < 0xF5) := by
  unfold utf8CharWidth
  split_ifs <;> simp <;> omega

section
variable {x y z w : UInt8} {a b c d : Nat}

theorem utf8EncodeChar_ofNat_one (hx : x.toNat < 0x80) :
    String.utf8EncodeChar (Char.ofNat x.toNat) = [x] := by
  have hv := ofNat_val_toNat x.toNat (Or.inl (by omega))
  obtain ⟨x', he, hx'⟩ := utf8EncodeChar_one (Char.ofNat x.toNat) (by omega)
  rw [he, UInt8.toNat.inj (hx'.trans hv)]

theorem utf8EncodeChar_ofNat_two (ha : 2 ≤ a ∧ a < 32) (hb : b < 64) (hx : x.toNat = a + 0xC0)
    (hy : y.toNat = b + 0x80) : String.utf8EncodeChar (Char.ofNat (a * 64 + b)) = [x, y] := by
  have hv := ofNat_val_toNat (a * 64 + b) (Or.inl (by omega))
  obtain ⟨x', y', he, hx', hy'⟩ :=
    utf8EncodeChar_two (Char.ofNat (a * 64 + b)) (by omega) (by omega)
  obtain ⟨g1, g2⟩ := sixBits_div_mod a hb
  rw [hv, g1, ← hx] at hx'
  rw [hv, g2, ← hy] at hy'
  rw [he, UInt8.toNat.inj hx', UInt8.toNat.inj hy']

theorem utf8EncodeChar_ofNat_three (ha : a < 16) (hb : b < 64) (hc : c < 64)
    (hlong : 32 ≤ a * 64 + b) (hsur : a = 13 → b < 32) (hx : x.toNat = a + 0xE0)
    (hy : y.toNat = b + 0x80) (hz : z.toNat = c + 0x80) :
    String.utf8EncodeChar (Char.ofNat ((a * 64 + b) * 64 + c)) = [x, y, z] := by
  have hv := ofNat_val_toNat ((a * 64 + b) * 64 + c) (by unfold Nat.isValidChar; omega)
  obtain ⟨x', y', z', he, hx', hy', hz'⟩ :=
    utf8EncodeChar_three (Char.ofNat ((a * 64 + b) * 64 + c)) (by omega) (by omega)
  obtain ⟨g1, g2⟩ := sixBits_div_mod (a * 64 + b) hc
  obtain ⟨g3, g4⟩ := sixBits_div_mod a hb
  rw [hv, g1, g3, ← hx] at hx'
  rw [hv, g1, g4, ← hy] at hy'
  rw [hv, g2, ← hz] at hz'
  rw [he, UInt8.toNat.inj hx', UInt8.toNat.inj hy', UInt8.toNat.inj hz']

theorem utf8EncodeChar_ofNat_four (hb : b < 64) (hc : c < 64) (hd : d < 64)
    (hlong : 16 ≤ a * 64 + b) (hhigh : a * 64 + b < 0x110) (hx : x.toNat = a + 0xF0)
    (hy : y.toNat = b + 0x80) (hz : z.toNat = c + 0x80) (hw : w.toNat = d + 0x80) :
    String.utf8EncodeChar (Char.ofNat (((a * 64 + b) * 64 + c) * 64 + d)) = [x, y, z, w] := by
  have hv := ofNat_val_toNat (((a * 64 + b) * 64 + c) * 64 + d)
    (by unfold Nat.isValidChar; omega)
  obtain ⟨x', y', z', w', he, hx', hy', hz', hw'⟩ :=
    utf8EncodeChar_four (Char.ofNat (((a * 64 + b) * 64 + c) * 64 + d)) (by omega)
  obtain ⟨g1, g2⟩ := sixBits_div_mod ((a * 64 + b) * 64 + c) hd
  obtain ⟨g3, g4⟩ := sixBits_div_mod (a * 64 + b) hc
  obtain ⟨g5, g6⟩ := sixBits_div_mod a hb
  rw [hv, g1, g3, g5, ← hx] at hx'
  rw [hv, g1, g3, g6, ← hy] at hy'
  rw [hv, g1, g4, ← hz] at hz'
  rw [hv, g2, ← hw] at hw'
  rw [he, UInt8.toNat.inj hx', UInt8.toNat.inj hy', UInt8.toNat.inj hz', UInt8.toNat.inj hw']

/-- The two bytes `decodeSeq` accepts are the encoding of the character it makes of them. -/
theorem utf8EncodeChar_decodeSeq_two (hx : 0xC2 ≤ x.toNat ∧ x.toNat < 0xE0)
    (hy : utf8IsContByte y) :
    String.utf8EncodeChar (Char.ofNat (utf8AccContByte (x.toNat % 0x20) y)) = [x, y] := by
  obtain ⟨a, ha, hxa⟩ : ∃ a, (2 ≤ a ∧ a < 32) ∧ x.toNat = a + 0xC0 :=
    ⟨x.toNat - 0xC0, by omega, by omega⟩
  obtain ⟨b, hb, hyb⟩ := utf8IsContByte_payload hy
  rw [value_two ha.2 hb hxa hyb, utf8EncodeChar_ofNat_two ha hb hxa hyb]

theorem utf8EncodeChar_decodeSeq_three (hx : 0xE0 ≤ x.toNat ∧ x.toNat < 0xF0)
    (hy : secondByteOk3 x y) (hz : utf8IsContByte z) :
    String.utf8EncodeChar (Char.ofNat (x.toNat % 0x20 * 0x1000 +
      utf8AccContByte (y.toNat % 0x40) z)) = [x, y, z] := by
  obtain ⟨a, b, ha, hb, hlong, hsur, hxa, hyb⟩ := secondByteOk3_payload hx hy
  obtain ⟨c, hc, hzc⟩ := utf8IsContByte_payload hz
  rw [value_three ha hb hc hxa hyb hzc,
    utf8EncodeChar_ofNat_three ha hb hc hlong hsur hxa hyb hzc]

theorem utf8EncodeChar_decodeSeq_four (hx : 0xF0 ≤ x.toNat ∧ x.toNat < 0xF5)
    (hy : secondByteOk4 x y) (hz : utf8IsContByte z) (hw : utf8IsContByte w) :
    String.utf8EncodeChar (Char.ofNat (x.toNat % 0x20 % 8 * 0x40000 +
      utf8AccContByte (utf8AccContByte (y.toNat % 0x40) z) w)) = [x, y, z, w] := by
  obtain ⟨a, b, ha, hb, hlong, hhigh, hxa, hyb⟩ := secondByteOk4_payload hx hy
  obtain ⟨c, hc, hzc⟩ := utf8IsContByte_payload hz
  obtain ⟨d, hd, hwd⟩ := utf8IsContByte_payload hw
  rw [value_four ha hb hc hd hxa hyb hzc hwd,
    utf8EncodeChar_ofNat_four hb hc hd hlong hhigh hxa hyb hzc hwd]

end

/-- A sequence `decodeSeq` reads is the encoding of the character it returns. -/
theorem utf8EncodeChar_decodeSeq {x : UInt8} {rest : List UInt8} {c : Char} {n : Nat}
    (h : decodeSeq x rest = .ok (c, n)) :
    n ≤ rest.length ∧ String.utf8EncodeChar c = x :: rest.take n := by
  unfold decodeSeq at h
  split_ifs at h with h1 h2 h3 h4
  · -- one byte
    obtain ⟨rfl, rfl⟩ := Prod.mk.inj (Except.ok.inj h)
    exact ⟨Nat.zero_le _, utf8EncodeChar_ofNat_one h1⟩
  · -- two bytes
    rcases rest with _ | ⟨y, tl⟩
    · cases h
    rw [decodeTwo] at h
    split_ifs at h with hy
    obtain ⟨rfl, rfl⟩ := Prod.mk.inj (Except.ok.inj h)
    exact ⟨Nat.le_add_left _ _, utf8EncodeChar_decodeSeq_two ((utf8CharWidth_ranges x).1 h2) (by simpa using hy)⟩
  · -- three bytes
    rcases rest with _ | ⟨y, _ | ⟨z, tl⟩⟩
    · cases h
    · cases h
    rw [decodeThree] at h
    split_ifs at h with hy hz
    obtain ⟨rfl, rfl⟩ := Prod.mk.inj (Except.ok.inj h)
    exact ⟨Nat.le_add_left _ _, utf8EncodeChar_decodeSeq_three ((utf8CharWidth_ranges x).2.1 h3)
      (by simpa using hy) (by simpa using hz)⟩
  · -- four bytes
    rcases rest with _ | ⟨y, _ | ⟨z, _ | ⟨w, tl⟩⟩⟩
    · cases h
    · cases h
    · cases h
    rw [decodeFour] at h
    split_ifs at h with hy hz hw
    obtain ⟨rfl, rfl⟩ := Prod.mk.inj (Except.ok.inj h)
    exact ⟨Nat.le_add_left _ _, utf8EncodeChar_decodeSeq_four ((utf8CharWidth_ranges x).2.2 h4)
      (by simpa using hy) (by simpa using hz) (by simpa using hw)⟩

theorem fromUtf8Aux_eq_ok (pos : Nat) (bytes : List UInt8) :
    ∀ cs, fromUtf8Aux pos bytes = .ok cs → cs.flatMap String.utf8EncodeChar = bytes := by
  induction pos, bytes using fromUtf8Aux.induct with
  | case1 pos =>
    intro cs h
    rw [fromUtf8Aux] at h
    cases h
    rfl
  | case2 pos x rest len hd =>
    intro cs h
    rw [fromUtf8Aux_cons_error hd] at h
    cases h
  | case3 pos x rest c n hd ih =>
    intro cs h
    rw [fromUtf8Aux_cons_ok hd] at h
    obtain ⟨hn, he⟩ := utf8EncodeChar_decodeSeq hd
    cases hr : fromUtf8Aux (pos + n + 1) (rest.drop n) with
    | error e => rw [hr] at h; cases h
    | ok cs' =>
      rw [hr] at h
      cases h
      rw [List.flatMap_cons, ih cs' hr, he, List.cons_append, List.take_append_drop]

/-- **Exactly the encodings.** `str::from_utf8` accepts a byte string exactly when it is the
UTF-8 encoding of a string, and then reads back that string's characters. -/
theorem fromUtf8_eq_ok_iff (bytes : List UInt8) (cs : List Char) :
    fromUtf8 bytes = .ok cs ↔ (String.mk cs).toUTF8.data.toList = bytes :=
  ⟨fromUtf8Aux_eq_ok 0 bytes cs, fun h => h ▸ fromUtf8_toUTF8 ⟨cs⟩⟩

end PgReplicate
