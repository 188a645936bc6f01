/-
# ExtendedFormat.Proofs.Text.FileText -- a file's text, whatever it is written in

A text can stand in a file in four ways (`FileText.Encoding`): as UTF-8, with or without a mark
in front, or as UTF-16 after the mark of its byte order.  Two layers drop a mark on the way
back.  The codec that goes with the encoding drops the mark in front of the text
(`Encoding.decode_write`), and one more U+FEFF is dropped from what the codec read
(`dropMark`); a text that does not begin with U+FEFF comes through the second layer as it is.
The mark of UTF-32, which looks like one of UTF-16 before U+0000, is not among the marks.

Which codec reads a file is guessed from its bytes.  Nothing here depends on how, as long as
the guess is right about the file (`Environment.Recognizes`, `Environment.textOf_write`).  A guess
that goes by the mark is (`ofFiles_recognizes`).
-/
import ExtendedFormat.Environment
import ExtendedFormat.Proofs.Text.Utf16

namespace ExtendedFormat

set_option autoImplicit false

/-! ## Units as bytes -/

namespace Utf16

/-- The two bytes of a unit. -/
def ByteOrder.bytes : ByteOrder → UInt16 → Bytes
  | .littleEndian, u => [(u.toNat % 0x100).toUInt8, (u.toNat / 0x100).toUInt8]
  | .bigEndian, u => [(u.toNat / 0x100).toUInt8, (u.toNat % 0x100).toUInt8]

theorem ByteOrder.split_bytes_append (order : ByteOrder) (u : UInt16) (rest : Bytes) :
    split order (order.bytes u ++ rest) = (u :: (split order rest).1, (split order rest).2) := by
  have below := u.toNat_lt
  have low := (Utf8.eq_byte_iff (n := u.toNat % 0x100) (by omega)).mp rfl
  have high := (Utf8.eq_byte_iff (n := u.toNat / 0x100) (by omega)).mp rfl
  cases order with
  | littleEndian =>
    have whole : u = ByteOrder.littleEndian.unit (u.toNat % 0x100).toUInt8
        (u.toNat / 0x100).toUInt8 := by
      rw [ByteOrder.unit, eq_unit_iff (by omega)]
      omega
    rw [ByteOrder.bytes, List.cons_append, List.singleton_append, split, ← whole]
  | bigEndian =>
    have whole : u = ByteOrder.bigEndian.unit (u.toNat / 0x100).toUInt8
        (u.toNat % 0x100).toUInt8 := by
      rw [ByteOrder.unit, eq_unit_iff (by omega)]
      omega
    rw [ByteOrder.bytes, List.cons_append, List.singleton_append, split, ← whole]

/-- Written units are found again, and no byte is left over. -/
theorem split_flatMap_bytes (order : ByteOrder) (us : List UInt16) :
    split order (us.flatMap order.bytes) = (us, false) := by
  induction us with
  | nil => rfl
  | cons u us ih => rw [List.flatMap_cons, order.split_bytes_append, ih]

theorem decodeBytes_units (order : ByteOrder) {t : Text} (scalar : t.IsScalar) :
    decodeBytes order ((units t).flatMap order.bytes) = t := by
  rw [decodeBytes, split_flatMap_bytes]
  exact decode_units scalar

end Utf16

namespace Utf8

/-- The text of bytes that begin with the mark begins with U+FEFF. -/
theorem head?_of_encode_eq_mark {t : Text} (scalar : t.IsScalar) {rest : Bytes}
    (written : encode t = 0xEF :: 0xBB :: 0xBF :: rest) :
    t.head? = some CodePoint.byteOrderMark := by
  have reads : Reads CodePoint.byteOrderMark (0xEF :: 0xBB :: 0xBF :: rest) rest :=
    reads_encodeScalar (by decide) rest
  have found := items_encode scalar
  rw [written, items_of_reads reads] at found
  cases t with
  | nil => cases found
  | cons c t => exact (List.cons.inj found).1.symm

/-- A byte that announces nothing is not the first of a text. -/
theorem encode_ne_cons_of_lead {t : Text} (scalar : t.IsScalar) {b : UInt8}
    (none : Lead.ofByte? b = none) (rest : Bytes) : encode t ≠ b :: rest := by
  intro written
  have found := items_encode scalar
  rw [written, items, none] at found
  cases t with
  | nil => cases found
  | cons c t => cases (List.cons.inj found).1

end Utf8

namespace FileText

theorem dropMark_of_head {t : Text} (unmarked : t.head? ≠ some CodePoint.byteOrderMark) :
    dropMark t = t := by
  cases t with
  | nil => rfl
  | cons c t => exact if_neg fun mark => unmarked (congrArg some mark)

/-! ## Four encodings -/

/-- What a text in a file is written in; UTF-16 always with its mark. -/
inductive Encoding where
  | utf8
  | utf8Marked
  | utf16 (order : Utf16.ByteOrder)
deriving DecidableEq

namespace Encoding

def mark : Encoding → Bytes
  | .utf8 => []
  | .utf8Marked => [0xEF, 0xBB, 0xBF]
  | .utf16 .littleEndian => [0xFF, 0xFE]
  | .utf16 .bigEndian => [0xFE, 0xFF]

/-- The bytes of a file that holds the text. -/
def write (e : Encoding) (t : Text) : Bytes :=
  e.mark ++ match e with
    | .utf8 | .utf8Marked => Utf8.encode t
    | .utf16 order => (Utf16.units t).flatMap order.bytes

/-- The codec that reads what is written. -/
def codec : Encoding → Codec
  | .utf8 => .utf8
  | .utf8Marked => .utf8Marked
  | .utf16 _ => .utf16

/-- The codec drops the mark of its encoding, and nothing else. -/
theorem decode_write (e : Encoding) {t : Text} (scalar : t.IsScalar) :
    e.codec.decode (e.write t) = t := by
  match e with
  | .utf8 => exact Utf8.decode_encode scalar
  | .utf8Marked => exact Utf8.decode_encode scalar
  | .utf16 .littleEndian => exact Utf16.decodeBytes_units .littleEndian scalar
  | .utf16 .bigEndian => exact Utf16.decodeBytes_units .bigEndian scalar

end Encoding

/-- Text in UTF-8 does not look as if it were marked. -/
theorem guess_encode {t : Text} (scalar : t.IsScalar)
    (unmarked : t.head? ≠ some CodePoint.byteOrderMark) : guess (Utf8.encode t) = .utf8 := by
  unfold guess
  split
  · rename_i written
    exact absurd (Utf8.head?_of_encode_eq_mark scalar written) unmarked
  · rename_i written
    exact absurd written (Utf8.encode_ne_cons_of_lead scalar (by decide) _)
  · rename_i written
    exact absurd written (Utf8.encode_ne_cons_of_lead scalar (by decide) _)
  · rfl

namespace Encoding

variable {t : Text}

/-- The codec is right for the text in this encoding.  UTF-8 of a text in ASCII is ASCII, too. -/
inductive Names (t : Text) : Encoding → Codec → Prop
  | own (e : Encoding) : Names t e e.codec
  | ascii (plain : ∀ c ∈ t, c.val < 0x80) : Names t .utf8 .ascii

theorem decode_ascii (plain : ∀ c ∈ t, c.val < 0x80) :
    Codec.ascii.decode (Utf8.encode t) = t := by
  induction t with
  | nil => rfl
  | cons c t ih =>
    obtain ⟨here, others⟩ := List.forall_mem_cons.mp plain
    have scalar := CodePoint.isSurrogate_of_ascii here
    have byte := (Utf8.eq_byte_iff (n := c.val) (by omega)).mp rfl
    have same : CodePoint.ofByte c.val.toUInt8 = c :=
      (CodePoint.ofNat_eq_iff (by omega)).mpr byte.symm
    rw [Utf8.encode_cons scalar, Utf8.encodeScalar_one here byte, List.singleton_append,
      Codec.decode, List.map_cons, if_pos (by omega), same]
    exact congrArg (c :: ·) (ih others)

theorem Names.decode_write {e : Encoding} {c : Codec} (names : e.Names t c)
    (scalar : t.IsScalar) : c.decode (e.write t) = t := by
  cases names with
  | own => exact e.decode_write scalar
  | ascii plain => exact decode_ascii plain

/-- The mark tells the codec. -/
theorem names_guess (e : Encoding) (scalar : t.IsScalar)
    (unmarked : t.head? ≠ some CodePoint.byteOrderMark) : e.Names t (guess (e.write t)) := by
  match e with
  | .utf8 =>
    have right : guess (Encoding.utf8.write t) = .utf8 := guess_encode scalar unmarked
    rw [right]
    exact .own .utf8
  | .utf8Marked => exact .own .utf8Marked
  | .utf16 .littleEndian => exact .own (.utf16 .littleEndian)
  | .utf16 .bigEndian => exact .own (.utf16 .bigEndian)

end Encoding

end FileText

/-! ## The guess of an environment -/

namespace Environment

variable {env : Environment} {e : FileText.Encoding} {t : Text}

/-- The environment is right about the text in this encoding. -/
def Recognizes (env : Environment) (e : FileText.Encoding) (t : Text) : Prop :=
  ∃ c, env.charsetOf (e.write t) = .codec c ∧ e.Names t c

/-- With the right guess, a text comes back as it was written. -/
theorem textOf_write (right : env.Recognizes e t) (scalar : t.IsScalar)
    (unmarked : t.head? ≠ some CodePoint.byteOrderMark) : env.textOf (e.write t) = .ok t := by
  obtain ⟨c, guessed, names⟩ := right
  rw [textOf, guessed]
  dsimp only
  rw [names.decode_write scalar, FileText.dropMark_of_head unmarked]

/-- Going by the mark is right about every text that does not begin with U+FEFF. -/
theorem ofFiles_recognizes (files : Text → Except Failure Bytes) (e : FileText.Encoding)
    (scalar : t.IsScalar) (unmarked : t.head? ≠ some CodePoint.byteOrderMark) :
    (ofFiles files).Recognizes e t :=
  ⟨_, rfl, e.names_guess scalar unmarked⟩

end Environment

end ExtendedFormat
