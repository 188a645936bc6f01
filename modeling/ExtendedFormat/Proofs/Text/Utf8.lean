/-
# ExtendedFormat.Proofs.Text.Utf8 -- UTF-8, both ways

What the decoder reads as a code point is that code point as the encoder writes it, and never
half a surrogate pair (`Utf8.reads_iff`).  So decoding undoes encoding for every text
without surrogates (`Utf8.decode_encode`), and encoding undoes decoding for the bytes that are
well formed throughout, and for no others (`Utf8.encode_decode_iff`).
-/
import ExtendedFormat.Text.Utf8

namespace ExtendedFormat

set_option autoImplicit false

/-- The text holds no half of a surrogate pair. -/
def Text.IsScalar (t : Text) : Prop := ∀ c ∈ t, c.isSurrogate = false

namespace CodePoint

theorem isSurrogate_eq_false_iff {c : CodePoint} :
    c.isSurrogate = false ↔ c.val < 0xD800 ∨ 0xE000 ≤ c.val := by
  simp only [isSurrogate, decide_eq_false_iff_not]
  omega

theorem isSurrogate_of_ascii {c : CodePoint} (inAscii : c.val < 0x80) : c.isSurrogate = false :=
  isSurrogate_eq_false_iff.mpr (.inl (Nat.lt_trans inAscii (by decide)))

theorem ofNat_eq_iff {n : Nat} (small : n < 0x110000) {c : CodePoint} :
    ofNat n = c ↔ c.val = n := by
  rw [ofNat, dif_pos small]
  constructor
  · rintro rfl
    rfl
  · rintro rfl
    rfl

end CodePoint

namespace Utf8

/-! ## Bytes of one code point -/

theorem eq_byte_iff {b : UInt8} {n : Nat} (small : n < 0x100) : b = n.toUInt8 ↔ b.toNat = n := by
  rw [← UInt8.toNat_inj, Nat.toUInt8, UInt8.toNat_ofNat_of_lt' small]

/-- What a first byte announces, by the number of bytes that it owes. -/
theorem Lead.ofByte?_eq_some_iff {b : UInt8} {lead : Lead} :
    Lead.ofByte? b = some lead ↔
      (b.toNat < 0x80 ∧ lead = ⟨0, 0x80, 0xBF, b.toNat⟩) ∨
      ((0xC2 ≤ b.toNat ∧ b.toNat < 0xE0) ∧ lead = ⟨1, 0x80, 0xBF, b.toNat - 0xC0⟩) ∨
      ((0xE0 ≤ b.toNat ∧ b.toNat < 0xF0) ∧ lead =
        ⟨2, if b.toNat = 0xE0 then 0xA0 else 0x80, if b.toNat = 0xED then 0x9F else 0xBF,
          b.toNat - 0xE0⟩) ∨
      ((0xF0 ≤ b.toNat ∧ b.toNat < 0xF5) ∧ lead =
        ⟨3, if b.toNat = 0xF0 then 0x90 else 0x80, if b.toNat = 0xF4 then 0x8F else 0xBF,
          b.toNat - 0xF0⟩) := by
  simp only [ofByte?]
  grind

/-- One byte more of those that are owed. -/
theorem continuation_succ_eq_some_iff {low high owed value : Nat} {bs after : Bytes}
    {c : CodePoint} :
    continuation low high (owed + 1) value bs = (some c, after) ↔
      ∃ b rest, bs = b :: rest ∧ (low ≤ b.toNat ∧ b.toNat ≤ high) ∧
        continuation 0x80 0xBF owed (value * 0x40 + (b.toNat - 0x80)) rest = (some c, after) := by
  cases bs with
  | nil => simp [continuation]
  | cons b rest =>
    simp only [continuation]
    grind

theorem continuation_zero_eq_some_iff {low high value : Nat} (small : value < 0x110000)
    {bs after : Bytes} {c : CodePoint} :
    continuation low high 0 value bs = (some c, after) ↔ c.val = value ∧ bs = after := by
  rw [continuation, Prod.mk.injEq, Option.some_inj, CodePoint.ofNat_eq_iff small]

theorem encodeScalar_one {c : CodePoint} (range : c.val < 0x80) {a : UInt8}
    (first : a.toNat = c.val) : encodeScalar c = [a] := by
  rw [encodeScalar, if_pos range, (eq_byte_iff (by omega)).mpr first]

theorem encodeScalar_two {c : CodePoint} (range : 0x80 ≤ c.val ∧ c.val < 0x800) {a b : UInt8}
    (first : a.toNat = 0xC0 + c.val / 0x40) (second : b.toNat = 0x80 + c.val % 0x40) :
    encodeScalar c = [a, b] := by
  rw [encodeScalar, if_neg (by omega), if_pos range.2, (eq_byte_iff (by omega)).mpr first,
    (eq_byte_iff (by omega)).mpr second]

theorem encodeScalar_three {c : CodePoint} (range : 0x800 ≤ c.val ∧ c.val < 0x10000)
    {a b d : UInt8} (first : a.toNat = 0xE0 + c.val / 0x1000)
    (second : b.toNat = 0x80 + c.val / 0x40 % 0x40) (third : d.toNat = 0x80 + c.val % 0x40) :
    encodeScalar c = [a, b, d] := by
  rw [encodeScalar, if_neg (by omega), if_neg (by omega), if_pos range.2,
    (eq_byte_iff (by omega)).mpr first, (eq_byte_iff (by omega)).mpr second,
    (eq_byte_iff (by omega)).mpr third]

theorem encodeScalar_four {c : CodePoint} (range : 0x10000 ≤ c.val) {a b d e : UInt8}
    (first : a.toNat = 0xF0 + c.val / 0x40000) (second : b.toNat = 0x80 + c.val / 0x1000 % 0x40)
    (third : d.toNat = 0x80 + c.val / 0x40 % 0x40) (fourth : e.toNat = 0x80 + c.val % 0x40) :
    encodeScalar c = [a, b, d, e] := by
  have below := c.isLt
  rw [encodeScalar, if_neg (by omega), if_neg (by omega), if_neg (by omega),
    (eq_byte_iff (by omega)).mpr first, (eq_byte_iff (by omega)).mpr second,
    (eq_byte_iff (by omega)).mpr third, (eq_byte_iff (by omega)).mpr fourth]

/-- A byte of ASCII stands for nothing but itself. -/
theorem toNat_eq_of_mem_encodeScalar {c : CodePoint} {b : UInt8} (inAscii : b.toNat < 0x80)
    (mem : b ∈ encodeScalar c) : b.toNat = c.val := by
  have below := c.isLt
  rw [encodeScalar] at mem
  repeat' split at mem
  all_goals
    simp (disch := omega) only [List.mem_cons, List.not_mem_nil, or_false, eq_byte_iff] at mem
    omega

/-! ## Reading one code point -/

/-- The bytes begin with a code point that the decoder accepts, and `after` is what is left. -/
def Reads (c : CodePoint) (bs after : Bytes) : Prop :=
  ∃ b rest lead, bs = b :: rest ∧ Lead.ofByte? b = some lead ∧
    continuation lead.low lead.high lead.owed lead.share rest = (some c, after)

theorem encodeScalar_of_reads {c : CodePoint} {bs after : Bytes} (reads : Reads c bs after) :
    c.isSurrogate = false ∧ bs = encodeScalar c ++ after := by
  obtain ⟨b₀, rest, lead, rfl, announced, found⟩ := reads
  rw [CodePoint.isSurrogate_eq_false_iff]
  rcases Lead.ofByte?_eq_some_iff.mp announced with
    ⟨range, rfl⟩ | ⟨range, rfl⟩ | ⟨range, rfl⟩ | ⟨range, rfl⟩ <;>
    dsimp only at found
  · obtain ⟨value, rfl⟩ := (continuation_zero_eq_some_iff (by omega)).mp found
    exact ⟨by omega, by rw [encodeScalar_one (by omega) value.symm]; rfl⟩
  · obtain ⟨b₁, rest, rfl, fits₁, found⟩ := continuation_succ_eq_some_iff.mp found
    obtain ⟨value, rfl⟩ := (continuation_zero_eq_some_iff (by omega)).mp found
    refine ⟨by omega, ?_⟩
    rw [@encodeScalar_two c (by omega) b₀ b₁ (by omega) (by omega)]
    rfl
  · obtain ⟨b₁, rest, rfl, fits₁, found⟩ := continuation_succ_eq_some_iff.mp found
    obtain ⟨b₂, rest, rfl, fits₂, found⟩ := continuation_succ_eq_some_iff.mp found
    have second : 0x80 ≤ b₁.toNat ∧ b₁.toNat ≤ 0xBF ∧ (b₀.toNat = 0xE0 → 0xA0 ≤ b₁.toNat) ∧
        (b₀.toNat = 0xED → b₁.toNat ≤ 0x9F) := by grind
    obtain ⟨value, rfl⟩ := (continuation_zero_eq_some_iff (by omega)).mp found
    refine ⟨by omega, ?_⟩
    rw [@encodeScalar_three c (by omega) b₀ b₁ b₂ (by omega) (by omega) (by omega)]
    rfl
  · obtain ⟨b₁, rest, rfl, fits₁, found⟩ := continuation_succ_eq_some_iff.mp found
    obtain ⟨b₂, rest, rfl, fits₂, found⟩ := continuation_succ_eq_some_iff.mp found
    obtain ⟨b₃, rest, rfl, fits₃, found⟩ := continuation_succ_eq_some_iff.mp found
    have second : 0x80 ≤ b₁.toNat ∧ b₁.toNat ≤ 0xBF ∧ (b₀.toNat = 0xF0 → 0x90 ≤ b₁.toNat) ∧
        (b₀.toNat = 0xF4 → b₁.toNat ≤ 0x8F) := by grind
    obtain ⟨value, rfl⟩ := (continuation_zero_eq_some_iff (by omega)).mp found
    refine ⟨by omega, ?_⟩
    rw [@encodeScalar_four c (by omega) b₀ b₁ b₂ b₃ (by omega) (by omega) (by omega) (by omega)]
    rfl

theorem reads_encodeScalar {c : CodePoint} (scalar : c.isSurrogate = false) (after : Bytes) :
    Reads c (encodeScalar c ++ after) after := by
  have below := c.isLt
  rw [CodePoint.isSurrogate_eq_false_iff] at scalar
  rw [encodeScalar]
  split
  · have first := (eq_byte_iff (n := c.val) (by omega)).mp rfl
    refine ⟨_, _, _, rfl, Lead.ofByte?_eq_some_iff.mpr (.inl ⟨by omega, rfl⟩), ?_⟩
    dsimp only
    exact (continuation_zero_eq_some_iff (by omega)).mpr ⟨first.symm, rfl⟩
  split
  · have first := (eq_byte_iff (n := 0xC0 + c.val / 0x40) (by omega)).mp rfl
    have second := (eq_byte_iff (n := 0x80 + c.val % 0x40) (by omega)).mp rfl
    refine ⟨_, _, _, rfl, Lead.ofByte?_eq_some_iff.mpr (.inr (.inl ⟨by omega, rfl⟩)), ?_⟩
    refine continuation_succ_eq_some_iff.mpr ⟨_, _, rfl, by dsimp only; omega, ?_⟩
    dsimp only
    exact (continuation_zero_eq_some_iff (by omega)).mpr ⟨by omega, rfl⟩
  split
  · have first := (eq_byte_iff (n := 0xE0 + c.val / 0x1000) (by omega)).mp rfl
    have second := (eq_byte_iff (n := 0x80 + c.val / 0x40 % 0x40) (by omega)).mp rfl
    have third := (eq_byte_iff (n := 0x80 + c.val % 0x40) (by omega)).mp rfl
    refine ⟨_, _, _, rfl,
      Lead.ofByte?_eq_some_iff.mpr (.inr (.inr (.inl ⟨by omega, rfl⟩))), ?_⟩
    refine continuation_succ_eq_some_iff.mpr ⟨_, _, rfl, by dsimp only; grind, ?_⟩
    refine continuation_succ_eq_some_iff.mpr ⟨_, _, rfl, by omega, ?_⟩
    dsimp only
    exact (continuation_zero_eq_some_iff (by omega)).mpr ⟨by omega, rfl⟩
  · have first := (eq_byte_iff (n := 0xF0 + c.val / 0x40000) (by omega)).mp rfl
    have second := (eq_byte_iff (n := 0x80 + c.val / 0x1000 % 0x40) (by omega)).mp rfl
    have third := (eq_byte_iff (n := 0x80 + c.val / 0x40 % 0x40) (by omega)).mp rfl
    have fourth := (eq_byte_iff (n := 0x80 + c.val % 0x40) (by omega)).mp rfl
    refine ⟨_, _, _, rfl,
      Lead.ofByte?_eq_some_iff.mpr (.inr (.inr (.inr ⟨by omega, rfl⟩))), ?_⟩
    refine continuation_succ_eq_some_iff.mpr ⟨_, _, rfl, by dsimp only; grind, ?_⟩
    refine continuation_succ_eq_some_iff.mpr ⟨_, _, rfl, by omega, ?_⟩
    refine continuation_succ_eq_some_iff.mpr ⟨_, _, rfl, by omega, ?_⟩
    dsimp only
    exact (continuation_zero_eq_some_iff (by omega)).mpr ⟨by omega, rfl⟩

theorem reads_iff {c : CodePoint} {bs after : Bytes} :
    Reads c bs after ↔ c.isSurrogate = false ∧ bs = encodeScalar c ++ after := by
  constructor
  · exact encodeScalar_of_reads
  · rintro ⟨scalar, rfl⟩
    exact reads_encodeScalar scalar after

/-! ## Decoding -/

theorem items_of_reads {c : CodePoint} {bs after : Bytes} (reads : Reads c bs after) :
    items bs = some c :: items after := by
  obtain ⟨b, rest, lead, rfl, announced, found⟩ := reads
  rw [items, announced]
  simp only [found]

/-- The decoder's first finding is a code point that it reads, or an ill-formed part. -/
theorem eq_some_of_items {bs : Bytes} {c : CodePoint} {found : List (Option CodePoint)}
    (parsed : items bs = some c :: found) : ∃ after, Reads c bs after ∧ found = items after := by
  cases bs with
  | nil => simp [items] at parsed
  | cons b rest =>
    rw [items] at parsed
    cases announced : Lead.ofByte? b with
    | none => simp [announced] at parsed
    | some lead =>
      simp only [announced, List.cons.injEq] at parsed
      exact ⟨_, ⟨b, rest, lead, rfl, announced, Prod.ext parsed.1 rfl⟩, parsed.2.symm⟩

theorem isSurrogate_of_mem_items {bs : Bytes} {c : CodePoint} (found : some c ∈ items bs) :
    c.isSurrogate = false := by
  fun_induction items bs with
  | case1 => cases found
  | case2 b rest announced ih => exact ih (by simpa using found)
  | case3 b rest lead announced read ih =>
    rcases List.mem_cons.mp found with here | later
    · have reads : Reads c (b :: rest) read.2 :=
        ⟨b, rest, lead, rfl, announced, Prod.ext here.symm rfl⟩
      exact (reads_iff.mp reads).1
    · exact ih later

@[simp] theorem encode_nil : encode [] = [] := rfl

theorem encode_cons {c : CodePoint} (scalar : c.isSurrogate = false) (t : Text) :
    encode (c :: t) = encodeScalar c ++ encode t := by
  rw [encode, List.flatMap_cons, scalar]
  rfl

theorem encode_append (t u : Text) : encode (t ++ u) = encode t ++ encode u := List.flatMap_append

theorem items_encode {t : Text} (scalar : t.IsScalar) : items (encode t) = t.map some := by
  induction t with
  | nil => rw [encode_nil, items, List.map_nil]
  | cons c t ih =>
    obtain ⟨first, others⟩ := List.forall_mem_cons.mp scalar
    rw [encode_cons first, items_of_reads (reads_encodeScalar first _), ih others, List.map_cons]

theorem decode_of_items {t : Text} {bs : Bytes} (parsed : items bs = t.map some) :
    decode bs = t := by
  rw [decode, parsed, List.map_map]
  exact List.map_id t

/-- Decoding undoes encoding. -/
theorem decode_encode {t : Text} (scalar : t.IsScalar) : decode (encode t) = t :=
  decode_of_items (items_encode scalar)

theorem encode_of_items {t : Text} {bs : Bytes} (parsed : items bs = t.map some) :
    encode t = bs := by
  induction t generalizing bs with
  | nil =>
    cases bs with
    | nil => rfl
    | cons b rest =>
      rw [items] at parsed
      split at parsed <;> simp at parsed
  | cons c t ih =>
    obtain ⟨after, reads, others⟩ := eq_some_of_items parsed
    obtain ⟨scalar, rfl⟩ := reads_iff.mp reads
    rw [encode_cons scalar, ih others.symm]

theorem decode?_eq_some_iff {bs : Bytes} {t : Text} :
    decode? bs = some t ↔ items bs = t.map some := by
  rw [decode?]
  generalize items bs = found
  induction found generalizing t with
  | nil => cases t <;> simp
  | cons i found ih => cases t <;> simp [List.mapM_cons, ih, Option.bind_eq_some_iff]

/-- Decoded text can be encoded again. -/
theorem decode_isScalar (bs : Bytes) : (decode bs).IsScalar := by
  intro c found
  obtain ⟨i, mem, rfl⟩ := List.mem_map.mp found
  cases i with
  | none => decide
  | some c => exact isSurrogate_of_mem_items mem

/-- **Encoding undoes decoding for the bytes that are well formed throughout**, and for no
others. -/
theorem encode_decode_iff {bs : Bytes} : encode (decode bs) = bs ↔ (decode? bs).isSome := by
  constructor
  · intro same
    have parsed := items_encode (decode_isScalar bs)
    rw [same] at parsed
    rw [decode?_eq_some_iff.mpr parsed]
    rfl
  · intro wellFormed
    obtain ⟨t, parsed⟩ := Option.isSome_iff_exists.mp wellFormed
    have parsed := decode?_eq_some_iff.mp parsed
    rw [decode_of_items parsed, encode_of_items parsed]

end Utf8

end ExtendedFormat
