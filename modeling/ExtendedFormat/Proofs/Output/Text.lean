/-
# ExtendedFormat.Proofs.Output.Text -- text, from the argument to the result

A directive takes a text as UTF-8 bytes or as UTF-16 code units, and what was printed is
decoded at the end.  Both ways give back the text, as far as it holds no half of a
surrogate pair.  A terminated string is cut before its first zero; as no other
character has a zero in either encoding, that is before its first NUL.
-/
import ExtendedFormat.Proofs.Directive.Field
import ExtendedFormat.Proofs.Output.Run
import ExtendedFormat.Proofs.Template.RoundTrip
import ExtendedFormat.Proofs.Text.Utf16

namespace ExtendedFormat

set_option autoImplicit false

/-! ## Text in its encodings -/

theorem Text.exactBytes_of_isScalar {t : Text} (scalar : t.IsScalar) :
    t.exactBytes = .ok (Utf8.encode t) := by
  refine exactBytes_eq_ok_iff.mpr ⟨List.any_eq_false.mpr fun c mem => ?_, ?_⟩
  · rw [scalar c mem]
    exact Bool.false_ne_true
  · rw [Utf8.encode, List.flatMap_def, List.flatMap_def]
    refine congrArg List.flatten (List.map_congr_left fun c mem => ?_)
    rw [scalar c mem]
    rfl

theorem Callbacks.transcoded_units {cb : Callbacks} (builtIn : cb.transcode = none) {t : Text}
    (scalar : t.IsScalar) : cb.transcoded (Utf16.units t) = .ok (Utf8.encode t) := by
  rw [transcoded, builtIn]
  simp only [defaultTranscode, Utf16.decode_units scalar]

/-! ## Before the first NUL -/

/-- The text before its first NUL. -/
def Text.beforeNul (t : Text) : Text := t.takeWhile fun c => c.val != 0

theorem Text.IsScalar.beforeNul {t : Text} (scalar : t.IsScalar) : t.beforeNul.IsScalar :=
  fun c mem => scalar c ((List.takeWhile_prefix _).subset mem)

/-- Where elements are written one behind the other, a cut before the first element that
stops is a cut before the first symbol that stops. -/
theorem takeWhile_flatMap {α β : Type} {write : α → List β} {p : α → Bool} {q : β → Bool}
    (passes : ∀ a, p a = true → ∀ b ∈ write a, q b = true)
    (stops : ∀ a, p a = false → ∃ b more, write a = b :: more ∧ q b = false) (xs : List α) :
    (xs.flatMap write).takeWhile q = (xs.takeWhile p).flatMap write := by
  induction xs with
  | nil => rfl
  | cons a xs ih =>
    cases first : p a with
    | true =>
      rw [List.flatMap_cons, List.takeWhile_append_of_pos (passes a first), ih,
        List.takeWhile_cons_of_pos first, List.flatMap_cons]
    | false =>
      obtain ⟨b, more, written, stopped⟩ := stops a first
      rw [List.flatMap_cons, written, List.cons_append,
        List.takeWhile_cons_of_neg (by rw [stopped]; exact Bool.false_ne_true),
        List.takeWhile_cons_of_neg (by rw [first]; exact Bool.false_ne_true), List.flatMap_nil]

theorem Accept.beforeZero_encode (t : Text) :
    beforeZero (Utf8.encode t) = Utf8.encode t.beforeNul := by
  refine takeWhile_flatMap ?_ ?_ t
  · intro c nonzero b mem
    rw [bne_iff_ne] at nonzero ⊢
    rintro rfl
    split at mem
    · exact absurd mem (by decide)
    · exact nonzero (Utf8.toNat_eq_of_mem_encodeScalar (by decide) mem).symm
  · intro c isZero
    obtain ⟨n, below⟩ := c
    obtain rfl : n = 0 := by simpa using isZero
    exact ⟨0, [], rfl, rfl⟩

theorem Accept.beforeZero_units (t : Text) :
    beforeZero (Utf16.units t) = Utf16.units t.beforeNul := by
  refine takeWhile_flatMap ?_ ?_ t
  · intro c nonzero u mem
    rw [bne_iff_ne] at nonzero ⊢
    rintro rfl
    exact nonzero (Utf16.toNat_eq_of_mem_unitsOf (by decide) mem).symm
  · intro c isZero
    obtain ⟨n, below⟩ := c
    obtain rfl : n = 0 := by simpa using isZero
    exact ⟨0, [], rfl, rfl⟩

/-! ## Percent signs -/

/-- Every percent sign doubled. -/
def Text.doubled (t : Text) : Text := t.flatMap fun c => if c.val = 0x25 then [c, c] else [c]

theorem Text.IsScalar.doubled {t : Text} (scalar : t.IsScalar) : t.doubled.IsScalar := by
  intro c mem
  obtain ⟨c', inside, here⟩ := List.mem_flatMap.mp mem
  have same : c = c' := by
    split at here <;> simpa using here
  exact same ▸ scalar c' inside

theorem Template.double_of_not_mem {bs : Bytes} (absent : percentSign ∉ bs) : double bs = bs := by
  rw [double, List.flatMap_def]
  have alone (b : UInt8) (mem : b ∈ bs) : (if b = percentSign then [b, b] else [b]) = [b] :=
    if_neg (by rintro rfl; exact absent mem)
  rw [List.map_congr_left alone]
  exact List.flatMap_singleton' bs

theorem Template.double_encodeScalar (c : CodePoint) :
    double (Utf8.encodeScalar c) =
      if c.val = 0x25 then Utf8.encodeScalar c ++ Utf8.encodeScalar c
      else Utf8.encodeScalar c := by
  split
  · rename_i sign
    obtain ⟨n, below⟩ := c
    obtain rfl : n = 0x25 := sign
    rfl
  · rename_i plain
    exact double_of_not_mem fun mem =>
      plain (Utf8.toNat_eq_of_mem_encodeScalar (by decide) mem).symm

theorem Utf8.encode_doubled {t : Text} (scalar : t.IsScalar) :
    encode t.doubled = Template.double (encode t) := by
  induction t with
  | nil => rfl
  | cons c t ih =>
    obtain ⟨first, others⟩ := List.forall_mem_cons.mp scalar
    have step : Text.doubled (c :: t) = (if c.val = 0x25 then [c, c] else [c]) ++ Text.doubled t :=
      List.flatMap_cons
    rw [step, encode_append, ih others, encode_cons first, Template.double_append,
      Template.double_encodeScalar]
    split
    · rw [encode_cons first, encode_cons first, encode_nil, List.append_nil]
    · rw [encode_cons first, encode_nil, List.append_nil]

/-! ## What a call gives -/

section Calls

variable {cb : Callbacks} {how : Reading}

theorem format_of_parse {format : Text} {bs : Bytes} {pieces : Template}
    (exact : format.exactBytes = .ok bs)
    (parsed : Template.parse how.dialect how.mode bs = .ok pieces) {args : List Value}
    (done : (pieces.run cb args).failure = none) :
    ExtendedFormat.format cb how (.text format) args =
      .ok (Utf8.decode (pieces.run cb args).bytes) := by
  have read : Template.ofValue how.dialect how.mode (.text format) = .ok pieces := by
    rw [Template.ofValue, Template.formatBytes, exact]
    exact parsed
  rw [ExtendedFormat.format, read]
  simp only [Except.bind, Template.runToText, Template.runInto, done]
  rw [Sink.toText, Sink.contents_appendAll]
  rfl

/-- A format that is one directive. -/
theorem format_directive {word : Text} {tail : Bytes} {spec : Specification}
    (spelled : word.exactBytes = .ok (percentSign :: tail))
    (scanned : scan how.dialect tail = .complete spec []) {args : List Value} {bs : Bytes}
    (prints : (Directive.field cb ⟨spec, 0, percentSign :: tail⟩ (Cursor.start args)).1 = .ok bs) :
    format cb how (.text word) args = .ok (Utf8.decode bs) := by
  have parsed : Template.parse how.dialect how.mode (percentSign :: tail) =
      .ok [.directive ⟨spec, 0, percentSign :: tail⟩] := by
    rw [Template.parse, Template.parseFrom_sign, scanned]
    simp only [List.length_nil, Nat.sub_zero, List.take_length, Template.parseFrom_nil]
    rfl
  have ran : Template.run cb [.directive ⟨spec, 0, percentSign :: tail⟩] args =
      ⟨[bs], none⟩ := by
    rw [Template.run, Template.runFrom_directive, prints]
    rfl
  rw [format_of_parse spelled parsed (by rw [ran]), ran]
  simp only [Run.bytes, List.flatten_cons, List.flatten_nil, List.append_nil]

theorem format_doubled {t : Text} (scalar : t.IsScalar) (args : List Value) :
    format cb how (.text t.doubled) args = .ok t := by
  have exact : t.doubled.exactBytes = .ok (Template.double (Utf8.encode t)) := by
    rw [Text.exactBytes_of_isScalar scalar.doubled, Utf8.encode_doubled scalar]
  by_cases nothing : Utf8.encode t = []
  · rw [nothing] at exact
    rw [format_of_parse exact Template.parseFrom_nil rfl]
    have empty := Utf8.decode_encode scalar
    rw [nothing] at empty
    exact congrArg Except.ok empty
  · have reads : Template.Reads how.dialect 0 (Template.double (Utf8.encode t) ++ []) _ :=
      (Template.Reads.nil _).double_append nothing
    rw [List.append_nil] at reads
    rw [format_of_parse exact (reads.parseFrom_eq how.mode) rfl]
    have printed : (Template.run cb [.literal (Utf8.encode t)] args).bytes = Utf8.encode t :=
      List.append_nil _
    exact congrArg Except.ok ((congrArg Utf8.decode printed).trans (Utf8.decode_encode scalar))

end Calls

/-! ## Fields -/

section Fields

variable {cb : Callbacks} {d : Directive} {c : Cursor} {t : Text}

theorem Render.reading_of_accepted {α : Type} {accept : Accept α} {v : Value} {a : α}
    (next : c.next? = some v) (accepted : accept v = .ok a) (render : α → Except Failure Bytes) :
    (Render.reading (c.read accept d) render).1 = render a := by
  rw [Render.reading_of_next next, accepted]

/-- What a directive prints for the text, quoted and filled as it says. -/
def Directive.shownText (d : Directive) (t : Text) : Bytes :=
  pad d.width d.fill (Render.quotedIf d.kFlag (Utf8.encode t))

theorem Render.wideText_units (builtIn : cb.transcode = none) (scalar : t.IsScalar) (k : Bool) :
    Render.wideText cb k (Utf16.units t) = .ok (quotedIf k (Utf8.encode t)) := by
  rw [wideText, Callbacks.transcoded_units builtIn scalar]
  rfl

theorem Directive.field_view (builtIn : cb.transcode = none) (scalar : t.IsScalar)
    (conversion : d.conversion = .standard .view) (next : c.next? = some (.text t)) :
    (d.field cb c).1 = .ok (d.shownText t) := by
  have content : (d.content cb c).1 = .ok (Render.quotedIf d.kFlag (Utf8.encode t)) := by
    simp only [Directive.content, conversion, Render.string]
    split
    · rw [Render.reading_of_accepted next (a := some (Utf16.units t)) rfl]
      exact Render.wideText_units builtIn scalar d.kFlag
    · rw [Render.reading_of_accepted next (a := some (Utf8.encode t)) rfl]
      rfl
  rw [Directive.field_eq, content]
  rfl

theorem Directive.field_string (builtIn : cb.transcode = none) (scalar : t.IsScalar)
    (conversion : d.conversion = .standard .string ∨ d.conversion = .standard .wideString)
    (next : c.next? = some (.text t)) : (d.field cb c).1 = .ok (d.shownText t.beforeNul) := by
  have content : (d.content cb c).1 = .ok (Render.quotedIf d.kFlag (Utf8.encode t.beforeNul)) := by
    have string : d.content cb c = Render.string cb d .terminated c := by
      rcases conversion with conversion | conversion <;>
        simp only [Directive.content, conversion]
    rw [string, Render.string]
    split
    · rw [Render.reading_of_accepted next (a := some (Utf16.units t.beforeNul))
        (congrArg (Except.ok ∘ some) (Accept.beforeZero_units t))]
      exact Render.wideText_units builtIn scalar.beforeNul d.kFlag
    · rw [Render.reading_of_accepted next (a := some (Utf8.encode t.beforeNul))
        (congrArg (Except.ok ∘ some) (Accept.beforeZero_encode t))]
      rfl
  rw [Directive.field_eq, content]
  rfl

theorem Directive.field_char (builtIn : cb.transcode = none) {x : CodePoint}
    (scalar : Text.IsScalar [x])
    (conversion : d.conversion = .standard .char ∨ d.conversion = .standard .wideChar)
    (next : c.next? = some (.text [x])) : (d.field cb c).1 = .ok (d.shownText [x]) := by
  have content : (d.content cb c).1 = .ok (Render.quotedIf d.kFlag (Utf8.encode [x])) := by
    rw [Directive.content_char conversion, Render.char]
    split
    · rw [Render.reading_of_accepted next (a := Utf16.units [x]) rfl]
      exact Render.wideText_units builtIn scalar d.kFlag
    · rw [Render.reading_of_accepted next (a := Utf8.encode [x]) rfl]
  rw [Directive.field_eq, content]
  rfl

end Fields

/-! ## The whole way -/

/-- A directive that has no more than a letter and a length, and prints a text. -/
theorem format_plain {cb : Callbacks} {how : Reading} {word : String} {l : Letter}
    {length : Option Length} (tail : Bytes)
    (spelled : (Text.ofString word).exactBytes = .ok (percentSign :: tail))
    (scanned : scan how.dialect tail =
      .complete ⟨.standard l, false, length, false, false, 0⟩ [])
    {args : List Value} {t : Text} (scalar : t.IsScalar)
    (prints : ∀ d : Directive, d.conversion = .standard l →
      (d.field cb (Cursor.start args)).1 = .ok (d.shownText t)) :
    format cb how (.text (Text.ofString word)) args = .ok t := by
  rw [format_directive spelled scanned (prints _ rfl), Directive.shownText, pad_zero]
  exact congrArg Except.ok (Utf8.decode_encode scalar)

/-- **Text passes through unchanged.**  Whatever text is printed, as the literal part of a
format or for one of the directives that take a text, comes back as it was, in both dialects
and modes; a terminated string comes back as far as its first NUL. -/
theorem text_passes_through {cb : Callbacks} (builtIn : cb.transcode = none) {t : Text}
    (scalar : t.IsScalar) (how : Reading) (args : List Value) :
    format cb how (.text t.doubled) args = .ok t ∧
      (∀ word ∈ ["%v", "%lv"],
        format cb how (.text (Text.ofString word)) (.text t :: args) = .ok t) ∧
      (∀ word ∈ ["%s", "%S", "%ls"],
        format cb how (.text (Text.ofString word)) (.text t :: args) = .ok t.beforeNul) ∧
      (t.length = 1 → ∀ word ∈ ["%c", "%C", "%lc"],
        format cb how (.text (Text.ofString word)) (.text t :: args) = .ok t) := by
  have next : (Cursor.start (.text t :: args)).next? = some (.text t) := rfl
  refine ⟨format_doubled scalar args, ?_, ?_, ?_⟩
  · have prints (d : Directive) (conversion : d.conversion = .standard .view) :=
      Directive.field_view (d := d) builtIn scalar conversion next
    simp only [List.forall_mem_cons, List.not_mem_nil, false_implies, implies_true, and_true]
    refine ⟨?_, ?_⟩
    · exact format_plain (ascii ['v']) rfl (by cases how.dialect <;> rfl) scalar prints
    · exact format_plain (ascii ['l', 'v']) rfl (by cases how.dialect <;> rfl) scalar
        prints
  · have prints (d : Directive)
        (conversion : d.conversion = .standard .string ∨ d.conversion = .standard .wideString) :=
      Directive.field_string (d := d) builtIn scalar conversion next
    simp only [List.forall_mem_cons, List.not_mem_nil, false_implies, implies_true, and_true]
    refine ⟨?_, ?_, ?_⟩
    · exact format_plain (ascii ['s']) rfl (by cases how.dialect <;> rfl)
        scalar.beforeNul fun d conversion => prints d (.inl conversion)
    · exact format_plain (ascii ['S']) rfl (by cases how.dialect <;> rfl)
        scalar.beforeNul fun d conversion => prints d (.inr conversion)
    · exact format_plain (ascii ['l', 's']) rfl (by cases how.dialect <;> rfl)
        scalar.beforeNul fun d conversion => prints d (.inl conversion)
  · intro single
    obtain ⟨x, rfl⟩ := List.length_eq_one_iff.mp single
    have prints (d : Directive)
        (conversion : d.conversion = .standard .char ∨ d.conversion = .standard .wideChar) :=
      Directive.field_char (d := d) builtIn scalar conversion next
    simp only [List.forall_mem_cons, List.not_mem_nil, false_implies, implies_true, and_true]
    refine ⟨?_, ?_, ?_⟩
    · exact format_plain (ascii ['c']) rfl (by cases how.dialect <;> rfl)
        scalar fun d conversion => prints d (.inl conversion)
    · exact format_plain (ascii ['C']) rfl (by cases how.dialect <;> rfl)
        scalar fun d conversion => prints d (.inr conversion)
    · exact format_plain (ascii ['l', 'c']) rfl (by cases how.dialect <;> rfl)
        scalar fun d conversion => prints d (.inl conversion)

/-- A percent sign, a character outside the basic plane and a NUL. -/
theorem text_passes_through_astral :
    Callbacks.unset.transcode = none ∧
      Text.IsScalar [⟨0x25, by decide⟩, ⟨0x1F600, by decide⟩, ⟨0, by decide⟩, ⟨0xE9, by decide⟩] ∧
      Text.IsScalar [⟨0x10FFFF, by decide⟩] ∧
      format .unset ⟨.legacy, .strict⟩
        (.text [⟨0x25, by decide⟩, ⟨0x25, by decide⟩, ⟨0x1F600, by decide⟩, ⟨0, by decide⟩,
          ⟨0xE9, by decide⟩]) [] =
        .ok [⟨0x25, by decide⟩, ⟨0x1F600, by decide⟩, ⟨0, by decide⟩, ⟨0xE9, by decide⟩] ∧
      format .unset ⟨.modern, .compatible⟩ (.text (Text.ofString "%ls"))
        [.text [⟨0x25, by decide⟩, ⟨0x1F600, by decide⟩, ⟨0, by decide⟩, ⟨0xE9, by decide⟩]] =
        .ok [⟨0x25, by decide⟩, ⟨0x1F600, by decide⟩] ∧
      format .unset ⟨.modern, .strict⟩ (.text (Text.ofString "%C"))
        [.text [⟨0x10FFFF, by decide⟩]] = .ok [⟨0x10FFFF, by decide⟩] := by
  have scalar : Text.IsScalar
      [⟨0x25, by decide⟩, ⟨0x1F600, by decide⟩, ⟨0, by decide⟩, ⟨0xE9, by decide⟩] := by
    unfold Text.IsScalar
    decide
  have last : Text.IsScalar [⟨0x10FFFF, by decide⟩] := by
    unfold Text.IsScalar
    decide
  have builtIn : Callbacks.unset.transcode = none := rfl
  refine ⟨builtIn, scalar, last, ?_, ?_, ?_⟩
  · exact (text_passes_through builtIn scalar ⟨.legacy, .strict⟩ []).1
  · exact (text_passes_through builtIn scalar ⟨.modern, .compatible⟩ []).2.2.1 "%ls"
      (by simp)
  · exact (text_passes_through builtIn last ⟨.modern, .strict⟩ []).2.2.2 rfl "%C"
      (by simp)

end ExtendedFormat
