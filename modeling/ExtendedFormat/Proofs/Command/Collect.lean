/-
# ExtendedFormat.Proofs.Command.Collect -- format and arguments, wherever they come from

It does not matter where a text was put, as long as the environment is right about the files.  A
format file may be in any of the encodings (`format_file_encoding_transparent`), and arguments may
be moved from the end of the command line into an arguments file
(`arguments_file_same_as_operands`).
-/
import ExtendedFormat.Proofs.Command.Course
import ExtendedFormat.Proofs.Json.Arrays

namespace ExtendedFormat

set_option autoImplicit false

open Outcome

/-- The environment reads the texts as `Json.read` does, each alone and all in an array. -/
structure Environment.ReadsJson (env : Environment) (ts : List Text) : Prop where
  each : ∀ t ∈ ts, env.json t = Json.read t
  array : env.json (Json.arrayText ts) = Json.read (Json.arrayText ts)

/-! ## Texts as arguments -/

namespace Argument

variable {json : Text → Except JsonError Value}

theorem ofText_eq_error {t : Text} {f : Failure} (failed : ofText json t = .error f) :
    ∃ e, json t = .error e ∧ e ≠ .malformed ∧ f = e.failure := by
  unfold ofText at failed
  split at failed
  · cases failed
  · cases failed
  · rename_i e wellFormed read
    cases failed
    exact ⟨e, read, wellFormed, rfl⟩

/-- Texts that are JSON are arguments as the values that they hold are. -/
theorem mapM_ofText {ts : List Text} (reads : ∀ t ∈ ts, json t = Json.read t)
    (accepted : ∀ t ∈ ts, Json.IsText t) :
    (∃ vs, ts.mapM Json.read = .ok vs ∧ ts.mapM (ofText json) = .ok (vs.map ofJson)) ∨
      ∃ e, ts.mapM Json.read = .error e ∧ ts.mapM (ofText json) = .error e.failure := by
  induction ts with
  | nil => exact .inl ⟨[], rfl, rfl⟩
  | cons t ts ih =>
    obtain ⟨same, sameOthers⟩ := List.forall_mem_cons.mp reads
    obtain ⟨first, others⟩ := List.forall_mem_cons.mp accepted
    have wellFormed := first.accepted
    rw [List.mapM_cons, List.mapM_cons, ofText, same]
    cases read : Json.read t with
    | error e =>
      cases e with
      | malformed => exact absurd read wellFormed
      | numeralTooLong | nestedTooDeep => exact .inr ⟨_, rfl, rfl⟩
    | ok v =>
      rcases ih sameOthers others with ⟨vs, values, arguments⟩ | ⟨e, refused, refused'⟩
      · rw [values, arguments]
        exact .inl ⟨v :: vs, rfl, rfl⟩
      · rw [refused, refused']
        exact .inr ⟨e, rfl, rfl⟩

end Argument

namespace Command

open CommandLine

variable {o : Options} {env : Environment} {path : Text} {ts : List Text}

/-! ## Files -/

/-- What the operands and then the texts of the arguments file are. -/
theorem gather_arrayText (given : o.argsFile.nonempty? = some path)
    (json : ∀ t ∈ ts, Json.IsText t) (reads : env.ReadsJson ts)
    (holds : readText env path = .ok (Json.arrayText ts)) (typed : List Text) :
    gather o env typed = (typed ++ ts).mapM (Argument.ofText env.json) := by
  have value : env.json (Json.arrayText ts) = (ts.mapM Json.read).map Value.list :=
    reads.array.trans (Json.read_arrayText json)
  rw [gather, given, List.mapM_append]
  dsimp only
  rw [readJson, holds]
  cases typed.mapM (Argument.ofText env.json) with
  | error e => rfl
  | ok args =>
    rcases Argument.mapM_ofText reads.each json with
      ⟨vs, values, arguments⟩ | ⟨e, refused, refused'⟩
    · rw [values] at value
      rw [arguments]
      simp only [bind, Except.bind, value]
      rfl
    · rw [refused] at value
      rw [refused']
      simp only [bind, Except.bind, value]
      rfl

theorem gather_of_none (none : o.argsFile.nonempty? = none) (typed : List Text) :
    gather o env typed = typed.mapM (Argument.ofText env.json) := by
  rw [gather, none]
  exact bind_pure _

/-- An arguments file can be written in any encoding. -/
theorem readText_arrayText {e : FileText.Encoding} (right : env.Recognizes e (Json.arrayText ts))
    (scalar : ∀ t ∈ ts, t.IsScalar)
    (holds : env.files path = .ok (e.write (Json.arrayText ts))) :
    readText env path = .ok (Json.arrayText ts) := by
  have unmarked : (Json.arrayText ts).head? ≠ some CodePoint.byteOrderMark := by
    show some Json.openBracket ≠ some CodePoint.byteOrderMark
    decide
  refine readText_write right ?_ unmarked holds
  intro c member
  rcases List.mem_append.mp member with inside | last
  · rcases List.mem_cons.mp inside with rfl | inside
    · rfl
    · rcases Digits.mem_intercalate inside with separator | inside
      · rw [List.mem_singleton.mp separator]
        rfl
      · obtain ⟨t, among, inside⟩ := List.mem_flatten.mp inside
        exact scalar t among c inside
  · rw [List.mem_singleton.mp last]
    rfl

/-- A format operand is an argument in front of the others where it is not the format. -/
theorem collect_format_operand (elsewhere : isElsewhere o = true) (format : Text)
    (rest : List Text) :
    collect { o with format := some format, arguments := rest } env =
      collect { o with format := none, arguments := format :: rest } env := by
  have origin : source { o with format := some format, arguments := rest } env =
      source { o with format := none, arguments := format :: rest } env := by
    unfold isElsewhere at elsewhere
    unfold source
    cases file : o.formatFile.nonempty? with
    | some path => rfl
    | none =>
      rw [file, Option.isSome_none, Bool.false_or] at elsewhere
      obtain ⟨id, given⟩ := Option.isSome_iff_exists.mp elsewhere
      have same (format : Option Text) (rest : List Text) :
          resourceId? { o with format := format, arguments := rest } = some id := given
      rw [same, same]
  have typed (format : Option Text) (rest : List Text) :
      operands { o with format := format, arguments := rest } = format.toList ++ rest := by
    have same : isElsewhere { o with format := format, arguments := rest } = true := elsewhere
    rw [operands, if_pos same]
  rw [collect_eq, collect_eq, origin, typed, typed]
  rfl

/-- The last operands may be moved to an arguments file. -/
theorem collect_argsFile (o : Options) (front : List Text)
    (given : (Setting.value path).nonempty? = some path) (json : ∀ t ∈ ts, Json.IsText t)
    (reads : env.ReadsJson ts) (holds : readText env path = .ok (Json.arrayText ts)) :
    collect { o with arguments := front, argsFile := .value path } env =
      collect { o with arguments := front ++ ts, argsFile := .unset } env := by
  have moved (typed : List Text) :
      gather { o with arguments := front, argsFile := .value path } env (typed ++ front) =
        gather { o with arguments := front ++ ts, argsFile := .unset } env
          (typed ++ (front ++ ts)) := by
    rw [gather_arrayText given json reads holds, gather_of_none rfl, List.append_assoc]
  rw [collect_eq, collect_eq, operands, operands, moved]
  rfl

/-! ## Wherever they are -/

/-- **The encoding of a format file does not show.**  A text that does not begin with U+FEFF
comes out of its file as it was written, in UTF-8 with or without a mark and in UTF-16 of both
byte orders, in every environment that is right about this file; one that goes by the mark is.  So
the format is the text without one line feed at its end, and all else that is collected has nothing
to do with the encoding. -/
theorem format_file_encoding_transparent {t : Text} (scalar : t.IsScalar)
    (unmarked : t.head? ≠ some CodePoint.byteOrderMark) (e : FileText.Encoding) :
    (∀ env : Environment, env.Recognizes e t →
      env.textOf (e.write t) = .ok t ∧
      ∀ path, env.files path = .ok (e.write t) →
        readText env path = .ok t ∧
        ∀ o : Options, o.formatFile.nonempty? = some path →
          collect o env = (gather o env (o.format.toList ++ o.arguments)).map fun args =>
            some (.format (withoutLineEnd t), args)) ∧
    ∀ files, (Environment.ofFiles files).Recognizes e t := by
  refine ⟨fun env right => ?_, fun files => Environment.ofFiles_recognizes files e scalar unmarked⟩
  refine ⟨Environment.textOf_write right scalar unmarked, fun path holds => ?_⟩
  have read := readText_write right scalar unmarked holds
  refine ⟨read, fun o given => ?_⟩
  rw [collect_eq, source, operands, isElsewhere, given]
  dsimp only
  rw [read, if_pos (by rw [Option.isSome_some, Bool.true_or])]
  rfl

/-- A character outside the basic plane, U+FEFF behind it and two line feeds at the end, in
UTF-16 with the high bytes first. -/
theorem format_file_encoding_transparent_astral :
    let t : Text := [⟨0x1F600, by decide⟩, CodePoint.byteOrderMark, ⟨0x41, by decide⟩,
      ⟨0x0A, by decide⟩, ⟨0x0A, by decide⟩]
    let bytes : Bytes := [0xFE, 0xFF, 0xD8, 0x3D, 0xDE, 0x00, 0xFE, 0xFF, 0, 0x41, 0, 0x0A, 0, 0x0A]
    let o := { Options.initial with formatFile := .value (Text.ofString "f") }
    let env := Environment.ofFiles fun _ => .ok bytes
    t.IsScalar ∧ t.head? ≠ some CodePoint.byteOrderMark ∧
      (FileText.Encoding.utf16 .bigEndian).write t = bytes ∧
      env.charset bytes = some (.codec .utf16) ∧ env.textOf bytes = .ok t ∧
      collect o env = .ok (some (.format [⟨0x1F600, by decide⟩,
        CodePoint.byteOrderMark, ⟨0x41, by decide⟩, ⟨0x0A, by decide⟩], [])) := by
  intro t bytes o env
  have scalar : t.IsScalar := by
    unfold Text.IsScalar
    decide
  have written : (FileText.Encoding.utf16 .bigEndian).write t = bytes := by decide
  obtain ⟨held, right⟩ := format_file_encoding_transparent scalar (by decide) (.utf16 .bigEndian)
  obtain ⟨text, file⟩ := held env (right _)
  refine ⟨scalar, by decide, written, rfl, written ▸ text, ?_⟩
  exact (file _ (congrArg Except.ok written.symm)).2 o rfl

/-- **Arguments mean the same on the command line and in a file.**  Texts that are JSON may stand
as operands, or the last of them in the array of an arguments file in any encoding: the tool
collects the same, or fails alike.  It fails over none of them but those that the reader of JSON
gives up on; without one, the operands are the arguments one by one.  The format operand is the
first of them where the format comes from elsewhere. -/
theorem arguments_file_same_as_operands {o : Options} {env : Environment} {path : Text}
    (given : path ≠ []) {ts : List Text} (json : ∀ t ∈ ts, Json.IsText t)
    (scalar : ∀ t ∈ ts, t.IsScalar) (k : Nat) (e : FileText.Encoding)
    (holds : env.files path = .ok (e.write (Json.arrayText (ts.drop k))))
    (right : env.Recognizes e (Json.arrayText (ts.drop k))) (reads : env.ReadsJson (ts.drop k)) :
    let typed := { o with arguments := ts, argsFile := .unset }
    let split := { o with arguments := ts.take k, argsFile := .value path }
    collect split env = collect typed env ∧
    (∀ s, source o env = .ok (some s) →
      (∀ t ∈ operands typed, ∀ f, env.json t = .error f → f = .malformed) →
      ∃ args, (operands typed).mapM (Argument.ofText env.json) = .ok args ∧
        collect split env = .ok (some (s, args))) ∧
    (isElsewhere o = true → ∀ format,
      collect { split with format := some format } env =
        collect { typed with format := none, arguments := format :: ts } env) := by
  intro typed split
  have later : ∀ t ∈ ts.drop k, Json.IsText t :=
    fun t member => json t (List.mem_of_mem_drop member)
  have read := readText_arrayText right (fun t member => scalar t (List.mem_of_mem_drop member))
    holds
  have named : (Setting.value path).nonempty? = some path := by
    cases path with
    | nil => exact absurd rfl given
    | cons c rest => rfl
  have moved (o : Options) :
      collect { o with arguments := ts.take k, argsFile := .value path } env =
        collect { o with arguments := ts, argsFile := .unset } env := by
    have whole := collect_argsFile o (ts.take k) named later reads read
    rwa [List.take_append_drop] at whole
  refine ⟨moved o, fun s origin taken => ?_, fun elsewhere format => ?_⟩
  · cases arguments : (operands typed).mapM (Argument.ofText env.json) with
    | error f =>
      obtain ⟨t, member, failed⟩ := exists_of_mapM_error arguments
      obtain ⟨e, refused, wellFormed, -⟩ := Argument.ofText_eq_error failed
      exact absurd (taken t member e refused) wellFormed
    | ok args =>
      have same : source typed env = .ok (some s) := origin
      refine ⟨args, rfl, ?_⟩
      rw [moved o, collect_eq, same, gather_of_none rfl]
      exact congrArg (Except.map fun args => some (s, args)) arguments
  · exact (moved { o with format := some format }).trans
      (collect_format_operand (o := typed) elsewhere format ts)

/-- A double that is whole, a text between blanks and a list; the last two are in a file, and the
format is in another one. -/
theorem arguments_file_same_as_operands_list :
    let ts : List Text := [Text.ofString "4e1", Text.ofString " \"A\" ",
      Json.arrayText [Text.ofString "104", Text.ofString "null"]]
    let o := { Options.initial with
      format := some (Text.ofString "%d"), formatFile := .value (Text.ofString "f") }
    let env := Environment.ofFiles fun path =>
      if path = Text.ofString "f" then .ok (FileText.Encoding.utf8.write (Text.ofString "%u"))
      else .ok (FileText.Encoding.utf8Marked.write (Json.arrayText (ts.drop 1)))
    (∀ t ∈ ts, Json.IsText t) ∧ (∀ t ∈ ts, t.IsScalar) ∧
      env.Recognizes .utf8Marked (Json.arrayText (ts.drop 1)) ∧ env.ReadsJson (ts.drop 1) ∧
      collect { o with arguments := ts.take 1, argsFile := .value (Text.ofString "a") } env =
        .ok (some (.format (Text.ofString "%u"), [.text (Text.ofString "%d"), .int 40,
          .text (Text.ofString "A"), .list [.int 104, .null]])) := by
  intro ts o env
  have double : Json.read (Text.ofString "4e1") = .ok (.float (.ofDecimal false 4 1)) := by rfl
  have text : Json.read (Text.ofString " \"A\" ") = .ok (.text (Text.ofString "A")) := by rfl
  have int : Json.read (Text.ofString "104") = .ok (.int 104) := by rfl
  have null : Json.read (Text.ofString "null") = .ok .null := by rfl
  have inner : ∀ t ∈ [Text.ofString "104", Text.ofString "null"], Json.IsText t := by
    simp only [List.forall_mem_cons]
    exact ⟨⟨by decide, int ▸ nofun⟩, ⟨by decide, null ▸ nofun⟩, nofun⟩
  have list : Json.read (Json.arrayText [Text.ofString "104", Text.ofString "null"]) =
      .ok (.list [.int 104, .null]) := by
    rw [Json.read_arrayText inner, List.mapM_cons, int, List.mapM_cons, null]
    rfl
  have json : ∀ t ∈ ts, Json.IsText t := by
    simp only [ts, List.forall_mem_cons]
    exact ⟨⟨by decide, double ▸ nofun⟩, ⟨by decide, text ▸ nofun⟩, ⟨by decide, list ▸ nofun⟩,
      nofun⟩
  have scalar : ∀ t ∈ ts, t.IsScalar := by
    unfold Text.IsScalar
    decide
  have right : env.Recognizes .utf8Marked (Json.arrayText (ts.drop 1)) := ⟨_, rfl, .own .utf8Marked⟩
  have reads : env.ReadsJson (ts.drop 1) := ⟨fun _ _ => rfl, rfl⟩
  have other : Json.read (Text.ofString "%d") = .error .malformed := by rfl
  have whole : (Binary64.ofDecimal false 4 1).toInt? = some 40 := by decide +kernel
  have operands : (Text.ofString "%d" :: ts).mapM (Argument.ofText Json.read) =
      .ok [.text (Text.ofString "%d"), .int 40, .text (Text.ofString "A"),
        .list [.int 104, .null]] := by
    simp only [ts, List.mapM_cons, List.mapM_nil, Argument.ofText, other, double, text, list,
      Argument.ofJson, whole]
    rfl
  have taken : ∀ t ∈ Text.ofString "%d" :: ts, ∀ f, Json.read t = .error f → f = .malformed := by
    simp only [ts, List.forall_mem_cons, other, double, text, list]
    exact ⟨fun _ same => (Except.error.inj same).symm, nofun, nofun, nofun, nofun⟩
  obtain ⟨-, collected, -⟩ := @arguments_file_same_as_operands o env
    (Text.ofString "a") (by decide) ts json scalar 1 .utf8Marked rfl right reads
  have format : readText env (Text.ofString "f") = .ok (Text.ofString "%u") := by
    refine readText_write (e := .utf8) ⟨_, rfl, .own .utf8⟩ ?_ (by decide) rfl
    unfold Text.IsScalar
    decide
  have origin : source o env = .ok (some (.format (Text.ofString "%u"))) := by
    have file : o.formatFile.nonempty? = some (Text.ofString "f") := by rfl
    rw [source, file]
    dsimp only
    rw [format]
    rfl
  obtain ⟨args, arguments, all⟩ := collected (.format (Text.ofString "%u")) origin taken
  rw [Except.ok.inj (operands.symm.trans arguments)]
  exact ⟨json, scalar, right, reads, all⟩

end Command

end ExtendedFormat
