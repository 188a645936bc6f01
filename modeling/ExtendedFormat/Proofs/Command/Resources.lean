/-
# ExtendedFormat.Proofs.Command.Resources -- a format of the resources, and the same one given

The tool prints by a format of the resources as it does by one on the command line in
the legacy dialect: it fails alike, and ends with the same status.  But what it prints goes by
way of text, in which ill-formed parts are replaced.  So both put out the same bytes just where
the output is well-formed UTF-8 (`resource_format_prints`).  The resources are the ones that were
read, and they stand in their file if the environment is right about it (`HoldsResources.mem`).
-/
import ExtendedFormat.Proofs.Command.Course
import ExtendedFormat.Proofs.Command.Words
import ExtendedFormat.Proofs.Text.Utf8

namespace ExtendedFormat

set_option autoImplicit false

open Outcome

/-! ## Two command lines -/

namespace CommandLine

variable {opts tail args : List Text} {o : Options} {us : List Word} {locale : Text → Option Text}

theorem ne_dashes_of_int? {id : Text} {n : Int} (numeral : Numeral.int? id = some n) :
    id ≠ dashes := by
  rintro rfl
  cases numeral

theorem unrecognized_close (s : State) : s.close.unrecognized = s.unrecognized := by
  unfold State.close
  split <;> rfl

theorem parse_resourceFormat (sets : Sets locale opts o) (noFile : o.formatFile = .unset)
    (named : o.resources.nonempty?.isSome = true) {id : Text} {n : Int}
    (operand : wordOf id = .ok (.operand id)) (numeral : Numeral.int? id = some n)
    (sorted : words tail = .ok us) (operands : Operands us args) :
    parse locale (opts ++ Text.ofString "--resource-format" :: id :: tail) =
      .ok { o with
        resourceFormat := .value n, format := (assign us).1, arguments := (assign us).2 } := by
  obtain ⟨-, -, -, arguments, -⟩ := sets.read
  have plain := ne_dashes_of_int? numeral
  have sortedAll : words (Text.ofString "--resource-format" :: id :: tail) =
      .ok (.option .resourceFormat none :: .operand id :: us) := by
    rw [words_cons (by decide), words_cons plain, operand, sorted]
    rfl
  have set : setValue o .resourceFormat id = .ok { o with resourceFormat := .value n } := by
    have none : o.resources.nonempty?.isNone = false := by
      rw [← Option.not_isSome, named]
      rfl
    simp only [setValue, settingOf, if_neg plain, Setting.int?, numeral, Option.map_some, noFile,
      Setting.isGiven, none, Bool.false_eq_true, if_false]
  have taken : read ⟨o, [], false, []⟩ (.option .resourceFormat none :: .operand id :: us) =
      .ok (State.close ⟨{ o with resourceFormat := .value n }, us.reverse, false, []⟩) := by
    have run := read_operands (o := { o with resourceFormat := .value n }) operands.raw []
    rw [List.append_nil] at run
    rw [← run]
    show (State.withOptions _ (setValue o .resourceFormat id)).bind _ = _
    rw [set]
    rfl
  have closed := options_close (o := { o with resourceFormat := .value n }) sets.noOperand arguments
    us
  rw [sets.parse_append sortedAll taken (unrecognized_close _) (by rw [closed]), closed]

theorem parse_legacy (sets : Sets locale opts o) {format : Text} (plain : format.head? ≠ some dash)
    (sorted : words tail = .ok us) (operands : Operands us args) :
    parse locale (opts ++ Text.ofString "--legacy" :: format :: tail) =
      .ok { o with legacy := true, format := some format, arguments := args } := by
  obtain ⟨-, -, -, arguments, -⟩ := sets.read
  have noDashes : format ≠ dashes := by
    rintro rfl
    exact plain rfl
  have sortedAll : words (Text.ofString "--legacy" :: format :: tail) =
      .ok (.option .legacy none :: .operand format :: us) := by
    rw [words_cons (by decide), words_cons noDashes, wordOf_plain plain, sorted]
    rfl
  have taken : read ⟨o, [], false, []⟩ (.option .legacy none :: .operand format :: us) =
      .ok (State.close
        ⟨{ o with legacy := true }, (.operand format :: us).reverse, false, []⟩) := by
    have raw : ∀ w ∈ Word.operand format :: us, w.raw?.isSome = true :=
      List.forall_mem_cons.mpr ⟨rfl, operands.raw⟩
    have run := read_operands (o := { o with legacy := true }) raw []
    rw [List.append_nil] at run
    exact run
  have closed := options_close (o := { o with legacy := true }) sets.noOperand arguments
    (.operand format :: us)
  rw [operands.behind format noDashes] at closed
  rw [sets.parse_append sortedAll taken (unrecognized_close _) (by rw [closed]), closed]

end CommandLine

/-! ## Two runs -/

namespace Command

open CommandLine

variable {o : Options} {env : Environment} {io : Streams} {values : List Value}

theorem collect_resource {n : Int} (noFile : o.formatFile = .unset)
    (given : o.resourceFormat = .value n) :
    collect o env = (gather o env (o.format.toList ++ o.arguments)).map
      fun values => some (.resource (.int n), values) := by
  have noPath : o.formatFile.nonempty? = none := by rw [noFile]; rfl
  have id : resourceId? o = some (.int n) := by rw [resourceId?, given]
  rw [collect]
  simp only [noPath, id]
  cases gather o env (o.format.toList ++ o.arguments) <;> rfl

theorem collect_format {format : Text} (noFile : o.formatFile = .unset)
    (noResource : o.resourceFormat = .unset) (given : o.format = some format) :
    collect o env = (gather o env o.arguments).map
      fun values => some (.format format, values) := by
  have noPath : o.formatFile.nonempty? = none := by rw [noFile]; rfl
  have noId : resourceId? o = none := by rw [resourceId?, noResource]
  rw [collect]
  simp only [noPath, noId, given]
  cases gather o env o.arguments <;> rfl

/-- The file that the options name for the resources holds the object, in one of the encodings,
and the environment is right about it. -/
inductive HoldsResources (o : Options) (env : Environment) : List (Value × Value) → Prop
  | mk {path t : Text} {e : FileText.Encoding} {entries : List (Value × Value)}
      (named : o.resources.nonempty? = some path) (holds : env.files path = .ok (e.write t))
      (scalar : t.IsScalar) (unmarked : t.head? ≠ some CodePoint.byteOrderMark)
      (right : env.Recognizes e t) (object : env.json t = .ok (.dict entries)) :
      HoldsResources o env entries

/-- Resources that were read are the members of an object. -/
theorem object_of_readResources {path : Text} {resources : List (Text × Text)}
    (named : o.resources.nonempty? = some path) (read : readResources o env = .ok resources) :
    ∃ t entries, readText env path = .ok t ∧ env.json t = .ok (.dict entries) ∧
      entries.mapM (resourceEntry path) = .ok resources := by
  rw [readResources, named] at read
  obtain ⟨v, loaded, members⟩ := bind_eq_ok_iff.mp read
  unfold readJson at loaded
  obtain ⟨t, text, loaded⟩ := bind_eq_ok_iff.mp loaded
  split at loaded
  · rename_i object
    cases loaded
    split at members
    · exact ⟨t, _, text, object, members⟩
    · cases members
  · cases loaded

/-- Where the environment is right about their file, they are strings of the object in it. -/
theorem HoldsResources.mem {entries : List (Value × Value)} {resources : List (Text × Text)}
    (file : HoldsResources o env entries) (read : readResources o env = .ok resources)
    {key format : Text} (held : resources.lookup key = some format) :
    (.text key, .text format) ∈ entries := by
  obtain ⟨named, holds, scalar, unmarked, right, object⟩ := file
  obtain ⟨t, entries', text, object', members⟩ := object_of_readResources named read
  cases (readText_write right scalar unmarked holds).symm.trans text
  cases object.symm.trans object'
  obtain ⟨before, after, rfl, -⟩ := List.lookup_eq_some_iff.mp held
  obtain ⟨entry, member, taken⟩ := exists_of_mem_mapM members (key, format) (by simp)
  unfold resourceEntry at taken
  split at taken <;> cases taken
  exact member

/-- A resource is found by the numeral of its identifier. -/
theorem resolveResource_of_lookup {resources : List (Text × Text)} {n : Int} {format : Text}
    (read : readResources o env = .ok resources) (short : n.natAbs < 10 ^ Numeral.digitLimit)
    (held : resources.lookup (Text.ofInt n) = some format) :
    resolveResource o env (.int n) = .ok (.text format) := by
  have shown : (Value.int n).display = some (Text.ofInt n) := by
    obtain ⟨t, shown⟩ := Option.isSome_iff_exists.mp (display_int short)
    rw [shown]
    have numeral : Value.decimal? n = some t := shown
    simp only [Value.decimal?, Option.ite_none_right_eq_some, Option.some_inj] at numeral
    rw [numeral.2]
  unfold resolveResource
  rw [read, shown]
  simp only [bind, Except.bind, held]

/-- What is written behind the output. -/
def lineEnd (o : Options) : Bytes := if o.newline then [0x0A] else []

/-- A failure has the same status, whatever was printed before. -/
theorem failed_status (o : Options) (io : Streams) (before : Bytes) (e : Failure) :
    (failed o io before e).status = if e.message?.isSome then .ok 1 else .error e := by
  unfold failed
  cases e.message? <;> rfl

theorem failed_status_ne (o : Options) (io : Streams) (before : Bytes) (e : Failure) :
    (failed o io before e).status ≠ .ok 0 := by
  rw [failed_status]
  split
  · decide
  · nofun

/-- The same run, once by way of text: it ends alike, and what it prints is decoded and
encoded again. -/
structure ByWayOfText (o : Options) (io : Streams) (text direct : Exit) : Prop where
  status : text.status = direct.status
  output : direct.status = .ok 0 → ∃ printed,
    direct.output = io.out.write (printed ++ lineEnd o) ∧
      text.output = io.out.write (Utf8.encode (Utf8.decode printed) ++ lineEnd o)

theorem byWayOfText_failed {o₁ o₂ : Options} (before before' : Bytes) (e : Failure) :
    ByWayOfText o io (failed o₁ io before e) (failed o₂ io before' e) where
  status := by rw [failed_status, failed_status]
  output := fun done => absurd done (failed_status_ne o₂ io before' e)

theorem byWayOfText_run {argv₁ argv₂ : List Text} {n : Int} {f : Option Text} {a args : List Text}
    {format : Text} {resources : List (Text × Text)}
    (parsed₁ : CommandLine.parse env.locale argv₁ =
      .ok { o with resourceFormat := .value n, format := f, arguments := a })
    (parsed₂ : CommandLine.parse env.locale argv₂ =
      .ok { o with legacy := true, format := some format, arguments := args })
    (noFile : o.formatFile = .unset) (noResource : o.resourceFormat = .unset)
    (operands : f.toList ++ a = args) (read : readResources o env = .ok resources)
    (short : n.natAbs < 10 ^ Numeral.digitLimit)
    (held : resources.lookup (Text.ofInt n) = some format) (present : format ≠ [])
    (io : Streams) :
    ByWayOfText o io (run argv₁ env io) (run argv₂ env io) := by
  let o₁ : Options := { o with resourceFormat := .value n, format := f, arguments := a }
  let o₂ : Options := { o with legacy := true, format := some format, arguments := args }
  have collected₁ : collect o₁ env = (gather o env args).map
      fun values => some (.resource (.int n), values) := by
    rw [collect_resource (o := o₁) noFile rfl]
    exact congrArg (fun args => (gather o env args).map _) operands
  have collected₂ : collect o₂ env = (gather o env args).map
      fun values => some (.format format, values) := collect_format (o := o₂) noFile noResource rfl
  have found : resolveResource o₁ env (.int n) = .ok (.text format) :=
    resolveResource_of_lookup (o := o₁) read short held
  rw [run, run, parsed₁, parsed₂]
  simp only
  rw [runOptions, runOptions, collected₁, collected₂]
  cases gather o env args with
  | error e => exact byWayOfText_failed [] [] e
  | ok values =>
    simp only [Except.map]
    rw [runResource_eq found present, runFormat]
    -- The options differ in nothing that formatting looks at.
    have same : formatInto (callbacks o₂ env) (reading o₂) (.text format) values Sink.empty =
        formatInto (callbacks o₁ env) ⟨.legacy, (reading o₁).mode⟩ (.text format) values
          Sink.empty := rfl
    rw [same]
    rcases formatInto (callbacks o₁ env) ⟨.legacy, (reading o₁).mode⟩ (.text format) values
      Sink.empty with ⟨s, _ | e⟩
    · exact ⟨rfl, fun _ => ⟨s.contents, rfl, rfl⟩⟩
    · exact byWayOfText_failed ..

theorem named_of_lookup {resources : List (Text × Text)} {key format : Text}
    (read : readResources o env = .ok resources) (held : resources.lookup key = some format) :
    o.resources.nonempty?.isSome = true := by
  unfold readResources at read
  cases given : o.resources.nonempty? with
  | some path => rfl
  | none =>
    rw [given] at read
    cases read
    cases held

theorem write_of_encoding {s : Console.Stream} (bytes : s.encoding.isSome = true) (bs : Bytes) :
    s.write bs = bs := by
  obtain ⟨encoding, given⟩ := Option.isSome_iff_exists.mp bytes
  rw [Console.Stream.write, given]

/-- **A format of the resources prints what it prints when it is given**, by way of text.  The
resources are those that the tool reads, whatever it takes their file for; where it is right, the
format stands in that file.  The options are the same, but for the dialect, and so are the
arguments and the status.  What is printed on success is decoded and encoded again where the
format comes from the resources; so the output of the two is the same just if it is well-formed
UTF-8. -/
theorem resource_format_prints {opts tail args : List Text} {o : Options} {env : Environment}
    (sets : Sets env.locale opts o) (noFile : o.formatFile = .unset)
    (noResource : o.resourceFormat = .unset) (passes : Passes tail args)
    {resources : List (Text × Text)} (read : readResources o env = .ok resources)
    {id format : Text} {n : Int} (operand : wordOf id = .ok (.operand id))
    (numeral : Numeral.int? id = some n)
    (held : resources.lookup (Text.ofInt n) = some format) (present : format ≠ [])
    (plain : format.head? ≠ some dash) (io : Streams) :
    let stored := run (opts ++ Text.ofString "--resource-format" :: id :: tail) env io
    let given := run (opts ++ Text.ofString "--legacy" :: format :: tail) env io
    (∀ entries, HoldsResources o env entries →
      (.text (Text.ofInt n), .text format) ∈ entries) ∧
    stored.status = given.status ∧
      (given.status = .ok 0 → ∃ printed,
        given.output = io.out.write (printed ++ lineEnd o) ∧
        stored.output = io.out.write (Utf8.encode (Utf8.decode printed) ++ lineEnd o) ∧
        ((Utf8.decode? printed).isSome → stored.output = given.output) ∧
        (io.out.encoding.isSome → stored.output = given.output →
          (Utf8.decode? printed).isSome)) := by
  obtain ⟨us, sorted, operands⟩ := passes.operands
  have parsed₁ := parse_resourceFormat sets noFile (named_of_lookup read held) operand numeral
    sorted operands
  have parsed₂ := parse_legacy sets plain sorted operands
  have way := byWayOfText_run parsed₁ parsed₂ noFile noResource operands.alone read
    (Numeral.natAbs_lt_of_int? numeral) held present io
  refine ⟨fun entries file => file.mem read held, way.status, fun done => ?_⟩
  obtain ⟨printed, direct, text⟩ := way.output done
  refine ⟨printed, direct, text, fun wellFormed => ?_, fun bytes same => ?_⟩
  · rw [text, direct, Utf8.encode_decode_iff.mpr wellFormed]
  · rw [text, direct, write_of_encoding bytes, write_of_encoding bytes] at same
    exact Utf8.encode_decode_iff.mp (List.append_cancel_right same)

/-! ### One resource -/

/-- The words that name a resources file. -/
def resourceWords : List Text := [Text.ofString "--resources", Text.ofString "r.json"]

/-- An object with this format under 7. -/
def objectText (format : String) : Text :=
  Text.ofString ("\x7b\"7\": \"" ++ format ++ "\"\x7d")

/-- Every file holds that object. -/
def holding (format : String) : Environment :=
  Environment.ofFiles fun _ => .ok (FileText.Encoding.utf8.write (objectText format))

/-- A byte of ASCII. -/
theorem resource_format_prints_ascii :
    let o : Options := { Options.initial with resources := .value (Text.ofString "r.json") }
    Sets (holding "%c").locale resourceWords o ∧
      Passes [Text.ofString "115"] [Text.ofString "115"] ∧
      (∃ entries, HoldsResources o (holding "%c") entries ∧
        (.text (Text.ofInt 7), .text (Text.ofString "%c")) ∈ entries) ∧
      readResources o (holding "%c") = .ok [(Text.ofInt 7, Text.ofString "%c")] ∧
      (run (resourceWords ++ Text.ofString "--resource-format" :: Text.ofString "7" ::
        [Text.ofString "115"]) (holding "%c") plainStreams).status = .ok 0 ∧
      (run (resourceWords ++ Text.ofString "--resource-format" :: Text.ofString "7" ::
        [Text.ofString "115"]) (holding "%c") plainStreams).output = ascii ['s'] := by
  intro o
  have sets : Sets (holding "%c").locale resourceWords o := ⟨rfl, by decide, rfl⟩
  have passes : Passes [Text.ofString "115"] [Text.ofString "115"] :=
    .plain fun t member => by
      obtain rfl := List.mem_singleton.mp member
      exact ⟨by decide, rfl⟩
  have read : readResources o (holding "%c") = .ok [(Text.ofInt 7, Text.ofString "%c")] := by
    decide +kernel
  have scalar : (objectText "%c").IsScalar := by
    unfold Text.IsScalar
    decide
  have right : (holding "%c").Recognizes .utf8 (objectText "%c") := ⟨_, rfl, .own .utf8⟩
  obtain ⟨t, entries, text, object, -⟩ := object_of_readResources rfl read
  cases (readText_write right scalar (by decide) rfl).symm.trans text
  have file : HoldsResources o (holding "%c") entries :=
    .mk rfl rfl scalar (by decide) right object
  have operand : wordOf (Text.ofString "7") = .ok (.operand (Text.ofString "7")) := rfl
  have numeral : Numeral.int? (Text.ofString "7") = some 7 := rfl
  obtain ⟨stands, status, prints⟩ := resource_format_prints sets rfl rfl passes read operand
    numeral rfl (by decide) (by decide) plainStreams
  have direct : (run (resourceWords ++ Text.ofString "--legacy" :: Text.ofString "%c" ::
      [Text.ofString "115"]) (holding "%c") plainStreams).status = .ok 0 ∧
      (run (resourceWords ++ Text.ofString "--legacy" :: Text.ofString "%c" ::
      [Text.ofString "115"]) (holding "%c") plainStreams).output = ascii ['s'] := by
    constructor <;> decide +kernel
  refine ⟨sets, passes, ⟨entries, file, stands entries file⟩, read, status.trans direct.1, ?_⟩
  obtain ⟨printed, given, -, same, -⟩ := prints direct.1
  have letter : printed = ascii ['s'] := by
    rw [direct.2] at given
    exact (given.trans (List.append_nil printed)).symm
  rw [same (by rw [letter]; decide +kernel), direct.2]

/-- A byte that is no UTF-8 comes out as it is where the format is given, and as the three bytes
of U+FFFD where the format is a resource. -/
theorem resource_format_replaces_byte :
    readResources { Options.initial with resources := .value (Text.ofString "r.json") }
        (holding "%c") = .ok [(Text.ofInt 7, Text.ofString "%c")] ∧
      (run (resourceWords ++ [Text.ofString "--legacy", Text.ofString "%c", Text.ofString "255"])
        (holding "%c") plainStreams).status = .ok 0 ∧
      (run (resourceWords ++ [Text.ofString "--legacy", Text.ofString "%c", Text.ofString "255"])
        (holding "%c") plainStreams).output = [0xFF] ∧
      (run (resourceWords ++ [Text.ofString "--resource-format", Text.ofString "7",
        Text.ofString "255"]) (holding "%c") plainStreams).status = .ok 0 ∧
      (run (resourceWords ++ [Text.ofString "--resource-format", Text.ofString "7",
        Text.ofString "255"]) (holding "%c") plainStreams).output = [0xEF, 0xBF, 0xBD] := by
  refine ⟨?_, ?_, ?_, ?_, ?_⟩ <;> decide +kernel

end Command

end ExtendedFormat
