/-
# ExtendedFormat.Proofs.Command.Causes -- what the tool has no message for

Failures of the format, of its arguments and of files have a message
(`Failure.IsReported`).  Of the others, these can come up in the tool (`Command.Escapes`):
half a surrogate pair, or a NUL, in a file's name; a file that seems to be in an encoding that
there is no codec for; JSON that its reader gives up on; half a pair in the format or in the
separator; a width of too many digits; a blank separator; and a system error code beyond 32 bits.

Up to the point where format and arguments are collected, nothing else fails
(`Command.fails_of_collect`), and no argument that was collected is too long to be named.  Little
is asked of the environment for that (`Environment.IsRegular`).
-/
import ExtendedFormat.Folder
import ExtendedFormat.Proofs.Command.Course
import ExtendedFormat.Proofs.Directive.Fault
import ExtendedFormat.Proofs.Json.Values
import ExtendedFormat.Proofs.Template.Totality

namespace ExtendedFormat

set_option autoImplicit false

open Outcome

/-- The tool has a message for the failure. -/
def Failure.IsReported (e : Failure) : Prop := ∃ m, e.message? = some m

theorem Failure.isReported_format (fe : FormatError) : (Failure.format fe).IsReported := ⟨_, rfl⟩

theorem Failure.isReported_file (fe : FileError) : (Failure.file fe).IsReported := ⟨_, rfl⟩

/-! ## What is relied on -/

/-- The system says why a file cannot be read, unless the name cannot be handed to it; and what is
read from JSON is one of its values. -/
structure Environment.IsRegular (env : Environment) : Prop where
  unread : ∀ path e, env.files path = .error e → (∃ fe, e = .file fe) ∨
    (e = .loneSurrogate ∧ path.any Folder.isUnnameable = true) ∨
    (e = .nulInName ∧ (path.any fun c => c.val == 0) = true)
  makes : ∀ t v, env.json t = .ok v → Json.Makes v

theorem Environment.ofFiles_isRegular (folder : Folder) :
    (Environment.ofFiles folder.read).IsRegular where
  unread path e failed := by
    have failed : folder.read path = .error e := failed
    unfold Folder.read at failed
    split at failed
    · rename_i unnameable
      cases failed
      exact .inr (.inl ⟨rfl, unnameable⟩)
    · split at failed
      · rename_i zero
        cases failed
        exact .inr (.inr ⟨rfl, zero⟩)
      · split at failed <;> cases failed
        exact .inl ⟨_, rfl⟩
  makes _ _ := Json.makes_of_read

namespace Command

open CommandLine

/-! ## What escapes -/

/-- The tool is to print the arguments by the format, which is in the dialect. -/
inductive Formats (o : Options) (env : Environment) : Dialect → Text → List Value → Prop
  | given {t : Text} {args : List Value}
      (collected : collect o env = .ok (some (.format t, args))) :
      Formats o env (reading o).dialect t args
  | resource {id : Value} {t : Text} {args : List Value}
      (collected : collect o env = .ok (some (.resource id, args)))
      (found : resolveResource o env id = .ok (.text t)) :
      Formats o env .legacy t args

/-- The directive stands in the format, by which the arguments are to be printed. -/
inductive Prints (o : Options) (env : Environment) : Directive → List Value → Prop
  | mk {dialect : Dialect} {t : Text} {args : List Value} {pieces : Template} {d : Directive}
      (formats : Formats o env dialect t args)
      (read : Template.ofValue dialect (reading o).mode (.text t) = .ok pieces)
      (stands : .directive d ∈ pieces) : Prints o env d args

/-- A failure that the tool has no message for, and its cause. -/
inductive Escapes (o : Options) (env : Environment) : Failure → Prop
  | halfInName {path : Text} (names : path ∈ mentioned o)
      (unnameable : path.any Folder.isUnnameable = true) : Escapes o env .loneSurrogate
  | nulInName {path : Text} (names : path ∈ mentioned o)
      (zero : (path.any fun c => c.val == 0) = true) : Escapes o env .nulInName
  | unknownEncoding {path name : Text} {bs : Bytes} (names : path ∈ mentioned o)
      (holds : env.files path = .ok bs) (guessed : env.charsetOf bs = .other name)
      (absent : env.decoder name = none) : Escapes o env .unknownEncoding
  | operand {t : Text} {e : JsonError} (typed : t ∈ operands o)
      (gaveUp : env.json t = .error e) (other : e ≠ .malformed) : Escapes o env e.failure
  | inFile {path t : Text} {e : JsonError} (names : path ∈ mentioned o)
      (holds : readText env path = .ok t)
      (gaveUp : env.json t = .error e) (other : e ≠ .malformed) : Escapes o env e.failure
  | halfInFormat {dialect : Dialect} {t : Text} {args : List Value}
      (formats : Formats o env dialect t args)
      (half : t.any CodePoint.isSurrogate = true) : Escapes o env .loneSurrogate
  | overlong {dialect : Dialect} {t : Text} {args : List Value} {bs : Bytes}
      (formats : Formats o env dialect t args) (bytes : t.exactBytes = .ok bs)
      (width : Template.HasOverlong dialect bs) : Escapes o env .numeralTooLong
  | blankSeparator {d : Directive} {args : List Value} (prints : Prints o env d args)
      (groups : d.Groups) (blank : separator o env = .blank) : Escapes o env .separatorMissing
  | halfInSeparator {d : Directive} {args : List Value} {s : Text}
      (prints : Prints o env d args) (groups : d.Groups)
      (given : separator o env = .value s) (half : s.any CodePoint.isSurrogate = true) :
      Escapes o env .loneSurrogate
  | code {d : Directive} {args : List Value} {v : Value} {code : Int}
      (prints : Prints o env d args) (asks : d.conversion = .legacy .systemError)
      (argument : v ∈ args) (index : v.index? = some code)
      (outside : code < -Nat.pow 2 31 ∨ Nat.pow 2 31 ≤ code) : Escapes o env .codeOutOfRange

variable {o : Options} {env : Environment} {e : Failure}

theorem not_isReported_of_json {e : JsonError} (other : e ≠ .malformed) :
    ¬ e.failure.IsReported := by
  rintro ⟨m, message⟩
  cases e with
  | malformed => exact other rfl
  | numeralTooLong | nestedTooDeep => cases message

theorem Escapes.not_isReported (escapes : Escapes o env e) : ¬ e.IsReported := by
  cases escapes with
  | operand typed gaveUp other => exact not_isReported_of_json other
  | inFile names holds gaveUp other => exact not_isReported_of_json other
  | _ =>
    rintro ⟨m, message⟩
    cases message

theorem not_isReported_of_locale {argv : List Text} (fails : LocaleFails argv e) :
    ¬ e.IsReported := by
  rintro ⟨m, message⟩
  cases fails <;> cases message

/-- A failure that the tool reports, or that escapes it. -/
def Fails (o : Options) (env : Environment) (e : Failure) : Prop :=
  e.IsReported ∨ Escapes o env e

/-! ## Files -/

section Files

variable {path : Text} (regular : env.IsRegular) (names : path ∈ mentioned o)

include names

theorem fails_of_textOf {bs : Bytes} (holds : env.files path = .ok bs)
    (failed : env.textOf bs = .error e) : Fails o env e := by
  unfold Environment.textOf at failed
  split at failed
  · cases failed
  · rename_i name guessed
    split at failed
    · cases failed
    · rename_i absent
      cases failed
      exact .inr (.unknownEncoding names holds guessed absent)

include regular

theorem fails_of_readText (failed : readText env path = .error e) : Fails o env e := by
  rcases bind_eq_error_iff.mp failed with reading | ⟨bs, holds, failed⟩
  · rcases regular.unread path e reading with ⟨fe, rfl⟩ | ⟨rfl, unnameable⟩ | ⟨rfl, zero⟩
    · exact .inl (Failure.isReported_file fe)
    · exact .inr (.halfInName names unnameable)
    · exact .inr (.nulInName names zero)
  · exact fails_of_textOf names holds failed

theorem fails_of_readJson (failed : readJson env path = .error e) : Fails o env e := by
  unfold readJson at failed
  rcases bind_eq_error_iff.mp failed with reading | ⟨t, holds, failed⟩
  · exact fails_of_readText regular names reading
  · split at failed
    · cases failed
    · rename_i e' refused
      cases failed
      by_cases broken : e' = .malformed
      · subst broken
        exact .inl (Failure.isReported_file _)
      · exact .inr (.inFile names holds refused broken)

end Files

theorem makes_of_readJson (regular : env.IsRegular) {path : Text} {v : Value}
    (read : readJson env path = .ok v) : Json.Makes v := by
  unfold readJson at read
  obtain ⟨t, -, read⟩ := bind_eq_ok_iff.mp read
  split at read
  · rename_i made
    cases read
    exact regular.makes _ _ made
  · cases read

theorem mentioned_formatFile {path : Text} (given : o.formatFile.nonempty? = some path) :
    path ∈ mentioned o := by
  simp [mentioned, given]

theorem mentioned_argsFile {path : Text} (given : o.argsFile.nonempty? = some path) :
    path ∈ mentioned o := by
  simp [mentioned, given]

theorem mentioned_resources {path : Text} (given : o.resources.nonempty? = some path) :
    path ∈ mentioned o := by
  simp [mentioned, given]

/-! ## Resources -/

theorem fails_of_readResources (regular : env.IsRegular)
    (failed : readResources o env = .error e) : Fails o env e := by
  unfold readResources at failed
  split at failed
  · cases failed
  · rename_i path given
    rcases bind_eq_error_iff.mp failed with reading | ⟨v, -, failed⟩
    · exact fails_of_readJson regular (mentioned_resources given) reading
    · split at failed
      · obtain ⟨entry, -, failed⟩ := exists_of_mapM_error failed
        unfold resourceEntry at failed
        split at failed <;> cases failed <;> exact .inl (Failure.isReported_file _)
      · cases failed
        exact .inl (Failure.isReported_file _)

/-- An identifier that can be shown is looked up. -/
theorem fails_of_resolveResource (regular : env.IsRegular) {id : Value}
    (shown : id.display.isSome) (failed : resolveResource o env id = .error e) :
    Fails o env e := by
  unfold resolveResource at failed
  rcases bind_eq_error_iff.mp failed with reading | ⟨resources, -, failed⟩
  · exact fails_of_readResources regular reading
  · split at failed
    · rename_i hidden
      rw [hidden] at shown
      cases shown
    · split at failed <;> cases failed

/-! ## Arguments -/

theorem fails_of_ofText {t : Text} (typed : t ∈ operands o)
    (failed : Argument.ofText env.json t = .error e) : Fails o env e := by
  unfold Argument.ofText at failed
  split at failed
  · cases failed
  · cases failed
  · rename_i e' other gaveUp
    cases failed
    exact .inr (.operand typed gaveUp other)

theorem fails_of_gather (regular : env.IsRegular)
    (failed : gather o env (operands o) = .error e) : Fails o env e := by
  unfold gather at failed
  rcases bind_eq_error_iff.mp failed with reading | ⟨values, -, failed⟩
  · obtain ⟨t, member, failed⟩ := exists_of_mapM_error reading
    exact fails_of_ofText member failed
  · split at failed
    · cases failed
    · rename_i path given
      rcases bind_eq_error_iff.mp failed with reading | ⟨v, -, failed⟩
      · exact fails_of_readJson regular (mentioned_argsFile given) reading
      · split at failed <;> cases failed
        exact .inl (Failure.isReported_file _)

theorem isNameable_of_gather (regular : env.IsRegular) {operands : List Text} {args : List Value}
    (gathered : gather o env operands = .ok args) : ∀ v ∈ args, v.IsNameable := by
  unfold gather at gathered
  obtain ⟨values, typed, gathered⟩ := bind_eq_ok_iff.mp gathered
  have nameable : ∀ v ∈ values, v.IsNameable := by
    intro v member
    obtain ⟨t, -, read⟩ := exists_of_mem_mapM typed v member
    exact Argument.isNameable_ofText (regular.makes t) read
  split at gathered
  · cases gathered
    exact nameable
  · obtain ⟨w, made, gathered⟩ := bind_eq_ok_iff.mp gathered
    split at gathered
    · cases gathered
      intro v member
      rcases List.mem_append.mp member with old | new
      · exact nameable v old
      · obtain ⟨item, inside, rfl⟩ := List.mem_map.mp new
        cases makes_of_readJson regular made with
        | list each => exact Argument.isNameable_ofJson (each item inside)
    · cases gathered

/-! ## Format and arguments -/

theorem fails_of_source (regular : env.IsRegular) (failed : source o env = .error e) :
    Fails o env e := by
  unfold source at failed
  split at failed
  · rename_i path _ given
    exact fails_of_readText regular (mentioned_formatFile given) (map_eq_error_iff.mp failed)
  · cases failed
  · cases failed
  · cases failed

theorem fails_of_collect (regular : env.IsRegular) (failed : collect o env = .error e) :
    Fails o env e := by
  rw [collect_eq] at failed
  rcases bind_eq_error_iff.mp failed with reading | ⟨s, -, failed⟩
  · exact fails_of_source regular reading
  · cases s with
    | none => cases failed
    | some s => exact fails_of_gather regular (map_eq_error_iff.mp failed)

end Command

end ExtendedFormat
