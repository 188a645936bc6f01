/-
# ExtendedFormat.Proofs.Command.Words -- command lines of options and operands

A command line may be read in two parts where the first leaves no operand (`read_append`): it
has set options, and the second begins where it ended.  If the second part is a run of
operands, the format and the arguments are taken from it (`Sets.parse_append`).

Arguments are passed as they are, or behind two dashes.  Reading takes away one pair of dashes;
`Passes` says how a list of arguments is written so that none of them is lost, whether a
format stands before it or not.
-/
import ExtendedFormat.Proofs.Command.Options

namespace ExtendedFormat.CommandLine

set_option autoImplicit false

open Outcome

variable {argv opts more : List Text} {word t : Text} {ws vs : List Word} {o : Options}
  {s s' : State} {locale : Text → Option Text}

/-! ## Sorting words -/

theorem wordOf_plain (plain : word.head? ≠ some dash) : wordOf word = .ok (.operand word) :=
  if_pos plain

/-- A word that is no option and no unknown one is an operand, as it stands. -/
theorem raw?_of_wordOf {w : Word} (sorted : wordOf word = .ok w) :
    w.raw? = none ∨ w = .operand word := by
  unfold wordOf at sorted
  split at sorted
  · cases sorted
    exact .inr rfl
  split at sorted
  · cases sorted
    exact .inl rfl
  split at sorted
  · cases sorted
    exact .inr rfl
  unfold optionLike at sorted
  simp only at sorted
  split at sorted
  · split at sorted <;> cases sorted <;> exact .inl rfl
  · cases sorted
    exact .inl rfl
  have other {b : Bool} : (if b then Word.operand word else .unknown word).raw? = none ∨
      (if b then Word.operand word else .unknown word) = .operand word := by
    cases b
    · exact .inl rfl
    · exact .inr rfl
  split at sorted
  · split at sorted
    · cases sorted
      exact other
    · cases sorted
      exact .inl rfl
    · cases sorted
  · split at sorted <;> cases sorted
    · exact .inl rfl
    · exact other

theorem words_cons (plain : word ≠ dashes) (argv : List Text) :
    words (word :: argv) =
      (wordOf word).bind fun w => (words argv).map fun ws => w :: ws := by
  rw [words, if_neg plain]
  rfl

/-- Without two dashes among them, words are sorted one by one. -/
theorem words_append (noDashes : dashes ∉ argv) (sorted : words argv = .ok ws)
    (more : List Text) : words (argv ++ more) = (words more).map fun vs => ws ++ vs := by
  induction argv generalizing ws with
  | nil =>
    cases sorted
    rw [List.nil_append]
    cases words more <;> rfl
  | cons word rest ih =>
    obtain ⟨here, there⟩ := not_or.mp (mt List.mem_cons.mpr noDashes)
    rw [words_cons (Ne.symm here)] at sorted
    obtain ⟨w, first, sorted⟩ := bind_eq_ok_iff.mp sorted
    obtain ⟨ws', later, rfl⟩ := map_eq_ok_iff.mp sorted
    rw [List.cons_append, words_cons (Ne.symm here), first, ih there later]
    exact map_map ..

/-- Without two dashes, no word ends the options, and none is read as two dashes. -/
theorem raw?_of_mem_words (noDashes : dashes ∉ argv) (sorted : words argv = .ok ws) :
    ∀ w ∈ ws, w.raw? = none ∨ ∃ t, w = .operand t ∧ t ≠ dashes := by
  induction argv generalizing ws with
  | nil =>
    cases sorted
    simp
  | cons word rest ih =>
    obtain ⟨here, there⟩ := not_or.mp (mt List.mem_cons.mpr noDashes)
    rw [words_cons (Ne.symm here)] at sorted
    obtain ⟨w, first, sorted⟩ := bind_eq_ok_iff.mp sorted
    obtain ⟨ws', later, rfl⟩ := map_eq_ok_iff.mp sorted
    rw [List.forall_mem_cons]
    exact ⟨(raw?_of_wordOf first).imp_right fun same => ⟨word, same, Ne.symm here⟩, ih there later⟩

theorem words_operands (operands : ∀ t ∈ argv, t ≠ dashes ∧ wordOf t = .ok (.operand t)) :
    words argv = .ok (argv.map .operand) := by
  induction argv with
  | nil => rfl
  | cons t rest ih =>
    obtain ⟨⟨plain, sorted⟩, others⟩ := List.forall_mem_cons.mp operands
    rw [words_cons plain, sorted, ih others]
    rfl

theorem words_dashes (argv : List Text) :
    words (dashes :: argv) = .ok (.terminator :: argv.map .operand) := by
  rw [words, if_pos rfl]

/-! ## Reading on -/

theorem close_eq_self (unassigned : s.close.assigned = false) : s.close = s := by
  unfold State.close at unassigned ⊢
  split
  · rfl
  · rename_i pending
    rw [if_neg pending] at unassigned
    cases unassigned

/-- Where the first words leave no operand, reading goes on behind them. -/
theorem read_append (taken : read s ws = .ok s') (unassigned : s'.assigned = false)
    (vs : List Word) : read s (ws ++ vs) = read s' vs := by
  fun_induction read s ws with
  | case1 s =>
    cases taken
    rw [List.nil_append, close_eq_self unassigned]
  | case2 s word rest ih => exact ih taken
  | case3 s rest ih => exact ih taken
  | case4 s word rest closed ih => exact ih taken
  | case5 => cases taken
  | case6 => cases taken
  | case7 s f v rest closed ih =>
    obtain ⟨t, set, taken⟩ := bind_eq_ok_iff.mp taken
    rw [List.cons_append, read, set]
    exact ih t taken
  | case8 s f takes v rest closed ih =>
    obtain ⟨t, set, taken⟩ := bind_eq_ok_iff.mp taken
    simp only [List.cons_append, read, takes, if_true]
    rw [set]
    exact ih t taken
  | case9 => cases taken
  | case10 s f rest plain closed ih =>
    obtain ⟨t, set, taken⟩ := bind_eq_ok_iff.mp taken
    rw [List.cons_append, read.eq_def]
    simp only [plain, Bool.false_eq_true, if_false]
    rw [set]
    exact ih t taken

/-- Operands are added to the run, which ends with the command line. -/
theorem read_operands (operands : ∀ w ∈ vs, w.raw?.isSome = true) (run : List Word) :
    read ⟨o, run, false, []⟩ vs = .ok (State.close ⟨o, vs.reverse ++ run, false, []⟩) := by
  induction vs generalizing run with
  | nil => rfl
  | cons w rest ih =>
    obtain ⟨here, others⟩ := List.forall_mem_cons.mp operands
    rw [List.reverse_cons, List.append_assoc, List.singleton_append, ← ih others]
    cases w with
    | operand word => rfl
    | terminator => rfl
    | option | cluster | unknown => cases here

/-! ## Command lines without a format -/

theorem operands_of_setFlag {f : Flag} {o' : Options} (set : setFlag o f = .ok o') :
    o'.format = o.format ∧ o'.arguments = o.arguments := by
  cases f <;> cases set <;> exact ⟨rfl, rfl⟩

theorem operands_of_setValue {f : Flag} {v : Text} {o' : Options}
    (set : setValue o f v = .ok o') : o'.format = o.format ∧ o'.arguments = o.arguments := by
  cases f with
  | formatFile =>
    simp only [setValue] at set
    split at set <;> cases set
    exact ⟨rfl, rfl⟩
  | resourceFormat =>
    simp only [setValue] at set
    split at set
    · cases set
    · split at set
      · cases set
      · split at set <;> cases set
        exact ⟨rfl, rfl⟩
  | argsFile | resources | separator | locale =>
    cases set
    exact ⟨rfl, rfl⟩
  | help | legacy | strict | newline | explain | noColor => cases set

/-- The run holds operands only, and a format is known as soon as a run was assigned. -/
structure State.Tidy (s : State) : Prop where
  run : ∀ w ∈ s.run, ∃ t, w = .operand t ∧ t ≠ dashes
  assigned : s.assigned = true → s.options.format ≠ none
  unassigned : s.assigned = false → s.options.arguments = []

theorem assign_operand (plain : t ≠ dashes) (rest : List Word) :
    (assign (.operand t :: rest)).1 = some t := by
  have here : (t == dashes) = false := by simpa using plain
  simp [assign, Word.isTerminator, withoutDashes, Word.raw?, here]

namespace State.Tidy

theorem initial : State.initial.Tidy :=
  ⟨by simp [State.initial], by simp [State.initial], fun _ => rfl⟩

theorem operand (tidy : s.Tidy) (plain : t ≠ dashes) : (s.operand (.operand t)).Tidy := by
  unfold State.operand
  split
  · exact ⟨tidy.run, tidy.assigned, tidy.unassigned⟩
  · exact ⟨List.forall_mem_cons.mpr ⟨⟨t, rfl, plain⟩, tidy.run⟩, tidy.assigned, tidy.unassigned⟩

theorem close (tidy : s.Tidy) : s.close.Tidy := by
  unfold State.close
  split
  · exact tidy
  · rename_i pending
    refine ⟨by simp, fun _ => ?_, by simp⟩
    obtain ⟨w, rest, first⟩ := List.exists_cons_of_ne_nil
      (List.reverse_ne_nil_iff.mpr fun nothing : s.run = [] => pending (by simp [nothing]))
    obtain ⟨t, rfl, plain⟩ := tidy.run w (List.mem_reverse.mp (by simp [first]))
    rw [first]
    simp only [assign_operand plain]
    exact Option.some_ne_none t

theorem withOptions {r : Except Stop Options} (tidy : s.Tidy) (set : s.withOptions r = .ok s')
    (keeps : ∀ o', r = .ok o' → o'.format = s.options.format ∧
      o'.arguments = s.options.arguments) : s'.Tidy := by
  obtain ⟨o', made, rfl⟩ := map_eq_ok_iff.mp set
  obtain ⟨format, arguments⟩ := keeps o' made
  exact ⟨tidy.run, fun done => format ▸ tidy.assigned done,
    fun open' => arguments.trans (tidy.unassigned open')⟩

theorem read (tidy : s.Tidy) (plain : ∀ w ∈ ws, w.raw? = none ∨ ∃ t, w = .operand t ∧ t ≠ dashes)
    (taken : CommandLine.read s ws = .ok s') : s'.Tidy := by
  fun_induction CommandLine.read s ws with
  | case1 s =>
    cases taken
    exact tidy.close
  | case2 s word rest ih =>
    obtain ⟨here, others⟩ := List.forall_mem_cons.mp plain
    rcases here with never | ⟨t, same, plain⟩
    · cases never
    · cases same
      exact ih (tidy.operand plain) others taken
  | case3 s rest ih =>
    rcases (List.forall_mem_cons.mp plain).1 with never | ⟨t, never, -⟩ <;> cases never
  | case4 s word rest closed ih =>
    have closed : s.close.Tidy := tidy.close
    exact ih ⟨closed.run, closed.assigned, closed.unassigned⟩ (List.forall_mem_cons.mp plain).2
      taken
  | case5 => cases taken
  | case6 => cases taken
  | case7 s f v rest closed ih =>
    obtain ⟨t, set, taken⟩ := bind_eq_ok_iff.mp taken
    exact ih t (tidy.close.withOptions set fun _ => operands_of_setValue)
      (List.forall_mem_cons.mp plain).2 taken
  | case8 s f takes v rest closed ih =>
    obtain ⟨t, set, taken⟩ := bind_eq_ok_iff.mp taken
    exact ih t (tidy.close.withOptions set fun _ => operands_of_setValue)
      (List.forall_mem_cons.mp (List.forall_mem_cons.mp plain).2).2 taken
  | case9 => cases taken
  | case10 s f rest _ closed ih =>
    obtain ⟨t, set, taken⟩ := bind_eq_ok_iff.mp taken
    exact ih t (tidy.close.withOptions set fun _ => operands_of_setFlag)
      (List.forall_mem_cons.mp plain).2 taken

end State.Tidy

theorem run_of_read (taken : read s ws = .ok s') (unassigned : s'.assigned = false) :
    s'.run = [] := by
  fun_induction read s ws with
  | case1 s =>
    cases taken
    unfold State.close at unassigned ⊢
    split
    · rename_i closed
      rw [if_pos closed] at unassigned
      simpa [unassigned] using closed
    · rfl
  | case2 s word rest ih => exact ih taken
  | case3 s rest ih => exact ih taken
  | case4 s word rest closed ih => exact ih taken
  | case5 => cases taken
  | case6 => cases taken
  | case7 s f v rest closed ih
  | case8 s f takes v rest closed ih
  | case10 s f rest plain closed ih =>
    obtain ⟨t, -, taken⟩ := bind_eq_ok_iff.mp taken
    exact ih t taken
  | case9 => cases taken

/-- The locale that the options name, if any, can be asked for and is known. -/
def Options.LocaleKnown (locale : Text → Option Text) (o : Options) : Prop :=
  ∀ name, o.locale.nonempty? = some name → name.any CodePoint.isSurrogate = false ∧
    (name.any fun c => c.val == 0) = false ∧ (locale name).isSome = true

theorem parse_eq_ok_iff : parse locale argv = .ok o ↔
    ∃ ws s, words argv = .ok ws ∧ read State.initial ws = .ok s ∧ s.unrecognized = [] ∧
      s.options = o ∧ o.LocaleKnown locale := by
  unfold parse Options.LocaleKnown
  constructor
  · intro parsed
    obtain ⟨ws, sorted, parsed⟩ := bind_eq_ok_iff.mp parsed
    obtain ⟨s, taken, parsed⟩ := bind_eq_ok_iff.mp parsed
    split at parsed
    · cases parsed
    · rename_i known
      have recognized : s.unrecognized = [] := by simpa using known
      split at parsed
      · rename_i unnamed
        cases parsed
        exact ⟨ws, s, sorted, taken, recognized, rfl, fun name given => by
          rw [unnamed] at given
          cases given⟩
      · rename_i name given
        split at parsed
        · cases parsed
        · rename_i scalar
          split at parsed
          · cases parsed
          · rename_i whole
            split at parsed
            · cases parsed
            · rename_i listed
              cases parsed
              refine ⟨ws, s, sorted, taken, recognized, rfl, fun name' given' => ?_⟩
              rw [given] at given'
              cases given'
              exact ⟨Bool.eq_false_iff.mpr scalar, Bool.eq_false_iff.mpr whole,
                Option.isSome_iff_ne_none.mpr fun absent =>
                  listed (Option.isNone_iff_eq_none.mpr absent)⟩
  · rintro ⟨ws, s, sorted, taken, recognized, rfl, known⟩
    refine bind_eq_ok_iff.mpr ⟨ws, sorted, bind_eq_ok_iff.mpr ⟨s, taken, ?_⟩⟩
    rw [recognized]
    cases given : s.options.locale.nonempty? with
    | none => rfl
    | some name =>
      obtain ⟨scalar, whole, listed⟩ := known name given
      obtain ⟨separator, listed⟩ := Option.isSome_iff_exists.mp listed
      simp only [List.isEmpty_nil, scalar, whole, listed]
      rfl

/-! ## Options, then operands -/

/-- The words set options and do nothing else. -/
structure Sets (locale : Text → Option Text) (opts : List Text) (o : Options) : Prop where
  parsed : parse locale opts = .ok o
  noDashes : dashes ∉ opts
  noOperand : o.format = none

/-- How a list of arguments is written: as it is, where no word of it is taken for an option;
behind two dashes, where none of its words is two dashes; or with two dashes before and behind its
first word, since one pair of those is dropped. -/
inductive Passes : List Text → List Text → Prop
  | plain {args : List Text} (operands : ∀ t ∈ args, t ≠ dashes ∧ wordOf t = .ok (.operand t)) :
      Passes args args
  | behindDashes {args : List Text} (noDashes : dashes ∉ args) : Passes (dashes :: args) args
  | amidDashes (first : Text) (rest : List Text) :
      Passes (dashes :: first :: dashes :: rest) (first :: rest)

/-- The words are those of the arguments, whether a format stands before them or not. -/
structure Operands (us : List Word) (args : List Text) : Prop where
  raw : ∀ w ∈ us, w.raw?.isSome = true
  alone : (assign us).1.toList ++ (assign us).2 = args
  behind : ∀ t, t ≠ dashes → assign (.operand t :: us) = (some t, args)

theorem Sets.read (sets : Sets locale opts o) :
    ∃ ws, words opts = .ok ws ∧ CommandLine.read State.initial ws = .ok ⟨o, [], false, []⟩ ∧
      o.arguments = [] ∧ o.LocaleKnown locale := by
  obtain ⟨ws, s, sorted, taken, recognized, rfl, known⟩ := parse_eq_ok_iff.mp sets.parsed
  have tidy := State.Tidy.initial.read (raw?_of_mem_words sets.noDashes sorted) taken
  have unassigned : s.assigned = false :=
    Bool.eq_false_iff.mpr fun assigned => tidy.assigned assigned sets.noOperand
  have empty := run_of_read taken unassigned
  refine ⟨ws, sorted, ?_, tidy.unassigned unassigned, known⟩
  obtain ⟨options, run, assigned, unrecognized⟩ := s
  cases empty
  cases unassigned
  cases recognized
  exact taken

/-- Of operands that stand as arguments, the first two dashes are dropped. -/
theorem arguments_operands (argv : List Text) :
    withoutDashes ((argv.map .operand).dropWhile Word.isTerminator) = argv.erase dashes := by
  have operands : (argv.map Word.operand).dropWhile Word.isTerminator = argv.map .operand := by
    cases argv <;> rfl
  rw [operands, withoutDashes, List.filterMap_map]
  exact congrArg (List.erase · dashes) List.filterMap_some

/-- A format, and what stands behind it. -/
theorem assign_behind (plain : t ≠ dashes) (us : List Word) :
    assign (.operand t :: us) = (some t, withoutDashes (us.dropWhile Word.isTerminator)) :=
  Prod.ext (assign_operand plain us) rfl

/-- Operands alone, behind the two dashes that end the options. -/
theorem assign_terminator (first : Text) (rest : List Text) :
    assign (.terminator :: .operand first :: rest.map .operand) =
      (some first, rest.erase dashes) := by
  refine Prod.ext ?_ (arguments_operands rest)
  have dropped (us : List Word) :
      withoutDashes (.terminator :: .operand first :: us) = first :: us.filterMap Word.raw? :=
    List.erase_cons_head ..
  exact congrArg List.head? (dropped ((rest.map .operand).takeWhile Word.isTerminator))

theorem Passes.operands {tail args : List Text} (passes : Passes tail args) :
    ∃ us, words tail = .ok us ∧ Operands us args := by
  cases passes with
  | plain operands =>
    have noDashes : dashes ∉ tail := fun member => (operands _ member).1 rfl
    refine ⟨_, words_operands operands, by simp [Word.raw?], ?_, fun t plain => ?_⟩
    · cases tail with
      | nil => rfl
      | cons first rest =>
        rw [List.map_cons, assign_behind (operands first List.mem_cons_self).1, arguments_operands,
          List.erase_of_not_mem (mt (List.mem_cons_of_mem first) noDashes)]
        rfl
    · rw [assign_behind plain, arguments_operands, List.erase_of_not_mem noDashes]
  | @behindDashes args noDashes =>
    refine ⟨_, words_dashes args, by simp [Word.raw?], ?_, fun t plain => ?_⟩
    · cases args with
      | nil => rfl
      | cons first rest =>
        rw [List.map_cons, assign_terminator,
          List.erase_of_not_mem (mt (List.mem_cons_of_mem first) noDashes)]
        rfl
    · rw [assign_behind plain, List.dropWhile_cons_of_pos rfl, arguments_operands,
        List.erase_of_not_mem noDashes]
  | amidDashes first rest =>
    refine ⟨_, words_dashes _, by simp [Word.raw?], ?_, fun t plain => ?_⟩
    · rw [List.map_cons, assign_terminator, List.erase_cons_head]
      rfl
    · rw [assign_behind plain, List.dropWhile_cons_of_pos rfl, arguments_operands]
      by_cases same : first = dashes
      · rw [same, List.erase_cons_head]
      · rw [List.erase_cons_tail (by simpa using same), List.erase_cons_head]

theorem options_close (format : o.format = none) (arguments : o.arguments = [])
    (run : List Word) :
    (State.close ⟨o, run.reverse, false, []⟩).options =
      { o with format := (assign run).1, arguments := (assign run).2 } := by
  unfold State.close
  cases run with
  | nil =>
    cases o
    cases format
    cases arguments
    rfl
  | cons w rest => simp

/-- Reading goes on behind the options. -/
theorem Sets.parse_append (sets : Sets locale opts o) {s : State} (sorted : words more = .ok vs)
    (taken : CommandLine.read ⟨o, [], false, []⟩ vs = .ok s) (recognized : s.unrecognized = [])
    (sameLocale : s.options.locale = o.locale) : parse locale (opts ++ more) = .ok s.options := by
  obtain ⟨ws, sorted', taken', -, known⟩ := sets.read
  refine parse_eq_ok_iff.mpr ⟨ws ++ vs, s, ?_, ?_, recognized, rfl, ?_⟩
  · rw [words_append sets.noDashes sorted', sorted]
    rfl
  · rw [read_append taken' rfl, taken]
  · intro name given
    exact known name (sameLocale ▸ given)

end ExtendedFormat.CommandLine
