/-
# ExtendedFormat.Proofs.Command.Options -- how reading a command line ends

Words are sorted and read until one of them asks for help or misuses an option; nothing else
stops the reading (`CommandLine.stop_of_read`).  Only then is the locale looked at, and
that can fail otherwise, for a name that no locale can have (`CommandLine.LocaleFails`).

An identifier of a resource was read from a numeral, so it can be shown (`Options.Short`).
-/
import ExtendedFormat.Command
import ExtendedFormat.Proofs.Number.Bounds
import ExtendedFormat.Proofs.Outcome

namespace ExtendedFormat.CommandLine

set_option autoImplicit false

open Outcome

/-! ## Why reading stops -/

/-- The tool answers this stop itself, by its help or by a complaint. -/
def Stop.IsAnswered : Stop → Prop
  | .help | .error _ => True
  | .failure _ => False

variable {argv rest : List Text} {word : Text} {ws : List Word} {o o' : Options} {s s' : State}
  {stop : Stop} {locale : Text → Option Text}

theorem stop_of_wordOf (stopped : wordOf word = .error stop) : stop.IsAnswered := by
  unfold wordOf at stopped
  split at stopped
  · cases stopped
  split at stopped
  · cases stopped
  split at stopped
  · cases stopped
  unfold optionLike at stopped
  simp only at stopped
  split at stopped
  · cases stopped
  · cases stopped
  · split at stopped
    · split at stopped
      · cases stopped
      · cases stopped
      · cases stopped
        trivial
    · split at stopped <;> cases stopped

theorem stop_of_words (stopped : words argv = .error stop) : stop.IsAnswered := by
  induction argv with
  | nil => cases stopped
  | cons word rest ih =>
    rw [words] at stopped
    split at stopped
    · cases stopped
    · rcases bind_eq_error_iff.mp stopped with first | ⟨w, -, later⟩
      · exact stop_of_wordOf first
      · rcases bind_eq_error_iff.mp later with more | ⟨ws, -, never⟩
        · exact ih more
        · cases never

theorem stop_of_setFlag {f : Flag} (stopped : setFlag o f = .error stop) : stop.IsAnswered := by
  cases f <;> cases stopped <;> trivial

theorem stop_of_setValue {f : Flag} {v : Text} (stopped : setValue o f v = .error stop) :
    stop.IsAnswered := by
  cases f with
  | formatFile =>
    simp only [setValue] at stopped
    split at stopped <;> cases stopped
    trivial
  | resourceFormat =>
    simp only [setValue] at stopped
    split at stopped
    · cases stopped
      trivial
    · split at stopped
      · cases stopped
        trivial
      · split at stopped <;> cases stopped
        trivial
  | argsFile | resources | separator | locale => cases stopped
  | help | legacy | strict | newline | explain | noColor =>
    cases stopped
    trivial

theorem stop_of_withOptions {r : Except Stop Options}
    (stopped : s.withOptions r = .error stop) : r = .error stop := map_eq_error_iff.mp stopped

theorem stop_of_read (stopped : read s ws = .error stop) : stop.IsAnswered := by
  fun_induction read s ws with
  | case1 => cases stopped
  | case2 s word rest ih => exact ih stopped
  | case3 s rest ih => exact ih stopped
  | case4 s word rest closed ih => exact ih stopped
  | case5 => cases stopped; trivial
  | case6 => cases stopped; trivial
  | case7 s f v rest closed ih =>
    rcases bind_eq_error_iff.mp stopped with now | ⟨s', -, later⟩
    · exact stop_of_setValue (stop_of_withOptions now)
    · exact ih s' later
  | case8 s f takes v rest closed ih =>
    rcases bind_eq_error_iff.mp stopped with now | ⟨s', -, later⟩
    · exact stop_of_setValue (stop_of_withOptions now)
    · exact ih s' later
  | case9 => cases stopped; trivial
  | case10 s f rest plain closed ih =>
    rcases bind_eq_error_iff.mp stopped with now | ⟨s', -, later⟩
    · exact stop_of_setFlag (stop_of_withOptions now)
    · exact ih s' later

/-! ## The locale -/

/-- The command line could be read, and no locale can have the name that it gives. -/
inductive LocaleFails (argv : List Text) : Failure → Prop
  | half {ws : List Word} {s : State} {name : Text} (sorted : words argv = .ok ws)
      (taken : read State.initial ws = .ok s) (given : s.options.locale.nonempty? = some name)
      (surrogate : name.any CodePoint.isSurrogate = true) : LocaleFails argv .loneSurrogate
  | nul {ws : List Word} {s : State} {name : Text} (sorted : words argv = .ok ws)
      (taken : read State.initial ws = .ok s) (given : s.options.locale.nonempty? = some name)
      (zero : (name.any fun c => c.val == 0) = true) : LocaleFails argv .nulInName

theorem localeFails_of_parse {e : Failure} (failed : parse locale argv = .error (.failure e)) :
    LocaleFails argv e := by
  unfold parse at failed
  rcases bind_eq_error_iff.mp failed with sorting | ⟨ws, sorted, failed⟩
  · exact (stop_of_words sorting).elim
  · rcases bind_eq_error_iff.mp failed with taking | ⟨s, taken, failed⟩
    · exact (stop_of_read taking).elim
    · split at failed
      · cases failed
      · split at failed
        · cases failed
        · rename_i name given
          split at failed
          · rename_i surrogate
            cases failed
            exact .half sorted taken given surrogate
          · split at failed
            · rename_i zero
              cases failed
              exact .nul sorted taken given zero
            · split at failed <;> cases failed

/-! ## The identifier of the format -/

/-- The identifier of the resource that is the format can be shown. -/
def Options.Short (o : Options) : Prop :=
  ∀ n, o.resourceFormat = .value n → n.natAbs < 10 ^ Numeral.digitLimit

theorem short_initial : Options.initial.Short := by
  intro n given
  cases given

theorem Options.Short.setFlag {f : Flag} (short : o.Short)
    (set : CommandLine.setFlag o f = .ok o') : o'.Short := by
  cases f <;> cases set <;> exact short

theorem natAbs_lt_of_setting {v : Setting Text} {n : Int} (read : v.int? = some (.value n)) :
    n.natAbs < 10 ^ Numeral.digitLimit := by
  cases v with
  | unset | blank => cases read
  | value t =>
    obtain ⟨m, numeral, same⟩ := Option.map_eq_some_iff.mp read
    cases same
    exact Numeral.natAbs_lt_of_int? numeral

theorem Options.Short.setValue {f : Flag} {v : Text} (short : o.Short)
    (set : CommandLine.setValue o f v = .ok o') : o'.Short := by
  cases f with
  | formatFile =>
    simp only [CommandLine.setValue] at set
    split at set <;> cases set
    exact short
  | resourceFormat =>
    simp only [CommandLine.setValue] at set
    split at set
    · cases set
    · rename_i id read
      split at set
      · cases set
      · split at set <;> cases set
        intro n given
        exact natAbs_lt_of_setting (read.trans (congrArg some given))
  | argsFile | resources | separator | locale =>
    cases set
    exact short
  | help | legacy | strict | newline | explain | noColor => cases set

theorem Options.Short.close (short : s.options.Short) : s.close.options.Short := by
  unfold State.close
  split
  · exact short
  · exact short

theorem Options.Short.operand (short : s.options.Short) (w : Word) :
    (s.operand w).options.Short := by
  unfold State.operand
  split
  · exact short
  · exact short

theorem short_withOptions {r : Except Stop Options} (set : s.withOptions r = .ok s')
    (each : ∀ o', r = .ok o' → o'.Short) : s'.options.Short := by
  obtain ⟨o', made, rfl⟩ := map_eq_ok_iff.mp set
  exact each o' made

theorem Options.Short.read (short : s.options.Short) (taken : CommandLine.read s ws = .ok s') :
    s'.options.Short := by
  fun_induction CommandLine.read s ws with
  | case1 =>
    cases taken
    exact short.close
  | case2 s word rest ih => exact ih (short.operand _) taken
  | case3 s rest ih => exact ih (short.operand _) taken
  | case4 s word rest closed ih => exact ih short.close taken
  | case5 => cases taken
  | case6 => cases taken
  | case7 s f v rest closed ih =>
    obtain ⟨t, set, taken⟩ := bind_eq_ok_iff.mp taken
    exact ih t (short_withOptions set fun _ => short.close.setValue) taken
  | case8 s f takes v rest closed ih =>
    obtain ⟨t, set, taken⟩ := bind_eq_ok_iff.mp taken
    exact ih t (short_withOptions set fun _ => short.close.setValue) taken
  | case9 => cases taken
  | case10 s f rest plain closed ih =>
    obtain ⟨t, set, taken⟩ := bind_eq_ok_iff.mp taken
    exact ih t (short_withOptions set fun _ => short.close.setFlag) taken

theorem short_of_parse (parsed : parse locale argv = .ok o) : o.Short := by
  unfold parse at parsed
  obtain ⟨ws, -, parsed⟩ := bind_eq_ok_iff.mp parsed
  obtain ⟨s, taken, parsed⟩ := bind_eq_ok_iff.mp parsed
  have short := short_initial.read taken
  split at parsed
  · cases parsed
  · split at parsed
    · cases parsed
      exact short
    · split at parsed
      · cases parsed
      · split at parsed
        · cases parsed
        · split at parsed <;> cases parsed
          exact short

end ExtendedFormat.CommandLine
