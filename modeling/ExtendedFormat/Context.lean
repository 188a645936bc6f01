/-
# ExtendedFormat.Context -- callbacks for a stretch of time

A `Context` installs callbacks when it is entered and takes them back when it is
left.  Callbacks that it does not set stay as they are.

A context may be entered again before it is left.  It keeps what it found at each
entry.  Leaving it undoes every entry at once, the latest first, and forgets
them; so contexts that are properly nested can be left one by one, while a
context that is left twice does nothing the second time.
-/
import ExtendedFormat.Callbacks

namespace ExtendedFormat

set_option autoImplicit false

namespace Callbacks

/-- `settings` on top of `current`. -/
def overlay (settings current : Callbacks) : Callbacks where
  groupDigits := settings.groupDigits <|> current.groupDigits
  transcode := settings.transcode <|> current.transcode
  resolveResource := settings.resolveResource <|> current.resolveResource
  resolveSystemError := settings.resolveSystemError <|> current.resolveSystemError

/-- `current`, with those that `settings` sets put back to what they were. -/
def restore (settings before current : Callbacks) : Callbacks where
  groupDigits := if settings.groupDigits.isSome then before.groupDigits else current.groupDigits
  transcode := if settings.transcode.isSome then before.transcode else current.transcode
  resolveResource :=
    if settings.resolveResource.isSome then before.resolveResource else current.resolveResource
  resolveSystemError :=
    if settings.resolveSystemError.isSome then before.resolveSystemError
    else current.resolveSystemError

/-- One callback, laid over another and taken back. -/
theorem kept_under {α : Type} (setting before : Option α) :
    (if setting.isSome then before else setting <|> before) = before := by
  cases setting with
  | none => rfl
  | some a => rfl

theorem restore_overlay (settings before : Callbacks) :
    settings.restore before (settings.overlay before) = before := by
  simp only [restore, overlay, kept_under]

end Callbacks

structure Context where
  settings : Callbacks
  /-- What was in force at each entry not yet undone, the latest first. -/
  found : List Callbacks

namespace Context

def new (settings : Callbacks) : Context := ⟨settings, []⟩

/-- The context and the callbacks in force after entering it. -/
def enter (x : Context) (now : Callbacks) : Context × Callbacks :=
  ({ x with found := now :: x.found }, x.settings.overlay now)

/-- The context and the callbacks in force after leaving it. -/
def exit (x : Context) (now : Callbacks) : Context × Callbacks :=
  ({ x with found := [] },
    x.found.foldl (fun current before => x.settings.restore before current) now)

/-- Left after one entry, a context is as new, and what it found is back in force. -/
theorem exit_enter (settings before : Callbacks) :
    ((new settings).enter before).1.exit ((new settings).enter before).2 =
      (new settings, before) := by
  have back := Callbacks.restore_overlay settings before
  simp only [new, enter, exit, List.foldl_cons, List.foldl_nil, back]

end Context

end ExtendedFormat
