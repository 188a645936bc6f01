/-
# ExtendedFormat.Proofs.Directive.Jobs -- the jobs that a directive hands to the host

Each of the four callbacks has a job (`Job`).  `Specification.Asks` lists the directives that
hand a job to the host: decimals that are grouped, wide strings and characters, and the two
look-ups.  What a directive makes of its argument depends on the callbacks for the jobs that it
asks for, and on no others (`Directive.field_of_agree`).
-/
import ExtendedFormat.Render

namespace ExtendedFormat

set_option autoImplicit false

/-! ## Callbacks by their job -/

inductive Job where
  | groupDigits
  | transcode
  | resolveResource
  | resolveSystemError

def Job.Callback : Job → Type
  | .groupDigits => Text → Bool → Except Failure Text
  | .transcode => List UInt16 → Except Failure Value
  | .resolveResource => Value → Except Failure Value
  | .resolveSystemError => Int → Except Failure Value

namespace Callbacks

def get (cb : Callbacks) : (job : Job) → Option job.Callback
  | .groupDigits => cb.groupDigits
  | .transcode => cb.transcode
  | .resolveResource => cb.resolveResource
  | .resolveSystemError => cb.resolveSystemError

theorem eq_of_get {a b : Callbacks} (same : ∀ job, a.get job = b.get job) : a = b := by
  cases a
  cases b
  have group := same .groupDigits
  have transcode := same .transcode
  have resource := same .resolveResource
  have systemError := same .resolveSystemError
  simp only [get] at group transcode resource systemError
  rw [group, transcode, resource, systemError]

end Callbacks

/-! ## Who asks -/

/-- The directive hands the job to the host. -/
inductive Specification.Asks (s : Specification) : Job → Prop
  | grouped (flag : s.kFlag = true) (decimal : s.conversion.name ∈ ["d", "i", "u"]) :
      Asks s .groupDigits
  | legacyGrouped (operation : s.conversion.name ∈ ["kd", "ku", "kt", "kI64d", "kI64u"]) :
      Asks s .groupDigits
  | wide (letter : s.conversion.name ∈ ["C", "S"]) : Asks s .transcode
  | long (letter : s.conversion.name ∈ ["c", "s", "v"]) (length : s.length = some .long) :
      Asks s .transcode
  | resource (operation : s.conversion.name = "kr") : Asks s .resolveResource
  | systemError (operation : s.conversion.name = "ke") : Asks s .resolveSystemError

namespace Specification

variable {s : Specification}

theorem asks_iff {job : Job} : s.Asks job ↔
    match job with
    | .groupDigits => s.kFlag = true ∧ s.conversion.name ∈ ["d", "i", "u"] ∨
        s.conversion.name ∈ ["kd", "ku", "kt", "kI64d", "kI64u"]
    | .transcode => s.conversion.name ∈ ["C", "S"] ∨
        s.conversion.name ∈ ["c", "s", "v"] ∧ s.length = some .long
    | .resolveResource => s.conversion.name = "kr"
    | .resolveSystemError => s.conversion.name = "ke" := by
  constructor
  · intro asks
    cases asks with
    | grouped flag decimal => exact .inl ⟨flag, decimal⟩
    | legacyGrouped operation => exact .inr operation
    | wide letter => exact .inl letter
    | long letter length => exact .inr ⟨letter, length⟩
    | resource operation | systemError operation => exact operation
  · intro listed
    cases job with
    | groupDigits => exact listed.elim (fun both => .grouped both.1 both.2) .legacyGrouped
    | transcode => exact listed.elim .wide fun both => .long both.1 both.2
    | resolveResource => exact .resource listed
    | resolveSystemError => exact .systemError listed

instance (s : Specification) : (job : Job) → Decidable (s.Asks job)
  | .groupDigits | .transcode | .resolveResource | .resolveSystemError =>
    decidable_of_iff _ asks_iff.symm

theorem asks_of_isWide (isWide : s.isWide = true) : s.Asks .transcode := by
  unfold Specification.isWide at isWide
  split at isWide
  · rename_i conversion
    exact .wide (by rw [conversion]; decide)
  · rename_i conversion
    exact .wide (by rw [conversion]; decide)
  · rename_i conversion
    exact .long (by rw [conversion]; decide) (by simpa using isWide)
  · rename_i conversion
    exact .long (by rw [conversion]; decide) (by simpa using isWide)
  · rename_i conversion
    exact .long (by rw [conversion]; decide) (by simpa using isWide)
  · cases isWide

/-- Of the letters for numbers, those with base ten are grouped by the flag. -/
theorem asks_of_decimal {l : Letter} (conversion : s.conversion = .standard l)
    (integral : l.isIntegral = true) (flag : s.kFlag = true) (ten : (Render.radix l).1 = 10) :
    s.Asks .groupDigits := by
  refine .grouped flag ?_
  rw [conversion]
  revert integral ten
  cases l <;> decide

theorem asks_of_legacy {op : LegacyOp} (conversion : s.conversion = .legacy op)
    (operation : op.name ∈ ["kd", "ku", "kt", "kI64d", "kI64u"]) : s.Asks .groupDigits :=
  .legacyGrouped (by rw [conversion]; exact operation)

end Specification

/-! ## Two hosts that agree -/

variable {cb cb' : Callbacks}

namespace Callbacks

theorem group_of_agree (agree : cb.groupDigits = cb'.groupDigits) (number : Text) (signed : Bool) :
    cb.group number signed = cb'.group number signed := by
  rw [group, group, agree]

theorem transcoded_of_agree (agree : cb.transcode = cb'.transcode) (units : List UInt16) :
    cb.transcoded units = cb'.transcoded units := by
  rw [transcoded, transcoded, agree]

theorem resource_of_agree (agree : cb.resolveResource = cb'.resolveResource) (key : Int) :
    cb.resource key = cb'.resource key := by
  rw [resource, resource, agree]

theorem systemError_of_agree (agree : cb.resolveSystemError = cb'.resolveSystemError)
    (key : Int) : cb.systemError key = cb'.systemError key := by
  rw [systemError, systemError, agree]

end Callbacks

namespace Render

/-- A numeral that is not grouped is the same with any callbacks. -/
theorem number_of_agree {base : Nat} {upper grouped : Bool}
    (agree : grouped = true → base = 10 → cb.groupDigits = cb'.groupDigits) (n : Int) :
    number cb base upper grouped n = number cb' base upper grouped n := by
  unfold number
  by_cases both : (grouped && base == 10) = true
  · obtain ⟨asked, ten⟩ := Bool.and_eq_true_iff.mp both
    have same := agree asked (by simpa using ten)
    simp only [Callbacks.group_of_agree same]
  · simp only [if_neg both]

theorem wideText_of_agree (agree : cb.transcode = cb'.transcode) (k : Bool)
    (units : List UInt16) : wideText cb k units = wideText cb' k units := by
  rw [wideText, wideText, Callbacks.transcoded_of_agree agree]

variable {d : Directive}

theorem char_of_agree (agree : d.isWide = true → cb.transcode = cb'.transcode) (c : Cursor) :
    char cb d c = char cb' d c := by
  unfold char
  split
  · rename_i isWide
    have same := wideText_of_agree (agree isWide) d.kFlag
    rw [funext same]
  · rfl

theorem string_of_agree (agree : d.isWide = true → cb.transcode = cb'.transcode)
    (extent : Accept.Extent) (c : Cursor) : string cb d extent c = string cb' d extent c := by
  unfold string
  split
  · rename_i isWide
    have same := wideText_of_agree (agree isWide) d.kFlag
    rw [funext same]
  · rfl

theorem integer_of_agree {l : Letter}
    (agree : d.kFlag = true → (radix l).1 = 10 → cb.groupDigits = cb'.groupDigits) (c : Cursor) :
    integer cb d l c = integer cb' d l c := by
  have same (n : Int) := @number_of_agree cb cb' (radix l).1 (radix l).2 d.kFlag agree n
  unfold integer
  simp only [funext same]

theorem legacy_of_agree {op : LegacyOp} (conversion : d.conversion = .legacy op)
    (agree : ∀ job, d.Asks job → cb.get job = cb'.get job) (c : Cursor) :
    legacy cb d c op = legacy cb' d c op := by
  have grouped (operation : op.name ∈ ["kd", "ku", "kt", "kI64d", "kI64u"]) :
      number cb 10 false true = number cb' 10 false true :=
    funext (number_of_agree fun _ _ =>
      agree .groupDigits (Specification.asks_of_legacy conversion operation))
  cases op with
  | grouped | groupedUnsigned | groupedSize | grouped64 | groupedUnsigned64 =>
    simp only [legacy, grouped (by decide)]
  | plural | plural64 | lastPlural | quoted => rfl
  | resource =>
    have same := agree .resolveResource (.resource (by rw [conversion]; rfl))
    simp only [legacy, funext (Callbacks.resource_of_agree same)]
  | systemError =>
    have same := agree .resolveSystemError (.systemError (by rw [conversion]; rfl))
    simp only [legacy, funext (Callbacks.systemError_of_agree same)]

end Render

namespace Directive

variable {d : Directive}

theorem content_of_agree (agree : ∀ job, d.Asks job → cb.get job = cb'.get job) (c : Cursor) :
    d.content cb c = d.content cb' c := by
  have wide (isWide : d.isWide = true) : cb.transcode = cb'.transcode :=
    agree .transcode (Specification.asks_of_isWide isWide)
  cases conversion : d.conversion with
  | legacy op =>
    simp only [content, conversion]
    exact Render.legacy_of_agree conversion agree c
  | standard l =>
    have decimal (integral : l.isIntegral = true) (flag : d.kFlag = true)
        (ten : (Render.radix l).1 = 10) : cb.groupDigits = cb'.groupDigits :=
      agree .groupDigits (Specification.asks_of_decimal conversion integral flag ten)
    simp only [content, conversion]
    cases l with
    | char | wideChar => exact Render.char_of_agree wide c
    | string | wideString => exact Render.string_of_agree wide .terminated c
    | view => exact Render.string_of_agree wide .view c
    | decimal | integer | unsigned | octal | hexLower | hexUpper =>
      exact Render.integer_of_agree (decimal rfl) c

/-- Callbacks for jobs that a directive does not ask for make no difference to it. -/
theorem field_of_agree (agree : ∀ job, d.Asks job → cb.get job = cb'.get job) (c : Cursor) :
    d.field cb c = d.field cb' c := by
  rw [field, field, content_of_agree agree]

end Directive

end ExtendedFormat
