/-!
# Signed spans of time

A span is an exact number of nanoseconds, at most `2^63 - 1` milliseconds in
either direction.  The bound is symmetric, so negation and absolute value never
leave it.
-/

namespace Triage.Time

/-- The largest magnitude of a span, in nanoseconds. -/
def Span.limit : Int := 9223372036854775807 * 1000000

/-- A signed length of time. -/
@[ext]
structure Span where
  nanoseconds : Int
  lower : -Span.limit ≤ nanoseconds
  upper : nanoseconds ≤ Span.limit
deriving DecidableEq

namespace Span

/-- The span of exactly this many nanoseconds, when it is in range. -/
def ofNanoseconds? (nanoseconds : Int) : Option Span :=
  if inRange : -limit ≤ nanoseconds ∧ nanoseconds ≤ limit then
    some ⟨nanoseconds, inRange.1, inRange.2⟩
  else
    none

/-- The span of this many whole seconds, when it is in range. -/
def ofSeconds? (seconds : Int) : Option Span :=
  ofNanoseconds? (seconds * 1000000000)

/-- No time at all. -/
def zero : Span := ⟨0, by decide, by decide⟩

/-- Four minutes. -/
def fourMinutes : Span := ⟨240 * 1000000000, by decide, by decide⟩

instance : Inhabited Span := ⟨zero⟩

instance : Hashable Span := ⟨fun span => hash span.nanoseconds⟩

/-- The span in the other direction. -/
def neg (span : Span) : Span where
  nanoseconds := -span.nanoseconds
  lower := Int.neg_le_neg span.upper
  upper := by
    have := span.lower
    omega

instance : Neg Span := ⟨neg⟩

/-- The span without its direction. -/
def abs (span : Span) : Span where
  nanoseconds := span.nanoseconds.natAbs
  lower := by
    have : -limit ≤ 0 := by decide
    omega
  upper := by
    have := span.lower
    have := span.upper
    omega

instance : LE Span := ⟨fun first second => first.nanoseconds ≤ second.nanoseconds⟩

instance (first second : Span) : Decidable (first ≤ second) :=
  inferInstanceAs (Decidable (first.nanoseconds ≤ second.nanoseconds))

/-- Whole seconds, rounded toward zero. -/
def seconds (span : Span) : Int := span.nanoseconds.tdiv 1000000000

@[simp]
theorem neg_nanoseconds (span : Span) : (-span).nanoseconds = -span.nanoseconds := rfl

@[simp]
theorem abs_nanoseconds (span : Span) :
    span.abs.nanoseconds = (span.nanoseconds.natAbs : Int) := rfl

theorem le_iff {first second : Span} :
    first ≤ second ↔ first.nanoseconds ≤ second.nanoseconds := Iff.rfl

/-- Only the range of spans keeps a number of nanoseconds from being one. -/
theorem ofNanoseconds?_eq_some_iff {nanoseconds : Int} {span : Span} :
    ofNanoseconds? nanoseconds = some span ↔ span.nanoseconds = nanoseconds := by
  unfold ofNanoseconds?
  constructor
  · intro isSpan
    split at isSpan
    · cases isSpan
      rfl
    · contradiction
  · rintro rfl
    exact dif_pos ⟨span.lower, span.upper⟩

end Span

end Triage.Time
