import AdminConsole.Time.Calendar

/-!
# Moments

A moment is kept as its date and time of day in UTC, to the nanosecond. A leap second counts as
part of the second before it, whose nanoseconds then run on past one billion.
-/

namespace AdminConsole.Time

/-- A moment in UTC. -/
structure Moment where
  date : Date
  hour : Nat
  minute : Nat
  second : Nat
  nanosecond : Nat
  deriving Repr, DecidableEq, Inhabited

namespace Moment

/-- Seconds from the start of 1970. -/
def seconds (m : Moment) : Int :=
  m.date.dayNumber * 86400 + (m.hour * 3600 + m.minute * 60 + m.second : Nat)

/-- The moment so many seconds after the start of 1970, with a part of a second. -/
def ofSeconds (s : Int) (nanosecond : Nat) : Moment :=
  let day := s.fdiv 86400
  let rest := (s - day * 86400).toNat
  ⟨.ofDayNumber day, rest / 3600, rest / 60 % 60, rest % 60, nanosecond⟩

/-- The moment so many seconds earlier. -/
def before (m : Moment) (s : Int) : Moment :=
  if s = 0 then m else ofSeconds (m.seconds - s) m.nanosecond

/-- Nanoseconds from one moment to a later one; negative if it is earlier. -/
def since (later earlier : Moment) : Int :=
  (later.seconds - earlier.seconds) * 1000000000 +
    ((later.nanosecond : Int) - (earlier.nanosecond : Int))

/-- Whole minutes from one moment to a later one, cut off towards zero. -/
def minutesSince (later earlier : Moment) : Int := (later.since earlier).tdiv 60000000000

end Moment

end AdminConsole.Time
