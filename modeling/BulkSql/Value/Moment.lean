/-! # Dates and times

Days and times are counted from the first of January 1970. The calendar runs from the year -262143 to the year
262142, so every difference of two moments fits the word it is sent in.
-/

namespace BulkSql

/-- The first and last day of the calendar. -/
def firstDay : Int := -96465293
def lastDay : Int := 95026236

def nanosecondsPerDay : Nat := 86400000000000

def microsecondsPerDay : Int := 86400000000

/-- A day, counted from the first of January 1970. -/
structure Date where
  days : Int
  first_le : firstDay ≤ days
  le_last : days ≤ lastDay
deriving DecidableEq, Repr

/-- A time of day in nanoseconds since midnight. -/
structure TimeOfDay where
  nanoseconds : Nat
  lt_day : nanoseconds < nanosecondsPerDay
deriving DecidableEq, Repr

/-- A day and a time of day, in microseconds since the start of the first of January 1970. -/
structure Timestamp where
  microseconds : Int
  first_le : firstDay * microsecondsPerDay ≤ microseconds
  lt_end : microseconds < (lastDay + 1) * microsecondsPerDay
deriving DecidableEq, Repr

def Date.ofDays? (days : Int) : Option Date :=
  if inside : firstDay ≤ days ∧ days ≤ lastDay then some ⟨days, inside.1, inside.2⟩ else none

def TimeOfDay.ofNanoseconds? (nanoseconds : Nat) : Option TimeOfDay :=
  if inside : nanoseconds < nanosecondsPerDay then some ⟨nanoseconds, inside⟩ else none

def Timestamp.ofMicroseconds? (microseconds : Int) : Option Timestamp :=
  if inside : firstDay * microsecondsPerDay ≤ microseconds ∧ microseconds < (lastDay + 1) * microsecondsPerDay then
    some ⟨microseconds, inside.1, inside.2⟩
  else none

end BulkSql
