/-
  Calendar — days, and times of day.

  The calendar is the Gregorian one, carried back to the year 1.  A day has a number, counted from the
  first day of that year; a time with an offset from universal time has an instant, and two such times
  are the same if their instants are, however different the clocks are that show them.
-/
namespace TapeLang

/-- A day of the calendar. -/
structure Date where
  /-- The year, from 1 to 9999. -/
  year : Nat
  /-- The month, from 1 to 12. -/
  month : Nat
  /-- The day of the month. -/
  day : Nat
  deriving DecidableEq

/-- A time of day, with the offset from universal time in minutes if one is given. -/
structure TimeOfDay where
  /-- The hour, from 0 to 23. -/
  hour : Nat
  /-- The minute, from 0 to 59. -/
  minute : Nat
  /-- The second, from 0 to 59. -/
  second : Nat
  /-- Millionths of a second. -/
  micro : Nat
  /-- The offset from universal time, in minutes. -/
  offset : Option Int
  deriving DecidableEq

namespace Date

/-- Whether a year has a leap day. -/
def isLeap (year : Nat) : Bool := year % 4 == 0 && (year % 100 != 0 || year % 400 == 0)

/-- The number of days in a month. -/
def daysIn (year month : Nat) : Nat :=
  if month = 2 then (if isLeap year then 29 else 28)
  else if month = 4 ∨ month = 6 ∨ month = 9 ∨ month = 11 then 30
  else 31

/-- The number of a day, the first day of the year 1 being the first. -/
def number (d : Date) : Nat :=
  let past := d.year - 1
  past * 365 + past / 4 - past / 100 + past / 400 +
    (List.range (d.month - 1)).foldl (fun n m => n + daysIn d.year (m + 1)) 0 + d.day

end Date

/-- Millionths of a second from the start of the year 1 to a time on a day, by a clock that shows the
    given offset from universal time. -/
def TimeOfDay.instant (t : TimeOfDay) (d : Date) (offset : Int) : Int :=
  ((((d.number : Int) * 24 + t.hour) * 60 + t.minute - offset) * 60 + t.second) * 1000000 + t.micro

/-- Whether two times are the same.  With offsets it is the instant that counts, without them what the
    clock shows; a time with an offset is never the same as one without. -/
def TimeOfDay.same (d : Date) (t : TimeOfDay) (e : Date) (u : TimeOfDay) : Bool :=
  match t.offset, u.offset with
  | some a, some b => t.instant d a == u.instant e b
  | none, none => d == e && t == u
  | _, _ => false

example : (Date.mk 2024 3 1).number - (Date.mk 2024 2 28).number = 2 := by decide
example : TimeOfDay.same ⟨2024, 1, 1⟩ ⟨0, 30, 0, 0, some 60⟩ ⟨2023, 12, 31⟩ ⟨23, 30, 0, 0, some 0⟩ := by
  decide

end TapeLang
