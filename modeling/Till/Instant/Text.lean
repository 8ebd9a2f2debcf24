import Till.Instant.Basic
import Till.Text.Blank

/-!
# Instants as text

An instant is written in UTC as `2024-03-01T09:00:00.250Z`: the fraction has the fewest of 0, 3, 6
or 9 digits that are exact, a leap second is the second of the number 60, and a year outside 0 to
9999 carries its sign.

* `Instant.text` : the written form, and `Instant.keptText`, that with the offset `+00:00` in which a
  store keeps instants;
* `Instant.ofText?` : reads an instant with a mandatory offset.  It is more generous than the
  written form: numbers may have fewer digits, blanks may stand between the parts, the date and the
  time may be joined by a blank or a small `t`, and the offset may be `Z`, `UTC`, `+01:00` or
  `+0100`;
* `Instant.keptBefore` : the order in which a store keeps instants, that of their kept texts.
-/

namespace Till

namespace Instant

/-! ### Writing -/

/-- A number in decimal digits, filled with zeros to the given width. -/
def padded (width : Nat) (n : Nat) : List Char :=
  let digits := (toString n).toList
  List.replicate (width - digits.length) '0' ++ digits

/-- A year: four digits, or a sign and at least four digits outside 0 to 9999. -/
def yearText (year : Int) : List Char :=
  if 0 ≤ year ∧ year ≤ 9999 then padded 4 year.toNat
  else (if year < 0 then '-' else '+') :: padded 4 year.natAbs

/-- The fraction of a second with the fewest digits, in groups of three. -/
def fractionText (nanos : Nat) : List Char :=
  if nanos = 0 then []
  else if nanos % 1000000 = 0 then '.' :: padded 3 (nanos / 1000000)
  else if nanos % 1000 = 0 then '.' :: padded 6 (nanos / 1000)
  else '.' :: padded 9 nanos

/-- The date and the time of an instant, without an offset. -/
def bareText (t : Instant) : List Char :=
  let d := t.date
  let minutes := t.minuteOfDay.toNat
  let nanos := t.within.toNat
  yearText d.year ++ '-' :: padded 2 d.month ++ '-' :: padded 2 d.day ++
    'T' :: padded 2 (minutes / 60) ++ ':' :: padded 2 (minutes % 60) ++
    ':' :: padded 2 (nanos / 1000000000) ++ fractionText (nanos % 1000000000)

/-- An instant as text. -/
def text (t : Instant) : String := String.ofList (t.bareText ++ ['Z'])

/-- An instant as a store keeps it. -/
def keptText (t : Instant) : String := String.ofList (t.bareText ++ "+00:00".toList)

/-- Whether a store keeps one instant before another.  Instants of the years 0 to 9999 are in
order of time; the signs of other years are compared as characters. -/
def keptBefore (a b : Instant) : Bool :=
  if a.hasPlainYear && b.hasPlainYear then decide (a < b)
  else Text.charsBefore (a.bareText ++ "+00:00".toList) (b.bareText ++ "+00:00".toList)

/-! ### Reading -/

/-- Reads up to `most` decimal digits, at least one, onto the number read so far. -/
def readDigits : Nat → List Char → Option (Nat × List Char)
  | most, cs =>
    let digits := (cs.takeWhile Char.isDigit).take most
    if digits.isEmpty then none
    else some (digits.foldl (fun n c => n * 10 + (c.toNat - '0'.toNat)) 0, cs.drop digits.length)

/-- Reads a number after any blanks. -/
def readNumber (most : Nat) (cs : List Char) : Option (Nat × List Char) :=
  readDigits most (cs.dropWhile Text.isBlank)

/-- Reads a character after any blanks. -/
def readMark (mark : Char) (cs : List Char) : Option (List Char) :=
  match cs.dropWhile Text.isBlank with
  | c :: rest => if c = mark then some rest else none
  | [] => none

/-- Reads a year: up to four digits, or a sign and any number of digits. -/
def readYear (cs : List Char) : Option (Int × List Char) :=
  match cs.dropWhile Text.isBlank with
  | '-' :: rest => (readDigits rest.length rest).map fun (n, rest) => (-(n : Int), rest)
  | '+' :: rest => (readDigits rest.length rest).map fun (n, rest) => ((n : Int), rest)
  | rest => (readDigits 4 rest).map fun (n, rest) => ((n : Int), rest)

/-- Reads a date. -/
def readDate (cs : List Char) : Option (Calendar.Date × List Char) := do
  let (year, cs) ← readYear cs
  let cs ← readMark '-' cs
  let (month, cs) ← readNumber 2 cs
  let cs ← readMark '-' cs
  let (day, cs) ← readNumber 2 cs
  let date : Calendar.Date := ⟨year, month, day⟩
  if date.isValid then some (date, cs) else none

/-- Reads the fraction of a second in nanoseconds, if there is one; digits beyond the ninth are
passed over. -/
def readFraction : List Char → Option (Nat × List Char)
  | '.' :: cs => do
    let digits := (cs.takeWhile Char.isDigit).take 9
    let (n, _) ← readDigits 9 cs
    some (n * Nat.pow 10 (9 - digits.length), cs.dropWhile Char.isDigit)
  | cs => some (0, cs)

/-- Reads a time of day: the minute of the day and the nanoseconds within it.  Every minute may have
a second of the number 60. -/
def readTime (cs : List Char) : Option ((Nat × Nat) × List Char) := do
  let (hour, cs) ← readNumber 2 cs
  let cs ← readMark ':' cs
  let (minute, cs) ← readNumber 2 cs
  let cs ← readMark ':' cs
  let (second, cs) ← readNumber 2 cs
  let (nanos, cs) ← readFraction cs
  if hour < 24 ∧ minute < 60 ∧ second ≤ 60 then
    some ((hour * 60 + minute, second * 1000000000 + nanos), cs)
  else none

/-- Reads two digits below a bound. -/
def readTwoDigits (bound : Nat) : List Char → Option (Nat × List Char)
  | a :: b :: rest =>
    if a.isDigit && b.isDigit then
      let n := (a.toNat - '0'.toNat) * 10 + (b.toNat - '0'.toNat)
      if n < bound then some (n, rest) else none
    else none
  | _ => none

/-- Reads hours and minutes of an offset, in minutes. -/
def readClockOffset (cs : List Char) : Option (Nat × List Char) := do
  let (hours, cs) ← readTwoDigits 24 cs
  let cs := cs.dropWhile fun c => c == ':' || Text.isBlank c
  let (minutes, cs) ← readTwoDigits 60 cs
  some (hours * 60 + minutes, cs)

/-- Reads the offset from UTC in minutes, after any blanks. -/
def readOffset (cs : List Char) : Option (Int × List Char) :=
  match cs.dropWhile Text.isBlank with
  | 'Z' :: rest => some (0, rest)
  | 'z' :: rest => some (0, rest)
  | '+' :: rest => (readClockOffset rest).map fun (n, rest) => ((n : Int), rest)
  | '-' :: rest => (readClockOffset rest).map fun (n, rest) => (-(n : Int), rest)
  | '−' :: rest => (readClockOffset rest).map fun (n, rest) => (-(n : Int), rest)
  | u :: t :: c :: rest =>
    if u.toUpper = 'U' ∧ t.toUpper = 'T' ∧ c.toUpper = 'C' then some (0, rest) else none
  | _ => none

/-- Reads an instant. -/
def ofText? (s : String) : Option Instant := do
  let (date, cs) ← readDate s.toList
  let cs ← match cs with
    | c :: rest => if c = 'T' ∨ c = 't' ∨ c = ' ' then some rest else none
    | [] => none
  let ((minute, within), cs) ← readTime cs
  let (offset, cs) ← readOffset cs
  let minute := Calendar.dayNumber date * minutesPerDay + minute
  let here := ofMinute minute within
  let t := ofMinute (minute - offset) within
  if cs.all Text.isBlank ∧ IsRepresentable here ∧ IsRepresentable t then some t else none

end Instant

end Till
