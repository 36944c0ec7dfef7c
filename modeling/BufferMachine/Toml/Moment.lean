import BufferMachine.Number.Decimal
import BufferMachine.Toml.Fault

/-!
# Dates and times in TOML

A date has a year, a month and a day, a time has hours, minutes, seconds and perhaps a fraction of a
second.  Both together may have a zone: a letter, or hours and minutes by which the clock is ahead
or behind.

`moment` reads one and gives the form in which it is shown.
-/

namespace BufferMachine.Toml

inductive MomentKind where
  | date
  | time
  | dateTime
  | zonedDateTime
deriving DecidableEq, Repr

structure Date where
  year : Nat
  month : Nat
  day : Nat
deriving DecidableEq, Repr

structure Clock where
  hour : Nat
  minute : Nat
  second : Nat
  /-- The digits of the fraction of the second, at most nine. -/
  fraction : Bytes := []
deriving DecidableEq, Repr

/-! ### Text -/

def padded (places n : Nat) : Bytes :=
  let digits := Decimal.ofNat n
  List.replicate (places - digits.length) (byte '0') ++ digits

def Date.text (d : Date) : Bytes :=
  padded 4 d.year ++ bytes "-" ++ padded 2 d.month ++ bytes "-" ++ padded 2 d.day

def Clock.whole (c : Clock) : Bytes :=
  padded 2 c.hour ++ bytes ":" ++ padded 2 c.minute ++ bytes ":" ++ padded 2 c.second

/-- The text of a time with its fraction as it was given. -/
def Clock.text (c : Clock) : Bytes :=
  c.whole ++ if c.fraction.isEmpty then [] else byte '.' :: c.fraction

/-! ### Calendar -/

def daysIn (year month : Nat) : Nat :=
  if month = 2 then if year % 4 = 0 && (year % 100 != 0 || year % 400 = 0) then 29 else 28
  else if month = 4 || month = 6 || month = 9 || month = 11 then 30
  else 31

def Date.next (d : Date) : Date :=
  if d.day < daysIn d.year d.month then { d with day := d.day + 1 }
  else if d.month < 12 then { d with month := d.month + 1, day := 1 }
  else ⟨d.year + 1, 1, 1⟩

/-- The minute after a leap second begins. -/
def afterLeapSecond (d : Date) (c : Clock) : Date × Clock :=
  if c.second < 60 then (d, c)
  else if c.minute < 59 then (d, { c with minute := c.minute + 1, second := 0 })
  else if c.hour < 23 then (d, { c with hour := c.hour + 1, minute := 0, second := 0 })
  else (d.next, { c with hour := 0, minute := 0, second := 0 })

/-! ### Reading -/

def digits (text : Bytes) : Except Fault Nat :=
  if text.all Decimal.isDigit then .ok (Decimal.value text) else .error .noDigit

/-- Part of a text, by where it starts and how long it is. -/
def part (text : Bytes) (start count : Nat) : Bytes := (text.drop start).take count

def date (text : Bytes) : Except Fault Date :=
  if text.length != 10 || text[4]? != some (byte '-') || text[7]? != some (byte '-') then
    .error .badDate
  else do
    let year ← digits (part text 0 4)
    let month ← digits (part text 5 2)
    let day ← digits (part text 8 2)
    if month = 0 || 12 < month || day = 0 || daysIn year month < day then .error .impossibleDate
    else return ⟨year, month, day⟩

/-- Reads the fraction of a second, if there is one, and gives what follows. -/
def secondFraction (text : Bytes) : Except Fault (Bytes × Bytes) :=
  match text with
  | [] => .ok ([], [])
  | b :: rest =>
    if b != byte '.' then .ok ([], text)
    else
      let found := rest.takeWhile Decimal.isDigit
      if !found.isEmpty then .ok (found.take 9, rest.drop found.length)
      else if rest.isEmpty then .error .noFractionDigit
      else .error .pointWithoutDigit

/-- Reads a time at the head of a text, and gives what follows. -/
def clock (text : Bytes) : Except Fault (Clock × Bytes) :=
  if text.length < 8 then .error .badTime
  else do
    let hour ← digits (part text 0 2)
    if 23 < hour then throw .hourTooLarge
    if text[2]? != some (byte ':') then throw .noColonAfterHour
    let minute ← digits (part text 3 2)
    if 59 < minute then throw .minuteTooLarge
    if text[5]? != some (byte ':') then throw .noColonAfterMinute
    let second ← digits (part text 6 2)
    if 60 < second then throw .secondTooLarge
    let (fraction, rest) ← secondFraction (text.drop 8)
    return (⟨hour, minute, second, fraction⟩, rest)

/-- Reads a date and a time at the head of a text, and gives what follows. -/
def dateTime (text : Bytes) : Except Fault (Date × Clock × Bytes) :=
  if text.length < 11 then .error .badMoment
  else do
    let day ← date (part text 0 10)
    let separator := (text[10]?).getD 0
    if separator != byte 'T' && separator != byte 't' && separator != byte ' ' then
      throw .badSeparator
    let (time, rest) ← clock (text.drop 11)
    return (day, time, rest)

/-- Reads a zone, and gives it as it is shown: by how far the clock is ahead, and its name if it has
one. -/
def zone (text : Bytes) : Except Fault Bytes :=
  let universal := bytes "+0000 UTC"
  match text with
  | [] => .error .badZone
  | sign :: rest =>
    if sign = byte 'Z' || sign = byte 'z' then
      if rest.isEmpty then .ok universal else .error .afterZone
    else if text.length != 6 then .error .badZone
    else if sign != byte '-' && sign != byte '+' then .error .badZoneSign
    else if text[3]? != some (byte ':') then .error .noColonInZone
    else do
      let hours ← digits (part text 1 2)
      if 23 < hours then throw .zoneHourTooLarge
      let minutes ← digits (part text 4 2)
      if 59 < minutes then throw .zoneMinuteTooLarge
      if hours = 0 && minutes = 0 then return universal
      let shift := sign :: padded 2 hours ++ padded 2 minutes
      return shift ++ bytes " " ++ shift

/-- Reads a date or a time of some kind, and gives it as it is shown. -/
def moment (kind : MomentKind) (text : Bytes) : Except Fault Bytes :=
  match kind with
  | .date => do return (← date text).text
  | .time => do
    let (time, rest) ← clock text
    if rest.isEmpty then return time.text else throw .afterTime
  | .dateTime => do
    let (day, time, rest) ← dateTime text
    if rest.isEmpty then return day.text ++ bytes "T" ++ time.text else throw .afterMoment
  | .zonedDateTime => do
    let (day, time, rest) ← dateTime text
    let shift ← zone rest
    let (day, time) := afterLeapSecond day time
    let fraction := (time.fraction.reverse.dropWhile (· == byte '0')).reverse
    return day.text ++ bytes " " ++ ({ time with fraction } : Clock).text ++ bytes " " ++ shift

end BufferMachine.Toml
