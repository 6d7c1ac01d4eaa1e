import BlobTree.Text.Units

/-!
# BlobTree.Yaml.Moment

Times as documents write them: a date, or a date and a time of day with an offset from UTC. A
time is the number of milliseconds since the beginning of 1970. Months, days, hours and minutes
that are too great carry over, and the years 0 to 99 are those from 1900 on.

* `Moment.read?`: the time that a text gives. `Moment.text`: a time as a key of a record.
-/

namespace BlobTree
namespace Yaml
namespace Moment

/-- The number in between `least` and `most` digits, and what follows them. -/
def number? (least most : Nat) (s : Name) : Option (Nat × Name) :=
  let digits := (s.take most).takeWhile Char.isDigit
  if digits.length < least then none
  else some (digits.foldl (fun n d => 10 * n + (d.toNat - '0'.toNat)) 0, s.drop digits.length)

def mark? (c : Char) : Name → Option Name
  | x :: rest => if x = c then some rest else none
  | [] => none

def isGap (c : Char) : Bool :=
  c = ' ' || c = '\t'

/-- Days from the beginning of 1970 to a date, in years that begin in March. -/
def days (year month day : Int) : Int :=
  let months := 12 * (if year < 100 then year + 1900 else year) + month - 3
  let year := months / 12
  let month := months % 12
  365 * year + year / 4 - year / 100 + year / 400 + (153 * month + 2) / 5 + day - 719469

/-- A date with so many digits for the month and for the day, as days, and what follows it. -/
def date? (least : Nat) (s : Name) : Option (Int × Name) := do
  let (year, r) ← number? 4 4 s
  let (month, r) ← number? least 2 (← mark? '-' r)
  let (day, r) ← number? least 2 (← mark? '-' r)
  return (days year month day, r)

/-- The first three decimals of a fraction, as milliseconds. -/
def thousandths (s : Name) : Nat :=
  ((s.takeWhile Char.isDigit ++ ['0', '0', '0']).take 3).foldl
    (fun n d => 10 * n + (d.toNat - '0'.toNat)) 0

/-- Hours, minutes, seconds and perhaps a fraction, as milliseconds, and what follows them. -/
def clock? (s : Name) : Option (Int × Name) := do
  let (hour, r) ← number? 1 2 s
  let (minute, r) ← number? 2 2 (← mark? ':' r)
  let (second, r) ← number? 2 2 (← mark? ':' r)
  let whole := ((hour * 60 + minute) * 60 + second) * 1000
  match r with
  | '.' :: r => return (whole + thousandths r, r.dropWhile Char.isDigit)
  | r => return (whole, r)

/-- The offset from UTC that may end a time, as milliseconds: `Z`, or a sign and hours and
perhaps minutes. -/
def zone? (s : Name) : Option Int :=
  match s.dropWhile isGap with
  | [] => if s.isEmpty then some 0 else none
  | ['Z'] => some 0
  | sign :: r => do
    if sign ≠ '+' ∧ sign ≠ '-' then none
    else
      let (hours, r) ← number? 1 2 r
      let (minutes, r) ← match r with
        | [] => some (0, [])
        | r => number? 2 2 (← mark? ':' r)
      let offset : Int := (hours * 60 + minutes) * 60000
      if r.isEmpty then some (if sign = '-' then -offset else offset) else none

/-- What follows the mark between a date and a time of day. -/
def gap? : Name → Option Name
  | 'T' :: r | 't' :: r => some r
  | c :: r => if isGap c then some (r.dropWhile isGap) else none
  | [] => none

def read? (s : Name) : Option Int :=
  match date? 2 s with
  | some (days, []) => some (days * 86400000)
  | _ => do
    let (days, r) ← date? 1 s
    let (clock, r) ← clock? (← gap? r)
    return days * 86400000 + clock - (← zone? r)

def padded (width n : Nat) : String :=
  let digits := toString n
  String.ofList (List.replicate (width - digits.length) '0') ++ digits

/-- Names of the days of the week, beginning with that of the first day of 1970. -/
def weekdays : List String :=
  ["Thu", "Fri", "Sat", "Sun", "Mon", "Tue", "Wed"]

def months : List String :=
  ["Jan", "Feb", "Mar", "Apr", "May", "Jun", "Jul", "Aug", "Sep", "Oct", "Nov", "Dec"]

/-- The year, the month (from 1) and the day of a number of days since the beginning of 1970. -/
def civil (days : Int) : Int × Nat × Nat :=
  let n := days + 719468
  let era := n / 146097
  let d := (n % 146097).toNat
  let y := (d - d / 1460 + d / 36524 - d / 146096) / 365
  let d := d - (365 * y + y / 4 - y / 100)
  let m := (5 * d + 2) / 153
  let year := 400 * era + y
  (if m < 10 then year else year + 1, if m < 10 then m + 3 else m - 9, d - (153 * m + 2) / 5 + 1)

def text (time : Int) : String :=
  let day := time / 86400000
  let seconds := (time % 86400000).toNat / 1000
  let (year, month, date) := civil day
  let clock := ":".intercalate <|
    [seconds / 3600, seconds / 60 % 60, seconds % 60].map (padded 2)
  " ".intercalate [weekdays[(day % 7).toNat]?.getD "", months[month - 1]?.getD "", padded 2 date,
    padded 4 year.toNat, clock, "GMT+0000 (Coordinated Universal Time)"]

end Moment
end Yaml
end BlobTree
