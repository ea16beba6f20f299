/-! Dates of the proleptic Gregorian calendar and moments with an optional fixed offset; building
one names the first field out of range. -/

namespace AdocLint

structure Date where
  year : Nat
  month : Nat
  day : Nat
  deriving Repr, Inhabited, DecidableEq

structure Moment where
  date : Date
  hour : Nat
  minute : Nat
  second : Nat
  micro : Nat
  offset : Option Int
  deriving Repr, Inhabited, DecidableEq

namespace Date

def isLeap (y : Nat) : Bool := y % 4 == 0 && (y % 100 != 0 || y % 400 == 0)

def daysIn (year month : Nat) : Nat :=
  if month == 2 then (if isLeap year then 29 else 28)
  else if [4, 6, 9, 11].contains month then 30 else 31

def make (year month day : Nat) : Except String Date :=
  if year < 1 || year > 9999 then .error s!"year {year} is out of range"
  else if month < 1 || month > 12 then .error "month must be in 1..12"
  else if day < 1 || day > daysIn year month then .error "day is out of range for month"
  else .ok ⟨year, month, day⟩

def ordinal (d : Date) : Nat :=
  let y := d.year - 1
  let before := y * 365 + y / 4 - y / 100 + y / 400
  let months := (List.range (d.month - 1)).foldl (fun acc m => acc + daysIn d.year (m + 1)) 0
  before + months + d.day

def literal (d : Date) : String := s!"datetime.date({d.year}, {d.month}, {d.day})"

end Date

def checkOffset (seconds : Int) : Except String Int :=
  if -86400 < seconds && seconds < 86400 then .ok seconds
  else .error ("offset must be a timedelta strictly between -timedelta(hours=24) and " ++
    "timedelta(hours=24), not " ++ durationLiteral seconds ++ ".")
where
  durationLiteral (seconds : Int) : String :=
    let days := Int.fdiv seconds 86400
    let rest := Int.fmod seconds 86400
    let parts := (if days != 0 then [s!"days={days}"] else []) ++
      (if rest != 0 then [s!"seconds={rest}"] else [])
    if parts.isEmpty then "datetime.timedelta(0)"
    else "datetime.timedelta(" ++ ", ".intercalate parts ++ ")"

namespace Moment

def make (year month day hour minute second micro : Nat) (offset : Option Int) :
    Except String Moment := do
  let offset ← match offset with
    | some s => some <$> checkOffset s
    | none => pure none
  let date ← Date.make year month day
  if hour > 23 then throw "hour must be in 0..23"
  if minute > 59 then throw "minute must be in 0..59"
  if second > 59 then throw "second must be in 0..59"
  if micro > 999999 then throw "microsecond must be in 0..999999"
  return ⟨date, hour, minute, second, micro, offset⟩

def localMicros (t : Moment) : Int :=
  (((t.date.ordinal * 24 + t.hour) * 60 + t.minute) * 60 + t.second) * 1000000 + t.micro

def same (a b : Moment) : Bool :=
  match a.offset, b.offset with
  | some x, some y => a.localMicros - x * 1000000 == b.localMicros - y * 1000000
  | none, none => a == b
  | _, _ => false

def zoneLiteral (seconds : Int) : String :=
  if seconds == 0 then "datetime.timezone.utc"
  else "datetime.timezone(" ++ checkOffset.durationLiteral seconds ++ ")"

def literal (t : Moment) : String :=
  let d := t.date
  let clock :=
    if t.micro != 0 then s!", {t.hour}, {t.minute}, {t.second}, {t.micro}"
    else if t.second != 0 then s!", {t.hour}, {t.minute}, {t.second}"
    else s!", {t.hour}, {t.minute}"
  let zone := match t.offset with
    | some s => ", tzinfo=" ++ zoneLiteral s
    | none => ""
  s!"datetime.datetime({d.year}, {d.month}, {d.day}" ++ clock ++ zone ++ ")"

end Moment

end AdocLint
