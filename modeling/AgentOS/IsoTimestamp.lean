import AgentOS.Domain

/-! Timestamps as they are written. A text is accepted with any offset and with up to
six digits of a second; the instant it names is counted in microseconds. -/
namespace AgentOS

structure TimestampParts where
  year : Nat
  month : Nat
  day : Nat
  hour : Nat
  minute : Nat
  second : Nat
  fraction : List Char
  offset : Option (Bool × Nat × Nat)
  deriving DecidableEq

def digits (group : List Char) : Option Nat :=
  if group.all Char.isDigit then some (group.foldl (fun number digit => number * 10 + (digit.toNat - 48)) 0) else none

/-- `Z`, or hours and minutes ahead of or behind it. -/
def matchOffset : List Char → Option (Option (Bool × Nat × Nat))
  | ['Z'] => some none
  | [sign,h1,h2,':',m1,m2] =>
    if sign = '+' ∨ sign = '-' then do
      let hours ← digits [h1,h2]
      let minutes ← digits [m1,m2]
      some (some (sign = '+',hours,minutes))
    else none
  | _ => none

def matchFraction : List Char → Option (List Char × List Char)
  | '.' :: rest =>
    let fraction := rest.takeWhile Char.isDigit
    if 1 ≤ fraction.length ∧ fraction.length ≤ 6 then some (fraction,rest.dropWhile Char.isDigit) else none
  | rest => some ([],rest)

def matchTimestamp (text : String) : Option TimestampParts :=
  match text.toList with
  | y1 :: y2 :: y3 :: y4 :: '-' :: o1 :: o2 :: '-' :: d1 :: d2 :: 'T' :: h1 :: h2 :: ':' :: m1 :: m2 :: ':' :: s1 :: s2 :: rest => do
    let year ← digits [y1,y2,y3,y4]
    let month ← digits [o1,o2]
    let day ← digits [d1,d2]
    let hour ← digits [h1,h2]
    let minute ← digits [m1,m2]
    let second ← digits [s1,s2]
    let (fraction,zone) ← matchFraction rest
    let offset ← matchOffset zone
    some {year := year,month := month,day := day,hour := hour,minute := minute,second := second,fraction := fraction,offset := offset}
  | _ => none

namespace TimestampParts

def leapYear (year : Nat) : Bool := year % 4 = 0 && (year % 100 ≠ 0 || year % 400 = 0)

def daysInMonth (year : Nat) : List Nat := [31,if leapYear year then 29 else 28,31,30,31,30,31,31,30,31,30,31]

variable (parts : TimestampParts)

def hasValidCalendarParts : Bool :=
  let offsetHour := (parts.offset.map fun offset => offset.2.1).getD 0
  let offsetMinute := (parts.offset.map fun offset => offset.2.2).getD 0
  1 ≤ parts.month && parts.month ≤ 12 && 1 ≤ parts.day && parts.day ≤ (daysInMonth parts.year)[parts.month - 1]?.getD 0 &&
    parts.hour ≤ 23 && parts.minute ≤ 59 && parts.second ≤ 59 && offsetHour ≤ 14 && offsetMinute ≤ 59 &&
    (offsetHour < 14 || offsetMinute = 0)

def days (year month day : Int) : Int :=
  -- Years are counted from March, so that the leap day comes last.
  let shifted := if month ≤ 2 then year - 1 else year
  let era := shifted.fdiv 400
  let yearOfEra := shifted - era * 400
  let dayOfYear := (153 * (if month > 2 then month - 3 else month + 9) + 2) / 5 + day - 1
  era * 146097 + (yearOfEra * 365 + yearOfEra / 4 - yearOfEra / 100 + dayOfYear) - 719468

def utcMilliseconds : Int :=
  ((days parts.year parts.month parts.day * 24 + parts.hour) * 60 + parts.minute) * 60000 + parts.second * 1000

def offsetMinutes : Int :=
  match parts.offset with
  | none => 0
  | some (ahead,hours,minutes) => (if ahead then 1 else -1) * (hours * 60 + minutes)

def fractionMicroseconds : Int :=
  ((digits (parts.fraction ++ List.replicate (6 - parts.fraction.length) '0')).getD 0 : Nat)

end TimestampParts

structure IsoTimestamp where
  text : String
  parts : TimestampParts
  matched : matchTimestamp text = some parts
  valid : parts.hasValidCalendarParts = true

def isoTimestamp (value : String) : Except Fault IsoTimestamp :=
  match matched : matchTimestamp value with
  | none => .error (.error "timestamp must be an ISO 8601 string")
  | some parts =>
    if valid : parts.hasValidCalendarParts = true then .ok ⟨value,parts,matched,valid⟩
    else .error (.error "timestamp must be an ISO 8601 string")

namespace IsoTimestamp

def epochMicroseconds (value : IsoTimestamp) : Int :=
  (value.parts.utcMilliseconds - value.parts.offsetMinutes * 60000) * 1000 + value.parts.fractionMicroseconds

/-- The instant as a date reads it: what is less than a millisecond is cut off. -/
def dateParse (value : IsoTimestamp) : Instant := value.epochMicroseconds.fdiv 1000

end IsoTimestamp
end AgentOS
