/-! # RFC 3339 timestamps

A timestamp is `YYYY-MM-DD`, then `T`, `t` or a space, then `hh:mm:ss` with an optional
fraction of one or more digits (only the first nine count), then `Z`, `z` or an offset
`±hh:mm` whose sign may also be the minus sign U+2212. Fields must lie in their ranges
(a second of 60 is a leap second), the day must exist in its month, and the offset must
be less than a day. A timestamp is read as milliseconds since 1970-01-01T00:00:00Z;
during a leap second the milliseconds count on past the 59th second.
-/

namespace ScimQuery.Timestamp

/-- Reads exactly `n` ASCII digits. -/
def digits : Nat → List Char → Option (Nat × List Char)
  | 0, cs => some (0, cs)
  | n + 1, cs =>
    match cs with
    | c :: rest =>
      if c.isDigit then
        (digits n rest).map fun (v, r) => ((c.toNat - '0'.toNat) * Nat.pow 10 n + v, r)
      else none
    | [] => none

/-- Reads one expected character. -/
def expect (c : Char) : List Char → Option (List Char)
  | d :: rest => if d = c then some rest else none
  | [] => none

/-- Whether a year is a leap year of the Gregorian calendar. -/
def isLeap (y : Nat) : Bool := y % 4 = 0 && (y % 100 != 0 || y % 400 = 0)

/-- The number of days of a month. -/
def monthDays (y m : Nat) : Nat :=
  match m with
  | 2 => if isLeap y then 29 else 28
  | 4 | 6 | 9 | 11 => 30
  | _ => 31

/-- Days from 1970-01-01 to a date of the proleptic Gregorian calendar. -/
def daysFromCivil (y m d : Nat) : Int :=
  let y' : Int := (y : Int) - (if m ≤ 2 then 1 else 0)
  let era := y' / 400
  let yoe := y' - era * 400
  let mp : Int := if m > 2 then (m : Int) - 3 else (m : Int) + 9
  let doy := (153 * mp + 2) / 5 + (d : Int) - 1
  let doe := yoe * 365 + yoe / 4 - yoe / 100 + doy
  era * 146097 + doe - 719468

/-- Reads the fraction of a second after its point: one to nine digits scaled to
nanoseconds, further digits skipped. -/
def fraction (cs : List Char) : Option (Nat × List Char) :=
  let ds := cs.takeWhile Char.isDigit
  if ds.isEmpty then none
  else
    let used := ds.take 9
    let v := used.foldl (fun n c => n * 10 + (c.toNat - '0'.toNat)) 0
    some (v * Nat.pow 10 (9 - used.length), cs.dropWhile Char.isDigit)

/-- Reads the offset in seconds east of UTC. -/
def offset (cs : List Char) : Option (Int × List Char) :=
  match cs with
  | c :: rest =>
    if c = 'Z' || c = 'z' then some (0, rest)
    else
      let sign : Option Int :=
        if c = '+' then some 1 else if c = '-' || c = '−' then some (-1) else none
      match sign with
      | none => none
      | some sign => do
        let (h, rest) ← digits 2 rest
        let rest ← expect ':' rest
        match rest with
        | m1 :: m2 :: rest' =>
          if '0' ≤ m1 ∧ m1 ≤ '5' ∧ m2.isDigit then
            some (sign * ((h : Int) * 3600 + ((m1.toNat - '0'.toNat) * 10 + (m2.toNat - '0'.toNat) : Nat) * 60), rest')
          else none
        | _ => none
  | [] => none

/-- Reads a timestamp as milliseconds since the epoch. -/
def parseMillis? (s : String) : Option Int := do
  let cs := s.toList
  let (y, cs) ← digits 4 cs
  let cs ← expect '-' cs
  let (mo, cs) ← digits 2 cs
  let cs ← expect '-' cs
  let (d, cs) ← digits 2 cs
  let cs ← match cs with
    | c :: rest => if c = 'T' || c = 't' || c = ' ' then some rest else none
    | [] => none
  let (h, cs) ← digits 2 cs
  let cs ← expect ':' cs
  let (mi, cs) ← digits 2 cs
  let cs ← expect ':' cs
  let (sec, cs) ← digits 2 cs
  let (nano, cs) ← match cs with
    | '.' :: rest => fraction rest
    | _ => some (0, cs)
  let (off, cs) ← offset cs
  if !cs.isEmpty then none
  else if !(1 ≤ mo ∧ mo ≤ 12 ∧ 1 ≤ d ∧ d ≤ 31 ∧ h ≤ 23 ∧ mi ≤ 59 ∧ sec ≤ 60) then none
  else if off.natAbs > (23 * 60 + 59) * 60 then none
  else if d > monthDays y mo then none
  else
    let (sec, nano) := if sec = 60 then (59, nano + 1000000000) else (sec, nano)
    let seconds := daysFromCivil y mo d * 86400 + (h * 3600 + mi * 60 + sec : Nat) - off
    some (seconds * 1000 + (nano / 1000000 : Nat))

end ScimQuery.Timestamp
