import MudClient.Calendar.Moment

/-!
# Moments as text

* `directives`, `directive`: what one letter after a percent sign stands for
* `filled?`: a pattern with its directives filled in, if there are no other ones in it
* `Platform`: how other directives are filled in
* `format`: a pattern with its directives filled in
-/

set_option autoImplicit false

namespace MudClient.Calendar

def weekdayNames : List String :=
  ["Sunday", "Monday", "Tuesday", "Wednesday", "Thursday", "Friday", "Saturday"]

def monthNames : List String :=
  ["January", "February", "March", "April", "May", "June", "July", "August", "September",
    "October", "November", "December"]

def nameAt (names : List String) (n : Nat) : Text :=
  (names.getD n "").toList

def short (name : Text) : Text := name.take 3

/-! ## Parts of a moment -/

namespace Moment

/-- The number of the week in the year, weeks starting on the weekday `first`. The days before the first such
day are in week 0. -/
def weekFrom (first : Nat) (m : Moment) : Nat :=
  (m.date.dayOfYear + 6 - (m.weekday + 7 - first) % 7) / 7

def weekdayName (m : Moment) : Text := nameAt weekdayNames m.weekday

def monthName (m : Moment) : Text := nameAt monthNames (m.date.month - 1)

def timeOfDay (m : Moment) : Text :=
  Text.padded 2 m.hour ++ ':' :: Text.padded 2 m.minute ++ ':' :: Text.padded 2 m.second

end Moment

/-- Hours and minutes after a sign; seconds, and parts of them, only where there are any. -/
def Zone.offset (z : Zone) : Text :=
  match z.ahead with
  | none => []
  | some ahead =>
    let parts := ahead.natAbs
    let seconds := parts / 1000000
    (if ahead < 0 then '-' else '+') :: Text.padded 2 (seconds / 3600) ++
      Text.padded 2 (seconds % 3600 / 60) ++
      (if parts % 60000000 = 0 then [] else Text.padded 2 (seconds % 60)) ++
      (if parts % 1000000 = 0 then [] else '.' :: Text.padded 6 (parts % 1000000))

/-! ## Directives -/

/-- The letters that may follow a percent sign, and what each stands for. Names are English, a year with its
century has no leading zeros, and hours of half a day run from 1 to 12. -/
def directives : List (Char × (Moment → Text)) :=
  [('a', fun m => short m.weekdayName),
    ('A', Moment.weekdayName),
    ('w', fun m => Text.ofNat m.weekday),
    ('d', fun m => Text.padded 2 m.date.day),
    ('b', fun m => short m.monthName),
    ('B', Moment.monthName),
    ('m', fun m => Text.padded 2 m.date.month),
    ('y', fun m => Text.padded 2 (m.date.year % 100)),
    ('Y', fun m => Text.ofNat m.date.year),
    ('H', fun m => Text.padded 2 m.hour),
    ('I', fun m => Text.padded 2 ((m.hour + 11) % 12 + 1)),
    ('p', fun m => if m.hour < 12 then ['A', 'M'] else ['P', 'M']),
    ('M', fun m => Text.padded 2 m.minute),
    ('S', fun m => Text.padded 2 m.second),
    ('f', fun m => Text.padded 6 m.microsecond),
    ('z', fun m => m.zone.offset),
    ('Z', fun m => m.zone.name),
    ('j', fun m => Text.padded 3 m.date.dayOfYear),
    ('U', fun m => Text.padded 2 (m.weekFrom 0)),
    ('W', fun m => Text.padded 2 (m.weekFrom 1)),
    ('c', fun m => short m.weekdayName ++ ' ' :: short m.monthName ++ ' ' ::
      Text.aligned ' ' 2 m.date.day ++ ' ' :: m.timeOfDay ++ ' ' :: Text.ofNat m.date.year),
    ('x', fun m => Text.padded 2 m.date.month ++ '/' :: Text.padded 2 m.date.day ++ '/' ::
      Text.padded 2 (m.date.year % 100)),
    ('X', Moment.timeOfDay),
    ('G', fun m => Text.ofNat m.thursday.year),
    ('u', fun m => Text.ofNat ((m.weekday + 6) % 7 + 1)),
    ('V', fun m => Text.padded 2 ((m.thursday.dayOfYear - 1) / 7 + 1)),
    ('%', fun _ => ['%'])]

/-- What a letter after a percent sign stands for. -/
def directive (m : Moment) (c : Char) : Option Text :=
  (directives.lookup c).map fun shown => shown m

/-- A pattern with its directives filled in, if each percent sign in it begins one of them. -/
def filled? (m : Moment) : Text → Option Text
  | [] => some []
  | '\x00' :: _ => none
  | '%' :: c :: t => do
    let shown ← directive m c
    return shown ++ (← filled? m t)
  | ['%'] => none
  | c :: t => (filled? m t).map (c :: ·)

/-! ## Patterns -/

/-- How a moment is written by a pattern that has other directives in it, which differs between platforms. -/
class Platform where
  written : Moment → Text → Text

/-- A pattern with its directives filled in; a percent sign before any other letter, or at the end,
stands for itself. -/
def verbatim (m : Moment) : Text → Text
  | [] => []
  | '%' :: c :: t =>
    match directive m c with
    | some shown => shown ++ verbatim m t
    | none => '%' :: c :: verbatim m t
  | c :: t => c :: verbatim m t

/-- A platform that leaves other directives as they are. A pattern ends at its first null character. -/
instance : Platform where
  written m t := verbatim m (t.takeWhile (· ≠ '\x00'))

def format (platform : Platform) (m : Moment) (t : Text) : Text :=
  (filled? m t).getD (platform.written m t)

end MudClient.Calendar
