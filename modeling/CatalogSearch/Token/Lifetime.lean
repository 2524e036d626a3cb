import CatalogSearch.Value.Integer

/-!
# Lifetimes

A lifetime is given in seconds and counted in microseconds. A token that is issued now expires at
now plus its lifetime, cut to whole seconds. Both the lifetime and the moment must be ones that a
calendar of the years 1 to 9999 can hold.
-/

namespace CatalogSearch

/-- Why a lifetime cannot be used. -/
inductive LifetimeError where
  | undefined
  | unbounded
  | wrongKind (kind : String)
  /-- More days than a counter of 32 bits holds. -/
  | uncountable
  /-- More days than a lifetime may have. -/
  | tooLong (days : Int)
  /-- A moment outside the calendar. -/
  | outsideCalendar
  deriving DecidableEq, Repr

def LifetimeError.message : LifetimeError → String
  | undefined => IntegerError.undefined.message
  | unbounded => IntegerError.unbounded.message
  | wrongKind kind => "unsupported type for timedelta seconds component: " ++ kind
  | uncountable => "Python int too large to convert to C int"
  | tooLong days => "days=" ++ toString days ++ "; must have magnitude <= 999999999"
  | outsideCalendar => "date value out of range"

namespace Lifetime

/-- Microseconds to a second. -/
def microseconds : Int := 1000000

/-- Microseconds to a day. -/
def day : Int := 86400 * microseconds

def maxDays : Int := 999999999

/-- The first second of the year 1. -/
def firstSecond : Int := -62135596800

/-- The last second of the year 9999. -/
def lastSecond : Int := 253402300799

/-- The microseconds of a part of a second, to the nearest one, a tie going to the even one. -/
def ofFraction (negative : Bool) (units : Nat) : Int :=
  let scaled := Binary64.ofRatio false (units * microseconds.natAbs) Place.unitsPerOne
  match scaled.place with
  | .point n => Text.signed negative (Binary64.roundHalfEven n.natAbs Place.unitsPerOne)
  | _ => 0

/-- The microseconds of a number of seconds. -/
def ofSeconds (v : Value) : Except LifetimeError Int :=
  match v.asInteger?, v with
  | some i, _ => .ok (i * microseconds)
  | none, .float x =>
    match x.place with
    | .point units =>
      .ok (units.tdiv Place.unitsPerOne * microseconds +
        ofFraction (decide (units < 0)) (units.natAbs % Place.unitsPerOne))
    | .nowhere => .error .undefined
    | _ => .error .unbounded
  | none, v => .error (.wrongKind v.kind)

/-- The lifetime, if it has not too many days. -/
def bounded (lifetime : Int) : Except LifetimeError Int :=
  let days := lifetime.fdiv day
  if days < -Int.pow 2 31 || Int.pow 2 31 ≤ days then .error .uncountable
  else if (maxDays : Int) < days.natAbs then .error (.tooLong days)
  else .ok lifetime

/-- The whole seconds of the moment at the end of a lifetime that begins now. -/
def expiry (now : Int) (seconds : Value) : Except LifetimeError Int := do
  let lifetime ← bounded (← ofSeconds seconds)
  let moment := now * microseconds + lifetime
  if moment < firstSecond * microseconds || (lastSecond + 1) * microseconds ≤ moment then
    throw .outsideCalendar
  else
    match (Binary64.ofRatio (decide (moment < 0)) moment.natAbs microseconds.natAbs).truncate? with
    | some i => return i
    | none => throw .outsideCalendar

end Lifetime

end CatalogSearch
