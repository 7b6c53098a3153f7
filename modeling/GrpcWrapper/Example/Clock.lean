import GrpcWrapper.Library.Decimal

/-!
# The clock service

The example server answers with the time since it was started, in one of four
formats.  A time is a number of nanoseconds, and `duration_cast` to a coarser
unit truncates toward zero.  The system clock may have been set back, so the
time may be negative.
-/

namespace Grpcw.Example

open Decimal

/-- `protocol::Format`.  A message may hold a value that the enumeration does not have. -/
inductive Format where
  | compound
  | hours
  | minutes
  | seconds
  | unrecognized (value : Int)
deriving DecidableEq

/-- Nanoseconds in an hour. -/
def hour : Int := 3600000000000

/-- Nanoseconds in a minute. -/
def minute : Int := 60000000000

/-- Nanoseconds in a second. -/
def second : Int := 1000000000

/-- `make_pretty_time_string` -/
def makePrettyTimeString (duration : Int) : String :=
  let hours := duration.tdiv hour
  let minutes := (duration - hours * hour).tdiv minute
  let seconds := (duration - hours * hour - minutes * minute).tdiv second
  toString hours ++ "h  " ++ toString minutes ++ "m  " ++ toString seconds ++ "s"

/-- `get_time`: the `display_time` it sets.  It always returns `OK`. -/
def getTime (format : Format) (timeSinceServerStart : Int) : String :=
  match format with
  | .compound => makePrettyTimeString timeSinceServerStart
  | .hours => toString (timeSinceServerStart.tdiv hour) ++ "h"
  | .minutes => toString (timeSinceServerStart.tdiv minute) ++ "m"
  | .seconds => toString (timeSinceServerStart.tdiv second) ++ "s"
  | .unrecognized _ => ""

end Grpcw.Example
