import Cosim.Trace.Event

namespace Cosim.Align.Retirement

open Cosim.Trace

def splitGroup (pc : Int) : List Event → List StateChange × List Event
  | [] => ([], [])
  | .fetch w :: rest => ([], .fetch w :: rest)
  | .change c :: rest =>
    if c.pc = pc then
      let (group, left) := splitGroup pc rest
      (c :: group, left)
    else ([], .change c :: rest)
  | e :: rest =>
    match splitGroup pc rest with
    | ([], _) => ([], e :: rest)
    | (c :: group, left) => (c :: group, left)

def next (pc : Int) (events : List Event) : List StateChange × List Event :=
  match events.dropWhile fun e => !e.changesAt pc with
  | [] => ([], events)
  | found => splitGroup pc found

/-- The events from an index on. An index below zero counts from the end, and after the end the
events start over; before the first event there is none. -/
def eventsFrom? (events : List Event) (cursor : Int) : Option (List Event) :=
  if 0 ≤ cursor then some (events.drop cursor.toNat)
  else if events.length < cursor.natAbs then none
  else some (events.drop (events.length - cursor.natAbs) ++ events)

def nextFrom? (events : List Event) (cursor pc : Int) : Option (List StateChange × Int) :=
  (eventsFrom? events cursor).map fun found =>
    match next pc found with
    | ([], _) => ([], cursor)
    | (group, left) => (group, cursor + (found.length - left.length : Nat))

end Cosim.Align.Retirement
