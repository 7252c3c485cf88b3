/-!
# Qualities of service

How often a message may arrive.

* `Quality`, `Quality.level`, `Quality.ofLevel?`, `Quality.name`.
-/

namespace LockFleet

/-- How often a message may arrive. -/
inductive Quality where
  | atMostOnce
  | atLeastOnce
  | exactlyOnce
  deriving DecidableEq, Repr, Inhabited

namespace Quality

/-- The number of a quality. -/
def level : Quality → Nat
  | atMostOnce => 0
  | atLeastOnce => 1
  | exactlyOnce => 2

/-- The quality of a number. -/
def ofLevel? : Nat → Option Quality
  | 0 => some atMostOnce
  | 1 => some atLeastOnce
  | 2 => some exactlyOnce
  | _ => none

/-- The name in descriptions. -/
def name : Quality → String
  | atMostOnce => "AtMostOnce"
  | atLeastOnce => "AtLeastOnce"
  | exactlyOnce => "ExactlyOnce"

end Quality

end LockFleet
