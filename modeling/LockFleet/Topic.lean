/-!
# Topics

A topic is a text of levels between slashes.  Devices report on `device/<number>/<kind>` and are
addressed on `device/<number>/command` and `device/<number>/config`.  A filter selects topics: a
level `+` stands for any one level, and a level `#` for all that is left.

* `Topic.levels`: the levels of a text, at least one;
* `Topic.selects`: whether a filter selects a topic;
* `Topic.Address.ofTopic?`: the device and the last level of a topic;
* `Topic.command`, `Topic.config`, `Topic.report`: the topics of a device.
-/

namespace LockFleet.Topic

/-! ### Levels -/

/-- The levels of a text, split at each slash. -/
def splitLevels : List Char → List (List Char)
  | [] => [[]]
  | c :: cs =>
    if c = '/' then [] :: splitLevels cs
    else
      match splitLevels cs with
      | [] => [[c]]
      | level :: rest => (c :: level) :: rest

/-- The levels of a topic or filter. -/
def levels (text : String) : List String := (splitLevels text.toList).map String.ofList

/-- Whether the levels of a filter select the levels of a topic. -/
def levelsSelect : List String → List String → Bool
  | [], [] => true
  | [], _ :: _ => false
  | f :: fs, ts =>
    if f = "#" then true
    else
      match ts with
      | [] => false
      | t :: ts => if f = "+" ∨ f = t then levelsSelect fs ts else false

def selects (filter topic : String) : Bool := levelsSelect (levels filter) (levels topic)

/-! ### Addresses -/

/-- The parts of a topic that matter for a report. -/
structure Address where
  /-- The second level, not empty. -/
  device : String
  /-- The last level after the second, empty if there is none. -/
  last : String
  deriving DecidableEq, Repr

/-- The address that levels spell. -/
def Address.ofLevels? : List String → Option Address
  | _ :: device :: rest => if device = "" then none else some ⟨device, rest.getLast?.getD ""⟩
  | _ => none

/-- The address that a topic spells. -/
def Address.ofTopic? (topic : String) : Option Address := Address.ofLevels? (levels topic)

/-! ### The topics of a device -/

/-- The first level of every topic of a device. -/
def root : String := "device"

/-- The topic of a device that ends in a level. -/
def ofDevice (device last : String) : String := root ++ "/" ++ device ++ "/" ++ last

/-- The topic on which a device receives commands. -/
def command (device : String) : String := ofDevice device "command"

/-- The topic on which a device receives configuration. -/
def config (device : String) : String := ofDevice device "config"

/-- The topic on which a device reports something of a kind. -/
def report (device kind : String) : String := ofDevice device kind

/-- The filter for the reports of a kind from every device. -/
def everyDevice (kind : String) : String := ofDevice "+" kind

end LockFleet.Topic
