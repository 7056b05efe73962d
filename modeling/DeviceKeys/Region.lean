/-!
# Regions and their states

The device has two regions of one-time-programmable memory that can hold a secret. A region is
read and written as a whole; it is `blank` until it is programmed, which can happen once, and
`unavailable` where the device or its firmware does not offer it.

Each of the three enumerations has the text under which users, reports and messages know its
members, and reading that text back is exact: no case folding, no blanks taken off.
-/

set_option autoImplicit false

namespace DeviceKeys

inductive Region where
  | privateKey
  | customer
  deriving DecidableEq, Repr

namespace Region

def name : Region → String
  | privateKey => "private-key"
  | customer => "customer"

def all : List Region := [privateKey, customer]

def ofName? (text : String) : Option Region := all.find? (·.name == text)

theorem ofName?_name (region : Region) : ofName? region.name = some region := by
  cases region <;> decide

end Region

/-- What a region holds, as far as one look at it can tell. -/
inductive RegionState where
  | blank
  | programmed
  | unavailable
  deriving DecidableEq, Repr

namespace RegionState

def name : RegionState → String
  | blank => "uninitialized"
  | programmed => "initialized"
  | unavailable => "unsupported"

def all : List RegionState := [blank, programmed, unavailable]

def ofName? (text : String) : Option RegionState := all.find? (·.name == text)

theorem ofName?_name (state : RegionState) : ofName? state.name = some state := by
  cases state <;> decide

end RegionState

/-- How providing a region with a secret ended, where it did not fail. -/
inductive ProvisionOutcome where
  | programmed
  | alreadyProgrammed
  deriving DecidableEq, Repr

namespace ProvisionOutcome

def name : ProvisionOutcome → String
  | programmed => "initialized"
  | alreadyProgrammed => "already-initialized"

def all : List ProvisionOutcome := [programmed, alreadyProgrammed]

def ofName? (text : String) : Option ProvisionOutcome := all.find? (·.name == text)

theorem ofName?_name (outcome : ProvisionOutcome) : ofName? outcome.name = some outcome := by
  cases outcome <;> decide

end ProvisionOutcome

end DeviceKeys
