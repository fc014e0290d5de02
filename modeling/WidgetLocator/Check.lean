import WidgetLocator.Record.Basic
import WidgetLocator.Text.Quoted

/-! Checks of a list of records. A check either holds or gives the message that says which record
failed it and how. -/

namespace WidgetLocator

inductive RecordCheck where
  | id (expected : String)
  | idEndsWith (ending : String)
  | container (expected : String)
  | root
  | archetype (expected : String)
  | metadata (key : String) (expected : Value)
  | noMetadata (key : String)
  | metadataKeys (expected : List String)

inductive Check where
  | count (expected : Nat)
  | empty
  | idsAre (expected : List String)
  /-- Every record is contained in the one before it, and the first in none. -/
  | chained
  | record (index : Nat) (checks : List RecordCheck)
  | last (checks : List RecordCheck)

def failureUnless (condition : Bool) (message : String) : Option String :=
  if condition then none else some message

def RecordCheck.failure? (context : String) (r : Record) : RecordCheck → Option String
  | id expected => failureUnless (r.id == expected) s!"{context}: identifier"
  | idEndsWith ending =>
    failureUnless (ending.toList.isSuffixOf r.id.toList)
      s!"{context}: identifier '{r.id}' should end with '{ending}'"
  | container expected => failureUnless (r.container == expected) s!"{context}: container"
  | root => failureUnless r.isRoot s!"{context}: container"
  | archetype expected =>
    failureUnless (r.metadata.get? "archetype" == some (.string expected))
      s!"{context}: metadata field 'archetype'"
  | metadata key expected =>
    failureUnless (r.metadata.get? key == some expected) s!"{context}: metadata field '{key}'"
  | noMetadata key =>
    failureUnless (r.metadata.get? key).isNone s!"{context}: unexpected metadata field '{key}'"
  | metadataKeys expected => failureUnless (r.metadata.keys == expected) s!"{context}: metadata keys"

namespace Check

def countFailure? (records : List Record) (expected : Nat) : Option String :=
  failureUnless (records.length == expected)
    s!"Expected {expected} locators, found {records.length}: {Text.quotedList (records.map Record.id)}"

/-- The first record, counted from `index`, whose container is not the identifier before it. -/
def chainFailure? (index : Nat) (previous : String) : List Record → Option String
  | [] => none
  | r :: rest =>
    if r.container == previous then chainFailure? (index + 1) r.id rest
    else some s!"locator[{index}]: container should be the previous identifier"

def recordFailure? (records : List Record) (index : Nat) (checks : List RecordCheck) : Option String :=
  match records[index]? with
  | none => some s!"locator[{index}] requested but only {records.length} exist"
  | some r => checks.findSome? (·.failure? s!"locator[{index}]" r)

def failure? (records : List Record) : Check → Option String
  | count expected => countFailure? records expected
  | empty => countFailure? records 0
  | idsAre expected => failureUnless (records.map Record.id == expected) "Locator identifiers differ"
  | chained => chainFailure? 0 "" records
  | record index checks => recordFailure? records index checks
  | last checks =>
    if records.isEmpty then some "Expected at least one locator"
    else recordFailure? records (records.length - 1) checks

end Check
end WidgetLocator
