import IndexBasket.Ledger.Error
import IndexBasket.Stored.Basic

namespace IndexBasket

namespace LedgerError

/-- What a cause says beyond its name: a bare address, or addresses by role. -/
def content : LedgerError → Option Json
  | componentExists address | componentNotFound address | duplicateComponent address
  | moduleNotEnabled address | moduleAlreadyAdded address | moduleNotPending address
  | moduleNotInitialized address | invalidBasket address => some address.toJson
  | invalidVirtualUnit component => some (.record [("component", component.toJson)])
  | moduleAlreadyAttributed component module | moduleNotAttributed component module =>
    some (.record [("component", component.toJson), ("module", module.toJson)])
  | insufficientBalance holder asset =>
    some (.record [("holder", holder.toJson), ("asset", asset.toJson)])
  | multiplierTooSmall | onlyManager | feeTooHigh | overflow => none

/-- A cause is written as its name, and one with content as an object under its name. -/
def toJson (cause : LedgerError) : Json :=
  match cause.content with
  | some content => .record [(cause.name, content)]
  | none => .ofText cause.name

def plain : List (String × LedgerError) :=
  [("MultiplierTooSmall", multiplierTooSmall), ("OnlyManager", onlyManager),
   ("FeeTooHigh", feeTooHigh), ("Overflow", overflow)]

def one? (cause : Address → LedgerError) (value : Json) : Option LedgerError :=
  (Address.ofJson? value).map cause

def field? (name : String) (cause : Address → LedgerError) (value : Json) : Option LedgerError := do
  let [first] ← value.fields? [name] | none
  return cause (← Json.required Address.ofJson? first)

def fieldPair? (first second : String) (cause : Address → Address → LedgerError) (value : Json) :
    Option LedgerError := do
  let [a, b] ← value.fields? [first, second] | none
  return cause (← Json.required Address.ofJson? a) (← Json.required Address.ofJson? b)

def readers : List (String × (Json → Option LedgerError)) :=
  [("InvalidVirtualUnit", field? "component" invalidVirtualUnit),
   ("ComponentExists", one? componentExists),
   ("ComponentNotFound", one? componentNotFound),
   ("DuplicateComponent", one? duplicateComponent),
   ("ModuleAlreadyAttributed", fieldPair? "component" "module" moduleAlreadyAttributed),
   ("ModuleNotAttributed", fieldPair? "component" "module" moduleNotAttributed),
   ("ModuleNotEnabled", one? moduleNotEnabled),
   ("ModuleAlreadyAdded", one? moduleAlreadyAdded),
   ("ModuleNotPending", one? moduleNotPending),
   ("ModuleNotInitialized", one? moduleNotInitialized),
   ("InsufficientBalance", fieldPair? "holder" "asset" insufficientBalance),
   ("InvalidBasket", one? invalidBasket)]

def ofJson? (value : Json) : Option LedgerError :=
  (Json.choice? plain value).or do
    let [(name, content)] ← value.entries? | none
    (← readers.lookup name) content

end LedgerError

end IndexBasket
