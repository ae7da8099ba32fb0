import IndexBasket.Engine.Command

namespace IndexBasket

namespace Engine

/-- One thing that is done to an engine: a call of its own, or what a collaborator
does to the basket and the balances that it holds. -/
inductive Operation
  | call (context : CallContext) (command : Command)
  | editBasket (registry : Registry) (edit : Basket.Edit)
  | editBalances (edit : Balances.Edit)
  | replaceBasket (basket : Basket)
  | replaceBalances (balances : Balances)
  | takeEvents
deriving DecidableEq

inductive Answer
  | reply (reply : Reply)
  | edited
  | events (events : List Event)
deriving DecidableEq

/-- Carries an operation out. Only calls are transactions of their own. -/
def Operation.perform : Operation → Call Answer
  | .call context command => .reply <$> command.perform context
  | .editBasket registry edit => (fun _ => .edited) <$> onBasket (edit.apply registry)
  | .editBalances edit => (fun _ => .edited) <$> onBalances edit.apply
  | .replaceBasket basket => (fun _ => .edited) <$> (modify ({ · with basket }) : Call Unit)
  | .replaceBalances balances => (fun _ => .edited) <$> (modify ({ · with balances }) : Call Unit)
  | .takeEvents => .events <$> Engine.takeEvents

/-- Operations one after another, up to the first that fails. What the ones before
it wrote stays. -/
def Operation.performAll : List Operation → Call (List Answer)
  | [] => pure []
  | operation :: rest => do
    let answer ← operation.perform
    return answer :: (← performAll rest)

/-- A tree of operations. Its inner nodes are blocks, which hold or fall as a whole. -/
inductive Procedure
  | single (operation : Operation)
  | block (parts : List Procedure)

namespace Procedure

mutual

/-- The operations of a tree from left to right, whatever blocks they stand in. -/
def operations : Procedure → List Operation
  | .single operation => [operation]
  | .block parts => operationsOf parts

def operationsOf : List Procedure → List Operation
  | [] => []
  | part :: rest => part.operations ++ operationsOf rest

end

mutual

/-- Runs a tree. A block is one transaction, also inside another one, and fails
with the first of its parts that does. -/
def run : Procedure → Call (List Answer)
  | .single operation => (fun answer => [answer]) <$> operation.perform
  | .block parts => Action.atomically (runAll parts)

def runAll : List Procedure → Call (List Answer)
  | [] => pure []
  | part :: rest => do
    let answers ← part.run
    return answers ++ (← runAll rest)

end

end Procedure

end Engine

end IndexBasket
