import IndexBasket.Venue.FixedRate
import IndexBasket.Venue.PairRouter
import IndexBasket.Venue.SplitRouter

namespace IndexBasket

inductive Venue
  | pair (router : PairRouter)
  | split (router : SplitRouter)
  | fixedRate (venue : FixedRateVenue)
deriving DecidableEq

namespace Venue

def quote (order : SwapOrder) : Venue → Except VenueError Quote
  | pair router => router.quote order
  | split router => router.quote order
  | fixedRate venue => venue.quote order

def execute (order : SwapOrder) (bound : Amount) : Action VenueError Venue Fill := fun venue =>
  match venue with
  | pair router => Action.within (fun _ => router) (fun new _ => pair new) id
      (PairRouter.execute order bound) venue
  | split router => Action.within (fun _ => router) (fun new _ => split new) id
      (SplitRouter.execute order bound) venue
  | fixedRate mock => Action.within (fun _ => mock) (fun new _ => fixedRate new) id
      (FixedRateVenue.execute order bound) venue

end Venue

structure Venues where
  byExchange : Std.ExtTreeMap Exchange Venue := ∅
deriving DecidableEq

namespace Venues

/-- Registers a venue, also in place of another. Nothing can be registered as `unset`. -/
def register (exchange : Exchange) (venue : Venue) : Action VenueError Venues Unit := do
  if exchange = .unset then throw (.notRegistered exchange)
  modify fun venues => ⟨venues.byExchange.insert exchange venue⟩

def contains (venues : Venues) (exchange : Exchange) : Bool :=
  venues.byExchange.contains exchange

def find (venues : Venues) (exchange : Exchange) : Except VenueError Venue :=
  demand (.notRegistered exchange) venues.byExchange[exchange]?

def exchanges (venues : Venues) : List Exchange := venues.byExchange.keys

def execute (exchange : Exchange) (order : SwapOrder) (bound : Amount) : Action VenueError Venues Fill := do
  let venue ← (← get).find exchange
  Action.within (fun _ => venue) (fun new venues => ⟨venues.byExchange.insert exchange new⟩) id
    (Venue.execute order bound)

end Venues

end IndexBasket
