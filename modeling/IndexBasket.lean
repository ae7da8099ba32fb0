import IndexBasket.Engine.Command
import IndexBasket.Run.Machine
import IndexBasket.Main
import IndexBasket.Stored.Basket
import IndexBasket.Stored.LedgerError
import IndexBasket.Proofs.Number.Fixed
import IndexBasket.Proofs.Action
import IndexBasket.Proofs.Balances
import IndexBasket.Proofs.Ledger.Readback
import IndexBasket.Proofs.Ledger.Rescaling
import IndexBasket.Proofs.Venue.Fill
import IndexBasket.Proofs.Venue.Reserves
import IndexBasket.Proofs.Venue.Product
import IndexBasket.Proofs.Engine.Guards
import IndexBasket.Proofs.Engine.Reachable
import IndexBasket.Proofs.Engine.Settlement
import IndexBasket.Proofs.Engine.StoredUnit
import IndexBasket.Proofs.Engine.Conservation
import IndexBasket.Proofs.Engine.Sizing
import IndexBasket.Proofs.Engine.Coverage
import IndexBasket.Proofs.Scenario.Setup
import IndexBasket.Proofs.Scenario.Backing
import IndexBasket.Proofs.Engine.Landing
import IndexBasket.Proofs.Engine.Gap
import IndexBasket.Proofs.Engine.OnTarget
import IndexBasket.Proofs.Venue.Bound
import IndexBasket.Proofs.Engine.Excess
import IndexBasket.Engine.Procedure
import IndexBasket.Proofs.Engine.Procedure
import IndexBasket.Proofs.Ledger.Edit
import IndexBasket.Proofs.Ledger.Consistency
import IndexBasket.Proofs.Ledger.Listing
import IndexBasket.Proofs.Engine.WithinRounding
import IndexBasket.Proofs.Venue.Contract
import IndexBasket.Proofs.Venue.QuotedFill
import IndexBasket.Proofs.Engine.Pacing
import IndexBasket.Proofs.Engine.Access
import IndexBasket.Proofs.Venue.Refusal
import IndexBasket.Proofs.Engine.Refusal
import IndexBasket.Proofs.Engine.Planned
import IndexBasket.Proofs.Engine.Footprint
import IndexBasket.Proofs.Engine.WellPosed
import IndexBasket.Proofs.Commuting
import IndexBasket.Proofs.Engine.Recording
import IndexBasket.Proofs.Run.Telling
import IndexBasket.Proofs.Run.Machine
import IndexBasket.Proofs.Run.Course
import IndexBasket.Proofs.Run.Trail
import IndexBasket.Proofs.Number.Registers
import IndexBasket.Proofs.RefusedEdit
import IndexBasket.Proofs.Run.Escape
import IndexBasket.Proofs.Json.Text
import IndexBasket.Proofs.Json.Shuffled
import IndexBasket.Proofs.Stored.Basic
import IndexBasket.Proofs.Stored.ReadBack
import IndexBasket.Proofs.Ledger.Multiplier
import IndexBasket.Proofs.Ledger.Range
import IndexBasket.Proofs.Number.Signed
import IndexBasket.Proofs.Ledger.UnitEdit
import IndexBasket.Proofs.Venue.Price
import IndexBasket.Proofs.Venue.Legs
import IndexBasket.Proofs.Venue.Slices
import IndexBasket.Proofs.Venue.Allocation
import IndexBasket.Proofs.Ledger.Positions
import IndexBasket.Proofs.Engine.BaseUnit
import IndexBasket.Proofs.Engine.Rescaling
import IndexBasket.Proofs.Engine.Raising
import IndexBasket.Proofs.Engine.Seeding
import IndexBasket.Proofs.Balances.Canonical
import IndexBasket.Proofs.Engine.Activation
import IndexBasket.Proofs.Engine.RemainingReserve
import IndexBasket.Proofs.Engine.Shortfall
import IndexBasket.Proofs.Number.Digits
import IndexBasket.Proofs.Number.Decimal
import IndexBasket.Proofs.Number.Canonical
import IndexBasket.Proofs.Ledger.Enumeration
import IndexBasket.Proofs.Engine.Opening
import IndexBasket.Proofs.Scenario.Checked
import IndexBasket.Proofs.Scenario.Targets
import IndexBasket.Proofs.Scenario.Construction
import IndexBasket.Proofs.Engine.Faults
import IndexBasket.Proofs.Run.TradeOrder
import IndexBasket.Proofs.Run.AuditQuantities
import IndexBasket.Proofs.Run.Rounds
import IndexBasket.Proofs.Address.Record
