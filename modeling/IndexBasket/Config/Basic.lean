import IndexBasket.Config.Draft
import IndexBasket.Engine.State
import IndexBasket.Files.Path
import IndexBasket.Number.Decimal
import IndexBasket.Run.Error

namespace IndexBasket

/-- A configuration in which every setting has been checked. -/
structure Config where
  settings : EngineSettings
  feeRecipient : Address
  protocolFee : Amount
  trader : Address
  sweep : Option Address
  maxRounds : Nat
  maxRaises : Nat
  logDirectory : String
  auditFile : String
deriving DecidableEq

namespace ConfigDraft

def address (field text : String) : Except ConfigFault Address :=
  demand (.invalidAddress field text) (Address.ofString? text)

def fraction (field text : String) : Except ConfigFault Amount :=
  demand (.invalidFraction field text) ((Fixed.parse? 18 text).bind Fixed.toAmount?)

def check (draft : ConfigDraft) : Except ConfigFault Config := do
  let module ← address "engine.module" draft.module
  let reserveAsset ← address "engine.reserve_asset" draft.reserveAsset
  let feeRecipient ← address "fees.recipient" draft.feeRecipient
  let trader ← address "bot.trader" draft.trader
  let sweep ← draft.sweep.mapM (address "bot.sweep_component")
  if sweep = some reserveAsset then throw .sweepsReserve
  if 10000 ≤ draft.maxSlippageBps then throw .slippageTooLarge
  let raiseTargetPercentage ← fraction "raise_target_percentage" draft.raisePercentage
  if raiseTargetPercentage = Amount.zero then throw .noRaise
  let protocolFee ← fraction "protocol_fee" draft.protocolFee
  if Amount.one < protocolFee then throw .feeTooHigh
  if draft.maxRounds = 0 then throw .noRounds
  return {
    settings := { module, reserveAsset, raiseTargetPercentage, maxSlippageBps := draft.maxSlippageBps }
    feeRecipient, protocolFee, trader, sweep
    maxRounds := draft.maxRounds
    maxRaises := draft.maxRaises
    logDirectory := draft.logDirectory
    auditFile := draft.auditFile }

end ConfigDraft

namespace Config

def ofText (source : String) : Except RunError Config := do
  let draft ← demand .configParse ((Toml.parse? source).bind ConfigDraft.ofToml?)
  draft.check.mapError .config

def auditPath (config : Config) : String := Path.join config.logDirectory config.auditFile

end Config

end IndexBasket
