import IndexBasket.Toml.Decode
import IndexBasket.Toml.Reader

namespace IndexBasket

/-- A configuration as it is written, before anything is checked. -/
structure ConfigDraft where
  module : String := "index-module"
  reserveAsset : String
  raisePercentage : String := "0.0025"
  maxSlippageBps : UInt32 := 100
  feeRecipient : String := "treasury"
  protocolFee : String := "0"
  trader : String
  maxRounds : Nat := 100
  sweep : Option String := none
  maxRaises : Nat := 20
  logDirectory : String := "./logs"
  auditFile : String := "audit.jsonl"
deriving DecidableEq

namespace ConfigDraft

def withEngine? (draft : ConfigDraft) (value : Toml) : Option ConfigDraft := do
  let [module, reserve, percentage, slippage] ←
    value.fields? ["module", "reserve_asset", "raise_target_percentage", "max_slippage_bps"] | none
  return { draft with
    module := ← Toml.defaulted draft.module Toml.text? module
    reserveAsset := ← Toml.required Toml.text? reserve
    raisePercentage := ← Toml.defaulted draft.raisePercentage Toml.text? percentage
    maxSlippageBps := UInt32.ofNat
      (← Toml.defaulted draft.maxSlippageBps.toNat (Toml.natural? (UInt32.size - 1)) slippage) }

def withFees? (draft : ConfigDraft) (value : Toml) : Option ConfigDraft := do
  let [recipient, fee] ← value.fields? ["recipient", "protocol_fee"] | none
  return { draft with
    feeRecipient := ← Toml.defaulted draft.feeRecipient Toml.text? recipient
    protocolFee := ← Toml.defaulted draft.protocolFee Toml.text? fee }

def withBot? (draft : ConfigDraft) (value : Toml) : Option ConfigDraft := do
  let [trader, rounds, sweep, raises] ←
    value.fields? ["trader", "max_rounds", "sweep_component", "max_raises"] | none
  return { draft with
    trader := ← Toml.required Toml.text? trader
    maxRounds := ← Toml.defaulted draft.maxRounds (Toml.natural? (UInt64.size - 1)) rounds
    sweep := ← Toml.defaulted draft.sweep (fun value => value.text?.map some) sweep
    maxRaises := ← Toml.defaulted draft.maxRaises (Toml.natural? (UInt64.size - 1)) raises }

def withLogging? (draft : ConfigDraft) (value : Toml) : Option ConfigDraft := do
  let [directory, file] ← value.fields? ["dir", "audit_file"] | none
  return { draft with
    logDirectory := ← Toml.defaulted draft.logDirectory Toml.text? directory
    auditFile := ← Toml.defaulted draft.auditFile Toml.text? file }

/-- Reads a configuration: the tables for the engine and the bot have to be
there, those for fees and logging may be missing. -/
def ofToml? (value : Toml) : Option ConfigDraft := do
  let [engine, fees, bot, logging] ← value.fields? ["engine", "fees", "bot", "logging"] | none
  let draft ← ({ reserveAsset := "", trader := "" } : ConfigDraft).withEngine? (← engine)
  let draft ← Toml.defaulted draft draft.withFees? fees
  let draft ← draft.withBot? (← bot)
  Toml.defaulted draft draft.withLogging? logging

end ConfigDraft

end IndexBasket
