import IndexBasket.Proofs.Engine.Reachable
import IndexBasket.Proofs.Number.Canonical
import IndexBasket.Proofs.Stored.Basic
import IndexBasket.Run.Audit

namespace IndexBasket

open Decimal (Denotes Numeral)

theorem mapM_eq_self {α : Type} {f : α → Option α} {items : List α} :
    items.mapM f = some items ↔ ∀ item ∈ items, f item = some item := by
  induction items with
  | nil => simp
  | cons item rest ih => simp [List.mapM_cons, Option.bind_eq_some_iff, ih]

/-! What is written for an amount, and how it can be read. -/

/-- Digits without a point. -/
def Decimal.Numeral.bare (n : Nat) : Numeral where
  whole := Nat.toDigits 10 n
  fraction := none
  digits := by simpa using Digits.all_toDigits n
  nonempty := by simp

theorem Decimal.Numeral.size_bare (places n : Nat) : (bare n).size places = n * 10 ^ places := by
  rw [size, show (bare n).whole = Nat.toDigits 10 n from rfl, Digits.number_toDigits]
  exact Nat.add_eq_left.mpr (Nat.zero_mul _)

/-- A numeral denotes its size, without any blanks around it. -/
theorem Decimal.Numeral.denotes {places : Nat} {numeral : Numeral} (within : numeral.fractional.length ≤ places)
    (negative : Bool) : Denotes places (numeral.spelling negative) (Fixed.signed negative (numeral.size places)) :=
  ⟨[], [], negative, numeral, (List.append_nil _).symm, nofun, within, rfl⟩

namespace Amount

variable {amount : Amount}

/-- What the text of an amount comes to when it is read as decimal: the bare integer of an
amount without a signed form comes to as many wholes. -/
def told (amount : Amount) : Nat := if amount.toNat < 2 ^ 127 then amount.toNat else amount.toNat * 10 ^ 18

theorem text_bare (large : 2 ^ 127 ≤ amount.toNat) : amount.text.toList = Nat.toDigits 10 amount.toNat := by
  have unsigned : amount.toFixed? = none := dif_neg (by omega)
  rw [text, unsigned]
  exact String.toList_ofList ..

theorem text_numeral (amount : Amount) :
    ∃ numeral : Numeral, amount.text.toList = numeral.text ∧ numeral.fractional.length ≤ 18 ∧
      numeral.size 18 = amount.told := by
  by_cases small : amount.toNat < 2 ^ 127
  · obtain ⟨value, signed⟩ : ∃ value, amount.toFixed? = some value := ⟨_, dif_pos (by omega)⟩
    have same := Fixed.ofInt?_eq_some.mp signed
    obtain ⟨numeral, spelled, canonical, size⟩ := value.text_canonical
    have positive : decide (value.toInt < 0) = false := decide_eq_false (by omega)
    rw [positive] at spelled
    rw [text, signed, told, if_pos small]
    exact ⟨numeral, spelled, canonical.fractional_le, by omega⟩
  · rw [text_bare (Nat.not_lt.mp small), told, if_neg small]
    exact ⟨.bare amount.toNat, (List.append_nil _).symm, Nat.zero_le _, Numeral.size_bare 18 amount.toNat⟩

theorem denotes_text (amount : Amount) : Denotes 18 amount.text.toList amount.told := by
  obtain ⟨numeral, spelled, within, size⟩ := amount.text_numeral
  rw [spelled, ← size]
  exact Numeral.denotes within false

theorem told_eq_iff : amount.told = amount.toNat ↔ amount.toNat < 2 ^ 127 := by
  unfold told
  split
  · rename_i small
    exact iff_of_true rfl small
  · rename_i large
    exact iff_of_false (by omega) large

/-- Reads an amount as the decimal text that it is given in. -/
def decimal? (text : String) : Option Amount := (Decimal.magnitude? 18 text.toList).bind ofNat?

/-- Takes decimal text that is too large for an amount for the bare integer. -/
def lenient? (text : String) : Option Amount :=
  (decimal? text).or ((Digits.natural? text.toList).bind ofNat?)

theorem denotes_of_decimal? {text : String} (read : decimal? text = some amount) :
    Denotes 18 text.toList amount.toNat := by
  obtain ⟨size, found, fits⟩ := Option.bind_eq_some_iff.mp read
  obtain ⟨numeral, spelled, within, same⟩ := Decimal.magnitude?_eq_some.mp found
  rw [← spelled, ← ofNat?_eq_some.mp fits, ← same]
  exact Numeral.denotes within false

theorem decimal?_text (amount : Amount) :
    decimal? amount.text = if amount.toNat < 2 ^ 127 then some amount else none := by
  obtain ⟨numeral, spelled, within, size⟩ := amount.text_numeral
  rw [decimal?, Decimal.magnitude?_eq_some.mpr ⟨numeral, spelled.symm, within, size⟩, Option.bind_some]
  unfold told
  split
  · exact ofNat?_eq_some.mpr rfl
  · exact ofNat?_eq_none.mpr (by omega)

theorem denotes_text_iff : Denotes 18 amount.text.toList amount.toNat ↔ amount.toNat < 2 ^ 127 := by
  constructor
  · intro denoted
    exact told_eq_iff.mp (Int.ofNat_inj.mp (amount.denotes_text.unique denoted))
  · intro small
    exact denotes_of_decimal? (amount.decimal?_text.trans (if_pos small))

theorem lenient?_text (amount : Amount) : lenient? amount.text = some amount := by
  rw [lenient?, decimal?_text]
  split
  · rfl
  · rename_i large
    rw [Option.none_or, text_bare (Nat.not_lt.mp large), Json.natural?_toDigits]
    exact ofNat?_eq_some.mpr rfl

end Amount

namespace Fixed

theorem denotes_text (value : Fixed) : Denotes 18 value.text.toList value.toInt := by
  obtain ⟨numeral, spelled, canonical, size⟩ := value.text_canonical
  have denoted := Numeral.denotes canonical.fractional_le (decide (value.toInt < 0))
  rwa [size, ← eq_signed, ← spelled] at denoted

/-- Reads a signed quantity as the decimal text that it is given in, the least one included. -/
def decimal? (text : String) : Option Fixed :=
  match text.toList with
  | '-' :: digits => (Decimal.magnitude? 18 digits).bind fun size => ofInt? (-size)
  | digits => (Decimal.magnitude? 18 digits).bind fun size => ofInt? size

theorem decimal?_text (value : Fixed) : decimal? value.text = some value := by
  obtain ⟨numeral, spelled, canonical, size⟩ := value.text_canonical
  have read := Decimal.magnitude?_eq_some.mpr ⟨numeral, rfl, canonical.fractional_le, size⟩
  unfold decimal?
  rw [spelled]
  by_cases negative : value.toInt < 0
  · simp only [Numeral.spelling, negative, decide_true, if_true, read, Option.bind_some]
    exact ofInt?_eq_some.mpr (by omega)
  · simp only [Numeral.spelling, negative, decide_false, Bool.false_eq_true, if_false]
    split
    · rename_i digits same
      exact absurd (by rw [same]; rfl) numeral.head?_text_ne_minus
    · rw [read, Option.bind_some]
      exact ofInt?_eq_some.mpr (by omega)

end Fixed

/-- A quantity that is told of, of either kind. -/
inductive Quantity
  | unsigned (amount : Amount)
  | signed (value : Fixed)

namespace Quantity

def units : Quantity → Int
  | unsigned amount => amount.toNat
  | signed value => value.toInt

def text : Quantity → String
  | unsigned amount => amount.text
  | signed value => value.text

/-- A quantity that has a signed form. -/
def Fits (quantity : Quantity) : Prop := quantity.units < 2 ^ 127

instance (quantity : Quantity) : Decidable quantity.Fits := inferInstanceAs (Decidable (_ < _))

/-- The text of a quantity denotes it exactly if it has a signed form, and otherwise 10^18
times as much. -/
theorem denotes_text (quantity : Quantity) :
    (Denotes 18 quantity.text.toList quantity.units ↔ quantity.Fits) ∧
      (¬quantity.Fits → Denotes 18 quantity.text.toList (quantity.units * 10 ^ 18)) := by
  cases quantity with
  | unsigned amount =>
    refine ⟨amount.denotes_text_iff.trans (Iff.symm Int.ofNat_lt), fun large => ?_⟩
    have denoted := amount.denotes_text
    rw [Amount.told, if_neg fun small => large (Int.ofNat_lt.mpr small)] at denoted
    exact_mod_cast denoted
  | signed value =>
    have small : value.toInt < 2 ^ 127 := by
      have most := value.le_max
      omega
    exact ⟨iff_of_true value.denotes_text small, fun large => absurd small large⟩

end Quantity

namespace Json

/-- The value under a name, which has to be there once. -/
def field? {α : Type} (name : String) (decode : Json → Option α) (form : Json) : Option α :=
  (form.entries?.bind (lookupOnce · name)).bind (required decode)

/-- A field is read by its name, whatever other fields there are and in whatever order. -/
theorem field?_shuffled {α : Type} {fields ordered : List (String × Json)} {other value : Json}
    {decode : Json → Option α} {answer : Option α} (order : ordered.Perm fields)
    (distinct : (fields.map Prod.fst).Nodup) (shuffled : (record ordered).Shuffled other) (name : String)
    (member : (name, value) ∈ fields) (read : ∀ ⦃other : Json⦄, value.Shuffled other → decode other = answer) :
    other.field? name decode = answer := by
  obtain ⟨same, entries, found, order', each, _⟩ := entries?_shuffled shuffled
  obtain ⟨field, listed, named, kept⟩ := exists_of_mem_right each.flip (order.mem_iff.mpr member)
  rw [← (order.map Prod.fst).nodup_iff, (forall₂_sameField.mp each).1] at distinct
  have lookup := lookupOnce_perm order' distinct listed
  rw [← named] at lookup
  rw [field?, found, Option.bind_some, lookup, Option.bind_some]
  exact read kept

theorem list?_shuffled {α β : Type} {encode : α → Json} {decode : Json → Option β} {read : α → Option β}
    (each : ∀ item ⦃other : Json⦄, (encode item).Shuffled other → decode other = read item) (items : List α)
    {other : Json} (shuffled : (array (items.map encode)).Shuffled other) : list? decode other = items.mapM read := by
  cases shuffled with
  | @array _ others same =>
    rw [list?]
    rw [List.forall₂_map_left_iff] at same
    induction same with
    | nil => rfl
    | cons first _ ih => rw [List.mapM_cons, List.mapM_cons, each _ first, ih]

end Json

/-- An event once more, with each of its amounts read anew. -/
def Event.reread (read : Amount → Option Amount) : Event → Option Event
  | tradeMaximumUpdated component maxSize => do return tradeMaximumUpdated component (← read maxSize)
  | raiseTargetPercentageUpdated percentage => do return raiseTargetPercentageUpdated (← read percentage)
  | tradeExecuted trade => do
    return tradeExecuted { trade with
      amountSold := ← read trade.amountSold
      amountBought := ← read trade.amountBought
      protocolFee := ← read trade.protocolFee }
  | event => some event

def TradePlan.reread (read : Amount → Option Amount) (plan : TradePlan) : Option TradePlan := do
  return { plan with
    quantity := ← read plan.quantity
    quote := ⟨← read plan.quote.amountIn, ← read plan.quote.amountOut⟩ }

namespace AuditLine

open Json (Keeps keeps_text keeps_natural keeps_choice)

/-! The way back from a line to what it tells of. -/

def time? (value : Json) : Option Timestamp := (value.natural? 0xFFFFFFFF_FFFFFFFF).map UInt64.ofNat

def direction? (value : Json) : Option TradeDirection := value.choice? [("BUY", .buy), ("SELL", .sell)]

def exchange? (value : Json) : Option Exchange :=
  value.choice? [("none", .unset), ("uniswap", .uniswap), ("sushiswap", .sushiswap), ("balancer", .balancer)]

def unit? (value : Json) : Option Fixed := value.text?.bind Fixed.decimal?

variable (amount? : String → Option Amount)

def quantity? (value : Json) : Option Amount := value.text?.bind amount?

def recorded? (form : Json) : String → Option Event
  | "target_units_updated" => do
    return .targetUnitsUpdated (← form.field? "component" Address.ofJson?) (← form.field? "target_unit" unit?)
      (← form.field? "position_multiplier" unit?)
  | "trade_maximum_updated" => do
    return .tradeMaximumUpdated (← form.field? "component" Address.ofJson?)
      (← form.field? "max_size" (quantity? amount?))
  | "asset_exchange_updated" => do
    return .assetExchangeUpdated (← form.field? "component" Address.ofJson?) (← form.field? "exchange" exchange?)
  | "cool_off_period_updated" => do
    return .coolOffPeriodUpdated (← form.field? "component" Address.ofJson?) (← form.field? "cool_off_period" time?)
  | "trader_status_updated" => do
    return .traderStatusUpdated (← form.field? "trader" Address.ofJson?) (← form.field? "status" Json.bool?)
  | "anyone_trade_updated" => do return .anyoneTradeUpdated (← form.field? "status" Json.bool?)
  | "raise_target_percentage_updated" => do
    return .raiseTargetPercentageUpdated (← form.field? "percentage" (quantity? amount?))
  | "trade_executed" => do
    return .tradeExecuted
      { component := ← form.field? "component" Address.ofJson?
        counterAsset := ← form.field? "counter_asset" Address.ofJson?
        direction := ← form.field? "direction" direction?
        exchange := ← form.field? "exchange" exchange?
        amountSold := ← form.field? "amount_sold" (quantity? amount?)
        amountBought := ← form.field? "amount_bought" (quantity? amount?)
        protocolFee := ← form.field? "protocol_fee" (quantity? amount?)
        newComponentUnit := ← form.field? "new_component_unit" unit?
        newReserveUnit := ← form.field? "new_reserve_unit" unit?
        timestamp := ← form.field? "timestamp" time? }
  | "asset_targets_raised" => do return .assetTargetsRaised (← form.field? "position_multiplier" unit?)
  | _ => none

def eventIn? (form : Json) : Option (Event × Timestamp) := do
  let name ← form.field? "event" Json.text?
  return (← recorded? amount? form name, ← form.field? "sim_time" time?)

def planIn? (form : Json) : Option TradePlan := do
  return {
    component := ← form.field? "component" Address.ofJson?
    direction := ← form.field? "direction" direction?
    quantity := ← form.field? "quantity" (quantity? amount?)
    exchange := ← form.field? "exchange" exchange?
    quote := ⟨← form.field? "quote_in" (quantity? amount?), ← form.field? "quote_out" (quantity? amount?)⟩ }

def plansIn? (form : Json) : Option (List TradePlan) := do
  let "plan_computed" ← form.field? "event" Json.text? | none
  form.field? "trades" (Json.list? (planIn? amount?))

/-! What is read of the single values. -/

theorem keeps_address (address : Address) : Keeps Address.ofJson? (ofAddress address) address := address.stored

theorem keeps_time (time : Timestamp) : Keeps time? (ofTime time) time := by
  have small : time.toNat ≤ 0xFFFFFFFF_FFFFFFFF := Nat.le_pred_of_lt time.toNat_lt
  refine ⟨Json.legible_ofNat time.toNat, fun other shuffled => ?_⟩
  rw [time?, (keeps_natural small).read shuffled, Option.map_some, UInt64.ofNat_toNat]

theorem keeps_direction (direction : TradeDirection) : Keeps direction? (.ofText direction.name) direction := by
  cases direction <;> exact keeps_choice rfl

theorem keeps_exchange (exchange : Exchange) : Keeps exchange? (ofExchange exchange) exchange := by
  cases exchange <;> exact keeps_choice rfl

theorem keeps_flag (flag : Bool) : Keeps Json.bool? (.bool flag) flag := by
  refine ⟨.bool flag, fun other shuffled => ?_⟩
  cases shuffled
  rfl

theorem keeps_unit (value : Fixed) : Keeps unit? (ofFixed value) value :=
  (keeps_text value.text).bind value.decimal?_text

theorem quantity?_shuffled (amount : Amount) ⦃other : Json⦄ (shuffled : (ofAmount amount).Shuffled other) :
    quantity? amount? other = amount? amount.text := by
  rw [quantity?, (keeps_text amount.text).read shuffled, Option.bind_some]

/-! What is read of a whole line. -/

/-- All that stands in a line, whatever the order of its fields. -/
def entries (line : AuditLine) (now : String) (fields : List (String × Json)) : List (String × Json) :=
  ("event", .ofText line.name) :: ("ts", .ofText now) :: fields

/-- The fields of a line stand in the order of their names, behind its own name and its time. -/
theorem form_eq_record (line : AuditLine) (now : String) :
    ∃ ordered, line.form now = .record (line.entries now ordered) ∧ ordered.Pairwise (·.1 ≤ ·.1) ∧
      (line.entries now ordered).Perm (line.entries now line.fields) :=
  ⟨_, rfl, Json.orderedFields_sorted line.fields, ((Json.orderedFields_perm line.fields).cons _).cons _⟩

theorem eventIn?_form {event : Event} {time : Timestamp} {now : String} {other : Json}
    (shuffled : ((AuditLine.event event time).form now).Shuffled other) :
    eventIn? amount? other = (event.reread fun amount => amount? amount.text).map (·, time) := by
  have distinct : (((AuditLine.event event time).entries now (AuditLine.event event time).fields).map Prod.fst).Nodup := by
    cases event <;> simp [entries, fields, eventFields]
  obtain ⟨ordered, same, _, order⟩ := (AuditLine.event event time).form_eq_record now
  rw [same] at shuffled
  have found : ∀ {α : Type} (name : String) {value : Json} {decode : Json → Option α} {answer : Option α},
      (name, value) ∈ (AuditLine.event event time).entries now (AuditLine.event event time).fields →
      (∀ ⦃other : Json⦄, value.Shuffled other → decode other = answer) → other.field? name decode = answer :=
    fun name _ _ _ => Json.field?_shuffled order distinct shuffled name
  have named := found "event" List.mem_cons_self (keeps_text event.name).read
  have timed := found "sim_time" (by simp [entries, fields]) (keeps_time time).read
  rw [eventIn?, named, timed]
  cases event with
  | targetUnitsUpdated component target multiplier =>
    have component := found "component" (by simp [entries, fields, eventFields]) (keeps_address component).read
    have target := found "target_unit" (by simp [entries, fields, eventFields]) (keeps_unit target).read
    have multiplier := found "position_multiplier" (by simp [entries, fields, eventFields]) (keeps_unit multiplier).read
    simp only [Event.name, recorded?, Event.reread, component, target, multiplier]
    rfl
  | tradeMaximumUpdated asset limit =>
    have component := found "component" (by simp [entries, fields, eventFields]) (keeps_address asset).read
    have maxSize := found "max_size" (by simp [entries, fields, eventFields]) (quantity?_shuffled amount? limit)
    simp only [Event.name, recorded?, Event.reread, component, maxSize]
    cases amount? limit.text <;> rfl
  | assetExchangeUpdated component exchange =>
    have component := found "component" (by simp [entries, fields, eventFields]) (keeps_address component).read
    have exchange := found "exchange" (by simp [entries, fields, eventFields]) (keeps_exchange exchange).read
    simp only [Event.name, recorded?, Event.reread, component, exchange]
    rfl
  | coolOffPeriodUpdated component period =>
    have component := found "component" (by simp [entries, fields, eventFields]) (keeps_address component).read
    have period := found "cool_off_period" (by simp [entries, fields, eventFields]) (keeps_time period).read
    simp only [Event.name, recorded?, Event.reread, component, period]
    rfl
  | traderStatusUpdated trader status =>
    have trader := found "trader" (by simp [entries, fields, eventFields]) (keeps_address trader).read
    have status := found "status" (by simp [entries, fields, eventFields]) (keeps_flag status).read
    simp only [Event.name, recorded?, Event.reread, trader, status]
    rfl
  | anyoneTradeUpdated status =>
    have status := found "status" (by simp [entries, fields, eventFields]) (keeps_flag status).read
    simp only [Event.name, recorded?, Event.reread, status]
    rfl
  | raiseTargetPercentageUpdated raise =>
    have percentage := found "percentage" (by simp [entries, fields, eventFields]) (quantity?_shuffled amount? raise)
    simp only [Event.name, recorded?, Event.reread, percentage]
    cases amount? raise.text <;> rfl
  | tradeExecuted trade =>
    have component := found "component" (by simp [entries, fields, eventFields]) (keeps_address trade.component).read
    have counterAsset := found "counter_asset" (by simp [entries, fields, eventFields]) (keeps_address trade.counterAsset).read
    have direction := found "direction" (by simp [entries, fields, eventFields]) (keeps_direction trade.direction).read
    have exchange := found "exchange" (by simp [entries, fields, eventFields]) (keeps_exchange trade.exchange).read
    have sold := found "amount_sold" (by simp [entries, fields, eventFields]) (quantity?_shuffled amount? trade.amountSold)
    have bought := found "amount_bought" (by simp [entries, fields, eventFields]) (quantity?_shuffled amount? trade.amountBought)
    have fee := found "protocol_fee" (by simp [entries, fields, eventFields]) (quantity?_shuffled amount? trade.protocolFee)
    have componentUnit :=
      found "new_component_unit" (by simp [entries, fields, eventFields]) (keeps_unit trade.newComponentUnit).read
    have reserveUnit := found "new_reserve_unit" (by simp [entries, fields, eventFields]) (keeps_unit trade.newReserveUnit).read
    have timestamp := found "timestamp" (by simp [entries, fields, eventFields]) (keeps_time trade.timestamp).read
    simp only [Event.name, recorded?, Event.reread, component, counterAsset, direction, exchange, sold, bought, fee,
      componentUnit, reserveUnit, timestamp]
    cases amount? trade.amountSold.text <;> cases amount? trade.amountBought.text <;>
      cases amount? trade.protocolFee.text <;> rfl
  | assetTargetsRaised multiplier =>
    have multiplier := found "position_multiplier" (by simp [entries, fields, eventFields]) (keeps_unit multiplier).read
    simp only [Event.name, recorded?, Event.reread, multiplier]
    rfl

theorem planIn?_form (plan : TradePlan) ⦃other : Json⦄
    (shuffled : (Json.record (Json.orderedFields (planFields plan))).Shuffled other) :
    planIn? amount? other = plan.reread fun amount => amount? amount.text := by
  have distinct : ((planFields plan).map Prod.fst).Nodup := by simp [planFields]
  have found : ∀ {α : Type} (name : String) {value : Json} {decode : Json → Option α} {answer : Option α},
      (name, value) ∈ planFields plan → (∀ ⦃other : Json⦄, value.Shuffled other → decode other = answer) →
      other.field? name decode = answer :=
    fun name _ _ _ => Json.field?_shuffled (Json.orderedFields_perm _) distinct shuffled name
  have component := found "component" (by simp [planFields]) (keeps_address plan.component).read
  have direction := found "direction" (by simp [planFields]) (keeps_direction plan.direction).read
  have quantity := found "quantity" (by simp [planFields]) (quantity?_shuffled amount? plan.quantity)
  have exchange := found "exchange" (by simp [planFields]) (keeps_exchange plan.exchange).read
  have quoteIn := found "quote_in" (by simp [planFields]) (quantity?_shuffled amount? plan.quote.amountIn)
  have quoteOut := found "quote_out" (by simp [planFields]) (quantity?_shuffled amount? plan.quote.amountOut)
  simp only [planIn?, TradePlan.reread, component, direction, quantity, exchange, quoteIn, quoteOut]
  rfl

theorem plansIn?_form {plans : List TradePlan} {now : String} {other : Json}
    (shuffled : ((planComputed plans).form now).Shuffled other) :
    plansIn? amount? other = plans.mapM (TradePlan.reread fun amount => amount? amount.text) := by
  have distinct : (((planComputed plans).entries now (planComputed plans).fields).map Prod.fst).Nodup := by
    simp [entries, fields]
  obtain ⟨ordered, same, _, order⟩ := (planComputed plans).form_eq_record now
  rw [same] at shuffled
  have named := Json.field?_shuffled order distinct shuffled "event" List.mem_cons_self (keeps_text "plan_computed").read
  have listed := Json.field?_shuffled order distinct shuffled "trades" (by simp [entries, fields])
    fun _ same => Json.list?_shuffled (planIn?_form amount?) plans same
  rw [plansIn?, named]
  exact listed

/-! Lines as texts. -/

theorem legible_planFields (plan : TradePlan) : ∀ field ∈ planFields plan, field.2.Legible := by
  simp [planFields, ofAddress, ofAmount, ofExchange, Json.legible_ofText]

theorem legible_eventFields (event : Event) : ∀ field ∈ eventFields event, field.2.Legible := by
  cases event <;> simp [eventFields, ofAddress, ofAmount, ofFixed, ofExchange, ofTime, Json.legible_ofText,
    Json.legible_ofNat, Json.Legible.bool]

theorem legible_fields (line : AuditLine) : ∀ field ∈ line.fields, field.2.Legible := by
  cases line with
  | mark name => exact nofun
  | runStarted scenarioFile basket time =>
    simp [fields, ofAddress, ofTime, Json.legible_ofText, Json.legible_ofNat]
  | planComputed plans =>
    have trades : (Json.array (plans.map fun plan => .record (Json.orderedFields (planFields plan)))).Legible := by
      refine .array fun form member => ?_
      obtain ⟨plan, _, rfl⟩ := List.mem_map.mp member
      exact Json.legible_record fun field listed =>
        legible_planFields plan field ((Json.orderedFields_perm _).mem_iff.mp listed)
    simpa [fields] using trades
  | userConfirmed approved => simp [fields, Json.Legible.bool]
  | event recorded time =>
    refine List.forall_mem_append.mpr ⟨legible_eventFields recorded, ?_⟩
    simp [ofTime, Json.legible_ofNat]
  | callFailed operation component cause time =>
    cases component <;> simp [fields, ofAddress, ofTime, Json.legible_ofText, Json.legible_ofNat, Json.Legible.null]
  | runCompleted summary => simp [fields, ofTime, Json.legible_ofNat, Json.Legible.bool]

theorem legible_form (line : AuditLine) (now : String) : (line.form now).Legible := by
  obtain ⟨ordered, same, _, order⟩ := line.form_eq_record now
  have entries : ∀ field ∈ line.entries now line.fields, field.2.Legible :=
    List.forall_mem_cons.mpr ⟨Json.legible_ofText _,
      List.forall_mem_cons.mpr ⟨Json.legible_ofText _, line.legible_fields⟩⟩
  rw [same]
  exact Json.legible_record fun field member => entries field (order.mem_iff.mp member)

/-- The line, at whatever time of day and with the fields of its objects in whatever order. -/
def Written (line : AuditLine) (text : String) : Prop :=
  ∃ now other, (line.form now).Shuffled other ∧ other.render = text

theorem written_text (line : AuditLine) (now : String) : line.Written (line.text now) :=
  ⟨now, line.form now, (line.legible_form now).shuffled_self, rfl⟩

/-- Reads the text of a line. -/
def read? {α : Type} (decode : Json → Option α) (text : String) : Option α := (Json.parse? text).bind decode

theorem Written.read? {α : Type} {line : AuditLine} {text : String} {decode : Json → Option α} {answer : Option α}
    (written : line.Written text)
    (decoded : ∀ ⦃now : String⦄ ⦃other : Json⦄, (line.form now).Shuffled other → decode other = answer) :
    AuditLine.read? decode text = answer := by
  obtain ⟨now, other, shuffled, rfl⟩ := written
  rw [AuditLine.read?, ((line.legible_form now).shuffled shuffled).parse?_render, Option.bind_some, decoded shuffled]

end AuditLine

/-! The quantities of an event and of a plan, each under the name by which it is told. -/

def Event.quantities : Event → List (String × Quantity)
  | targetUnitsUpdated _ targetUnit multiplier =>
    [("target_unit", .signed targetUnit), ("position_multiplier", .signed multiplier)]
  | tradeMaximumUpdated _ maxSize => [("max_size", .unsigned maxSize)]
  | assetExchangeUpdated .. | coolOffPeriodUpdated .. | traderStatusUpdated .. | anyoneTradeUpdated .. => []
  | raiseTargetPercentageUpdated percentage => [("percentage", .unsigned percentage)]
  | tradeExecuted trade =>
    [("amount_sold", .unsigned trade.amountSold), ("amount_bought", .unsigned trade.amountBought),
     ("protocol_fee", .unsigned trade.protocolFee), ("new_component_unit", .signed trade.newComponentUnit),
     ("new_reserve_unit", .signed trade.newReserveUnit)]
  | assetTargetsRaised multiplier => [("position_multiplier", .signed multiplier)]

def TradePlan.quantities (plan : TradePlan) : List (String × Quantity) :=
  [("quantity", .unsigned plan.quantity), ("quote_in", .unsigned plan.quote.amountIn),
   ("quote_out", .unsigned plan.quote.amountOut)]

namespace Quantity

/-- Each quantity stands as text under its name. The text denotes it exactly if it has a signed
form, and otherwise 10^18 times as much. -/
def Told (quantities : List (String × Quantity)) (fields : List (String × Json)) : Prop :=
  ∀ entry ∈ quantities, (entry.1, Json.ofText entry.2.text) ∈ fields ∧
    (Denotes 18 entry.2.text.toList entry.2.units ↔ entry.2.Fits) ∧
    (¬entry.2.Fits → Denotes 18 entry.2.text.toList (entry.2.units * 10 ^ 18))

variable {quantities : List (String × Quantity)} {fields : List (String × Json)}

theorem told_of_mem (each : ∀ entry ∈ quantities, (entry.1, Json.ofText entry.2.text) ∈ fields) :
    Told quantities fields :=
  fun entry member => ⟨each entry member, entry.2.denotes_text⟩

theorem Told.perm {other : List (String × Json)} (told : Told quantities fields) (order : fields.Perm other) :
    Told quantities other :=
  fun entry member => ⟨order.mem_iff.mp (told entry member).1, (told entry member).2⟩

theorem forall_decimal? :
    (∀ entry ∈ quantities, ∀ amount, entry.2 = unsigned amount → Amount.decimal? amount.text = some amount) ↔
      ∀ entry ∈ quantities, entry.2.Fits := by
  refine forall₂_congr fun entry _ => ?_
  obtain ⟨name, amount | value⟩ := entry
  · have same : (unsigned amount).Fits ↔ amount.toNat < 2 ^ 127 := Int.ofNat_lt
    simp [Amount.decimal?_text, same]
  · have small : (signed value).Fits := (signed value).denotes_text.1.mp value.denotes_text
    simp [small]

end Quantity

section Told

variable {read : Amount → Option Amount} {event : Event} {plan : TradePlan} {plans : List TradePlan}

theorem Event.told_eventFields (event : Event) : Quantity.Told event.quantities (AuditLine.eventFields event) := by
  refine Quantity.told_of_mem ?_
  cases event <;> simp [quantities, AuditLine.eventFields, AuditLine.ofAmount, AuditLine.ofFixed, Quantity.text]

theorem TradePlan.told_planFields (plan : TradePlan) : Quantity.Told plan.quantities (AuditLine.planFields plan) := by
  refine Quantity.told_of_mem ?_
  simp [quantities, AuditLine.planFields, AuditLine.ofAmount, Quantity.text]

/-- An event comes back as it was if each of its amounts does. -/
theorem Event.reread_eq_self : event.reread read = some event ↔
    ∀ entry ∈ event.quantities, ∀ amount, entry.2 = .unsigned amount → read amount = some amount := by
  cases event with
  | tradeExecuted trade =>
    obtain ⟨component, counterAsset, direction, exchange, sold, bought, fee, _, _, timestamp⟩ := trade
    simp [reread, quantities, Option.bind_eq_some_iff]
  | _ => simp [reread, quantities, Option.bind_eq_some_iff]

theorem TradePlan.reread_eq_self : plan.reread read = some plan ↔
    ∀ entry ∈ plan.quantities, ∀ amount, entry.2 = .unsigned amount → read amount = some amount := by
  obtain ⟨component, direction, quantity, exchange, amountIn, amountOut⟩ := plan
  simp [reread, quantities, Option.bind_eq_some_iff]

end Told

namespace AuditLine

/-- What the lines for an event and for a plan state of their quantities. The reader that takes
each text for what it denotes gets the event or the plan back exactly if every quantity has a
signed form. The reader that knows of the bare integers always does. -/
theorem quantities_told (time : Timestamp) :
    (∀ event : Event, Quantity.Told event.quantities (AuditLine.event event time).fields ∧
      ∀ text, (AuditLine.event event time).Written text →
        (read? (eventIn? Amount.decimal?) text = some (event, time) ↔ ∀ entry ∈ event.quantities, entry.2.Fits) ∧
        read? (eventIn? Amount.lenient?) text = some (event, time)) ∧
    ∀ plans : List TradePlan,
      (∃ forms, (planComputed plans).fields = [("trades", .array (forms.map Json.record))] ∧
        List.Forall₂ (fun plan fields => Quantity.Told plan.quantities fields) plans forms) ∧
      ∀ text, (planComputed plans).Written text →
        (read? (plansIn? Amount.decimal?) text = some plans ↔
          ∀ plan ∈ plans, ∀ entry ∈ plan.quantities, entry.2.Fits) ∧
        read? (plansIn? Amount.lenient?) text = some plans := by
  refine ⟨fun event => ⟨?_, fun text written => ?_⟩,
    fun plans => ⟨⟨plans.map fun plan => Json.orderedFields (planFields plan), ?_, ?_⟩, fun text written => ?_⟩⟩
  · refine Quantity.told_of_mem fun entry member => List.mem_append_left _ ?_
    exact (event.told_eventFields entry member).1
  · have decoded (amount? : String → Option Amount) :
        read? (eventIn? amount?) text = some (event, time) ↔
          (event.reread fun amount => amount? amount.text) = some event := by
      rw [written.read? fun _ _ => eventIn?_form amount?]
      simp
    rw [decoded, decoded, Event.reread_eq_self, Event.reread_eq_self, Quantity.forall_decimal?]
    exact ⟨Iff.rfl, fun _ _ amount _ => amount.lenient?_text⟩
  · simp [fields]
  · rw [List.forall₂_map_right_iff, List.forall₂_same]
    exact fun plan _ => plan.told_planFields.perm (Json.orderedFields_perm _).symm
  · have decoded (amount? : String → Option Amount) : read? (plansIn? amount?) text = some plans ↔
        ∀ plan ∈ plans, (plan.reread fun amount => amount? amount.text) = some plan := by
      rw [written.read? fun _ _ => plansIn?_form amount?, mapM_eq_self]
    rw [decoded, decoded]
    constructor
    · exact forall₂_congr fun plan _ => TradePlan.reread_eq_self.trans Quantity.forall_decimal?
    · exact fun plan _ => TradePlan.reread_eq_self.mpr fun _ _ amount _ => amount.lenient?_text

/-- The largest amount, for a trade without a limit. -/
def unlimited : Amount := ⟨2 ^ 128 - 1, by decide⟩

/-- A trade without a limit, as an event tells of it and as a plan does. -/
theorem quantities_told_unlimited :
    let event := Event.tradeMaximumUpdated Engine.Market.dai unlimited
    let plan : TradePlan := ⟨Engine.Market.dai, .buy, unlimited, .uniswap, ⟨unlimited, unlimited⟩⟩
    let now := "2026-08-01T12:00:00Z"
    Denotes 18 unlimited.text.toList (unlimited.toNat * 10 ^ 18) ∧
      read? (eventIn? Amount.decimal?) ((AuditLine.event event 0).text now) ≠ some (event, 0) ∧
      read? (eventIn? Amount.lenient?) ((AuditLine.event event 0).text now) = some (event, 0) ∧
      read? (plansIn? Amount.decimal?) ((planComputed [plan]).text now) ≠ some [plan] ∧
      read? (plansIn? Amount.lenient?) ((planComputed [plan]).text now) = some [plan] := by
  intro event plan now
  have large : ¬(Quantity.unsigned unlimited).Fits := by decide
  have limit : ("max_size", Quantity.unsigned unlimited) ∈ event.quantities := List.mem_cons_self
  have amount : ("quantity", Quantity.unsigned unlimited) ∈ plan.quantities := List.mem_cons_self
  obtain ⟨told, events⟩ := (quantities_told 0).1 event
  obtain ⟨decimal, lenient⟩ := events _ (written_text (.event event 0) now)
  obtain ⟨decimals, lenients⟩ := ((quantities_told 0).2 [plan]).2 _ (written_text (planComputed [plan]) now)
  have overstated := (told ("max_size", .unsigned unlimited) limit).2.2 large
  refine ⟨overstated, fun read => ?_, lenient, fun read => ?_, lenients⟩
  · exact large (decimal.mp read ("max_size", .unsigned unlimited) limit)
  · exact large (decimals.mp read plan List.mem_cons_self ("quantity", .unsigned unlimited) amount)

/-- The text of the largest trade limit does not denote it. -/
theorem unlimited_overstated :
    ∃ entry ∈ (Event.tradeMaximumUpdated Engine.Market.dai unlimited).quantities,
      ¬Denotes 18 entry.2.text.toList entry.2.units := by
  refine ⟨("max_size", .unsigned unlimited), List.mem_cons_self, fun denoted => ?_⟩
  exact absurd (Amount.denotes_text_iff.mp denoted) (by decide)

end AuditLine

end IndexBasket
