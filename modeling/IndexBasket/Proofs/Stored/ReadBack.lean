import IndexBasket.Proofs.Stored.Basic
import IndexBasket.Stored.Basket
import IndexBasket.Stored.LedgerError

namespace IndexBasket

open Json (Keeps keeps_list keeps_record keeps_addressMap keeps_addressSet keeps_choice)

theorem Attribution.stored (entry : Attribution) : Keeps Attribution.ofJson? entry.toJson entry := by
  have unit := entry.virtualUnit.stored
  have data := stored_bytes entry.data
  refine keeps_record ["virtual_unit", "data"] rfl (by decide) ?_ fun other values found each => ?_
  · simp only [List.map_cons, List.map_nil, List.forall_mem_cons]
    exact ⟨unit.legible, data.legible, nofun⟩
  · obtain _ | ⟨unit', _ | ⟨data', _ | _⟩⟩ := each
    simp only [Attribution.ofJson?, found, List.map_cons, List.map_nil, Json.required, Option.bind_eq_bind,
      Option.bind_some, unit.read unit', data.read data', Option.pure_def]

theorem Attributions.stored (attributions : Attributions) :
    Keeps Attributions.ofJson? attributions.toJson attributions := by
  have modules := keeps_list Address.stored attributions.modules
  have entries := keeps_addressMap Attribution.stored attributions.entries
  refine keeps_record ["modules", "entries"] rfl (by decide) ?_ fun other values found each => ?_
  · simp only [List.map_cons, List.map_nil, List.forall_mem_cons]
    exact ⟨modules.legible, entries.legible, nofun⟩
  · obtain _ | ⟨modules', _ | ⟨entries', _ | _⟩⟩ := each
    simp only [Attributions.ofJson?, found, List.map_cons, List.map_nil, Json.required, Option.bind_eq_bind,
      Option.bind_some, modules.read modules', entries.read entries', Option.pure_def]

theorem Ledger.stored (ledger : Ledger) : Keeps Ledger.ofJson? ledger.toJson ledger := by
  have components := keeps_list Address.stored ledger.components
  have multiplier := ledger.multiplier.stored
  have units := keeps_addressMap Fixed.stored ledger.defaultUnits
  have external := keeps_addressMap Attributions.stored ledger.external
  refine keeps_record ["components", "multiplier", "default_units", "external"] rfl (by decide) ?_
    fun other values found each => ?_
  · simp only [List.map_cons, List.map_nil, List.forall_mem_cons]
    exact ⟨components.legible, multiplier.legible, units.legible, external.legible, nofun⟩
  · obtain _ | ⟨components', _ | ⟨multiplier', _ | ⟨units', _ | ⟨external', _ | _⟩⟩⟩⟩ := each
    simp only [Ledger.ofJson?, found, List.map_cons, List.map_nil, Json.required, Option.bind_eq_bind,
      Option.bind_some, components.read components', multiplier.read multiplier', units.read units',
      external.read external', Option.pure_def]

theorem ModuleState.stored (state : ModuleState) : Keeps ModuleState.ofJson? state.toJson state := by
  cases state <;> exact keeps_choice rfl

theorem Basket.stored (basket : Basket) : Keeps Basket.ofJson? basket.toJson basket := by
  have address := basket.address.stored
  have manager := basket.manager.stored
  have ledger := basket.ledger.stored
  have modules := keeps_addressMap ModuleState.stored basket.modules
  have supply := basket.totalSupply.stored
  refine keeps_record ["address", "manager", "ledger", "modules", "total_supply"] rfl (by decide) ?_
    fun other values found each => ?_
  · simp only [List.map_cons, List.map_nil, List.forall_mem_cons]
    exact ⟨address.legible, manager.legible, ledger.legible, modules.legible, supply.legible, nofun⟩
  · obtain _ | ⟨address', _ | ⟨manager', _ | ⟨ledger', _ | ⟨modules', _ | ⟨supply', _ | _⟩⟩⟩⟩⟩ := each
    simp only [Basket.ofJson?, found, List.map_cons, List.map_nil, Json.required, Option.bind_eq_bind,
      Option.bind_some, address.read address', manager.read manager', ledger.read ledger', modules.read modules',
      supply.read supply', Option.pure_def]

theorem Balances.stored (balances : Balances) : Keeps Balances.ofJson? balances.toJson balances := by
  have holders := keeps_addressMap (keeps_addressMap Amount.stored) balances.byHolder
  refine keeps_record ["balances"] rfl (by decide) ?_ fun other values found each => ?_
  · simp only [List.map_cons, List.map_nil, List.forall_mem_cons]
    exact ⟨holders.legible, nofun⟩
  · obtain _ | ⟨holders', _ | _⟩ := each
    simp only [Balances.ofJson?, found, List.map_cons, List.map_nil, Json.required, Option.bind_eq_bind,
      Option.bind_some, holders.read holders', Option.pure_def]

namespace Registry

theorem below?_toDigits {n limit : Nat} (small : n < limit) : Digits.below? limit (Nat.toDigits 10 n) = some n := by
  unfold Digits.below?
  split
  · rename_i digits
    have digit := Digits.all_toDigits n '+' (by rw [digits]; exact List.mem_cons_self)
    cases digit
  · rw [Json.natural?_toDigits, Option.filter_some, if_pos (decide_eq_true small)]

theorem indexOf?_toDigits (index : UInt64) : indexOf? (String.ofList (Nat.toDigits 10 index.toNat)) = some index := by
  have below := below?_toDigits index.toNat_lt
  rw [indexOf?, String.toList_ofList]
  by_cases zero : index.toNat = 0
  · have same : index = 0 := UInt64.toNat_inj.mp zero
    subst same
    rfl
  · obtain ⟨c, tail, digits, nonzero⟩ := Digits.head_toDigits (Nat.pos_of_ne_zero zero)
    have digit : c.isDigit = true := Digits.all_toDigits index.toNat c (by rw [digits]; exact List.mem_cons_self)
    rw [digits] at below ⊢
    split
    · rename_i same
      exact absurd (List.cons.inj same).1 nonzero
    · rename_i same
      exact absurd (List.cons.inj same).1 nonzero
    · rename_i same
      rw [(List.cons.inj same).1] at digit
      cases digit
    · exact (congrArg (Option.map UInt64.ofNat) below).trans (congrArg some UInt64.ofNat_toNat)

theorem keeps_fees (fees : Std.ExtTreeMap UInt64 Amount) : Keeps feesOfJson? (feesToJson fees) fees := by
  refine ⟨.object (fun field member => ?_) fun field member => ?_, fun other shuffled => ?_⟩
  · obtain ⟨entry, _, rfl⟩ := List.mem_map.mp member
    rw [String.toList_ofList]
    exact Json.quotable_digits (Digits.all_toDigits entry.1.toNat)
  · obtain ⟨entry, _, rfl⟩ := List.mem_map.mp member
    exact entry.2.stored.legible
  · obtain ⟨between, fields, each, order, rfl⟩ := Json.shuffled_object_iff.mp shuffled
    have read : List.Forall₂ (fun entry pair =>
        (do return (← indexOf? entry.1, ← entry.2.amount?) : Option (UInt64 × Amount)) = some pair)
        between fees.toList := by
      rw [List.forall₂_map_left_iff] at each
      refine (each.imp fun pair entry field => ?_).flip
      obtain ⟨index, fee⟩ := pair
      change _ = some (index, fee)
      have named : indexOf? entry.1 = some index := field.1 ▸ indexOf?_toDigits index
      simp only [named, fee.stored.read field.2, Option.bind_eq_bind, Option.bind_some, Option.pure_def]
    exact table_of_perm read order

/-- The form of a registry, with its sets written in the order of two lists. -/
def listed (registry : Registry) (baskets modules : List Address) : Json := .record
  [("baskets", .ofAddresses baskets), ("modules", .ofAddresses modules),
   ("fee_recipient", registry.feeRecipient.toJson),
   ("module_fees", .ofAddressMap feesToJson registry.moduleFees)]

theorem toJson_eq_listed (registry : Registry) :
    registry.toJson = registry.listed registry.baskets.toList registry.modules.toList := rfl

theorem stored_listed {registry : Registry} {baskets modules : List Address}
    (basketsOrder : baskets.Perm registry.baskets.toList) (modulesOrder : modules.Perm registry.modules.toList) :
    Keeps ofJson? (registry.listed baskets modules) registry := by
  have baskets := keeps_addressSet basketsOrder
  have modules := keeps_addressSet modulesOrder
  have recipient := registry.feeRecipient.stored
  have fees := keeps_addressMap keeps_fees registry.moduleFees
  refine keeps_record ["baskets", "modules", "fee_recipient", "module_fees"] rfl (by decide) ?_
    fun other values found each => ?_
  · simp only [List.map_cons, List.map_nil, List.forall_mem_cons]
    exact ⟨baskets.legible, modules.legible, recipient.legible, fees.legible, nofun⟩
  · obtain _ | ⟨baskets', _ | ⟨modules', _ | ⟨recipient', _ | ⟨fees', _ | _⟩⟩⟩⟩ := each
    simp only [ofJson?, found, List.map_cons, List.map_nil, Json.required, Option.bind_eq_bind,
      Option.bind_some, baskets.read baskets', modules.read modules', recipient.read recipient', fees.read fees',
      Option.pure_def]

theorem stored (registry : Registry) : Keeps ofJson? registry.toJson registry :=
  toJson_eq_listed registry ▸ stored_listed (.refl _) (.refl _)

end Registry

namespace LedgerError

theorem keeps_one {cause : Address → LedgerError} (address : Address) :
    Keeps (one? cause) address.toJson (cause address) := by
  refine ⟨address.stored.legible, fun other shuffled => ?_⟩
  rw [one?, address.stored.read shuffled, Option.map_some]

theorem keeps_field {name : String} {cause : Address → LedgerError} (address : Address) :
    Keeps (field? name cause) (.record [(name, address.toJson)]) (cause address) := by
  have stored := address.stored
  refine keeps_record [name] rfl (by simp) ?_ fun other values found each => ?_
  · simp only [List.map_cons, List.map_nil, List.forall_mem_cons]
    exact ⟨stored.legible, nofun⟩
  · obtain _ | ⟨first, _ | _⟩ := each
    simp only [field?, found, List.map_cons, List.map_nil, Json.required, Option.bind_eq_bind, Option.bind_some,
      stored.read first, Option.pure_def]

theorem keeps_fieldPair {first second : String} (apart : first ≠ second) {cause : Address → Address → LedgerError}
    (a b : Address) :
    Keeps (fieldPair? first second cause) (.record [(first, a.toJson), (second, b.toJson)]) (cause a b) := by
  have one := a.stored
  have two := b.stored
  refine keeps_record [first, second] rfl (by simp [apart]) ?_ fun other values found each => ?_
  · simp only [List.map_cons, List.map_nil, List.forall_mem_cons]
    exact ⟨one.legible, two.legible, nofun⟩
  · obtain _ | ⟨one', _ | ⟨two', _ | _⟩⟩ := each
    simp only [fieldPair?, found, List.map_cons, List.map_nil, Json.required, Option.bind_eq_bind, Option.bind_some,
      one.read one', two.read two', Option.pure_def]

/-- A cause with content is read by the reader for its name. -/
theorem keeps_content {name : String} {content : Json} {reader : Json → Option LedgerError} {cause : LedgerError}
    (known : readers.lookup name = some reader) (keeps : Keeps reader content cause) (nonnull : content ≠ .null) :
    Keeps ofJson? (.record [(name, content)]) cause := by
  refine ⟨Json.legible_record fun field member => ?_, fun other shuffled => ?_⟩
  · rw [List.mem_singleton.mp member]
    exact keeps.legible
  · obtain ⟨same, entries, found, order, each, _⟩ := Json.entries?_shuffled shuffled
    obtain _ | ⟨⟨rfl, content'⟩, _ | _⟩ := each
    rename_i entry
    obtain ⟨name, written⟩ := entry
    obtain rfl := List.perm_singleton.mp order
    have shown : written ≠ .null := by
      rintro rfl
      cases content'
      exact nonnull rfl
    obtain ⟨_, fields, _, _, rfl⟩ := Json.shuffled_object_iff.mp shuffled
    have contentful : Json.choice? plain (.object fields) = none := by
      rw [Json.choice?]
      simp only [found, Option.bind_eq_bind, Option.bind_some]
      cases written with
      | null => exact absurd rfl shown
      | _ => rfl
    rw [ofJson?, contentful, Option.none_or, found]
    simp only [Option.bind_eq_bind, Option.bind_some]
    exact (congrArg (Option.bind · _) known).trans (keeps.read content')

theorem keeps_plain {name : String} {cause : LedgerError} (known : plain.lookup name = some cause) :
    Keeps ofJson? (.ofText name) cause := by
  have stored := keeps_choice known
  refine ⟨stored.legible, fun other shuffled => ?_⟩
  rw [ofJson?, stored.read shuffled, Option.some_or]

theorem stored (cause : LedgerError) : Keeps ofJson? cause.toJson cause := by
  cases cause with
  | multiplierTooSmall | onlyManager | feeTooHigh | overflow => exact keeps_plain rfl
  | componentExists | componentNotFound | duplicateComponent | moduleNotEnabled | moduleAlreadyAdded
  | moduleNotPending | moduleNotInitialized | invalidBasket => exact keeps_content rfl (keeps_one _) nofun
  | invalidVirtualUnit => exact keeps_content rfl (keeps_field _) nofun
  | moduleAlreadyAttributed | moduleNotAttributed | insufficientBalance =>
    exact keeps_content rfl (keeps_fieldPair (by decide) _ _) nofun

end LedgerError

/-- A value is read back from the text of its form as it is, and also where the fields of
objects in it come in some other order. -/
def Json.ReadsBack {α : Type} (decode : Json → Option α) (form : Json) (value : α) : Prop :=
  (parse? form.render).bind decode = some value ∧
    ∀ other : Json, form.Shuffled other → (parse? other.render).bind decode = some value

open Json (ReadsBack)

theorem Json.Keeps.readsBack {α : Type} {decode : Json → Option α} {form : Json} {value : α}
    (keeps : Keeps decode form value) : ReadsBack decode form value :=
  ⟨keeps.parse?_bind keeps.legible.shuffled_self, fun _ shuffled => keeps.parse?_bind shuffled⟩

/-- What is stored is read back as it was. Neither the order of a table's entries nor that
of a set's addresses matters for it, and no name, number or data is beyond it. -/
theorem stored_read_back :
    (∀ ledger : Ledger, ReadsBack Ledger.ofJson? ledger.toJson ledger) ∧
      (∀ basket : Basket, ReadsBack Basket.ofJson? basket.toJson basket) ∧
      (∀ balances : Balances, ReadsBack Balances.ofJson? balances.toJson balances) ∧
      (∀ registry : Registry, ReadsBack Registry.ofJson? registry.toJson registry ∧
        ∀ baskets modules : List Address, baskets.Perm registry.baskets.toList →
          modules.Perm registry.modules.toList →
          ReadsBack Registry.ofJson? (registry.listed baskets modules) registry) ∧
      ∀ cause : LedgerError, ReadsBack LedgerError.ofJson? cause.toJson cause := by
  refine ⟨fun ledger => ledger.stored.readsBack, fun basket => basket.stored.readsBack,
    fun balances => balances.stored.readsBack, fun registry => ⟨registry.stored.readsBack, ?_⟩,
    fun cause => cause.stored.readsBack⟩
  intro baskets modules basketsOrder modulesOrder
  exact (Registry.stored_listed basketsOrder modulesOrder).readsBack

/-- A registry with a quote for a name, written with the last field first and its modules
not in order. -/
theorem stored_read_back_quote :
    let quote : Address := ⟨"\"", by decide, by decide⟩
    let accent : Address := ⟨"\u00e9\n", by decide, by decide⟩
    let registry : Registry :=
      { modules := ((∅ : AddressSet).insert quote).insert accent
        feeRecipient := accent
        moduleFees := (∅ : AddressMap (Std.ExtTreeMap UInt64 Amount)).insert quote
          ((∅ : Std.ExtTreeMap UInt64 Amount).insert 18446744073709551615 Amount.one) }
    let written : Json := .record
      [("module_fees", .ofAddressMap Registry.feesToJson registry.moduleFees),
       ("fee_recipient", accent.toJson), ("modules", .ofAddresses [accent, quote]), ("baskets", .ofAddresses [])]
    [accent, quote].Perm registry.modules.toList ∧ (registry.listed [] [accent, quote]).Shuffled written ∧
      (Json.parse? written.render).bind Registry.ofJson? = some registry := by
  intro quote accent registry written
  have modules : [accent, quote].Perm registry.modules.toList := by decide +kernel
  have baskets : ([] : List Address).Perm registry.baskets.toList := by decide +kernel
  have shuffled : (registry.listed [] [accent, quote]).Shuffled written := by
    have legible := (Registry.stored_listed baskets modules).legible
    cases legible with
    | object _ values =>
      have same : List.Forall₂ Json.SameField _ _ :=
        List.forall₂_same.mpr fun field member => ⟨rfl, (values field member).shuffled_self⟩
      exact Json.shuffled_object_iff.mpr ⟨_, _, same, (List.reverse_perm _).symm, rfl⟩
  exact ⟨modules, shuffled, ((stored_read_back.2.2.2.1 registry).2 _ _ baskets modules).2 _ shuffled⟩

end IndexBasket
