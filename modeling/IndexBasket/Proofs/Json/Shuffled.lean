import IndexBasket.Proofs.Json.Text
import IndexBasket.Proofs.Lookup

namespace IndexBasket

theorem mapM_of_forall₂ {α β : Type} {f : α → Option β} {items : List α} {values : List β}
    (each : List.Forall₂ (fun item value => f item = some value) items values) : items.mapM f = some values := by
  induction each with
  | nil => rfl
  | cons first _ ih =>
    rw [List.mapM_cons, first, ih]
    rfl

/-- What is read item by item is read in every order of the items. -/
theorem mapM_of_perm {α β : Type} {f : α → Option β} {items others : List α} {values : List β}
    (each : List.Forall₂ (fun item value => f item = some value) items values) (order : items.Perm others) :
    ∃ found, others.mapM f = some found ∧ found.Perm values := by
  obtain ⟨found, read, same⟩ := List.perm_comp_forall₂ order.symm each
  exact ⟨found, mapM_of_forall₂ read, same⟩

theorem exists_of_mem_right {α β : Type} {R : α → β → Prop} {items : List α} {others : List β} {other : β}
    (each : List.Forall₂ R items others) (member : other ∈ others) : ∃ item ∈ items, R item other := by
  induction each with
  | nil => cases member
  | cons first _ ih =>
    obtain _ | ⟨_, later⟩ := member
    · exact ⟨_, List.mem_cons_self, first⟩
    · obtain ⟨item, before, related⟩ := ih later
      exact ⟨item, List.mem_cons_of_mem _ before, related⟩

namespace Json

/-- The same value with the fields of its objects in some other order. -/
inductive Shuffled : Json → Json → Prop
  | null : Shuffled null null
  | bool (value : Bool) : Shuffled (bool value) (bool value)
  | number (literal : String) : Shuffled (number literal) (number literal)
  | string (body : String) : Shuffled (string body) (string body)
  | array {items items' : List Json} (each : List.Forall₂ Shuffled items items') : Shuffled (array items) (array items')
  | object {fields between fields' : List (String × Json)} (names : fields.map Prod.fst = between.map Prod.fst)
      (values : List.Forall₂ Shuffled (fields.map Prod.snd) (between.map Prod.snd)) (order : between.Perm fields') :
      Shuffled (object fields) (object fields')

/-- A field under the same name, with the same value up to the order of fields within it. -/
def SameField (field field' : String × Json) : Prop := field.1 = field'.1 ∧ field.2.Shuffled field'.2

theorem forall₂_sameField {fields fields' : List (String × Json)} :
    List.Forall₂ SameField fields fields' ↔
      fields.map Prod.fst = fields'.map Prod.fst ∧
        List.Forall₂ Shuffled (fields.map Prod.snd) (fields'.map Prod.snd) := by
  rw [← List.forall₂_eq_eq_eq]
  simp only [List.forall₂_map_left_iff, List.forall₂_map_right_iff]
  constructor
  · exact fun same => ⟨same.imp fun _ _ => And.left, same.imp fun _ _ => And.right⟩
  · rintro ⟨names, values⟩
    exact names.mp (fun _ _ name value => ⟨name, value⟩) values

theorem shuffled_object_iff {fields : List (String × Json)} {other : Json} :
    (object fields).Shuffled other ↔
      ∃ between fields', List.Forall₂ SameField fields between ∧ between.Perm fields' ∧ other = object fields' := by
  constructor
  · intro shuffled
    cases shuffled with
    | object names values order => exact ⟨_, _, forall₂_sameField.mpr ⟨names, values⟩, order, rfl⟩
  · rintro ⟨between, fields', same, order, rfl⟩
    obtain ⟨names, values⟩ := forall₂_sameField.mp same
    exact .object names values order

theorem Legible.shuffled_self {value : Json} (legible : value.Legible) : value.Shuffled value := by
  induction legible with
  | null => exact .null
  | bool value => exact .bool value
  | number => exact .number _
  | string => exact .string _
  | array _ ih => exact .array (List.forall₂_same.mpr ih)
  | object _ _ ih =>
    have same : List.Forall₂ SameField _ _ := List.forall₂_same.mpr fun field member => ⟨rfl, ih field member⟩
    exact shuffled_object_iff.mpr ⟨_, _, same, .refl _, rfl⟩

theorem Legible.shuffled {value other : Json} (legible : value.Legible) (shuffled : value.Shuffled other) :
    other.Legible := by
  induction legible generalizing other with
  | null =>
    cases shuffled
    exact .null
  | bool value =>
    cases shuffled
    exact .bool value
  | number numeral =>
    cases shuffled
    exact .number numeral
  | string quotable =>
    cases shuffled
    exact .string quotable
  | array _ ih =>
    cases shuffled with
    | array each =>
      refine .array fun item' member => ?_
      obtain ⟨item, before, related⟩ := exists_of_mem_right each member
      exact ih item before related
  | object names _ ih =>
    obtain ⟨between, fields', same, order, rfl⟩ := shuffled_object_iff.mp shuffled
    refine .object (fun field' member => ?_) fun field' member => ?_
    all_goals obtain ⟨field, before, name, value⟩ := exists_of_mem_right same (order.mem_iff.mpr member)
    · exact name ▸ names field before
    · exact ih field before value

/-- A form from which a value is read back, in whatever order its fields are written. -/
structure Keeps {α : Type} (decode : Json → Option α) (form : Json) (value : α) : Prop where
  legible : form.Legible
  read : ∀ ⦃other : Json⦄, form.Shuffled other → decode other = some value

variable {α β : Type} {decode : Json → Option α} {form : Json} {value : α}

/-- The way back from the text of a form. -/
theorem Keeps.parse?_bind (keeps : Keeps decode form value) {other : Json} (shuffled : form.Shuffled other) :
    (parse? other.render).bind decode = some value := by
  rw [(keeps.legible.shuffled shuffled).parse?_render, Option.bind_some, keeps.read shuffled]

theorem Keeps.bind (keeps : Keeps decode form value) {next : α → Option β} {result : β}
    (found : next value = some result) : Keeps (fun other => (decode other).bind next) form result := by
  refine ⟨keeps.legible, fun other shuffled => ?_⟩
  rw [keeps.read shuffled, Option.bind_some, found]

theorem keeps_text (text : String) : Keeps text? (ofText text) text := by
  refine ⟨legible_ofText text, fun other shuffled => ?_⟩
  cases shuffled
  exact unescape?_escape text

theorem natural?_toDigits (n : Nat) : Digits.natural? (Nat.toDigits 10 n) = some n := by
  rw [Digits.natural?, if_pos ⟨Nat.toDigits_ne_nil, List.all_eq_true.mpr (Digits.all_toDigits n)⟩,
    Nat.ofDigitChars_ten_toDigits]

theorem keeps_natural {n largest : Nat} (small : n ≤ largest) : Keeps (natural? largest) (ofNat n) n := by
  refine ⟨legible_ofNat n, fun other shuffled => ?_⟩
  cases shuffled
  rw [natural?, String.toList_ofList, natural?_toDigits, Option.filter_some]
  simp [small]

theorem keeps_list {encode : α → Json} (each : ∀ item, Keeps decode (encode item) item) (items : List α) :
    Keeps (list? decode) (array (items.map encode)) items := by
  refine ⟨.array fun form member => ?_, fun other shuffled => ?_⟩
  · obtain ⟨item, _, rfl⟩ := List.mem_map.mp member
    exact (each item).legible
  · cases shuffled with
    | array same =>
      rw [list?]
      refine mapM_of_forall₂ (List.Forall₂.flip ?_)
      exact (List.forall₂_map_left_iff.mp same).imp fun item _ shuffled => (each item).read shuffled

theorem legible_record {fields : List (String × Json)} (values : ∀ field ∈ fields, field.2.Legible) :
    (record fields).Legible := by
  refine .object (fun field member => ?_) fun field member => ?_
  all_goals obtain ⟨field, before, rfl⟩ := List.mem_map.mp member
  · exact quotable_toList_escape field.1
  · exact values field before

/-! Fields that have been put in order are the same fields. -/

theorem insertField_perm (field : String × Json) (fields : List (String × Json)) :
    (insertField field fields).Perm (field :: fields) := by
  induction fields with
  | nil => exact .refl _
  | cons next rest ih =>
    unfold insertField
    split
    · exact .refl _
    · exact (ih.cons next).trans (.swap field next rest)

theorem orderedFields_perm (fields : List (String × Json)) : (orderedFields fields).Perm fields := by
  induction fields with
  | nil => exact .refl _
  | cons field rest ih => exact (insertField_perm field _).trans (ih.cons field)

theorem insertField_sorted (field : String × Json) {fields : List (String × Json)}
    (sorted : fields.Pairwise (·.1 ≤ ·.1)) : (insertField field fields).Pairwise (·.1 ≤ ·.1) := by
  induction fields with
  | nil => exact List.pairwise_singleton _ field
  | cons next rest ih =>
    obtain ⟨least, ordered⟩ := List.pairwise_cons.mp sorted
    unfold insertField
    split
    · rename_i before
      have first : field.1 ≤ next.1 := Std.le_of_lt before
      refine List.pairwise_cons.mpr ⟨List.forall_mem_cons.mpr ⟨first, fun later member => ?_⟩, sorted⟩
      exact String.le_trans first (least later member)
    · rename_i after
      refine List.pairwise_cons.mpr ⟨fun later member => ?_, ih ordered⟩
      obtain rfl | member := List.mem_cons.mp ((insertField_perm field rest).mem_iff.mp member)
      · exact String.not_lt.mp after
      · exact least later member

theorem orderedFields_sorted (fields : List (String × Json)) : (orderedFields fields).Pairwise (·.1 ≤ ·.1) := by
  induction fields with
  | nil => exact .nil
  | cons field rest ih => exact insertField_sorted field ih

/-- The entries of a record that has been shuffled are its fields in some order. -/
theorem entries?_shuffled {fields : List (String × Json)} {other : Json} (shuffled : (record fields).Shuffled other) :
    ∃ same entries, other.entries? = some entries ∧ entries.Perm same ∧ List.Forall₂ SameField fields same ∧
      other.isArray = false := by
  obtain ⟨between, fields', each, order, rfl⟩ := shuffled_object_iff.mp shuffled
  rw [List.forall₂_map_left_iff] at each
  have read : ∃ same,
      List.Forall₂ (fun field entry => (unescape? field.1).map (·, field.2) = some entry) between same ∧
        List.Forall₂ SameField fields same := by
    clear shuffled order
    induction each with
    | nil => exact ⟨[], .nil, .nil⟩
    | @cons field escaped _ _ first _ ih =>
      obtain ⟨same, read, others⟩ := ih
      refine ⟨(field.1, escaped.2) :: same, .cons ?_ read, .cons ⟨rfl, first.2⟩ others⟩
      rw [← first.1, unescape?_escape, Option.map_some]
  obtain ⟨same, read, sameFields⟩ := read
  obtain ⟨entries, found, perm⟩ := mapM_of_perm read order
  exact ⟨same, entries, found, perm, sameFields, rfl⟩

theorem lookupOnce_perm {entries same : List (String × Json)} (order : entries.Perm same)
    (distinct : (same.map Prod.fst).Nodup) {field : String × Json} (member : field ∈ same) :
    lookupOnce entries field.1 = some (some field.2) := by
  have one : same.filter (·.1 == field.1) = [field] := by
    have listed := filter_key_eq_lookup distinct field.1
    rwa [(lookup_eq_some_iff_mem distinct).mpr member] at listed
  have found : entries.filter (·.1 == field.1) = [field] := List.perm_singleton.mp (one ▸ order.filter _)
  rw [lookupOnce, found]

/-- The fields of a record are found again by their names. -/
theorem fields?_shuffled {fields : List (String × Json)} (distinct : (fields.map Prod.fst).Nodup) {other : Json}
    (shuffled : (record fields).Shuffled other) :
    ∃ values, other.fields? (fields.map Prod.fst) = some (values.map some) ∧
      List.Forall₂ Shuffled (fields.map Prod.snd) values := by
  obtain ⟨same, entries, found, order, each, object⟩ := entries?_shuffled shuffled
  obtain ⟨names, values⟩ := forall₂_sameField.mp each
  refine ⟨same.map Prod.snd, ?_, values⟩
  have byName : other.fields? (fields.map Prod.fst) =
      other.entries?.bind fun entries => (fields.map Prod.fst).mapM (lookupOnce entries) := by
    cases other with
    | array => cases object
    | _ => rfl
  rw [byName, found, Option.bind_some, names]
  rw [names] at distinct
  refine mapM_of_forall₂ ?_
  simp only [List.forall₂_map_left_iff, List.forall₂_map_right_iff]
  exact List.forall₂_same.mpr fun field member => lookupOnce_perm order distinct member

/-- A record is read from the values under its names, each in some order. -/
theorem keeps_record {fields : List (String × Json)} (names : List String) (named : fields.map Prod.fst = names)
    (distinct : names.Nodup) (legible : ∀ form ∈ fields.map Prod.snd, form.Legible)
    (read : ∀ ⦃other values⦄, other.fields? names = some (values.map some) →
      List.Forall₂ Shuffled (fields.map Prod.snd) values → decode other = some value) :
    Keeps decode (record fields) value := by
  subst named
  refine ⟨legible_record fun field member => legible _ (List.mem_map_of_mem member), fun other shuffled => ?_⟩
  obtain ⟨values, found, each⟩ := fields?_shuffled distinct shuffled
  exact read found each

end Json

end IndexBasket
