import IndexBasket.Json.Decode
import IndexBasket.Proofs.Number.Digits
import Mathlib.Tactic.SplitIfs

namespace IndexBasket

namespace Json

/-- A body that is read as a whole up to the quote that closes it. -/
def Quotable (body : List Char) : Prop :=
  ∀ rest, scanString (body ++ '"' :: rest) = some (body, rest)

theorem quotable_nil : Quotable [] := fun _ => by rw [List.nil_append, scanString]

theorem isHexDigit_hexDigit {n : Nat} (small : n < 16) : isHexDigit (hexDigit n) = true := by
  revert n
  decide

theorem hexValue_hexDigit {n : Nat} (small : n < 16) : hexValue (hexDigit n) = n := by
  revert n
  decide

theorem Quotable.plain {c : Char} {body : List Char} (quotable : Quotable body) (printable : 32 ≤ c.toNat)
    (unquoted : c ≠ '"') (unescaped : c ≠ '\\') : Quotable (c :: body) := by
  intro rest
  rw [List.cons_append, scanString]
  · simp [quotable rest, unescaped, Nat.not_lt.mpr printable]
  all_goals simp_all

theorem Quotable.escaped {c : Char} {body : List Char} (quotable : Quotable body)
    (short : ['"', '\\', '/', 'b', 'f', 'n', 'r', 't'].contains c = true) : Quotable ('\\' :: c :: body) := by
  intro rest
  rw [List.cons_append, List.cons_append, scanString]
  · rw [if_pos short, quotable rest, Option.map_some]
  · rintro a b c d tail rfl
    simp at short

theorem Quotable.hex {a b c d : Char} {body : List Char} (quotable : Quotable body) (first : isHexDigit a = true)
    (second : isHexDigit b = true) (third : isHexDigit c = true) (fourth : isHexDigit d = true) :
    Quotable ('\\' :: 'u' :: a :: b :: c :: d :: body) := by
  intro rest
  simp only [List.cons_append, scanString, first, second, third, fourth, quotable rest, Bool.and_self, if_true,
    Option.map_some]

theorem Quotable.escapeChar {body : List Char} (quotable : Quotable body) (c : Char) :
    Quotable (escapeChar c ++ body) := by
  unfold Json.escapeChar
  split_ifs with quote backslash backspace feed line carriage tab control
  · exact quotable.escaped rfl
  · exact quotable.escaped rfl
  · exact quotable.escaped rfl
  · exact quotable.escaped rfl
  · exact quotable.escaped rfl
  · exact quotable.escaped rfl
  · exact quotable.escaped rfl
  · exact quotable.hex rfl rfl (isHexDigit_hexDigit (by omega)) (isHexDigit_hexDigit (by omega))
  · exact quotable.plain (by omega) quote backslash

theorem quotable_escape (text : List Char) : Quotable (text.flatMap escapeChar) := by
  induction text with
  | nil => exact quotable_nil
  | cons c rest ih => exact ih.escapeChar c

theorem pieces_plain {c : Char} {rest : List Char} (unescaped : c ≠ '\\') :
    pieces (c :: rest) = .char c :: pieces rest := by
  rw [pieces]
  all_goals simp_all

theorem joinPieces_unit {n : Nat} {rest : List Piece} (low : n < 0xD800) :
    joinPieces (.unit n :: rest) = (joinPieces rest).map (Char.ofNat n :: ·) := by
  have notHigh : isHighSurrogate n = false := by
    simp only [isHighSurrogate, Bool.and_eq_false_iff, decide_eq_false_iff_not]
    omega
  have notLow : isLowSurrogate n = false := by
    simp only [isLowSurrogate, Bool.and_eq_false_iff, decide_eq_false_iff_not]
    omega
  rw [joinPieces.eq_def]
  simp only [notHigh, notLow, Bool.false_eq_true, if_false]

/-- What stands for a character inside quotes is read as that character. -/
theorem joinPieces_escapeChar (c : Char) (rest : List Char) :
    joinPieces (pieces (escapeChar c ++ rest)) = (joinPieces (pieces rest)).map (c :: ·) := by
  unfold escapeChar
  split_ifs with quote backslash backspace feed line carriage tab control
  iterate 7
    · subst c
      rfl
  · have value : ((hexValue '0' * 16 + hexValue '0') * 16 + hexValue (hexDigit (c.toNat / 16))) * 16 +
        hexValue (hexDigit (c.toNat % 16)) = c.toNat := by
      rw [hexValue_hexDigit (by omega), hexValue_hexDigit (by omega), show hexValue '0' = 0 from rfl]
      omega
    simp only [List.cons_append, List.nil_append, pieces, value]
    rw [joinPieces_unit (by omega), Char.ofNat_toNat]
  · rw [List.singleton_append, pieces_plain backslash, joinPieces]

theorem joinPieces_escape (text : List Char) : joinPieces (pieces (text.flatMap escapeChar)) = some text := by
  induction text with
  | nil => rfl
  | cons c rest ih => rw [List.flatMap_cons, joinPieces_escapeChar, ih, Option.map_some]

theorem unescape?_escape (text : String) : unescape? (escape text) = some text := by
  rw [unescape?, escape, String.toList_ofList, joinPieces_escape, Option.map_some, String.ofList_toList]

/-- What may come after a value: the end, a comma or a closing bracket. -/
def Closes (rest : List Char) : Prop := ∀ c ∈ rest.head?, c = ',' ∨ c = ']' ∨ c = '\x7d'

/-- A literal that is read as a whole up to the end of the value. -/
structure Numeral (literal : List Char) : Prop where
  opens : ∃ c tail, literal = c :: tail ∧ (c = '-' ∨ c.isDigit = true)
  whole : ∀ {rest}, Closes rest → scanNumber (literal ++ rest) = some (literal, rest)

theorem Closes.head_not_digit {rest : List Char} (closes : Closes rest) : ∀ c ∈ rest.head?, c.isDigit = false := by
  intro c head
  obtain rfl | rfl | rfl := closes c head <;> rfl

theorem scanDigits_append {digits rest : List Char} (nonempty : digits ≠ [])
    (all : ∀ c ∈ digits, c.isDigit = true) (closes : Closes rest) :
    scanDigits (digits ++ rest) = some (digits, rest) := by
  have stops : rest.takeWhile Char.isDigit = [] ∧ rest.dropWhile Char.isDigit = rest := by
    cases rest with
    | nil => exact ⟨rfl, rfl⟩
    | cons c tail =>
      have other := closes.head_not_digit c rfl
      exact ⟨List.takeWhile_cons_of_neg (by simp [other]), List.dropWhile_cons_of_neg (by simp [other])⟩
  unfold scanDigits
  rw [List.takeWhile_append_of_pos all, List.dropWhile_append_of_pos all, stops.1, stops.2, List.append_nil]
  cases digits with
  | nil => exact absurd rfl nonempty
  | cons => rfl

theorem quotable_digits {digits : List Char} (all : ∀ c ∈ digits, c.isDigit = true) : Quotable digits := by
  induction digits with
  | nil => exact quotable_nil
  | cons c rest ih =>
    rw [List.forall_mem_cons] at all
    obtain ⟨digit, others⟩ := all
    refine (ih others).plain ?_ ?_ ?_
    · have least := (Char.isDigit_iff_toNat.mp digit).1
      exact Nat.le_trans (by decide) least
    all_goals
      rintro rfl
      cases digit

theorem scanWhole_toDigits (n : Nat) {rest : List Char} (closes : Closes rest) :
    scanWhole (Nat.toDigits 10 n ++ rest) = some (Nat.toDigits 10 n, rest) := by
  cases n with
  | zero => rfl
  | succ n =>
    obtain ⟨c, tail, digits, nonzero⟩ := Digits.head_toDigits (Nat.succ_pos n)
    have scanned := scanDigits_append Nat.toDigits_ne_nil (Digits.all_toDigits (n + 1)) closes
    rw [digits] at scanned ⊢
    rw [List.cons_append, scanWhole]
    · exact scanned
    · rintro other same
      exact nonzero (List.cons.inj same).1

theorem scanFraction_closes {rest : List Char} (closes : Closes rest) : scanFraction rest = some ([], rest) := by
  cases rest with
  | nil => rfl
  | cons c tail =>
    obtain rfl | rfl | rfl := closes c rfl <;> rfl

theorem scanExponent_closes {rest : List Char} (closes : Closes rest) : scanExponent rest = some ([], rest) := by
  cases rest with
  | nil => rfl
  | cons c tail =>
    obtain rfl | rfl | rfl := closes c rfl <;> rfl

theorem scanNumber_negative {digits rest : List Char} (whole : scanWhole (digits ++ rest) = some (digits, rest))
    (closes : Closes rest) : scanNumber ('-' :: digits ++ rest) = some ('-' :: digits, rest) := by
  simp only [scanNumber, List.cons_append, whole, scanFraction_closes closes, scanExponent_closes closes,
    Option.bind_eq_bind, Option.bind_some, List.append_nil, List.nil_append]

theorem scanNumber_unsigned {c : Char} {tail rest : List Char} (unsigned : c ≠ '-')
    (whole : scanWhole (c :: tail ++ rest) = some (c :: tail, rest)) (closes : Closes rest) :
    scanNumber (c :: tail ++ rest) = some (c :: tail, rest) := by
  unfold scanNumber
  split
  rename_i sign text signed
  split at signed
  · rename_i same
    exact absurd (List.cons.inj same).1 unsigned
  · cases signed
    simp only [whole, scanFraction_closes closes, scanExponent_closes closes, Option.bind_eq_bind, Option.bind_some,
      List.append_nil, List.nil_append]

theorem numeral_toDigits (n : Nat) : Numeral (Nat.toDigits 10 n) := by
  obtain ⟨c, tail, digits⟩ := List.exists_cons_of_ne_nil (Nat.toDigits_ne_nil (n := n) (b := 10))
  have digit : c.isDigit = true := Digits.all_toDigits n c (by rw [digits]; exact List.mem_cons_self)
  refine ⟨⟨c, tail, digits, Or.inr digit⟩, fun {rest} closes => ?_⟩
  have whole := scanWhole_toDigits n closes
  rw [digits] at whole ⊢
  refine scanNumber_unsigned ?_ whole closes
  rintro rfl
  cases digit

theorem numeral_minus (n : Nat) : Numeral ('-' :: Nat.toDigits 10 n) :=
  ⟨⟨'-', _, rfl, Or.inl rfl⟩, fun closes => scanNumber_negative (scanWhole_toDigits n closes) closes⟩

/-- Values whose literals and bodies are read as they are written. -/
inductive Legible : Json → Prop
  | null : Legible null
  | bool (value : Bool) : Legible (bool value)
  | number {literal : String} (numeral : Numeral literal.toList) : Legible (number literal)
  | string {body : String} (quotable : Quotable body.toList) : Legible (string body)
  | array {items : List Json} (each : ∀ item ∈ items, Legible item) : Legible (array items)
  | object {fields : List (String × Json)} (names : ∀ field ∈ fields, Quotable field.1.toList)
      (values : ∀ field ∈ fields, Legible field.2) : Legible (object fields)

theorem quotable_toList_escape (text : String) : Quotable (escape text).toList := by
  rw [escape, String.toList_ofList]
  exact quotable_escape text.toList

theorem legible_ofText (text : String) : Legible (ofText text) := .string (quotable_toList_escape text)

theorem legible_ofNat (n : Nat) : Legible (ofNat n) := by
  refine .number ?_
  rw [String.toList_ofList]
  exact numeral_toDigits n

theorem legible_ofInt (i : Int) : Legible (ofInt i) := by
  unfold ofInt
  split
  · refine .number ?_
    rw [String.toList_ofList]
    exact numeral_minus _
  · exact legible_ofNat _

theorem dropWhile_isGap {c : Char} {tail : List Char} (solid : isGap c = false) :
    (c :: tail).dropWhile isGap = c :: tail :=
  List.dropWhile_cons_of_neg (by simp [solid])

/-- A value begins with neither a gap nor a closing bracket. -/
theorem Legible.opens {value : Json} (legible : value.Legible) :
    ∃ c tail, chars value = c :: tail ∧ isGap c = false ∧ c ≠ ']' ∧ c ≠ '}' := by
  cases legible with
  | null => exact ⟨_, _, rfl, rfl, by decide, by decide⟩
  | bool value => cases value <;> exact ⟨_, _, rfl, rfl, by decide, by decide⟩
  | number numeral =>
    obtain ⟨c, tail, same, opens⟩ := numeral.opens
    refine ⟨c, tail, by rw [chars, same], ?_⟩
    obtain rfl | digit := opens
    · decide
    · simp only [isGap, Bool.or_eq_false_iff, beq_eq_false_iff_ne]
      refine ⟨⟨⟨⟨?_, ?_⟩, ?_⟩, ?_⟩, ?_, ?_⟩
      all_goals
        rintro rfl
        cases digit
  | string => exact ⟨_, _, rfl, rfl, by decide, by decide⟩
  | array => exact ⟨_, _, rfl, rfl, by decide, by decide⟩
  | object => exact ⟨_, _, rfl, rfl, by decide, by decide⟩

/-- A value is read off the text it is written in, with enough fuel. -/
def Readable (value : Json) : Prop :=
  ∀ ⦃fuel : Nat⦄ ⦃rest : List Char⦄, (chars value).length ≤ fuel → Closes rest →
    scanValue fuel (chars value ++ rest) = some (value, rest)

theorem readable_number {literal : String} (numeral : Numeral literal.toList) : Readable (number literal) := by
  intro fuel rest enough closes
  obtain ⟨c, tail, same, opens⟩ := numeral.opens
  have whole := numeral.whole closes
  rw [chars] at enough ⊢
  cases fuel with
  | zero => simp [same] at enough
  | succ fuel =>
    have kept : (literal.toList ++ rest).dropWhile isGap = literal.toList ++ rest := by
      obtain ⟨_, _, begins, solid, _⟩ := (Legible.number numeral).opens
      rw [chars] at begins
      rw [begins, List.cons_append, dropWhile_isGap solid]
    rw [scanValue, kept]
    split
    case h_7 => simp only [whole, Option.map_some, String.ofList_toList]
    -- What else a value could begin with is neither a sign nor a digit.
    all_goals
      rename_i begins
      rw [same] at begins
      obtain ⟨rfl, _⟩ := List.cons.inj begins
      exact absurd opens (by decide)

theorem readable_string {body : String} (quotable : Quotable body.toList) : Readable (string body) := by
  intro fuel rest enough closes
  cases fuel with
  | zero => simp [chars, quoted] at enough
  | succ fuel =>
    rw [chars, quoted, scanValue]
    simp [isGap, quotable rest, String.ofList_toList]

theorem closes_nil : Closes [] := fun _ => nofun

theorem closes_cons {c : Char} {rest : List Char} (closing : c = ',' ∨ c = ']' ∨ c = '\x7d') : Closes (c :: rest) := by
  rintro _ ⟨⟩
  exact closing

theorem itemChars_cons (item : Json) {later : List Json} (more : later ≠ []) :
    itemChars (item :: later) = chars item ++ ',' :: itemChars later := by
  cases later with
  | nil => exact absurd rfl more
  | cons => rw [itemChars]; simp

theorem itemChars_opens {item : Json} (legible : item.Legible) (later : List Json) :
    ∃ c tail, itemChars (item :: later) = c :: tail ∧ isGap c = false ∧ c ≠ ']' := by
  obtain ⟨c, tail, begins, solid, other, _⟩ := legible.opens
  cases later with
  | nil => exact ⟨c, tail, by rw [itemChars, begins], solid, other⟩
  | cons => exact ⟨c, _, by rw [itemChars_cons item (by simp), begins, List.cons_append], solid, other⟩

theorem scanItems_chars {items : List Json} (nonempty : items ≠ []) (each : ∀ item ∈ items, Readable item)
    {fuel : Nat} (enough : (itemChars items).length < fuel) (rest : List Char) :
    scanItems fuel (itemChars items ++ ']' :: rest) = some (items, rest) := by
  induction items generalizing fuel with
  | nil => exact absurd rfl nonempty
  | cons item later ih =>
    obtain _ | fuel := fuel
    · exact absurd enough (Nat.not_lt_zero _)
    have first : Readable item := each item List.mem_cons_self
    cases later with
    | nil =>
      rw [itemChars] at enough ⊢
      rw [scanItems, first (by omega) (closes_cons (by simp))]
      rfl
    | cons next others =>
      rw [itemChars_cons item (by simp), List.length_append, List.length_cons] at enough
      have remaining : scanItems fuel _ = _ :=
        ih (by simp) (fun other member => each other (List.mem_cons_of_mem item member)) (by omega)
      rw [itemChars_cons item (by simp), List.append_assoc, List.cons_append, scanItems,
        first (by omega) (closes_cons (by simp)), Option.bind_some]
      simp only [dropWhile_isGap (show isGap ',' = false from rfl), remaining, Option.map_some]

theorem readable_array {items : List Json} (legible : ∀ item ∈ items, Legible item)
    (each : ∀ item ∈ items, Readable item) : Readable (array items) := by
  intro fuel rest enough closes
  rw [chars] at enough ⊢
  obtain _ | fuel := fuel
  · simp at enough
  cases items with
  | nil => rfl
  | cons first later =>
    obtain ⟨c, tail, begins, solid, other⟩ := itemChars_opens (legible first List.mem_cons_self) later
    have scanned : scanItems fuel _ = _ := scanItems_chars (by simp) each (by simp at enough; omega) rest
    rw [List.cons_append, List.cons_append, List.append_assoc, List.singleton_append, scanValue, dropWhile_isGap rfl]
    rw [begins, List.cons_append] at scanned ⊢
    simp only [dropWhile_isGap solid]
    split
    · rename_i same
      exact absurd (List.cons.inj same).1 other
    · rw [scanned, Option.map_some]

theorem quoted_append (body : String) (rest : List Char) :
    quoted body ++ rest = '"' :: (body.toList ++ '"' :: rest) := by
  simp [quoted]

theorem fieldChars_cons (field : String × Json) {later : List (String × Json)} (more : later ≠ []) :
    fieldChars (field :: later) = quoted field.1 ++ ':' :: chars field.2 ++ ',' :: fieldChars later := by
  cases later with
  | nil => exact absurd rfl more
  | cons => rw [fieldChars]; simp

theorem scanFields_chars {fields : List (String × Json)} (nonempty : fields ≠ [])
    (names : ∀ field ∈ fields, Quotable field.1.toList) (each : ∀ field ∈ fields, Readable field.2) {fuel : Nat}
    (enough : (fieldChars fields).length < fuel) (rest : List Char) :
    scanFields fuel (fieldChars fields ++ '\x7d' :: rest) = some (fields, rest) := by
  induction fields generalizing fuel with
  | nil => exact absurd rfl nonempty
  | cons field later ih =>
    obtain _ | fuel := fuel
    · exact absurd enough (Nat.not_lt_zero _)
    have name : Quotable field.1.toList := names field List.mem_cons_self
    have first : Readable field.2 := each field List.mem_cons_self
    cases later with
    | nil =>
      rw [fieldChars, List.length_append, List.length_cons] at enough
      rw [fieldChars, List.append_assoc, List.cons_append, quoted_append, scanFields, dropWhile_isGap rfl]
      simp only [name _, Option.bind_some, dropWhile_isGap (show isGap ':' = false from rfl)]
      rw [first (by omega) (closes_cons (by simp)), Option.bind_some]
      simp only [dropWhile_isGap (show isGap '\x7d' = false from rfl), String.ofList_toList]
    | cons next others =>
      rw [fieldChars_cons field (by simp), List.length_append, List.length_append, List.length_cons,
        List.length_cons] at enough
      have remaining : scanFields fuel _ = _ :=
        ih (by simp) (fun other member => names other (List.mem_cons_of_mem field member))
          (fun other member => each other (List.mem_cons_of_mem field member)) (by omega)
      rw [fieldChars_cons field (by simp), List.append_assoc, List.append_assoc, quoted_append, scanFields,
        dropWhile_isGap rfl]
      simp only [name _, Option.bind_some, List.cons_append, dropWhile_isGap (show isGap ':' = false from rfl)]
      rw [first (by omega) (closes_cons (by simp)), Option.bind_some]
      simp only [dropWhile_isGap (show isGap ',' = false from rfl), remaining, Option.map_some, String.ofList_toList]

theorem fieldChars_opens (field : String × Json) (later : List (String × Json)) :
    ∃ tail, fieldChars (field :: later) = '"' :: tail := by
  cases later with
  | nil => exact ⟨_, by rw [fieldChars, quoted_append]⟩
  | cons => exact ⟨_, by rw [fieldChars_cons field (by simp), List.append_assoc, quoted_append]⟩

theorem readable_object {fields : List (String × Json)} (names : ∀ field ∈ fields, Quotable field.1.toList)
    (each : ∀ field ∈ fields, Readable field.2) : Readable (object fields) := by
  intro fuel rest enough closes
  rw [chars] at enough ⊢
  obtain _ | fuel := fuel
  · simp at enough
  cases fields with
  | nil => rfl
  | cons first later =>
    obtain ⟨tail, begins⟩ := fieldChars_opens first later
    have scanned : scanFields fuel _ = _ := scanFields_chars (by simp) names each (by simp at enough; omega) rest
    rw [List.cons_append, List.cons_append, List.append_assoc, List.singleton_append, scanValue, dropWhile_isGap rfl]
    rw [begins, List.cons_append] at scanned ⊢
    simp only [dropWhile_isGap (show isGap '"' = false from rfl)]
    change Option.map _ (scanFields fuel _) = _
    rw [scanned, Option.map_some]

theorem Legible.readable {value : Json} (legible : value.Legible) : value.Readable := by
  induction legible with
  | null =>
    rintro (_ | fuel) rest enough _
    · simp [chars] at enough
    · rfl
  | bool value =>
    rintro (_ | fuel) rest enough _
    · cases value <;> simp [chars] at enough
    · cases value <;> rfl
  | number numeral => exact readable_number numeral
  | string quotable => exact readable_string quotable
  | array each ih => exact readable_array each ih
  | object names _ ih => exact readable_object names ih

/-- What is written is read back. -/
theorem Legible.parse?_render {value : Json} (legible : value.Legible) : parse? value.render = some value := by
  have scanned := legible.readable (Nat.le_succ _) closes_nil
  rw [List.append_nil] at scanned
  rw [parse?, render, String.toList_ofList, scanned]
  rfl

end Json

end IndexBasket
