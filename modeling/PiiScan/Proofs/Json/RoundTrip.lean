import PiiScan.Proofs.Json.Numerals
import PiiScan.Proofs.Json.Strings

/-!
This module contains the reading of printed documents: a value that is printed on several lines is
read as itself, whatever follows. The values that can be printed without loss are those without
negative whole numbers, with whole numbers of 64 bits and with scores that are read from their
digits.
-/

namespace PiiScan

/--
Whether the digits that are printed for a score are read as this score.
-/
def Score.IsReadBack (s : Score) : Prop :=
  ∃ numeral, Json.takeNumeral? (Json.printScalar (.real s)) = some (numeral, []) ∧
    numeral.toJson = .real s

namespace Json

mutual

/--
Whether a value is read from its printed form.
-/
def IsPrintable : Json → Prop
  | .natural n => n < 2 ^ 64
  | .real s => s.IsReadBack
  | .array items => ItemsPrintable items
  | .object members => MembersPrintable members
  | .negative _ | .unusable => False
  | _ => True

def ItemsPrintable : List Json → Prop
  | [] => True
  | item :: items => item.IsPrintable ∧ ItemsPrintable items

def MembersPrintable : List (Option Text × Json) → Prop
  | [] => True
  | (name, value) :: members =>
    name.isSome = true ∧ value.IsPrintable ∧ MembersPrintable members

end

mutual

theorem isUsable_of_isPrintable : ∀ value : Json, value.IsPrintable → value.isUsable = true
  | .array items, h => by
    rw [IsPrintable] at h
    rw [isUsable]
    exact itemsUsable_of_itemsPrintable items h
  | .object members, h => by
    rw [IsPrintable] at h
    rw [isUsable]
    exact membersUsable_of_membersPrintable members h
  | .null, _ => rfl
  | .bool _, _ => rfl
  | .natural _, _ => rfl
  | .real _, _ => rfl
  | .string _, _ => rfl

theorem itemsUsable_of_itemsPrintable : ∀ items : List Json,
    ItemsPrintable items → itemsUsable items = true
  | [], _ => rfl
  | item :: items, h => by
    rw [itemsUsable, isUsable_of_isPrintable item h.1, itemsUsable_of_itemsPrintable items h.2]
    rfl

theorem membersUsable_of_membersPrintable : ∀ members : List (Option Text × Json),
    MembersPrintable members → membersUsable members = true
  | [], _ => rfl
  | (name, value) :: members, h => by
    obtain ⟨hname, hvalue, hmembers⟩ := h
    rw [membersUsable, hname, isUsable_of_isPrintable value hvalue,
      membersUsable_of_membersPrintable members hmembers]
    rfl

end

@[simp]
theorem isPrintable_ofString (s : String) : (ofString s).IsPrintable := by
  trivial

theorem isPrintable_ofOption {α : Type} {f : α → Json} {value : Option α}
    (h : ∀ a ∈ value, (f a).IsPrintable) : (ofOption f value).IsPrintable := by
  cases value with
  | none => trivial
  | some a => exact h a rfl

def record (fields : List (String × Json)) : Json :=
  .object (fields.map fun field => member field.1 field.2)

theorem isPrintable_record {fields : List (String × Json)}
    (h : ∀ field ∈ fields, field.2.IsPrintable) : (record fields).IsPrintable := by
  rw [record, IsPrintable]
  induction fields with
  | nil => trivial
  | cons field fields ih =>
    obtain ⟨hfield, hfields⟩ := List.forall_mem_cons.mp h
    exact ⟨rfl, hfield, ih hfields⟩

theorem isPrintable_array {items : List Json} (h : ∀ item ∈ items, item.IsPrintable) :
    (array items).IsPrintable := by
  rw [IsPrintable]
  induction items with
  | nil => trivial
  | cons item items ih =>
    obtain ⟨hitem, hitems⟩ := List.forall_mem_cons.mp h
    exact ⟨hitem, ih hitems⟩

/-! ### White space -/

@[simp]
theorem skipBlanks_newLine (level : Nat) (text : List Char) :
    skipBlanks (newLine level ++ text) = skipBlanks text := by
  have blanks : ∀ c ∈ newLine level, isBlank c = true := by
    intro c hc
    simp only [newLine, List.mem_cons, List.mem_replicate] at hc
    rcases hc with rfl | ⟨-, rfl⟩ <;> decide
  exact List.dropWhile_append_of_pos blanks

@[simp]
theorem skipBlanks_blank (text : List Char) : skipBlanks (' ' :: text) = skipBlanks text := by
  rfl

theorem skipBlanks_cons {c : Char} (h : isBlank c = false) (text : List Char) :
    skipBlanks (c :: text) = c :: text := by
  simp [skipBlanks, h]

theorem skipBlanks_skipBlanks (text : List Char) :
    skipBlanks (skipBlanks text) = skipBlanks text := by
  induction text with
  | nil => rfl
  | cons c text ih =>
    cases h : isBlank c with
    | true => simpa [skipBlanks, h] using ih
    | false => rw [skipBlanks_cons h, skipBlanks_cons h]

theorem readValue_skipBlanks (fuel : Nat) (text : List Char) :
    readValue fuel (skipBlanks text) = readValue fuel text := by
  cases fuel with
  | zero => rfl
  | succ fuel => rw [readValue, readValue, skipBlanks_skipBlanks]

theorem readItems_skipBlanks (fuel : Nat) (text : List Char) :
    readItems fuel (skipBlanks text) = readItems fuel text := by
  cases fuel with
  | zero => rfl
  | succ fuel => rw [readItems, readItems, readValue_skipBlanks]

theorem readMembers_skipBlanks (fuel : Nat) (text : List Char) :
    readMembers fuel (skipBlanks text) = readMembers fuel text := by
  cases fuel with
  | zero => rfl
  | succ fuel => rw [readMembers, readMembers, skipBlanks_skipBlanks]

theorem readValue_congr (fuel : Nat) {text text' : List Char}
    (h : skipBlanks text = skipBlanks text') : readValue fuel text = readValue fuel text' := by
  rw [← readValue_skipBlanks, h, readValue_skipBlanks]

theorem readItems_congr (fuel : Nat) {text text' : List Char}
    (h : skipBlanks text = skipBlanks text') : readItems fuel text = readItems fuel text' := by
  rw [← readItems_skipBlanks, h, readItems_skipBlanks]

theorem readMembers_congr (fuel : Nat) {text text' : List Char}
    (h : skipBlanks text = skipBlanks text') : readMembers fuel text = readMembers fuel text' := by
  rw [← readMembers_skipBlanks, h, readMembers_skipBlanks]

/-! ### Numbers -/

theorem exists_head_of_takeNumeral? {text tail : List Char} {numeral : Numeral}
    (h : takeNumeral? text = some (numeral, tail)) :
    ∃ c rest, text = c :: rest ∧ (c = '-' ∨ c.isDigit = true) := by
  cases text with
  | nil => simp [takeNumeral?, takeUnsigned?, takeDigits] at h
  | cons c rest =>
    refine ⟨c, rest, rfl, ?_⟩
    by_cases minus : c = '-'
    · left; exact minus
    · right
      rw [takeNumeral?_of_ne_minus (by simpa using minus)] at h
      cases digit : c.isDigit with
      | true => rfl
      | false => simp [takeUnsigned?, takeDigits, Digits.decimal?, digit] at h

theorem readValue_of_takeNumeral? {fuel : Nat} {text tail : List Char} {numeral : Numeral}
    (h : takeNumeral? text = some (numeral, tail)) :
    readValue (fuel + 1) text = some (numeral.toJson, tail) := by
  obtain ⟨c, rest, rfl, first⟩ := exists_head_of_takeNumeral? h
  have other : ∀ d, d ≠ '-' → d.isDigit = false → c ≠ d := by
    rintro d minus digit rfl
    cases first with
    | inl same => exact minus same
    | inr same => simp [digit] at same
  have notBlank : isBlank c = false := by
    simp only [isBlank, Bool.or_eq_false_iff, beq_eq_false_iff_ne]
    exact ⟨⟨⟨other ' ' (by decide) (by decide), other '\t' (by decide) (by decide)⟩,
      other '\n' (by decide) (by decide)⟩, other '\r' (by decide) (by decide)⟩
  rw [readValue, skipBlanks_cons notBlank]
  split
  · exact absurd (by simp_all) (other 'n' (by decide) (by decide))
  · exact absurd (by simp_all) (other 't' (by decide) (by decide))
  · exact absurd (by simp_all) (other 'f' (by decide) (by decide))
  · exact absurd (by simp_all) (other '"' (by decide) (by decide))
  · exact absurd (by simp_all) (other '[' (by decide) (by decide))
  · exact absurd (by simp_all) (other '{' (by decide) (by decide))
  · rw [h]
    rfl

/-! ### Values -/

theorem endsNumeral_newLine (level : Nat) (rest : List Char) :
    EndsNumeral (newLine level ++ rest) := by
  apply endsNumeral_cons
  decide

theorem endsNumeral_printItemsPretty (level : Nat) (items : List Json) {rest : List Char}
    (ends : EndsNumeral rest) : EndsNumeral (printItemsPretty level items ++ rest) := by
  cases items with
  | nil => simpa [printItemsPretty] using ends
  | cons item items =>
    rw [printItemsPretty, List.cons_append]
    apply endsNumeral_cons
    decide

theorem endsNumeral_printMembersPretty (level : Nat) (members : List (Option Text × Json))
    {rest : List Char} (ends : EndsNumeral rest) :
    EndsNumeral (printMembersPretty level members ++ rest) := by
  cases members with
  | nil => simpa [printMembersPretty] using ends
  | cons member members =>
    rw [printMembersPretty, List.cons_append]
    apply endsNumeral_cons
    decide

theorem readValue_quote (fuel : Nat) (text : Text) (rest : List Char) :
    readValue (fuel + 1) (quote text ++ rest) = some (.string text, rest) := by
  have notBlank : isBlank '"' = false := by decide
  rw [quote_append, readValue, skipBlanks_cons notBlank]
  simp only
  rw [readString_escaped]

theorem readValue_printScalar {fuel : Nat} {value : Json} {rest : List Char}
    (printable : value.IsPrintable) (notItems : ∀ items, value ≠ .array items)
    (notMembers : ∀ members, value ≠ .object members) (ends : EndsNumeral rest) :
    readValue (fuel + 1) (printScalar value ++ rest) = some (value, rest) := by
  cases value with
  | null => simp [printScalar, readValue, skipBlanks, isBlank]
  | bool value => cases value <;> simp [printScalar, readValue, skipBlanks, isBlank]
  | natural n =>
    unfold IsPrintable at printable
    have taken := takeNumeral?_append (takeNumeral?_toDigits n) ends
    rw [printScalar, readValue_of_takeNumeral? taken, Numeral.toJson_ofNat printable]
    rfl
  | negative n => exact absurd printable (by simp [IsPrintable])
  | real s =>
    unfold IsPrintable at printable
    obtain ⟨numeral, taken, value⟩ := printable
    rw [readValue_of_takeNumeral? (takeNumeral?_append taken ends), value]
    rfl
  | string value => exact readValue_quote fuel value rest
  | array items => exact absurd rfl (notItems items)
  | object members => exact absurd rfl (notMembers members)
  | unusable => exact absurd printable (by simp [IsPrintable])

/-! ### Documents -/

/--
Whether so much fuel is enough to read every shorter printed value.
-/
def ReadsValues (fuel : Nat) : Prop :=
  ∀ (value : Json) (level : Nat) (rest : List Char), value.IsPrintable →
    (value.printPretty level).length < fuel → EndsNumeral rest →
      readValue fuel (value.printPretty level ++ rest) = some (value, rest)

def ReadsItems (fuel : Nat) : Prop :=
  ∀ (item : Json) (items : List Json) (level : Nat) (rest : List Char),
    ItemsPrintable (item :: items) →
      (item.printPretty (level + 1) ++ printItemsPretty level items).length + 1 < fuel →
        readItems fuel (item.printPretty (level + 1) ++ (printItemsPretty level items ++
          (newLine level ++ ']' :: rest))) = some (item :: items, rest)

def ReadsMembers (fuel : Nat) : Prop :=
  ∀ (name : Text) (value : Json) (members : List (Option Text × Json)) (level : Nat)
    (rest : List Char), MembersPrintable ((some name, value) :: members) →
      (quote name ++ ':' :: ' ' ::
        (value.printPretty (level + 1) ++ printMembersPretty level members)).length + 1 < fuel →
        readMembers fuel (quote name ++ ':' :: ' ' :: (value.printPretty (level + 1) ++
          (printMembersPretty level members ++ (newLine level ++ '}' :: rest)))) =
            some ((some name, value) :: members, rest)

variable {fuel : Nat}

theorem readsItems_succ (values : ReadsValues fuel) (others : ReadsItems fuel) :
    ReadsItems (fuel + 1) := by
  intro item items level rest printable enough
  obtain ⟨hitem, hitems⟩ := printable
  rw [List.length_append] at enough
  have first := values item (level + 1)
    (printItemsPretty level items ++ (newLine level ++ ']' :: rest)) hitem (by omega)
    (endsNumeral_printItemsPretty level items (endsNumeral_newLine level _))
  rw [readItems, first]
  cases items with
  | nil =>
    simp only [printItemsPretty, List.nil_append, skipBlanks_newLine]
    rw [skipBlanks_cons (by decide)]
    rfl
  | cons next items =>
    simp only [printItemsPretty, List.length_cons, List.length_append] at enough
    have more := others next items level rest hitems (by
      rw [List.length_append]
      omega)
    rw [← readItems_congr fuel (skipBlanks_newLine (level + 1) _)] at more
    simp only [printItemsPretty, List.cons_append, List.append_assoc]
    rw [skipBlanks_cons (by decide)]
    simp only [more]
    rfl

theorem readsMembers_succ (values : ReadsValues fuel) (others : ReadsMembers fuel) :
    ReadsMembers (fuel + 1) := by
  intro name value members level rest printable enough
  obtain ⟨-, hvalue, hmembers⟩ := printable
  simp only [List.length_append, List.length_cons] at enough
  have first := values value (level + 1)
    (printMembersPretty level members ++ (newLine level ++ '}' :: rest)) hvalue (by omega)
    (endsNumeral_printMembersPretty level members (endsNumeral_newLine level _))
  rw [← readValue_congr fuel (skipBlanks_blank _)] at first
  rw [quote_append, readMembers, skipBlanks_cons (by decide)]
  simp only [readString_escaped]
  rw [skipBlanks_cons (by decide)]
  simp only [first]
  cases members with
  | nil =>
    simp only [printMembersPretty, List.nil_append, skipBlanks_newLine]
    rw [skipBlanks_cons (by decide)]
    rfl
  | cons next members =>
    obtain ⟨nextName, nextValue⟩ := next
    obtain ⟨nextName, rfl⟩ := Option.isSome_iff_exists.mp hmembers.1
    simp only [printMembersPretty, List.length_cons, List.length_append] at enough
    have more := others nextName nextValue members level rest hmembers (by
      simp only [List.length_append, List.length_cons]
      simp only [Option.getD_some] at enough
      omega)
    rw [← readMembers_congr fuel (skipBlanks_newLine (level + 1) _)] at more
    simp only [printMembersPretty, List.cons_append, List.append_assoc]
    rw [skipBlanks_cons (by decide)]
    simp only [Option.getD_some, more]
    rfl

theorem readItems_bracket (fuel : Nat) (rest : List Char) :
  readItems fuel (']' :: rest) = none := by
  have notBlank : isBlank ']' = false := by decide
  cases fuel with
  | zero => rfl
  | succ fuel =>
    cases fuel with
    | zero => rfl
    | succ fuel =>
      rw [readItems, readValue, skipBlanks_cons notBlank]
      rfl

theorem readValue_bracket {items : List Json} {text rest : List Char}
    (h : readItems fuel text = some (items, rest)) :
    readValue (fuel + 1) ('[' :: text) = some (.array items, rest) := by
  have notBlank : isBlank '[' = false := by decide
  rw [readValue, skipBlanks_cons notBlank]
  simp only
  split
  · next closed =>
    -- nothing could be read from a list that is closed at once
    rw [← readItems_skipBlanks, closed, readItems_bracket] at h
    cases h
  · rw [readItems_skipBlanks, h]
    rfl

theorem readValue_brace {members : List (Option Text × Json)} {name : Text} {text rest : List Char}
    (h : readMembers fuel (quote name ++ text) = some (members, rest)) (level : Nat) :
    readValue (fuel + 1) ('{' :: (newLine level ++ (quote name ++ text))) =
      some (.object members, rest) := by
  have notBlank : isBlank '{' = false := by decide
  rw [quote_append] at h ⊢
  rw [readValue, skipBlanks_cons notBlank]
  simp only
  rw [skipBlanks_newLine, skipBlanks_cons (by decide)]
  split
  · next closed => cases closed
  · rw [h]
    rfl

theorem readsValues_succ (items : ReadsItems fuel) (members : ReadsMembers fuel) :
    ReadsValues (fuel + 1) := by
  intro value level rest printable enough ends
  cases value with
  | array list =>
    cases list with
    | nil => simp [printPretty, readValue, skipBlanks, isBlank]
    | cons item others =>
      simp only [printPretty, List.length_cons, List.length_append, List.length_nil] at enough
      have read := items item others level rest printable (by
        rw [List.length_append]
        simp [newLine] at enough
        omega)
      rw [← readItems_congr fuel (skipBlanks_newLine (level + 1) _)] at read
      simp only [printPretty, List.cons_append, List.append_assoc, List.nil_append]
      exact readValue_bracket read
  | object list =>
    cases list with
    | nil => simp [printPretty, readValue, skipBlanks, isBlank]
    | cons member others =>
      obtain ⟨name, value⟩ := member
      obtain ⟨name, rfl⟩ := Option.isSome_iff_exists.mp printable.1
      simp only [printPretty, List.length_cons, List.length_append, List.length_nil,
        Option.getD_some] at enough
      have read := members name value others level rest printable (by
        simp only [List.length_append, List.length_cons]
        simp [newLine] at enough
        omega)
      simp only [printPretty, List.cons_append, List.append_assoc, List.nil_append,
        Option.getD_some]
      exact readValue_brace read (level + 1)
  | _ =>
    apply readValue_printScalar printable _ _ ends
    · simp
    · simp

/--
With fuel for its length, every printed value is read as itself.
-/
theorem reads_printed (fuel : Nat) : ReadsValues fuel ∧ ReadsItems fuel ∧ ReadsMembers fuel := by
  induction fuel with
  | zero =>
    refine ⟨?_, ?_, ?_⟩
    · intro value level rest _ enough
      omega
    · intro item items level rest _ enough
      omega
    · intro name value members level rest _ enough
      omega
  | succ fuel ih =>
    obtain ⟨values, items, members⟩ := ih
    exact ⟨readsValues_succ items members, readsItems_succ values items,
      readsMembers_succ values members⟩

/--
Different values are printed differently, whatever follows them.
-/
theorem eq_of_printPretty_append_eq {value value' : Json} {level : Nat} {rest rest' : List Char}
    (printable : value.IsPrintable) (printable' : value'.IsPrintable) (ends : EndsNumeral rest)
    (ends' : EndsNumeral rest')
    (h : value.printPretty level ++ rest = value'.printPretty level ++ rest') :
    value = value' ∧ rest = rest' := by
  have enough := Nat.le_max_left (value.printPretty level).length (value'.printPretty level).length
  have enough' :=
    Nat.le_max_right (value.printPretty level).length (value'.printPretty level).length
  have read := (reads_printed _).1 value level rest printable (Nat.lt_succ_of_le enough) ends
  have read' := (reads_printed _).1 value' level rest' printable' (Nat.lt_succ_of_le enough') ends'
  rw [h, read'] at read
  cases read
  exact ⟨rfl, rfl⟩

theorem ofText?_pretty {value : Json} (h : value.IsPrintable) :
    ofText? value.pretty = some value := by
  have read := (reads_printed (value.pretty.length + 1)).1 value 0 [] h (by
    unfold pretty
    omega) (by simp [EndsNumeral])
  rw [List.append_nil] at read
  unfold ofText?
  unfold pretty at read ⊢
  rw [read]
  rfl

end Json
end PiiScan
