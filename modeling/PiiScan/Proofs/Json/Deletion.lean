import PiiScan.Json.Record
import PiiScan.Proofs.Json.RoundTrip

/-!
This module contains the deletion of members of objects, wherever they are in a value, and what a
record is read as when some of its fields have been deleted.
-/

namespace PiiScan
namespace Json

inductive Step where
  | member (name : String)
  | item (index : Nat)
  deriving DecidableEq

abbrev Path := List Step

def within (deleted : Path → Bool) (step : Step) : Path → Bool :=
  fun path => deleted (step :: path)

@[simp]
theorem within_nothing (step : Step) : within (fun _ => false) step = fun _ => false := by
  rfl

mutual

/--
A value without the members at some places. The places of the other members and of items stay as
they are.
-/
def without (deleted : Path → Bool) : Json → Json
  | .array items => .array (itemsWithout deleted 0 items)
  | .object members => .object (membersWithout deleted members)
  | value => value

def itemsWithout (deleted : Path → Bool) (index : Nat) : List Json → List Json
  | [] => []
  | item :: items =>
    item.without (within deleted (.item index)) :: itemsWithout deleted (index + 1) items

def membersWithout (deleted : Path → Bool) : List (Option Text × Json) → List (Option Text × Json)
  | [] => []
  | (none, value) :: members => (none, value) :: membersWithout deleted members
  | (some name, value) :: members =>
    if deleted [.member (String.ofList name)] then membersWithout deleted members
    else (some name, value.without (within deleted (.member (String.ofList name)))) ::
      membersWithout deleted members

end

variable {deleted : Path → Bool}

mutual

theorem isPrintable_without (deleted : Path → Bool) : ∀ value : Json, value.IsPrintable →
    (value.without deleted).IsPrintable
  | .array items, h => by
    simp only [without, IsPrintable] at h ⊢
    exact itemsPrintable_without deleted 0 items h
  | .object members, h => by
    simp only [without, IsPrintable] at h ⊢
    exact membersPrintable_without deleted members h
  | .null, h => h
  | .bool _, h => h
  | .natural _, h => h
  | .negative _, h => h
  | .real _, h => h
  | .string _, h => h
  | .unusable, h => h

theorem itemsPrintable_without (deleted : Path → Bool) (index : Nat) : ∀ items : List Json,
    ItemsPrintable items → ItemsPrintable (itemsWithout deleted index items)
  | [], h => h
  | item :: items, h => by
    simp only [itemsWithout, ItemsPrintable] at h ⊢
    constructor
    · exact isPrintable_without _ item h.1
    · exact itemsPrintable_without deleted (index + 1) items h.2

theorem membersPrintable_without (deleted : Path → Bool) :
    ∀ members : List (Option Text × Json),
      MembersPrintable members → MembersPrintable (membersWithout deleted members)
  | [], h => h
  | (none, value) :: members, h => absurd h.1 (by simp)
  | (some name, value) :: members, h => by
    simp only [membersWithout]
    split
    · exact membersPrintable_without deleted members h.2.2
    · simp only [MembersPrintable] at h ⊢
      refine ⟨h.1, ?_, ?_⟩
      · exact isPrintable_without _ value h.2.1
      · exact membersPrintable_without deleted members h.2.2

end

mutual

theorem depth_without_le (deleted : Path → Bool) : ∀ value : Json,
    (value.without deleted).depth ≤ value.depth
  | .array items => by
    have := itemsDepth_without_le deleted 0 items
    simp only [without, depth]
    omega
  | .object members => by
    have := membersDepth_without_le deleted members
    simp only [without, depth]
    omega
  | .null => Nat.le_refl _
  | .bool _ => Nat.le_refl _
  | .natural _ => Nat.le_refl _
  | .negative _ => Nat.le_refl _
  | .real _ => Nat.le_refl _
  | .string _ => Nat.le_refl _
  | .unusable => Nat.le_refl _

theorem itemsDepth_without_le (deleted : Path → Bool) (index : Nat) : ∀ items : List Json,
    itemsDepth (itemsWithout deleted index items) ≤ itemsDepth items
  | [] => Nat.le_refl _
  | item :: items => by
    have := depth_without_le (within deleted (.item index)) item
    have := itemsDepth_without_le deleted (index + 1) items
    simp only [itemsWithout, itemsDepth]
    omega

theorem membersDepth_without_le (deleted : Path → Bool) :
    ∀ members : List (Option Text × Json),
      membersDepth (membersWithout deleted members) ≤ membersDepth members
  | [] => Nat.le_refl _
  | (none, value) :: members => by
    have := membersDepth_without_le deleted members
    simp only [membersWithout, membersDepth]
    omega
  | (some name, value) :: members => by
    have := depth_without_le (within deleted (.member (String.ofList name))) value
    have := membersDepth_without_le deleted members
    simp only [membersWithout]
    split <;> simp only [membersDepth] <;> omega

end

mutual

theorem without_nothing : ∀ value : Json, value.without (fun _ => false) = value
  | .array items => by
    rw [without, itemsWithout_nothing 0 items]
  | .object members => by
    rw [without, membersWithout_nothing members]
  | .null => rfl
  | .bool _ => rfl
  | .natural _ => rfl
  | .negative _ => rfl
  | .real _ => rfl
  | .string _ => rfl
  | .unusable => rfl

theorem itemsWithout_nothing (index : Nat) : ∀ items : List Json,
    itemsWithout (fun _ => false) index items = items
  | [] => rfl
  | item :: items => by
    rw [itemsWithout, within_nothing, without_nothing item, itemsWithout_nothing (index + 1) items]

theorem membersWithout_nothing : ∀ members : List (Option Text × Json),
    membersWithout (fun _ => false) members = members
  | [] => rfl
  | (none, value) :: members => by
    rw [membersWithout, membersWithout_nothing members]
  | (some name, value) :: members => by
    rw [membersWithout, within_nothing, without_nothing value, membersWithout_nothing members]
    rfl

end

/-! ### Records -/

theorem membersWithout_member {name : String} (kept : deleted [.member name] = false)
    (value : Json) (members : List (Option Text × Json)) :
    membersWithout deleted (member name value :: members) =
      member name (value.without (within deleted (.member name))) ::
        membersWithout deleted members := by
  simp [member, membersWithout, kept]

theorem record_without {fields : List (String × Json)}
    (kept : ∀ field ∈ fields, deleted [.member field.1] = false) :
    (record fields).without deleted =
      record (fields.map fun field =>
        (field.1, field.2.without (within deleted (.member field.1)))) := by
  rw [record, without, record, List.map_map]
  congr 1
  induction fields with
  | nil => rfl
  | cons field fields ih =>
    obtain ⟨here, behind⟩ := List.forall_mem_cons.mp kept
    rw [List.map_cons, membersWithout_member here, ih behind]
    rfl

theorem name_of_mem_membersWithout {members : List (Option Text × Json)} {m : Option Text × Json}
    (h : m ∈ membersWithout deleted members) : ∃ m' ∈ members, m.1 = m'.1 := by
  induction members with
  | nil => cases h
  | cons member members ih =>
    have later : m ∈ membersWithout deleted members → ∃ m' ∈ member :: members, m.1 = m'.1 := by
      intro h
      obtain ⟨m', hm', same⟩ := ih h
      exact ⟨m', List.mem_cons_of_mem member hm', same⟩
    obtain ⟨name, value⟩ := member
    cases name with
    | none =>
      rw [membersWithout] at h
      cases List.mem_cons.mp h with
      | inl here => exact ⟨_, List.mem_cons_self, by rw [here]⟩
      | inr behind => exact later behind
    | some name =>
      rw [membersWithout] at h
      split at h
      · exact later h
      · cases List.mem_cons.mp h with
        | inl here => exact ⟨_, List.mem_cons_self, by rw [here]⟩
        | inr behind => exact later behind

theorem membersNamed_membersWithout (name : String) (members : List (Option Text × Json)) :
    membersNamed name (membersWithout deleted members) =
      if deleted [.member name] then []
      else (membersNamed name members).map fun value =>
        value.without (within deleted (.member name)) := by
  induction members with
  | nil => simp [membersNamed, membersWithout]
  | cons member members ih =>
    obtain ⟨other, value⟩ := member
    unfold membersNamed at ih ⊢
    cases other with
    | none => simpa [membersWithout] using ih
    | some other =>
      by_cases same : other = name.toList
      · rw [membersWithout, same, String.ofList_toList]
        split
        · next gone => simpa [gone] using ih
        · next kept => simp_all
      · rw [membersWithout]
        split
        · simpa [same] using ih
        · simpa [same] using ih

theorem all_isSome_membersWithout (deleted : Path → Bool) {members : List (Option Text × Json)}
    (h : members.all (fun m => m.1.isSome) = true) :
    (membersWithout deleted members).all (fun m => m.1.isSome) = true := by
  induction members with
  | nil => rfl
  | cons member members ih =>
    obtain ⟨name, value⟩ := member
    rw [List.all_cons, Bool.and_eq_true] at h
    obtain ⟨name, rfl⟩ := Option.isSome_iff_exists.mp h.1
    rw [membersWithout]
    split
    · exact ih h.2
    · simpa using ih h.2

/--
A deleted field is not there, and the others are without what has been deleted from them.
-/
theorem fields?_without (deleted : Path → Bool) {names : List String}
    {members : List (Option Text × Json)}
    {field : String → Option Json} (h : (object members).fields? names = some field) :
    ((object members).without deleted).fields? names = some fun name =>
      if deleted [.member name] then none
      else (field name).map fun value => value.without (within deleted (.member name)) := by
  rw [without]
  unfold fields? at h ⊢
  simp only [Bool.and_eq_true] at h ⊢
  split at h
  · next usable =>
    cases h
    obtain ⟨named, once⟩ := usable
    have named := all_isSome_membersWithout deleted named
    rw [if_pos]
    · simp only [membersNamed_membersWithout]
      congr 1
      funext name
      split
      · rfl
      · rw [List.head?_map]
    · refine ⟨named, ?_⟩
      simp only [List.all_eq_true, decide_eq_true_eq] at once ⊢
      intro name hname
      rw [membersNamed_membersWithout]
      split
      · simp
      · simpa using once name hname
  · cases h

theorem membersNamed_map_member (name : String) (fields : List (String × Json)) :
    membersNamed name (fields.map fun field => member field.1 field.2) =
      (fields.filter fun field => field.1 == name).map Prod.snd := by
  induction fields with
  | nil => rfl
  | cons field fields ih =>
    unfold membersNamed at ih ⊢
    rw [List.map_cons, List.filterMap_cons, List.filter_cons, ih]
    by_cases same : field.1 = name
    · simp [member, same]
    · have other : field.1.toList ≠ name.toList := by
        rw [ne_eq, String.toList_inj]
        exact same
      simp [member, same, other]

theorem head?_filter_map {α : Type} (name : String) (fields : List (String × α)) :
    ((fields.filter fun field => field.1 == name).map Prod.snd).head? = fields.lookup name := by
  induction fields with
  | nil => rfl
  | cons field fields ih =>
    obtain ⟨other, value⟩ := field
    by_cases same : other = name
    · simp [same]
    · have : (name == other) = false := by
        simpa using Ne.symm same
      simp only [List.filter_cons, List.lookup_cons, this]
      rw [if_neg (by simpa using same), ih]

theorem length_filter_le_one {α : Type} {fields : List (String × α)}
    (distinct : (fields.map Prod.fst).Nodup) (name : String) :
    (fields.filter fun field => field.1 == name).length ≤ 1 := by
  induction fields with
  | nil => simp
  | cons field fields ih =>
    rw [List.map_cons, List.nodup_cons] at distinct
    rw [List.filter_cons]
    split
    · next here =>
      have here : field.1 = name := by simpa using here
      have none : fields.filter (fun field => field.1 == name) = [] := by
        rw [List.filter_eq_nil_iff]
        intro other hother same
        apply distinct.1
        rw [here, ← (by simpa using same : other.1 = name)]
        exact List.mem_map_of_mem hother
      simp [none]
    · exact ih distinct.2

theorem fields?_record (names : List String) {fields : List (String × Json)}
    (distinct : (fields.map Prod.fst).Nodup) :
    (record fields).fields? names = some fun name => fields.lookup name := by
  unfold record fields?
  simp only
  rw [if_pos]
  · congr 1
    funext name
    rw [membersNamed_map_member, head?_filter_map]
  · rw [Bool.and_eq_true, List.all_eq_true, List.all_eq_true]
    constructor
    · intro m hm
      obtain ⟨field, -, rfl⟩ := List.mem_map.mp hm
      rfl
    · intro name _
      rw [membersNamed_map_member, List.length_map]
      simpa using length_filter_le_one distinct name

/--
The fields of a record that is written with different names, after some of them have been deleted.
-/
theorem fields?_record_without (deleted : Path → Bool) (names : List String)
    {fields : List (String × Json)} (distinct : (fields.map Prod.fst).Nodup) :
    ((record fields).without deleted).fields? names = some fun name =>
      if deleted [.member name] then none
      else (fields.lookup name).map fun value =>
        value.without (within deleted (.member name)) := by
  exact fields?_without deleted (fields?_record names distinct)

theorem optional?_without {α : Type} {default x : α} {f : Json → Option α} {value : Json}
    {gone : Bool} (h : f value = some x) :
    optional? default f (if gone then none else some value) =
      some (if gone then default else x) := by
  cases gone with
  | true => rfl
  | false => exact h

theorem mapM_itemsWithout {α β : Type} {f : α → Json} {g : Json → Option β}
    {h : Nat → α → β} (index : Nat) {items : List α}
    (read : ∀ i, ∀ item ∈ items,
      g ((f item).without (within deleted (.item i))) = some (h i item)) :
    (itemsWithout deleted index (items.map f)).mapM g =
      some (items.mapIdx fun i item => h (index + i) item) := by
  induction items generalizing index with
  | nil => rfl
  | cons item items ih =>
    have ih := ih (index + 1) fun i item hitem => read i item (List.mem_cons_of_mem _ hitem)
    rw [List.map_cons, itemsWithout, List.mapM_cons, read index item List.mem_cons_self, ih,
      List.mapIdx_cons]
    simp [Nat.add_assoc, Nat.add_comm 1]

theorem string?_without (s : String) :
    Dialect.json.string? ((ofString s).without deleted) = some s := by
  simp [ofString, without, Dialect.string?, Dialect.json, text?]

theorem bool?_without (value : Bool) : bool? ((bool value).without deleted) = some value := by
  rfl

theorem natural?_without {bits n : Nat} (h : n < 2 ^ bits) :
    natural? bits ((natural n).without deleted) = some n := by
  simp [without, natural?, h]

theorem nullable?_without {α : Type} {f : α → Json} {g : Json → Option α} {value : Option α}
    (h : ∀ a ∈ value, g ((f a).without deleted) = some a) (notNull : g null = none) :
    nullable? g ((ofOption f value).without deleted) = some value := by
  cases value with
  | none => simp [ofOption, without, nullable?]
  | some a =>
    have read := h a rfl
    unfold ofOption nullable?
    split
    · next null =>
      rw [null, notNull] at read
      cases read
    · rw [read]
      rfl

end Json
end PiiScan
