import PiiScan.Config.Forms
import PiiScan.Proofs.Json.Deletion

/-!
This module contains what a configuration is read as when optional members of its written form have
been deleted: each deleted field has its default, and every other field is as it was.
-/

namespace PiiScan

open Json (Path Step within Dialect)

/-! ### Operators -/

namespace Operator

inductive Required : Path → Prop where
  | type : Required [.member "type"]

def without (deleted : Path → Bool) : Operator → Operator
  | .replace newValue => .replace (if deleted [.member "new_value"] then none else newValue)
  | .mask maskingChar charsToMask fromEnd =>
    .mask (if deleted [.member "masking_char"] then "*" else maskingChar)
      (if deleted [.member "chars_to_mask"] then none else charsToMask)
      (if deleted [.member "from_end"] then false else fromEnd)
  | .redact => .redact
  | .hash => .hash

def IsSized : Operator → Prop
  | .mask _ (some n) _ => n < 2 ^ 64
  | _ => True

variable {operator : Operator}

@[simp]
theorem without_nothing (operator : Operator) : operator.without (fun _ => false) = operator := by
  cases operator <;> rfl

def settings : Operator → List (String × Json)
  | .replace newValue => [("new_value", .ofOption .ofString newValue)]
  | .mask maskingChar charsToMask fromEnd => [
    ("masking_char", .ofString maskingChar),
    ("chars_to_mask", .ofOption .natural charsToMask),
    ("from_end", .bool fromEnd)]
  | .redact | .hash => []

def kind : Operator → Kind
  | .replace _ => .replace
  | .mask .. => .mask
  | .redact => .redact
  | .hash => .hash

theorem toJson_eq (operator : Operator) :
    operator.toJson =
      .record (("type", .ofString operator.kind.label) :: operator.settings) := by
  cases operator <;> rfl

theorem isPrintable_toJson (sized : operator.IsSized) : operator.toJson.IsPrintable := by
  rw [toJson_eq]
  apply Json.isPrintable_record
  cases operator with
  | replace newValue => cases newValue <;> simp [settings, Json.ofOption, Json.IsPrintable]
  | mask maskingChar charsToMask fromEnd =>
    cases charsToMask with
    | none => simp [settings, Json.ofOption, Json.IsPrintable]
    | some n =>
      have sized : n < 2 ^ 64 := sized
      simpa [settings, Json.ofOption, Json.IsPrintable] using sized
  | redact => simp [settings]
  | hash => simp [settings]

theorem nodup_settings (operator : Operator) : (operator.settings.map Prod.fst).Nodup := by
  cases operator <;> simp [settings]

theorem type_notin_settings (operator : Operator) :
    ∀ field ∈ operator.settings, field.1 ≠ "type" := by
  cases operator <;> simp [settings]

theorem depth_toJson (operator : Operator) : operator.toJson.depth = 1 := by
  cases operator with
  | replace newValue => cases newValue <;> rfl
  | mask _ charsToMask _ => cases charsToMask <;> rfl
  | redact => rfl
  | hash => rfl

theorem ofSettings?_without (deleted : Path → Bool) (sized : operator.IsSized) :
    ofSettings? operator.kind ((Json.record operator.settings).without deleted) =
      some (operator.without deleted) := by
  have fields := fun names => Json.fields?_record_without deleted names operator.nodup_settings
  cases operator with
  | replace newValue =>
    simp only [kind, ofSettings?, fields]
    simp only [settings, List.lookup_cons, BEq.rfl, Option.map_some, Option.pure_def,
      Option.bind_eq_bind, Option.bind_some]
    rw [Json.optional?_without (Json.nullable?_without (fun s _ => Json.string?_without s) rfl)]
    rfl
  | mask maskingChar charsToMask fromEnd =>
    have small : ∀ n ∈ charsToMask, n < 2 ^ 64 := by
      rintro n rfl
      exact sized
    simp only [kind, ofSettings?, fields]
    simp only [settings, List.lookup_cons, BEq.rfl, String.reduceBEq, Option.map_some,
      Option.pure_def, Option.bind_eq_bind, Option.bind_some]
    rw [Json.optional?_without (Json.string?_without _)]
    rw [Json.optional?_without
      (Json.nullable?_without (fun n hn => Json.natural?_without (small n hn)) rfl)]
    rw [Json.optional?_without (Json.bool?_without _)]
    rfl
  | redact =>
    simp only [kind, ofSettings?, fields]
    rfl
  | hash =>
    simp only [kind, ofSettings?, fields]
    rfl

theorem Kind.ofJson?_label (dialect : Dialect) (kind : Kind) :
    Kind.ofJson? dialect (.ofString kind.label) = some kind := by
  have found : all.find? (fun other => other.label.toList == kind.label.toList) = some kind := by
    cases kind <;> decide +kernel
  exact found

theorem toJson_without {deleted : Path → Bool} (typed : deleted [.member "type"] = false) :
    operator.toJson.without deleted =
      .object (Json.member "type" (.ofString operator.kind.label) ::
        Json.membersWithout deleted (operator.settings.map fun field =>
          Json.member field.1 field.2)) := by
  rw [toJson_eq, Json.record, List.map_cons, Json.without, Json.membersWithout_member typed]
  rfl

theorem untyped_settings (deleted : Path → Bool) :
    ∀ m ∈ Json.membersWithout deleted (operator.settings.map fun field =>
      Json.member field.1 field.2), m.1 ≠ some "type".toList := by
  intro m hm same
  obtain ⟨m', hm', sameName⟩ := Json.name_of_mem_membersWithout hm
  obtain ⟨field, hfield, rfl⟩ := List.mem_map.mp hm'
  rw [same] at sameName
  apply type_notin_settings operator field hfield
  exact String.toList_inj.mp (Option.some.inj sameName.symm)

theorem ofJson?_tagged {level : Nat} {kind : Kind} {settings : List (Option Text × Json)}
    (untyped : ∀ m ∈ settings, m.1 ≠ some "type".toList)
    (usable : (Json.object settings).isUsable = true)
    (shallow : level + (Json.object (Json.member "type" (.ofString kind.label) :: settings)).depth ≤
      127) :
    ofJson? .json level (.object (Json.member "type" (.ofString kind.label) :: settings)) =
      ofSettings? kind (.object settings) := by
  have named : Json.membersNamed "type" (Json.member "type" (.ofString kind.label) :: settings) =
      [.ofString kind.label] := by
    have none : Json.membersNamed "type" settings = [] := by
      apply List.filterMap_eq_nil_iff.mpr
      intro m hm
      rw [if_neg (untyped m hm)]
    unfold Json.membersNamed at none ⊢
    rw [List.filterMap_cons, none]
    rfl
  have others : (Json.member "type" (.ofString kind.label) :: settings).filter
      (fun m => m.1 != some "type".toList) = settings := by
    rw [List.filter_cons_of_neg (by simp [Json.member]), List.filter_eq_self]
    intro m hm
    simpa using untyped m hm
  unfold ofJson?
  rw [if_neg]
  · simp only [named, others, Kind.ofJson?_label, Option.bind_eq_bind, Option.bind_some, usable,
      if_true]
  · simp only [Dialect.json, Option.any_some, decide_eq_true_eq]
    omega

theorem ofJson?_without {level : Nat} (high : level ≤ 126) (deleted : Path → Bool)
    (typed : deleted [.member "type"] = false) (sized : operator.IsSized) :
    ofJson? .json level (operator.toJson.without deleted) = some (operator.without deleted) := by
  have depth := Json.depth_without_le deleted operator.toJson
  have usable := Json.isUsable_of_isPrintable _
    (Json.isPrintable_without deleted operator.toJson (isPrintable_toJson sized))
  rw [depth_toJson] at depth
  rw [toJson_without typed] at depth usable ⊢
  rw [Json.isUsable, Json.membersUsable, Bool.and_eq_true] at usable
  rw [ofJson?_tagged (operator.untyped_settings deleted) usable.2 (by omega)]
  exact ofSettings?_without deleted sized

end Operator

/-! ### Rules -/

namespace Rule

inductive Required : Path → Prop where
  | entityType : Required [.member "entity_type"]
  | pattern : Required [.member "pattern"]
  | score : Required [.member "score"]

def without (deleted : Path → Bool) (rule : Rule) : Rule :=
  { rule with validator := if deleted [.member "validator"] then none else rule.validator }

variable {rule : Rule}

@[simp]
theorem without_nothing (rule : Rule) : rule.without (fun _ => false) = rule := by
  rfl

def settings (rule : Rule) : List (String × Json) := [
  ("entity_type", .ofString rule.entityType),
  ("pattern", .ofString rule.pattern),
  ("score", .real rule.score),
  ("validator", .ofOption Validator.toJson rule.validator)]

theorem toJson_eq (rule : Rule) :
    rule.toJson = .record rule.settings := by
  rfl

theorem isPrintable_toJson (readBack : rule.score.IsReadBack) : rule.toJson.IsPrintable := by
  rw [toJson_eq]
  apply Json.isPrintable_record
  have validator : (Json.ofOption Validator.toJson rule.validator).IsPrintable := by
    apply Json.isPrintable_ofOption
    intro v _
    exact Json.isPrintable_ofString v.label
  simpa [settings, validator, Json.IsPrintable] using readBack

theorem validator?_without {deleted : Path → Bool} (v : Validator) :
    Validator.ofJson? (v.toJson.without deleted) = some v := by
  cases v
  rfl

theorem ofJson?_without (deleted : Path → Bool)
    (kept : ∀ path, Required path → deleted path = false) :
    ofJson? .json (rule.toJson.without deleted) = some (rule.without deleted) := by
  have distinct : (rule.settings.map Prod.fst).Nodup := by
    simp [settings]
  rw [toJson_eq, ofJson?, Json.fields?_record_without deleted _ distinct]
  simp only [settings, List.lookup_cons, BEq.rfl, String.reduceBEq, Option.map_some,
    Option.pure_def, Option.bind_eq_bind, Option.bind_some, kept _ .entityType, kept _ .pattern,
    kept _ .score]
  rw [Json.optional?_without
    (Json.nullable?_without (fun v _ => validator?_without v) rfl)]
  simp only [Json.required?, Option.bind_some, Json.string?_without, Bool.false_eq_true, if_false]
  rfl

end Rule

/-! ### Sections -/

namespace ServerConfig

def without (deleted : Path → Bool) (config : ServerConfig) : ServerConfig :=
  let default : ServerConfig := {}
  { host := if deleted [.member "host"] then default.host else config.host
    port := if deleted [.member "port"] then default.port else config.port
    workers := if deleted [.member "workers"] then default.workers else config.workers
    maxMessageBytes :=
      if deleted [.member "max_message_bytes"] then default.maxMessageBytes
      else config.maxMessageBytes
    shutdownGraceSecs :=
      if deleted [.member "shutdown_grace_secs"] then default.shutdownGraceSecs
      else config.shutdownGraceSecs }

variable {config : ServerConfig}

@[simp]
theorem without_nothing (config : ServerConfig) : config.without (fun _ => false) = config := by
  rfl

structure IsSized (config : ServerConfig) : Prop where
  workers : config.workers < 2 ^ 64
  maxMessageBytes : ∀ n ∈ config.maxMessageBytes, n < 2 ^ 64
  shutdownGraceSecs : config.shutdownGraceSecs < 2 ^ 64

def settings (config : ServerConfig) : List (String × Json) := [
  ("host", .ofString config.host),
  ("port", .natural config.port.toNat),
  ("workers", .natural config.workers),
  ("max_message_bytes", .ofOption .natural config.maxMessageBytes),
  ("shutdown_grace_secs", .natural config.shutdownGraceSecs)]

theorem toJson_eq (config : ServerConfig) :
    config.toJson = .record config.settings := by
  rfl

theorem isPrintable_toJson (sized : config.IsSized) : config.toJson.IsPrintable := by
  rw [toJson_eq]
  apply Json.isPrintable_record
  have port : config.port.toNat < 2 ^ 64 := by
    have := config.port.toNat_lt
    omega
  have maxMessageBytes : (Json.ofOption .natural config.maxMessageBytes).IsPrintable :=
    Json.isPrintable_ofOption sized.maxMessageBytes
  simp only [settings, List.forall_mem_cons, List.not_mem_nil, false_implies, implies_true]
  exact ⟨Json.isPrintable_ofString _, port, sized.workers, maxMessageBytes,
    sized.shutdownGraceSecs, trivial⟩

theorem port?_without {deleted : Path → Bool} (port : UInt16) :
    (Json.natural? 16 ((Json.natural port.toNat).without deleted)).map UInt16.ofNat =
      some port := by
  rw [Json.natural?_without port.toNat_lt, Option.map_some, UInt16.ofNat_toNat]

theorem ofJson?_without (deleted : Path → Bool) (sized : config.IsSized) :
    ofJson? .json (config.toJson.without deleted) = some (config.without deleted) := by
  have distinct : (config.settings.map Prod.fst).Nodup := by
    simp [settings]
  rw [toJson_eq, ofJson?, Json.fields?_record_without deleted _ distinct]
  simp only [settings, List.lookup_cons, BEq.rfl, String.reduceBEq, Option.map_some,
    Option.pure_def, Option.bind_eq_bind, Option.bind_some]
  rw [Json.optional?_without (Json.string?_without _)]
  rw [Json.optional?_without (port?_without _)]
  rw [Json.optional?_without (Json.natural?_without sized.workers)]
  rw [Json.optional?_without (Json.nullable?_without
    (fun n hn => Json.natural?_without (sized.maxMessageBytes n hn)) rfl)]
  rw [Json.optional?_without (Json.natural?_without sized.shutdownGraceSecs)]
  rfl

end ServerConfig

namespace RecognizerConfig

inductive Required : Path → Prop where
  | rule (index : Nat) {path : Path} (h : Rule.Required path) :
    Required (.member "rules" :: .item index :: path)

def without (deleted : Path → Bool) (config : RecognizerConfig) : RecognizerConfig :=
  let default : RecognizerConfig := {}
  { language := if deleted [.member "language"] then default.language else config.language
    rules :=
      if deleted [.member "rules"] then default.rules
      else config.rules.mapIdx fun index rule =>
        rule.without (within (within deleted (.member "rules")) (.item index)) }

variable {config : RecognizerConfig}

@[simp]
theorem without_nothing (config : RecognizerConfig) : config.without (fun _ => false) = config := by
  obtain ⟨language, rules⟩ := config
  simp [without, List.ext_getElem_iff]

def settings (config : RecognizerConfig) : List (String × Json) := [
  ("language", .ofString config.language),
  ("rules", .array (config.rules.map Rule.toJson))]

theorem toJson_eq (config : RecognizerConfig) :
    config.toJson = .record config.settings := by
  rfl

theorem isPrintable_toJson (readBack : ∀ rule ∈ config.rules, rule.score.IsReadBack) :
    config.toJson.IsPrintable := by
  rw [toJson_eq]
  apply Json.isPrintable_record
  have rules : (Json.array (config.rules.map Rule.toJson)).IsPrintable := by
    apply Json.isPrintable_array
    intro item hitem
    obtain ⟨rule, hrule, rfl⟩ := List.mem_map.mp hitem
    exact Rule.isPrintable_toJson (readBack rule hrule)
  simp [settings, rules]

theorem rules?_without (deleted : Path → Bool) {rules : List Rule}
    (kept : ∀ index path, Rule.Required path → deleted (.item index :: path) = false) :
    Json.list? (Rule.ofJson? .json) ((Json.array (rules.map Rule.toJson)).without deleted) =
      some (rules.mapIdx fun index rule => rule.without (within deleted (.item index))) := by
  rw [Json.without, Json.list?,
    Json.mapM_itemsWithout (h := fun index rule => rule.without (within deleted (.item index))) 0]
  · simp
  · intro index rule _
    exact Rule.ofJson?_without _ (kept index)

theorem ofJson?_without (deleted : Path → Bool)
    (kept : ∀ path, Required path → deleted path = false) :
    ofJson? .json (config.toJson.without deleted) = some (config.without deleted) := by
  have distinct : (config.settings.map Prod.fst).Nodup := by
    simp [settings]
  rw [toJson_eq, ofJson?, Json.fields?_record_without deleted _ distinct]
  simp only [settings, List.lookup_cons, BEq.rfl, String.reduceBEq, Option.map_some,
    Option.pure_def, Option.bind_eq_bind, Option.bind_some]
  rw [Json.optional?_without (Json.string?_without _)]
  rw [Json.optional?_without (rules?_without (within deleted (.member "rules"))
    fun index path h => kept _ (.rule index h))]
  rfl

end RecognizerConfig

namespace OperatorTable

/--
The members that have to be there: the type of every operator, and no override may be left out
either.
-/
inductive Required : Path → Prop where
  | defaultOperator {path : Path} (h : Operator.Required path) :
    Required (.member "default_operator" :: path)
  | override (entityType : String) : Required [.member "operators", .member entityType]
  | overrideOperator (entityType : String) {path : Path} (h : Operator.Required path) :
    Required (.member "operators" :: .member entityType :: path)

def without (deleted : Path → Bool) (table : OperatorTable) : OperatorTable where
  defaultOperator :=
    if deleted [.member "default_operator"] then default
    else table.defaultOperator.without (within deleted (.member "default_operator"))
  overrides :=
    if deleted [.member "operators"] then []
    else table.overrides.map fun (entityType, operator) =>
      (entityType, operator.without
        (within (within deleted (.member "operators")) (.member entityType)))

/--
Whether the numbers have 64 bits and no entity type has two overrides.
-/
structure WellFormed (table : OperatorTable) : Prop where
  defaultOperator : table.defaultOperator.IsSized
  overrides : ∀ override ∈ table.overrides, override.2.IsSized
  distinct : (table.overrides.map Prod.fst).Nodup

variable {table : OperatorTable}

@[simp]
theorem without_nothing (table : OperatorTable) : table.without (fun _ => false) = table := by
  obtain ⟨defaultOperator, overrides⟩ := table
  simp [without]

def overrideFields (overrides : List (String × Operator)) : List (String × Json) :=
  overrides.map fun override => (override.1, override.2.toJson)

def settings (table : OperatorTable) : List (String × Json) := [
  ("default_operator", table.defaultOperator.toJson),
  ("operators", .record (overrideFields table.overrides))]

theorem toJson_eq (table : OperatorTable) :
    table.toJson = .record table.settings := by
  rw [toJson, settings, Json.record, Json.record, overrideFields, List.map_map]
  rfl

theorem isPrintable_toJson (wellFormed : table.WellFormed) : table.toJson.IsPrintable := by
  have overrides : (Json.record (overrideFields table.overrides)).IsPrintable := by
    apply Json.isPrintable_record
    intro field hfield
    obtain ⟨override, hoverride, rfl⟩ := List.mem_map.mp hfield
    exact Operator.isPrintable_toJson (wellFormed.overrides override hoverride)
  rw [toJson_eq]
  apply Json.isPrintable_record
  simp [settings, overrides, Operator.isPrintable_toJson wellFormed.defaultOperator]

theorem lastEntries_eq_self {α : Type} {entries : List (String × α)}
    (distinct : (entries.map Prod.fst).Nodup) : lastEntries entries = entries := by
  induction entries with
  | nil => rfl
  | cons entry entries ih =>
    rw [List.map_cons, List.nodup_cons] at distinct
    rw [lastEntries, if_neg, ih distinct.2]
    rw [List.any_eq_true]
    rintro ⟨other, hother, same⟩
    apply distinct.1
    rw [← beq_iff_eq.mp same]
    exact List.mem_map_of_mem hother

theorem mapM_overrides (deleted : Path → Bool) {overrides : List (String × Operator)}
    (typed : ∀ entityType, deleted [.member entityType, .member "type"] = false)
    (sized : ∀ override ∈ overrides, override.2.IsSized) :
    (overrides.map fun override => Json.member override.1
      (override.2.toJson.without (within deleted (.member override.1)))).mapM
        (fun (name, value) => do
          return (String.ofList (← name), ← Operator.ofJson? .json 3 value)) =
      some (overrides.map fun override =>
        (override.1, override.2.without (within deleted (.member override.1)))) := by
  induction overrides with
  | nil => rfl
  | cons override overrides ih =>
    obtain ⟨here, behind⟩ := List.forall_mem_cons.mp sized
    have read := Operator.ofJson?_without (by omega : 3 ≤ 126)
      (within deleted (.member override.1)) (typed override.1) here
    rw [List.map_cons, List.mapM_cons, ih behind]
    simp [Json.member, read]

theorem overrides?_without (deleted : Path → Bool) {overrides : List (String × Operator)}
    (kept : ∀ entityType, deleted [.member entityType] = false)
    (typed : ∀ entityType, deleted [.member entityType, .member "type"] = false)
    (sized : ∀ override ∈ overrides, override.2.IsSized)
    (distinct : (overrides.map Prod.fst).Nodup) :
    overridesOfJson? .json 3 ((Json.record (overrideFields overrides)).without deleted) =
      some (overrides.map fun override =>
        (override.1, override.2.without (within deleted (.member override.1)))) := by
  rw [Json.record_without fun field _ => kept field.1]
  simp only [Json.record, overrideFields, List.map_map, Function.comp_def, overridesOfJson?]
  rw [mapM_overrides deleted typed sized, Option.map_some, lastEntries_eq_self]
  simpa [List.map_map, Function.comp_def] using distinct

theorem ofJson?_without (deleted : Path → Bool)
    (kept : ∀ path, Required path → deleted path = false) (wellFormed : table.WellFormed) :
    ofJson? .json (table.toJson.without deleted) = some (table.without deleted) := by
  have distinct : (table.settings.map Prod.fst).Nodup := by
    simp [settings]
  have defaultOperator := Operator.ofJson?_without (by omega : 2 ≤ 126)
    (within deleted (.member "default_operator")) (kept _ (.defaultOperator .type))
    wellFormed.defaultOperator
  have overrides := overrides?_without (within deleted (.member "operators"))
    (fun entityType => kept _ (.override entityType))
    (fun entityType => kept _ (.overrideOperator entityType .type)) wellFormed.overrides
    wellFormed.distinct
  rw [toJson_eq, ofJson?, Json.fields?_record_without deleted _ distinct]
  simp only [settings, List.lookup_cons, BEq.rfl, String.reduceBEq, Option.map_some,
    Option.pure_def, Option.bind_eq_bind, Option.bind_some]
  rw [Json.optional?_without defaultOperator, Json.optional?_without overrides]
  rfl

end OperatorTable

/-! ### Configurations -/

namespace Config

/--
The members of a configuration that have to be there.
-/
inductive Required : Path → Prop where
  | recognizer {path : Path} (h : RecognizerConfig.Required path) :
    Required (.member "recognizer" :: path)
  | anonymizer {path : Path} (h : OperatorTable.Required path) :
    Required (.member "anonymizer" :: path)

def without (deleted : Path → Bool) (config : Config) : Config where
  server :=
    if deleted [.member "server"] then {}
    else config.server.without (within deleted (.member "server"))
  recognizer :=
    if deleted [.member "recognizer"] then {}
    else config.recognizer.without (within deleted (.member "recognizer"))
  anonymizer :=
    if deleted [.member "anonymizer"] then {}
    else config.anonymizer.without (within deleted (.member "anonymizer"))

@[simp]
theorem without_nothing (config : Config) : config.without (fun _ => false) = config := by
  simp [without]

structure WellFormed (config : Config) : Prop where
  server : config.server.IsSized
  anonymizer : config.anonymizer.WellFormed

variable {config : Config}

def settings (config : Config) : List (String × Json) := [
  ("server", config.server.toJson),
  ("recognizer", config.recognizer.toJson),
  ("anonymizer", config.anonymizer.toJson)]

theorem toJson_eq (config : Config) :
    config.toJson = .record config.settings := by
  rfl

theorem isPrintable_toJson (wellFormed : config.WellFormed)
    (readBack : ∀ rule ∈ config.recognizer.rules, rule.score.IsReadBack) :
    config.toJson.IsPrintable := by
  rw [toJson_eq]
  apply Json.isPrintable_record
  simp [settings, ServerConfig.isPrintable_toJson wellFormed.server,
    RecognizerConfig.isPrintable_toJson readBack,
    OperatorTable.isPrintable_toJson wellFormed.anonymizer]

theorem ofJson?_without (deleted : Path → Bool)
    (kept : ∀ path, Required path → deleted path = false) (wellFormed : config.WellFormed) :
    ofJson? .json (config.toJson.without deleted) = some (config.without deleted) := by
  have distinct : (config.settings.map Prod.fst).Nodup := by
    simp [settings]
  have server := ServerConfig.ofJson?_without (within deleted (.member "server"))
    wellFormed.server
  have recognizer := config.recognizer.ofJson?_without (within deleted (.member "recognizer"))
    fun path h => kept _ (.recognizer h)
  have anonymizer := OperatorTable.ofJson?_without (within deleted (.member "anonymizer"))
    (fun path h => kept _ (.anonymizer h)) wellFormed.anonymizer
  rw [toJson_eq, ofJson?, Json.fields?_record_without deleted _ distinct]
  simp only [settings, List.lookup_cons, BEq.rfl, String.reduceBEq, Option.map_some,
    Option.pure_def, Option.bind_eq_bind, Option.bind_some]
  rw [Json.optional?_without server, Json.optional?_without recognizer,
    Json.optional?_without anonymizer]
  rfl

end Config
end PiiScan
