import Mathlib.Algebra.Group.Nat.Defs
import PiiScan.CommandLine
import PiiScan.Proofs.Fallible

/-!
This module contains how the arguments are read, one after the other, and what changes when another
subcommand is named in them: what is asked for on the outer level stays the same, and the subcommand
for showing the configuration understands all options that the one for serving does.
-/

namespace PiiScan

variable {flags : List Flag} {names : List String} {given : Given} {awaiting : Option Flag}

theorem readLevel_cons (argument : String) (rest : List String) :
    readLevel flags names given awaiting (argument :: rest) =
      match readArgument flags names given awaiting argument with
      | .next given awaiting => readLevel flags names given awaiting rest
      | .subcommand => .ok (given, some (argument, rest))
      | .close => if rest.isEmpty then .ok (given, none) else .error .usage
      | .stop reason => .error reason := by
  rfl

/-! ### Another subcommand -/

theorem append_of_readLevel {arguments rest : List String} {name : String} {given' : Given}
    (h : readLevel flags names given awaiting arguments = .ok (given', some (name, rest))) :
    ∃ outer, arguments = outer ++ name :: rest := by
  induction arguments generalizing given awaiting with
  | nil =>
    rw [readLevel.eq_def] at h
    simp only at h
    split at h <;> cases h
  | cons argument arguments ih =>
    rw [readLevel_cons] at h
    split at h
    · obtain ⟨outer, rfl⟩ := ih h
      exact ⟨argument :: outer, rfl⟩
    · cases h
      exact ⟨[], rfl⟩
    · split at h <;> cases h
    · cases h

theorem readArgument_name {name : String} (known : name ∈ names)
    (isName : ∀ letters, name.toList ≠ '-' :: letters) :
    readArgument flags names given none name = .subcommand := by
  unfold readArgument
  split
  · next same => cases same
  · next shape => exact absurd shape (isName _)
  · next shape => exact absurd shape (isName _)
  · next shape => exact absurd shape (isName _)
  · rw [if_pos (List.contains_iff_mem.mpr known)]

theorem awaiting_of_readArgument {argument : String}
    (h : readArgument flags names given awaiting argument = .subcommand) :
    awaiting = none := by
  cases awaiting with
  | none => rfl
  | some flag =>
    unfold readArgument at h
    simp only at h
    split at h
    · split at h <;> cases h
    · cases h

theorem argument_of_readArgument {argument : String}
    (h : readArgument flags names given awaiting argument = .close) : argument = "--" := by
  unfold readArgument at h
  split at h
  · split at h
    · split at h <;> cases h
    · cases h
  · next shape => exact String.toList_inj.mp shape
  · split at h <;> cases h
  · split at h <;> cases h
  · split at h <;> cases h

theorem readLevel_rename {name name' : String} (known : name' ∈ names)
    (isName : ∀ letters, name'.toList ≠ '-' :: letters) {outer inner : List String} {given' : Given}
    (h : readLevel flags names given awaiting (outer ++ name :: inner) =
      .ok (given', some (name, inner))) :
    readLevel flags names given awaiting (outer ++ name' :: inner) =
      .ok (given', some (name', inner)) := by
  induction outer generalizing given awaiting with
  | nil =>
    rw [List.nil_append, readLevel_cons] at h ⊢
    split at h
    · -- the name would have been the value of an option
      obtain ⟨outer, same⟩ := append_of_readLevel h
      have := congrArg List.length same
      simp only [List.length_append, List.length_cons] at this
      omega
    · next ended =>
      cases h
      rw [awaiting_of_readArgument ended, readArgument_name known isName]
    · split at h <;> cases h
    · cases h
  | cons argument outer ih =>
    rw [List.cons_append, readLevel_cons] at h ⊢
    split at h
    · exact ih h
    · -- the level would have ended before the subcommand
      simp only [Except.ok.injEq, Prod.mk.injEq, Option.some.injEq] at h
      have := congrArg List.length h.2.2
      simp at this
      omega
    · simp at h
    · cases h

/--
A subcommand behind arguments that name none ends the level. Two hyphens can only come last in such
arguments.
-/
theorem readLevel_append {name : String} (known : name ∈ names)
    (isName : ∀ letters, name.toList ≠ '-' :: letters) {outer : List String} {given' : Given}
    (h : readLevel flags names given awaiting outer = .ok (given', none)) (inner : List String) :
    readLevel flags names given awaiting (outer.takeWhile (· != "--") ++ name :: inner) =
      .ok (given', some (name, inner)) := by
  induction outer generalizing given awaiting with
  | nil =>
    rw [readLevel.eq_def] at h
    simp only at h
    split at h
    · cases h
    · next complete =>
      cases h
      rw [Option.not_isSome_iff_eq_none.mp complete, List.takeWhile_nil, List.nil_append,
        readLevel_cons, readArgument_name known isName]
  | cons argument outer ih =>
    by_cases closing : argument = "--"
    · subst closing
      rw [readLevel_cons] at h
      cases awaiting with
      | some flag =>
        have refused : readArgument flags names given (some flag) "--" = .stop .usage := by
          rfl
        rw [refused] at h
        cases h
      | none =>
        have closed : readArgument flags names given none "--" = .close := by
          rfl
        rw [closed] at h
        simp only at h
        split at h
        · cases h
          rw [List.takeWhile_cons_of_neg (by simp), List.nil_append, readLevel_cons,
            readArgument_name known isName]
        · cases h
    · rw [List.takeWhile_cons_of_pos (by simpa using closing), List.cons_append]
      rw [readLevel_cons] at h ⊢
      split at h
      · exact ih h
      · cases h
      · next closed => exact absurd (argument_of_readArgument closed) closing
      · cases h

/-! ### Options of another subcommand -/

section

variable {extra : Flag}

theorem Given.addLong_cons (distinct : ∀ flag ∈ flags, flag.long ≠ extra.long)
    {argument : List Char} {result : Given × Option Flag}
    (h : given.addLong flags argument = .ok result) :
    given.addLong (extra :: flags) argument = .ok result := by
  have unnamed : extra.long ≠ String.ofList (argument.takeWhile (· != '=')) := by
    intro same
    have missing : flags.find? (fun flag => flag.long == String.ofList
        (argument.takeWhile (· != '='))) = none := by
      rw [List.find?_eq_none]
      intro flag hflag
      rw [← same]
      simpa using distinct flag hflag
    unfold addLong at h
    simp only [missing] at h
    cases h
  unfold addLong at h ⊢
  simp only at h ⊢
  rw [List.find?_cons_of_neg (by simpa using unnamed)]
  exact h

theorem Given.addShort_cons (noLetter : extra.short? = none) (letters : List Char) :
    given.addShort (extra :: flags) letters = given.addShort flags letters := by
  induction letters generalizing given with
  | nil => rfl
  | cons letter letters ih =>
    rw [addShort, addShort, List.find?_cons_of_neg (by simp [noLetter])]
    simp only [ih]

theorem readArgument_cons_flag (distinct : ∀ flag ∈ flags, flag.long ≠ extra.long)
    (noLetter : extra.short? = none) {argument : String}
    (h : ∀ reason, readArgument flags names given awaiting argument ≠ .stop reason) :
    readArgument (extra :: flags) names given awaiting argument =
      readArgument flags names given awaiting argument := by
  unfold readArgument at h ⊢
  generalize argument.toList = characters at h ⊢
  split
  · rfl
  · rfl
  · next name _ =>
    cases added : given.addLong flags name with
    | error reason =>
      apply absurd _ (h reason)
      simp only [added]
    | ok result => rw [Given.addLong_cons distinct added]
  · rw [Given.addShort_cons noLetter]
  · rfl

/--
Arguments that are read without an option are read in the same way with it.
-/
theorem readLevel_cons_flag (distinct : ∀ flag ∈ flags, flag.long ≠ extra.long)
    (noLetter : extra.short? = none) {arguments : List String}
    {result : Given × Option (String × List String)}
    (h : readLevel flags names given awaiting arguments = .ok result) :
    readLevel (extra :: flags) names given awaiting arguments = .ok result := by
  induction arguments generalizing given awaiting with
  | nil =>
    rw [readLevel.eq_def] at h ⊢
    exact h
  | cons argument arguments ih =>
    rw [readLevel_cons] at h ⊢
    rw [readArgument_cons_flag distinct noLetter]
    · split at h
      · exact ih h
      · exact h
      · exact h
      · cases h
    · intro reason stopped
      rw [stopped] at h
      cases h

theorem Given.lookup_add {flag other : Flag} {value : String} {given' : Given}
    (h : given.add flag value = .ok given') (ne : other ≠ flag) :
    given'.lookup other = given.lookup other := by
  unfold add at h
  split at h
  · cases h
  · cases h
  · split at h
    · cases h
    · cases h
      rw [List.lookup_cons, beq_false_of_ne ne]

theorem Given.lookup_map_add {flag other : Flag} {value : String} {given' : Given}
    {awaiting' : Option Flag}
    (h : (given.add flag value).map (fun given => (given, none)) = .ok (given', awaiting'))
    (ne : other ≠ flag) :
    given'.lookup other = given.lookup other ∧ awaiting' ≠ some other := by
  cases added : given.add flag value with
  | error reason =>
    rw [added] at h
    cases h
  | ok result =>
    rw [added] at h
    cases h
    exact ⟨lookup_add added ne, by simp⟩

theorem Given.lookup_addLong (foreign : extra ∉ flags) {argument : List Char} {given' : Given}
    {awaiting' : Option Flag} (h : given.addLong flags argument = .ok (given', awaiting')) :
    given'.lookup extra = given.lookup extra ∧ awaiting' ≠ some extra := by
  have other : ∀ {flag} {p : Flag → Bool}, flags.find? p = some flag → extra ≠ flag := by
    rintro flag p found rfl
    exact foreign (List.mem_of_find?_eq_some found)
  unfold addLong at h
  simp only at h
  split at h
  · cases h
  · next flag found _ =>
    split at h
    · cases h
      exact ⟨rfl, by simpa using (other found).symm⟩
    · exact lookup_map_add h (other found)
  · next flag _ value found _ =>
    split at h
    · exact lookup_map_add h (other found)
    · cases h

theorem Given.lookup_addShort (foreign : extra ∉ flags) {letters : List Char} {given' : Given}
    {awaiting' : Option Flag} (h : given.addShort flags letters = .ok (given', awaiting')) :
    given'.lookup extra = given.lookup extra ∧ awaiting' ≠ some extra := by
  induction letters generalizing given with
  | nil =>
    cases h
    exact ⟨rfl, by simp⟩
  | cons letter letters ih =>
    rw [addShort] at h
    split at h
    · cases h
    · next flag found =>
      have other : extra ≠ flag := by
        rintro rfl
        exact foreign (List.mem_of_find?_eq_some found)
      split at h
      · split at h
        · cases h
          exact ⟨rfl, by simpa using other.symm⟩
        · exact lookup_map_add h other
        · exact lookup_map_add h other
      · split at h
        · next given'' added =>
          have ⟨same, notAwaiting⟩ := ih h
          exact ⟨same.trans (lookup_add added other), notAwaiting⟩
        · cases h

theorem lookup_readArgument (foreign : extra ∉ flags) {argument : String} {given' : Given}
    {awaiting' : Option Flag} (notAwaiting : awaiting ≠ some extra)
    (h : readArgument flags names given awaiting argument = .next given' awaiting') :
    given'.lookup extra = given.lookup extra ∧ awaiting' ≠ some extra := by
  unfold readArgument at h
  split at h
  · next flag _ =>
    split at h
    · split at h
      · next given'' added =>
        cases h
        refine ⟨Given.lookup_add added ?_, by simp⟩
        rintro rfl
        exact notAwaiting rfl
      · cases h
    · cases h
  · cases h
  · split at h
    · next added =>
      cases h
      exact Given.lookup_addLong foreign added
    · cases h
  · split at h
    · next added =>
      cases h
      exact Given.lookup_addShort foreign added
    · cases h
  · split at h <;> cases h

theorem lookup_readLevel (foreign : extra ∉ flags) {arguments : List String} {given' : Given}
    {rest : Option (String × List String)} (notAwaiting : awaiting ≠ some extra)
    (h : readLevel flags names given awaiting arguments = .ok (given', rest)) :
    given'.lookup extra = given.lookup extra := by
  induction arguments generalizing given awaiting with
  | nil =>
    rw [readLevel.eq_def] at h
    simp only at h
    split at h
    · cases h
    · cases h
      rfl
  | cons argument arguments ih =>
    rw [readLevel_cons] at h
    split at h
    · next next =>
      obtain ⟨same, notAwaiting⟩ := lookup_readArgument foreign notAwaiting next
      rw [ih notAwaiting h, same]
    · cases h
      rfl
    · split at h
      · cases h
        rfl
      · cases h
    · cases h

end

/-! ### The environment -/

theorem checkEnvironment_eq_ok_iff {environment : Environment} :
    checkEnvironment environment flags given = .ok () ↔
      ∀ flag ∈ flags, (given.lookup flag).isSome = true ∨
        ∀ value ∈ environment.value? flag, flag.accepts value = true := by
  unfold checkEnvironment
  split
  · next checked =>
    simpa [List.all_eq_true, Option.all_eq_true] using checked
  · next unchecked =>
    simpa [List.all_eq_true, Option.all_eq_true] using unchecked

/-! ### Invocations -/

namespace Invocation

variable {environment : Environment} {invocation : Invocation}

def subcommandNames : List String := "help" :: subcommands.map Prod.fst

/--
The arguments with another subcommand in the place of the one that is named, or behind them when
none is.
-/
def renameSubcommand (name : String) (arguments : List String) : List String :=
  match readLevel topFlags subcommandNames [] none arguments with
  | .ok (_, some (_, inner)) =>
    arguments.take (arguments.length - (inner.length + 1)) ++ name :: inner
  | _ => arguments.takeWhile (· != "--") ++ [name]

variable {arguments rest : List String} {name : String} {outer : Given}

theorem ofArguments_of_none
    (h : readLevel topFlags subcommandNames [] none arguments = .ok (outer, none)) :
    ofArguments arguments environment = .ok invocation ↔
      checkEnvironment environment topFlags outer = .ok () ∧
        ofGiven environment outer [] .serve = invocation := by
  have same : ofArguments arguments environment =
      (checkEnvironment environment topFlags outer).bind fun _ =>
        .ok (ofGiven environment outer [] .serve) := by
    unfold subcommandNames at h
    unfold ofArguments
    rw [h]
    rfl
  rw [same]
  cases checkEnvironment environment topFlags outer with
  | error reason => simp [Except.bind]
  | ok _ => simp [Except.bind]

theorem ofArguments_of_some {own : List Flag}
    (h : readLevel topFlags subcommandNames [] none arguments = .ok (outer, some (name, rest)))
    (known : subcommands.lookup name = some own) :
    ofArguments arguments environment = .ok invocation ↔
      ∃ inner after command, readLevel (own ++ globalFlags) [] [] none rest = .ok (inner, after) ∧
        checkEnvironment environment (own ++ globalFlags) inner = .ok () ∧
        commandOf name inner = .ok command ∧
        checkEnvironment environment topFlags outer = .ok () ∧
        ofGiven environment outer inner command = invocation := by
  unfold subcommandNames at h
  unfold ofArguments
  rw [h, bind_eq_ok_iff]
  constructor
  · rintro ⟨_, ⟨⟩, h⟩
    simp only [known] at h
    obtain ⟨⟨inner, after⟩, hinner, h⟩ := bind_eq_ok_iff.mp h
    obtain ⟨_, hcheck, h⟩ := bind_eq_ok_iff.mp h
    obtain ⟨command, hcommand, h⟩ := bind_eq_ok_iff.mp h
    obtain ⟨_, houter, h⟩ := bind_eq_ok_iff.mp h
    cases h
    exact ⟨inner, after, command, hinner, hcheck, hcommand, houter, rfl⟩
  · rintro ⟨inner, after, command, hinner, hcheck, hcommand, houter, rfl⟩
    refine ⟨_, rfl, ?_⟩
    simp only [known, hinner, bind, Except.bind, hcheck, hcommand, houter]
    rfl

/--
What is asked for is read from a single level, or from two when a subcommand of the program is
named.
-/
theorem readLevel_of_ofArguments (asked : ofArguments arguments environment = .ok invocation) :
    ∃ outer, readLevel topFlags subcommandNames [] none arguments = .ok (outer, none) ∨
      ∃ name rest own, subcommands.lookup name = some own ∧
        readLevel topFlags subcommandNames [] none arguments = .ok (outer, some (name, rest)) := by
  cases read : readLevel topFlags subcommandNames [] none arguments with
  | error reason =>
    have failed : ofArguments arguments environment = .error reason := by
      unfold subcommandNames at read
      unfold ofArguments
      rw [read]
      rfl
    rw [failed] at asked
    cases asked
  | ok level =>
    obtain ⟨outer, next⟩ := level
    refine ⟨outer, ?_⟩
    cases next with
    | none => exact .inl rfl
    | some next =>
      obtain ⟨name, rest⟩ := next
      cases known : subcommands.lookup name with
      | none =>
        have failed : ofArguments arguments environment = .error .help := by
          unfold subcommandNames at read
          unfold ofArguments
          rw [read]
          simp only [bind, Except.bind, known]
        rw [failed] at asked
        cases asked
      | some own => exact .inr ⟨name, rest, own, known, rfl⟩

theorem name_of_commandOf_serve {own : List Flag} {given : Given}
    (known : subcommands.lookup name = some own) (h : commandOf name given = .ok .serve) :
    name = "serve" := by
  unfold commandOf at h
  split at h
  · split at h <;> cases h
  next notScan =>
  split at h
  · cases h
  next notConfig =>
  by_cases serve : name = "serve"
  · exact serve
  · simp [subcommands, List.lookup_cons, beq_false_of_ne serve, beq_false_of_ne notScan,
      beq_false_of_ne notConfig] at known

/--
The options for showing the configuration are those for serving and one more. It is not given when
the server could be started instead.
-/
theorem readLevel_config {inner : Given} {after : Option (String × List String)}
    (h : readLevel ([.help] ++ globalFlags) [] [] none rest = .ok (inner, after)) :
    readLevel ([.default, .help] ++ globalFlags) [] [] none rest = .ok (inner, after) ∧
      commandOf "config" inner = .ok (.showConfig false) := by
  have foreign : Flag.default ∉ [.help] ++ globalFlags := by decide
  have notGiven : inner.lookup .default = none :=
    lookup_readLevel foreign (by simp) h
  constructor
  · exact readLevel_cons_flag (by decide) rfl h
  · rw [commandOf, if_neg (by decide), if_pos rfl, notGiven]
    rfl

theorem checkEnvironment_config {given : Given}
    (h : checkEnvironment environment ([.help] ++ globalFlags) given = .ok ()) :
    checkEnvironment environment ([.default, .help] ++ globalFlags) given = .ok () := by
  rw [checkEnvironment_eq_ok_iff] at h ⊢
  intro flag hflag
  rcases List.mem_cons.mp hflag with rfl | hflag
  · right
    intro value hvalue
    cases hvalue
  · exact h flag hflag

theorem checkEnvironment_nil
    (valid : ∀ flag ∈ globalFlags, ∀ value ∈ environment.value? flag, flag.accepts value = true) :
    checkEnvironment environment ([.help] ++ globalFlags) [] = .ok () := by
  rw [checkEnvironment_eq_ok_iff]
  intro flag hflag
  right
  rcases List.mem_cons.mp hflag with rfl | hflag
  · intro value hvalue
    cases hvalue
  · exact valid flag hflag

/--
The arguments that start the server show the configuration when the subcommand says so, with the
same options in effect.
-/
theorem ofArguments_renameSubcommand
    (valid : ∀ flag ∈ globalFlags, ∀ value ∈ environment.value? flag, flag.accepts value = true)
    (asked : ofArguments arguments environment = .ok invocation)
    (serves : invocation.command = .serve) :
    ofArguments (renameSubcommand "config" arguments) environment =
      .ok { invocation with command := .showConfig false } := by
  have isName : ∀ letters, "config".toList ≠ '-' :: letters := by
    simp
  have config : subcommands.lookup "config" = some [.default, .help] := by
    rfl
  unfold renameSubcommand
  obtain ⟨outer, read | ⟨name, rest, own, known, read⟩⟩ := readLevel_of_ofArguments asked
  · obtain ⟨checked, rfl⟩ := (ofArguments_of_none read).mp asked
    simp only [read]
    rw [ofArguments_of_some (readLevel_append (by decide) isName read []) config]
    exact ⟨[], none, .showConfig false, rfl, checkEnvironment_config (checkEnvironment_nil valid),
      rfl, checked, rfl⟩
  · obtain ⟨inner, after, command, readInner, checkedInner, hcommand, checked, rfl⟩ :=
      (ofArguments_of_some read known).mp asked
    have serves : command = .serve := serves
    rw [serves] at hcommand
    obtain rfl := name_of_commandOf_serve known hcommand
    cases known
    obtain ⟨before, rfl⟩ := append_of_readLevel read
    have cut : (before ++ "serve" :: rest).take
        ((before ++ "serve" :: rest).length - (rest.length + 1)) = before := by
      simp
    simp only [read, cut]
    rw [ofArguments_of_some (readLevel_rename (by decide) isName read) config]
    obtain ⟨readInner, shows⟩ := readLevel_config readInner
    exact ⟨inner, after, .showConfig false, readInner, checkEnvironment_config checkedInner, shows,
      checked, rfl⟩

theorem workers_lt_of_ofArguments (asked : ofArguments arguments environment = .ok invocation) :
    ∀ workers ∈ invocation.workers, workers < 2 ^ 64 := by
  have bound : ∀ value workers, Flag.workers? value = some workers → workers < 2 ^ 64 := by
    intro value workers h
    unfold Flag.workers? at h
    split at h
    · split at h
      · cases h
        omega
      · cases h
    · cases h
  have made : ∃ outer inner command, ofGiven environment outer inner command = invocation := by
    obtain ⟨outer, read | ⟨name, rest, own, known, read⟩⟩ := readLevel_of_ofArguments asked
    · obtain ⟨-, made⟩ := (ofArguments_of_none read).mp asked
      exact ⟨outer, [], .serve, made⟩
    · obtain ⟨inner, -, command, -, -, -, -, made⟩ := (ofArguments_of_some read known).mp asked
      exact ⟨outer, inner, command, made⟩
  obtain ⟨outer, inner, command, rfl⟩ := made
  intro workers hworkers
  obtain ⟨value, -, hvalue⟩ := Option.bind_eq_some_iff.mp hworkers
  exact bound value workers hvalue

end Invocation
end PiiScan
