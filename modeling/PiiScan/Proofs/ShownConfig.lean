import PiiScan.Program
import PiiScan.Proofs.CommandLine
import PiiScan.Proofs.Config.Deletion

/-!
This module contains what the program shows as the configuration, compared with the configuration
that a server would run with for the same arguments, environment and files. What is shown has been
loaded in the same way, but the values that arguments and environment give for the server are not
part of it.
-/

namespace PiiScan

open Json (Dialect)

/-! ### The sizes of numbers that have been loaded -/

namespace Json

theorem natural?_lt {bits n : Nat} {value : Json} (h : natural? bits value = some n) :
    n < 2 ^ bits := by
  unfold natural? at h
  split at h
  · split at h
    · next small =>
      cases h
      exact small
    · cases h
  · cases h

theorem optional?_natural?_lt {bits n default : Nat} {field : Option Json}
    (small : default < 2 ^ bits) (h : optional? default (natural? bits) field = some n) :
    n < 2 ^ bits := by
  cases field with
  | none =>
    cases h
    exact small
  | some value => exact natural?_lt h

theorem optional?_nullable?_lt {bits : Nat} {n : Option Nat} {field : Option Json}
    (h : optional? none (nullable? (natural? bits)) field = some n) : ∀ m ∈ n, m < 2 ^ bits := by
  cases field with
  | none =>
    cases h
    simp
  | some value =>
    simp only [optional?, nullable?] at h
    split at h
    · cases h
      simp
    · obtain ⟨m, hm, rfl⟩ := Option.map_eq_some_iff.mp h
      rintro _ ⟨⟩
      exact natural?_lt hm

end Json

namespace ServerConfig

theorem isSized_default : ({} : ServerConfig).IsSized := by
  refine ⟨by decide, ?_, by decide⟩
  simp

theorem isSized_of_ofJson? {dialect : Dialect} {value : Json} {config : ServerConfig}
    (h : ofJson? dialect value = some config) : config.IsSized := by
  unfold ofJson? at h
  simp only [Option.bind_eq_bind, Option.bind_eq_some_iff, Option.pure_def] at h
  obtain ⟨field, -, host, -, port, -, workers, hworkers, maxMessageBytes, hmax, grace, hgrace,
    same⟩ := h
  cases same
  exact ⟨Json.optional?_natural?_lt (by decide) hworkers, Json.optional?_nullable?_lt hmax,
    Json.optional?_natural?_lt (by decide) hgrace⟩

theorem ofJson?_toJson {config : ServerConfig} (sized : config.IsSized) :
    ofJson? .json config.toJson = some config := by
  have read := ofJson?_without (fun _ => false) sized
  rwa [Json.without_nothing, without_nothing] at read

end ServerConfig

namespace Config

theorem isSized_of_ofJson? {dialect : Dialect} {value : Json} {config : Config}
    (h : ofJson? dialect value = some config) : config.server.IsSized := by
  unfold ofJson? at h
  simp only [Option.bind_eq_bind, Option.bind_eq_some_iff, Option.pure_def] at h
  obtain ⟨field, -, server, hserver, recognizer, -, anonymizer, -, same⟩ := h
  cases same
  cases hfield : field "server" with
  | none =>
    rw [hfield] at hserver
    cases hserver
    exact ServerConfig.isSized_default
  | some value =>
    rw [hfield] at hserver
    exact ServerConfig.isSized_of_ofJson? hserver

theorem isSized_of_read {document : Text} {diagnosis : Diagnosis} {config : Config}
    (h : read document diagnosis = .ok config) : config.server.IsSized := by
  unfold read at h
  split at h
  · split at h
    · next made =>
      cases h
      obtain ⟨value, -, made⟩ := Option.bind_eq_some_iff.mp made
      exact isSized_of_ofJson? made
    · cases h
  · split at h
    · next made =>
      cases h
      obtain ⟨value, -, made⟩ := Option.bind_eq_some_iff.mp made
      exact isSized_of_ofJson? made
    · cases h

theorem isSized_of_load {files : Files} {path : Option String} {diagnosis : Diagnosis}
    {config : Config} {source : Option String}
    (h : load files path diagnosis = .ok (config, source)) : config.server.IsSized := by
  unfold load at h
  split at h
  · cases h
    exact ServerConfig.isSized_default
  · obtain ⟨text, -, h⟩ := bind_eq_ok_iff.mp h
    obtain ⟨made, hmade, h⟩ := bind_eq_ok_iff.mp h
    cases h
    obtain ⟨made, hread, h⟩ := bind_eq_ok_iff.mp hmade
    obtain ⟨-, -, h⟩ := bind_eq_ok_iff.mp h
    cases h
    exact isSized_of_read hread

/-! ### The printed server -/

theorem pretty_eq (config : Config) :
    config.toJson.pretty =
      '{' :: (Json.newLine 1 ++ Json.quote "server".toList ++ [':', ' ']) ++
        (config.server.toJson.printPretty 1 ++
          (Json.printMembersPretty 0 [Json.member "recognizer" config.recognizer.toJson,
            Json.member "anonymizer" config.anonymizer.toJson] ++ (Json.newLine 0 ++ ['}']))) := by
  simp [toJson, Json.pretty, Json.member, Json.printPretty]

theorem server_eq_of_pretty_eq {config other : Config} (sized : config.server.IsSized)
    (sized' : other.server.IsSized) (h : config.toJson.pretty = other.toJson.pretty) :
    config.server = other.server := by
  rw [pretty_eq, pretty_eq] at h
  obtain ⟨same, -⟩ := Json.eq_of_printPretty_append_eq
    (ServerConfig.isPrintable_toJson sized) (ServerConfig.isPrintable_toJson sized')
    (Json.endsNumeral_printMembersPretty 0 _ (Json.endsNumeral_newLine 0 _))
    (Json.endsNumeral_printMembersPretty 0 _ (Json.endsNumeral_newLine 0 _))
    (List.append_cancel_left h)
  have read := ServerConfig.ofJson?_toJson sized
  rw [same, ServerConfig.ofJson?_toJson sized'] at read
  exact (Option.some.inj read).symm

end Config

namespace Program

variable {files : Files} {environment : Environment} {arguments : List String}
  {invocation : Invocation} {platform : Platform} {config loaded : Config}

theorem isSized_withOverrides (sized : loaded.server.IsSized)
    (bound : ∀ workers ∈ invocation.workers, workers < 2 ^ 64) :
    (withOverrides loaded invocation).server.IsSized := by
  refine ⟨?_, sized.maxMessageBytes, sized.shutdownGraceSecs⟩
  cases given : invocation.workers with
  | none => simpa [withOverrides, given] using sized.workers
  | some workers => simpa [withOverrides, given] using bound workers given

theorem getD_eq_iff {α : Type} {value : Option α} {default : α} :
    value.getD default = default ↔ ∀ a ∈ value, a = default := by
  cases value <;> simp

/--
The documents are the same only if nothing is overridden by another value.
-/
theorem pretty_withOverrides_iff (sized : loaded.server.IsSized)
    (bound : ∀ workers ∈ invocation.workers, workers < 2 ^ 64) :
    (withOverrides loaded invocation).toJson.pretty = loaded.toJson.pretty ↔
      (∀ host ∈ invocation.host, host = loaded.server.host) ∧
      (∀ port ∈ invocation.port, port = loaded.server.port) ∧
      ∀ workers ∈ invocation.workers, workers = loaded.server.workers := by
  rw [← getD_eq_iff, ← getD_eq_iff, ← getD_eq_iff]
  constructor
  · intro h
    have same := Config.server_eq_of_pretty_eq (isSized_withOverrides sized bound) sized h
    exact ⟨congrArg ServerConfig.host same, congrArg ServerConfig.port same,
      congrArg ServerConfig.workers same⟩
  · rintro ⟨host, port, workers⟩
    have same : withOverrides loaded invocation = loaded := by
      rw [withOverrides, host, port, workers]
    rw [same]

theorem servedConfig_eq_ok (served : servedConfig files invocation platform = .ok config) :
    ∃ loaded source,
      Config.load files invocation.configFile platform.diagnosis = .ok (loaded, source) ∧
      config = withOverrides loaded invocation := by
  obtain ⟨⟨loaded, source⟩, hload, served⟩ := bind_eq_ok_iff.mp served
  obtain ⟨_, -, served⟩ := bind_eq_ok_iff.mp served
  cases served
  exact ⟨loaded, source, hload, rfl⟩

/--
What is shown for the arguments of a server that passes validation, on any platform. It is what has
been loaded, without the values that arguments and environment give. The server runs with these
values, so that its configuration is shown exactly if none of them differs from what has been
loaded.
-/
theorem run_config_of_served
    (valid : ∀ flag ∈ Invocation.globalFlags, ∀ value ∈ environment.value? flag,
      flag.accepts value = true)
    (asked : Invocation.ofArguments arguments environment = .ok invocation)
    (serves : invocation.command = .serve)
    (served : servedConfig files invocation platform = .ok config) :
    ∃ loaded source,
      Config.load files invocation.configFile platform.diagnosis = .ok (loaded, source) ∧
      config = withOverrides loaded invocation ∧
      run files environment (Invocation.renameSubcommand "config" arguments) platform =
        .success loaded.toJson.pretty ∧
      (run files environment (Invocation.renameSubcommand "config" arguments) platform =
          .success config.toJson.pretty ↔
        (∀ host ∈ invocation.host, host = loaded.server.host) ∧
        (∀ port ∈ invocation.port, port = loaded.server.port) ∧
        ∀ workers ∈ invocation.workers, workers = loaded.server.workers) := by
  obtain ⟨loaded, source, hload, rfl⟩ := servedConfig_eq_ok served
  have shown : run files environment (Invocation.renameSubcommand "config" arguments) platform =
      .success loaded.toJson.pretty := by
    unfold run
    rw [Invocation.ofArguments_renameSubcommand valid asked serves]
    simp [showConfig, shownConfig, hload, Except.map]
  refine ⟨loaded, source, hload, rfl, shown, ?_⟩
  rw [shown, ← pretty_withOverrides_iff (Config.isSized_of_load hload)
    (Invocation.workers_lt_of_ofArguments asked)]
  simp only [Exit.success, Exit.mk.injEq, List.append_cancel_right_eq, true_and, and_true]
  exact eq_comm

def portFile : Files := Files.ofNames [("aegis-filter.hcl",
  .file (Text.toUtf8 "\x7b \"server\": \x7b \"port\": 6000 \x7d \x7d".toList))]

/--
The environment may repeat what the file says.
-/
theorem run_config_with_repeated_port :
    (∀ flag ∈ Invocation.globalFlags, ∀ value ∈ Environment.value? [("GRPC_PORT", "6000")] flag,
      flag.accepts value = true) ∧
    Invocation.ofArguments [] [("GRPC_PORT", "6000")] =
      .ok ⟨.serve, none, none, some 6000, none⟩ ∧
    servedConfig portFile ⟨.serve, none, none, some 6000, none⟩ =
      .ok { server := { port := 6000 } } ∧
    run portFile [("GRPC_PORT", "6000")] ["config"] =
      .success (Config.toJson { server := { port := 6000 } }).pretty := by
  have valid : ∀ flag ∈ Invocation.globalFlags,
      ∀ value ∈ Environment.value? [("GRPC_PORT", "6000")] flag, flag.accepts value = true := by
    decide
  have asked : Invocation.ofArguments [] [("GRPC_PORT", "6000")] =
      .ok ⟨.serve, none, none, some 6000, none⟩ := by
    apply eq_ok_of_toOption
    decide
  have served : servedConfig portFile ⟨.serve, none, none, some 6000, none⟩ =
      .ok { server := { port := 6000 } } := by
    apply eq_ok_of_toOption
    decide +kernel
  refine ⟨valid, asked, served, ?_⟩
  obtain ⟨loaded, source, hload, -, -, shown⟩ := run_config_of_served valid asked rfl served
  have hload' : Config.load portFile none =
      .ok ({ server := { port := 6000 } }, some "aegis-filter.hcl") := by
    apply eq_ok_of_toOption
    decide +kernel
  cases hload.symm.trans hload'
  apply shown.mpr
  simp

/--
The program shows the defaults when a server would run on another port.
-/
theorem run_config_misses_port :
    Invocation.ofArguments ["serve", "--port", "6000"] [] =
      .ok ⟨.serve, none, none, some 6000, none⟩ ∧
    Invocation.renameSubcommand "config" ["serve", "--port", "6000"] =
      ["config", "--port", "6000"] ∧
    servedConfig [] ⟨.serve, none, none, some 6000, none⟩ = .ok { server := { port := 6000 } } ∧
    run [] [] ["config", "--port", "6000"] = .success (Config.toJson {}).pretty ∧
    run [] [] ["config", "--port", "6000"] ≠
      .success (Config.toJson { server := { port := 6000 } }).pretty := by
  have asked : Invocation.ofArguments ["serve", "--port", "6000"] [] =
      .ok ⟨.serve, none, none, some 6000, none⟩ := by
    apply eq_ok_of_toOption
    decide
  have askedToShow : Invocation.ofArguments ["config", "--port", "6000"] [] =
      .ok ⟨.showConfig false, none, none, some 6000, none⟩ := by
    apply eq_ok_of_toOption
    decide
  have served : servedConfig [] ⟨.serve, none, none, some 6000, none⟩ =
      .ok { server := { port := 6000 } } := by
    apply eq_ok_of_toOption
    decide
  have shown : run [] [] ["config", "--port", "6000"] = .success (Config.toJson {}).pretty := by
    unfold run
    rw [askedToShow]
    rfl
  have renamed : Invocation.renameSubcommand "config" ["serve", "--port", "6000"] =
      ["config", "--port", "6000"] := by
    decide
  refine ⟨asked, renamed, served, shown, ?_⟩
  intro same
  rw [shown] at same
  have printed := List.append_cancel_right (congrArg Exit.printed same)
  have sized : ({ port := 6000 } : ServerConfig).IsSized := ⟨by decide, by simp, by decide⟩
  have server := Config.server_eq_of_pretty_eq ServerConfig.isSized_default sized printed
  have port : (50051 : UInt16) = 6000 := congrArg ServerConfig.port server
  revert port
  decide

end Program
end PiiScan
