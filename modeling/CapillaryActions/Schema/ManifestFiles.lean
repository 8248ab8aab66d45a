import CapillaryActions.Schema.RoundTrip
import CapillaryActions.Semantics.Transducer
import Mathlib.Data.Set.Basic

/-! Manifest files over time. Schemas are written to paths and loaded from them,
in any order; several paths may name one file, and both kinds of calls may raise.
As long as PyYAML reads back what it wrote, the files behave as a map to schemas:
a load returns the schema that was written to its file last, or what the path had
at the start. What is left behind by a write that raised is not known. -/
namespace CapillaryActions.Schema

open Python Semantics

/-- The two things that are done with manifest files. -/
inductive ManifestCall where
  | write (schema : DomainSchema) (yamlFile : String)
  | load (path : String)

def ManifestCall.path : ManifestCall → String
  | .write _ yamlFile => yamlFile
  | .load path => path

/-- PyYAML keeps its promise for the schema that a call writes, and writes a text
that can be read back. -/
def ManifestCall.RoundTrips (yaml : PyYAML) (texts : Set String) : ManifestCall → Prop
  | .write schema _ => yaml.RoundTrips schema.data ∧ yaml.safeDump schema.data ∈ texts
  | .load _ => True

/-- A call, and how it ended. -/
inductive Reply where
  | wrote (schema : DomainSchema) (yamlFile : String) (outcome : Except Exn Unit)
  | loaded (path : String) (outcome : Except Exn DomainSchema)

def Reply.loaded? : Reply → Option (Except Exn DomainSchema)
  | .loaded _ outcome => some outcome
  | .wrote _ _ _ => none

/-- The code under a sequence of calls. All calls reply, also if they raise. -/
def fileMachine {Disk : Type} [FileSystem Disk] (yaml : PyYAML) :
    Transducer Disk ManifestCall Reply where
  step disk call := match call with
    | .write schema yamlFile =>
        let written := schema.schemaToYaml yaml disk yamlFile
        (written.2, [.wrote schema yamlFile written.1])
    | .load path => (disk, [.loaded path (Schema.load yaml disk path)])

/-- Which of some paths name the same file, as long as some texts are written to
them. The texts are read back from all paths of the file. The other files are left
alone, also by a write that raises. -/
structure FileSystem.Resolves {Disk File : Type} [FileSystem Disk] (disks : Set Disk)
    (paths texts : Set String) (fileOf : String → File) : Prop where
  keeps : ∀ disk ∈ disks, ∀ path ∈ paths, ∀ text ∈ texts, (write disk path text).2 ∈ disks
  readsBack : ∀ disk ∈ disks, ∀ path ∈ paths, ∀ other ∈ paths, fileOf other = fileOf path →
    ∀ text ∈ texts, ∀ disk', write disk path text = (.ok (), disk') →
      openText disk' other = .ok (.ofText text)
  leaves : ∀ disk ∈ disks, ∀ path ∈ paths, ∀ other ∈ paths, fileOf other ≠ fileOf path →
    ∀ text ∈ texts, openText (write disk path text).2 other = openText disk other

/-- What paths load as, as far as it is known. -/
abbrev Manifests := String → Option (Except Exn DomainSchema)

/-- What is known of an outcome is so. -/
def Admits (expected : Option (Except Exn DomainSchema)) (outcome : Except Exn DomainSchema) : Prop :=
  ∀ known, expected = some known → outcome = known

section

variable {File : Type} [DecidableEq File] (fileOf : String → File)

/-- The purpose of the files: every path has a schema, or does not load. Of the
replies the map learns what was written, and which of the writes raised. -/
def manifestMachine : Transducer Manifests Reply (Option (Except Exn DomainSchema)) where
  step manifests reply := match reply with
    | .wrote schema yamlFile outcome =>
        (fun path => if fileOf path = fileOf yamlFile then outcome.toOption.map fun _ => .ok schema
          else manifests path, [])
    | .loaded path _ => (manifests, [manifests path])

/-- The schema of a reply to a write to the file of a path, and how this ended. -/
def Reply.write? (path : String) : Reply → Option (DomainSchema × Except Exn Unit)
  | .wrote schema yamlFile outcome =>
      if fileOf path = fileOf yamlFile then some (schema, outcome) else none
  | .loaded _ _ => none

/-- The last write to the file of a path. -/
def lastWrite (path : String) (replies : List Reply) : Option (DomainSchema × Except Exn Unit) :=
  (replies.filterMap (Reply.write? fileOf path)).getLast?

theorem manifestMachine_after (manifests : Manifests) (replies : List Reply) (path : String) :
    (manifestMachine fileOf).after manifests replies path =
      match lastWrite fileOf path replies with
      | some (schema, outcome) => outcome.toOption.map fun _ => .ok schema
      | none => manifests path := by
  induction replies using List.reverseRecOn with
  | nil => rfl
  | append_singleton replies reply ih =>
      rw [Transducer.after_append]
      cases reply with
      | wrote schema yamlFile outcome =>
          by_cases hFile : fileOf path = fileOf yamlFile
          · simp [manifestMachine, lastWrite, Reply.write?, hFile]
          · simpa [manifestMachine, lastWrite, Reply.write?, hFile] using ih
      | loaded other outcome => simpa [manifestMachine, lastWrite, Reply.write?] using ih

end

section

variable {Disk File : Type} [FileSystem Disk] {yaml : PyYAML}
  {disks : Set Disk} {paths texts : Set String} {fileOf : String → File}
  (hResolves : FileSystem.Resolves disks paths texts fileOf)
include hResolves

/-- One write: the paths of its file load as the schema, or as is not known. The
others load as before. -/
theorem load_written {schema : DomainSchema} (hRoundTrip : yaml.RoundTrips schema.data)
    (hText : yaml.safeDump schema.data ∈ texts) {disk : Disk} (hDisk : disk ∈ disks)
    {path other : String} (hPath : path ∈ paths) (hOther : other ∈ paths) :
    let written := schema.schemaToYaml yaml disk path
    (fileOf other = fileOf path → written.1 = .ok () → load yaml written.2 other = .ok schema) ∧
    (fileOf other ≠ fileOf path → load yaml written.2 other = load yaml disk other) := by
  intro written
  constructor
  · intro hFile hWritten
    have hWrite : FileSystem.write disk path (yaml.safeDump schema.data) = (.ok (), written.2) :=
      Prod.ext hWritten rfl
    have hOpened := hResolves.readsBack disk hDisk path hPath other hOther hFile _ hText _ hWrite
    rw [load_eq_rebuild hOpened (hRoundTrip schema.plain_data)]
    exact rebuild_of_modelValidate schema.modelValidate_data
  · intro hFile
    have hSame : FileSystem.openText written.2 other = FileSystem.openText disk other :=
      hResolves.leaves disk hDisk path hPath other hOther hFile _ hText
    simp only [load, hSame]

variable [DecidableEq File]

/-- What is known stays so, call by call. -/
theorem known_step {manifests : Manifests} {disk : Disk} (hDisk : disk ∈ disks) {call : ManifestCall}
    (hPath : call.path ∈ paths) (hRoundTrip : call.RoundTrips yaml texts)
    (hKnown : ∀ path ∈ paths, Admits (manifests path) (load yaml disk path)) :
    ∀ path ∈ paths, Admits
      ((manifestMachine fileOf).after manifests ((fileMachine yaml).step disk call).2 path)
      (load yaml ((fileMachine yaml).step disk call).1 path) := by
  intro other hOther
  cases call with
  | load path => exact hKnown other hOther
  | write schema path =>
      obtain ⟨hWritten, hLeft⟩ := load_written hResolves hRoundTrip.1 hRoundTrip.2 hDisk hPath hOther
      intro known hExpected
      simp only [fileMachine, manifestMachine, Transducer.after_cons, Transducer.after_nil] at hExpected
      split at hExpected
      · rename_i hFile
        cases hOutcome : (schema.schemaToYaml yaml disk path).1 with
        | error raised => simp [hOutcome, Except.toOption] at hExpected
        | ok done =>
            rw [hOutcome] at hExpected
            cases hExpected
            exact hWritten hFile hOutcome
      · rename_i hFile
        exact (hLeft hFile).trans (hKnown other hOther known hExpected)

omit [DecidableEq File] in
/-- A run stays among the disks that the laws are about. -/
theorem disk_step {disk : Disk} (hDisk : disk ∈ disks) {call : ManifestCall}
    (hPath : call.path ∈ paths) (hRoundTrip : call.RoundTrips yaml texts) :
    ((fileMachine yaml).step disk call).1 ∈ disks := by
  cases call with
  | load path => exact hDisk
  | write schema path => exact hResolves.keeps disk hDisk path hPath _ hRoundTrip.2

/-- A run, from where something is known. -/
theorem known_run {manifests : Manifests} {disk : Disk} (hDisk : disk ∈ disks)
    {calls : List ManifestCall} (hPaths : ∀ call ∈ calls, call.path ∈ paths)
    (hRoundTrips : ∀ call ∈ calls, call.RoundTrips yaml texts)
    (hKnown : ∀ path ∈ paths, Admits (manifests path) (load yaml disk path)) :
    let replies := (fileMachine yaml).emitted disk calls
    List.Forall₂ Admits ((manifestMachine fileOf).emitted manifests replies)
      (replies.filterMap Reply.loaded?) ∧
    ∀ path ∈ paths, Admits ((manifestMachine fileOf).after manifests replies path)
      (load yaml ((fileMachine yaml).after disk calls) path) := by
  induction calls generalizing manifests disk with
  | nil => exact ⟨.nil, hKnown⟩
  | cons call calls ih =>
      obtain ⟨hPath, hPaths⟩ := List.forall_mem_cons.mp hPaths
      obtain ⟨hRoundTrip, hRoundTrips⟩ := List.forall_mem_cons.mp hRoundTrips
      obtain ⟨hReplies, hAfter⟩ := ih (disk_step hResolves hDisk hPath hRoundTrip) hPaths
        hRoundTrips (known_step hResolves hDisk hPath hRoundTrip hKnown)
      have hReply : List.Forall₂ Admits
          ((manifestMachine fileOf).emitted manifests ((fileMachine yaml).step disk call).2)
          (((fileMachine yaml).step disk call).2.filterMap Reply.loaded?) := by
        cases call with
        | write schema path => exact .nil
        | load path => exact .cons (hKnown path hPath) .nil
      simp only [Transducer.emitted_cons, Transducer.emitted_append, List.filterMap_append,
        Transducer.after_append, Transducer.after_cons]
      exact ⟨List.rel_append hReply hReplies, hAfter⟩

end

/-- Manifest files are a map from files to schemas. Over any sequence of writes
and loads, on any file system and from any disk: each load replies as the map
would, wherever the map knows; at the end, each path loads as the schema that was
last written to its file, if this write did not raise, or as it did at the start,
if there was none. -/
theorem manifestFiles_refine_map {Disk File : Type} [FileSystem Disk] [DecidableEq File]
    (yaml : PyYAML) (disks : Set Disk) (paths texts : Set String) (fileOf : String → File)
    (hResolves : FileSystem.Resolves disks paths texts fileOf) (disk : Disk) (hDisk : disk ∈ disks)
    (calls : List ManifestCall) (hPaths : ∀ call ∈ calls, call.path ∈ paths)
    (hRoundTrips : ∀ call ∈ calls, call.RoundTrips yaml texts) :
    let replies := (fileMachine yaml).emitted disk calls
    let final := (fileMachine yaml).after disk calls
    List.Forall₂ Admits
      ((manifestMachine fileOf).emitted (fun path => some (load yaml disk path)) replies)
      (replies.filterMap Reply.loaded?) ∧
    ∀ path ∈ paths,
      (lastWrite fileOf path replies = none → load yaml final path = load yaml disk path) ∧
      ∀ schema, lastWrite fileOf path replies = some (schema, .ok ()) →
        load yaml final path = .ok schema := by
  intro replies final
  have hStart : ∀ path ∈ paths, Admits (some (load yaml disk path)) (load yaml disk path) :=
    fun path _ known hKnown => Option.some.inj hKnown
  obtain ⟨hReplies, hFinal⟩ := known_run hResolves hDisk hPaths hRoundTrips hStart
  simp only [manifestMachine_after] at hFinal
  refine ⟨hReplies, fun path hPath => ⟨fun hLast => ?_, fun schema hLast => ?_⟩⟩
  · exact hFinal path hPath _ (by simp only [replies] at hLast; simp only [hLast])
  · exact hFinal path hPath _ (by
      simp only [replies] at hLast
      simp only [hLast]
      rfl)

/-- In a directory, the paths of one file differ in the directory in front. -/
theorem Directory.resolves :
    FileSystem.Resolves (Set.univ : Set Directory) Set.univ Set.univ Directory.fileName where
  keeps _ _ _ _ _ _ := Set.mem_univ _
  readsBack files _ path _ other _ hFile text _ files' hWrite := by
    rw [Directory.write_eq_ok hWrite, ← hFile]
    exact Directory.openText_of_some (Function.update_self ..)
  leaves files _ path _ other _ hFile text _ :=
    Directory.openText_congr (Directory.write_of_ne files text hFile)

/-- One file by two names, and a directory that does not exist. -/
theorem manifestFiles_refine_map_two_paths :
    let text := "domain: d\nsubject: s\ndimensions: []\n" ++
      "knowledge_base:\n  kb_names: []\n  retrieval: corrective_rag\nengagements: []\n"
    ∃ schema : DomainSchema, schema.domain = "d" ∧
      let yaml := PyYAML.ofDocument text schema.data
      let files : Directory := fun _ => none
      let calls := [.write schema "./m.yaml", .write schema "sub/m.yaml", .load "sub/m.yaml"]
      load yaml ((fileMachine yaml).after files calls) "m.yaml" = .ok schema ∧
      load yaml ((fileMachine yaml).after files calls) "n.yaml" =
        .error (.fileNotFoundError "n.yaml") := by
  intro text
  have hAccepted : rejectDuplicateDimensionNames [] = .ok [] :=
    rejectDuplicateDimensionNames_eq_ok.mpr ⟨List.nodup_nil, rfl⟩
  let schema : DomainSchema := ⟨"d", "s", [], ⟨[], "corrective_rag"⟩, [], by simp, hAccepted⟩
  refine ⟨schema, rfl, ?_⟩
  intro yaml files calls
  have hRoundTrip : yaml.RoundTrips schema.data :=
    fun _ => PyYAML.safeLoad_ofDocument text schema.data
  have hCalls : ∀ call ∈ calls, call.RoundTrips yaml Set.univ := by
    simp [calls, ManifestCall.RoundTrips, hRoundTrip]
  have hPaths := (manifestFiles_refine_map yaml Set.univ Set.univ Set.univ Directory.fileName
    Directory.resolves files (Set.mem_univ _) calls (fun _ _ => Set.mem_univ _) hCalls).2
  obtain ⟨_, hWritten⟩ := hPaths "m.yaml" (Set.mem_univ _)
  obtain ⟨hUnwritten, _⟩ := hPaths "n.yaml" (Set.mem_univ _)
  exact ⟨hWritten schema rfl, (hUnwritten rfl).trans rfl⟩

end CapillaryActions.Schema
