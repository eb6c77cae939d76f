import Compliance.Proofs.BuiltInConfig
import Compliance.Proofs.EvidenceScans
import Compliance.Proofs.StoredDocuments
import Compliance.Proofs.WorkingDirectory

/-!
The programs that run one gate against the program with subcommands. Both read the
built-in configuration and the files of the working directory, the former behind a
point and the latter behind its absolute path. They end alike, whatever the documents
hold, unless that path is so long that what lies behind it cannot be followed.
-/

namespace Compliance

/-- What a gate asks for can be followed from the top of the tree: the absolute path of
the working directory leaves room for it. -/
def FileTree.LeavesRoom (files : FileTree) (config : Config) (gate : Gate) : Prop :=
  ∀ path, gate.Asks config path →
    (Workspace.join files.directoryPath path).utf8ByteSize ≤ Place.maxPath

namespace Workspace

theorem utf8ByteSize_join_le (root path : String) :
    (join root path).utf8ByteSize ≤ root.utf8ByteSize + 1 + path.utf8ByteSize := by
  unfold join
  split
  · omega
  split
  · rw [String.utf8ByteSize_append]
    omega
  · have hslash : "/".utf8ByteSize = 1 := by decide
    rw [String.utf8ByteSize_append, String.utf8ByteSize_append, hslash]

/-- The built-in configuration asks only for short paths. -/
theorem leavesRoom_of_short {files : FileTree}
    (h : files.directoryPath.utf8ByteSize + 1 + Config.longestBuiltIn ≤ Place.maxPath)
    (gate : Gate) : files.LeavesRoom Config.builtIn gate := by
  intro path hasks
  obtain ⟨_, _, _, hshort⟩ := Config.builtIn_paths path hasks.mem_paths
  have hjoin := utf8ByteSize_join_le files.directoryPath path
  omega

/-- A gate of the built-in configuration cannot tell the point from the absolute path of
the working directory. -/
theorem run_builtIn_eq {files : FileTree} {gate : Gate} (hdirectory : files.Resolvable)
    (hroom : files.LeavesRoom Config.builtIn gate) :
    gate.run (Workspace.mk "." files.access).source Config.builtIn =
      gate.run (Workspace.mk files.directoryPath files.access).source Config.builtIn := by
  have hlocate (path : String) (hasks : gate.Asks Config.builtIn path) :
      files.locate (join "." path) = files.locate (join files.directoryPath path) := by
    obtain ⟨hrelative, hempty, hnul, hshort⟩ :=
      Config.builtIn_paths path hasks.mem_paths
    have hpoint := utf8ByteSize_join_le "." path
    have hone : ".".utf8ByteSize = 1 := by decide
    apply locate_join_point hdirectory hrelative hempty hnul _ (hroom path hasks)
    unfold Config.longestBuiltIn at hshort
    unfold Place.maxPath
    omega
  apply Gate.run_eq_of_asked
  · rintro rfl path hpath
    exact FileTree.has_of_locate_eq (hlocate path (.presence hpath))
  · intro path hnames
    have hread := FileTree.read_of_locate_eq (hlocate path (.content hnames))
    simp only [source, read, resolve, FileTree.access, hread]

end Workspace

/-- The arguments that ask for one gate and give no options. -/
def Gate.arguments : Gate → List String
  | freeze => ["freeze"]
  | approvals => ["approvals"]
  | schema => ["schema"]
  | evidence family => ["evidence", family]

/-- A family whose first document is in trouble is answered for by that document. -/
theorem Gate.run_of_first_trouble {source : Source} {config : Config} {family : String}
    {entry : EvidenceConfig} {first : EvidenceDocument} {behind : List EvidenceDocument}
    {trouble : Evidence.Trouble} (hfamily : config.family family = .ok entry)
    (hdocuments : entry.documents = first :: behind)
    (h : Evidence.Suffers source entry first trouble) :
    (evidence family).run source config = trouble.answer entry first [] := by
  have hrun := Evidence.run_of_stopsAt ⟨⟨behind, hdocuments⟩, .nil, h⟩
  simp only [run, hfamily, hrun]

namespace Command

variable {name : String} {gate : Gate}

/-- Each standalone program has its gate in the built-in configuration, and the program
with subcommands takes the arguments for that gate as they are meant. -/
theorem standalonePrograms_served :
    ∀ served ∈ standalonePrograms,
      standalonePrograms.lookup served.1 = some served.2 ∧
      served.2 ∈ Config.builtIn.gates ∧
      Line.ofArguments served.2.arguments = .ok { task := .gate served.2 } := by
  decide

/-- A gate that is configured is run, and its result is all that is printed. -/
theorem perform_gate {source : Source} {config : Config} {format : Format}
    (h : gate ∈ config.gates) :
    perform source config format (.gate gate) =
      Output.emit gate.name (gate.run source config) format := by
  cases gate with
  | evidence family =>
    obtain ⟨entry, hentry⟩ := Config.evidence_mem_gates_iff.mp h
    simp only [perform, hentry]
  | _ => rfl

/-- A command line that asks for a gate and tells no events has the result of the gate
as all that is printed. -/
theorem run_gate {surroundings : Surroundings} {config : Config} (line : Line)
    (hconfig : selectConfig surroundings.files line.config = .ok config)
    (hquiet : line.verbosity = 0) (htask : line.task = .gate gate)
    (hgate : gate ∈ config.gates) :
    run surroundings line =
      Output.emit gate.name
        (gate.run
          (Workspace.mk (line.root.getD surroundings.directory) surroundings.files).source
          config)
        line.format := by
  have hlines (events : List Log.Event) : Log.lines 0 events = [] := rfl
  have hunlines : Output.unlines [] = "" := rfl
  simp only [run, hconfig, hquiet, htask, perform_gate hgate, hlines, hunlines,
    String.empty_append]

/-- A standalone program gives the result of its gate on what lies behind a point. -/
theorem program_standalone (h : (name, gate) ∈ standalonePrograms) (files : FileTree)
    (arguments : List String) :
    program name (.ofTree files) arguments =
      Output.emit gate.name
        (gate.run (Workspace.mk "." files.access).source Config.builtIn) .text := by
  obtain ⟨hname, _⟩ := standalonePrograms_served _ h
  calc program name (.ofTree files) arguments
      = standaloneUnder files.access gate embeddedConfig := by
        simp only [program, hname, Surroundings.ofTree, standalone]
    _ = standaloneUnder files.access gate (.ok Config.builtIn) := by
        rw [embeddedConfig_eq]

/-- The program with subcommands gives the result of the gate on what lies behind the
absolute path of the working directory. -/
theorem program_subcommand (h : (name, gate) ∈ standalonePrograms) (files : FileTree) :
    program programName (.ofTree files) gate.arguments =
      Output.emit gate.name
        (gate.run (Workspace.mk files.directoryPath files.access).source Config.builtIn)
        .text := by
  obtain ⟨_, hgate, harguments⟩ := standalonePrograms_served _ h
  have hother : standalonePrograms.lookup programName = none := by decide
  have hselected : selectConfig files.access none = .ok Config.builtIn := by
    rw [selectConfig, embeddedConfig_eq, Except.mapError]
  calc program programName (.ofTree files) gate.arguments
      = run (.ofTree files) { task := .gate gate } := by
        simp only [program, hother, execute, harguments]
    _ = _ := run_gate { task := .gate gate } hselected rfl rfl hgate

/-- A standalone program ends with the status, the output and the error output of the
program with subcommands that is asked for its gate in the same directory, whatever
arguments it is given. -/
theorem standalone_agrees_with_subcommand {files : FileTree}
    (hprogram : (name, gate) ∈ standalonePrograms) (hdirectory : files.Resolvable)
    (hroom : files.LeavesRoom Config.builtIn gate) (arguments : List String) :
    program name (.ofTree files) arguments =
      program programName (.ofTree files) gate.arguments := by
  rw [program_standalone hprogram, program_subcommand hprogram,
    Workspace.run_builtIn_eq hdirectory hroom]

/-- A release whose ledger is a directory. -/
def ledgerDisk : FileTree where
  tree := .directory
    [("srv", .directory
      [("release", .directory
        [("governance", .directory [("impact_decisions.json", .directory [])])])])]
  directory := ["srv", "release"]

theorem standalone_agrees_on_ledgerDisk :
    ("check-impact-approvals", .approvals) ∈ standalonePrograms ∧ ledgerDisk.Resolvable ∧
      ledgerDisk.LeavesRoom Config.builtIn .approvals ∧
      program "check-impact-approvals" (.ofTree ledgerDisk) ["--help"] =
        program programName (.ofTree ledgerDisk) ["approvals"] ∧
      (program programName (.ofTree ledgerDisk) ["approvals"]).stderr =
        "I/O error reading governance/impact_decisions.json: " ++
          "Is a directory (os error 21)\n" := by
  have hserved : ("check-impact-approvals", Gate.approvals) ∈ standalonePrograms := by
    decide
  have hdirectory : ledgerDisk.Resolvable :=
    FileTree.resolvable_of_walk (by decide) (by decide) (by decide) rfl
  have hroom := @Workspace.leavesRoom_of_short ledgerDisk (by decide) .approvals
  have hagrees := standalone_agrees_with_subcommand hserved hdirectory hroom ["--help"]
  refine ⟨hserved, hdirectory, hroom, hagrees, ?_⟩
  have hresult := program_subcommand hserved ledgerDisk
  exact (congrArg Emission.stderr hresult).trans (by decide +kernel)

/-- Names of almost the longest length, one below the other. -/
def deepNames : List String := List.replicate 16 (lengthyName 254)

/-- An empty working directory that is sixteen such names below the top. -/
def deepDisk : FileTree where
  tree := Node.emptyDirectory.put deepNames .emptyDirectory
  directory := deepNames

theorem deepDisk_walk :
    ∃ above, deepDisk.top.walk deepDisk.directory = .ok ⟨.emptyDirectory, above⟩ := by
  apply Place.walk_of_at?_eq_some
  · intro name hname
    obtain rfl := List.eq_of_mem_replicate hname
    decide +kernel
  · have hput := Node.at?_put_append .emptyDirectory .emptyDirectory deepNames []
    rw [List.append_nil] at hput
    exact hput

theorem utf8ByteSize_deepDisk : deepDisk.directoryPath.utf8ByteSize = 4080 := by
  have hjoin (count : Nat) (name : String) :
      (String.join (List.replicate count name)).utf8ByteSize =
        count * name.utf8ByteSize := by
    induction count with
    | zero => simp
    | succ count ih =>
      rw [List.replicate_succ, String.join_cons, String.utf8ByteSize_append, ih,
        Nat.succ_mul, Nat.add_comm]
  have hslash : "/".utf8ByteSize = 1 := by decide
  have hpath : deepDisk.directoryPath =
      String.join (List.replicate 16 ("/" ++ lengthyName 254)) := by
    simp [FileTree.directoryPath, deepDisk, deepNames]
  rw [hpath, hjoin, String.utf8ByteSize_append, utf8ByteSize_lengthyName, hslash]

theorem deepDisk_resolvable : deepDisk.Resolvable := by
  have hletters {c : Char} (hc : c ≠ 'a') :
      ∀ name ∈ deepDisk.directory, c ∉ name.toList := by
    intro name hname hmember
    obtain rfl := List.eq_of_mem_replicate hname
    rw [lengthyName, String.toList_ofList] at hmember
    exact hc (List.eq_of_mem_replicate hmember)
  obtain ⟨above, hwalk⟩ := deepDisk_walk
  apply FileTree.resolvable_of_walk (hletters (by decide)) (hletters (by decide)) _ hwalk
  rw [utf8ByteSize_deepDisk]
  decide

/-- The document that a family of the built-in configuration asks for first. -/
def sealing : EvidenceDocument :=
  ⟨"controls/TAMPER_SEALING_VERIFICATION_V1.md",
    ["Status: PASS", "seal_chain_verified: true"]⟩

theorem deepDisk_load_point :
    (Workspace.mk "." deepDisk.access).source.load sealing.path = .ok none := by
  obtain ⟨above, hwalk⟩ := deepDisk_walk
  have hlocate : deepDisk.locate (Workspace.join "." sealing.path) = .error .notFound := by
    rw [Workspace.locate_join (FileTree.rootPlace_point hwalk) (by decide) (by decide)
      (by decide) (by decide)]
    rfl
  exact (Workspace.load_of_obstructed (FileTree.locate_eq_error_iff.mp hlocate)).1

theorem deepDisk_load_absolute :
    (Workspace.mk deepDisk.directoryPath deepDisk.access).source.load sealing.path =
      .error (.io sealing.path .nameTooLong) := by
  have hlong : Place.maxPath <
      deepDisk.directoryPath.utf8ByteSize + sealing.path.utf8ByteSize := by
    rw [utf8ByteSize_deepDisk]
    decide
  exact (Workspace.load_of_obstructed (Workspace.obstructed_by_length deepDisk_resolvable
    (by decide) (by decide) hlong)).1

/-- In a directory whose absolute path is within the limit and leaves no room behind it
the programs part: a document that is not there is missing for the one, and the other
cannot look for it. -/
theorem deep_directory_tells_programs_apart :
    deepDisk.Resolvable ∧ deepDisk.directoryPath.utf8ByteSize ≤ Place.maxPath ∧
      ("validate-sprint5-controls", .evidence "sprint5") ∈ standalonePrograms ∧
      (program "validate-sprint5-controls" (.ofTree deepDisk) []).stderr =
        "missing required control artifact: " ++ sealing.path ++ "\n" ∧
      (program programName (.ofTree deepDisk) ["evidence", "sprint5"]).stderr =
        "I/O error reading " ++ sealing.path ++ ": File name too long (os error 36)\n" ∧
      program "validate-sprint5-controls" (.ofTree deepDisk) [] ≠
        program programName (.ofTree deepDisk) ["evidence", "sprint5"] := by
  have hserved : ("validate-sprint5-controls", Gate.evidence "sprint5") ∈
      standalonePrograms := by decide
  have hfamily : Config.builtIn.family "sprint5" = .ok _ := rfl
  have halone := program_standalone hserved deepDisk []
  rw [Gate.run_of_first_trouble hfamily rfl (.absent deepDisk_load_point)] at halone
  have hasked : program programName (.ofTree deepDisk) ["evidence", "sprint5"] = _ :=
    program_subcommand hserved deepDisk
  rw [Gate.run_of_first_trouble hfamily rfl
    (.unreadable deepDisk_load_absolute)] at hasked
  rw [halone, hasked]
  exact ⟨deepDisk_resolvable, utf8ByteSize_deepDisk.trans_le (by decide), hserved, rfl,
    by decide, by decide⟩

end Command

end Compliance
