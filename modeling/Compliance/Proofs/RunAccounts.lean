import Compliance.Command.Run
import Compliance.Proofs.OutcomeRecords
import Compliance.Proofs.PipelineRuns
import Compliance.Proofs.ReportNames

/-!
What a run of every gate prints. In JSON each gate has one line, which is read
back to the name of the gate and its verdict, and the last line counts these
lines. In text the same counts stand behind what the gates print themselves, and
failing gates are named once more at the end.
-/

namespace Compliance

namespace Output

theorem unlines_append (lines behind : List String) :
    unlines (lines ++ behind) = unlines lines ++ unlines behind := by
  simp [unlines, String.join_append]

theorem failureSummary_eq (names : List String) (shown : Nat) :
    failureSummary names shown =
      ", ".intercalate (names.take shown) ++
        if shown < names.length then
          " (+" ++ toString (names.length - shown) ++ " more)"
        else "" := by
  unfold failureSummary
  split
  · next h => simp [Nat.not_lt.mpr (Nat.sub_eq_zero_iff_le.mp h)]
  · next h =>
    have hmore : shown < names.length := Nat.lt_of_sub_ne_zero h
    simp [hmore, String.append_assoc]

end Output

namespace Command

/-- What a line of a run says of one gate. -/
structure GateLine where
  gate : String
  passed : Bool
  skipped : Bool
  deriving DecidableEq

namespace GateLine

/-- Only the line of a gate that did not run says that it was skipped. -/
def ofJson? (value : Json) : Option GateLine := do
  return ⟨← value.textMember? "gate", ← value.booleanMember? "passed",
    (value.booleanMember? "skipped").getD false⟩

def ofOutcome (ran : Gate × Outcome) : GateLine :=
  ⟨ran.1.name, ran.2.passed, ran.2.isSkipped⟩

/-- The gate failed without being skipped. -/
def failed (line : GateLine) : Bool := !line.passed && !line.skipped

end GateLine

/-- How many gates passed, failed and were skipped. -/
structure Counts where
  passed : Nat
  failed : Nat
  skipped : Nat
  deriving DecidableEq

namespace Counts

def ofLines (lines : List GateLine) : Counts :=
  ⟨lines.countP GateLine.passed, lines.countP GateLine.failed,
    lines.countP GateLine.skipped⟩

def countMember? (value : Json) (key : String) : Option Nat :=
  match value.member? key with
  | some (.number (.integer count)) => some count.toNat
  | _ => none

/-- The counts in the last line of a run. -/
def ofJson? (value : Json) : Option Counts := do
  let summary ← value.member? "summary"
  return ⟨← countMember? summary "passed", ← countMember? summary "failed",
    ← countMember? summary "skipped"⟩

end Counts

/-- The object that is printed for one gate of a run. -/
def outcomeJson : Gate × Outcome → Json
  | (gate, .ran result) => Output.resultJson gate.name result
  | (gate, .skipped) =>
    .ofMembers
      [("gate", .string gate.name), ("passed", .boolean false),
       ("skipped", .boolean true)]

theorem stdout_emitOutcome_json (ran : Gate × Outcome) :
    (emitOutcome .json ran.1 ran.2).stdout = Output.unlines [(outcomeJson ran).text] := by
  obtain ⟨gate, outcome⟩ := ran
  cases outcome with
  | ran result => exact Output.stdout_emit_json gate.name result
  | skipped => rfl

theorem read_outcomeJson (ran : Gate × Outcome) :
    Json.read (outcomeJson ran).text = .ok (outcomeJson ran) := by
  obtain ⟨gate, outcome⟩ := ran
  cases outcome with
  | ran result => exact Output.read_resultJson gate.name result
  | skipped =>
    apply Json.read_text
    apply Json.readable_ofMembers
    simp [Json.Readable.string, Json.Readable.boolean]

theorem isObject_outcomeJson (ran : Gate × Outcome) :
    (outcomeJson ran).isObject = true := by
  obtain ⟨gate, result | _⟩ := ran
  · cases result <;> rfl
  · rfl

/-- The line of a gate gives its name and its verdict back, for every outcome
that the gate itself can come to. -/
theorem ofJson?_outcomeJson {source : Source} {config : Config} {ran : Gate × Outcome}
    (h : ran.2 = .skipped ∨ ran.2 = .ran (ran.1.run source config)) :
    GateLine.ofJson? (outcomeJson ran) = some (.ofOutcome ran) := by
  obtain ⟨gate, outcome⟩ := ran
  rcases h with hskipped | hran
  · simp only at hskipped
    subst hskipped
    simp [GateLine.ofJson?, outcomeJson, Json.textMember?, Json.booleanMember?,
      Json.member?_ofMembers, lookup_cons_eq, Json.string?, GateLine.ofOutcome,
      Outcome.passed, Outcome.isSkipped]
  · simp only at hran
    subst hran
    cases hresult : gate.run source config with
    | error failure =>
      simp [GateLine.ofJson?, outcomeJson, Output.resultJson, Output.errorJson,
        Json.textMember?, Json.booleanMember?, Json.member?_ofMembers,
        lookup_cons_eq, Json.string?, GateLine.ofOutcome, Outcome.passed,
        Outcome.isSkipped]
    | ok made =>
      simp [GateLine.ofJson?, outcomeJson, Output.resultJson, Report.json,
        Json.textMember?, Json.booleanMember?, Json.member?_ofMembers,
        lookup_cons_eq, Json.string?, GateLine.ofOutcome, Outcome.passed,
        Outcome.isSkipped, Gate.gate_of_run hresult]

/-- What a tally gathers from further outcomes. -/
theorem foldl_add_eq (outcomes : List (Gate × Outcome)) (tally : Tally) :
    outcomes.foldl (fun tally (gate, outcome) => tally.add gate outcome) tally =
      let lines := outcomes.map GateLine.ofOutcome
      ⟨tally.passed + lines.countP GateLine.passed,
        tally.failures ++ (lines.filter GateLine.failed).map GateLine.gate,
        tally.skipped + lines.countP GateLine.skipped⟩ := by
  induction outcomes generalizing tally with
  | nil => simp
  | cons ran rest ih =>
    obtain ⟨gate, outcome⟩ := ran
    rw [List.foldl_cons, ih]
    cases outcome with
    | skipped =>
      simp [Tally.add, GateLine.ofOutcome, GateLine.failed, Outcome.passed,
        Outcome.isSkipped]
      omega
    | ran result =>
      cases hpassed : (Outcome.ran result).passed with
      | true =>
        simp [Tally.add, GateLine.ofOutcome, GateLine.failed, hpassed,
          Outcome.isSkipped]
        omega
      | false =>
        simp [Tally.add, GateLine.ofOutcome, GateLine.failed, hpassed,
          Outcome.isSkipped]

theorem ofOutcomes_eq (outcomes : List (Gate × Outcome)) :
    Tally.ofOutcomes outcomes =
      let lines := outcomes.map GateLine.ofOutcome
      ⟨lines.countP GateLine.passed, (lines.filter GateLine.failed).map GateLine.gate,
        lines.countP GateLine.skipped⟩ := by
  rw [Tally.ofOutcomes, foldl_add_eq]
  simp

theorem failed_ofOutcomes (outcomes : List (Gate × Outcome)) :
    (Tally.ofOutcomes outcomes).failed =
      (outcomes.map GateLine.ofOutcome).countP GateLine.failed := by
  simp [ofOutcomes_eq, Tally.failed, List.countP_eq_length_filter]

/-- No gate both passes and is skipped, so every line counts once. -/
theorem counts_sum (outcomes : List (Gate × Outcome)) :
    let counts := Counts.ofLines (outcomes.map GateLine.ofOutcome)
    counts.passed + counts.failed + counts.skipped = outcomes.length := by
  induction outcomes with
  | nil => rfl
  | cons ran rest ih =>
    obtain ⟨gate, outcome⟩ := ran
    simp only [Counts.ofLines, List.map_cons, List.countP_cons,
      List.length_cons] at ih ⊢
    cases outcome with
    | skipped =>
      simp only [GateLine.ofOutcome, GateLine.failed, Outcome.passed,
        Outcome.isSkipped, Bool.not_false, Bool.not_true, Bool.and_false,
        Bool.false_eq_true, if_true, if_false]
      omega
    | ran result =>
      cases hpassed : (Outcome.ran result).passed <;>
        simp only [GateLine.ofOutcome, GateLine.failed, hpassed, Outcome.isSkipped,
          Bool.not_false, Bool.not_true, Bool.and_true, Bool.false_eq_true, if_true,
          if_false] <;>
        omega

/-- Either no gate is skipped, or all are but the freeze gate, which failed. -/
theorem counts_run (source : Source) (config : Config) :
    let counts := Counts.ofLines ((Pipeline.run source config).map GateLine.ofOutcome)
    counts.skipped = 0 ∨
      counts.skipped = config.gates.length - 1 ∧ counts.failed = 1 ∧
        counts.passed = 0 := by
  by_cases h : Passes (Freeze.run source config.freeze)
  · left
    rw [Pipeline.run_of_passes source config h]
    simp [Counts.ofLines, GateLine.ofOutcome, Outcome.isSkipped]
  · right
    have hfailed :
        (Outcome.ran (Freeze.run source config.freeze)).passed = false := by
      simpa using mt Pipeline.passed_ran_iff.mp h
    rw [Pipeline.run_of_not_passes source config h, ← List.length_tail]
    generalize config.gates.tail = skipped
    have hskipped : ((skipped.map fun gate => (gate, Outcome.skipped)).map
        GateLine.ofOutcome) = skipped.map fun gate => ⟨gate.name, false, true⟩ := by
      rw [List.map_map]
      rfl
    rw [List.map_cons, hskipped]
    simp [Counts.ofLines, GateLine.ofOutcome, GateLine.failed, hfailed,
      Outcome.isSkipped]

theorem readable_tally {tally : Tally} (hpassed : tally.passed ≤ Json.maxSignificand)
    (hfailed : tally.failed ≤ Json.maxSignificand)
    (hskipped : tally.skipped ≤ Json.maxSignificand) :
    Json.Readable Json.maxDepth tally.json := by
  have hsummary : Json.Readable 126 (.ofMembers
      [("passed", .number (.integer tally.passed)),
       ("failed", .number (.integer tally.failed)),
       ("skipped", .number (.integer tally.skipped))]) := by
    apply Json.readable_ofMembers
    simp [Json.Readable.natural, hpassed, hfailed, hskipped]
  apply Json.readable_ofMembers
  simpa using hsummary

/-- The last line of a run gives its counts back. -/
theorem ofJson?_tally (tally : Tally) :
    Counts.ofJson? tally.json = some ⟨tally.passed, tally.failed, tally.skipped⟩ := by
  simp [Counts.ofJson?, Counts.countMember?, Tally.json, Json.member?_ofMembers,
    lookup_cons_eq]

theorem counts_ofOutcomes (outcomes : List (Gate × Outcome)) :
    let tally := Tally.ofOutcomes outcomes
    Counts.ofLines (outcomes.map GateLine.ofOutcome) =
      ⟨tally.passed, tally.failed, tally.skipped⟩ := by
  simp only [failed_ofOutcomes]
  simp only [ofOutcomes_eq, Counts.ofLines]

/-- Counters of 32 bits hold the counts of a run of less than 2^32 gates. -/
theorem counts_fit_words (source : Source) {config : Config}
    (h : config.gates.length < UInt32.size) :
    let tally := Tally.ofOutcomes (Pipeline.run source config)
    (UInt32.ofNat tally.passed).toNat = tally.passed ∧
      (UInt32.ofNat tally.failed).toNat = tally.failed ∧
      (UInt32.ofNat tally.skipped).toNat = tally.skipped := by
  intro tally
  have hsum : tally.passed + tally.failed + tally.skipped = config.gates.length := by
    have hcounts := counts_sum (Pipeline.run source config)
    rw [counts_ofOutcomes] at hcounts
    rw [← Pipeline.map_fst_run source config, List.length_map]
    exact hcounts
  refine ⟨?_, ?_, ?_⟩
  all_goals
    apply UInt32.toNat_ofNat_of_lt'
    omega

theorem textLines_eq (tally : Tally) :
    tally.textLines =
      ("gates: passed=" ++ toString tally.passed ++ " failed=" ++
          toString tally.failed ++ " skipped=" ++ toString tally.skipped) ::
        if tally.failed = 0 then []
        else
          ["gates: failures " ++ toString tally.failed ++ ": " ++
            ", ".intercalate (tally.failures.take 3) ++
            if 3 < tally.failed then
              " (+" ++ toString (tally.failed - 3) ++ " more)"
            else ""] := by
  unfold Tally.textLines
  rw [Output.failureSummary_eq]
  simp only [List.isEmpty_iff, Tally.failed, List.length_eq_zero_iff,
    Tally.shownFailures, String.append_assoc]

theorem join_stdout_json (outcomes : List (Gate × Outcome)) :
    String.join ((outcomes.map fun (gate, outcome) => emitOutcome .json gate outcome).map
        Emission.stdout) =
      Output.unlines (outcomes.map fun ran => (outcomeJson ran).text) := by
  induction outcomes with
  | nil => rfl
  | cons ran rest ih =>
    have hfirst := Output.unlines_append [(outcomeJson ran).text]
      (rest.map fun ran => (outcomeJson ran).text)
    rw [List.map_cons, List.map_cons, String.join_cons, ih, stdout_emitOutcome_json]
    exact hfirst.symm

/-- In JSON a run prints a line for each gate and one more. -/
theorem prints_emitAll_json (outcomes : List (Gate × Outcome)) :
    Output.Prints (emitAll .json outcomes).stdout
      ((outcomes.map fun ran => (outcomeJson ran).text) ++
        [(Tally.ofOutcomes outcomes).json.text]) := by
  constructor
  · rw [Output.unlines_append, ← join_stdout_json]
    rfl
  · intro line hm
    rcases List.mem_append.mp hm with hm | hm
    · obtain ⟨ran, _, rfl⟩ := List.mem_map.mp hm
      exact Json.lineFeed_not_mem_text _
    · rw [List.mem_singleton.mp hm]
      exact Json.lineFeed_not_mem_text _

theorem stdout_emitAll_text (outcomes : List (Gate × Outcome)) :
    (emitAll .text outcomes).stdout =
      String.join (outcomes.map fun ran => (emitOutcome .text ran.1 ran.2).stdout) ++
        Output.unlines (Tally.ofOutcomes outcomes).textLines := by
  simp only [emitAll, List.map_map]
  rfl

/-- A run of every gate accounts for each of them once. In JSON it is one line
for each gate, in order, and a last one that counts them; in text the counts
follow what the gates print, and a closing line names the first failures. The line
of counts is read back as long as they fit the integers that the reader keeps. -/
theorem perform_all_accounts (source : Source) {config : Config}
    (h : config.validate = .ok ()) :
    let told := (Pipeline.run source config).map GateLine.ofOutcome
    let counts := Counts.ofLines told
    let failing := (told.filter GateLine.failed).map GateLine.gate
    told.map GateLine.gate = config.gates.map Gate.name ∧
      (told.map GateLine.gate).Nodup ∧
      (∀ line ∈ told, line.skipped = true → line.passed = false) ∧
      failing.length = counts.failed ∧
      counts.passed + counts.failed + counts.skipped = config.gates.length ∧
      (counts.skipped = 0 ∨ counts.skipped = config.gates.length - 1) ∧
      (counts.skipped = config.gates.length - 1 →
        counts.failed = 1 ∧ counts.passed = 0) ∧
      (∃ lines summary,
        Output.Prints (perform source config .json .all).stdout (lines ++ [summary]) ∧
          lines.length = config.gates.length ∧
          (∀ (i : Nat) (line : String), lines[i]? = some line →
            ∃ value, Json.read line = .ok value ∧ value.isObject = true ∧
              told[i]? = GateLine.ofJson? value ∧ (told[i]?).isSome) ∧
          ∃ value, summary = value.text ∧ value.isObject = true ∧
            Counts.ofJson? value = some counts ∧
            (config.gates.length ≤ Json.maxSignificand →
              Json.read summary = .ok value)) ∧
      (perform source config .text .all).stdout =
        String.join ((Pipeline.run source config).map fun ran =>
            (emitOutcome .text ran.1 ran.2).stdout) ++
          Output.unlines
            (("gates: passed=" ++ toString counts.passed ++ " failed=" ++
                toString counts.failed ++ " skipped=" ++ toString counts.skipped) ::
              if counts.failed = 0 then []
              else
                ["gates: failures " ++ toString counts.failed ++ ": " ++
                  ", ".intercalate (failing.take 3) ++
                  if 3 < counts.failed then
                    " (+" ++ toString (counts.failed - 3) ++ " more)"
                  else ""]) := by
  intro told counts failing
  have hran : (Pipeline.run source config).map Prod.fst = config.gates :=
    Pipeline.map_fst_run source config
  have hcount : (Pipeline.run source config).length = config.gates.length := by
    rw [← hran, List.length_map]
  have hnames : told.map GateLine.gate = config.gates.map Gate.name := by
    rw [← hran, List.map_map, List.map_map]
    rfl
  have hsum : counts.passed + counts.failed + counts.skipped = config.gates.length := by
    rw [← hcount]
    exact counts_sum _
  have hskips : counts.skipped = 0 ∨ counts.skipped = config.gates.length - 1 ∧
      counts.failed = 1 ∧ counts.passed = 0 := counts_run source config
  have hgates : 3 ≤ config.gates.length := by simp [Config.gates]
  let tally := Tally.ofOutcomes (Pipeline.run source config)
  have htally : counts = ⟨tally.passed, tally.failed, tally.skipped⟩ := counts_ofOutcomes _
  have hfailures : tally.failures = failing := by
    rw [show tally = _ from ofOutcomes_eq _]
  refine ⟨hnames, ?_, ?_, ?_, hsum, ?_, ?_, ?_, ?_⟩
  · rw [hnames]
    exact (Config.gates_nodup h).map Gate.name_injective
  · intro line hm hskipped
    obtain ⟨⟨gate, outcome⟩, _, rfl⟩ := List.mem_map.mp hm
    cases outcome with
    | ran result => cases hskipped
    | skipped => rfl
  · rw [List.length_map, ← List.countP_eq_length_filter]
    rfl
  · exact hskips.imp_right And.left
  · intro hall
    rcases hskips with hnone | ⟨_, hrest⟩
    · omega
    · exact hrest
  · refine ⟨(Pipeline.run source config).map fun ran => (outcomeJson ran).text,
      tally.json.text, prints_emitAll_json _, ?_, ?_, tally.json, rfl, rfl, ?_, ?_⟩
    · rw [List.length_map, hcount]
    · intro i line hline
      rw [List.getElem?_map, Option.map_eq_some_iff] at hline
      obtain ⟨ran, hi, rfl⟩ := hline
      have htold : told[i]? = some (.ofOutcome ran) := by
        rw [List.getElem?_map, hi, Option.map_some]
      refine ⟨outcomeJson ran, read_outcomeJson ran, isObject_outcomeJson ran, ?_, ?_⟩
      · rw [htold, ofJson?_outcomeJson (Pipeline.outcome_of_mem_run (List.mem_of_getElem? hi))]
      · rw [htold]
        rfl
    · rw [htally]
      exact ofJson?_tally tally
    · intro hfits
      rw [htally] at hsum
      simp only at hsum
      exact Json.read_text (readable_tally (by omega) (by omega) (by omega))
  · rw [htally, ← hfailures, ← textLines_eq tally]
    exact stdout_emitAll_text (Pipeline.run source config)

/-- Every path is there and every document is empty. -/
def blankSource : Source := ⟨fun _ => true, fun _ => .ok (some "")⟩

theorem accounts_of_four_failures :
    Pipeline.twoFamilies.validate = .ok () ∧
      (perform blankSource Pipeline.twoFamilies .text .all).stdout =
        "contract freeze check passed\n" ++
          "gates: passed=1 failed=4 skipped=0\n" ++
          "gates: failures 4: approvals, schema, evidence.access (+1 more)\n" ∧
      ∃ lines summary,
        Output.Prints (perform blankSource Pipeline.twoFamilies .json .all).stdout
            (lines ++ [summary]) ∧
          lines.length = 5 ∧
          ∃ value, Json.read summary = .ok value ∧
            Counts.ofJson? value = some ⟨1, 4, 0⟩ := by
  have haccepted : Pipeline.twoFamilies.validate = .ok () := by decide
  have hran : (Pipeline.run blankSource Pipeline.twoFamilies).map GateLine.ofOutcome =
      [⟨"freeze", true, false⟩, ⟨"approvals", false, false⟩, ⟨"schema", false, false⟩,
       ⟨"evidence.access", false, false⟩, ⟨"evidence.release", false, false⟩] := by
    rfl
  obtain ⟨_, _, _, _, _, _, _, ⟨lines, summary, hprints, hlength, _, value, _, _,
    hcounts, hread⟩, htext⟩ := perform_all_accounts blankSource haccepted
  have hown : String.join ((Pipeline.run blankSource Pipeline.twoFamilies).map fun ran =>
      (emitOutcome .text ran.1 ran.2).stdout) = "contract freeze check passed\n" := by
    rfl
  refine ⟨haccepted, ?_, lines, summary, hprints, hlength, value, ?_, ?_⟩
  · rw [htext, hran, hown]
    rfl
  · exact hread (by decide)
  · rw [hcounts, hran]
    rfl

end Command

end Compliance
