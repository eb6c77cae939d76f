import Compliance.Proofs.MemoryContents
import Compliance.Proofs.SourceAgreement

/-!
How far a change of one document reaches. Sources that differ in the content at one path
only are told apart by the gates that name the path and by no other. The freeze gate
names none, so whether the others are skipped does not change either.
-/

namespace Compliance

/-- Two sources answer alike, except for what is read at one path. -/
structure Source.AlikeExcept (path : String) (first second : Source) : Prop where
  has : ∀ other, first.has other = second.has other
  read : ∀ other, other ≠ path → first.read other = second.read other

theorem MemorySource.alikeExcept_insert {memory : MemorySource} {path old : String}
    (hold : memory.content? path = some old) (content : String) :
    Source.AlikeExcept path (memory.insert path content).source memory.source where
  has other := congrFun (has_insert_of_content? hold) other
  read _ hother := read_insert_of_ne hother

variable {config : Config} {path : String} {first second : Source}

theorem Gate.run_of_not_names (h : Source.AlikeExcept path first second) {gate : Gate}
    (hnames : ¬gate.Names config path) :
    gate.run first config = gate.run second config := by
  apply run_eq_of_named
  · intro required _
    exact h.has required
  · intro named hnamed
    apply h.read
    rintro rfl
    exact hnames hnamed

namespace Pipeline

/-- What the outcomes of one gate have in common when a path is read differently. -/
structure Unaffected (config : Config) (path : String) (ran other : Gate × Outcome) :
    Prop where
  gate : ran.1 = other.1
  skipped : ran.2 = .skipped ↔ other.2 = .skipped
  outcome : ¬ran.1.Names config path → ran.2 = other.2

theorem unaffected_ran (h : Source.AlikeExcept path first second) (gate : Gate) :
    Unaffected config path (gate, .ran (gate.run first config))
      (gate, .ran (gate.run second config)) where
  gate := rfl
  skipped := by simp
  outcome hnames := congrArg Outcome.ran (Gate.run_of_not_names h hnames)

theorem unaffected_skipped (gate : Gate) :
    Unaffected config path (gate, .skipped) (gate, .skipped) where
  gate := rfl
  skipped := Iff.rfl
  outcome _ := rfl

theorem freeze_run_eq (h : Source.AlikeExcept path first second) :
    Freeze.run first config.freeze = Freeze.run second config.freeze :=
  Gate.run_of_not_names h (show ¬Gate.freeze.Names config path from id)

/-- Outcome by outcome, only gates that name the path are affected. -/
theorem run_unaffected (h : Source.AlikeExcept path first second) :
    List.Forall₂ (Unaffected config path) (run first config) (run second config) := by
  have hfreeze : Freeze.run first config.freeze = Freeze.run second config.freeze :=
    freeze_run_eq h
  by_cases hpasses : Passes (Freeze.run second config.freeze)
  · rw [run_of_passes second config hpasses,
      run_of_passes first config (hfreeze ▸ hpasses)]
    rw [List.forall₂_map_left_iff, List.forall₂_map_right_iff]
    exact List.forall₂_same.mpr fun gate _ => unaffected_ran h gate
  · rw [run_of_not_passes second config hpasses,
      run_of_not_passes first config (hfreeze ▸ hpasses)]
    refine .cons (unaffected_ran h .freeze) ?_
    rw [List.forall₂_map_left_iff, List.forall₂_map_right_iff]
    exact List.forall₂_same.mpr fun gate _ => unaffected_skipped gate

/-- A new content at a path that is in use. The freeze gate comes to the same outcome,
the same gates are skipped, and every gate that does not name the path has the outcome
that it had, with all that it recorded. -/
theorem run_after_content_change (config : Config) {memory : MemorySource}
    {path old : String} (hold : memory.content? path = some old) (content : String) :
    let before := run memory.source config
    let after := run (memory.insert path content).source config
    (∃ outcome, before.head? = some (.freeze, outcome) ∧
        after.head? = some (.freeze, outcome)) ∧
      List.Forall₂ (Unaffected config path) after before := by
  intro before after
  have halike := MemorySource.alikeExcept_insert hold content
  refine ⟨⟨.ran (Freeze.run memory.source config.freeze), ?_, ?_⟩, run_unaffected halike⟩
  · simp only [before, run_eq, List.head?_cons]
  · simp only [after, run_eq, List.head?_cons, freeze_run_eq halike]

/-- Controls and a ledger without decisions. -/
def signedCorpus : MemorySource :=
  .ofList [("controls.md", "reviewed, signed off"), ("ledger.json", "{}")]

/-- When the ledger is broken, the approval gate fails, and nothing else changes: it is
the only gate that names the ledger. -/
theorem run_after_ledger_change :
    let before := run signedCorpus.source twoFamilies
    let after := run (signedCorpus.insert "ledger.json" "[]").source twoFamilies
    signedCorpus.content? "ledger.json" = some "{}" ∧
      List.Forall₂ (Unaffected twoFamilies "ledger.json") after before ∧
      (∀ gate ∈ twoFamilies.gates,
        gate.Names twoFamilies "ledger.json" ↔ gate = .approvals) ∧
      before[1]?.map (·.2.passed) = some true ∧
      after[1]?.map (·.2.passed) = some false := by
  have hold : signedCorpus.content? "ledger.json" = some "{}" := by decide
  obtain ⟨_, hunaffected⟩ := run_after_content_change twoFamilies hold "[]"
  exact ⟨hold, hunaffected, by decide, by decide +kernel, by decide +kernel⟩

end Pipeline

end Compliance
