import Compliance.Proofs.MemoryContents
import Mathlib.Data.List.DropRight

/-!
What a corpus in memory answers after any history of changes. A document is there if it
was inserted and nothing happened at its path since; every answer depends on the
documents that are there and on nothing else. So a directory is there as long as some
document below it is, and changes at different paths can be made in either order.
-/

namespace Compliance.MemorySource

/-- A change of a corpus. -/
inductive Edit where
  | insert (path content : String)
  | remove (path : String)
  deriving DecidableEq

def Edit.path : Edit → String
  | insert path _ => path
  | remove path => path

/-- The content that a change leaves at its path. -/
def Edit.content? : Edit → Option String
  | insert _ content => some content
  | remove _ => none

def apply (memory : MemorySource) : Edit → MemorySource
  | .insert path content => memory.insert path content
  | .remove path => (memory.remove path).2

/-- The corpus after changes that are made one after the other. -/
def after (memory : MemorySource) (edits : List Edit) : MemorySource :=
  edits.foldl apply memory

/-- A history leaves a document with this content at a path: it was inserted there, and
nothing was inserted at the path or removed from it since. -/
def Live (history : List Edit) (path content : String) : Prop :=
  ∃ before since, history = before ++ .insert path content :: since ∧
    ∀ edit ∈ since, edit.path ≠ path

/-- A path is that of a document, or of a directory that the document is below. Slashes at
the end of the path do not matter to the directory. -/
def AtOrBelow (path stored : String) : Prop :=
  stored = path ∨ path.toList.rdropWhile (· = '/') ++ ['/'] <+: stored.toList

/-! ## Contents -/

section Contents

variable {memory : MemorySource} {history : List Edit} {edit : Edit}
  {path content : String}

theorem content?_apply_self : (memory.apply edit).content? edit.path = edit.content? := by
  cases edit with
  | insert path content => exact content?_insert_self memory path content
  | remove path => exact content?_erase_self memory path

theorem content?_apply_of_ne (h : edit.path ≠ path) :
    (memory.apply edit).content? path = memory.content? path := by
  cases edit with
  | insert other content => exact content?_insert_of_ne memory content h.symm
  | remove other => exact content?_erase_of_ne memory h.symm

theorem after_concat :
    memory.after (history ++ [edit]) = (memory.after history).apply edit := by
  rw [after, List.foldl_append]
  rfl

theorem not_live_nil : ¬Live [] path content := by
  rintro ⟨before, since, hnil, _⟩
  simp at hnil

/-- The last change decides about its own path, and about no other. -/
theorem live_concat_iff :
    Live (history ++ [edit]) path content ↔
      edit = .insert path content ∨ edit.path ≠ path ∧ Live history path content := by
  constructor
  · rintro ⟨before, since, hsplit, hsince⟩
    -- The last change is the insertion itself, or it is the last of those since.
    rcases List.eq_nil_or_concat since with rfl | ⟨earlier, last, rfl⟩
    · obtain ⟨_, hlast⟩ := List.append_inj' hsplit rfl
      exact .inl (List.singleton_inj.mp hlast)
    · rw [List.concat_eq_append, ← List.cons_append, ← List.append_assoc] at hsplit
      obtain ⟨hhistory, hlast⟩ := List.append_inj' hsplit rfl
      cases List.singleton_inj.mp hlast
      refine .inr ⟨hsince edit (by simp), before, earlier, hhistory, ?_⟩
      intro other hother
      exact hsince other (by simp [hother])
  · rintro (rfl | ⟨hpath, before, since, rfl, hsince⟩)
    · exact ⟨history, [], rfl, by simp⟩
    · refine ⟨before, since ++ [edit], by simp, ?_⟩
      intro other hother
      rcases List.mem_append.mp hother with hearlier | hlast
      · exact hsince other hearlier
      · exact List.mem_singleton.mp hlast ▸ hpath

/-- A corpus that was empty holds what its history leaves. -/
theorem content?_after_iff :
    (empty.after history).content? path = some content ↔ Live history path content := by
  induction history using List.reverseRecOn with
  | nil => simp [after, empty, MemorySource.content?, not_live_nil]
  | append_singleton history edit ih =>
    rw [after_concat, live_concat_iff]
    by_cases hpath : edit.path = path
    · subst hpath
      rw [content?_apply_self]
      cases edit <;> simp [Edit.content?, Edit.path]
    · have hedit : edit ≠ .insert path content := by
        rintro rfl
        exact hpath rfl
      simp [content?_apply_of_ne hpath, ih, hpath, hedit]

theorem has_iff_atOrBelow :
    memory.has path = true ↔
      ∃ stored content, memory.content? stored = some content ∧ AtOrBelow path stored := by
  rw [has_iff_content?]
  rfl

end Contents

/-! ## Answers -/

/-- What a change hands out: a removal, the content that it takes away. -/
def handsOut (memory : MemorySource) : Edit → Option String
  | .insert _ _ => none
  | .remove path => (memory.remove path).1

/-- What a caller does with a corpus: change it, or ask it something. -/
inductive Operation where
  | change (edit : Edit)
  | has (path : String)
  | load (path : String)
  deriving DecidableEq

inductive Answer where
  | changed (handedOut : Option String)
  | has (there : Bool)
  | loaded (result : Except GateError (Option Document))

/-- What an operation answers, and the corpus that it leaves. -/
def perform (memory : MemorySource) : Operation → Answer × MemorySource
  | .change edit => (.changed (memory.handsOut edit), memory.apply edit)
  | .has path => (.has (memory.has path), memory)
  | .load path => (.loaded (memory.source.load path), memory)

/-- The answers to operations, each on the corpus that those before it leave. -/
def answers (memory : MemorySource) : List Operation → List Answer
  | [] => []
  | operation :: later =>
    (memory.perform operation).1 :: (memory.perform operation).2.answers later

/-- Two corpora hold the same documents. The order in which they keep them is not seen. -/
def SameContents (first second : MemorySource) : Prop :=
  ∀ path, first.content? path = second.content? path

section Answers

variable {first second memory : MemorySource} {one other : Edit}

theorem SameContents.apply (h : SameContents first second) (edit : Edit) :
    SameContents (first.apply edit) (second.apply edit) := by
  intro path
  by_cases hpath : edit.path = path
  · subst hpath
    rw [content?_apply_self, content?_apply_self]
  · rw [content?_apply_of_ne hpath, content?_apply_of_ne hpath, h path]

theorem SameContents.handsOut_eq (h : SameContents first second) (edit : Edit) :
    first.handsOut edit = second.handsOut edit := by
  cases edit with
  | insert path content => rfl
  | remove path => exact h path

theorem SameContents.has_eq (h : SameContents first second) (path : String) :
    first.has path = second.has path := by
  rw [Bool.eq_iff_iff, has_iff_content?, has_iff_content?]
  simp only [h _]

/-- Corpora that hold the same documents answer an operation alike, and hold the same
documents after it. -/
theorem SameContents.perform (h : SameContents first second) (operation : Operation) :
    (first.perform operation).1 = (second.perform operation).1 ∧
      SameContents (first.perform operation).2 (second.perform operation).2 := by
  cases operation with
  | change edit => exact ⟨congrArg Answer.changed (h.handsOut_eq edit), h.apply edit⟩
  | has path => exact ⟨congrArg Answer.has (h.has_eq path), h⟩
  | load path =>
    refine ⟨congrArg Answer.loaded ?_, h⟩
    rw [load_source, load_source, h path]

theorem SameContents.answers_eq (h : SameContents first second)
    (operations : List Operation) :
    first.answers operations = second.answers operations := by
  induction operations generalizing first second with
  | nil => rfl
  | cons operation later ih =>
    obtain ⟨hanswer, hafter⟩ := h.perform operation
    rw [answers, answers, hanswer, ih hafter]

theorem sameContents_apply_apply (h : one.path ≠ other.path) :
    SameContents ((memory.apply one).apply other) ((memory.apply other).apply one) := by
  intro path
  by_cases hone : one.path = path
  · subst hone
    rw [content?_apply_of_ne h.symm, content?_apply_self, content?_apply_self]
  by_cases hother : other.path = path
  · subst hother
    rw [content?_apply_self, content?_apply_of_ne h, content?_apply_self]
  · rw [content?_apply_of_ne hother, content?_apply_of_ne hone,
      content?_apply_of_ne hone, content?_apply_of_ne hother]

theorem handsOut_apply (h : one.path ≠ other.path) :
    (memory.apply one).handsOut other = memory.handsOut other := by
  cases other with
  | insert path content => rfl
  | remove path => exact content?_apply_of_ne h

/-- Changes at different paths answer the same in either order, and so does all that is
done later. -/
theorem answers_swap (h : one.path ≠ other.path) (later : List Operation) :
    ∃ first second rest,
      memory.answers (.change one :: .change other :: later) = first :: second :: rest ∧
        memory.answers (.change other :: .change one :: later) =
          second :: first :: rest := by
  refine ⟨_, _, _, rfl, ?_⟩
  simp only [answers, perform, handsOut_apply h, handsOut_apply h.symm,
    (sameContents_apply_apply h).answers_eq later]

end Answers

/-! ## Histories -/

/-- What a corpus answers about a path is what its history says about it. -/
structure Recalls (memory : MemorySource) (history : List Edit) (path : String) :
    Prop where
  loads : ∀ content, memory.source.load path = .ok (some ⟨path, content⟩) ↔
    Live history path content
  lacks : memory.source.load path = .ok none ↔ ∀ content, ¬Live history path content
  removes : memory.source.load path =
    .ok ((memory.remove path).1.map fun content => ⟨path, content⟩)
  has : memory.has path = true ↔
    ∃ stored content, Live history stored content ∧ AtOrBelow path stored

theorem recalls_after (history : List Edit) (path : String) :
    (empty.after history).Recalls history path where
  loads content := by
    rw [load_source, ← content?_after_iff]
    simp
  lacks := by
    rw [load_source]
    simp only [← content?_after_iff, ← Option.eq_none_iff_forall_ne_some,
      Except.ok.injEq, Option.map_eq_none_iff]
  removes := load_source
  has := by
    rw [has_iff_atOrBelow]
    simp only [content?_after_iff]

/-- Whatever has been inserted and removed, in whatever order, a corpus answers by the
documents that its history leaves. A path is there with the first document at it or
below it, and goes with the last. Two changes at different paths may change places
without anyone noticing. -/
theorem history_determines_answers (history : List Edit) (path : String) :
    (empty.after history).Recalls history path ∧
      (∀ stored content, AtOrBelow path stored →
        (empty.after (history ++ [.insert stored content])).has path = true) ∧
      (∀ stored, (∀ other content, Live history other content →
          AtOrBelow path other → other = stored) →
        (empty.after (history ++ [.remove stored])).has path = false) ∧
      ∀ one other : Edit, one.path ≠ other.path → ∀ later, ∃ first second rest,
        (empty.after history).answers (.change one :: .change other :: later) =
            first :: second :: rest ∧
          (empty.after history).answers (.change other :: .change one :: later) =
            second :: first :: rest := by
  refine ⟨recalls_after history path, ?_, ?_, fun one other h => answers_swap h⟩
  · intro stored content hstored
    rw [(recalls_after _ path).has]
    exact ⟨stored, content, live_concat_iff.mpr (.inl rfl), hstored⟩
  · intro stored honly
    rw [← Bool.not_eq_true, (recalls_after _ path).has]
    rintro ⟨other, content, hlive, hother⟩
    rcases live_concat_iff.mp hlive with hlast | ⟨hpath, hlive⟩
    · cases hlast
    · exact hpath (honly other content hlive hother).symm

/-- A register that was signed, beside a list of the directory that did not stay. -/
def registerHistory : List Edit :=
  [.insert "controls/register.md" "draft", .insert "controls" "register.md",
    .insert "controls/register.md" "signed", .remove "controls"]

/-- The register is the last document in its directory, and the directory goes with it. It
does not matter whether it goes before or after another document comes. -/
theorem history_determines_answers_of_register :
    Live registerHistory "controls/register.md" "signed" ∧
      (empty.after registerHistory).source.load "controls/register.md" =
        .ok (some ⟨"controls/register.md", "signed"⟩) ∧
      (empty.after registerHistory).source.load "controls//" = .ok none ∧
      (empty.after registerHistory).has "controls//" = true ∧
      (empty.after (registerHistory ++ [.remove "controls/register.md"])).has
        "controls//" = false ∧
      ∀ later, ∃ first second rest,
        (empty.after registerHistory).answers (.change (.remove "controls/register.md") ::
            .change (.insert "ledger.json" "[]") :: later) = first :: second :: rest ∧
          (empty.after registerHistory).answers (.change (.insert "ledger.json" "[]") ::
            .change (.remove "controls/register.md") :: later) =
              second :: first :: rest := by
  have hsigned : Live registerHistory "controls/register.md" "signed" :=
    ⟨[.insert "controls/register.md" "draft", .insert "controls" "register.md"],
      [.remove "controls"], rfl, by simp [Edit.path]⟩
  have hbelow : AtOrBelow "controls//" "controls/register.md" := by
    refine .inr ⟨"register.md".toList, ?_⟩
    decide
  have honly (other content : String) (h : Live registerHistory other content) :
      other = "controls/register.md" := by
    have hentries : (empty.after registerHistory).entries =
        [("controls/register.md", "signed")] := by decide
    have hentry := content?_eq_some_iff.mp (content?_after_iff.mpr h)
    rw [hentries] at hentry
    exact congrArg Prod.fst (List.mem_singleton.mp hentry)
  obtain ⟨hregister, _⟩ :=
    history_determines_answers registerHistory "controls/register.md"
  obtain ⟨hcontrols, _, hgoes, hswap⟩ :=
    history_determines_answers registerHistory "controls//"
  refine ⟨hsigned, (hregister.loads _).mpr hsigned, hcontrols.lacks.mpr ?_,
    hcontrols.has.mpr ⟨_, _, hsigned, hbelow⟩,
    hgoes _ fun other content h _ => honly other content h, hswap _ _ (by decide)⟩
  intro content hlive
  exact absurd (honly _ _ hlive) (by decide)

end Compliance.MemorySource
