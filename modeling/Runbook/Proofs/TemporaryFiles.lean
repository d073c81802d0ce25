import Mathlib
import Runbook.Proofs.Confinement

/-! Temporary files of blocks. Whatever becomes of a block, its temporary file is gone when its
execution is over, and of the other files only those have changed that the started programs were
asked to write: the files are what they would be if these programs had been started without it. -/
namespace Runbook

/-- The files after a program was started: it may have written one. -/
def Start.writes (programs : Text → Option Program) (tree : FileTree) (start : Start) : FileTree :=
  match programs start.program with
  | some (.runnable react) =>
    Machine.afterwards tree start.directory start.call.arguments (react start.call)
  | _ => tree

namespace FileTree

/-- The files after some programs were started, one after the other. -/
def written (programs : Text → Option Program) (tree : FileTree) (starts : List Start) : FileTree :=
  starts.foldl (Start.writes programs) tree

variable {touched : Location → Prop} {before after tree : FileTree} {here place : Location}
  {path : Text} {programs : Text → Option Program} {starts : List Start} {bytes : Bytes}

theorem write_of_located (located : tree.locate here path .made = .ok place)
    (other : tree.get? place ≠ some .directory) (bytes : Bytes) :
    tree.write here path bytes = .ok (tree.put place (.file bytes)) := by
  simp only [write, located, bind, Except.bind]

theorem Changes.of_new (nothing : tree.get? place = none) (bytes : Bytes) :
    Changes (· = place) tree (tree.put place (.file bytes)) :=
  .put (.of_none nothing) (by rfl) bytes

theorem Changes.put_both (changes : Changes touched before after) (named : place ≠ [])
    (bytes : Bytes) :
    Changes touched (before.put place (.file bytes)) (after.put place (.file bytes)) where
  same other spared := by
    rw [get?_put _ _ _ _ named, get?_put _ _ _ _ named, changes.same other spared]
  fixed other entry notFile := by
    rw [get?_put _ _ _ _ named, get?_put _ _ _ _ named]
    split
    · rfl
    · exact changes.fixed other entry notFile

theorem Changes.write (changes : Changes touched before after) {begun : FileTree}
    (written : before.write here path bytes = .ok begun) :
    ∃ ended, after.write here path bytes = .ok ended ∧ Changes touched begun ended := by
  obtain ⟨place, located, other, rfl⟩ := write_origin written
  have named : place ≠ [] := by
    rintro rfl
    simp at other
  have still : after.get? place ≠ some .directory := fun there =>
    other (changes.directory_iff.mp there)
  exact ⟨_, write_of_located (changes.locate located) still bytes, changes.put_both named bytes⟩

theorem Changes.afterwards (changes : Changes touched before after) (directory : Location)
    (arguments : List Text) (reaction : Reaction) :
    Changes touched (Machine.afterwards before directory arguments reaction)
      (Machine.afterwards after directory arguments reaction) := by
  unfold Machine.afterwards
  split
  · rename_i bytes path _ _
    cases first : before.write directory path bytes with
    | ok begun =>
      obtain ⟨ended, second, same⟩ := changes.write first
      simpa [second, Except.toOption] using same
    | error fault =>
      cases second : after.write directory path bytes with
      | ok ended =>
        obtain ⟨begun, third, -⟩ := changes.symm.write second
        rw [first] at third
        contradiction
      | error other => simpa [Except.toOption] using changes
  · exact changes

/-- Programs write the same in trees that differ in some files. -/
theorem Changes.written (changes : Changes touched before after) (programs : Text → Option Program)
    (starts : List Start) :
    Changes touched (before.written programs starts) (after.written programs starts) := by
  induction starts generalizing before after with
  | nil => exact changes
  | cons start starts ih =>
    refine ih ?_
    unfold Start.writes
    split
    · exact changes.afterwards start.directory start.call.arguments _
    · exact changes

theorem afterwards_file (stood : tree.get? place = some (.file bytes)) (directory : Location)
    (arguments : List Text) (reaction : Reaction) :
    ∃ bytes, (Machine.afterwards tree directory arguments reaction).get? place =
      some (.file bytes) := by
  unfold Machine.afterwards
  split
  · rename_i output path _ _
    cases ended : tree.write directory path output with
    | error fault => exact ⟨bytes, stood⟩
    | ok after =>
      obtain ⟨into, -, other, rfl⟩ := write_origin ended
      have named : into ≠ [] := by
        rintro rfl
        simp at other
      by_cases same : place = into
      · exact ⟨output, by simp [Except.toOption, get?_put _ _ _ _ named, same]⟩
      · exact ⟨bytes, by simpa [Except.toOption, get?_put _ _ _ _ named, same] using stood⟩
  · exact ⟨bytes, stood⟩

theorem written_file (stood : tree.get? place = some (.file bytes))
    (programs : Text → Option Program) (starts : List Start) :
    ∃ bytes, (tree.written programs starts).get? place = some (.file bytes) := by
  induction starts generalizing tree bytes with
  | nil => exact ⟨bytes, stood⟩
  | cons start starts ih =>
    have first : ∃ bytes, (Start.writes programs tree start).get? place = some (.file bytes) := by
      unfold Start.writes
      split
      · exact afterwards_file stood start.directory start.call.arguments _
      · exact ⟨bytes, stood⟩
    obtain ⟨bytes, there⟩ := first
    exact ih there

theorem reaches_iff :
    tree.reaches here path = true ↔
      ∃ place, tree.locate here path .followed = .ok place ∧ (tree.get? place).isSome = true := by
  simp only [reaches, find, bind, Except.bind]
  cases tree.locate here path .followed with
  | error fault => simp [Except.isOk, Except.toBool]
  | ok place => cases there : tree.get? place <;> simp [there, Except.isOk, Except.toBool]

/-- A new file stands as long as programs are started, whatever they write into it. -/
theorem written_new (nothing : tree.get? place = none) (bytes : Bytes)
    (programs : Text → Option Program) (starts : List Start) :
    ∃ last, ((tree.put place (.file bytes)).written programs starts).get? place =
      some (.file last) :=
  written_file ((IsPlain.of_none nothing).put_there _) programs starts

theorem written_beside (nothing : tree.get? place = none) (bytes : Bytes)
    (programs : Text → Option Program) (starts : List Start) {other : Location}
    (apart : other ≠ place) :
    ((tree.put place (.file bytes)).written programs starts).get? other =
      (tree.written programs starts).get? other :=
  ((Changes.of_new nothing bytes).written programs starts).same other apart

theorem reaches_erase (file : tree.get? place = some (.file bytes)) :
    tree.reaches here path = true ↔
      (tree.erase place).reaches here path = true ∨
        (tree.erase place).locate here path .followed = .ok place := by
  have plain : tree.IsPlain place := .of_file file
  have changes : Changes (· = place) tree (tree.erase place) := .erase plain (by rfl)
  have kept (other : Location) (apart : other ≠ place) :
      (tree.erase place).get? other = tree.get? other := changes.same other apart
  have erased := plain.erase_gone
  rw [reaches_iff, reaches_iff]
  constructor
  · rintro ⟨other, located, there⟩
    by_cases same : other = place
    · exact .inr (same ▸ changes.locate located)
    · exact .inl ⟨other, changes.locate located, (kept other same).symm ▸ there⟩
  · rintro (⟨other, located, there⟩ | located)
    · have apart : other ≠ place := by
        rintro rfl
        simp [erased] at there
      exact ⟨other, changes.symm.locate located, kept other apart ▸ there⟩
    · exact ⟨place, changes.symm.locate located, by simp [file]⟩

end FileTree

namespace Machine

variable {machine before middle after : Machine} {directory program stdin : Text}
  {arguments : List Text} {reaction : Reaction}

/-- Programs have been started and nothing else has happened: the files are what they have written,
in the order in which they stand in the record. -/
structure Ran (before after : Machine) : Prop where
  later : before.Later (fun _ => True) after
  written : ∃ started, after.starts = before.starts ++ started ∧
    after.tree = before.tree.written before.programs started

namespace Ran

theorem refl (machine : Machine) : Ran machine machine :=
  ⟨.refl _ _, [], by simp, rfl⟩

theorem trans (first : Ran before middle) (second : Ran middle after) : Ran before after := by
  obtain ⟨started, starts, tree⟩ := first.written
  obtain ⟨more, onward, ended⟩ := second.written
  refine ⟨first.later.trans second.later, started ++ more, ?_, ?_⟩
  · rw [onward, starts, List.append_assoc]
  · rw [ended, tree, first.later.programs, FileTree.written, FileTree.written, FileTree.written,
      List.foldl_append]

theorem start (absolute : Path.isAbsolute directory = true)
    (started : machine.start directory program arguments stdin = .ok (reaction, after)) :
    Ran machine after := by
  have stands := FileTree.Stands.of_absolute machine.tree machine.here absolute
  refine ⟨later_start stands (fun _ _ _ _ _ _ => trivial) started, ?_⟩
  obtain ⟨location, react, -, runnable, rfl, rfl⟩ := start_origin started
  exact ⟨_, rfl, by simp [FileTree.written, Start.writes, runnable]⟩

end Ran
end Machine

/-! ## What is started for a block -/

section Started

variable {machine after : Machine} {directory stdin : Text} (absolute : Path.isAbsolute directory = true)
include absolute

theorem Interpreter.ran_tryAll {limit : Option Duration} {language : Language}
    {exhausted : Failure} {candidates : List (List Text)} :
    machine.Ran (tryAll limit language directory stdin exhausted candidates machine).2 := by
  induction candidates with
  | nil => exact .refl machine
  | cons candidate more ih =>
    cases candidate with
    | nil => exact ih
    | cons program arguments =>
      rw [tryAll]
      split
      · exact ih
      · exact .refl machine
      · rename_i started
        exact .start absolute started

theorem Container.Asked.ran {questions : List Question}
    (asked : Asked directory machine questions after) : machine.Ran after := by
  induction asked with
  | nothing => exact .refl _
  | @next machine middle after first questions answered rest ih =>
    refine .trans ?_ ih
    rcases ask_cases directory first.arguments machine with same | ⟨reaction, next, started, same⟩
    · obtain ⟨-, rfl⟩ := Prod.mk.inj (answered.symm.trans same)
      exact .refl _
    · obtain ⟨-, rfl⟩ := Prod.mk.inj (answered.symm.trans same)
      exact .start absolute started

namespace Session

theorem ran_findContainer (session : Session) :
    session.machine.Ran (findContainer directory session).2.machine := by
  unfold findContainer
  split
  · exact .refl _
  · obtain ⟨questions, asked, -⟩ := Container.find_asked directory session.machine
    exact asked.ran absolute

theorem ran_runLocally (language : Language) (invocation : Invocation) (session : Session) :
    session.machine.Ran (runLocally directory language invocation session).2.machine :=
  Interpreter.ran_tryAll absolute

theorem ran_runContained (language : Language) (invocation : Invocation) (failure : Failure)
    (session : Session) :
    session.machine.Ran (runContained directory language invocation failure session).2.machine := by
  have found := ran_findContainer absolute session
  unfold runContained
  cases shape : findContainer directory session with
  | mk container middle =>
    rw [shape] at found
    cases container with
    | none => exact found
    | some container =>
      cases invocation.candidates.head? with
      | none => exact found
      | some inner =>
        dsimp only
        split
        · exact found.trans (ran_runLocally absolute ..)
        · exact found

theorem ran_runAnywhere (language : Language) (invocation : Invocation) (session : Session) :
    session.machine.Ran (runAnywhere directory language invocation session).2.machine := by
  have first := ran_runLocally absolute language invocation session
  unfold runAnywhere
  split
  · rename_i shape
    rw [shape] at first
    split
    · exact first.trans (ran_runContained absolute ..)
    · exact first
  · exact first

end Session
end Started

/-! ## Executions -/

namespace Session

/-- A block is run with its temporary file, then the file is removed. What has come into being is
seen before that. -/
theorem ran_execute (directory : Text) (request : Request) (session : Session)
    {temporary : Option Text} {machine : Machine}
    (prepared : prepare (Path.absolute session.machine.here.path directory) request session.machine =
      (.ok temporary, machine))
    (made : temporary.isSome = (request.language.tempFile != .absent)) :
    ∃ ended, machine.Ran ended ∧
      (execute directory request session).2.machine = discard temporary ended ∧
      ∀ outcome, (execute directory request session).1 = .ok outcome →
        outcome.artifact = artifact? (invocation request temporary) ended := by
  have absolute : Path.isAbsolute (Path.absolute session.machine.here.path directory) = true := rfl
  have ran := ran_runAnywhere absolute request.language (invocation request temporary)
    { session with machine }
  rw [execute_eq directory request session prepared made]
  refine ⟨_, ran, rfl, fun outcome done => ?_⟩
  dsimp only at done ⊢
  cases answer : (runAnywhere (Path.absolute session.machine.here.path directory)
      request.language (invocation request temporary) { session with machine }).1 with
  | error failure =>
    rw [answer] at done
    contradiction
  | ok outcome =>
    rw [answer] at done
    obtain rfl := Except.ok.inj done
    rfl

/-- A block with its tag, and the directory it is to be executed in. -/
structure Task where
  directory : Text
  tag : Text
  content : Text
  options : PlanOptions

/-- What a task asks for, if its tag names a language. -/
def Task.request? (task : Task) : Option Request :=
  (Language.lookup task.tag).map fun language => ⟨language, task.content, task.options⟩

/-- A task with its answer, between two states of the session. -/
structure Execution where
  task : Task
  before : Session
  result : Except Failure Outcome
  after : Session

def Task.execution (task : Task) (session : Session) : Execution :=
  let (result, after) := session.executeTagged task.directory task.tag task.content task.options
  ⟨task, session, result, after⟩

/-- Some tasks, one after the other in one session. -/
def executions : List Task → Session → List Execution
  | [], _ => []
  | task :: more, session =>
    let execution := task.execution session
    execution :: executions more execution.after

namespace Execution

/-- The path of the temporary file that is made. -/
def temporary? (execution : Execution) : Option Text :=
  execution.task.request?.bind fun request =>
    (prepare (Path.absolute execution.before.machine.here.path execution.task.directory) request
      execution.before.machine).1.toOption.join

def IsTemporary (execution : Execution) (place : Location) : Prop :=
  ∃ path, execution.temporary? = some path ∧
    execution.before.machine.tree.locate execution.before.machine.here path .kept = .ok place

/-- The path of the file that is expected to appear beside the temporary one. -/
def expected? (execution : Execution) : Option Text :=
  execution.task.request?.bind fun request =>
    Invocation.outputPath? request.language execution.temporary?

/-- Nothing is left of an execution but what the programs that it started have written. -/
structure Clears (execution : Execution) : Prop where
  /-- The temporary file is made at a place where nothing stood, and nothing stands there in the
  end. -/
  temporary : ∀ path, execution.temporary? = some path →
    ∃ place, execution.IsTemporary place ∧ execution.before.machine.tree.get? place = none ∧
      execution.after.machine.tree.get? place = none
  /-- Every other place is as if the programs had been started without the temporary file. -/
  files : ∃ started,
    execution.after.machine.starts = execution.before.machine.starts ++ started ∧
      ∀ place, ¬ execution.IsTemporary place →
        execution.after.machine.tree.get? place =
          (execution.before.machine.tree.written execution.before.machine.programs started).get? place
  /-- An outcome names the expected file if there is one. A link that stood in its place and leads to
  the temporary file has led to it then. -/
  artifact : ∀ outcome, execution.result = .ok outcome → ∀ path,
    outcome.artifact = some path ↔ execution.expected? = some path ∧
      (execution.after.machine.tree.reaches execution.after.machine.here path = true ∨
        ∃ place, execution.IsTemporary place ∧
          execution.after.machine.tree.locate execution.after.machine.here path .followed = .ok place)

end Execution

variable {execution : Execution}

/-- Without a temporary file the programs have written all that has changed, and there is no file to
expect. -/
theorem Execution.clears_of_none (absent : execution.temporary? = none)
    (ran : execution.before.machine.Ran execution.after.machine)
    (silent : ∀ outcome, execution.result = .ok outcome → outcome.artifact = none) :
    execution.Clears where
  temporary path made := by
    rw [absent] at made
    contradiction
  files := by
    obtain ⟨started, starts, tree⟩ := ran.written
    exact ⟨started, starts, fun place _ => by rw [tree]⟩
  artifact outcome done path := by
    have unexpected : execution.expected? = none := by
      simp [Execution.expected?, absent, Invocation.outputPath?]
    rw [silent outcome done, unexpected]
    simp

theorem discard_file {machine : Machine} {path : Text} {place : Location} {bytes : Bytes}
    (located : machine.tree.locate machine.here path .kept = .ok place)
    (file : machine.tree.get? place = some (.file bytes)) :
    discard (some path) machine = { machine with tree := machine.tree.erase place } := by
  simp [discard, FileTree.remove, located, file, bind, Except.bind, Except.toOption]

theorem artifact?_eq_some_iff {invocation : Invocation} {machine : Machine} {path : Text} :
    artifact? invocation machine = some path ↔
      invocation.outputPath = some path ∧ machine.tree.reaches machine.here path = true := by
  rw [artifact?, Option.filter_eq_some_iff]

/-- With a temporary file the programs have written the same as without it. It is there until it is
removed. -/
theorem Execution.clears_of_some {request : Request} {path : Text} {place : Location} {bytes : Bytes}
    {drawn : Nat} {ended : Machine} (asked : execution.task.request? = some request)
    (made : execution.temporary? = some path)
    (located : execution.before.machine.tree.locate execution.before.machine.here path .kept =
      .ok place)
    (nothing : execution.before.machine.tree.get? place = none)
    (ran : Machine.Ran { execution.before.machine with
      drawn, tree := execution.before.machine.tree.put place (.file bytes) } ended)
    (removed : execution.after.machine = discard (some path) ended)
    (named : ∀ outcome, execution.result = .ok outcome →
      outcome.artifact = artifact? (invocation request (some path)) ended) :
    execution.Clears := by
  have plain : execution.before.machine.tree.IsPlain place := .of_none nothing
  have isTemporary (other : Location) : execution.IsTemporary other ↔ other = place := by
    simp only [IsTemporary, made, Option.some.injEq, exists_eq_left', located, Except.ok.injEq]
    exact eq_comm
  obtain ⟨started, starts, tree⟩ := ran.written
  dsimp only at starts tree
  obtain ⟨last, file⟩ := FileTree.written_new nothing bytes execution.before.machine.programs started
  rw [← tree] at file
  have found : ended.tree.locate ended.here path .kept = .ok place := by
    rw [ran.later.here]
    exact ran.later.tree.locate ((FileTree.Changes.of_new nothing bytes).locate located)
  have cleared := removed.trans (discard_file found file)
  have erased : execution.after.machine.tree.get? place = none := by
    rw [cleared]
    exact (FileTree.IsPlain.of_file file).erase_gone
  refine ⟨?_, ⟨started, ?_, ?_⟩, ?_⟩
  · intro other same
    exact ⟨place, (isTemporary place).mpr rfl, nothing, erased⟩
  · rw [cleared, starts]
  · intro other apart
    rw [isTemporary] at apart
    rw [cleared, FileTree.get?_erase _ _ _ plain.named, if_neg apart, tree]
    exact FileTree.written_beside nothing bytes _ _ apart
  · intro outcome done expected
    have awaited : execution.expected? = (invocation request (some path)).outputPath := by
      rw [Execution.expected?, asked, made]
      rfl
    rw [named outcome done, artifact?_eq_some_iff, awaited, cleared, FileTree.reaches_erase file]
    simp only [isTemporary, exists_eq_left]

theorem Task.execution_eq {task : Task} {request : Request} (asked : task.request? = some request)
    (session : Session) :
    task.execution session = ⟨task, session, (session.execute task.directory request).1,
      (session.execute task.directory request).2⟩ := by
  obtain ⟨language, known, rfl⟩ := Option.map_eq_some_iff.mp asked
  simp only [execution, executeTagged, known]

theorem Task.execution_clears (task : Task) (session : Session) : (task.execution session).Clears := by
  cases asked : task.request? with
  | none =>
    have unknown : Language.lookup task.tag = none := by simpa [Task.request?] using asked
    refine Execution.clears_of_none ?_ ?_ ?_
    all_goals simp only [Task.execution, executeTagged, unknown]
    · simp [Execution.temporary?, asked]
    · exact .refl _
    · intro outcome done
      obtain rfl := Except.ok.inj done
      rfl
  | some request =>
    rw [Task.execution_eq asked]
    rcases prepare_origin (Path.absolute session.machine.here.path task.directory) request
        session.machine with
      ⟨drawn, path, fault, shape⟩ | ⟨absent, shape⟩ |
        ⟨drawn, n, path, place, bytes, named, located, nothing, shape⟩
    · refine Execution.clears_of_none ?_ ?_ ?_
      · simp [Execution.temporary?, asked, shape, Except.toOption]
      · simp only [execute, shape]
        exact ⟨.of_drawn _ _ _, [], by simp, rfl⟩
      · simp [execute, shape]
    · have made := isSome_temporaryPath (Path.absolute session.machine.here.path task.directory)
        request.language (session.machine.tokens 0)
      rw [absent 0] at made
      obtain ⟨ended, ran, discarded, seen⟩ :=
        ran_execute task.directory request session shape made
      refine Execution.clears_of_none ?_ ?_ ?_
      · simp [Execution.temporary?, asked, shape, Except.toOption]
      · exact discarded ▸ ran
      · intro outcome done
        rw [seen outcome done]
        simp [artifact?, invocation, Invocation.outputPath?]
    · have made := isSome_temporaryPath (Path.absolute session.machine.here.path task.directory)
        request.language (session.machine.tokens n)
      rw [named] at made
      obtain ⟨ended, ran, discarded, seen⟩ :=
        ran_execute task.directory request session shape made
      refine Execution.clears_of_some asked ?_ located nothing ran discarded seen
      simp [Execution.temporary?, asked, shape, Except.toOption]

/-- Whatever blocks are executed in a session, one after the other, no temporary file is left of any of
them, and all other files are what the programs that were started for it have made of them. -/
theorem executions_clear (tasks : List Task) (session : Session) :
    ∀ execution ∈ executions tasks session, execution.Clears := by
  induction tasks generalizing session with
  | nil => simp [executions]
  | cons task more ih =>
    intro execution member
    rcases List.mem_cons.mp member with rfl | member
    · exact task.execution_clears session
    · exact ih _ execution member

/-- A signal ends the program that draws when it has drawn. -/
def drawing : Machine where
  programs name :=
    if name = "mmdc".toList then
      some (.runnable fun _ => { exitCode := none, output := some (Utf8.encode "<svg/>".toList) })
    else none

theorem executions_clear_diagram :
    let task : Task := ⟨"/", "mermaid", "graph", {}⟩
    let execution := task.execution { machine := drawing }
    execution ∈ executions [task] { machine := drawing } ∧ execution.Clears ∧
      execution.temporary? = some "/mermaid0.mmd".toList ∧
      execution.after.machine.tree =
        ⟨[(["mermaid0.svg".toList], .file (Utf8.encode "<svg/>".toList))]⟩ := by
  intro task execution
  have member : execution ∈ executions [task] { machine := drawing } := List.mem_cons_self
  let request : Request := ⟨.mermaid, "graph", {}⟩
  have asked : task.request? = some request := by
    rw [Task.request?, show Language.lookup task.tag = some .mermaid from Language.lookup_name .mermaid]
    rfl
  have created : drawing.tree.create drawing.here "/mermaid0.mmd" (.file (Utf8.encode "graph".toList)) =
      .ok ⟨[(["mermaid0.mmd".toList], .file (Utf8.encode "graph".toList))]⟩ := by
    cbv
  have prepared : prepare (Path.absolute drawing.here.path "/") request drawing =
      (.ok (some "/mermaid0.mmd".toList), { drawing with
        drawn := 1, tree := ⟨[(["mermaid0.mmd".toList], .file (Utf8.encode "graph".toList))]⟩ }) :=
    prepare_ok request rfl created
  refine ⟨member, executions_clear [task] _ execution member, ?_, ?_⟩
  · rw [Execution.temporary?, show execution.task.request? = some request from asked,
      Option.bind_some, show execution.before.machine = drawing from rfl,
      show execution.task.directory = "/".toList from rfl, prepared]
    rfl
  · rw [show execution = _ from Task.execution_eq asked _, execute_eq _ _ _ prepared rfl]
    simp only [runAnywhere, runLocally, Interpreter.run]
    generalize Interpreter.missing _ _ = exhausted
    cbv

end Session
end Runbook
