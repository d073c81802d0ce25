import Runbook.Proofs.CommandWords
import Runbook.Proofs.Consulting

/-! What the execution of a block can change. A session is confined to some places if every program
that it may start is asked to write there at most; then all that a session does, one block after
the other, changes files at those places only. -/
namespace Runbook

theorem FileTree.Stands.of_absolute (tree : FileTree) (here : Location) {path : Text}
    (absolute : Path.isAbsolute path = true) : tree.Stands (start here path) := by
  rw [start, if_pos absolute]
  exact .root tree

/-- The programs that can run a block of the language, in the order in which they are tried. -/
def Language.programs (language : Language) : List Text :=
  language.commands.map fun command => command.takeWhile (· != ' ')

namespace Session

/-- The call of a block's interpreter, with its temporary file. -/
def invocation (request : Request) (temporary : Option Text) : Invocation where
  candidates := request.language.candidates temporary
  stdin := Invocation.stdin? request.language request.content request.options
  outputPath := Invocation.outputPath? request.language temporary

theorem isSome_temporaryPath (directory : Text) (language : Language) (token : Text) :
    (temporaryPath directory language token).isSome = (language.tempFile != .absent) := by
  cases language <;> rfl

/-- The only command that a container is ever given. -/
def client : List Text := ["psql", "-A", "-t", "-X"]

/-- The commands of a block with a temporary file: the client, which takes none, programs that take
the file, or the one that draws. -/
theorem candidates_cases (language : Language) (temporary : Text) :
    language.candidates (some temporary) = [client] ∨
      language.candidates (some temporary) =
        language.programs.map (fun program => [program, temporary]) ∨
      language = .mermaid ∧ language.candidates (some temporary) =
        [["mmdc".toList, "-i".toList, temporary, "-o".toList,
          Path.sibling temporary ".svg".toList]] := by
  cases language with
  | psql => exact .inl rfl
  | mermaid => exact .inr (.inr ⟨rfl, rfl⟩)
  | _ => exact .inr (.inl rfl)

theorem candidates_psql (directory token : Text) {language : Language}
    (fallback : language.hasContainerFallback = true) :
    language.candidates (temporaryPath directory language token) = [client] := by
  obtain rfl : language = .psql := by simpa [Language.hasContainerFallback] using fallback
  rfl

/-- Every program that the session may start writes, if it writes at all, to a touched place. -/
structure Confined (touched : Location → Prop) (directory : Text) (session : Session) : Prop where
  absolute : Path.isAbsolute directory = true
  free : ∀ place, session.machine.tree.get? place = none → touched place
  interpreters : ∀ (language : Language) (n : Nat),
    ∀ candidate ∈ language.candidates
        (temporaryPath directory language (session.machine.tokens n)),
      session.machine.Spares touched directory candidate.tail
  questions : ∀ container, Container.MayList session.machine container →
    session.machine.Spares touched directory (Container.clientQuestion container)
  contained : ∀ container, Container.MayList session.machine container →
    session.machine.Spares touched directory
      (Container.command container (Container.settings session.machine) client).tail
  known : ∀ container, session.container = some (some container) →
    Container.MayList session.machine container

/-- One session after another, with only the touched places changed. -/
structure Follows (touched : Location → Prop) (directory : Text) (before after : Session) :
    Prop where
  later : before.machine.Later touched after.machine
  confined : Confined touched directory after

variable {touched : Location → Prop} {directory : Text} {session before middle after : Session}
  {machine : Machine}

theorem Confined.stands (confined : Confined touched directory session) :
    session.machine.tree.Stands (FileTree.start session.machine.here directory) :=
  .of_absolute _ _ confined.absolute

theorem Confined.follows (confined : Confined touched directory session)
    (later : session.machine.Later touched machine) (container : Option (Option Text))
    (known : ∀ found, container = some (some found) → Container.MayList session.machine found) :
    Follows touched directory session { session with machine, container } := by
  have listed (found : Text) (may : Container.MayList machine found) :
      Container.MayList session.machine found := by
    obtain ⟨react, call, runnable, member⟩ := may
    exact ⟨react, call, later.programs ▸ runnable, member⟩
  have settings : Container.settings machine = Container.settings session.machine := by
    simp only [Container.settings, later.environment]
  refine ⟨later, confined.absolute, ?_, ?_, ?_, ?_, ?_⟩
  · exact fun place => later.tree.touched_of_none confined.free
  · intro language n candidate member
    rw [later.tokens] at member
    exact later.spares (confined.interpreters language n candidate member)
  · exact fun found may => later.spares (confined.questions found (listed found may))
  · intro found may
    rw [settings]
    exact later.spares (confined.contained found (listed found may))
  · intro found same
    obtain ⟨react, call, runnable, member⟩ := known found same
    exact ⟨react, call, later.programs.symm ▸ runnable, member⟩

namespace Follows

theorem refl (confined : Confined touched directory session) :
    Follows touched directory session session :=
  ⟨.refl _ _, confined⟩

theorem trans (first : Follows touched directory before middle)
    (second : Follows touched directory middle after) : Follows touched directory before after :=
  ⟨first.later.trans second.later, second.confined⟩

end Follows

theorem Confined.of_later (confined : Confined touched directory session)
    (later : session.machine.Later touched machine) :
    Follows touched directory session { session with machine } :=
  confined.follows later session.container confined.known

theorem follows_runLocally (confined : Confined touched directory session) {language : Language}
    {invocation : Invocation}
    (spares : ∀ candidate ∈ invocation.candidates,
      session.machine.Spares touched directory candidate.tail) :
    Follows touched directory session (runLocally directory language invocation session).2 :=
  confined.of_later (Interpreter.later_tryAll confined.stands spares)

/-- Looking for a container changes nothing else, and only one that may be listed is found. -/
theorem follows_findContainer (confined : Confined touched directory session) :
    Follows touched directory session (findContainer directory session).2 ∧
      ∀ found, (findContainer directory session).1 = some found →
        Container.MayList session.machine found := by
  unfold findContainer
  cases known : session.container with
  | some answer =>
    exact ⟨.refl confined, fun found same => confined.known found (known.trans (congrArg some same))⟩
  | none =>
    obtain ⟨questions, asked, decides⟩ := Container.find_asked directory session.machine
    have chosen (found : Text) (same : (Container.find directory session.machine).1 = some found) :
        Container.MayList session.machine found := by
      rw [same] at decides
      obtain ⟨question, member, named⟩ := decides.chosen
      exact asked.mayList member named
    refine ⟨confined.follows (asked.later confined.stands ?_) _ ?_, chosen⟩
    · intro question member
      rcases decides.origin member with ⟨filter, there, same⟩ | ⟨container, same, earlier, there, named⟩
      · rw [same]
        exact .of_none (Container.outputArgument_listing there)
      · rw [same]
        exact confined.questions container (asked.mayList there named)
    · intro found same
      exact chosen found (Option.some.inj same)

/-- What is done with a command once it is known which container stands in: it is run there, if the
settings are made. -/
def runIn (directory : Text) (language : Language) (invocation : Invocation) (failure : Failure)
    (inner : List Text) : Option Text × Session → Except Failure Outcome × Session
  | (none, session) => (.error failure, session)
  | (some container, session) =>
    match Container.missing (Container.settings session.machine) with
    | [] => runLocally directory language { invocation with
        candidates := [Container.command container (Container.settings session.machine) inner] }
        session
    | missing => (.error (Container.missingFailure missing), session)

theorem runContained_eq {invocation : Invocation} {language : Language} {failure : Failure}
    {inner : List Text} (only : invocation.candidates = [inner]) :
    runContained directory language invocation failure session =
      runIn directory language invocation failure inner (findContainer directory session) := by
  unfold runContained
  rw [only]
  cases findContainer directory session with
  | mk found session => cases found <;> rfl

theorem follows_runContained (confined : Confined touched directory session)
    {invocation : Invocation} {language : Language} {failure : Failure}
    (only : invocation.candidates = [client]) :
    Follows touched directory session
      (runContained directory language invocation failure session).2 := by
  obtain ⟨follows, listed⟩ := follows_findContainer confined
  rw [runContained_eq only]
  cases shape : findContainer directory session with
  | mk found middle =>
    rw [shape] at follows listed
    cases found with
    | none => exact follows
    | some container =>
      obtain ⟨react, call, runnable, named⟩ := listed container rfl
      unfold runIn
      dsimp only
      split
      · refine follows.trans (follows_runLocally follows.confined fun candidate member => ?_)
        rw [List.mem_singleton.mp member]
        exact follows.confined.contained container
          ⟨react, call, follows.later.programs ▸ runnable, named⟩
      · exact follows

theorem follows_runAnywhere (confined : Confined touched directory session) (request : Request)
    (n : Nat) :
    Follows touched directory session
      (runAnywhere directory request.language
        (invocation request
          (temporaryPath directory request.language (session.machine.tokens n))) session).2 := by
  have first : Follows touched directory session (runLocally directory request.language
      (invocation request
        (temporaryPath directory request.language (session.machine.tokens n))) session).2 :=
    follows_runLocally confined (confined.interpreters request.language n)
  unfold runAnywhere
  split
  · rename_i shape
    rw [shape] at first
    split
    · rename_i fallback
      exact first.trans
        (follows_runContained first.confined (candidates_psql directory _ fallback))
    · exact first
  · exact first

/-- A block whose temporary file is in place is run. The file that has come into being is added to
its outcome, and the temporary file is removed. -/
theorem execute_eq (directory : Text) (request : Request) (session : Session) {machine : Machine}
    {temporary : Option Text}
    (prepared : prepare (Path.absolute session.machine.here.path directory) request session.machine =
      (.ok temporary, machine))
    (made : temporary.isSome = (request.language.tempFile != .absent)) :
    execute directory request session =
      let ran := runAnywhere (Path.absolute session.machine.here.path directory) request.language
        (invocation request temporary) { session with machine }
      (ran.1.map fun outcome =>
          { outcome with artifact := artifact? (invocation request temporary) ran.2.machine },
        { ran.2 with machine := discard temporary ran.2.machine }) := by
  simp only [execute, prepared, runPrepared,
    Invocation.build_eq request.language request.content request.options made]
  rw [← invocation]
  generalize runAnywhere _ _ _ _ = ran
  rcases ran with ⟨_ | _, after⟩ <;> rfl

theorem follows_execute (directory : Text) (request : Request)
    (confined : Confined touched (Path.absolute session.machine.here.path directory) session) :
    Follows touched (Path.absolute session.machine.here.path directory) session
      (execute directory request session).2 := by
  rcases prepare_cases (Path.absolute session.machine.here.path directory) request session.machine
      confined.free with
    ⟨drawn, path, fault, shape⟩ | ⟨temporary, machine, shape, prepared⟩
  · simp only [execute, shape]
    exact confined.of_later (.of_drawn _ _ _)
  · obtain ⟨n, rfl⟩ := prepared.named
    rw [execute_eq _ _ _ shape (isSome_temporaryPath _ request.language (session.machine.tokens n))]
    have ready := confined.of_later prepared.later
    have ran := follows_runAnywhere ready.confined request n
    simp only [prepared.later.tokens] at ran
    exact (ready.trans ran).trans <| ran.confined.of_later <| later_discard fun path same =>
      (prepared.owned path same).later ran.later

end Session
end Runbook
