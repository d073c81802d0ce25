import Runbook.Container
import Runbook.Interpreter
import Runbook.Pass
import Runbook.PlanService
import Runbook.Text.Escaped

/-! Executing blocks one after the other on a machine. A block that needs a file gets a
temporary one, which is gone when its execution is over. Whether a container can stand in for
a missing client is found out once in a session. -/
namespace Runbook

structure Session where
  machine : Machine
  timeLimit : Option Duration := none
  /-- The container, once it has been looked for. -/
  container : Option (Option Text) := none

namespace Session

/-- The suffix and the content of the temporary file for a block. -/
def temporaryFile? (language : Language) (content : Text) : Option (Text × Text) :=
  match language.tempFile with
  | .absent => none
  | .script suffix => some (suffix, content)
  | .scratch suffix => some (suffix, [])

/-- How often a name for a temporary file is chosen again. -/
def attempts : Nat := 65536

/-- Makes a file under a fresh name, and answers its path. -/
def createTemporary (directory beginning suffix content : Text) :
    Nat → Machine → Except (SystemFault × Text) Text × Machine
  | tries, machine =>
    let (token, machine) := machine.token
    let path := Path.join directory (beginning ++ token ++ suffix)
    match tries, machine.tree.create machine.here path (.file (Utf8.encode content)) with
    | _, .ok tree => (.ok path, { machine with tree })
    | tries + 1, .error .taken => createTemporary directory beginning suffix content tries machine
    | _, .error fault => (.error (fault, path), machine)

def temporaryRefusal (directory path : Text) (fault : SystemFault) : Failure :=
  .execution ("failed to create temporary file in '".toList ++ directory ++ "': ".toList ++
    fault.message ++ " at path ".toList ++ Text.escaped path)

/-- Makes the temporary file for a block, if the language asks for one. -/
def prepare (directory : Text) (request : Request) (machine : Machine) :
    Except Failure (Option Text) × Machine :=
  match temporaryFile? request.language request.content with
  | none => (.ok none, machine)
  | some (suffix, content) =>
    match createTemporary directory request.language.name suffix content attempts machine with
    | (.ok path, machine) => (.ok (some path), machine)
    | (.error (fault, path), machine) => (.error (temporaryRefusal directory path fault), machine)

def discard (path : Option Text) (machine : Machine) : Machine :=
  match path with
  | none => machine
  | some path =>
    { machine with tree := (machine.tree.remove machine.here path).toOption.getD machine.tree }

/-- The container for this session. It is looked for the first time only. -/
def findContainer (directory : Text) (session : Session) : Option Text × Session :=
  match session.container with
  | some known => (known, session)
  | none =>
    let (container, machine) := Container.find directory session.machine
    (container, { session with machine, container := some container })

def runLocally (directory : Text) (language : Language) (invocation : Invocation)
    (session : Session) : Except Failure Outcome × Session :=
  let (result, machine) :=
    Interpreter.run session.timeLimit language directory invocation session.machine
  (result, { session with machine })

/-- Runs the first command of an invocation in a container. Without a container the failure
stays as it was. -/
def runContained (directory : Text) (language : Language) (invocation : Invocation)
    (failure : Failure) (session : Session) : Except Failure Outcome × Session :=
  match findContainer directory session, invocation.candidates.head? with
  | (some container, session), some inner =>
    let settings := Container.settings session.machine
    match Container.missing settings with
    | [] => runLocally directory language
        { invocation with candidates := [Container.command container settings inner] } session
    | missing => (.error (Container.missingFailure missing), session)
  | (_, session), _ => (.error failure, session)

def runAnywhere (directory : Text) (language : Language) (invocation : Invocation)
    (session : Session) : Except Failure Outcome × Session :=
  match runLocally directory language invocation session with
  | (.error (.missingInterpreter name program), session) =>
    if language.hasContainerFallback then
      runContained directory language invocation (.missingInterpreter name program) session
    else (.error (.missingInterpreter name program), session)
  | other => other

/-- The output file, if it has come into being. -/
def artifact? (invocation : Invocation) (machine : Machine) : Option Text :=
  invocation.outputPath.filter fun path => machine.tree.reaches machine.here path

def runPrepared (directory : Text) (request : Request) (temporary : Option Text)
    (session : Session) : Except Failure Outcome × Session :=
  match Invocation.build request.language request.content temporary request.options with
  | .error fault =>
    (.error (.execution ("cannot build '".toList ++ request.language.name ++
      "' command: ".toList ++ fault.message)), session)
  | .ok invocation =>
    match runAnywhere directory request.language invocation session with
    | (.error failure, session) => (.error failure, session)
    | (.ok outcome, session) =>
      (.ok { outcome with artifact := artifact? invocation session.machine }, session)

def execute (directory : Text) (request : Request) (session : Session) :
    Except Failure Outcome × Session :=
  let directory := Path.absolute session.machine.here.path directory
  match prepare directory request session.machine with
  | (.error failure, machine) => (.error failure, { session with machine })
  | (.ok temporary, machine) =>
    let (result, session) := runPrepared directory request temporary { session with machine }
    (result, { session with machine := discard temporary session.machine })

/-- Executes a block in the language that a tag names. A tag without a language is not a
failure. -/
def executeTagged (directory tag content : Text) (options : PlanOptions) (session : Session) :
    Except Failure Outcome × Session :=
  match Language.lookup tag with
  | some language => session.execute directory ⟨language, content, options⟩
  | none => (.ok (Outcome.unsupported tag), session)

def submit (endpoint : Option Text) (plan : Text) (session : Session) : Option Text × Session :=
  (endpoint.bind fun endpoint =>
    session.machine.planService (PlanService.endpoint endpoint) plan, session)

/-- Saves a picture under the time of day. -/
def savePicture (directory picture : Text) (session : Session) : Option Text × Session :=
  let (time, machine) := session.machine.time
  let name := "pg-flamegraph-".toList ++ time ++ ".svg".toList
  let (result, machine) := machine.save (Path.join directory name) (Utf8.encode picture)
  (if result.isOk then some name else none, { session with machine })

/-- The session as the surroundings of a pass over a document in a directory. -/
def services (directory : Text) (endpoint : Option Text) : Services Session where
  execute := execute directory
  submit := submit endpoint
  save := savePicture directory

end Session
end Runbook
