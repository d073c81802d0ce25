import Runbook.Failure
import Runbook.Machine
import Runbook.Text.Blank
import Runbook.Text.Line

/-! A running container that can stand in for a database client. One is looked for by its
image, then by its name, and then among all by asking each for the client. -/
namespace Runbook.Container

def program : Text := "docker"

/-- The client's settings that are handed on to the container, in this order. -/
def handedOn : List Text := ["PGUSER", "PGPASSWORD", "PGDATABASE", "PGHOST", "PGPORT"]

/-- The settings that a session cannot do without. -/
def required : List Text := ["PGUSER", "PGDATABASE"]

/-- Those settings that are made, with their values. -/
def settings (machine : Machine) : List (Text × Text) :=
  handedOn.filterMap fun name => (machine.environment name).map fun value => (name, value)

def missing (settings : List (Text × Text)) : List Text :=
  required.filter fun name => !(settings.any fun setting => setting.1 == name)

def missingFailure (names : List Text) : Failure :=
  .user ("PostgreSQL is running in Docker but required environment variables are missing: ".toList ++
    Text.joined ", " names ++ "\nFix: set ".toList ++ Text.joined " and " names ++
    " before running psql blocks.".toList)

/-- The command that runs another one in a container. -/
def command (container : Text) (settings : List (Text × Text)) (inner : List Text) : List Text :=
  (["docker", "exec", "-i", "-u", "postgres"] : List Text) ++
    settings.flatMap (fun setting => ["-e".toList, setting.1 ++ '=' :: setting.2]) ++
      container :: inner

/-- The arguments that list the running containers, all or those that pass a filter. -/
def listing (filter : Option Text) : List Text :=
  "ps".toList :: (filter.map fun filter => ["--filter".toList, filter]).getD [] ++
    ["--format".toList, "\x7b\x7b.ID\x7d\x7d".toList]

/-- Container ids stand on lines of their own. -/
def ids (output : Text) : List Text :=
  ((Text.lines output).map Text.trim).filter (!·.isEmpty)

/-- The program's output, if it could be started and was successful. -/
def ask (directory : Text) (arguments : List Text) (machine : Machine) :
    Option Text × Machine :=
  match machine.start directory program arguments [] with
  | .error _ => (none, machine)
  | .ok (reaction, machine) =>
    (if reaction.isSuccess then some (Utf8.decodeLossy reaction.stdout) else none, machine)

def running (directory : Text) (filter : Option Text) (machine : Machine) :
    List Text × Machine :=
  let (output, machine) := ask directory (listing filter) machine
  ((output.map ids).getD [], machine)

/-- The first container that has the client. -/
def firstWithClient (directory : Text) : List Text → Machine → Option Text × Machine
  | [], machine => (none, machine)
  | container :: more, machine =>
    match ask directory ["exec", container, "which", "psql"] machine with
    | (some _, machine) => (some container, machine)
    | (none, machine) => firstWithClient directory more machine

/-- The first container that passes one of the filters. -/
def firstFiltered (directory : Text) : List Text → Machine → Option Text × Machine
  | [], machine => (none, machine)
  | filter :: more, machine =>
    match running directory (some filter) machine with
    | (container :: _, machine) => (some container, machine)
    | ([], machine) => firstFiltered directory more machine

def find (directory : Text) (machine : Machine) : Option Text × Machine :=
  match firstFiltered directory ["ancestor=postgres", "name=postgres"] machine with
  | (some container, machine) => (some container, machine)
  | (none, machine) =>
    let (containers, machine) := running directory none machine
    firstWithClient directory containers machine

end Runbook.Container
