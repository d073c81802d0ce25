import Mathlib
import Runbook.Proofs.Confinement

/-! Which programs a session starts. Of the candidates of a language the first one that is there is
the only one that is started; and a container that stands in for a missing client is looked for
once in a sequence of requests, and is the same for all of them. -/
namespace Runbook

theorem programs_candidates (language : Language) {temporary : Option Text}
    (made : temporary.isSome = (language.tempFile != .absent)) :
    Interpreter.programs (language.candidates temporary) = language.programs := by
  cases temporary with
  | none => cases language <;> first | contradiction | rfl
  | some path => cases language <;> first | contradiction | rfl

theorem candidates_named (language : Language) (temporary : Option Text) :
    [] ∉ language.candidates temporary := by
  cases temporary with
  | none => cases language <;> decide
  | some path =>
    rcases Session.candidates_cases language path with shape | shape | ⟨-, shape⟩ <;>
      simp [shape, Session.client]

theorem zero_free_candidates (language : Language) {temporary : Option Text}
    (clean : ∀ path, temporary = some path → '\x00' ∉ path) :
    ∀ candidate ∈ language.candidates temporary, ∀ argument ∈ candidate, '\x00' ∉ argument := by
  cases temporary with
  | none => cases language <;> decide
  | some path =>
    have clean := clean path rfl
    have output : '\x00' ∉ Path.sibling path ['.', 's', 'v', 'g'] := by
      intro member
      rcases Path.mem_sibling member with same | inside | inside
      · contradiction
      · exact clean inside
      · revert inside
        decide
    have programs : ∀ program ∈ language.programs, '\x00' ∉ program := by
      cases language <;> decide
    rcases Session.candidates_cases language path with shape | shape | ⟨-, shape⟩
    · rw [shape]
      decide
    · simpa [shape, clean] using programs
    · simpa [shape, clean] using output

namespace Interpreter

/-- The first program that is there. -/
def present? (machine : Machine) (names : List Text) : Option Text :=
  names.find? fun name => (machine.programs name).isSome

/-- What becomes of some candidates: none is there, or the first that is there may not be started,
or it is the one that is started. -/
inductive Tried (limit : Option Duration) (language : Language) (location : Location)
    (stdin : Text) (exhausted : Failure) (candidates : List (List Text)) (machine : Machine) :
    Except Failure Outcome × Machine → Prop
  | absent (nobody : present? machine (programs candidates) = none) :
      Tried limit language location stdin exhausted candidates machine (.error exhausted, machine)
  | locked {program : Text} (first : present? machine (programs candidates) = some program)
      (locked : machine.programs program = some .locked) :
      Tried limit language location stdin exhausted candidates machine
        (.error (refusal language program .denied), machine)
  | started {program : Text} {call : Call} {reaction : Reaction} {after : Machine}
      (first : present? machine (programs candidates) = some program)
      (command : program :: call.arguments ∈ candidates) (input : call.stdin = stdin)
      (starts : after.starts = machine.starts ++ [⟨program, call, location, !reaction.hangs⟩]) :
      Tried limit language location stdin exhausted candidates machine
        (.ok (outcome limit reaction), after)

variable {limit : Option Duration} {language : Language} {location : Location}
  {directory stdin : Text} {exhausted : Failure} {candidates : List (List Text)}
  {machine : Machine}

theorem Tried.skip {program : Text} {arguments : List Text}
    {answer : Except Failure Outcome × Machine} (absent : machine.programs program = none)
    (tried : Tried limit language location stdin exhausted candidates machine answer) :
    Tried limit language location stdin exhausted ((program :: arguments) :: candidates) machine
      answer := by
  have same : present? machine (programs ((program :: arguments) :: candidates)) =
      present? machine (programs candidates) := by
    simp [present?, programs, absent]
  cases tried with
  | absent nobody => exact .absent (same.trans nobody)
  | locked first locked => exact .locked (same.trans first) locked
  | started first command input starts =>
    exact .started (same.trans first) (List.mem_cons_of_mem _ command) input starts

theorem tryAll_tried (entered : machine.enter directory = .ok location)
    (named : ∀ candidate ∈ candidates, candidate ≠ [])
    (clean : ∀ candidate ∈ candidates, ∀ argument ∈ candidate, '\x00' ∉ argument) :
    Tried limit language location stdin exhausted candidates machine
      (tryAll limit language directory stdin exhausted candidates machine) := by
  induction candidates with
  | nil => exact .absent rfl
  | cons candidate more ih =>
    have onward := ih (fun other member => named other (by simp [member]))
      fun other member => clean other (by simp [member])
    cases candidate with
    | nil => exact absurd rfl (named [] (by simp))
    | cons program arguments =>
      have bare : (arguments.any fun argument => argument.contains '\x00') = false := by
        simpa using fun argument member => clean _ List.mem_cons_self argument (by simp [member])
      rw [tryAll]
      cases there : machine.programs program with
      | none =>
        simp only [Machine.start, bare, entered, there]
        exact onward.skip there
      | some known =>
        have first : present? machine (programs ((program :: arguments) :: more)) = some program := by
          simp [present?, programs, there]
        cases known with
        | locked =>
          simp only [Machine.start, bare, entered, there]
          exact .locked first there
        | runnable react =>
          simp only [Machine.start, bare, entered, there]
          exact .started first (by simp) rfl rfl

end Interpreter

namespace Session

/-- One request of a sequence, with the session before and after. -/
structure Step where
  request : Request
  before : Session
  result : Except Failure Outcome
  after : Session

/-- A session executes some requests in a directory, one after the other, also after a failure. -/
def steps (directory : Text) (session : Session) : List Request → List Step
  | [] => []
  | request :: more =>
    let (result, after) := session.execute directory request
    ⟨request, session, result, after⟩ :: steps directory after more

namespace Step

def machine (step : Step) : Machine := step.before.machine

def language (step : Step) : Language := step.request.language

/-- These are the starts that the step has added to the record. -/
def Starts (step : Step) (starts : List Start) : Prop :=
  step.after.machine.starts = step.machine.starts ++ starts

/-- The first of the language's programs that is there. -/
def present? (step : Step) : Option Text :=
  Interpreter.present? step.machine step.language.programs

/-- The block gets the temporary file that it asks for, which a writable directory allows. -/
def IsPrepared (directory : Text) (step : Step) : Prop :=
  (prepare directory step.request step.machine).1.isOk = true

/-- The program is the only one that is started, or it may not be started and that is the
failure. -/
inductive RunsOnly (location : Location) (program : Text) (step : Step) : Prop
  | started {call : Call} {finished : Bool} {outcome : Outcome}
      (starts : step.Starts [⟨program, call, location, finished⟩])
      (result : step.result = .ok outcome)
  | locked (locked : step.machine.programs program = some .locked) (starts : step.Starts [])
      (result : step.result = .error (Interpreter.refusal step.language program .denied))

/-- The first program that is there runs the block. If there is none, nothing is started here, and
without a container that is the failure. -/
structure SelectsProgram (location : Location) (step : Step) : Prop where
  first : ∀ program, step.present? = some program → step.RunsOnly location program
  missing : step.language.hasContainerFallback = false →
    ((∃ name program, step.result = .error (.missingInterpreter name program)) ↔
      step.present? = none)
  named : step.language.hasContainerFallback = false → step.present? = none →
    step.Starts [] ∧ step.result =
      .error (.missingInterpreter step.language.name (Text.joined " or " step.language.programs))

theorem RunsOnly.selects {step : Step} {location : Location} {program : Text}
    (first : step.present? = some program) (only : step.RunsOnly location program) :
    step.SelectsProgram location where
  first other found := by
    obtain rfl := Option.some.inj (first.symm.trans found)
    exact only
  missing _ := by
    rw [first]
    simp only [reduceCtorEq, iff_false, not_exists]
    intro name other missing
    cases only with
    | started _ result => simp [result] at missing
    | locked _ _ result => simp [result, Interpreter.refusal] at missing
  named _ nobody := by
    rw [first] at nobody
    contradiction

/-- No program for the block is there, and a container may stand in. -/
def fallsBack (step : Step) : Bool := step.language.hasContainerFallback && step.present?.isNone

/-- What a container's client is given: the settings that are made, in their order, and the client's
own command. -/
def containerArguments (step : Step) (container : Text) : List Text :=
  (["exec", "-i", "-u", "postgres"] : List Text) ++
    (Container.settings step.machine).flatMap (fun setting =>
      ["-e".toList, setting.1 ++ '=' :: setting.2]) ++
    [container, "psql", "-A", "-t", "-X"]

def input (step : Step) : Text :=
  (Invocation.stdin? step.language step.request.content step.request.options).getD []

/-- The required settings that are not made. -/
def unset (step : Step) : List Text :=
  (["PGUSER", "PGDATABASE"] : List Text).filter fun name => (step.machine.environment name).isNone

/-- What becomes of a block without a program of its own, once it is known which container stands
in. So far the record has the given starts. -/
inductive RunsContained (location : Location) (earlier : List Start) (step : Step) :
    Option Text → Prop
  | nowhere (starts : step.after.machine.starts = earlier)
      (result : step.result = .error (.missingInterpreter "psql" "psql")) :
      RunsContained location earlier step none
  | unset {container : Text} (names : step.unset ≠ [])
      (starts : step.after.machine.starts = earlier)
      (result : step.result = .error (Container.missingFailure step.unset)) :
      RunsContained location earlier step (some container)
  | started {container : Text} {call : Call} {finished : Bool} {outcome : Outcome}
      (names : step.unset = [])
      (starts : step.after.machine.starts = earlier ++ [⟨"docker", call, location, finished⟩])
      (arguments : call.arguments = step.containerArguments container)
      (input : call.stdin = step.input) (result : step.result = .ok outcome) :
      RunsContained location earlier step (some container)
  | refused {container : Text} (names : step.unset = [])
      (zero : ∃ argument ∈ step.containerArguments container, '\x00' ∈ argument)
      (starts : step.after.machine.starts = earlier)
      (result : step.result = .error (Interpreter.refusal .psql "docker" .zeroInArgument)) :
      RunsContained location earlier step (some container)

end Step

/-- In a row of steps that fall back on a container, the first one looks for it, and the others only
use what it has found. -/
def Consults (directory : Text) (location : Location) (answer : Option Text) :
    List Step → Prop
  | [] => True
  | first :: later =>
    (∃ questions middle, Container.Asked directory first.machine questions middle ∧
      Container.Decides questions answer ∧
      first.RunsContained location middle.starts answer) ∧
    ∀ step ∈ later, step.RunsContained location step.machine.starts answer

variable {directory place : Text} {location : Location} {session : Session} {request : Request}

def step (directory : Text) (session : Session) (request : Request) : Step :=
  ⟨request, session, (session.execute directory request).1, (session.execute directory request).2⟩

@[simp] theorem machine_step (directory : Text) (session : Session) (request : Request) :
    (step directory session request).machine = session.machine := rfl

@[simp] theorem language_step (directory : Text) (session : Session) (request : Request) :
    (step directory session request).language = request.language := rfl

theorem steps_cons (directory : Text) (session : Session) (request : Request)
    (more : List Request) :
    steps directory session (request :: more) =
      step directory session request :: steps directory (step directory session request).after more :=
  rfl

theorem starts_discard (temporary : Option Text) (machine : Machine) :
    (discard temporary machine).starts = machine.starts := by
  unfold discard
  split <;> rfl

theorem missing_settings (step : Step) :
    Container.missing (Container.settings step.machine) = step.unset := by
  have absent (name : Text) (handed : name ∈ Container.handedOn) :
      (Container.settings step.machine).any (fun setting => setting.1 == name) =
        (step.machine.environment name).isSome := by
    rw [Bool.eq_iff_iff]
    simp only [Container.settings, List.any_eq_true, List.mem_filterMap, Option.map_eq_some_iff,
      beq_iff_eq, Option.isSome_iff_exists]
    constructor
    · rintro ⟨setting, ⟨other, -, value, known, rfl⟩, rfl⟩
      exact ⟨value, known⟩
    · rintro ⟨value, known⟩
      exact ⟨(name, value), ⟨name, handed, value, known, rfl⟩, rfl⟩
  refine List.filter_congr fun name member => ?_
  rw [absent name (by revert member; revert name; decide)]
  simp

theorem zero_free_of_owns {touched : Location → Prop} {machine : Machine} {path : Text}
    (owns : Owns touched machine path) : '\x00' ∉ path := by
  obtain ⟨spot, located, -⟩ := owns
  intro zero
  have refused : FileTree.check path = .error .zeroInName := by
    rw [FileTree.check, if_pos (by simpa using zero)]
  simp [FileTree.locate, refused, bind, Except.bind] at located

theorem run_tried (directory : Text) {machine : Machine} {n : Nat} (limit : Option Duration)
    (entered : session.machine.enter place = .ok location)
    (ready : Prepared (fun _ => True) place request.language session.machine
      (temporaryPath place request.language (session.machine.tokens n)) machine) :
    Interpreter.Tried limit request.language location (step directory session request).input
      (.missingInterpreter request.language.name (Text.joined " or " request.language.programs))
      (request.language.candidates (temporaryPath place request.language (session.machine.tokens n)))
      machine
      (Interpreter.run limit request.language place (invocation request
        (temporaryPath place request.language (session.machine.tokens n))) machine) := by
  have made := isSome_temporaryPath place request.language (session.machine.tokens n)
  rw [← programs_candidates request.language made]
  refine Interpreter.tryAll_tried (ready.later.enter entered) ?_
    (zero_free_candidates request.language fun path named => zero_free_of_owns (ready.owned path named))
  rintro candidate member rfl
  exact candidates_named _ _ member

/-- What the own programs answer stands, unless it is that none is there and a container may stand
in. -/
theorem runAnywhere_own {language : Language} {call : Invocation}
    {result : Except Failure Outcome} {after : Machine}
    (answered : Interpreter.run session.timeLimit language place call session.machine =
      (result, after))
    (own : language.hasContainerFallback = false ∨
      ∀ name program, result ≠ .error (.missingInterpreter name program)) :
    runAnywhere place language call session = (result, { session with machine := after }) := by
  simp only [runAnywhere, runLocally, answered]
  split
  · rename_i name program middle shape
    obtain ⟨rfl, rfl⟩ := Prod.mk.inj shape
    rcases own with none | other
    · simp [none]
    · exact absurd rfl (other name program)
  · rfl

theorem runAnywhere_fallback {language : Language} {call : Invocation} {name program : Text}
    {after : Machine} (fallback : language.hasContainerFallback = true)
    (answered : Interpreter.run session.timeLimit language place call session.machine =
      (.error (.missingInterpreter name program), after)) :
    runAnywhere place language call session =
      runContained place language call (.missingInterpreter name program)
        { session with machine := after } := by
  simp [runAnywhere, runLocally, answered, fallback]

theorem command_client (step : Step) (container : Text) :
    Container.command container (Container.settings step.machine) client =
      Container.program :: step.containerArguments container := by
  simp [Container.command, Step.containerArguments, Container.program, client]

theorem runLocally_single (language : Language) {call : Invocation} {program : Text}
    {arguments : List Text} {react : Call → Reaction}
    (only : call.candidates = [program :: arguments])
    (entered : session.machine.enter place = .ok location)
    (runnable : session.machine.programs program = some (.runnable react)) :
    ((∃ argument ∈ arguments, '\x00' ∈ argument) ∧ runLocally place language call session =
        (.error (Interpreter.refusal language program .zeroInArgument), session)) ∨
      ∃ start reaction machine, start.arguments = arguments ∧ start.stdin = call.stdin.getD [] ∧
        machine.starts = session.machine.starts ++ [⟨program, start, location, !reaction.hangs⟩] ∧
        runLocally place language call session =
          (.ok (Interpreter.outcome session.timeLimit reaction), { session with machine }) := by
  cases zero : arguments.any fun argument => argument.contains '\x00' with
  | true =>
    refine .inl ⟨by simpa using zero, ?_⟩
    simp only [runLocally, Interpreter.run, only, Interpreter.tryAll, Machine.start, zero]
    rfl
  | false =>
    obtain ⟨reaction, after, started⟩ : ∃ reaction after,
        session.machine.start place program arguments (call.stdin.getD []) =
          .ok (reaction, after) := by
      simp only [Machine.start, zero, entered, runnable]
      exact ⟨_, _, rfl⟩
    obtain ⟨spot, _, there, -, -, same⟩ := Machine.start_origin started
    obtain rfl := Except.ok.inj (entered.symm.trans there)
    refine .inr ⟨⟨arguments, call.stdin.getD [],
      Machine.script? session.machine.tree location arguments⟩, reaction, after, rfl, rfl, ?_, ?_⟩
    · rw [same]
    · simp only [runLocally, Interpreter.run, only, Interpreter.tryAll, started]

theorem runsContained_step {middle after : Session} {answer : Option Text}
    {result : Except Failure Outcome} {finish : Outcome → Outcome}
    (entered : middle.machine.enter place = .ok location)
    (environment : middle.machine.environment = session.machine.environment)
    (listed : ∀ container, answer = some container → Container.MayList middle.machine container)
    (ran : runIn place .psql (invocation request none) (.missingInterpreter "psql" "psql") client
      (answer, middle) = (result, after))
    (finished : (step directory session request).result = result.map finish)
    (starts : (step directory session request).after.machine.starts = after.machine.starts) :
    after.container = middle.container ∧
      (step directory session request).RunsContained location middle.machine.starts answer := by
  cases answer with
  | none =>
    obtain ⟨rfl, rfl⟩ := Prod.mk.inj ran
    exact ⟨rfl, .nowhere starts finished⟩
  | some container =>
    obtain ⟨react, call, runnable, -⟩ := listed container rfl
    have settings : Container.settings middle.machine =
        Container.settings (step directory session request).machine := by
      simp only [Container.settings, environment, machine_step]
    simp only [runIn, settings, missing_settings, command_client] at ran
    cases names : (step directory session request).unset with
    | cons name others =>
      rw [names] at ran
      obtain ⟨rfl, rfl⟩ := Prod.mk.inj ran
      exact ⟨rfl, .unset (by simp [names]) starts (by rw [names]; exact finished)⟩
    | nil =>
      rw [names] at ran
      have only : ({ invocation request none with candidates := [Container.program ::
          (step directory session request).containerArguments container] } :
            Invocation).candidates = [_ :: _] := rfl
      rcases runLocally_single .psql only entered runnable with
        ⟨zero, shape⟩ | ⟨call, reaction, machine, arguments, input, added, shape⟩
      · obtain ⟨rfl, rfl⟩ := Prod.mk.inj (shape.symm.trans ran)
        exact ⟨rfl, .refused names zero starts finished⟩
      · obtain ⟨rfl, rfl⟩ := Prod.mk.inj (shape.symm.trans ran)
        exact ⟨rfl, .started names (starts.trans added) arguments input finished⟩

section

variable (confined : Confined (fun _ => True) place session)
  (seen : Path.absolute session.machine.here.path directory = place)
  (prepared : (step directory session request).IsPrepared place)
include confined seen prepared

theorem execute_ran :
    ∃ (n : Nat) (machine : Machine),
      Prepared (fun _ => True) place request.language session.machine
        (temporaryPath place request.language (session.machine.tokens n)) machine ∧
      ∀ result after, runAnywhere place request.language (invocation request
          (temporaryPath place request.language (session.machine.tokens n)))
            { session with machine } = (result, after) →
        ∃ finish, (step directory session request).result = result.map finish ∧
          (step directory session request).after.container = after.container ∧
          (step directory session request).after.machine.starts = after.machine.starts := by
  rcases prepare_cases place request session.machine confined.free with
    ⟨drawn, path, fault, shape⟩ | ⟨temporary, machine, shape, ready⟩
  · simp [Step.IsPrepared, step, Step.machine, shape, Except.isOk, Except.toBool] at prepared
  · obtain ⟨n, rfl⟩ := ready.named
    refine ⟨n, machine, ready, fun result after ran => ?_⟩
    have made := isSome_temporaryPath place request.language (session.machine.tokens n)
    subst seen
    simp only [step, execute_eq _ _ _ shape made, ran, true_and]
    exact ⟨_, rfl, starts_discard _ _⟩

theorem selectsProgram_step (entered : session.machine.enter place = .ok location) :
    (step directory session request).SelectsProgram location ∧
      ((step directory session request).fallsBack = false →
        (step directory session request).after.container = session.container) := by
  obtain ⟨n, machine, ready, ran⟩ := execute_ran confined seen prepared
  have tried := run_tried directory session.timeLimit entered ready
  have made := isSome_temporaryPath place request.language (session.machine.tokens n)
  have present : Interpreter.present? machine (Interpreter.programs (request.language.candidates
      (temporaryPath place request.language (session.machine.tokens n)))) =
      (step directory session request).present? := by
    rw [programs_candidates request.language made]
    simp only [Interpreter.present?, ready.later.programs]
    rfl
  cases answered : Interpreter.run session.timeLimit request.language place (invocation request
      (temporaryPath place request.language (session.machine.tokens n))) machine with
  | mk result after =>
    rw [answered] at tried
    cases tried with
    | absent nobody =>
      rw [present] at nobody
      refine ⟨⟨fun program first => ?_, fun none => ?_, fun none absent => ?_⟩, fun own => ?_⟩
      · rw [nobody] at first
        contradiction
      · obtain ⟨finish, result, -⟩ := ran _ _ (runAnywhere_own answered (.inl none))
        exact ⟨fun _ => nobody, fun _ => ⟨_, _, result⟩⟩
      · obtain ⟨finish, result, -, starts⟩ := ran _ _ (runAnywhere_own answered (.inl none))
        exact ⟨by simpa [Step.Starts, ready.quiet] using starts, result⟩
      · have none : request.language.hasContainerFallback = false := by
          simpa only [Step.fallsBack, nobody, Option.isNone_none, Bool.and_true, language_step]
            using own
        obtain ⟨finish, -, container, -⟩ := ran _ _ (runAnywhere_own answered (.inl none))
        exact container
    | @locked program first locked =>
      rw [present] at first
      obtain ⟨finish, result, container, starts⟩ := ran _ _
        (runAnywhere_own answered (.inr (by simp [Interpreter.refusal])))
      refine ⟨Step.RunsOnly.selects first (.locked ?_ ?_ result), fun _ => container⟩
      · simpa [ready.later.programs] using locked
      · simpa [Step.Starts, ready.quiet] using starts
    | @started program call reaction after first command input added =>
      rw [present] at first
      obtain ⟨finish, result, container, starts⟩ := ran _ _
        (runAnywhere_own answered (.inr (by simp)))
      have added : (step directory session request).Starts
          [⟨program, call, location, !reaction.hangs⟩] := by
        simpa [Step.Starts, ready.quiet, added] using starts
      exact ⟨Step.RunsOnly.selects first (.started added result), fun _ => container⟩

theorem runAnywhere_contained (entered : session.machine.enter place = .ok location)
    (falls : (step directory session request).fallsBack = true) :
    request.language = .psql ∧ ∃ finish result after,
      runContained place .psql (invocation request none) (.missingInterpreter "psql" "psql")
          session = (result, after) ∧
        (step directory session request).result = result.map finish ∧
        (step directory session request).after.container = after.container ∧
        (step directory session request).after.machine.starts = after.machine.starts := by
  obtain ⟨n, machine, ready, ran⟩ := execute_ran confined seen prepared
  obtain ⟨fallback, nobody⟩ : request.language.hasContainerFallback = true ∧
      (step directory session request).present? = none := by
    simpa [Step.fallsBack] using falls
  have psql : request.language = .psql := by
    simpa [Language.hasContainerFallback] using fallback
  have bare : temporaryPath place request.language (session.machine.tokens n) = none := by
    rw [psql]
    rfl
  obtain rfl : machine = session.machine := ready.idle bare
  have tried := run_tried directory session.timeLimit entered ready
  have present : Interpreter.present? session.machine (Interpreter.programs
      (request.language.candidates none)) = (step directory session request).present? := by
    rw [programs_candidates request.language (bare ▸ isSome_temporaryPath place _ _)]
    rfl
  rw [bare] at tried ran
  suffices contained : ∃ result after, runContained place .psql (invocation request none)
      (.missingInterpreter "psql" "psql") session = (result, after) ∧
      runAnywhere place request.language (invocation request none) session = (result, after) by
    obtain ⟨result, after, contained, answered⟩ := contained
    obtain ⟨finish, ended⟩ := ran result after answered
    exact ⟨psql, finish, result, after, contained, ended⟩
  cases answered : Interpreter.run session.timeLimit request.language place
      (invocation request none) session.machine with
  | mk result machine =>
    rw [answered] at tried
    cases tried with
    | absent =>
      refine ⟨_, _, rfl, ?_⟩
      rw [runAnywhere_fallback fallback answered, psql]
      rfl
    | locked first => simp [present, nobody] at first
    | started first => simp [present, nobody] at first

theorem contained_step (entered : session.machine.enter place = .ok location)
    (falls : (step directory session request).fallsBack = true) :
    ∃ answer, (step directory session request).after.container = some answer ∧
      ((session.container = some answer ∧
          (step directory session request).RunsContained location session.machine.starts answer) ∨
        session.container = none ∧ ∃ questions middle,
          Container.Asked place session.machine questions middle ∧
          Container.Decides questions answer ∧
          (step directory session request).RunsContained location middle.starts answer) := by
  obtain ⟨psql, finish, outcome, after, ran, result, container, starts⟩ :=
    runAnywhere_contained confined seen prepared entered falls
  have only : (invocation request none).candidates = [client] := by
    rw [invocation, psql]
    rfl
  obtain ⟨follows, listed⟩ := follows_findContainer confined
  rw [runContained_eq only] at ran
  cases known : session.container with
  | some answer =>
    have shape : findContainer place session = (answer, session) := by
      simp only [findContainer, known]
    rw [shape] at ran listed
    obtain ⟨kept, contained⟩ := runsContained_step entered rfl listed ran result starts
    exact ⟨answer, container.trans (kept.trans known), .inl ⟨rfl, contained⟩⟩
  | none =>
    obtain ⟨questions, asked, decides⟩ := Container.find_asked place session.machine
    have shape : findContainer place session = ((Container.find place session.machine).1,
        { session with
          machine := (Container.find place session.machine).2
          container := some (Container.find place session.machine).1 }) := by
      simp only [findContainer, known]
    rw [shape] at ran listed follows
    have listed (found : Text) (same : (Container.find place session.machine).1 = some found) :
        Container.MayList (Container.find place session.machine).2 found := by
      obtain ⟨react, call, runnable, named⟩ := listed found same
      exact ⟨react, call, follows.later.programs ▸ runnable, named⟩
    obtain ⟨kept, contained⟩ := runsContained_step (follows.later.enter entered)
      follows.later.environment listed ran result starts
    exact ⟨_, container.trans kept, .inr ⟨rfl, questions, _, asked, decides, contained⟩⟩

omit prepared in
theorem ready_step (request : Request) (entered : session.machine.enter place = .ok location) :
    Confined (fun _ => True) place (step directory session request).after ∧
      Path.absolute (step directory session request).after.machine.here.path directory = place ∧
      (step directory session request).after.machine.enter place = .ok location := by
  subst seen
  have follows := follows_execute directory request confined
  refine ⟨follows.confined, ?_, follows.later.enter entered⟩
  rw [step, follows.later.here]

end

/-- Once the container is known, every step that falls back uses it. -/
theorem steps_known (requests : List Request) {answer : Option Text}
    (confined : Confined (fun _ => True) place session)
    (seen : Path.absolute session.machine.here.path directory = place)
    (entered : session.machine.enter place = .ok location)
    (prepared : ∀ step ∈ session.steps directory requests, step.IsPrepared place)
    (known : session.container = some answer) :
    ∀ step ∈ session.steps directory requests, step.SelectsProgram location ∧
      (step.fallsBack = true → step.RunsContained location step.machine.starts answer) := by
  induction requests generalizing session with
  | nil => simp [steps]
  | cons request more ih =>
    rw [steps_cons] at prepared ⊢
    have first := prepared _ List.mem_cons_self
    obtain ⟨selects, own⟩ := selectsProgram_step confined seen first entered
    obtain ⟨confined', seen', entered'⟩ := ready_step confined seen request entered
    have contained (falls : (step directory session request).fallsBack = true) :
        (step directory session request).after.container = some answer ∧
          (step directory session request).RunsContained location session.machine.starts answer := by
      obtain ⟨found, container, ⟨same, contained⟩ | ⟨unknown, -⟩⟩ :=
        contained_step confined seen first entered falls
      · obtain rfl : answer = found := Option.some.inj (known.symm.trans same)
        exact ⟨container, contained⟩
      · rw [known] at unknown
        contradiction
    have kept : (step directory session request).after.container = some answer := by
      cases falls : (step directory session request).fallsBack with
      | true => exact (contained falls).1
      | false => rw [own falls, known]
    intro other member
    rcases List.mem_cons.mp member with rfl | member
    · exact ⟨selects, fun falls => (contained falls).2⟩
    · exact ih confined' seen' entered' (fun other member => prepared other (by simp [member])) kept
        other member

/-- As long as no container is known, the first step that falls back looks for one. -/
theorem steps_unknown (requests : List Request) (confined : Confined (fun _ => True) place session)
    (seen : Path.absolute session.machine.here.path directory = place)
    (entered : session.machine.enter place = .ok location)
    (prepared : ∀ step ∈ session.steps directory requests, step.IsPrepared place)
    (unknown : session.container = none) :
    (∀ step ∈ session.steps directory requests, step.SelectsProgram location) ∧
      ∃ answer, Consults place location answer
        ((session.steps directory requests).filter Step.fallsBack) := by
  induction requests generalizing session with
  | nil => exact ⟨by simp [steps], none, trivial⟩
  | cons request more ih =>
    rw [steps_cons] at prepared ⊢
    have first := prepared _ List.mem_cons_self
    have others : ∀ other ∈ steps directory (step directory session request).after more,
        other.IsPrepared place := fun other member => prepared other (by simp [member])
    obtain ⟨selects, own⟩ := selectsProgram_step confined seen first entered
    obtain ⟨confined', seen', entered'⟩ := ready_step confined seen request entered
    rw [List.filter_cons]
    cases falls : (step directory session request).fallsBack with
    | false =>
      obtain ⟨onward, answer, consults⟩ :=
        ih confined' seen' entered' others ((own falls).trans unknown)
      refine ⟨fun other member => ?_, answer, consults⟩
      rcases List.mem_cons.mp member with rfl | member
      · exact selects
      · exact onward other member
    | true =>
      -- From this step on it is known which container stands in.
      obtain ⟨answer, container, ⟨known, -⟩ | ⟨-, questions, middle, asked, decides, contained⟩⟩ :=
        contained_step confined seen first entered falls
      · rw [unknown] at known
        contradiction
      · have onward := steps_known more confined' seen' entered' others container
        refine ⟨fun other member => ?_, answer, ⟨questions, middle, asked, decides, contained⟩, ?_⟩
        · rcases List.mem_cons.mp member with rfl | member
          · exact selects
          · exact (onward other member).1
        · intro other member
          obtain ⟨member, falls⟩ := List.mem_filter.mp member
          exact (onward other member).2 falls

theorem confined_everywhere {directory : Text} (absolute : Path.isAbsolute directory = true)
    (unknown : session.container = none) : Confined (fun _ => True) directory session where
  absolute := absolute
  free _ _ := trivial
  interpreters _ _ _ _ _ _ _ _ _ _ := trivial
  questions _ _ _ _ _ _ _ _ := trivial
  contained _ _ _ _ _ _ _ _ := trivial
  known container same := by
    rw [unknown] at same
    contradiction

/-- Over a whole sequence of requests in a directory where files can be made, each block is run by the
first program of its language that is there, and by no other; and the blocks of which there is none
are run in one and the same container, which is looked for by the first of them. -/
theorem steps_select (directory : Text) (session : Session) (requests : List Request)
    {location : Location} (fresh : session.container = none)
    (entered : session.machine.enter (Path.absolute session.machine.here.path directory) =
      .ok location)
    (writable : ∀ step ∈ session.steps directory requests,
      step.IsPrepared (Path.absolute session.machine.here.path directory)) :
    (∀ step ∈ session.steps directory requests, step.SelectsProgram location) ∧
      ∃ answer, Consults (Path.absolute session.machine.here.path directory) location answer
        ((session.steps directory requests).filter Step.fallsBack) :=
  steps_unknown requests (confined_everywhere rfl fresh) rfl entered writable fresh

theorem isPrepared_step {directory place : Text} {session : Session} {request : Request}
    {suffix content : Text} {tree : FileTree}
    (file : temporaryFile? request.language request.content = some (suffix, content))
    (created : session.machine.tree.create session.machine.here
      (Path.join place
        (request.language.name ++ session.machine.tokens session.machine.drawn ++ suffix))
      (.file (Utf8.encode content)) = .ok tree) :
    (step directory session request).IsPrepared place := by
  simp only [Step.IsPrepared, machine_step]
  rw [show (step directory session request).request = request from rfl, prepare_ok _ file created]
  rfl

/-- A shell that is there, and docker with one container of the database. -/
def surroundings : Machine where
  programs name :=
    if name = "bash".toList then some (.runnable fun _ => {})
    else if name = "docker".toList then some (.runnable fun _ => { stdout := Utf8.encode "c1\n".toList })
    else none
  environment name := if name = "PGHOST".toList then none else some "runner".toList

theorem steps_select_shell_query_query :
    let requests : List Request := [⟨.bash, "ls", {}⟩, ⟨.psql, "SELECT 1", {}⟩, ⟨.psql, "SELECT 2", {}⟩]
    (∀ step ∈ steps "/" { machine := surroundings } requests, step.SelectsProgram []) ∧
      ∃ answer, Consults "/" [] answer
        ((steps "/" { machine := surroundings } requests).filter Step.fallsBack) := by
  intro requests
  refine steps_select "/" { machine := surroundings } requests rfl ?_ ?_
  · cbv
  · intro step member
    simp only [requests, steps, List.mem_cons, List.not_mem_nil, or_false] at member
    rcases member with rfl | rfl | rfl
    · have created : surroundings.tree.create surroundings.here
          (Path.join (Path.absolute surroundings.here.path "/")
            ("bash".toList ++ "0".toList ++ ".sh".toList)) (.file (Utf8.encode "ls".toList)) =
          .ok ⟨[(["bash0.sh".toList], .file (Utf8.encode "ls".toList))]⟩ := by
        cbv
      exact isPrepared_step rfl created
    · rfl
    · rfl

end Session
end Runbook
