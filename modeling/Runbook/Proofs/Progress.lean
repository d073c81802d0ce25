import Runbook.Session
import Runbook.Proofs.Saving

/-! What stays as it is while blocks are executed: where the machine stands, its programs and its
settings never change, starts are only added to the record, and of the files only some places
change. One lemma for each thing that a session does, from the start of a program up to the
execution of a block. -/
namespace Runbook

/-- A machine later on: only the touched places have changed. -/
structure Machine.Later (touched : Location → Prop) (before after : Machine) : Prop where
  here : after.here = before.here
  programs : after.programs = before.programs
  environment : after.environment = before.environment
  planService : after.planService = before.planService
  tokens : after.tokens = before.tokens
  times : after.times = before.times
  starts : before.starts <+: after.starts
  tree : FileTree.Changes touched before.tree after.tree

namespace Machine

variable {touched : Location → Prop} {machine before middle after : Machine}
  {directory program stdin : Text} {arguments : List Text} {reaction : Reaction}

namespace Later

theorem refl (touched : Location → Prop) (machine : Machine) : Later touched machine machine :=
  ⟨rfl, rfl, rfl, rfl, rfl, rfl, List.prefix_refl _, .refl _ _⟩

theorem trans (first : Later touched before middle) (second : Later touched middle after) :
    Later touched before after where
  here := second.here.trans first.here
  programs := second.programs.trans first.programs
  environment := second.environment.trans first.environment
  planService := second.planService.trans first.planService
  tokens := second.tokens.trans first.tokens
  times := second.times.trans first.times
  starts := first.starts.trans second.starts
  tree := first.tree.trans second.tree

theorem mono {more : Location → Prop} (later : Later touched before after)
    (within : ∀ place, touched place → more place) : Later more before after :=
  { later with tree := later.tree.mono within }

end Later

theorem Later.of_tree {tree : FileTree} (changes : FileTree.Changes touched machine.tree tree) :
    Later touched machine { machine with tree } :=
  ⟨rfl, rfl, rfl, rfl, rfl, rfl, List.prefix_refl _, changes⟩

theorem Later.of_drawn (touched : Location → Prop) (machine : Machine) (drawn : Nat) :
    Later touched machine { machine with drawn } :=
  ⟨rfl, rfl, rfl, rfl, rfl, rfl, List.prefix_refl _, .refl _ _⟩

theorem enter_iff {location : Location} :
    machine.enter directory = .ok location ↔
      machine.tree.find machine.here directory = .ok (location, .directory) := by
  unfold enter
  split <;> simp_all

theorem Later.enter {location : Location} (later : Later touched before after)
    (entered : before.enter directory = .ok location) : after.enter directory = .ok location := by
  rw [enter_iff] at entered ⊢
  rw [later.here]
  exact later.tree.find_directory entered

theorem stands_of_enter {location : Location}
    (stands : machine.tree.Stands (FileTree.start machine.here directory))
    (entered : machine.enter directory = .ok location) : machine.tree.Stands location := by
  rw [enter_iff] at entered
  simp only [FileTree.find, bind, Except.bind] at entered
  split at entered
  · contradiction
  · rename_i place located
    split at entered
    · rename_i entry stood
      obtain ⟨rfl, rfl⟩ := by simpa using entered
      cases stands.reached_path located with
      | directory stood => exact stood
      | entry _ plain =>
        obtain ⟨bytes, same⟩ := plain (by simp) _ stood
        contradiction
    · contradiction

/-- A program was started in the directory and has left its mark. -/
theorem start_origin (started : machine.start directory program arguments stdin = .ok (reaction, after)) :
    ∃ location react, machine.enter directory = .ok location ∧
      machine.programs program = some (.runnable react) ∧
      reaction = react ⟨arguments, stdin, script? machine.tree location arguments⟩ ∧
      after = { machine with
        tree := afterwards machine.tree location arguments reaction
        starts := machine.starts ++
          [⟨program, ⟨arguments, stdin, script? machine.tree location arguments⟩, location,
            !reaction.hangs⟩] } := by
  unfold start at started
  split at started
  · contradiction
  · split at started
    · contradiction
    · rename_i location entered
      split at started
      · contradiction
      · contradiction
      · rename_i react runnable
        obtain ⟨rfl, rfl⟩ := by simpa using started
        exact ⟨location, react, entered, runnable, rfl, rfl⟩

/-- The file that a program started here would be asked to write may be touched. -/
def Spares (touched : Location → Prop) (machine : Machine) (directory : Text)
    (arguments : List Text) : Prop :=
  ∀ location path place, machine.enter directory = .ok location →
    outputArgument? arguments = some path →
    machine.tree.locate location path .made = .ok place → touched place

theorem later_start (stands : machine.tree.Stands (FileTree.start machine.here directory))
    (spares : machine.Spares touched directory arguments)
    (started : machine.start directory program arguments stdin = .ok (reaction, after)) :
    Later touched machine after := by
  obtain ⟨location, react, entered, runnable, same, rfl⟩ := start_origin started
  refine ⟨rfl, rfl, rfl, rfl, rfl, rfl, List.prefix_append _ _, ?_⟩
  unfold afterwards
  split
  · rename_i bytes path output argument
    cases written : machine.tree.write location path bytes with
    | error fault => exact .refl _ _
    | ok tree =>
      exact ((stands_of_enter stands entered).beginning path).changes_write written fun place found =>
        spares location path place entered argument found
  · exact .refl _ _

theorem Later.spares (later : Later touched before after)
    (spares : before.Spares touched directory arguments) :
    after.Spares touched directory arguments := by
  intro location path place entered argument found
  rw [enter_iff, later.here] at entered
  exact spares location path place (enter_iff.mpr (later.tree.symm.find_directory entered)) argument
    (later.tree.symm.locate found)

theorem Spares.of_none (silent : outputArgument? arguments = none) :
    machine.Spares touched directory arguments := by
  intro location path place _ argument
  rw [silent] at argument
  contradiction

end Machine

namespace Interpreter

variable {touched : Location → Prop} {machine : Machine} {directory stdin : Text}

theorem later_tryAll {limit : Option Duration} {language : Language} {exhausted : Failure}
    {candidates : List (List Text)}
    (stands : machine.tree.Stands (FileTree.start machine.here directory))
    (spares : ∀ candidate ∈ candidates, machine.Spares touched directory candidate.tail) :
    machine.Later touched
      (tryAll limit language directory stdin exhausted candidates machine).2 := by
  induction candidates with
  | nil => exact .refl _ _
  | cons candidate more ih =>
    have onward := ih fun other member => spares other (by simp [member])
    cases candidate with
    | nil => exact onward
    | cons program arguments =>
      rw [tryAll]
      split
      · exact onward
      · exact .refl _ _
      · rename_i started
        exact Machine.later_start stands (spares _ List.mem_cons_self) started

end Interpreter

namespace Session

variable {touched : Location → Prop} {machine after : Machine} {directory path : Text}

/-- The path of a block's temporary file, if its language asks for one. -/
def temporaryPath (directory : Text) (language : Language) (token : Text) : Option Text :=
  (temporaryFile? language []).map fun file =>
    Path.join directory (language.name ++ token ++ file.1)

/-- A path that leads to a file, or to where one was, at a place that may be touched. -/
def Owns (touched : Location → Prop) (machine : Machine) (path : Text) : Prop :=
  ∃ place, machine.tree.locate machine.here path .kept = .ok place ∧
    machine.tree.IsPlain place ∧ touched place

/-- The temporary file is made under one of the machine's tokens, or nothing is. -/
theorem createTemporary_cases (directory beginning suffix content : Text) (tries : Nat)
    (machine : Machine) :
    (∃ drawn refusal, createTemporary directory beginning suffix content tries machine =
        (.error refusal, { machine with drawn })) ∨
      ∃ drawn n place, machine.tree.locate machine.here
          (Path.join directory (beginning ++ machine.tokens n ++ suffix)) .kept = .ok place ∧
        machine.tree.get? place = none ∧
        createTemporary directory beginning suffix content tries machine =
          (.ok (Path.join directory (beginning ++ machine.tokens n ++ suffix)),
            { machine with
              drawn
              tree := machine.tree.put place (.file (Utf8.encode content)) }) := by
  induction tries generalizing machine with
  | zero =>
    rw [createTemporary]
    simp only [Machine.token]
    split
    · rename_i created
      obtain ⟨place, located, nothing, rfl⟩ := FileTree.create_origin created
      exact .inr ⟨_, _, place, located, nothing, rfl⟩
    · contradiction
    · exact .inl ⟨_, _, rfl⟩
  | succ tries ih =>
    rw [createTemporary]
    simp only [Machine.token]
    split
    · rename_i created
      obtain ⟨place, located, nothing, rfl⟩ := FileTree.create_origin created
      exact .inr ⟨_, _, place, located, nothing, rfl⟩
    · rename_i again _ _ same _
      obtain rfl := Nat.succ.inj same
      rcases ih { machine with drawn := machine.drawn + 1 } with
        ⟨drawn, refusal, shape⟩ | ⟨drawn, n, place, located, nothing, shape⟩
      · exact .inl ⟨drawn, refusal, shape⟩
      · exact .inr ⟨drawn, n, place, located, nothing, shape⟩
    · exact .inl ⟨_, _, rfl⟩

theorem createTemporary_ok {directory beginning suffix content : Text} {tree : FileTree}
    (created : machine.tree.create machine.here
      (Path.join directory (beginning ++ machine.tokens machine.drawn ++ suffix))
      (.file (Utf8.encode content)) = .ok tree) (tries : Nat) :
    createTemporary directory beginning suffix content tries machine =
      (.ok (Path.join directory (beginning ++ machine.tokens machine.drawn ++ suffix)),
        { machine with drawn := machine.drawn + 1, tree }) := by
  cases tries <;> simp only [createTemporary, Machine.token, created]

theorem prepare_ok (request : Request) {directory suffix content : Text} {tree : FileTree}
    (file : temporaryFile? request.language request.content = some (suffix, content))
    (created : machine.tree.create machine.here
      (Path.join directory (request.language.name ++ machine.tokens machine.drawn ++ suffix))
      (.file (Utf8.encode content)) = .ok tree) :
    prepare directory request machine =
      (.ok (some (Path.join directory
          (request.language.name ++ machine.tokens machine.drawn ++ suffix))),
        { machine with drawn := machine.drawn + 1, tree }) := by
  simp only [prepare, file, createTemporary_ok created]

/-- A block is ready to be run: its temporary file is in place. -/
structure Prepared (touched : Location → Prop) (directory : Text) (language : Language)
    (before : Machine) (temporary : Option Text) (after : Machine) : Prop where
  named : ∃ n, temporary = temporaryPath directory language (before.tokens n)
  later : before.Later touched after
  quiet : after.starts = before.starts
  idle : temporary = none → after = before
  owned : ∀ path, temporary = some path → Owns touched after path

theorem later_put {place : Location} (drawn : Nat) (bytes : Bytes)
    (nothing : machine.tree.get? place = none) (free : touched place) :
    machine.Later touched { machine with drawn, tree := machine.tree.put place (.file bytes) } :=
  (Machine.Later.of_drawn touched machine drawn).trans
    (.of_tree (.put (.of_none nothing) free bytes))

theorem temporaryFile_map (language : Language) (content : Text) :
    (temporaryFile? language []).map Prod.fst = (temporaryFile? language content).map Prod.fst := by
  unfold temporaryFile?
  split <;> rfl

/-- What is done before a block is run: its temporary file cannot be made, or it asks for none, or
the file is made at a place where nothing stood. -/
theorem prepare_origin (directory : Text) (request : Request) (machine : Machine) :
    (∃ drawn path fault, prepare directory request machine =
        (.error (temporaryRefusal directory path fault), { machine with drawn })) ∨
      ((∀ n, temporaryPath directory request.language (machine.tokens n) = none) ∧
        prepare directory request machine = (.ok none, machine)) ∨
      ∃ drawn n path place bytes,
        temporaryPath directory request.language (machine.tokens n) = some path ∧
        machine.tree.locate machine.here path .kept = .ok place ∧
        machine.tree.get? place = none ∧
        prepare directory request machine = (.ok (some path),
          { machine with drawn, tree := machine.tree.put place (.file bytes) }) := by
  have suffixes := temporaryFile_map request.language request.content
  unfold prepare
  cases asked : temporaryFile? request.language request.content with
  | none =>
    simp only [asked, Option.map_none, Option.map_eq_none_iff] at suffixes
    exact .inr (.inl ⟨fun n => by rw [temporaryPath, suffixes, Option.map_none], rfl⟩)
  | some file =>
    obtain ⟨suffix, content⟩ := file
    rcases createTemporary_cases directory request.language.name suffix content attempts machine with
      ⟨drawn, ⟨fault, path⟩, shape⟩ | ⟨drawn, n, place, located, nothing, shape⟩
    · exact .inl ⟨drawn, path, fault, by simp only [shape]⟩
    · simp only [asked, Option.map_some, Option.map_eq_some_iff] at suffixes
      obtain ⟨file, same, rfl⟩ := suffixes
      refine .inr (.inr ⟨drawn, n, _, place, _, ?_, located, nothing, by simp only [shape]; rfl⟩)
      rw [temporaryPath, same, Option.map_some]

theorem prepare_cases (directory : Text) (request : Request) (machine : Machine)
    (free : ∀ place, machine.tree.get? place = none → touched place) :
    (∃ drawn path fault, prepare directory request machine =
        (.error (temporaryRefusal directory path fault), { machine with drawn })) ∨
      ∃ temporary after, prepare directory request machine = (.ok temporary, after) ∧
        Prepared touched directory request.language machine temporary after := by
  rcases prepare_origin directory request machine with
    refused | ⟨absent, shape⟩ | ⟨drawn, n, path, place, bytes, named, located, nothing, shape⟩
  · exact .inl refused
  · exact .inr ⟨none, machine, shape, ⟨0, (absent 0).symm⟩, .refl _ _, rfl, fun _ => rfl, by simp⟩
  · have later := later_put drawn bytes nothing (free place nothing)
    refine .inr ⟨_, _, shape, ⟨n, named.symm⟩, later, rfl, by simp, ?_⟩
    intro path same
    obtain rfl := Option.some.inj same
    exact ⟨place, later.here ▸ later.tree.locate located,
      later.tree.plain_iff.mpr (.of_none nothing), free place nothing⟩

theorem later_discard {temporary : Option Text}
    (owned : ∀ path, temporary = some path → Owns touched machine path) :
    machine.Later touched (discard temporary machine) := by
  unfold discard
  split
  · exact .refl _ _
  · rename_i path
    obtain ⟨place, located, plain, free⟩ := owned path rfl
    refine .of_tree ?_
    cases removed : machine.tree.remove machine.here path with
    | error fault => exact .refl _ _
    | ok tree =>
      obtain ⟨other, entry, there, -, -, rfl⟩ := FileTree.remove_origin removed
      obtain rfl := Except.ok.inj (located.symm.trans there)
      exact .erase plain free

theorem Owns.later {before : Machine} (owns : Owns touched before path)
    (later : before.Later touched after) : Owns touched after path := by
  obtain ⟨place, located, plain, free⟩ := owns
  exact ⟨place, later.here ▸ later.tree.locate located, later.tree.plain_iff.mpr plain, free⟩

end Session
end Runbook
