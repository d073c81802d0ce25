import Runbook.Container
import Runbook.Proofs.Progress

/-! How a container is looked for: the questions that docker is asked, one after the other, and how
their answers decide. Only containers that docker has listed are ever asked or chosen. -/
namespace Runbook.Container

/-- A question to docker, and the output if it was answered with success. -/
structure Question where
  arguments : List Text
  output : Option Text
  deriving DecidableEq, Repr

variable {touched : Location → Prop} {machine middle after : Machine} {directory : Text}
  {question : Question} {questions more : List Question} {container : Text}
  {containers : List Text} {answer : Option Text}

/-- Docker is asked some questions in order, and nothing else happens. -/
inductive Asked (directory : Text) : Machine → List Question → Machine → Prop
  | nothing {machine : Machine} : Asked directory machine [] machine
  | next {machine middle after : Machine} {question : Question} {questions : List Question}
      (answered : ask directory question.arguments machine = (question.output, middle))
      (rest : Asked directory middle questions after) :
      Asked directory machine (question :: questions) after

/-- The containers that an output lists. -/
def listed (output : Option Text) : List Text := (output.map ids).getD []

/-- How a container is asked for the client. -/
def clientQuestion (container : Text) : List Text := ["exec", container, "which", "psql"]

/-- Containers are asked for the client in turn until one has it. -/
inductive Probes : List Text → List Question → Option Text → Prop
  | nobody : Probes [] [] none
  | found {container : Text} {more : List Text} {output : Text} :
      Probes (container :: more) [⟨clientQuestion container, some output⟩] (some container)
  | onward {container : Text} {more : List Text} {questions : List Question}
      {answer : Option Text} (rest : Probes more questions answer) :
      Probes (container :: more) (⟨clientQuestion container, none⟩ :: questions) answer

/-- The running containers are listed by one filter after the other until one lists any. -/
inductive Searches : List Text → List Question → Option Text → Prop
  | nobody : Searches [] [] none
  | found {filter container : Text} {more others : List Text} {output : Option Text}
      (found : listed output = container :: others) :
      Searches (filter :: more) [⟨listing (some filter), output⟩] (some container)
  | onward {filter : Text} {more : List Text} {output answer : Option Text}
      {questions : List Question} (nobody : listed output = [])
      (rest : Searches more questions answer) :
      Searches (filter :: more) (⟨listing (some filter), output⟩ :: questions) answer

/-- The filters for a container of the database. -/
def filters : List Text := ["ancestor=postgres", "name=postgres"]

/-- A container that passes a filter is taken, and only if there is none the first running one that
has the client. -/
inductive Decides : List Question → Option Text → Prop
  | byFilter {questions : List Question} {container : Text}
      (searches : Searches filters questions (some container)) :
      Decides questions (some container)
  | byClient {questions more : List Question} {running answer : Option Text}
      (searches : Searches filters questions none) (probes : Probes (listed running) more answer) :
      Decides (questions ++ ⟨listing none, running⟩ :: more) answer

theorem Asked.append (first : Asked directory machine questions middle)
    (second : Asked directory middle more after) :
    Asked directory machine (questions ++ more) after := by
  induction first with
  | nothing => exact second
  | next answered _ ih => exact .next answered (ih second)

theorem firstWithClient_asked (directory : Text) (containers : List Text) (machine : Machine) :
    ∃ questions, Asked directory machine questions (firstWithClient directory containers machine).2 ∧
      Probes containers questions (firstWithClient directory containers machine).1 := by
  induction containers generalizing machine with
  | nil => exact ⟨[], .nothing, .nobody⟩
  | cons container more ih =>
    rw [firstWithClient]
    split
    · rename_i output middle answered
      have asked : Asked directory machine [⟨clientQuestion container, some output⟩] middle :=
        .next answered .nothing
      exact ⟨_, asked, .found⟩
    · rename_i middle answered
      obtain ⟨questions, asked, probes⟩ := ih middle
      have refused : Asked directory machine [⟨clientQuestion container, none⟩] middle :=
        .next answered .nothing
      exact ⟨_, refused.append asked, .onward probes⟩

theorem firstFiltered_asked (directory : Text) (filters : List Text) (machine : Machine) :
    ∃ questions, Asked directory machine questions (firstFiltered directory filters machine).2 ∧
      Searches filters questions (firstFiltered directory filters machine).1 := by
  induction filters generalizing machine with
  | nil => exact ⟨[], .nothing, .nobody⟩
  | cons filter more ih =>
    have asked : Asked directory machine
        [⟨listing (some filter), (ask directory (listing (some filter)) machine).1⟩]
        (ask directory (listing (some filter)) machine).2 := .next rfl .nothing
    simp only [firstFiltered, running]
    split
    · rename_i shape
      obtain ⟨found, rfl⟩ := Prod.mk.inj shape
      exact ⟨_, asked, .found found⟩
    · rename_i shape
      obtain ⟨nobody, rfl⟩ := Prod.mk.inj shape
      obtain ⟨questions, rest, searches⟩ := ih (ask directory (listing (some filter)) machine).2
      exact ⟨_, asked.append rest, .onward nobody searches⟩

/-- A container is looked for by asking docker, and docker's answers decide. -/
theorem find_asked (directory : Text) (machine : Machine) :
    ∃ questions, Asked directory machine questions (find directory machine).2 ∧
      Decides questions (find directory machine).1 := by
  obtain ⟨questions, asked, searches⟩ := firstFiltered_asked directory filters machine
  unfold find
  rw [← filters]
  cases shape : firstFiltered directory filters machine with
  | mk found middle =>
    rw [shape] at asked searches
    cases found with
    | some container => exact ⟨questions, asked, .byFilter searches⟩
    | none =>
      have all : Asked directory middle
          [⟨listing none, (ask directory (listing none) middle).1⟩]
          (ask directory (listing none) middle).2 := .next rfl .nothing
      obtain ⟨more, rest, probes⟩ := firstWithClient_asked directory
        (listed (ask directory (listing none) middle).1) (ask directory (listing none) middle).2
      exact ⟨_, asked.append (all.append rest), .byClient searches probes⟩

/-! ## What asking leaves as it is -/

/-- A container that docker can answer with. -/
def MayList (machine : Machine) (container : Text) : Prop :=
  ∃ react call, machine.programs program = some (.runnable react) ∧
    container ∈ ids (Utf8.decodeLossy (react call).stdout)

theorem ask_cases (directory : Text) (arguments : List Text) (machine : Machine) :
    ask directory arguments machine = (none, machine) ∨
      ∃ reaction after, machine.start directory program arguments [] = .ok (reaction, after) ∧
        ask directory arguments machine =
          (if reaction.isSuccess then some (Utf8.decodeLossy reaction.stdout) else none, after) := by
  unfold ask
  cases started : machine.start directory program arguments [] with
  | error fault => exact .inl rfl
  | ok answered => exact .inr ⟨answered.1, answered.2, rfl, rfl⟩

theorem mayList_of_ask {arguments : List Text}
    (named : container ∈ listed (ask directory arguments machine).1) : MayList machine container := by
  rcases ask_cases directory arguments machine with shape | ⟨reaction, after, started, shape⟩
  · simp [shape, listed] at named
  · obtain ⟨location, react, -, runnable, rfl, -⟩ := Machine.start_origin started
    rw [shape] at named
    split at named
    · exact ⟨react, _, runnable, by simpa [listed] using named⟩
    · simp [listed] at named

theorem programs_ask (directory : Text) (arguments : List Text) (machine : Machine) :
    (ask directory arguments machine).2.programs = machine.programs := by
  rcases ask_cases directory arguments machine with shape | ⟨reaction, after, started, shape⟩
  · rw [shape]
  · obtain ⟨location, react, -, -, -, rfl⟩ := Machine.start_origin started
    rw [shape]

theorem Asked.mayList (asked : Asked directory machine questions after)
    (member : question ∈ questions) (named : container ∈ listed question.output) :
    MayList machine container := by
  induction asked with
  | nothing => simp at member
  | @next machine middle after first questions answered rest ih =>
    rcases List.mem_cons.mp member with rfl | member
    · have output : (ask directory question.arguments machine).1 = question.output := by
        rw [answered]
      exact mayList_of_ask (output ▸ named)
    · obtain ⟨react, call, runnable, listed⟩ := ih member
      have programs := programs_ask directory first.arguments machine
      rw [answered] at programs
      exact ⟨react, call, programs ▸ runnable, listed⟩

theorem Asked.later (asked : Asked directory machine questions after)
    (stands : machine.tree.Stands (FileTree.start machine.here directory))
    (spares : ∀ question ∈ questions, machine.Spares touched directory question.arguments) :
    machine.Later touched after := by
  induction asked with
  | nothing => exact .refl _ _
  | @next machine middle after first questions answered rest ih =>
    have later : machine.Later touched middle := by
      rcases ask_cases directory first.arguments machine with same | ⟨reaction, next, started, same⟩
      · obtain ⟨-, rfl⟩ := Prod.mk.inj (answered.symm.trans same)
        exact .refl _ _
      · obtain ⟨-, rfl⟩ := Prod.mk.inj (answered.symm.trans same)
        exact Machine.later_start stands (spares first (by simp)) started
    refine later.trans (ih ?_ fun question member => later.spares (spares question (by simp [member])))
    rw [later.here]
    exact later.tree.stands stands

/-! ## The questions of a search -/

theorem Probes.origin (probes : Probes containers questions answer) (member : question ∈ questions) :
    ∃ container ∈ containers, question.arguments = clientQuestion container := by
  induction probes with
  | nobody => simp at member
  | @found container more output =>
    rw [List.mem_singleton.mp member]
    exact ⟨container, by simp, rfl⟩
  | @onward container more questions answer rest ih =>
    rcases List.mem_cons.mp member with rfl | member
    · exact ⟨container, by simp, rfl⟩
    · obtain ⟨other, there, same⟩ := ih member
      exact ⟨other, by simp [there], same⟩

theorem Probes.chosen (probes : Probes containers questions (some container)) :
    container ∈ containers := by
  generalize found : some container = answer at probes
  induction probes with
  | nobody => contradiction
  | found =>
    obtain rfl := Option.some.inj found
    simp
  | onward rest ih => simp [ih found]

theorem Searches.origin {filters : List Text} (searches : Searches filters questions answer)
    (member : question ∈ questions) : ∃ filter ∈ filters, question.arguments = listing (some filter) := by
  induction searches with
  | nobody => simp at member
  | @found filter =>
    rw [List.mem_singleton.mp member]
    exact ⟨filter, by simp, rfl⟩
  | @onward filter more output answer questions nobody rest ih =>
    rcases List.mem_cons.mp member with rfl | member
    · exact ⟨filter, by simp, rfl⟩
    · obtain ⟨other, there, same⟩ := ih member
      exact ⟨other, by simp [there], same⟩

theorem Searches.chosen {filters : List Text} (searches : Searches filters questions (some container)) :
    ∃ question ∈ questions, container ∈ listed question.output := by
  generalize found : some container = answer at searches
  induction searches with
  | nobody => contradiction
  | @found filter other more others output named =>
    obtain rfl := Option.some.inj found
    exact ⟨_, List.mem_singleton_self _, by simp [named]⟩
  | onward nobody rest ih =>
    obtain ⟨question, member, named⟩ := ih found
    exact ⟨question, by simp [member], named⟩

/-- A question of the search lists containers, or it asks one that has been listed. -/
theorem Decides.origin (decides : Decides questions answer) (member : question ∈ questions) :
    (∃ filter, filter ∈ none :: filters.map some ∧ question.arguments = listing filter) ∨
      ∃ container, question.arguments = clientQuestion container ∧
        ∃ earlier ∈ questions, container ∈ listed earlier.output := by
  cases decides with
  | byFilter searches =>
    obtain ⟨filter, there, same⟩ := searches.origin member
    exact .inl ⟨some filter, by simp [there], same⟩
  | byClient searches probes =>
    rcases List.mem_append.mp member with member | member
    · obtain ⟨filter, there, same⟩ := searches.origin member
      exact .inl ⟨some filter, by simp [there], same⟩
    · rcases List.mem_cons.mp member with rfl | member
      · exact .inl ⟨none, by simp, rfl⟩
      · obtain ⟨container, there, same⟩ := probes.origin member
        exact .inr ⟨container, same, _, List.mem_append_right _ List.mem_cons_self, there⟩

theorem outputArgument_listing {filter : Option Text} (known : filter ∈ none :: filters.map some) :
    Machine.outputArgument? (listing filter) = none := by
  revert filter
  decide

theorem Decides.chosen (decides : Decides questions (some container)) :
    ∃ question ∈ questions, container ∈ listed question.output := by
  cases decides with
  | byFilter searches => exact searches.chosen
  | byClient searches probes => exact ⟨_, List.mem_append_right _ List.mem_cons_self, probes.chosen⟩

end Runbook.Container
