import Mathlib
import Runbook.DocumentFile
import Runbook.Proofs.Confinement
import Runbook.Proofs.Effects
import Runbook.Proofs.Encoding

/-! Writing a document back is all or nothing. Whatever a pass does and whichever step of it fails,
the document has the bytes it had, unless all went well and it has those of the new text. -/
namespace Runbook

namespace Pass

theorem answer_preserves {services : Services σ} {holds : σ → Prop}
    (submit : ∀ plan state, holds state → holds (services.submit plan state).2)
    (save : ∀ picture state, holds state → holds (services.save picture state).2)
    (visuals : Visuals) {state : σ} (start : holds state) :
    holds (services.answer visuals state).2 := by
  have ask {service : Text → σ → Option Text × σ} (kept : ∀ text state, holds state →
      holds (service text state).2) (question : Option Text) {state : σ} (start : holds state) :
      holds (Services.ask service question state).2 := by
    cases question with
    | none => exact start
    | some text => exact kept text state start
  exact ask save _ (ask submit _ start)

theorem run_preserves {services : Services σ} (holds : σ → Prop)
    (execute : ∀ request state, holds state → holds (services.execute request state).2)
    (submit : ∀ plan state, holds state → holds (services.submit plan state).2)
    (save : ∀ picture state, holds state → holds (services.save picture state).2)
    (segments : List Segment) {state : σ} (start : holds state) :
    holds (run services state segments).state := by
  induction segments generalizing state with
  | nil => exact start
  | cons segment more ih =>
    cases segment with
    | copied line => exact ih start
    | block closed =>
      unfold run
      split
      · have executed := execute closed.request state start
        split
        · rename_i answer
          rw [answer] at executed
          exact executed
        · rename_i outcome after answer
          rw [answer] at executed
          exact ih (answer_preserves submit save _ executed)
      · exact ih start

theorem run_first (services : Services σ) (state : σ) {segments : List Segment} {block : Block}
    {more : List Block} (due : segments.filterMap Segment.due? = block :: more) :
    ∃ pieces rest, rest.filterMap Segment.due? = more ∧ block.decision.execute = true ∧
      run services state segments =
        (run services state (.block block :: rest)).prepend pieces [] [] := by
  induction segments with
  | nil => contradiction
  | cons segment rest ih =>
    cases segment with
    | copied line =>
      obtain ⟨pieces, others, same, executes, ran⟩ := ih due
      exact ⟨.copied line :: pieces, others, same, executes, by rw [run, ran, Run.prepend_prepend]; rfl⟩
    | block closed =>
      rw [List.filterMap_cons, Segment.due?] at due
      cases executes : closed.decision.execute with
      | false =>
        simp only [executes, Bool.false_eq_true, if_false] at due
        obtain ⟨pieces, others, same, first, ran⟩ := ih due
        refine ⟨.kept closed :: pieces, others, same, first, ?_⟩
        rw [run_kept executes, ran, Run.prepend_prepend]
        rfl
      | true =>
        simp only [executes, if_true, List.cons.injEq] at due
        obtain ⟨rfl, same⟩ := due
        exact ⟨[], rest, same, executes, rfl⟩

theorem run_refused (services : Services σ) {state after : σ} {segments : List Segment}
    {block : Block} {more : List Block} {failure : Failure}
    (due : segments.filterMap Segment.due? = block :: more)
    (called : services.execute block.request state = (.error failure, after)) :
    (run services state segments).failure = some failure ∧
      (run services state segments).state = after := by
  obtain ⟨pieces, rest, -, executes, ran⟩ := run_first services state due
  rw [ran, run, if_pos executes, called]
  exact ⟨rfl, rfl⟩

theorem run_onward (services : Services σ) {state after : σ} {segments : List Segment}
    {block : Block} {more : List Block} {outcome : Outcome}
    (due : segments.filterMap Segment.due? = block :: more)
    (called : services.execute block.request state = (.ok outcome, after))
    (other : block.language.resultKind ≠ .structuredPlan) :
    ∃ rest, rest.filterMap Segment.due? = more ∧
      (run services state segments).failure = (run services after rest).failure ∧
      (run services state segments).state = (run services after rest).state := by
  obtain ⟨pieces, rest, same, executes, ran⟩ := run_first services state due
  have silent : Splice.visuals block.config block.language.resultKind outcome = {} := by
    simp [Splice.visuals, ArtifactPlan.isVisualized, other]
  rw [ran, run_executed executes called, silent]
  exact ⟨rest, same, rfl, rfl⟩

end Pass

/-! ## What a run may write beside the document -/

namespace Session

/-- How the files are called that a run may itself write in the document's directory: a diagram, a
flamegraph and the file it is first written to. The commands that are given to a container name
files too where the container is called like the option that names an output. -/
inductive Writes (machine : Machine) : Text → Prop
  | diagram (n : Nat) : Writes machine ("mermaid".toList ++ machine.tokens n ++ ".svg".toList)
  | flamegraph (n : Nat) :
      Writes machine ("pg-flamegraph-".toList ++ machine.times n ++ ".svg".toList)
  | unfinished (n : Nat) :
      Writes machine (AtomicWrite.temporaryName
        ("pg-flamegraph-".toList ++ machine.times n ++ ".svg".toList))
  | client (listed : Container.MayList machine "-o".toList) : Writes machine "psql".toList
  | search (listed : Container.MayList machine "-o".toList) : Writes machine "which".toList

/-- The places that a run over a document in the directory may touch: those where nothing stands at
its start, and those of the files that it writes itself. -/
def Touches (machine : Machine) (directory : Location) (place : Location) : Prop :=
  machine.tree.get? place = none ∨
    ∃ name, Writes machine name ∧ place = directory ++ [name]

end Session

/-- A machine as one is found: it stands in a directory that is there, and what it makes names of
has no slashes. -/
structure Machine.IsSound (machine : Machine) : Prop where
  stands : machine.tree.Stands machine.here
  proper : machine.here.IsProper
  tokens : ∀ n, '/' ∉ machine.tokens n
  times : ∀ n, '/' ∉ machine.times n

theorem Machine.IsSound.of_root {machine : Machine} (here : machine.here = [])
    (tokens : machine.tokens = Text.ofNat) (times : machine.times = Text.ofNat) :
    machine.IsSound := by
  have flat (n : Nat) : '/' ∉ Text.ofNat n := fun member => by
    have digit := Nat.isDigit_of_mem_toDigits (by decide) (by decide) member
    contradiction
  refine ⟨here ▸ .root _, ?_, fun n => tokens ▸ flat n, fun n => times ▸ flat n⟩
  simp [here, Location.IsProper]

namespace Session

variable {machine : Machine} {directory : Location}

theorem isName_between {start token finish : Text} (long : 2 < start.length + finish.length)
    (flat : '/' ∉ start ∧ '/' ∉ token ∧ '/' ∉ finish) :
    Path.IsName (start ++ token ++ finish) := by
  have longer : 2 < (start ++ token ++ finish).length := by
    simp only [List.length_append]
    omega
  have differs {other : Text} (short : other.length ≤ 2) : start ++ token ++ finish ≠ other := by
    rintro rfl
    omega
  exact ⟨differs (by simp), by simp [flat], differs (by simp), differs (by simp)⟩

theorem Writes.isName (sound : machine.IsSound) {name : Text} (writes : Writes machine name) :
    Path.IsName name := by
  cases writes with
  | diagram n => exact isName_between (by decide) ⟨by decide, sound.tokens n, by decide⟩
  | flamegraph n => exact isName_between (by decide) ⟨by decide, sound.times n, by decide⟩
  | unfinished n =>
    exact AtomicWrite.isName_temporaryName
      (isName_between (by decide) ⟨by decide, sound.times n, by decide⟩)
  | client => decide
  | search => decide

theorem enter_path {location : Location} (stands : machine.tree.Stands directory)
    (proper : directory.IsProper) (entered : machine.enter directory.path = .ok location) :
    location = directory := by
  rw [Machine.enter_iff] at entered
  simp only [FileTree.find, bind, Except.bind] at entered
  split at entered
  · contradiction
  · rename_i place located
    split at entered
    · obtain ⟨rfl, rfl⟩ := by simpa using entered
      rename_i stood
      rcases List.eq_nil_or_concat directory with rfl | ⟨above, name, rfl⟩
      · rw [FileTree.locate_root] at located
        exact (Except.ok.inj located).symm
      · rw [List.concat_eq_append] at *
        have unlinked : machine.tree.Unlinked (above ++ [name]) := by
          intro target
          simp [stands.last]
        exact FileTree.locate_path (stands.above (List.prefix_append _ _))
          (fun other member => proper other (by simp [member])) (proper name (by simp))
          (.inr unlinked) located
    · contradiction

/-- The only candidates that are asked to write are those for a diagram. -/
theorem outputArgument_candidates {language : Language} {temporary path : Text}
    (absolute : Path.isAbsolute temporary = true)
    {candidate : List Text} (member : candidate ∈ language.candidates (some temporary))
    (asked : Machine.outputArgument? candidate.tail = some path) :
    language = .mermaid ∧ path = Path.sibling temporary ".svg".toList := by
  have other : temporary ≠ ['-', 'o'] := by
    rintro rfl
    contradiction
  rcases candidates_cases language temporary with shape | shape | ⟨diagram, shape⟩
  · rw [shape, List.mem_singleton] at member
    subst member
    contradiction
  · rw [shape] at member
    obtain ⟨program, -, rfl⟩ := List.mem_map.mp member
    simp [Machine.outputArgument?, other] at asked
  · rw [shape, List.mem_singleton] at member
    subst member
    simp [Machine.outputArgument?, other] at asked
    exact ⟨diagram, asked.symm⟩

theorem suffix_flat (language : Language) {suffix content : Text}
    (file : temporaryFile? language [] = some (suffix, content)) :
    2 < language.name.length + suffix.length ∧ '/' ∉ language.name ∧ '/' ∉ suffix := by
  cases language <;> cases file <;> decide

theorem temporaryPath_path (sound : machine.IsSound) (proper : directory.IsProper)
    (language : Language) (n : Nat) {temporary : Text}
    (made : temporaryPath directory.path language (machine.tokens n) = some temporary) :
    ∃ suffix, (temporaryFile? language []).map Prod.fst = some suffix ∧ temporary =
        Location.path (directory ++ [language.name ++ machine.tokens n ++ suffix]) ∧
      Path.IsName (language.name ++ machine.tokens n ++ suffix) := by
  obtain ⟨⟨suffix, content⟩, file, same⟩ := Option.map_eq_some_iff.mp made
  obtain ⟨long, first, last⟩ := suffix_flat language file
  have named := isName_between long ⟨first, sound.tokens n, last⟩
  refine ⟨suffix, by rw [file]; rfl, ?_, named⟩
  rw [← same, Location.join_path proper named]

theorem outputArgument_append {first rest : List Text} (other : "-o".toList ∉ first) :
    Machine.outputArgument? (first ++ rest) = Machine.outputArgument? rest := by
  induction first with
  | nil => rfl
  | cons argument first ih =>
    simp only [List.mem_cons, not_or] at other
    rw [List.cons_append, Machine.outputArgument?, if_neg, ih other.2]
    simpa using Ne.symm other.1

theorem outputArgument_container {container path : Text} (before behind : List Text)
    (first : "-o".toList ∉ before) (last : "-o".toList ∉ behind)
    (asked : Machine.outputArgument? (before ++ container :: behind) = some path) :
    container = "-o".toList ∧ behind.head? = some path := by
  rw [outputArgument_append first, Machine.outputArgument?] at asked
  split at asked
  · rename_i same
    exact ⟨by simpa using same, asked⟩
  · have silent : Machine.outputArgument? (behind ++ []) = none := outputArgument_append last
    rw [List.append_nil] at silent
    rw [silent] at asked
    contradiction

theorem options_container (settings : List (Text × Text)) :
    "-o".toList ∉ (["exec", "-i", "-u", "postgres"] : List Text) ++
      settings.flatMap fun setting => ["-e".toList, setting.1 ++ '=' :: setting.2] := by
  have value (setting : Text × Text) : setting.1 ++ '=' :: setting.2 ≠ ['-', 'o'] := by
    intro same
    have sign : '=' ∈ ['-', 'o'] := same ▸ (by simp)
    revert sign
    decide
  simp [Ne.symm (value _)]

section

variable (sound : machine.IsSound) (stands : machine.tree.Stands directory)
  (proper : directory.IsProper)
  (bare : ∀ name, Writes machine name → machine.tree.Unlinked (directory ++ [name]))
include sound stands proper bare

theorem touches_named {name : Text} {location place : Location} (writes : Writes machine name)
    (entered : machine.enter directory.path = .ok location)
    (found : machine.tree.locate location name .made = .ok place) :
    Touches machine directory place := by
  obtain rfl := enter_path stands proper entered
  exact .inr ⟨name, writes, FileTree.locate_name (writes.isName sound) (.inr (bare _ writes)) found⟩

theorem spares_candidate {language : Language} {n : Nat} {candidate : List Text}
    (member : candidate ∈
      language.candidates (temporaryPath directory.path language (machine.tokens n))) :
    machine.Spares (Touches machine directory) directory.path candidate.tail := by
  intro location path place entered argument found
  cases made : temporaryPath directory.path language (machine.tokens n) with
  | none =>
    rw [made] at member
    have silent : Machine.outputArgument? candidate.tail = none := by
      clear argument
      revert candidate
      cases language <;> first | contradiction | decide
    rw [silent] at argument
    contradiction
  | some temporary =>
    obtain ⟨suffix, file, rfl, named⟩ := temporaryPath_path sound proper language n made
    rw [made] at member
    obtain ⟨rfl, rfl⟩ := outputArgument_candidates (Location.isAbsolute_path _) member argument
    obtain rfl : ".mmd".toList = suffix := Option.some.inj file
    have writes : Writes machine ("mermaid".toList ++ machine.tokens n ++ ".svg".toList) :=
      .diagram n
    have stem : Path.stem (Language.mermaid.name ++ machine.tokens n ++ ".mmd".toList) =
        "mermaid".toList ++ machine.tokens n :=
      Path.stem_dot (List.append_ne_nil_of_left_ne_nil (by decide) _)
        (show '.' ∉ "mmd".toList by decide)
    have beside := Location.sibling_path proper named (stem ▸ writes.isName sound)
    rw [beside, stem] at found
    refine .inr ⟨_, writes, ?_⟩
    exact FileTree.locate_path stands proper (writes.isName sound) (.inr (bare _ writes)) found

/-- Over a document in a directory that is there, a session writes only where nothing stood and to
the files of its own. -/
theorem confined_pass (limit : Option Duration) :
    Confined (Touches machine directory) directory.path { machine, timeLimit := limit } where
  absolute := Location.isAbsolute_path directory
  free place nothing := .inl nothing
  interpreters language n candidate := spares_candidate sound stands proper bare
  questions container listed location path place entered argument found := by
    obtain ⟨rfl, same⟩ := outputArgument_container ["exec"] ["which", "psql"] (by decide)
      (by decide) argument
    obtain rfl := Option.some.inj same
    exact touches_named sound stands proper bare (.search listed) entered found
  contained container listed location path place entered argument found := by
    rw [show (Container.command container (Container.settings machine) client).tail =
      (["exec", "-i", "-u", "postgres"] : List Text) ++ (Container.settings machine).flatMap
        (fun setting => ["-e".toList, setting.1 ++ '=' :: setting.2]) ++ container :: client by
      simp [Container.command]] at argument
    obtain ⟨rfl, same⟩ := outputArgument_container _ client (options_container _) (by decide)
      argument
    obtain rfl := Option.some.inj same
    exact touches_named sound stands proper bare (.client listed) entered found
  known container same := by contradiction

end

theorem follows_savePicture (start : Session) {state : Session} (sound : start.machine.IsSound)
    (stands : start.machine.tree.Stands directory) (proper : directory.IsProper)
    (bare : ∀ name, Writes start.machine name → start.machine.tree.Unlinked (directory ++ [name]))
    (picture : Text)
    (follows : Follows (Touches start.machine directory) directory.path start state) :
    Follows (Touches start.machine directory) directory.path start
      (savePicture directory.path picture state).2 := by
  have later := follows.later
  have times : state.machine.times = start.machine.times := later.times
  have flamegraph : Writes start.machine ("pg-flamegraph-".toList ++
      state.machine.times state.machine.drawn ++ ".svg".toList) :=
    times ▸ .flamegraph state.machine.drawn
  have unfinished : Writes start.machine (AtomicWrite.temporaryName ("pg-flamegraph-".toList ++
      state.machine.times state.machine.drawn ++ ".svg".toList)) :=
    times ▸ .unfinished state.machine.drawn
  have named := flamegraph.isName sound
  have saved := AtomicWrite.write_path (later.tree.stands stands) proper named
    state.machine.here (Utf8.encode picture) (later.tree.unlinked (bare _ unfinished))
    (later.tree.unlinked (bare _ flamegraph))
  refine follows.trans (follows.confined.of_later ?_)
  rw [Location.join_path proper named]
  refine (Machine.Later.of_drawn _ _ (state.machine.drawn + 1)).trans (.of_tree ?_)
  refine saved.changes.mono fun place => ?_
  rintro (rfl | rfl)
  · exact .inr ⟨_, unfinished, rfl⟩
  · exact .inr ⟨_, flamegraph, rfl⟩

end Session

namespace DocumentFile

variable {machine : Machine} {directory : Location} {name : Text} {options : Options}

theorem directory_opened {text : Text} (proper : directory.IsProper) (valid : Path.IsName name) :
    Opened.directory ⟨directory ++ [name], text⟩ = directory.path := by
  rw [Opened.directory, Opened.path, Location.parent_path proper valid]
  rfl

theorem follows_pass (options : Options) (text : Text) (sound : machine.IsSound)
    (stands : machine.tree.Stands directory) (proper : directory.IsProper)
    (valid : Path.IsName name)
    (bare : ∀ name, Session.Writes machine name → machine.tree.Unlinked (directory ++ [name])) :
    Session.Follows (Session.Touches machine directory) directory.path
      { machine, timeLimit := options.timeLimit }
      (pass options ⟨directory ++ [name], text⟩ machine).state := by
  unfold pass
  rw [Pass.ofDocument_eq, directory_opened proper valid]
  refine Pass.run_preserves
    (Session.Follows (Session.Touches machine directory) directory.path
      { machine, timeLimit := options.timeLimit }) ?_ ?_ ?_ _
    (.refl (Session.confined_pass sound stands proper bare options.timeLimit))
  · intro request state follows
    have seen := Location.absolute_path state.machine.here.path proper
    have confined := follows.confined
    rw [← seen] at confined
    have executed := Session.follows_execute directory.path request confined
    rw [seen] at executed
    exact follows.trans executed
  · exact fun plan state follows => follows
  · exact fun picture state follows =>
      Session.follows_savePicture { machine, timeLimit := options.timeLimit } sound stands proper
        bare picture follows

/-! ## What becomes of the document -/

/-- No file that a run writes itself is in the way of the document: nothing stands where the
document is first written to, and neither the document nor a link beside it has a name that a run
may use. -/
structure Spared (machine : Machine) (location : Location) : Prop where
  fresh : machine.tree.get?
    (location.dropLast ++ [AtomicWrite.temporaryName (location.getLastD [])]) = none
  apart : ∀ name, Session.Writes machine name → location.dropLast ++ [name] ≠ location
  bare : ∀ name, Session.Writes machine name →
    machine.tree.Unlinked (location.dropLast ++ [name])

/-- After a failure the document has the bytes it had. After a success it has those of the text that
the pass has made of it, and if that is the text it had, nothing was written back. A link that
was given as the file is still the same link. -/
structure AllOrNothing (options : Options) (file : Text) (machine : Machine) : Prop where
  refused : ∀ failure, (process options file machine).1 = .error failure →
    ∀ location bytes, machine.tree.find machine.here file = .ok (location, .file bytes) →
      (process options file machine).2.tree.get? location = some (.file bytes)
  done : (process options file machine).1 = .ok () →
    ∃ document text, read machine file = .ok document ∧
      (pass options document machine).result = .ok text ∧
      (process options file machine).2.tree.get? document.location =
        some (.file (Utf8.encode text)) ∧
      (text = document.text →
        (process options file machine).2 = (pass options document machine).state.machine)
  link : ∀ place target, machine.tree.locate machine.here file .kept = .ok place →
    machine.tree.get? place = some (.link target) →
      (process options file machine).2.tree.locate (process options file machine).2.here file .kept =
        .ok place ∧
      (process options file machine).2.tree.get? place = some (.link target)

theorem get_of_find {tree : FileTree} {here location : Location} {file : Text} {entry : Entry}
    (found : tree.find here file = .ok (location, entry)) :
    tree.locate here file .followed = .ok location ∧ tree.get? location = some entry := by
  simp only [FileTree.find, bind, Except.bind] at found
  split at found
  · contradiction
  · rename_i place located
    split at found
    · rename_i known stood
      obtain ⟨rfl, rfl⟩ := by simpa using found
      exact ⟨located, stood⟩
    · contradiction

theorem read_origin {file : Text} {document : Opened} (read : read machine file = .ok document) :
    ∃ bytes, machine.tree.find machine.here file = .ok (document.location, .file bytes) ∧
      Utf8.encode document.text = bytes := by
  unfold DocumentFile.read at read
  split at read
  · contradiction
  · rename_i location bytes found
    split at read
    · rename_i text decoded
      obtain rfl := Except.ok.inj read
      exact ⟨bytes, found, Utf8.encode_of_decode decoded⟩
    · contradiction
  · contradiction

theorem place_of_find (sound : machine.IsSound) {file : Text} {location : Location} {bytes : Bytes}
    (found : machine.tree.find machine.here file = .ok (location, .file bytes)) :
    ∃ directory name, location = directory ++ [name] ∧ machine.tree.Stands directory ∧
      Location.IsProper directory ∧ Path.IsName name := by
  obtain ⟨located, stood⟩ := get_of_find found
  have proper := FileTree.proper_of_locate sound.proper located
  cases (sound.stands.beginning file).reached_path located with
  | directory stands =>
    rw [stands.last] at stood
    cases stood
  | @entry directory name stands =>
    exact ⟨directory, name, rfl, stands, fun other member => proper other (by simp [member]),
      proper name (by simp)⟩

/-- How it ends that a document is written back: it is left as it was or holds the new text, and if
that is the text it had, nothing is touched. Nothing else changes but the temporary file. -/
theorem writeBack_ends {bytes : Bytes} {text : Text} (result : Text)
    (stands : machine.tree.Stands directory) (proper : directory.IsProper) (valid : Path.IsName name)
    (unlinked : machine.tree.Unlinked (directory ++ [AtomicWrite.temporaryName name]))
    (stood : machine.tree.get? (directory ++ [name]) = some (.file bytes))
    (same : Utf8.encode text = bytes) :
    machine.Later (fun _ => True) (writeBack ⟨directory ++ [name], text⟩ result machine).2 ∧
      ((∃ failure, (writeBack ⟨directory ++ [name], text⟩ result machine).1 = .error failure ∧
          (writeBack ⟨directory ++ [name], text⟩ result machine).2.tree.get? (directory ++ [name]) =
            some (.file bytes)) ∨
        (writeBack ⟨directory ++ [name], text⟩ result machine).1 = .ok () ∧
          (writeBack ⟨directory ++ [name], text⟩ result machine).2.tree.get? (directory ++ [name]) =
            some (.file (Utf8.encode result)) ∧
          (result = text → (writeBack ⟨directory ++ [name], text⟩ result machine).2 = machine)) := by
  by_cases unchanged : result = text
  · subst unchanged
    simp only [writeBack, if_true]
    exact ⟨.refl _ _, .inr ⟨trivial, same ▸ stood, fun _ => trivial⟩⟩
  · have apart : directory ++ [name] ≠ directory ++ [AtomicWrite.temporaryName name] := by
      simpa using (AtomicWrite.temporaryName_ne name).symm
    have saved := AtomicWrite.write_path stands proper valid machine.here (Utf8.encode result)
      unlinked fun target => by simp [stood]
    simp only [writeBack, if_neg unchanged, Machine.save, Opened.path]
    refine ⟨.of_tree (saved.changes.mono fun _ _ => trivial), ?_⟩
    generalize AtomicWrite.write _ _ _ _ = answer at saved
    obtain ⟨answer, tree⟩ := answer
    cases saved with
    | done holds => exact .inr ⟨rfl, holds, fun same => absurd same unchanged⟩
    | refused changes => exact .inl ⟨_, rfl, (changes.same _ apart).trans stood⟩

/-- How the processing of a document that has been read ends: with a failure that has left its bytes
as they were, or with those of the text that the pass has made of it. -/
theorem process_ends {file : Text} {text : Text} {bytes : Bytes} (options : Options)
    (sound : machine.IsSound) (stands : machine.tree.Stands directory)
    (proper : directory.IsProper) (valid : Path.IsName name)
    (spared : Spared machine (directory ++ [name]))
    (read : read machine file = .ok ⟨directory ++ [name], text⟩)
    (stood : machine.tree.get? (directory ++ [name]) = some (.file bytes))
    (same : Utf8.encode text = bytes) :
    machine.Later (fun _ => True) (process options file machine).2 ∧
      ((∃ failure, (process options file machine).1 = .error failure ∧
          (process options file machine).2.tree.get? (directory ++ [name]) = some (.file bytes)) ∨
        (process options file machine).1 = .ok () ∧ ∃ result,
          (pass options ⟨directory ++ [name], text⟩ machine).result = .ok result ∧
          (process options file machine).2.tree.get? (directory ++ [name]) =
            some (.file (Utf8.encode result)) ∧
          (result = text → (process options file machine).2 =
            (pass options ⟨directory ++ [name], text⟩ machine).state.machine)) := by
  have bare : ∀ other, Session.Writes machine other →
      machine.tree.Unlinked (directory ++ [other]) := by
    simpa using spared.bare
  have later := (follows_pass options text sound stands proper valid bare).later
  have untouched : ¬ Session.Touches machine directory (directory ++ [name]) := by
    rintro (nothing | ⟨other, writes, place⟩)
    · rw [stood] at nothing
      contradiction
    · exact spared.apart other writes (by simpa using place.symm)
  have kept := later.tree.same _ untouched
  rw [stood] at kept
  have fresh : machine.tree.get? (directory ++ [AtomicWrite.temporaryName name]) = none := by
    simpa using spared.fresh
  have wider : machine.Later (fun _ => True) _ := later.mono fun _ _ => trivial
  unfold process
  rw [read]
  dsimp only
  cases passed : (pass options ⟨directory ++ [name], text⟩ machine).result with
  | error failure => exact ⟨wider, .inl ⟨failure, rfl, kept⟩⟩
  | ok result =>
    obtain ⟨onward, ends⟩ := writeBack_ends result (later.tree.stands stands) proper valid
      (later.tree.unlinked fun target => by simp [fresh]) kept same
    refine ⟨wider.trans onward, ends.imp_right fun ⟨done, holds, unchanged⟩ => ?_⟩
    exact ⟨done, result, rfl, holds, unchanged⟩

/-- Whatever the programs do and whichever step fails: a document is written as a whole or not at
all. -/
theorem process_allOrNothing (options : Options) (file : Text) (machine : Machine)
    (sound : machine.IsSound)
    (spared : ∀ location bytes, machine.tree.find machine.here file = .ok (location, .file bytes) →
      Spared machine location) :
    AllOrNothing options file machine := by
  cases opened : read machine file with
  | error failure =>
    have left : process options file machine = (.error failure, machine) := by
      simp only [process, opened]
    refine ⟨fun _ _ location bytes found => ?_, fun done => ?_, fun place target located stood => ?_⟩
    · rw [left]
      exact (get_of_find found).2
    · rw [left] at done
      contradiction
    · rw [left]
      exact ⟨located, stood⟩
  | ok document =>
    obtain ⟨bytes, found, same⟩ := read_origin opened
    obtain ⟨location, text⟩ := document
    obtain ⟨directory, name, rfl, stands, proper, valid⟩ := place_of_find sound found
    obtain ⟨later, ends⟩ := process_ends options sound stands proper valid
      (spared _ _ found) opened (get_of_find found).2 same
    refine ⟨fun failure refused location others => ?_, fun done => ?_,
      fun place target located stood => ?_⟩
    · intro seen
      obtain ⟨rfl, rfl⟩ : directory ++ [name] = location ∧ bytes = others := by
        simpa using found.symm.trans seen
      rcases ends with ⟨_, _, kept⟩ | ⟨done, _⟩
      · exact kept
      · rw [done] at refused
        contradiction
    · rcases ends with ⟨failure, refused, _⟩ | ⟨_, result, passed, holds, unchanged⟩
      · rw [refused] at done
        contradiction
      · exact ⟨_, result, opened, passed, holds, unchanged⟩
    · exact ⟨later.here ▸ later.tree.locate located, later.tree.link_iff.mpr stood⟩

/-- A document that may be reached through a link, in a directory with a shell. -/
def linked : Machine where
  tree := ⟨[(["doc.md".toList], .file (Utf8.encode "```bash\nx\n```\n".toList)),
    (["readme".toList], .link "doc.md".toList)]⟩
  programs name := bif name == "bash".toList then some (.runnable fun _ => {}) else none

theorem process_allOrNothing_linked : linked.IsSound ∧ AllOrNothing {} "readme".toList linked := by
  have sound : linked.IsSound := .of_root rfl rfl rfl
  refine ⟨sound, process_allOrNothing {} "readme".toList linked sound fun location bytes found => ?_⟩
  have place : linked.tree.find linked.here "readme".toList =
      .ok (["doc.md".toList], .file (Utf8.encode "```bash\nx\n```\n".toList)) := by
    cbv
  obtain ⟨rfl, rfl⟩ : ["doc.md".toList] = location ∧ _ = bytes := by
    simpa using place.symm.trans found
  have other {name : Text} (writes : Session.Writes linked name) :
      name ≠ "doc.md".toList ∧ name ≠ "readme".toList := by
    cases writes with
    | diagram | flamegraph | unfinished => simp [AtomicWrite.temporaryName]
    | client listed | search listed =>
      obtain ⟨react, call, runnable, -⟩ := listed
      simp [linked, Container.program] at runnable
  refine ⟨by decide, fun name writes => by simpa using (other writes).1, fun name writes => ?_⟩
  have nothing : linked.tree.get? [name] = none := by
    simpa [FileTree.get?, linked] using (other writes).imp Ne.symm Ne.symm
  intro target
  simp [nothing]

/-! ## Runs that do not spare their document -/

/-- Nothing stands where the document is first written to, and the document is not called like a
picture that a run makes. For the document to be spared, this is not enough. -/
structure Unpictured (machine : Machine) (location : Location) : Prop where
  fresh : machine.tree.get?
    (location.dropLast ++ [AtomicWrite.temporaryName (location.getLastD [])]) = none
  named : ∀ n, location.getLastD [] ≠ "mermaid".toList ++ machine.tokens n ++ ".svg".toList ∧
    location.getLastD [] ≠ "pg-flamegraph-".toList ++ machine.times n ++ ".svg".toList

/-- A docker that lists a container called like the option for an output, and writes what it is then
asked to. -/
def deceptive : Program := .runnable fun call =>
  bif call.arguments.contains "--filter".toList then {}
  else bif call.arguments.contains "ps".toList then { stdout := Utf8.encode "-o\n".toList }
  else { exitCode := some 1, output := some (Utf8.encode "gone\n".toList) }

/-- A document that is called like what a container is asked for. -/
def misled : Machine where
  tree := ⟨[(["which".toList], .file (Utf8.encode "```psql\nx\n```\n".toList))]⟩
  programs name := bif name == "docker".toList then some deceptive else none

/-- The next diagram is a link to the document. -/
def entangled : Machine where
  tree := ⟨[(["doc.md".toList], .file (Utf8.encode
      "```mermaid\nx\n```\n\n```psql\ny\n```\n".toList)),
    (["mermaid0.svg".toList], .link "doc.md".toList)]⟩
  programs name :=
    bif name == "mmdc".toList then
      some (.runnable fun _ => { output := some (Utf8.encode "gone\n".toList) })
    else none

def entangled.drawn : Machine :=
  { entangled with
    tree := ⟨[(["doc.md".toList], .file (Utf8.encode "gone\n".toList)),
      (["mermaid0.svg".toList], .link "doc.md".toList)]⟩
    drawn := 1
    starts := [⟨"mmdc".toList, ⟨["-i".toList, "/mermaid0.mmd".toList, "-o".toList,
      "/mermaid0.svg".toList], [], some "x\n".toList⟩, [], true⟩] }

theorem process_of_failure {file : Text} {document : Opened} {failure : Failure} {after : Session}
    (opened : read machine file = .ok document)
    (failed : (Pass.run (Session.services document.directory options.endpoint)
      { machine, timeLimit := options.timeLimit } (Pass.scanned document.text)).failure = some failure)
    (left : (Pass.run (Session.services document.directory options.endpoint)
      { machine, timeLimit := options.timeLimit } (Pass.scanned document.text)).state = after) :
    process options file machine = (.error failure, after.machine) := by
  rw [← Pass.ofDocument_eq] at failed left
  simp only [process, opened, pass, Run.result, failed, left]

section Runs

open Session

/-- Without a client and without a container a query is refused, after docker has been asked. -/
theorem execute_nobody {machine : Machine} {directory : Text} {location : Location} (source : Text)
    (entered : machine.enter (Path.absolute machine.here.path directory) = .ok location)
    (absent : machine.programs "psql".toList = none)
    (nobody : (Container.find (Path.absolute machine.here.path directory) machine).1 = none) :
    execute directory ⟨.psql, source, {}⟩ { machine } =
      (.error (.missingInterpreter "psql".toList "psql".toList),
        { machine := (Container.find (Path.absolute machine.here.path directory) machine).2
          container := some none }) := by
  have missing : machine.start (Path.absolute machine.here.path directory) "psql".toList
      ["-A".toList, "-t".toList, "-X".toList] source = .error .missing := by
    simp only [Machine.start, entered, absent]
    rfl
  have tried : runLocally (Path.absolute machine.here.path directory) .psql
      (invocation ⟨.psql, source, {}⟩ none) { machine } =
      (.error (.missingInterpreter "psql".toList "psql".toList), { machine }) := by
    have only : (invocation ⟨.psql, source, {}⟩ none).candidates = [client] := rfl
    have input : (invocation ⟨.psql, source, {}⟩ none).stdin.getD [] = source := rfl
    rw [runLocally, Interpreter.run, only, input, client, Interpreter.tryAll, missing]
    rfl
  have ran : runAnywhere (Path.absolute machine.here.path directory) .psql
      (invocation ⟨.psql, source, {}⟩ none) { machine } =
      (.error (.missingInterpreter "psql".toList "psql".toList),
        { machine := (Container.find (Path.absolute machine.here.path directory) machine).2
          container := some none }) := by
    have fallback : Language.psql.hasContainerFallback = true := rfl
    simp only [runAnywhere, tried, if_pos fallback]
    rw [runContained_eq rfl]
    simp only [findContainer, nobody]
    rfl
  have ready : prepare (Path.absolute machine.here.path directory) ⟨.psql, source, {}⟩ machine =
      (.ok none, machine) := rfl
  rw [execute_eq directory ⟨.psql, source, {}⟩ { machine } ready rfl]
  simp only [ran]
  rfl

theorem execute_misled :
    ∃ failure after, execute "/".toList ⟨.psql, "x\n".toList, {}⟩ { machine := misled } =
        (.error failure, after) ∧
      after.machine.tree.get? ["which".toList] = some (.file (Utf8.encode "gone\n".toList)) := by
  have entered : misled.enter "/".toList = .ok [] := by cbv
  have nobody : (Container.find "/".toList misled).1 = none := by cbv
  refine ⟨_, _, execute_nobody "x\n".toList entered rfl nobody, ?_⟩
  cbv

theorem execute_entangled :
    ∃ outcome, execute "/".toList ⟨.mermaid, "x\n".toList, {}⟩ { machine := entangled } =
      (.ok outcome, { machine := entangled.drawn }) := by
  have created : entangled.tree.create entangled.here
      (Path.join (Path.absolute entangled.here.path "/".toList)
        ("mermaid".toList ++ "0".toList ++ ".mmd".toList)) (.file (Utf8.encode "x\n".toList)) =
      .ok (entangled.tree.put ["mermaid0.mmd".toList] (.file (Utf8.encode "x\n".toList))) := by
    cbv
  have prepared := prepare_ok ⟨.mermaid, "x\n".toList, {}⟩ rfl created
  refine ⟨{ stdout := [], exitCode := some 0, artifact := some "/mermaid0.svg".toList }, ?_⟩
  rw [execute_eq "/".toList ⟨.mermaid, "x\n".toList, {}⟩ { machine := entangled } prepared rfl]
  simp only [runAnywhere, runLocally, Interpreter.run, Interpreter.missing]
  -- Evaluating the name by its equations is slow.
  rw [show Language.mermaid.name = "mermaid".toList from rfl]
  cbv

theorem execute_drawn :
    ∃ failure after, execute "/".toList ⟨.psql, "y\n".toList, {}⟩ { machine := entangled.drawn } =
        (.error failure, after) ∧
      after.machine.tree.get? ["doc.md".toList] = some (.file (Utf8.encode "gone\n".toList)) := by
  have entered : entangled.drawn.enter "/".toList = .ok [] := by cbv
  have nobody : (Container.find "/".toList entangled.drawn).1 = none := by cbv
  refine ⟨_, _, execute_nobody "y\n".toList entered rfl nobody, ?_⟩
  cbv

theorem not_allOrNothing {options : Options} {file : Text} {machine after : Machine}
    {location : Location} {bytes others : Bytes} {failure : Failure}
    (found : machine.tree.find machine.here file = .ok (location, .file bytes))
    (refused : process options file machine = (.error failure, after))
    (changed : after.tree.get? location = some (.file others)) (differ : others ≠ bytes) :
    ¬ AllOrNothing options file machine := by
  intro whole
  have kept := whole.refused failure (by rw [refused]) location bytes found
  rw [refused] at kept
  exact differ (by simpa [changed] using kept)

theorem process_misled :
    ∃ failure after, process {} "which".toList misled = (.error failure, after) ∧
      after.tree.get? ["which".toList] = some (.file (Utf8.encode "gone\n".toList)) := by
  obtain ⟨failure, after, called, gone⟩ := execute_misled
  have opened : read misled "which".toList =
      .ok ⟨["which".toList], "```psql\nx\n```\n".toList⟩ := by
    cbv
  have requests : ((Pass.scanned "```psql\nx\n```\n".toList).filterMap Segment.due?).map
      Block.request = [⟨.psql, "x\n".toList, {}⟩] := by
    decide +kernel
  obtain ⟨block, due, request⟩ := List.map_eq_singleton_iff.mp requests
  rw [← request] at called
  obtain ⟨failed, left⟩ := Pass.run_refused (services "/".toList none) due called
  exact ⟨failure, after.machine, process_of_failure opened failed left, gone⟩

theorem process_entangled :
    ∃ failure after, process {} "doc.md".toList entangled = (.error failure, after) ∧
      after.tree.get? ["doc.md".toList] = some (.file (Utf8.encode "gone\n".toList)) := by
  obtain ⟨outcome, first⟩ := execute_entangled
  obtain ⟨failure, after, second, gone⟩ := execute_drawn
  have opened : read entangled "doc.md".toList =
      .ok ⟨["doc.md".toList], "```mermaid\nx\n```\n\n```psql\ny\n```\n".toList⟩ := by
    cbv
  have requests : ((Pass.scanned "```mermaid\nx\n```\n\n```psql\ny\n```\n".toList).filterMap
      Segment.due?).map Block.request = [⟨.mermaid, "x\n".toList, {}⟩, ⟨.psql, "y\n".toList, {}⟩] := by
    decide +kernel
  obtain ⟨diagram, more, due, request, others⟩ := List.map_eq_cons_iff.mp requests
  obtain ⟨query, rfl, asked⟩ := List.map_eq_singleton_iff.mp others
  rw [← request] at first
  rw [← asked] at second
  have kind : diagram.language.resultKind ≠ .structuredPlan := by
    rw [show diagram.language = .mermaid from congrArg Request.language request]
    decide
  obtain ⟨rest, due, failed, left⟩ := Pass.run_onward (services "/".toList none) due first kind
  obtain ⟨refused, ended⟩ := Pass.run_refused (services "/".toList none) due second
  exact ⟨failure, after.machine,
    process_of_failure opened (failed.trans refused) (left.trans ended), gone⟩

end Runs

/-- For a document to be spared it is not enough that it is not called like a picture. A container
that is called like an option leads to it, and so does a link that is called like a picture. -/
theorem process_not_allOrNothing :
    (misled.IsSound ∧
      (∀ location bytes, misled.tree.find misled.here "which".toList = .ok (location, .file bytes) →
        Unpictured misled location) ∧
      ¬ AllOrNothing {} "which".toList misled) ∧
    entangled.IsSound ∧
      (∀ location bytes,
        entangled.tree.find entangled.here "doc.md".toList = .ok (location, .file bytes) →
        Unpictured entangled location) ∧
      ¬ AllOrNothing {} "doc.md".toList entangled := by
  have direct : misled.tree.find misled.here "which".toList =
      .ok (["which".toList], .file (Utf8.encode "```psql\nx\n```\n".toList)) := by
    cbv
  have straight : entangled.tree.find entangled.here "doc.md".toList = .ok (["doc.md".toList],
      .file (Utf8.encode "```mermaid\nx\n```\n\n```psql\ny\n```\n".toList)) := by
    cbv
  refine ⟨⟨.of_root rfl rfl rfl, fun location bytes found => ?_, ?_⟩, .of_root rfl rfl rfl,
    fun location bytes found => ?_, ?_⟩
  · obtain ⟨rfl, -⟩ : ["which".toList] = location ∧ _ = bytes := by
      simpa using direct.symm.trans found
    exact ⟨by decide, fun n => ⟨by simp, by simp⟩⟩
  · obtain ⟨failure, after, refused, gone⟩ := process_misled
    exact not_allOrNothing direct refused gone (by decide)
  · obtain ⟨rfl, -⟩ : ["doc.md".toList] = location ∧ _ = bytes := by
      simpa using straight.symm.trans found
    exact ⟨by decide, fun n => ⟨by simp, by simp⟩⟩
  · obtain ⟨failure, after, refused, gone⟩ := process_entangled
    exact not_allOrNothing straight refused gone (by decide)

end DocumentFile
end Runbook
