import Mathlib.Data.List.Forall2
import Runbook.Proofs.Ownership
import Runbook.Proofs.Pieces

/-! Blocks do not reach into one another. Two passes over one document, whose blocks may print
different things, ask for the same in the same order and leave the same pieces. A block's own
outcome shows in its own body and artifacts and nowhere else. -/
namespace Runbook

/-- The address of a plan hangs on its text alone. The name of a picture hangs on what is drawn
and on the block it is drawn for, which the number of blocks that have run tells. -/
structure Services.Steady (services : Services σ) (ran : σ → Nat) (link : Text → Option Text)
    (name : Nat → Text → Option Text) : Prop where
  execute : ∀ request state, ran (services.execute request state).2 = ran state + 1
  submit : ∀ plan state, (services.submit plan state).1 = link plan
  submitted : ∀ plan state, ran (services.submit plan state).2 = ran state
  save : ∀ picture state, (services.save picture state).1 = name (ran state) picture
  saved : ∀ picture state, ran (services.save picture state).2 = ran state

/-- Surroundings that know how many blocks have run, and answer by that. -/
def Services.counting (outcome : Nat → Outcome) (link : Text → Option Text)
    (name : Nat → Text → Option Text) : Services Nat where
  execute _ ran := (.ok (outcome ran), ran + 1)
  submit plan ran := (link plan, ran)
  save picture ran := (name ran picture, ran)

theorem Services.counting_steady (outcome : Nat → Outcome) (link : Text → Option Text)
    (name : Nat → Text → Option Text) : (counting outcome link name).Steady id link name := by
  constructor <;> intros <;> rfl

theorem Services.Steady.answer {services : Services σ} {ran : σ → Nat}
    {link : Text → Option Text} {name : Nat → Text → Option Text}
    (steady : services.Steady ran link name) (visuals : Visuals) (state : σ) :
    (services.answer visuals state).1 =
        ⟨visuals.submit.bind link, visuals.draw.bind (name (ran state))⟩ ∧
      ran (services.answer visuals state).2 = ran state := by
  have submit : (ask services.submit visuals.submit state).1 = visuals.submit.bind link ∧
      ran (ask services.submit visuals.submit state).2 = ran state := by
    cases visuals.submit with
    | none => exact ⟨rfl, rfl⟩
    | some plan => exact ⟨steady.submit plan state, steady.submitted plan state⟩
  have save (later : σ) : (ask services.save visuals.draw later).1 =
        visuals.draw.bind (name (ran later)) ∧
      ran (ask services.save visuals.draw later).2 = ran later := by
    cases visuals.draw with
    | none => exact ⟨rfl, rfl⟩
    | some picture => exact ⟨steady.save picture later, steady.saved picture later⟩
  obtain ⟨link, count⟩ := submit
  obtain ⟨picture, kept⟩ := save (ask services.submit visuals.submit state).2
  rw [count] at picture kept
  exact ⟨by simp only [Services.answer, link, picture], kept⟩

/-- What two passes make of one segment, and the texts. Only a block that has run can differ: in
its body if it holds its own results, in its artifacts if it does not. -/
inductive Piece.Beside : Piece → Piece → Text → Text → Prop
  | copied {line : Line} : Beside (.copied line) (.copied line) line line
  | kept {block : Block} {text : Text} :
      text = block.content ++ block.close ++ block.decision.passThrough.flatten →
      Beside (.kept block) (.kept block) text text
  | executed {block : Block} {outcome other : Outcome} {spliced later : Spliced}
      {body altered artifacts renewed : Text} :
      (outcome = other → spliced = later) →
      (block.plan.inline = false → body = block.content ∧ altered = block.content) →
      (block.plan.inline = true → artifacts = renewed) →
      Beside (.executed block outcome spliced) (.executed block other later)
        (body ++ block.close ++ artifacts ++ block.decision.passThrough.flatten)
        (altered ++ block.close ++ renewed ++ block.decision.passThrough.flatten)

theorem Piece.beside_executed (block : Block) {outcome other : Outcome} {answers others : Answers}
    (same : outcome = other → answers = others) :
    let spliced := Splice.render block.config block.language outcome block.source answers
    let later := Splice.render block.config block.language other block.source others
    Piece.Beside (.executed block outcome spliced) (.executed block other later)
      (Piece.executed block outcome spliced).output (Piece.executed block other later).output := by
  intro spliced later
  refine .executed ?_ ?_ ?_
  · rintro rfl
    simp only [spliced, later, same rfl]
  · intro separate
    simp only [spliced, later, Splice.render_annotatedBody separate, Option.getD_none, and_self]
  · intro inline
    simp only [spliced, later, Splice.render_artifacts_inline inline]

namespace Pass

variable {first : Services σ} {second : Services τ} {ran : σ → Nat} {count : τ → Nat}
  {link : Text → Option Text} {name : Nat → Text → Option Text}

theorem run_beside (steady : first.Steady ran link name) (other : second.Steady count link name)
    {todo : List Segment} {s : σ} {t : τ} (start : ran s = count t)
    (done : (run first s todo).failure = none) (finished : (run second t todo).failure = none) :
    (run first s todo).requests = (run second t todo).requests ∧
      List.Forall₂ (fun piece twin => piece.Beside twin piece.output twin.output)
        (run first s todo).pieces (run second t todo).pieces := by
  -- As many blocks have run in both so far, and the answers hang on nothing else that was done.
  induction todo generalizing s t with
  | nil => exact ⟨rfl, .nil⟩
  | cons segment more ih =>
    cases segment with
    | copied line =>
      obtain ⟨requests, pieces⟩ := ih start done finished
      exact ⟨requests, .cons .copied pieces⟩
    | block block =>
      cases due : block.decision.execute with
      | false =>
        rw [run_kept due] at done finished ⊢
        rw [run_kept due]
        obtain ⟨requests, pieces⟩ := ih start done finished
        exact ⟨requests, .cons (.kept rfl) pieces⟩
      | true =>
        cases called : first.execute block.request s with
        | mk result s' =>
        cases asked : second.execute block.request t with
        | mk result' t' =>
        have counted : ran s' = count t' := by
          have forward := steady.execute block.request s
          have onward := other.execute block.request t
          rw [called] at forward
          rw [asked] at onward
          rw [forward, onward, start]
        cases result with
        | error failure =>
          rw [run_failed due called] at done
          contradiction
        | ok outcome =>
          cases result' with
          | error failure =>
            rw [run_failed due asked] at finished
            contradiction
          | ok outcome' =>
            rw [run_executed due called] at done ⊢
            rw [run_executed due asked] at finished ⊢
            obtain ⟨answers, kept⟩ := steady.answer
              (Splice.visuals block.config block.language.resultKind outcome) s'
            obtain ⟨others, keeps⟩ := other.answer
              (Splice.visuals block.config block.language.resultKind outcome') t'
            obtain ⟨requests, pieces⟩ :=
              ih (kept.trans (counted.trans keeps.symm)) done finished
            refine ⟨congrArg ([block.request] ++ ·) requests,
              .cons (Piece.beside_executed block ?_) pieces⟩
            rintro rfl
            rw [answers, others, counted]

/-- What a block prints has no part in what is executed after it, nor in any text but its own. Two
passes that end well ask for the same requests in the same order and cut both outputs into the
same pieces; pieces of one place differ only where a block has run to different outcomes, and
there only in what the block itself owns. -/
theorem ofDocument_isolated {document output another : Text} {s : σ} {t : τ}
    (steady : first.Steady ran link name) (other : second.Steady count link name)
    (start : ran s = count t) (done : (ofDocument first s document).result = .ok output)
    (finished : (ofDocument second t document).result = .ok another) :
    let run := ofDocument first s document
    let twin := ofDocument second t document
    run.requests = twin.requests ∧
      run.pieces.map Piece.segment = scanned document ∧
      twin.pieces.map Piece.segment = scanned document ∧
      run.pieces.flatMap Piece.output = output ∧ twin.pieces.flatMap Piece.output = another ∧
      List.Forall₂ (fun piece twin => piece.Beside twin piece.output twin.output)
        run.pieces twin.pieces := by
  obtain ⟨unbroken, text⟩ := Run.result_eq_ok_iff.mp done
  obtain ⟨whole, words⟩ := Run.result_eq_ok_iff.mp finished
  rw [ofDocument_eq] at unbroken text ⊢
  rw [ofDocument_eq] at whole words ⊢
  obtain ⟨requests, pieces⟩ := run_beside steady other start unbroken whole
  exact ⟨requests, run_segments unbroken, run_segments whole, text, words, pieces⟩

/-- The first block fails in one pass and prints text that reads like a block in the other. The
second block runs alike in both. -/
theorem ofDocument_isolated_failure :
    let printed : Outcome := { stdout := "```bash\nls\n", exitCode := some 0 }
    let failed : Outcome := { stdout := [], stderr := "none\n", exitCode := some 1 }
    let shown : Outcome := { stdout := "2\n", exitCode := some 0 }
    let first := Services.counting (fun ran => if ran = 0 then printed else shown)
      (fun _ => none) (fun _ _ => none)
    let second := Services.counting (fun ran => if ran = 0 then failed else shown)
      (fun _ => none) (fun _ _ => none)
    let document := "```bash\necho\n```\n\n```sh\nwc\n```\n".toList
    let output := "```bash\necho\n```\n\n```RESULT\n```bash\nls\n```\n\n".toList ++
      "```sh\nwc\n```\n\n```RESULT\n2\n```\n\n".toList
    (ofDocument first 0 document).result = .ok output ∧
      (ofDocument first 0 document).requests = (ofDocument second 0 document).requests ∧
      List.Forall₂ (fun piece twin => piece.Beside twin piece.output twin.output)
        (ofDocument first 0 document).pieces (ofDocument second 0 document).pieces := by
  intro printed failed shown first second document output
  have answers (outcome : Nat → Outcome) :
      (ofDocument (Services.counting outcome (fun _ => none) (fun _ _ => none)) 0
        document).failure = none := by
    rw [ofDocument_eq]
    exact run_completes (fun request before => ⟨_, _, rfl⟩) _
  have done : (ofDocument first 0 document).result = .ok output :=
    Run.result_eq_ok_iff.mpr ⟨answers _, by decide +kernel⟩
  have finished : (ofDocument second 0 document).result = .ok (ofDocument second 0 document).text :=
    Run.result_eq_ok_iff.mpr ⟨answers _, rfl⟩
  have isolated := ofDocument_isolated (Services.counting_steady _ _ _)
    (Services.counting_steady _ _ _) rfl done finished
  exact ⟨done, isolated.1, isolated.2.2.2.2.2⟩

end Pass
end Runbook
