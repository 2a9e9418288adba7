import Plotline.Proofs.Interpreter.Offer

/-!
What the player sees of a choice. The options that a program waits for are those of the last menu that the stage was
shown, in the same order, and there is at least one.
-/

namespace Plotline

namespace Journal

/-- The last menu that the stage was shown: its prompt and the texts of its options. -/
def menu? (j : Journal) : Option (Option String × List String) :=
  j.findSome? fun
    | .cue (.choices prompt texts) => some (prompt, texts)
    | _ => none

/-- No menu is among the entries that have been added. -/
def Menuless (j j' : Journal) : Prop := ∃ entries : Journal, j' = entries ++ j ∧ entries.menu? = none

theorem menu?_append (late early : Journal) : (late ++ early).menu? = late.menu?.or early.menu? :=
  List.findSome?_append

namespace Menuless

variable {j j' j'' : Journal}

theorem refl (j : Journal) : j.Menuless j := ⟨[], rfl, rfl⟩

theorem trans (first : j.Menuless j') (last : j'.Menuless j'') : j.Menuless j'' := by
  obtain ⟨early, rfl, earlyNone⟩ := first
  obtain ⟨late, rfl, lateNone⟩ := last
  refine ⟨late ++ early, (List.append_assoc _ _ _).symm, ?_⟩
  rw [menu?_append, lateNone, earlyNone]
  rfl

theorem note (n : Note) (j : Journal) : j.Menuless (j.note n) := ⟨[.note n], rfl, rfl⟩

theorem notes (ns : List Note) (j : Journal) : j.Menuless (j.notes ns) := by
  induction ns generalizing j with
  | nil => exact refl j
  | cons n ns ih => exact (note n j).trans (ih (j.note n))

/-- The last menu is the same, whatever was journaled before. -/
theorem menu? (menuless : j.Menuless j') (past : Journal) : (j' ++ past).menu? = (j ++ past).menu? := by
  obtain ⟨entries, rfl, none⟩ := menuless
  rw [List.append_assoc, menu?_append, none, Option.none_or]

end Menuless

end Journal

/-- A handler that makes the program wait for a choice shows its options, of which there are some. -/
theorem Handler.shown_of_waits {run : RunView} {handler : Handler} {instruction : Instruction} {deed : Deed}
    (performed : handler.perform run instruction = .ok deed) {answer : Completion} {options : List ChoiceOption}
    (waits : deed.flow answer = .waitForChoice options) :
    options ≠ [] ∧ ∃ prompt, deed.cue = some (.choices prompt (options.map (·.text))) := by
  obtain ⟨prompt, rfl⟩ := choice_of_waits performed waits
  cases handler with
  | cinematicDialogue => cases performed
  | standard kind =>
      cases kind with
      | choice =>
          cases options with
          | nil => cases performed
          | cons option options =>
              cases performed
              exact ⟨List.cons_ne_nil _ _, prompt, rfl⟩
      | label =>
          cases performed
          cases waits
      | _ => cases performed

namespace Interpreter

variable {i i' : Interpreter} {j j' : Journal}

/-- What the program waits for the player to choose among is what the stage was shown last. -/
def Shows (i : Interpreter) (j : Journal) : Prop :=
  ∀ options, i.options? = some options →
    options ≠ [] ∧ ∃ prompt, j.menu? = some (prompt, options.map (·.text))

theorem shows_of_unoffered (unoffered : i.options? = none) (j : Journal) : i.Shows j := by
  intro options offered
  cases unoffered.symm.trans offered

theorem options?_of_free (free : i.suspension = none) : i.options? = none := by
  unfold options?
  rw [free]

theorem Shows.of_menu (shows : i.Shows j) (options : i'.options? = i.options?) (menu : j'.menu? = j.menu?) :
    i'.Shows j' := by
  intro offer offered
  rw [menu]
  exact shows offer (options.symm.trans offered)

/-- It is the last menu still if more is known of what went before. -/
theorem Shows.after (shows : i.Shows j) (past : Journal) : i.Shows (j ++ past) := by
  intro options offered
  obtain ⟨nonempty, prompt, menu⟩ := shows options offered
  refine ⟨nonempty, prompt, ?_⟩
  rw [Journal.menu?_append, menu]
  rfl

/-- One instruction has been carried out. If the program goes on, it waits for nothing; if it has ended, neither. -/
def Progress.Shows : Progress → Prop
  | .next i _ => i.suspension = none
  | .stop outcome i j => i.Shows j ∧ (outcome ≠ none → i.options? = none)

theorem follow_shows (free : i.suspension = none) {flow : Flow} (shown : ∀ options, flow = .waitForChoice options →
    options ≠ [] ∧ ∃ prompt, j.menu? = some (prompt, options.map (·.text))) : (i.follow flow j).Shows := by
  cases flow with
  | advance => exact free
  | redirect target => exact free
  | waitForInput => exact ⟨shows_of_unoffered rfl _, fun ended => absurd rfl ended⟩
  | waitForChoice options =>
      refine ⟨?_, fun ended => absurd rfl ended⟩
      rintro _ ⟨⟩
      exact shown options rfl
  | waitFor duration =>
      unfold follow
      dsimp only
      split
      · exact free
      · exact ⟨shows_of_unoffered rfl _, fun ended => absurd rfl ended⟩
  | finish ending => exact ⟨shows_of_unoffered rfl _, fun _ => rfl⟩

theorem step_shows (free : i.suspension = none) (stage : Stage) (j : Journal) : (i.step stage j).Shows := by
  unfold step
  split
  · exact ⟨shows_of_unoffered (options?_of_free free) j, fun ended => absurd rfl ended⟩
  · rename_i program loaded
    split
    · exact follow_shows free nofun
    · rename_i instruction found
      split
      · exact free
      · rename_i deed made
        refine follow_shows (i := { i with emitted := deed.emitted.toList ++ i.emitted }) free ?_
        intro options waits
        unfold deedFor at made
        cases handler : i.handlerFor program.archetype instruction with
        | error error => rw [handler] at made; cases made
        | ok handler' =>
            rw [handler] at made
            obtain ⟨nonempty, prompt, cue⟩ := Handler.shown_of_waits made waits
            refine ⟨nonempty, prompt, ?_⟩
            rw [cue]
            rfl

theorem run_shows (stage : Stage) (budget : Nat) (free : i.suspension = none) (j : Journal) :
    (i.run stage budget j).2.1.Shows (i.run stage budget j).2.2 ∧
      ((i.run stage budget j).1 ≠ none → (i.run stage budget j).2.1.options? = none) := by
  induction budget generalizing i j with
  | zero => exact ⟨shows_of_unoffered (options?_of_free free) _, fun ended => absurd rfl ended⟩
  | succ budget ih =>
      have shows := step_shows free stage j
      rw [run]
      cases stepped : i.step stage j with
      | stop outcome i' j' => rw [stepped] at shows; exact shows
      | next i' j' => rw [stepped] at shows; exact ih shows j'

/-- A wait for the player to choose is not ended by going on; after any other wait nothing is on offer. -/
theorem settleSuspension_options? (elapsed : Duration) (i : Interpreter) (j : Journal) :
    i.settleSuspension elapsed j = (false, i, j) ∨ (i.settleSuspension elapsed j).2.1.options? = none ∧
      ((i.settleSuspension elapsed j).1 = true → (i.settleSuspension elapsed j).2.1.suspension = none) := by
  unfold settleSuspension
  split
  · rename_i free
    exact .inr ⟨options?_of_free free, fun _ => free⟩
  · split
    · exact .inl rfl
    · exact .inr ⟨rfl, fun _ => rfl⟩
  · exact .inl rfl
  · split
    · exact .inr ⟨rfl, fun _ => rfl⟩
    · split
      · exact .inr ⟨rfl, fun _ => rfl⟩
      · exact .inr ⟨rfl, nofun⟩

theorem resume_shows (stage : Stage) (elapsed : Duration) {past : Journal} (shows : i.Shows (j ++ past)) :
    (i.resume stage elapsed j).2.1.Shows ((i.resume stage elapsed j).2.2 ++ past) ∧
      ((i.resume stage elapsed j).1 ≠ none → (i.resume stage elapsed j).2.1.options? = none) := by
  unfold resume
  split
  · rcases settleSuspension_options? elapsed i j with waits | ⟨unoffered, free⟩
    · rw [waits]
      exact ⟨shows, fun ended => absurd rfl ended⟩
    · cases ended : i.settleSuspension elapsed j with
      | mk ready rest =>
          rw [ended] at unoffered free
          cases ready with
          | true =>
              obtain ⟨shown, ended⟩ := run_shows stage rest.1.maxSteps (free rfl) rest.2
              exact ⟨shown.after past, ended⟩
          | false => exact ⟨shows_of_unoffered unoffered _, fun ended => absurd rfl ended⟩
  · exact ⟨shows, fun ended => absurd rfl ended⟩

end Interpreter

end Plotline
