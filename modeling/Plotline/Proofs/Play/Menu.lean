import Plotline.Proofs.Interpreter.Menu
import Plotline.Proofs.Play.Command
import Plotline.Proofs.Play.Prompt
import Plotline.Stage.Terminal

/-!
Choosing from a menu. Whenever a session prompts for a choice, the menu that the player has seen last lists the options
that the program waits for; the number before an option chooses it, unless the number has more than one digit.
-/

namespace Plotline

theorem Interpreter.Takes.unoffered {i i' : Interpreter} (takes : i.Takes i') (unoffered : i.options? = none) :
    i'.options? = none := by
  cases takes with
  | same => exact unoffered
  | loaded idle program => rfl

/-! ### Scenes -/

namespace Scene

variable {elapsed : Duration} {s s' t : Scene} {rounds : List Round} {past : Journal}

/-- What the player is to choose among is what was shown last. What was journaled before may have been put away. -/
def Shows (past : Journal) (s : Scene) : Prop := s.interpreter.Shows (s.channel.journal ++ past)

theorem Unscripted.menuless (unscripted : s.Unscripted s') : s.channel.journal.Menuless s'.channel.journal := by
  obtain ⟨entries, grown, plain⟩ := unscripted.journal
  refine ⟨entries, grown, ?_⟩
  unfold Journal.menu?
  rw [List.findSome?_eq_none_iff]
  intro entry member
  split
  · cases plain _ member
  · rfl

/-- Nothing that happens besides a program changes what is on offer, unless a new program is loaded. -/
theorem Unscripted.shows (unscripted : s.Unscripted s') (shows : s.Shows past) : s'.Shows past := by
  have menu := unscripted.menuless.menu? past
  have takes := unscripted.interpreter
  unfold Shows at shows ⊢
  revert menu takes
  generalize s'.interpreter = i'
  intro menu takes
  cases takes with
  | same => exact shows.of_menu rfl menu
  | loaded idle program => exact Interpreter.shows_of_unoffered rfl _

theorem publishAll_menuless (events : List StoryEvent) (ch : Channel) :
    ch.journal.Menuless (ch.publishAll events).journal := by
  obtain ⟨ns, noted⟩ := Channel.publishAll_notes events ch
  rw [noted]
  exact .notes ns ch.journal

private theorem resumed_shows {outcome : Option ProgramOutcome} (shows : s.Shows past)
    (resumed : s.resume elapsed = (outcome, t)) : t.Shows past ∧ (outcome ≠ none → t.interpreter.options? = none) := by
  have went := Interpreter.resume_shows s.stage elapsed shows
  unfold resume at resumed
  cases made : s.interpreter.resume s.stage elapsed s.channel.journal with
  | mk ended rest =>
      rw [made] at went resumed
      cases resumed
      have menu := (publishAll_menuless rest.1.takeEmitted.1 { s.channel with journal := rest.2 }).menu? past
      exact ⟨went.1.of_menu rfl menu, went.2⟩

theorem Pumps.shows (pumps : Pumps elapsed s rounds t) (shows : s.Shows past) : t.Shows past := by
  induction pumps with
  | rests idle => exact shows
  | waits running resumed => exact (resumed_shows shows resumed).1
  | @branches elapsed s t target storyboard running resumed =>
      have unoffered := (resumed_shows shows resumed).2 (Option.some_ne_none _)
      have same := (branchActive_waitless target storyboard t).2
      exact Interpreter.shows_of_unoffered (same ▸ unoffered) _
  | @finishes elapsed s t u rewards rounds running resumed others ih =>
      have unoffered := (resumed_shows shows resumed).2 (Option.some_ne_none _)
      have finished := (finishActive_silent rewards t).interpreter
      exact ih (Interpreter.shows_of_unoffered (finished.unoffered unoffered) _)

theorem tick_shows (elapsed : Duration) (shows : s.Shows past) : (s.tick elapsed).Shows past :=
  (rounds_pump elapsed s).shows ((tick_unscripted s).shows shows)

theorem registerAll_unoffered (definitions : List RunnerDefinition) (s : Scene)
    (unoffered : s.interpreter.options? = none) : (registerAll definitions s).2.interpreter.options? = none := by
  induction definitions generalizing s with
  | nil => exact unoffered
  | cons d ds ih =>
      have takes : s.interpreter.Takes (s.register (.ofDefinition d)).2.interpreter :=
        @Operation.perform_takes (.register (.ofDefinition d)) trivial s
      have still := takes.unoffered unoffered
      unfold registerAll
      revert still
      rcases s.register (.ofDefinition d) with ⟨result, s'⟩
      intro still
      cases result with
      | error error => exact still
      | ok _ => exact ih s' still

/-- The option with the number is chosen: the program goes on at its label. -/
theorem selectChoice_of_offered {options : List ChoiceOption} (offered : s.interpreter.options? = some options)
    {index : Nat} {option : ChoiceOption} (found : options[index]? = some option) :
    ∃ scene, s.selectChoice index = .ok scene ∧
      scene.interpreter =
        { s.interpreter with
          cursor := ((s.interpreter.program.getD {}).resolve option.target s.interpreter.cursor).1
          suspension := none } := by
  unfold selectChoice Interpreter.selectChoice
  rw [offered]
  dsimp only
  rw [found]
  exact ⟨_, rfl, rfl⟩

theorem unoffered_of_selectChoice {index : Nat} {scene : Scene} (selected : s.selectChoice index = .ok scene) :
    scene.interpreter.options? = none := by
  cases offered : s.interpreter.options? with
  | none =>
      unfold selectChoice Interpreter.selectChoice at selected
      rw [offered] at selected
      cases selected
  | some options =>
      cases found : options[index]? with
      | none =>
          unfold selectChoice Interpreter.selectChoice at selected
          rw [offered] at selected
          dsimp only at selected
          rw [found] at selected
          cases selected
      | some option =>
          obtain ⟨scene', selected', goes⟩ := selectChoice_of_offered offered found
          cases selected.symm.trans selected'
          rw [goes]
          rfl

end Scene

/-! ### Sessions -/

namespace Session

variable {past : Journal}

theorem settle_shows (s : Session) (shows : s.scene.Shows past) : s.settle.scene.Shows past := by
  obtain ⟨ticks, -, settled⟩ := s.settle_eq_ticks
  rw [settled]
  dsimp only
  generalize ticks + 1 = ticks
  have each : ∀ scene : Scene, scene.Shows past → ((Scene.tick 0)^[ticks] scene).Shows past := by
    induction ticks with
    | zero => exact fun _ shows => shows
    | succ ticks ih => exact fun scene shows => ih (scene.tick 0) (Scene.tick_shows 0 shows)
  exact each s.scene shows

theorem offered_of_prompt {s : Session} (prompted : s.prompt = .choice) :
    ∃ options, s.scene.interpreter.options? = some options := by
  unfold prompt at prompted
  split at prompted
  · rename_i waits
    exact Option.isSome_iff_exists.mp waits
  · split at prompted <;> cases prompted

/-- Where the world is prompted for, or the player is to go on, nothing is on offer. -/
theorem unoffered_of_prompt {s : Session} (other : s.prompt ≠ .choice) : s.scene.interpreter.options? = none := by
  unfold prompt at other
  split at other
  · exact absurd rfl other
  · rename_i unoffered
    simpa [Interpreter.isWaitingForChoice] using unoffered

private theorem save_interpreter (slot : Nat) (s : Session) :
    (s.save slot).2.scene.interpreter = s.scene.interpreter := by
  unfold save
  split <;> rfl

private theorem load_takes (slot : Nat) (s : Session) :
    s.scene.interpreter.Takes (s.load slot).2.scene.interpreter := by
  unfold load
  split
  · exact .same
  · exact .same
  · rename_i entries _
    exact @Scene.Operation.perform_takes (.restore entries) trivial s.scene

/-- A command leaves the session as it is, or nothing is on offer afterwards. -/
theorem handle_unoffered (command : Command) (s : Session) :
    (s.handle command).2 = s ∨ (s.handle command).2.scene.interpreter.options? = none := by
  unfold handle
  split
  · exact .inl rfl
  · rename_i prompted
    have unoffered := unoffered_of_prompt (s := s) (by rw [prompted]; decide)
    split
    · rename_i scene continued
      have same := Scene.Operation.continueInput_interpreter s.scene
      rw [Scene.Operation.perform, continued] at same
      refine .inr ?_
      rcases same with same | same <;> exact same ▸ unoffered
    · exact .inl rfl
  · rename_i index _
    split
    · rename_i scene selected
      exact .inr (Scene.unoffered_of_selectChoice selected)
    · exact .inl rfl
  · rename_i prompted
    exact .inr (unoffered_of_prompt (s := s) (by rw [prompted]; decide))
  · rename_i prompted
    exact .inr (unoffered_of_prompt (s := s) (by rw [prompted]; decide))
  · rename_i slot prompted
    refine .inr ?_
    rw [save_interpreter]
    exact unoffered_of_prompt (by rw [prompted]; decide)
  · rename_i slot prompted
    exact .inr ((load_takes slot s).unoffered (unoffered_of_prompt (by rw [prompted]; decide)))
  · exact .inl rfl
  · exact .inl rfl
  · exact .inl rfl

/-- All that is journaled while a session is played, what is put away on the way included. -/
def chronicle : List Move → Session → Journal
  | [], s => s.scene.channel.journal
  | .flush :: moves, s => chronicle moves s.flush.2 ++ s.flush.1
  | move :: moves, s => chronicle moves (move.perform s)

/-- However a session is played, what is on offer is what the player was shown last. -/
theorem play_shows (moves : List Move) (s : Session) (shows : s.scene.Shows past) :
    (play moves s).scene.interpreter.Shows (chronicle moves s ++ past) := by
  induction moves generalizing s past with
  | nil => exact shows
  | cons move moves ih =>
      cases move with
      | settle => exact ih s.settle (settle_shows s shows)
      | flush =>
          unfold chronicle
          rw [List.append_assoc]
          exact ih s.flush.2 shows
      | answer command =>
          refine ih (s.handle command).2 ?_
          rcases handle_unoffered command s with same | unoffered
          · rw [same]
            exact shows
          · exact Interpreter.shows_of_unoffered unoffered _

theorem handle_choose {s : Session} (prompted : s.prompt = .choice) {index : Nat} {scene : Scene}
    (selected : s.scene.selectChoice index = .ok scene) :
    s.handle (.choose index) = (.ok {}, { s with scene }) := by
  unfold handle
  rw [prompted]
  dsimp only
  rw [selected]

end Session

/-- Behind its number, on a line of its own, stands each option. -/
theorem Terminal.play_choices (t : Terminal) (prompt : Option String) {texts : List String} {index : Nat}
    {text : String} (shown : texts[index]? = some text) :
    (t.play (.choices prompt texts)).1[1 + prompt.toList.length + index]? = some s!"{index + 1}. {text}" := by
  have within : index < (numbered texts).length := by
    rw [numbered, List.length_mapIdx]
    exact (List.getElem?_eq_some_iff.mp shown).1
  have heading : (["--- Choice ---"] ++ prompt.toList).length = 1 + prompt.toList.length := by
    rw [List.length_append]
    rfl
  unfold play
  dsimp only
  rw [← heading, List.append_assoc, List.getElem?_append_right (Nat.le_add_right _ _), Nat.add_sub_cancel_left,
    List.getElem?_append_left within, numbered, List.getElem?_mapIdx, shown]
  rfl

namespace Session

/-- However a session is played, when it prompts for a choice the menu that was shown last lists the options that the
program waits for, each behind its number. A number of one digit chooses its option, and the program goes on at the
label of that. Numbers of more digits are refused, and nothing changes. -/
theorem choose_by_number (package : StoryPackage) (settings : Settings) (stage : Stage) (slots : Slots)
    (moves : List Move) :
    let opened : Session := ⟨(Scene.ofPackage package settings stage).2, slots⟩
    let s := play moves opened
    s.prompt = .choice →
      ∃ options prompt, s.scene.interpreter.options? = some options ∧ options ≠ [] ∧
        (chronicle moves opened).menu? = some (prompt, options.map (·.text)) ∧
        ∀ index option, options[index]? = some option →
          (∀ t : Terminal, (t.play (.choices prompt (options.map (·.text)))).1[1 + prompt.toList.length + index]? =
              some s!"{index + 1}. {option.text}") ∧
            (index < 9 → Command.parse (toString (index + 1)) = .choose index ∧
              ∃ scene, s.scene.selectChoice index = .ok scene ∧
                s.handle (.choose index) = (.ok {}, { s with scene }) ∧
                scene.interpreter =
                  { s.scene.interpreter with
                    cursor :=
                      ((s.scene.interpreter.program.getD {}).resolve option.target s.scene.interpreter.cursor).1
                    suspension := none }) ∧
            (9 ≤ index → Command.parse (toString (index + 1)) = .invalid (Command.misnumbered (index + 1)) ∧
              s.handle (.invalid (Command.misnumbered (index + 1))) =
                (.ok { lines := [Command.misnumbered (index + 1)] }, s)) := by
  intro opened s prompted
  have unoffered : opened.scene.interpreter.options? = none :=
    Scene.registerAll_unoffered package.runners (Scene.empty settings stage) rfl
  have shows : s.scene.interpreter.Shows (chronicle moves opened ++ []) :=
    play_shows moves opened (Interpreter.shows_of_unoffered unoffered _)
  obtain ⟨options, offered⟩ := offered_of_prompt prompted
  obtain ⟨nonempty, prompt, menu⟩ := shows options offered
  rw [List.append_nil] at menu
  refine ⟨options, prompt, offered, nonempty, menu, fun index option found => ⟨?_, ?_, ?_⟩⟩
  · intro t
    exact t.play_choices prompt (by rw [List.getElem?_map, found]; rfl)
  · intro few
    obtain ⟨scene, selected, goes⟩ := Scene.selectChoice_of_offered offered found
    refine ⟨?_, scene, selected, handle_choose prompted selected, goes⟩
    rw [Command.parse_toString, if_pos (by omega), Nat.add_sub_cancel]
  · intro many
    refine ⟨?_, rfl⟩
    rw [Command.parse_toString, if_neg (by omega)]

/-- An inn with ten dishes, each of which is served at the same table. -/
private def inn : StoryPackage :=
  { runners :=
      [{ id := ⟨"host"⟩
         storyboard :=
           { name := ⟨"inn"⟩
             nodes :=
               [{ id := ⟨"supper"⟩
                  isStart := true
                  program :=
                    { instructions :=
                        [.choice (some "What will it be?")
                          (["Soup", "Bread", "Cheese", "Stew", "Pie", "Fish", "Beans", "Eggs", "Cake", "Pears"].map
                            fun dish => ⟨dish, ⟨"table"⟩⟩),
                         .label ⟨"table"⟩] } }] } }] }

private def supper : Session := ⟨(Scene.ofPackage inn {} .instant).2, ⟨"saves", .absent⟩⟩

/-- The ninth dish is to be had. -/
theorem ninth_dish_served :
    (play [.settle] supper).prompt = .choice ∧ Command.parse (toString 9) = .choose 8 ∧
      ∃ scene, (play [.settle] supper).scene.selectChoice 8 = .ok scene ∧
        (play [.settle] supper).handle (.choose 8) = (.ok {}, { play [.settle] supper with scene }) := by
  have prompted : (play [.settle] supper).prompt = .choice := by decide +kernel
  have length : ((play [.settle] supper).scene.interpreter.options?.map (·.length)) = some 10 := by decide +kernel
  obtain ⟨options, prompt, offered, -, -, each⟩ :=
    choose_by_number inn {} .instant ⟨"saves", .absent⟩ [.settle] prompted
  obtain ⟨options', offered', ten⟩ := Option.map_eq_some_iff.mp length
  cases offered.symm.trans offered'
  have within : 8 < options.length := by omega
  obtain ⟨-, chosen, -⟩ := each 8 options[8] (List.getElem?_eq_getElem within)
  obtain ⟨parsed, scene, selected, handled, -⟩ := chosen (by decide)
  exact ⟨prompted, parsed, scene, selected, handled⟩

/-- The tenth dish is on the menu, but it is not to be had by its number. -/
theorem tenth_dish_refused :
    (play [.settle] supper).prompt = .choice ∧
      (chronicle [.settle] supper).menu?.map (fun menu => (Terminal.numbered menu.2)[9]?) = some (some "10. Pears") ∧
      Command.parse "10" = .invalid "choices are numbered 1-9" ∧
      ((play [.settle] supper).handle (.parse "10")).2.prompt = .choice := by
  refine ⟨?_, ?_, ?_, ?_⟩ <;> decide +kernel

end Session

end Plotline
