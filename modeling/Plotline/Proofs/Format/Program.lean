import Plotline.Format.Program
import Plotline.Proofs.Json.Written
import Plotline.Proofs.Story.Package

/-!
Programs are read back from their JSON, whatever instructions and commands they hold, as long as their numbers are.
-/

namespace Plotline

open Decoder

namespace Decoder.Fields

variable {t : Type} {ts : List Type} {fields : Fields ts} {members : List (String × Json)} {row : Values ts}
  {levels : Nat} {name : String} {read : Decoder t} {f : t → Json} {value : Option t}

theorem Written.maybe (reads : ∀ x ∈ value, read.Reads levels (f x) x) (given : ∀ x ∈ value, (f x).tree ≠ .null)
    (rest : fields.Written levels members row) :
    Written levels (.cons (Decoder.maybe name read) fields) (Json.present name f value ++ members) (value, row) := by
  cases value with
  | none => exact .left rfl rest
  | some x => exact .given ((reads x rfl).optional (given x rfl)) rest

theorem Written.maybe_last (reads : ∀ x ∈ value, read.Reads levels (f x) x) (given : ∀ x ∈ value, (f x).tree ≠ .null) :
    Written levels (.cons (Decoder.maybe name read) .nil) (Json.present name f value) (value, ()) := by
  have written : Written levels (.cons (Decoder.maybe name read) .nil) (Json.present name f value ++ []) (value, ()) :=
    .maybe reads given .nil
  rwa [List.append_nil] at written

end Decoder.Fields

open Fields

private theorem tree_text_ne_null (s : String) : (Json.text s).tree ≠ .null := nofun

private theorem tree_single_ne_null {x : Single} (restored : x.Restored) : (Json.single x).tree ≠ .null := by
  obtain ⟨n, tree, -⟩ := restored
  rw [Json.tree, tree]
  intro null
  cases null

namespace Archetype

theorem json_reads (a : Archetype) : decoder.Reads 0 a.json a := by
  constructor
  · exact fun _ _ => rfl
  · intro s _
    cases a <;> cases s <;> rfl

end Archetype

namespace Reward

theorem json_reads {r : Reward} (fits : r.amount < UInt32.size) : decoder.Reads 1 r.json r := by
  have written : Written 0 (.cons (required "id" text) (.cons (withDefault "amount" word32 1) .nil))
      [("id", .text r.id), ("amount", .natural r.amount)] (r.id, r.amount, ()) := by
    apply Written.given (text_reads r.id)
    apply Written.given (natural_reads "u32" fits (by decide))
    exact .nil
  exact record_reads _ _ written (by decide)

end Reward

namespace ChoiceOption

theorem json_reads (o : ChoiceOption) : decoder.Reads 1 o.json o := by
  have written : Written 0 (.cons (required "text" Decoder.text) (.cons (required "target" labelName) .nil))
      [("text", .text o.text), ("target", .text o.target.text)] (o.text, o.target, ()) := by
    apply Written.given (text_reads o.text)
    apply Written.given (text_reads o.target.text).map
    exact .nil
  exact record_reads _ _ written (by decide)

end ChoiceOption

namespace EndOfProgram

private theorem written {e : EndOfProgram} (fit : ∀ r ∈ e.rewards, r.amount < UInt32.size) :
    Written 2
      (.cons (withDefault "is_branching" boolean false)
        (.cons (maybe "target_node_id" nodeId)
          (.cons (maybe "target_storyboard" storyboardName)
            (.cons (withDefault "rewards" (list Reward.decoder) []) .nil))))
      e.members (e.isBranching, e.targetNode, e.targetStoryboard, e.rewards, ()) := by
  have rewards : (list Reward.decoder).Reads 2 (.list (e.rewards.map Reward.json)) e.rewards :=
    list_reads fun r member => Reward.json_reads (fit r member)
  unfold members
  rw [List.append_assoc, List.cons_append]
  apply Written.given ((boolean_reads e.isBranching).mono (by decide))
  apply Written.maybe (fun id _ => (text_reads id.text).map.mono (by decide)) (fun id _ => tree_text_ne_null id.text)
  apply Written.maybe (fun id _ => (text_reads id.text).map.mono (by decide)) (fun id _ => tree_text_ne_null id.text)
  apply Written.given rewards
  exact .nil

theorem json_reads {e : EndOfProgram} (fit : ∀ r ∈ e.rewards, r.amount < UInt32.size) : decoder.Reads 3 e.json e :=
  record_reads _ _ (written fit) (by decide)

theorem members_untagged {e : EndOfProgram} (fit : ∀ r ∈ e.rewards, r.amount < UInt32.size) :
    ∀ member ∈ e.members, member.1 ≠ "type" :=
  (written fit).unnamed (by decide)

end EndOfProgram

namespace ActorCommand

theorem json_reads {c : ActorCommand} (restored : ∀ x ∈ c.singles, x.Restored) : decoder.Reads 1 c.json c := by
  cases c with
  | appear position =>
      have written : Written 0 (.cons (maybe "position" text) .nil) (Json.present "position" .text position)
          (position, ()) :=
        Written.maybe_last (fun s _ => text_reads s) (fun s _ => tree_text_ne_null s)
      exact shape.fielded_reads "show" (fun _ => rfl) written (by decide)
  | hide => exact Tagged.bare_reads (t := shape) fun _ => rfl
  | moveTo position seconds =>
      have written : Written 0 (.cons (required "position" text) (.cons (required "seconds" single) .nil))
          [("position", .text position), ("seconds", .single seconds)] (position, seconds, ()) := by
        apply Written.given (text_reads position)
        apply Written.given (single_reads (restored seconds List.mem_cons_self))
        exact .nil
      exact shape.fielded_reads "move_to" (fun _ => rfl) written (by decide)
  | animate clip seconds =>
      have written : Written 0 (.cons (required "clip" text) (.cons (required "seconds" single) .nil))
          [("clip", .text clip), ("seconds", .single seconds)] (clip, seconds, ()) := by
        apply Written.given (text_reads clip)
        apply Written.given (single_reads (restored seconds List.mem_cons_self))
        exact .nil
      exact shape.fielded_reads "animate" (fun _ => rfl) written (by decide)

end ActorCommand

namespace BackgroundCommand

theorem json_reads (c : BackgroundCommand) : decoder.Reads 1 c.json c := by
  cases c with
  | display image =>
      have written : Written 0 (.cons (required "image" text) .nil) [("image", .text image)] (image, ()) := by
        apply Written.given (text_reads image)
        exact .nil
      exact shape.fielded_reads "show" (fun _ => rfl) written (by decide)
  | hide => exact Tagged.bare_reads (t := shape) fun _ => rfl

end BackgroundCommand

namespace AudioCommand

theorem json_reads {c : AudioCommand} (restored : ∀ x ∈ c.singles, x.Restored) : decoder.Reads 1 c.json c := by
  cases c with
  | playMusic track fadeSeconds =>
      have written : Written 0 (.cons (required "track" text) (.cons fade .nil))
          [("track", .text track), ("fade_seconds", .single fadeSeconds)] (track, fadeSeconds, ()) := by
        apply Written.given (text_reads track)
        apply Written.given (single_reads (restored fadeSeconds List.mem_cons_self))
        exact .nil
      exact shape.fielded_reads "play_music" (fun _ => rfl) written (by decide)
  | stopMusic fadeSeconds =>
      have written : Written 0 (.cons fade .nil) [("fade_seconds", .single fadeSeconds)] (fadeSeconds, ()) := by
        apply Written.given (single_reads (restored fadeSeconds List.mem_cons_self))
        exact .nil
      exact shape.fielded_reads "stop_music" (fun _ => rfl) written (by decide)
  | playOneShot clip =>
      have written : Written 0 (.cons (required "clip" text) .nil) [("clip", .text clip)] (clip, ()) := by
        apply Written.given (text_reads clip)
        exact .nil
      exact shape.fielded_reads "play_one_shot" (fun _ => rfl) written (by decide)

end AudioCommand

namespace CameraCommand

theorem json_reads {c : CameraCommand} (restored : ∀ x ∈ c.singles, x.Restored) : decoder.Reads 1 c.json c := by
  cases c with
  | focus target seconds =>
      have written : Written 0 (.cons (required "target" text) (.cons (required "seconds" single) .nil))
          [("target", .text target), ("seconds", .single seconds)] (target, seconds, ()) := by
        apply Written.given (text_reads target)
        apply Written.given (single_reads (restored seconds List.mem_cons_self))
        exact .nil
      exact shape.fielded_reads "focus" (fun _ => rfl) written (by decide)
  | shake intensity seconds =>
      have written : Written 0 (.cons (required "intensity" single) (.cons (required "seconds" single) .nil))
          [("intensity", .single intensity), ("seconds", .single seconds)] (intensity, seconds, ()) := by
        apply Written.given (single_reads (restored intensity List.mem_cons_self))
        apply Written.given (single_reads (restored seconds (List.mem_cons_of_mem _ List.mem_cons_self)))
        exact .nil
      exact shape.fielded_reads "shake" (fun _ => rfl) written (by decide)
  | reset seconds =>
      have written : Written 0 (.cons (withDefault "seconds" single (.ofNat 0)) .nil) [("seconds", .single seconds)]
          (seconds, ()) := by
        apply Written.given (single_reads (restored seconds List.mem_cons_self))
        exact .nil
      exact shape.fielded_reads "reset" (fun _ => rfl) written (by decide)

end CameraCommand

namespace ScreenEffect

theorem json_reads {e : ScreenEffect} (restored : e.seconds.Restored) : decoder.Reads 1 e.json e := by
  have written : Written 0 (.cons (required "seconds" single) .nil) [("seconds", .single e.seconds)]
      (e.seconds, ()) := by
    apply Written.given (single_reads restored)
    exact .nil
  cases e with
  | fadeOut seconds => exact shape.fielded_reads "fade_out" (fun _ => rfl) written (by decide)
  | fadeIn seconds => exact shape.fielded_reads "fade_in" (fun _ => rfl) written (by decide)
  | flash seconds => exact shape.fielded_reads "flash" (fun _ => rfl) written (by decide)

end ScreenEffect

namespace Instruction

/-- An instruction stands for itself; one that could not be read is written under a name that no variant has. -/
theorem json_reads {i : Instruction} (restored : ∀ x ∈ i.singles, x.Restored)
    (fit : ∀ r ∈ i.rewards, r.amount < UInt32.size) : decoder.Reads 3 i.json i := by
  have few : 0 ≤ 2 := by decide
  cases i with
  | dialogue speaker text revealSeconds =>
      have reveal : ∀ x ∈ revealSeconds, x.Restored := fun x given => restored x (Option.mem_toList.mpr given)
      have written : Written 2
          (.cons (required "speaker" Decoder.text)
            (.cons (required "text" Decoder.text) (.cons (maybe "reveal_seconds" single) .nil)))
          (("speaker", .text speaker) :: ("text", .text text) :: Json.present "reveal_seconds" .single revealSeconds)
          (speaker, text, revealSeconds, ()) := by
        apply Written.given ((text_reads speaker).mono few)
        apply Written.given ((text_reads text).mono few)
        apply Written.maybe_last
        · exact fun x given => (single_reads (reveal x given)).mono few
        · exact fun x given => tree_single_ne_null (reveal x given)
      exact shape.fielded_reads "dialogue" (fun _ => rfl) written (by decide)
  | actor name command =>
      have written : Written 2 (.cons (required "actor" Decoder.text) (.cons (required "action" ActorCommand.decoder) .nil))
          [("actor", .text name), ("action", command.json)] (name, command, ()) := by
        apply Written.given ((text_reads name).mono few)
        apply Written.given ((ActorCommand.json_reads restored).mono (by decide))
        exact .nil
      exact shape.fielded_reads "actor_action" (fun _ => rfl) written (by decide)
  | background command =>
      have written : Written 2 (.cons (required "action" BackgroundCommand.decoder) .nil) [("action", command.json)]
          (command, ()) := by
        apply Written.given (command.json_reads.mono (by decide))
        exact .nil
      exact shape.fielded_reads "background_action" (fun _ => rfl) written (by decide)
  | choice prompt options =>
      have listed : (list ChoiceOption.decoder).Reads 2 (.list (options.map ChoiceOption.json)) options :=
        list_reads fun o _ => o.json_reads
      have written : Written 2
          (.cons (maybe "prompt" Decoder.text) (.cons (required "options" (list ChoiceOption.decoder)) .nil))
          (Json.present "prompt" .text prompt ++ [("options", .list (options.map ChoiceOption.json))])
          (prompt, options, ()) := by
        apply Written.maybe (fun s _ => (text_reads s).mono few) (fun s _ => tree_text_ne_null s)
        apply Written.given listed
        exact .nil
      exact shape.fielded_reads "choice" (fun _ => rfl) written (by decide)
  | label name =>
      have written : Written 2 (.cons (required "name" labelName) .nil) [("name", .text name.text)] (name, ()) := by
        apply Written.given ((text_reads name.text).map.mono few)
        exact .nil
      exact shape.fielded_reads "label" (fun _ => rfl) written (by decide)
  | jump target =>
      have written : Written 2 (.cons (required "label" labelName) .nil) [("label", .text target.text)]
          (target, ()) := by
        apply Written.given ((text_reads target.text).map.mono few)
        exact .nil
      exact shape.fielded_reads "jump" (fun _ => rfl) written (by decide)
  | audio command =>
      have written : Written 2 (.cons (required "action" AudioCommand.decoder) .nil) [("action", command.json)]
          (command, ()) := by
        apply Written.given ((AudioCommand.json_reads restored).mono (by decide))
        exact .nil
      exact shape.fielded_reads "audio" (fun _ => rfl) written (by decide)
  | endOfProgram ending =>
      exact Tagged.decoder_reads (t := shape) (fun _ => rfl) (EndOfProgram.json_reads fit).map
        (EndOfProgram.members_untagged fit)
  | camera command =>
      have written : Written 2 (.cons (required "action" CameraCommand.decoder) .nil) [("action", command.json)]
          (command, ()) := by
        apply Written.given ((CameraCommand.json_reads restored).mono (by decide))
        exact .nil
      exact shape.fielded_reads "camera_action" (fun _ => rfl) written (by decide)
  | screenEffect effect =>
      have written : Written 2 (.cons (required "effect" ScreenEffect.decoder) .nil) [("effect", effect.json)]
          (effect, ()) := by
        apply Written.given ((ScreenEffect.json_reads (restored effect.seconds List.mem_cons_self)).mono (by decide))
        exact .nil
      exact shape.fielded_reads "screen_effect" (fun _ => rfl) written (by decide)
  | trigger runner node =>
      have written : Written 2 (.cons (required "runner_id" runnerId) (.cons (required "node_id" nodeId) .nil))
          [("runner_id", .text runner.text), ("node_id", .text node.text)] (runner, node, ()) := by
        apply Written.given ((text_reads runner.text).map.mono few)
        apply Written.given ((text_reads node.text).map.mono few)
        exact .nil
      exact shape.fielded_reads "trigger_other_runner" (fun _ => rfl) written (by decide)
  | unknown => exact (Tagged.bare_reads (t := shape) fun _ => rfl).mono (by decide)

theorem json_tree_ne_null (i : Instruction) : i.json.tree ≠ .null := by
  cases i <;> exact nofun

end Instruction

namespace Program

theorem json_reads {p : Program} (restored : ∀ i ∈ p.instructions, ∀ x ∈ i.singles, x.Restored)
    (fit : ∀ i ∈ p.instructions, ∀ r ∈ i.rewards, r.amount < UInt32.size) : decoder.Reads 5 p.json p := by
  have instructions : (list entryDecoder).Reads 4 (.list (p.instructions.map Instruction.json)) p.instructions := by
    apply list_reads
    intro i member
    exact ((Instruction.json_reads (restored i member) (fit i member)).optional i.json_tree_ne_null).map
  have written : Written 4
      (.cons (withDefault "archetype" Archetype.decoder .generic)
        (.cons (withDefault "instructions" (list entryDecoder) []) .nil))
      [("archetype", p.archetype.json), ("instructions", .list (p.instructions.map Instruction.json))]
      (p.archetype, p.instructions, ()) := by
    apply Written.given (p.archetype.json_reads.mono (by decide))
    apply Written.given instructions
    exact .nil
  exact record_reads _ _ written (by decide)

end Program

end Plotline
