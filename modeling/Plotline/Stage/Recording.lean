import Plotline.Stage.Cue

/-!
What can be read off a record of cues.
-/

namespace Plotline.Cue

def spokenLines (cues : List Cue) : List String :=
  cues.filterMap fun
    | .dialogue _ text => some text
    | .cinematicText text _ => some text
    | _ => none

def rewardLists (cues : List Cue) : List (List Reward) :=
  cues.filterMap fun
    | .rewards list => some list
    | _ => none

def grantedRewards (cues : List Cue) : List Reward := (rewardLists cues).flatten

end Plotline.Cue
