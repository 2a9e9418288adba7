import Plotline.Text.Shown

/-!
The names a story uses. Each kind of name is a type of its own, so that a node is never looked up where a
runner is meant.
-/

namespace Plotline

structure RunnerId where
  text : String
  deriving DecidableEq, Repr

structure NodeId where
  text : String
  deriving DecidableEq, Repr

structure StoryboardName where
  text : String
  deriving DecidableEq, Repr

structure LabelName where
  text : String
  deriving DecidableEq, Repr

structure SubscriptionId where
  number : Nat
  deriving DecidableEq, Repr

namespace RunnerId

def shown (id : RunnerId) : String := Text.shownTuple "RunnerId" [Text.quoted id.text]

/-- Runners are listed in the order of their ids, character by character. -/
def before (a b : RunnerId) : Bool := a.text < b.text

end RunnerId

def NodeId.shown (id : NodeId) : String := Text.shownTuple "NodeId" [Text.quoted id.text]

def StoryboardName.shown (name : StoryboardName) : String :=
  Text.shownTuple "StoryboardName" [Text.quoted name.text]

def SubscriptionId.shown (id : SubscriptionId) : String :=
  Text.shownTuple "SubscriptionId" [toString id.number]

end Plotline
