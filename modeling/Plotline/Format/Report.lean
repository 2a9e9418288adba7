import Plotline.Check.Report
import Plotline.Format.Program

/-!
Reports as JSON.
-/

namespace Plotline

open Decoder

namespace IssueLevel

def all : List IssueLevel := [error, warning, info]

def decoder : Decoder IssueLevel := name (all.map fun l => (l.shown, l))

end IssueLevel

namespace Location

def decoder : Decoder Location :=
  record "struct Location"
    (.cons (spelledOut "runner" runnerId)
      (.cons (spelledOut "storyboard" storyboardName)
        (.cons (spelledOut "node" nodeId) (.cons (spelledOut "instruction" size) .nil))))
    fun (runner, storyboard, node, instruction, ()) => { runner, storyboard, node, instruction }

def json (l : Location) : Json :=
  .object
    [("runner", .ofOption (.text ·.text) l.runner), ("storyboard", .ofOption (.text ·.text) l.storyboard),
      ("node", .ofOption (.text ·.text) l.node), ("instruction", .ofOption .natural l.instruction)]

end Location

namespace Issue

def decoder : Decoder Issue :=
  record "struct LintIssue"
    (.cons (required "level" IssueLevel.decoder)
      (.cons (required "message" Decoder.text)
        (.cons (required "location" Location.decoder) (.cons (required "category" Decoder.text) .nil))))
    fun (level, message, location, category, ()) => { level, message, location, category }

def json (i : Issue) : Json :=
  .object
    [("level", .text i.level.shown), ("message", .text i.message), ("location", i.location.json),
      ("category", .text i.category)]

end Issue

namespace Report

def decoder : Decoder Report :=
  record "struct LintResult"
    (.cons (required "issues" (list Issue.decoder))
      (.cons (required "error_count" size)
        (.cons (required "warning_count" size) (.cons (required "info_count" size) .nil))))
    fun (issues, errors, warnings, infos, ()) => { issues, errors, warnings, infos }

def json (r : Report) : Json :=
  .object
    [("issues", .list (r.issues.map Issue.json)), ("error_count", .natural r.errors),
      ("warning_count", .natural r.warnings), ("info_count", .natural r.infos)]

end Report

end Plotline
