import DocAudit.Report.Json
import DocAudit.Text.Blank

/-!
# Wording of reports

What the reports have in common: numbers of things, cut texts, annotations for workflows, and fields of
records.

## Contents

* `plural`, `percent`, `shortened`, `column`
* `workflowNote`: its message holds no line ends, because the first one would end the annotation
* `record`
-/

namespace DocAudit.Report

open Text

/-- A number of things. -/
def plural (count : Int) (word : String) : Text :=
  ofInt count ++ ' ' :: word.toList ++ (if count = 1 then [] else ['s'])

/-- A percentage with one place. -/
def percent (x : Float) : Text := Decimal.fixed 1 x ++ ['%']

/-- The greatest number of characters that are shown of an output. -/
def shownLimit : Nat := 500

/-- A text without blanks at its end; what is too long is cut. -/
def shortened (s : Text) : Text :=
  let s := stripEnd s
  if s.length ≤ shownLimit then s
  else s.take shownLimit ++ "... (".toList ++ ofNat (s.length - shownLimit) ++
    " more characters)".toList

/-- A text with spaces behind it up to a width. -/
def column (width : Nat) (s : Text) : Text := s ++ List.replicate (width - s.length) ' '

/-- Lines in one text. -/
def unlines (ls : List Text) : Text := joinWith ['\n'] ls

/-- A character of the message of an annotation. -/
def escapeChar (c : Char) : Text :=
  if c = '%' then "%25".toList
  else if c = '\r' then "%0D".toList
  else if c = '\n' then "%0A".toList
  else [c]

/-- The message of an annotation, in one line. -/
def escaped (message : Text) : Text := message.flatMap escapeChar

/-- An annotation for a workflow, about a line of a file where there is one. -/
def workflowNote (level : Text) (message : Text) (file : Option Text := none)
    (line : Option Int := none) : Text :=
  let about : List Text :=
    (match file with | some f => ["file=".toList ++ f] | none => []) ++
    (match line with | some n => ["line=".toList ++ ofInt n] | none => [])
  "::".toList ++ level ++ (if about.isEmpty then [] else ' ' :: joinWith [','] about) ++
    "::".toList ++ escaped message

/-- An annotation at one of the fixed levels. -/
def errorNote (message : Text) (file : Option Text := none) (line : Option Int := none) : Text :=
  workflowNote "error".toList message file line

/-- A warning. -/
def warningNote (message : Text) (file : Option Text := none) (line : Option Int := none) : Text :=
  workflowNote "warning".toList message file line

/-- A text that is there and not empty. -/
def nonempty (s : Option Text) : Option Text := s.filter (!·.isEmpty)

/-- A record with the given fields. -/
def record (fields : List (String × Json)) : Json := .obj (fields.map fun (k, v) => (k.toList, v))

/-- A list of texts. -/
def texts (ts : List Text) : Json := .arr (ts.map .str)

/-- A field that may be empty. -/
def orNull {α : Type} (f : α → Json) : Option α → Json
  | none => .null
  | some a => f a

end DocAudit.Report
