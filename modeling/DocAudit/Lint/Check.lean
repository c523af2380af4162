import DocAudit.Failure
import DocAudit.Lint.Heading
import DocAudit.Lint.Link
import DocAudit.Markdown.Mask
import DocAudit.Text.Lines

/-!
# Checks of prose

The checks that there are, the choice of those that are made, and what each of them finds in the prose of a
text. Only visible lines can show anything, and hidden ones only interrupt what they stand in.

## Contents

* `LintRule`, its name, and the rule of a name; `LintRule.select`
* `LintScope`: what a text is checked against
* `Issue`, `LintRule.issues`
* one function for each check
-/

namespace DocAudit

open Text

/-! ## The checks -/

/-- A check of prose. -/
inductive LintRule
  | brokenInternalLinks
  | deadAnchors
  | staleCodeRefs
  | inconsistentHeadings
  | missingAltText
  | longParagraphs
  | duplicateHeadings
  | trailingWhitespace
  deriving DecidableEq, Repr

namespace LintRule

/-- All checks, in the order in which they are made. -/
def all : List LintRule :=
  [.brokenInternalLinks, .deadAnchors, .staleCodeRefs, .inconsistentHeadings, .missingAltText,
    .longParagraphs, .duplicateHeadings, .trailingWhitespace]

/-- The name of a check. -/
def name : LintRule → Text
  | .brokenInternalLinks => "broken-internal-links".toList
  | .deadAnchors => "dead-anchors".toList
  | .staleCodeRefs => "stale-code-refs".toList
  | .inconsistentHeadings => "inconsistent-headings".toList
  | .missingAltText => "missing-alt-text".toList
  | .longParagraphs => "long-paragraphs".toList
  | .duplicateHeadings => "duplicate-headings".toList
  | .trailingWhitespace => "trailing-whitespace".toList

/-- The check of a name. -/
def ofName? (name : Text) : Option LintRule := all.find? (·.name == name)

/-- What the check finds can be mended by itself. -/
def fixable (r : LintRule) : Bool := r == .trailingWhitespace

/-- The checks that are made: those that are asked for, else those that the configuration turns on,
else all; never those that it turns off. -/
def select (requested : List Text) (o : LintOptions) : Outcome (List LintRule) := do
  let asked := (requested.map strip).filter (!·.isEmpty)
  let chosen ←
    if !asked.isEmpty then
      asked.mapM fun name => match ofName? name with
        | some r => .ok r
        | none => .error (.unknownRule name)
    else if !o.enable.isEmpty then
      o.enable.mapM fun name => match ofName? name with
        | some r => .ok r
        | none => .error (.config (.unknownRule name))
    else .ok all
  return all.filter fun r => chosen.contains r && !o.disable.contains r.name

end LintRule

/-! ## What a text is checked against -/

/-- What a text is checked against: the files around it, the answers about external links, and the
limits. -/
structure LintScope where
  tree : FileTree
  cwd : Path
  projectRoot : Path
  /-- The file of the text. -/
  path : Path
  externalLinks : Bool := false
  /-- What is wrong with an external link, when something is. -/
  urlFault : Text → Option Text := fun _ => none
  maxParagraphWords : Int := 150

/-- What a check finds in a line. -/
structure Issue where
  line : Nat
  rule : LintRule
  message : Text
  deriving DecidableEq, Repr

namespace Lint

/-! ## Anchors -/

/-- The anchors that a line defines. -/
def lineAnchors (line : Text) : List Text :=
  (((Heading.ofLine? line).map fun h => headingAnchor h.text).toList) ++
    (htmlIds line).map normalizeAnchor

/-- The anchors that a text defines. -/
def anchors (p : Prose) : List Text := p.numbered.flatMap fun (_, line) => lineAnchors line

/-! ## Links -/

/-- Where a target leads: from the root of the project, or from the directory of the file. -/
def resolve (s : LintScope) (target : Text) : Path :=
  if ['/'].isPrefixOf target then s.projectRoot.join (Path.ofText (target.dropWhile (· == '/')))
  else s.path.parent.join (Path.ofText target)

/-- The part before the first sign of an anchor. -/
def filePart (target : Text) : Text := target.takeWhile (· != '#')

/-- The starts of external links. -/
def isExternal (target : Text) : Bool :=
  startsWithAny ["http://".toList, "https://".toList] target

/-- What is wrong with the destination of a link, when something is. -/
def linkFault? (s : LintScope) (link : Link) : Outcome (Option Text) := do
  match (words link.target).head? with
  | none => return none
  | some target =>
    if ['#'].isPrefixOf target then return none
    else if isExternal target then
      if s.externalLinks then
        return (s.urlFault target).map fun reason =>
          "broken external link to '".toList ++ target ++ "' (".toList ++ reason ++ [')']
      else return none
    else if hasScheme target then return none
    else
      let file := filePart target
      if file.isEmpty then return none
      else if ← s.tree.exists? s.cwd (resolve s file) then return none
      else return some ("broken link to '".toList ++ file ++ "' (file not found)".toList)

/-- What is wrong with the things that `parts` finds in each line, where something is. -/
def faultsOf {α : Type} (parts : Text → List α) (fault? : α → Outcome (Option Text)) (p : Prose) :
    Outcome (List (Nat × Text)) :=
  (p.numbered.flatMap fun (n, line) => (parts line).map fun part => (n, part)).filterMapM
    fun (n, part) => (fault? part).map fun found => found.map fun message => (n, message)

/-- Links that lead to no file. -/
def brokenLinks (s : LintScope) (p : Prose) : Outcome (List (Nat × Text)) :=
  faultsOf links (linkFault? s) p

/-- The anchors that a file defines; none when the file is no text. -/
def anchorsOfFile? (s : LintScope) (path : Path) : Option (List Text) :=
  match s.tree.content? s.cwd path with
  | none => none
  | some content => (Utf8.decode? content).map fun text => anchors (Prose.ofLines (lines text))

/-- What is wrong with the anchor of a link, when something is. `own` are the anchors of the text
itself. -/
def anchorFault? (s : LintScope) (own : List Text) (link : Link) : Outcome (Option Text) := do
  let target := strip link.target
  if hasScheme target then return none
  else match cut '#' target with
    | none => return none
    | some (file, anchor) =>
      if anchor.isEmpty then return none
      else if file.isEmpty then
        if own.contains (normalizeAnchor anchor) then return none
        else return some ("dead anchor '#".toList ++ anchor ++ "' (section not found)".toList)
      else if !(← s.tree.isFile? s.cwd (resolve s file)) then return none
      else match anchorsOfFile? s (resolve s file) with
        | none => return none
        | some known =>
          if known.contains (normalizeAnchor anchor) then return none
          else return some ("dead anchor '".toList ++ file ++ '#' :: anchor ++
            "' (section not found in target file)".toList)

/-- Links to anchors that are not defined. -/
def deadAnchors (s : LintScope) (p : Prose) : Outcome (List (Nat × Text)) :=
  faultsOf links (anchorFault? s (anchors p)) p

/-- A reference that is meant as an example or as a pattern. -/
def isExample (ref : Text) : Bool :=
  hasInfix "example".toList ref || "http".toList.isPrefixOf ref ||
    ref.any fun c => c == '*' || c == '?' || c == '\x7B' || c == '<'

/-- What is wrong with a code reference, when something is. -/
def refFault? (s : LintScope) (ref : Text) : Outcome (Option Text) := do
  if isExample ref then return none
  else if ← s.tree.exists? s.cwd (s.projectRoot.join (Path.ofText (ref.dropWhile (· == '/')))) then
    return none
  else if ← s.tree.exists? s.cwd (s.path.parent.join (Path.ofText ref)) then return none
  else return some ("reference to '".toList ++ ref ++ "' (file not found)".toList)

/-- References to code files that do not exist. -/
def staleRefs (s : LintScope) (p : Prose) : Outcome (List (Nat × Text)) :=
  faultsOf codeRefs (refFault? s) p

/-! ## Headings -/

/-- What was seen of headings: whether the first one had a blank behind its signs, and whether there
was one with a line under it. -/
structure HeadingStyle where
  spaced : Option Bool := none
  underlined : Bool := false
  deriving DecidableEq, Repr

/-- The finding about mixed styles. -/
def mixedStyles : Text := "mixed ATX and Setext heading styles".toList

/-- The finding about blanks behind signs. -/
def blankStyle (spaced : Bool) : Text :=
  "inconsistent heading style (".toList ++
    (if spaced then "missing space after #".toList else "unexpected space after #".toList) ++ [')']

/-- A line under which signs make a heading. -/
def canBeUnderlined (line : Text) : Bool :=
  !isBlankText line && line.head? != some '#' && !isListItem (strip line)

/-- Headings that differ in style from earlier ones. `above` is the line before, when it is visible, and
`n` the number of the first line. -/
def headingIssues (style : HeadingStyle) (above : Option Text) (n : Nat) : Prose → List (Nat × Text)
  | [] => []
  | none :: rest => headingIssues style none (n + 1) rest
  | some line :: rest =>
    if (signCount? line).isSome then
      let spaced := isSpaced line
      (match style.spaced with
        | none => []
        | some first => if first = spaced then [] else [(n, blankStyle first)]) ++
      (if style.underlined then [(n, mixedStyles)] else []) ++
      headingIssues { style with spaced := some (style.spaced.getD spaced) } (some line) (n + 1) rest
    else if isUnderline line && above.any canBeUnderlined then
      (if style.spaced.isSome then [(n, mixedStyles)] else []) ++
      headingIssues { style with underlined := true } (some line) (n + 1) rest
    else headingIssues style (some line) (n + 1) rest

/-- Headings in more than one style. -/
def inconsistentHeadings (p : Prose) : List (Nat × Text) := headingIssues {} none 1 p

/-- Headings that repeat one of `seen`, a list of levels and texts in lower case with their lines. -/
def repeatedHeadings (seen : List ((Nat × Text) × Nat)) : List (Nat × Text) → List (Nat × Text)
  | [] => []
  | (n, line) :: rest =>
    match Heading.ofLine? line with
    | none => repeatedHeadings seen rest
    | some h =>
      let text := strip h.text
      let key := (h.level, lower text)
      match seen.lookup key with
      | some first =>
        (n, "duplicate heading '".toList ++ text ++ "' (also at line ".toList ++ ofNat first ++ [')']) ::
          repeatedHeadings seen rest
      | none => repeatedHeadings ((key, n) :: seen) rest

/-- Headings with the level and the text of an earlier one. -/
def duplicateHeadings (p : Prose) : List (Nat × Text) := repeatedHeadings [] p.numbered

/-! ## Images, paragraphs and line ends -/

/-- The finding about an image that says nothing. -/
def missingAlt : Text := "missing alt text for image".toList

/-- Images without an alternative text. -/
def missingAltText (p : Prose) : List (Nat × Text) :=
  p.numbered.flatMap fun (n, line) =>
    (((images line).filter fun i => isBlankText i.text).map fun _ => (n, missingAlt)) ++
    (((htmlImages line).filter fun tag => !hasAltText tag).map fun _ => (n, missingAlt))

/-- A line between paragraphs: hidden, blank, a heading or a list item. -/
def breaksParagraph : Option Text → Bool
  | none => true
  | some line =>
    let trimmed := strip line
    trimmed.isEmpty || ['#'].isPrefixOf trimmed || isListItem trimmed

/-- A paragraph: its first line and the number of its words. -/
structure Paragraph where
  line : Nat
  words : Nat
  deriving DecidableEq, Repr

/-- The paragraphs of lines of which the first has the number `n`; `started` is one that goes on. -/
def paragraphs (started : Option Paragraph) (n : Nat) : Prose → List Paragraph
  | [] => started.toList
  | line :: rest =>
    if breaksParagraph line then started.toList ++ paragraphs none (n + 1) rest
    else
      let here := started.getD { line := n, words := 0 }
      paragraphs (some { here with words := here.words + (words (line.getD [])).length }) (n + 1) rest

/-- Paragraphs with more words than the limit allows. -/
def longParagraphs (limit : Int) (p : Prose) : List (Nat × Text) :=
  (paragraphs none 1 p).filterMap fun par =>
    if limit < (par.words : Int) then
      some (par.line, "long paragraph (".toList ++ ofNat par.words ++ " words, max ".toList ++
        ofInt limit ++ [')'])
    else none

/-- Spaces and tabs. -/
def isSpaceOrTab (c : Char) : Bool := c == ' ' || c == '\t'

/-- The line ends in a space or a tab. -/
def hasTrailingSpace (line : Text) : Bool := line.getLast?.any isSpaceOrTab

/-- Lines that end in a space or a tab. -/
def trailingSpaces (p : Prose) : List (Nat × Text) :=
  (p.numbered.filter fun (_, line) => hasTrailingSpace line).map fun (n, _) =>
    (n, "trailing whitespace".toList)

end Lint

/-- What a check finds. -/
def LintRule.findings (r : LintRule) (s : LintScope) (p : Prose) : Outcome (List (Nat × Text)) :=
  match r with
  | .brokenInternalLinks => Lint.brokenLinks s p
  | .deadAnchors => Lint.deadAnchors s p
  | .staleCodeRefs => Lint.staleRefs s p
  | .inconsistentHeadings => .ok (Lint.inconsistentHeadings p)
  | .missingAltText => .ok (Lint.missingAltText p)
  | .longParagraphs => .ok (Lint.longParagraphs s.maxParagraphWords p)
  | .duplicateHeadings => .ok (Lint.duplicateHeadings p)
  | .trailingWhitespace => .ok (Lint.trailingSpaces p)

/-- What a check finds, as issues. -/
def LintRule.issues (r : LintRule) (s : LintScope) (p : Prose) : Outcome (List Issue) :=
  (r.findings s p).map fun found => found.map fun (line, message) => { line, rule := r, message }

end DocAudit
