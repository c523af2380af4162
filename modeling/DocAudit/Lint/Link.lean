import DocAudit.Text.Blank
import DocAudit.Text.Case

/-!
# Links and references

Links, images and code references in a line of prose, and anchors and images that are written as HTML
tags. A scan goes through the line from left to right and continues behind what it found. Names of tags
and attributes are read without regard to case.

## Contents

* `scan`: all that a recogniser finds
* `Link`, `Link.at?`, `links`, `images`
* `codeRefs`
* `hasScheme`
* `htmlIds`: the anchors that the tags of a line define
* `htmlImages`, `hasAltText`

## Termination

`scan` goes on with a shorter text after every step.
-/

namespace DocAudit.Lint

open Text

/-- All that `at?` recognises in a text, without overlaps. It gives what it found and the rest. -/
def scan {α : Type} (at? : Text → Option (α × Text)) (s : Text) : List α :=
  match s with
  | [] => []
  | c :: r =>
    match at? (c :: r) with
    | none => scan at? r
    | some (a, rest) => if _h : rest.length ≤ r.length then a :: scan at? rest else [a]
termination_by s.length

/-- A link: its text and its target. -/
structure Link where
  text : Text
  target : Text
  deriving DecidableEq, Repr

/-- What stands between parentheses that follow, and the text after them. It is not empty. -/
def parenthesised? (s : Text) : Option (Text × Text) :=
  match s with
  | '(' :: r =>
    match cut ')' r with
    | some (inner, rest) => if inner.isEmpty then none else some (inner, rest)
    | none => none
  | _ => none

/-- A link at the start of the text, and the text after it. -/
def Link.at? (s : Text) : Option (Link × Text) :=
  match s with
  | '[' :: r =>
    match cut ']' r with
    | some (text, after) =>
      (parenthesised? after).map fun (target, rest) => ({ text, target }, rest)
    | none => none
  | _ => none

/-- An image at the start of the text, and the text after it. -/
def imageAt? (s : Text) : Option (Link × Text) :=
  match s with
  | '!' :: r => Link.at? r
  | _ => none

/-- The links in a line. -/
def links (line : Text) : List Link := scan Link.at? line

/-- The images in a line. -/
def images (line : Text) : List Link := scan imageAt? line

/-- The endings of code files in references. -/
def refEndings : List Text :=
  [".rs", ".py", ".js", ".ts", ".go", ".java", ".rb", ".c", ".cpp", ".h", ".hpp"].map String.toList

/-- A text that names a code file: something and an ending. -/
def namesCode (s : Text) : Bool :=
  refEndings.any fun ending => ending.isSuffixOf s && ending.length < s.length

/-- A code reference at the start of the text: a name between backticks, or the target of a link. -/
def codeRefAt? (s : Text) : Option (Text × Text) :=
  match s with
  | '`' :: r =>
    match cut '`' r with
    | some (name, rest) => if namesCode name then some (name, rest) else none
    | none => none
  | s =>
    match Link.at? s with
    | some (link, rest) => if namesCode link.target then some (link.target, rest) else none
    | none => none

/-- The code references in a line. -/
def codeRefs (line : Text) : List Text := scan codeRefAt? line

/-- Characters of a scheme behind its first letter. -/
def isSchemeChar (c : Char) : Bool := c.isAlphanum || c == '+' || c == '.' || c == '-'

/-- The target starts with a scheme and a colon. -/
def hasScheme (target : Text) : Bool :=
  match target with
  | c :: r => c.isAlpha && (r.dropWhile isSchemeChar).head? == some ':'
  | [] => false

/-! ## Tags -/

/-- The text after a word, read without regard to case. -/
def afterWord? (word : String) (s : Text) : Option Text :=
  if startsWithWord word.toList s then some (s.drop word.length) else none

/-- The text after blanks, of which there is at least one. -/
def afterBlanks? (s : Text) : Option Text :=
  match s with
  | [] => none
  | c :: r => if isBlank c then some (r.dropWhile isBlank) else none

/-- Quotes of either kind. -/
def isQuote (c : Char) : Bool := c == '"' || c == '\''

/-- The value behind an equals sign, between quotes, and the text after it. -/
def quotedValue? (s : Text) : Option (Text × Text) :=
  match stripStart s with
  | '=' :: r =>
    match stripStart r with
    | q :: r =>
      if isQuote q then
        match r.dropWhile (!isQuote ·) with
        | _ :: rest => some (r.takeWhile (!isQuote ·), rest)
        | [] => none
      else none
    | [] => none
  | _ => none

/-- An attribute that names an anchor, at the start of the text. -/
def idAttribute? (s : Text) : Option (Text × Text) :=
  let valued (after : Option Text) : Option (Text × Text) :=
    (after.bind quotedValue?).filter fun (value, _) => !value.isEmpty
  (valued (afterWord? "id" s)).or (valued (afterWord? "name" s))

/-- The last attribute in a tag that names an anchor. -/
def lastId? : Text → Option (Text × Text)
  | [] => none
  | c :: r =>
    if c = '>' then none
    else (lastId? r).or (idAttribute? (c :: r))

/-- A tag at the start of the text that defines an anchor: the anchor and the text after it. -/
def anchorTagAt? (s : Text) : Option (Text × Text) :=
  match s with
  | '<' :: r => ((afterWord? "a" r).bind afterBlanks?).bind lastId?
  | _ => none

/-- The anchors that the tags of a line define. -/
def htmlIds (line : Text) : List Text := scan anchorTagAt? line

/-- An image tag at the start of the text, and the text after it. -/
def imageTagAt? (s : Text) : Option (Text × Text) :=
  match s with
  | '<' :: r =>
    match (afterWord? "img" r).bind afterBlanks? with
    | none => none
    | some _ =>
      (cut '>' r).map fun (inner, rest) => ('<' :: inner ++ ['>'], rest)
  | _ => none

/-- The image tags of a line. -/
def htmlImages (line : Text) : List Text := scan imageTagAt? line

/-- The value of the first attribute that holds an alternative text. -/
def altText? : Text → Option Text
  | [] => none
  | c :: r =>
    match (afterWord? "alt" (c :: r)).bind quotedValue? with
    | some (value, _) => some value
    | none => altText? r

/-- The tag has an alternative text that says something. -/
def hasAltText (tag : Text) : Bool := (altText? tag).any (!isBlankText ·)

end DocAudit.Lint
