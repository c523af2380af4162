import DocAudit.Glob.Token

/-!
# Matching of globs

A text matches when it falls into pieces that match the tokens from left to right. The matcher goes
through the tokens with all rests that the pieces so far can leave.

## Contents

* `GlobToken.rests`, `GlobToken.matchAll`: the matcher
* `PathPattern`: what a pattern in a document covers; a pattern that ends in a slash or a star also
  covers all that starts like it
-/

namespace DocAudit

open Text

namespace GlobToken

/-- The ends of a text, from the whole of it to nothing. -/
def ends : Text → List Text
  | [] => [[]]
  | c :: r => (c :: r) :: ends r

/-- What is left behind every slash of a text. -/
def behindSlashes : Text → List Text
  | [] => []
  | c :: r => if c = '/' then r :: behindSlashes r else behindSlashes r

/-- What a piece that matches the token can leave of the text. -/
def rests (token : GlobToken) (s : Text) : List Text :=
  match token with
  | .anyText => ends s
  | .anyDirs => s :: behindSlashes s
  | .literal c => match s with
    | d :: r => if d = c then [r] else []
    | [] => []
  | .anyOne => match s with
    | _ :: r => [r]
    | [] => []
  | .oneOf negated items => match s with
    | d :: r => if items.any (·.holds d) != negated then [r] else []
    | [] => []

/-- The whole text matches the tokens. -/
def matchAll (tokens : List GlobToken) (s : Text) : Bool :=
  (tokens.foldl (fun left token => (left.flatMap token.rests).eraseDups) [s]).contains []

end GlobToken

namespace PathPattern

/-- Why the pattern is no glob. -/
def fault? (pattern : Text) : Option GlobFault :=
  match GlobToken.read pattern with
  | .ok _ => none
  | .error fault => some fault

/-- The pattern starts at a root, at a home directory or at a drive. -/
def isAbsolute (pattern : Text) : Bool :=
  match pattern with
  | '/' :: _ => true
  | '\\' :: _ => true
  | '~' :: _ => true
  | drive :: ':' :: slash :: _ => drive.isAlpha && (slash == '\\' || slash == '/')
  | _ => false

/-- The pattern as a glob matches the whole path. -/
def globMatches (path pattern : Text) : Bool :=
  match GlobToken.read pattern with
  | .ok tokens => GlobToken.matchAll tokens path
  | .error _ => false

/-- A pattern without the stars and then without the slashes at its end. -/
def stem (pattern : Text) : Text := dropEnd (· == '/') (dropEnd (· == '*') pattern)

/-- The pattern ends in a slash or a star. -/
def isOpen (pattern : Text) : Bool :=
  match pattern.getLast? with
  | some c => c == '/' || c == '*'
  | none => false

/-- The pattern covers the path. -/
def covers (path pattern : Text) : Bool :=
  globMatches path pattern || (isOpen pattern && (stem pattern).isPrefixOf path)

/-- One of the patterns covers the path. -/
def anyCovers (path : Text) (patterns : List Text) : Bool := patterns.any (covers path)

end PathPattern

end DocAudit
