import DocAudit.Shell.Raw

/-!
# Shell scripts

A script is a tree of commands. Words keep their parts apart: quoted parts are not cut into fields, and
values and outputs are put in when the command is run. Commands know the line where they begin, for the
wording of what goes wrong in them.

## Contents

* `Part`, `ValueUse`, `Redirect`, `Script`, `Choices`
* `Word`
* `Script.withDocuments`: a script with the texts of its here-documents
-/

namespace DocAudit.Shell

/-- How a file is opened by a redirection. -/
inductive Opening
  | read
  /-- The file is made, or emptied. -/
  | create
  /-- The same, where the shell may not empty files without being told so. -/
  | overwrite
  | append
  | both
  deriving DecidableEq, Repr

mutual

/-- A part of a word. -/
inductive Part
  | text (s : Raw) (quoted : Bool)
  | value (name : Raw) (use : ValueUse) (quoted : Bool)
  /-- What a script prints. -/
  | output (script : Script) (quoted : Bool)
  /-- The value of an arithmetic expression. -/
  | sum (expression : List Part) (quoted : Bool)

/-- What a word makes of the value of a name. `emptyToo` tells that an empty value counts as none. -/
inductive ValueUse
  | plain
  | length
  /-- Another text where there is no value. -/
  | otherwise (emptyToo : Bool) (word : List Part)
  /-- The same, and the name has that value from then on. -/
  | assigned (emptyToo : Bool) (word : List Part)
  /-- Another text where there is a value. -/
  | instead (emptyToo : Bool) (word : List Part)
  /-- A complaint where there is no value. -/
  | demanded (emptyToo : Bool) (word : List Part)
  /-- The value without what a pattern matches at one of its ends. -/
  | without (atStart longest : Bool) (pattern : List Part)
  /-- Nothing that can be done with a value. -/
  | malformed

/-- What is done to a stream. -/
inductive Redirect
  | file (stream : Nat) (how : Opening) (target : List Part)
  /-- The stream becomes the one of a number, or is closed. -/
  | copy (stream : Nat) (source : List Part)
  /-- The stream reads a here-document. -/
  | document (stream : Nat) (body : List Part)
  /-- The stream reads the here-document of a number, which has not been read yet. -/
  | pending (stream number : Nat)

/-- A script. -/
inductive Script
  | nothing
  | simple (line : Nat) (assigned : List (Raw × List Part)) (words : List (List Part))
      (redirects : List Redirect)
  | pipe (first rest : Script)
  | both (first second : Script)
  | either (first second : Script)
  | seq (first second : Script)
  | background (line : Nat) (body : Script)
  | negated (body : Script)
  | enclosed (line : Nat) (body : Script) (redirects : List Redirect)
  | redirected (line : Nat) (body : Script) (redirects : List Redirect)
  | cond (test yes no : Script)
  /-- The body is run as long as the test fails or as long as it holds. -/
  | loop (whileFails : Bool) (test body : Script)
  | each (line : Nat) (name : Raw) (words : List (List Part)) (body : Script)
  | choose (line : Nat) (subject : List Part) (choices : Choices)
  | define (name : Raw) (body : Script)

/-- Scripts with patterns in front of them. -/
inductive Choices
  | none
  | more (patterns : List (List Part)) (body : Script) (rest : Choices)

end

instance : Inhabited Part := ⟨.text [] false⟩
instance : Inhabited Script := ⟨.nothing⟩
instance : Inhabited Redirect := ⟨.pending 0 0⟩

/-- A word: its parts in order. -/
abbrev Word := List Part

/-- The here-documents of a script by their numbers. -/
abbrev Documents := List (Nat × Word)

mutual

/-- A part with the texts of its here-documents. -/
def Part.withDocuments (ds : Documents) : Part → Part
  | .text s quoted => .text s quoted
  | .value name use quoted => .value name (use.withDocuments ds) quoted
  | .output script quoted => .output (script.withDocuments ds) quoted
  | .sum expression quoted => .sum (wordWithDocuments ds expression) quoted

/-- The same for what is made of a value. -/
def ValueUse.withDocuments (ds : Documents) : ValueUse → ValueUse
  | .plain => .plain
  | .length => .length
  | .otherwise emptyToo word => .otherwise emptyToo (wordWithDocuments ds word)
  | .assigned emptyToo word => .assigned emptyToo (wordWithDocuments ds word)
  | .instead emptyToo word => .instead emptyToo (wordWithDocuments ds word)
  | .demanded emptyToo word => .demanded emptyToo (wordWithDocuments ds word)
  | .without atStart longest pattern => .without atStart longest (wordWithDocuments ds pattern)
  | .malformed => .malformed

/-- The same for a redirection. -/
def Redirect.withDocuments (ds : Documents) : Redirect → Redirect
  | .file stream how target => .file stream how (wordWithDocuments ds target)
  | .copy stream source => .copy stream (wordWithDocuments ds source)
  | .document stream body => .document stream (wordWithDocuments ds body)
  | .pending stream number => .document stream ((ds.lookup number).getD [])

/-- The same for a word. -/
def wordWithDocuments (ds : Documents) : List Part → List Part
  | [] => []
  | part :: rest => part.withDocuments ds :: wordWithDocuments ds rest

/-- The same for words. -/
def wordsWithDocuments (ds : Documents) : List (List Part) → List (List Part)
  | [] => []
  | word :: rest => wordWithDocuments ds word :: wordsWithDocuments ds rest

/-- The same for assignments. -/
def assignedWithDocuments (ds : Documents) : List (Raw × List Part) → List (Raw × List Part)
  | [] => []
  | (name, word) :: rest => (name, wordWithDocuments ds word) :: assignedWithDocuments ds rest

/-- The same for redirections. -/
def redirectsWithDocuments (ds : Documents) : List Redirect → List Redirect
  | [] => []
  | redirect :: rest => redirect.withDocuments ds :: redirectsWithDocuments ds rest

/-- A script with the texts of its here-documents. -/
def Script.withDocuments (ds : Documents) : Script → Script
  | .nothing => .nothing
  | .simple line assigned words redirects =>
    .simple line (assignedWithDocuments ds assigned) (wordsWithDocuments ds words)
      (redirectsWithDocuments ds redirects)
  | .pipe first rest => .pipe (first.withDocuments ds) (rest.withDocuments ds)
  | .both first second => .both (first.withDocuments ds) (second.withDocuments ds)
  | .either first second => .either (first.withDocuments ds) (second.withDocuments ds)
  | .seq first second => .seq (first.withDocuments ds) (second.withDocuments ds)
  | .background line body => .background line (body.withDocuments ds)
  | .negated body => .negated (body.withDocuments ds)
  | .enclosed line body redirects =>
    .enclosed line (body.withDocuments ds) (redirectsWithDocuments ds redirects)
  | .redirected line body redirects =>
    .redirected line (body.withDocuments ds) (redirectsWithDocuments ds redirects)
  | .cond test yes no => .cond (test.withDocuments ds) (yes.withDocuments ds) (no.withDocuments ds)
  | .loop whileFails test body => .loop whileFails (test.withDocuments ds) (body.withDocuments ds)
  | .each line name words body =>
    .each line name (wordsWithDocuments ds words) (body.withDocuments ds)
  | .choose line subject choices =>
    .choose line (wordWithDocuments ds subject) (choices.withDocuments ds)
  | .define name body => .define name (body.withDocuments ds)

/-- The same for choices. -/
def Choices.withDocuments (ds : Documents) : Choices → Choices
  | .none => .none
  | .more patterns body rest =>
    .more (wordsWithDocuments ds patterns) (body.withDocuments ds) (rest.withDocuments ds)

end

end DocAudit.Shell
