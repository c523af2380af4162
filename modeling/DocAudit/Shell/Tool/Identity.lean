import DocAudit.Shell.Options

/-!
# Who and where

There is one user, to whom everything belongs.

## Contents

* `whoami`, `logname`, `identity`, `groups`: the user
* `uname`, `arch`: the system
* `tty`: the terminal, of which there is none
-/

namespace DocAudit.Shell.Tool

open Text Act

/-- The name of the user, and of the only group. -/
def userName : Raw := raw "root"

/-- A tool that takes no operands. -/
def withoutOperands (table : String) (args : List Raw) (body : List String → Act Nat) (status : Nat := 1) :
    Act Nat := do
  let (keys, operands) ← options table args ([] : List String) (fun keys key _ => return keys ++ [key]) status
  match operands with
  | [] => body keys
  | extra :: _ =>
    misuse status (raw "extra operand " ++ Quoted.between extra)

/-- The name of the user. -/
def whoami : Tool := fun args => withoutOperands "" args fun _ => do
  say (userName ++ ['\n'])
  return 0

/-- The name with which the user came, which nobody knows. -/
def logname : Tool := fun args => withoutOperands "" args fun _ => giveUp 1 (raw "no login name")

/-- There is a user of this name or number. -/
def isUser (s : Raw) : Bool := s == userName || s == ['0']

/-- What is known of users. -/
def identity : Tool := fun args => do
  let (keys, users) ← options "a Z/context g/group G/groups n/name r/real u/user z/zero" args
    ([] : List String) fun keys key _ => return if key == "a" then keys else keys ++ [key]
  let chosen := (keys.filter fun k => k == "u" || k == "g" || k == "G" || k == "Z").eraseDups
  if keys.contains "Z" then
    giveUp 1 (raw "--context (-Z) works only on an SELinux-enabled kernel")
  if 1 < chosen.length then giveUp 1 (raw "cannot print \"only\" of more than one choice")
  if chosen.isEmpty && (keys.contains "n" || keys.contains "r") then
    giveUp 1 (raw "cannot print only names or real IDs in default format")
  if chosen.isEmpty && keys.contains "z" then giveUp 1 (raw "option --zero not permitted in default format")
  let mut status := 0
  for user in (if users.isEmpty then [userName] else users) do
    if isUser user then
      let text : Raw := match chosen with
        | [] => raw "uid=0(root) gid=0(root) groups=0(root)"
        | _ => if keys.contains "n" then userName else ['0']
      say (text ++ [if keys.contains "z" then '\x00' else '\n'])
    else
      grumble (Quoted.between user ++ raw ": no such user")
      status := 1
  return status

/-- The groups of users. -/
def groups : Tool := fun args => do
  let (_, users) ← options "" args () fun _ _ _ => return ()
  if users.isEmpty then say (userName ++ ['\n'])
  let mut status := 0
  for user in users do
    if isUser user then say (user ++ raw " : " ++ userName ++ ['\n'])
    else
      grumble (Quoted.between user ++ raw ": no such user")
      status := 1
  return status

/-- The kind of processor. -/
def processor : Raw := raw "x86_64"

/-- The name of the system. -/
def uname : Tool := fun args =>
  withoutOperands "s/kernel-name s/sysname m/machine p/processor i/hardware-platform o/operating-system" args
    fun keys => do
    let parts := [
      ("s", raw "Linux"), ("m", processor), ("p", processor), ("i", processor),
      ("o", raw "GNU/Linux")].filterMap fun (name, text) =>
        if keys.contains name || (keys.isEmpty && name == "s") then some text else none
    say (joinWith [' '] parts ++ ['\n'])
    return 0

/-- The kind of processor. -/
def arch : Tool := fun args => withoutOperands "" args fun _ => do
  say (processor ++ ['\n'])
  return 0

/-- The terminal at which the input is written. -/
def tty : Tool := fun args => withoutOperands "s/silent s/quiet" args (fun keys => do
  if keys.isEmpty then say (raw "not a tty\n")
  return 1) 2

end DocAudit.Shell.Tool
