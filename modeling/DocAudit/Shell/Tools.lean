import DocAudit.Shell.Awk.Run
import DocAudit.Shell.Tool.Arranging
import DocAudit.Shell.Tool.Comparing
import DocAudit.Shell.Tool.Copying
import DocAudit.Shell.Tool.Digesting
import DocAudit.Shell.Tool.Dividing
import DocAudit.Shell.Tool.Dumping
import DocAudit.Shell.Tool.Editing
import DocAudit.Shell.Tool.Finding
import DocAudit.Shell.Tool.Gathering
import DocAudit.Shell.Tool.Identity
import DocAudit.Shell.Tool.Launching
import DocAudit.Shell.Tool.Listing
import DocAudit.Shell.Tool.Naming
import DocAudit.Shell.Tool.Pairing
import DocAudit.Shell.Tool.Printing
import DocAudit.Shell.Tool.Reckoning
import DocAudit.Shell.Tool.Searching
import DocAudit.Shell.Tool.Sorting
import DocAudit.Shell.Tool.Testing
import DocAudit.Shell.Tool.Transliterating

/-!
# Tools by name

## Contents

* `tool?`: what a program does
-/

namespace DocAudit.Shell

open Text Act

/-- What the program of a name does. -/
def tool? (launcher : Launcher) (name : Raw) : Option Tool :=
  match String.ofList name with
  | "cat" => some Tool.cat
  | "tee" => some Tool.tee
  | "head" => some Tool.head
  | "tail" => some Tool.tail
  | "tac" => some Tool.tac
  | "rev" => some Tool.rev
  | "wc" => some Tool.wc
  | "nl" => some Tool.nl
  | "cut" => some Tool.cut
  | "paste" => some Tool.paste
  | "fold" => some Tool.fold
  | "expand" => some Tool.expand
  | "unexpand" => some Tool.unexpand
  | "sort" => some Tool.sort
  | "uniq" => some Tool.uniq
  | "comm" => some Tool.comm
  | "join" => some Tool.join
  | "grep" => some Tool.grep
  | "egrep" => some Tool.egrep
  | "fgrep" => some Tool.fgrep
  | "tr" => some Tool.tr
  | "sed" => some (Tool.sed launcher)
  | "mkdir" => some Tool.mkdir
  | "rmdir" => some Tool.rmdir
  | "touch" => some Tool.touch
  | "rm" => some Tool.rm
  | "unlink" => some Tool.unlink
  | "chmod" => some Tool.chmod
  | "cp" => some Tool.cp
  | "mv" => some Tool.mv
  | "ln" => some Tool.ln
  | "link" => some Tool.link
  | "ls" => some Tool.ls
  | "stat" => some Tool.statTool
  | "basename" => some Tool.basename
  | "dirname" => some Tool.dirname
  | "readlink" => some Tool.readlink
  | "realpath" => some Tool.realpath
  | "pwd" => some Tool.pwdTool
  | "mktemp" => some Tool.mktemp
  | "env" => some (Tool.env launcher)
  | "printenv" => some Tool.printenv
  | "sleep" => some Tool.sleepTool
  | "timeout" => some (Tool.timeout launcher)
  | "nohup" => some (Tool.nohup launcher)
  | "nice" => some (Tool.nice launcher)
  | "setsid" => some (Tool.setsid launcher)
  | "which" => some Tool.which
  | "echo" => some Tool.echoTool
  | "printf" => some Tool.printfTool
  | "yes" => some Tool.yes
  | "test" => some Tool.testTool
  | "[" => some Tool.bracketTool
  | "expr" => some Tool.expr
  | "seq" => some Tool.seq
  | "factor" => some Tool.factor
  | "find" => some (Tool.find launcher)
  | "xargs" => some (Tool.xargs launcher)
  | "diff" => some Tool.diff
  | "cmp" => some Tool.cmp
  | "od" => some Tool.od
  | "base64" => some Tool.base64
  | "base32" => some Tool.base32
  | "split" => some Tool.split
  | "truncate" => some Tool.truncate
  | "dd" => some Tool.dd
  | "whoami" => some Tool.whoami
  | "logname" => some Tool.logname
  | "id" => some Tool.identity
  | "groups" => some Tool.groups
  | "uname" => some Tool.uname
  | "arch" => some Tool.arch
  | "tty" => some Tool.tty
  | "sum" => some Tool.sumTool
  | "cksum" => some Tool.cksum
  | "awk" => some (Tool.awk launcher)
  | "mawk" => some (Tool.awk launcher)
  | "true" => some fun _ => return 0
  | "false" => some fun _ => return 1
  | program =>
    (Tool.Method.all.find? fun (word, _) => raw program == word ++ raw "sum").map fun (_, m) =>
      Tool.digesting m

end DocAudit.Shell
