import TmuxLayout.Shell.Tools.Characters
import TmuxLayout.Shell.Tools.Entries
import TmuxLayout.Shell.Tools.Grep
import TmuxLayout.Shell.Tools.Sed
import TmuxLayout.Shell.Tools.Sorting
import TmuxLayout.Shell.Tools.Starting
import TmuxLayout.Shell.Tools.Values

/-!
# Programs of the system

The programs that lines for the shell call most often besides tmux. Each one looks
at its arguments, its input and the files alone.

- `tool?`: the program with a name.
-/

namespace TmuxLayout.Shell

/-- A program that does nothing but end with a status. -/
def Tool.ending (status : Nat) (_ : Invocation) : Finish :=
  Tool.aside (Tool.finish status [] [])

/-- A program that writes a line. -/
def Tool.saying (line : String) (_ : Invocation) : Finish :=
  Tool.aside (Tool.write (ofText (line ++ "\n")))

/-- Tells that its input is no terminal. -/
def Tool.notTerminal (_ : Invocation) : Finish :=
  Tool.aside (Tool.finish 1 (ofText "not a tty\n") [])

/-- Tells who runs it. -/
def Tool.id (invocation : Invocation) : Finish :=
  match invocation.arguments.map Run.shown with
  | [] => Tool.saying "uid=0(root) gid=0(root) groups=0(root)" invocation
  | ["-u"] | ["-g"] | ["-G"] => Tool.saying "0" invocation
  | _ => Tool.saying "root" invocation

/-- The programs of the system by their names. -/
def tool? (name : String) : Option (Invocation → Finish) :=
  match name with
  | "basename" => some Tool.basename
  | "cat" => some Tool.cat
  | "chmod" => some Tool.chmod
  | "cp" => some Tool.cp
  | "cut" => some Tool.cut
  | "dirname" => some Tool.dirname
  | "echo" => some Tool.echo
  | "egrep" => some Tool.egrep
  | "env" => some Tool.env
  | "expr" => some Tool.expr
  | "false" => some (Tool.ending 1)
  | "fgrep" => some Tool.fgrep
  | "grep" => some Tool.grep
  | "head" => some Tool.head
  | "id" => some Tool.id
  | "ls" => some Tool.ls
  | "mkdir" => some Tool.mkdir
  | "mv" => some Tool.mv
  | "nice" => some Tool.nice
  | "nl" => some Tool.nl
  | "nohup" => some Tool.nohup
  | "od" => some Tool.od
  | "paste" => some Tool.paste
  | "printenv" => some Tool.printenv
  | "printf" => some Tool.printf
  | "pwd" => some Tool.pwd
  | "readlink" => some Tool.readlink
  | "realpath" => some Tool.realpath
  | "rev" => some Tool.rev
  | "rm" => some Tool.rm
  | "rmdir" => some Tool.rmdir
  | "sed" => some Tool.sed
  | "seq" => some Tool.seq
  | "sleep" => some Tool.sleep
  | "sort" => some Tool.sort
  | "tac" => some Tool.tac
  | "tail" => some Tool.tail
  | "tee" => some Tool.tee
  | "timeout" => some Tool.timeout
  | "touch" => some Tool.touch
  | "tr" => some Tool.tr
  | "true" => some (Tool.ending 0)
  | "tty" => some Tool.notTerminal
  | "uname" => some (Tool.saying "Linux")
  | "uniq" => some Tool.uniq
  | "wc" => some Tool.wc
  | "which" => some Tool.which
  | "whoami" => some (Tool.saying "root")
  | "xargs" => some Tool.xargs
  | "yes" => some Tool.yes
  | _ => none

end TmuxLayout.Shell
