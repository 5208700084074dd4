import TmuxLayout.Shell.Tools.Values

/-!
# Programs that start others

- `Tool.env`: starts a program with other variables, or shows variables.
- `Tool.xargs`: starts a program with arguments from its input.
- `Tool.timeout`, `Tool.nohup`, `Tool.nice`: start a program in another way.
- `Tool.sleep`: waits.
- `Tool.which`: tells where programs are.
-/

namespace TmuxLayout.Shell.Tool

/-- A program that starts another one and leaves what that leaves. -/
def start (environment : List (List Char × List Char)) (words : List (List Char))
    (missing : List Char) : Finish :=
  { aside (write []) with launches := [⟨words, environment, missing, none⟩] }

/-- What is told of a program that is not there. -/
def missingMessage (name reason : String) (word : List Char) : List Char :=
  message name (ofText reason ++ word ++ ofText ": No such file or directory")

/-- The time that a text writes in seconds or, with a letter behind it, in other
units. -/
def milliseconds? (text : List Char) : Option Nat := do
  let (number, unit) := match text.getLast? with
    | some 's' => (text.dropLast, 1000)
    | some 'm' => (text.dropLast, 60000)
    | some 'h' => (text.dropLast, 3600000)
    | some 'd' => (text.dropLast, 86400000)
    | _ => (text, 1000)
  let time ← Fixed.read? number
  if time.value < 0 then none
  return time.value.toNat * unit / Nat.pow 10 time.places

/-- Waits as long as its arguments say together. -/
def sleep (invocation : Invocation) : Finish :=
  withOptions "sleep" ⟨"", "", []⟩ invocation fun chosen =>
    let times := chosen.operands
    let faults := (times.filter fun text => (milliseconds? text).isNone).flatMap fun text =>
      message "sleep" (ofText "invalid time interval " ++ quotedValue text)
    if times.isEmpty then misuse 1 "sleep" (ofText "missing operand")
    else if faults.isEmpty then
      { aside (write []) with duration := (times.filterMap milliseconds?).foldl (· + ·) 0 }
    else aside (finish 1 [] (faults ++ helpLine "sleep"))

/-- Variables with some changed by words such as `a=b`, and the words behind these. -/
def assignWords (environment : List (List Char × List Char)) :
    List (List Char) → List (List Char × List Char) × List (List Char)
  | [] => (environment, [])
  | word :: words =>
    let name := word.takeWhile (· ≠ '=')
    match word.drop name.length with
    | _ :: value => assignWords (Run.withEntry name value environment) words
    | [] => (environment, word :: words)

/-- Starts a program with other variables, or shows variables. -/
def env (invocation : Invocation) : Finish :=
  let letters : Letters := ⟨"i0v", "uC", [("ignore-environment", 'i'), ("unset", 'u'), ("null", '0')]⟩
  match readOptions letters true invocation.arguments with
  | .error fault => misuse 125 "env" fault.message
  | .ok chosen =>
    let isBare := chosen.has 'i' || chosen.operands.head? = some ['-']
    let operands := if chosen.operands.head? = some ['-'] then chosen.operands.tail else chosen.operands
    let unset := (chosen.options.filter fun (letter, _) => letter = 'u').map fun (_, name) => name
    let kept := if isBare then [] else
      invocation.environment.filter fun (name, _) => !unset.contains name
    let (environment, words) := assignWords kept operands
    let close := if chosen.has '0' then '\x00' else '\n'
    match unset.find? fun name => name.isEmpty || name.contains '=', words with
    | some name, _ =>
      fail 125 "env" (ofText "cannot unset " ++ quotedValue name ++ ofText ": Invalid argument")
    | none, [] =>
      aside (write (environment.flatMap fun (name, value) => name ++ ['='] ++ value ++ [close]))
    | none, word :: rest =>
      let hint := if word.any Numeral.isSpace then
          message "env" (ofText "use -[v]S to pass options in shebang lines")
        else []
      start environment (word :: rest) (missingMessage "env" "" (quotedValue word) ++ hint)

/-- Writes the values of variables that it sees. -/
def printenv (invocation : Invocation) : Finish :=
  let names := invocation.arguments
  if names.isEmpty then
    aside (write (invocation.environment.flatMap fun (name, value) => name ++ ['='] ++ value ++ ['\n']))
  else
    let values := names.filterMap fun name => invocation.environment.lookup name
    aside (finish (if values.length = names.length then 0 else 1) (joinLines values) [])

/-! ## Arguments from the input -/

/-- The words of a text, with quotes and backslashes; the word that has begun is in
reverse. -/
def inputWords (current : Option (List Char)) (quote : Option Char) :
    List Char → Except Char (List (List Char))
  | [] =>
    match quote with
    | some quote => .error quote
    | none => .ok (current.map List.reverse).toList
  | c :: rest =>
    match quote with
    | some '\\' => inputWords (some (c :: current.getD [])) none rest
    | some quote =>
      if c = quote then inputWords current none rest
      else if c = '\n' then .error quote
      else inputWords (some (c :: current.getD [])) (some quote) rest
    | none =>
      if c = '\x27' || c = '"' || c = '\\' then inputWords (some (current.getD [])) (some c) rest
      else if Numeral.isSpace c then
        (inputWords none none rest).map ((current.map List.reverse).toList ++ ·)
      else inputWords (some (c :: current.getD [])) none rest

/-- Rows of so many members; the steps are bounded. -/
def inRows {α : Type} (size : Nat) : Nat → List α → List (List α)
  | 0, _ | _, [] => []
  | steps + 1, members => members.take size :: inRows size steps (members.drop size)

/-- A text with another one in place of each occurrence of a word; the steps are
bounded. -/
def replaced (word other : List Char) : Nat → List Char → List Char
  | 0, text => text
  | steps + 1, text =>
    match Text.cut? word text with
    | some (before, rest) => before ++ other ++ replaced word other steps rest
    | none => text

/-- Starts a program with arguments from its input. -/
def xargs (invocation : Invocation) : Finish :=
  let letters : Letters := ⟨"0rtpx", "nILdPEs", [("null", '0'), ("no-run-if-empty", 'r'),
    ("max-args", 'n'), ("delimiter", 'd')]⟩
  match readOptions letters true invocation.arguments with
  | .error fault => misuse 1 "xargs" fault.message
  | .ok chosen =>
    let command := if chosen.operands.isEmpty then [ofText "echo"] else chosen.operands
    let mark? := if chosen.has '0' then some '\x00' else (chosen.value? 'd').bind fun text =>
      if text = ofText "\\n" then some '\n' else text.head?
    let words : Except Char (List (List Char)) := match mark?, chosen.value? 'I' with
      | some mark, _ =>
        let parts := FilePath.splitAt mark invocation.input
        .ok (if parts.getLast? = some [] then parts.dropLast else parts)
      | none, some _ =>
        .ok (((linesOf invocation.input).map (·.dropWhile Numeral.isSpace)).filter (!·.isEmpty))
      | none, none => inputWords none none invocation.input
    match words with
    | .error quote =>
      finish 1 [] (message "xargs" (ofText ("unmatched " ++ (if quote = '"' then "double" else "single") ++
        " quote; by default quotes are special to xargs unless you use the -0 option")))
    | .ok words =>
      let missing := message "xargs" (command.headD [] ++ ofText ": No such file or directory")
      let launch (words : List (List Char)) : Launch := ⟨words, invocation.environment, missing, none⟩
      let size := match chosen.value? 'L', chosen.value? 'n' with
        | some text, _ | none, some text => (decimal? text).getD 1
        | none, none => words.length + 1
      let launches := match chosen.value? 'I' with
        | some mark =>
          words.map fun word =>
            launch (command.map fun part => replaced mark word (part.length + 1) part)
        | none =>
          if words.isEmpty then if chosen.has 'r' then [] else [launch command]
          else (inRows (max size 1) words.length words).map fun row => launch (command ++ row)
      { write [] with launches, failure := some 123 }

/-! ## Other ways to start -/

/-- Starts a program that is ended if it takes too long; no time at all is any
time. -/
def timeout (invocation : Invocation) : Finish :=
  let letters : Letters := ⟨"v", "ks", [("preserve-status", 'v'), ("foreground", 'v'),
    ("kill-after", 'k'), ("signal", 's')]⟩
  match readOptions letters true invocation.arguments with
  | .error fault => misuse 125 "timeout" fault.message
  | .ok chosen =>
    match chosen.operands with
    | [] | [_] => aside (finish 125 [] (helpLine "timeout"))
    | time :: words =>
      match milliseconds? time with
      | none => misuse 125 "timeout" (ofText "invalid time interval " ++ quotedValue time)
      | some limit =>
        let missing := missingMessage "timeout" "failed to run command " (quotedValue (words.headD []))
        let limit := if limit = 0 then none else some limit
        { aside (write []) with launches := [⟨words, invocation.environment, missing, limit⟩] }

/-- Starts a program. -/
def nohup (invocation : Invocation) : Finish :=
  match invocation.arguments with
  | [] => misuse 125 "nohup" (ofText "missing operand")
  | word :: words =>
    start invocation.environment (word :: words)
      (missingMessage "nohup" "failed to run command " (quotedName word))

/-- Starts a program, or tells how much it gives way to others. -/
def nice (invocation : Invocation) : Finish :=
  match readOptions ⟨"", "n", [("adjustment", 'n')]⟩ true invocation.arguments with
  | .error fault => misuse 125 "nice" fault.message
  | .ok chosen =>
    if chosen.operands.isEmpty then aside (write ['0', '\n'])
    else
      start invocation.environment chosen.operands
        (missingMessage "nice" "" (quotedValue (chosen.operands.headD [])))

/-- What a shell does to tell where programs are: it looks for each argument in the
directories of `$PATH` in turn. -/
def whichLines : List Char :=
  ofText "status=0; for name do found=; case $name in */*) [ -f \"$name\" ] && [ -x \"$name\" ] &&
    echo \"$name\" && found=1;; *) IFS=:; for place in $PATH; do place=$\x7bplace:-.\x7d/$name
    [ -f \"$place\" ] && [ -x \"$place\" ] && echo \"$place\" && found=1 && [ -z \"$all\" ] && break
    done;; esac; [ \"$found\" ] || status=1; done; exit $status"

/-- Tells where programs are. -/
def which (invocation : Invocation) : Finish :=
  match readOptions ⟨"as", "", []⟩ true invocation.arguments with
  | .error (.unknownLetter letter) =>
    aside (finish 2 (ofText "Usage: /usr/bin/which [-as] args\n")
      (ofText "Illegal option -" ++ [letter, '\n']))
  | .error fault => misuse 2 "which" fault.message
  | .ok chosen =>
    if chosen.operands.isEmpty then aside (finish 1 [] [])
    else
      let environment := invocation.environment.filter fun (name, _) => name ≠ ofText "all"
      let environment := environment ++ if chosen.has 'a' then [(ofText "all", ['1'])] else []
      start environment ([ofText "sh", ofText "-c", whichLines, ofText "which"] ++ chosen.operands) []

end TmuxLayout.Shell.Tool
