import DetachedTasks.Sandbox.Shell.Token

/-!
# Commands of the small shell

The tokens of a script are read into one command: simple commands with redirections, joined
in sequence, by their success or by a pipe, and the usual loops and branches.
-/

namespace DetachedTasks.Sandbox.Shell

/-- Where the output of a command goes. -/
inductive Redirect where
  | toDiagnostics
  | toOutput
  | diagnosticsTo (file : Word)
  | writeTo (file : Word)
  | appendTo (file : Word)
  | readFrom (file : Word)
  deriving Repr, DecidableEq

/-- A command. -/
inductive Tree where
  | simple (words : List Word) (redirects : List Redirect)
  | sequence (first second : Tree)
  | both (first second : Tree)
  | either (first second : Tree)
  | pipe (first second : Tree)
  | loop (wanted : Bool) (test body : Tree)
  | branch (test yes no : Tree)
  | each (name : Text) (words : List Word) (body : Tree)
  /-- A command in a process of its own. -/
  | group (inside : Tree)
  | redirected (inside : Tree) (redirects : List Redirect)
  | negated (inside : Tree)
  | nothing
  deriving Repr

/-- The text of a word without any expansion, if it is plain text. -/
def plainText? : Word → Option Text
  | [] => some []
  | .literal text :: rest => (plainText? rest).map (text ++ ·)
  | _ :: _ => none

/-- The keyword that a list of tokens begins with. -/
def keyword? : List Token → Option Text
  | .word parts :: _ =>
      (plainText? parts).filter fun text =>
        ["while".toList, "until".toList, "do".toList, "done".toList, "if".toList,
          "then".toList, "elif".toList, "else".toList, "fi".toList, "for".toList,
          "!".toList, "\x7b".toList, "\x7d".toList].contains text
  | _ => none

/-- Drop separators. -/
def skipSeparators (tokens : List Token) : List Token :=
  tokens.dropWhile fun token =>
    token == .operator ";".toList || token == .operator "\n".toList
      || token == .operator "&".toList

/-- A redirection at the beginning of some tokens, and what follows it. -/
def redirect? : List Token → Option (Redirect × List Token)
  | .operator operator :: rest =>
      if operator = ">&2".toList then some (.toDiagnostics, rest)
      else if operator = "2>&1".toList then some (.toOutput, rest)
      else
        match rest with
        | .word file :: behind =>
            if operator = ">".toList then some (.writeTo file, behind)
            else if operator = ">>".toList then some (.appendTo file, behind)
            else if operator = "<".toList then some (.readFrom file, behind)
            else if operator = "2>".toList then some (.diagnosticsTo file, behind)
            else none
        | _ => none
  | _ => none

/-- The redirections at the beginning of some tokens, and what follows them. -/
def redirects
    (fuel : Nat)
    (tokens : List Token) : List Redirect × List Token :=
  match fuel with
  | 0 => ([], tokens)
  | fuel + 1 =>
      match redirect? tokens with
      | none => ([], tokens)
      | some (redirect, rest) =>
          let (others, rest) := redirects fuel rest
          (redirect :: others, rest)

/-- The words and redirections of a simple command, and what follows it. -/
def simple
    (fuel : Nat)
    (words : List Word)
    (found : List Redirect)
    (tokens : List Token) : Tree × List Token :=
  match fuel with
  | 0 => (.simple words found, tokens)
  | fuel + 1 =>
      match tokens with
      | .word parts :: rest => simple fuel (words ++ [parts]) found rest
      | _ =>
          match redirect? tokens with
          | some (redirect, rest) => simple fuel words (found ++ [redirect]) rest
          | none => (.simple words found, tokens)

/-- Give a command the redirections that follow it. -/
def withRedirects (read : Tree × List Token) : Tree × List Token :=
  let (found, rest) := redirects read.2.length read.2
  (if found.isEmpty then read.1 else .redirected read.1 found, rest)

mutual

/-- A list of commands up to a keyword that ends it. -/
def list
    (fuel : Nat)
    (tokens : List Token) : Tree × List Token :=
  match fuel with
  | 0 => (.nothing, [])
  | fuel + 1 =>
      let start := skipSeparators tokens
      let ends : Bool :=
        match keyword? start with
        | some keyword =>
            ["do".toList, "done".toList, "then".toList, "elif".toList, "else".toList,
              "fi".toList, "\x7d".toList].contains keyword
        | none => start.isEmpty || start.head? == some (.operator ")".toList)
      if ends then
        (.nothing, start)
      else
        let (first, rest) := chain fuel start
        let (second, rest) := list fuel rest
        (.sequence first second, rest)

/-- Commands joined by `&&`, `||` and `|`. -/
def chain
    (fuel : Nat)
    (tokens : List Token) : Tree × List Token :=
  match fuel with
  | 0 => (.nothing, [])
  | fuel + 1 =>
      let (first, rest) := single fuel tokens
      match rest with
      | .operator operator :: behind =>
          if operator = "&&".toList then
            let (second, rest) := chain fuel (skipSeparators behind)
            (.both first second, rest)
          else if operator = "||".toList then
            let (second, rest) := chain fuel (skipSeparators behind)
            (.either first second, rest)
          else if operator = "|".toList then
            let (second, rest) := chain fuel (skipSeparators behind)
            (.pipe first second, rest)
          else
            (first, rest)
      | _ => (first, rest)

/-- One command. -/
def single
    (fuel : Nat)
    (tokens : List Token) : Tree × List Token :=
  match fuel with
  | 0 => (.nothing, [])
  | fuel + 1 =>
      match keyword? tokens with
      | none =>
          match tokens with
          | .operator operator :: rest =>
              if operator = "(".toList then
                let (inside, rest) := list fuel rest
                withRedirects (.group inside, rest.drop 1)
              else
                simple (tokens.length + 1) [] [] tokens
          | _ => simple (tokens.length + 1) [] [] tokens
      | some keyword =>
          let rest := tokens.drop 1
          if keyword = "!".toList then
            let (inside, rest) := single fuel rest
            (.negated inside, rest)
          else if keyword = "\x7b".toList then
            let (inside, rest) := list fuel rest
            withRedirects (inside, rest.drop 1)
          else if keyword = "while".toList || keyword = "until".toList then
            let (test, rest) := list fuel rest
            let (body, rest) := list fuel (rest.drop 1)
            withRedirects (.loop (keyword = "while".toList) test body, rest.drop 1)
          else if keyword = "for".toList then
            match rest with
            | .word name :: .word _ :: rest =>
                let words := rest.takeWhile fun token =>
                  match token with
                  | .word _ => true
                  | _ => false
                let behind := skipSeparators (rest.drop words.length)
                let (body, rest) := list fuel (behind.drop 1)
                withRedirects
                  (.each ((plainText? name).getD [])
                    (words.filterMap fun token =>
                      match token with
                      | .word parts => some parts
                      | _ => none)
                    body, rest.drop 1)
            | _ => (.nothing, [])
          else
            let (test, rest) := list fuel rest
            let (yes, rest) := list fuel (rest.drop 1)
            match keyword? rest with
            | some next =>
                if next = "else".toList then
                  let (no, rest) := list fuel (rest.drop 1)
                  withRedirects (.branch test yes no, rest.drop 1)
                else if next = "elif".toList then
                  let (no, rest) := single fuel rest
                  (.branch test yes no, rest)
                else
                  withRedirects (.branch test yes .nothing, rest.drop 1)
            | none => (.branch test yes .nothing, rest)

end

/-- The command that a script stands for. -/
def read (script : Text) : Tree :=
  let tokens := tokens (script.length + 1) script
  (list (4 * tokens.length + 8) tokens).1

end DetachedTasks.Sandbox.Shell
