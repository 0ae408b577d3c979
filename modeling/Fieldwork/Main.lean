import Fieldwork.Console

/-!
# The program

Reads a configuration from the file named first on the command line and answers the lines of the
standard input.
-/

namespace Fieldwork.Console

def readFile (path : String) : IO File := do
  try
    return .bytes (← IO.FS.readBinFile path)
  catch
    | .noFileOrDirectory .. => return .missing
    | fault => return .unreadable (toString fault)

partial def answerLines (o : Object) (u : User) (input output : IO.FS.Stream) : IO Unit := do
  output.putStr promptText
  output.flush
  let line ← input.getLine
  if line.isEmpty then return
  output.putStr (respond o u line)
  answerLines o u input output

end Fieldwork.Console

open Fieldwork in
def main (args : List String) : IO UInt32 := do
  let path := args.headD Console.defaultPath
  let (config, origin) := Console.configure path (← Console.readFile path)
  IO.print origin
  match config.objects with
  | [] =>
    IO.eprint Console.noObjects
    return 1
  | o :: _ =>
    IO.print (Console.objectText o ++ Console.invitation)
    let name ← IO.getEnv "USER"
    Console.answerLines o (Console.user name) (← IO.getStdin) (← IO.getStdout)
    return 0
