import ApiStencil.Command

/-!
The program: runs the command line on the disk of the machine.
-/

namespace ApiStencil

/-- What the machine says about a file as a fault. -/
def FileFault.ofError (e : IO.Error) : FileFault :=
  match e with
  | .noFileOrDirectory _ _ _ => .notFound
  | .alreadyExists _ _ _ => .alreadyThere
  | e => .other (toString e)

/-- The result of an action on files, or its fault. -/
def attempt {α : Type} (action : IO α) : IO (Except FileFault α) := do
  try
    let result ← action
    pure (.ok result)
  catch e => pure (.error (.ofError e))

instance : Disk IO where
  read path := attempt (IO.FS.readBinFile path)
  makeDirectories path := attempt (IO.FS.createDirAll path)
  write path content := attempt (IO.FS.writeBinFile path content)
  print text := IO.print text

end ApiStencil

/-- Runs the command line; a failure goes to the error stream. -/
def main (args : List String) : IO UInt32 := do
  let outcome ← (ApiStencil.Command.run args : IO _)
  match outcome.failure with
  | some message => IO.eprintln ("Error: " ++ message)
  | none => pure ()
  pure (UInt32.ofNat outcome.exit)
