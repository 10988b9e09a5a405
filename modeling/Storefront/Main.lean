import Storefront.Command.Outcome
import Storefront.Text.Lossy

namespace Storefront

def readPath (path : String) : IO (Except Unreadable String) := do
  try
    let bytes ← IO.FS.readBinFile path
    return match String.fromUTF8? bytes with
      | some text => .ok text
      | none => .error (.notText (Text.lossy bytes.toList))
  catch e =>
    return match e with
      | .inappropriateType _ _ details => .error (ofDetails details)
      | _ => .error .notFound
where
  ofDetails (details : String) : Unreadable :=
    if details = "not a directory" then .notADirectory else .isDirectory

end Storefront

open Storefront in
def main (arguments : List String) : IO UInt32 := do
  let outcome ← match Request.ofArguments arguments with
    | .error stop => pure (Outcome.ofStop stop)
    | .ok request =>
        let read ← request.paths.mapM fun path => return (path, ← readPath path)
        pure (request.run fun path => (read.lookup path).getD (.error .notFound))
  outcome.notices.forM fun n => IO.eprintln (n.line true)
  IO.print outcome.output
  outcome.error.forM fun message => IO.eprintln message
  return UInt32.ofNat outcome.code
