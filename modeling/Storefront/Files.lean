import Storefront.Text.Split

namespace Storefront

inductive Unreadable where
  | notFound
  | isDirectory
  | notADirectory
  -- what is left of its text when bytes that are none are replaced
  | notText (lossy : String)
  deriving DecidableEq, Repr

def Unreadable.message : Unreadable → String
  | .notFound => "No such file or directory (os error 2)"
  | .isDirectory => "Is a directory (os error 21)"
  | .notADirectory => "Not a directory (os error 20)"
  | .notText _ => "stream did not contain valid UTF-8"

abbrev Files := String → Except Unreadable String

namespace Files

def parts (path : String) : List String := (Text.split '/' path.toList).map String.ofList

def stays (part : String) : Bool := part == "" || part == "."

def steps (path : String) : List String := (parts path).filter fun p => !stays p

def walk (files : List (List String × String)) : List String → List String → Except Unreadable String
  | _, [] => .error .isDirectory
  | directory, part :: rest =>
      if stays part then walk files directory rest
      else if part = ".." then
        if directory = [] then .error .notFound else walk files directory.dropLast rest
      else
        let here := directory ++ [part]
        match files.lookup here with
        | some text => if rest = [] then .ok text else .error .notADirectory
        | none =>
            if files.any fun f => here.isPrefixOf f.1 then walk files here rest
            else .error .notFound

def ofList (entries : List (String × String)) : Files := fun path =>
  let files := entries.map fun e => (steps e.1, e.2)
  if path.isEmpty then .error .notFound
  else if path.startsWith "/" then
    if steps path = [] then .error .isDirectory else .error .notFound
  else walk files [] (parts path)

end Files

end Storefront
