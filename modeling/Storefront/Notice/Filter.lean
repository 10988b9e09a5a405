import Storefront.Notice
import Storefront.Text.Digits
import Storefront.Text.Split

namespace Storefront

structure Directive where
  target : String
  verbosity : Nat
  deriving DecidableEq, Repr

namespace Directive

def verbosityOfName? (name : String) : Option Nat :=
  (("off", 0) :: [Level.error, .warn, .info, .debug, .trace].map fun l =>
    (l.name.toLower, l.verbosity)).lookup name.toLower

def verbosity? (s : List Char) : Option Nat :=
  let digits := match s with
    | '+' :: rest => rest
    | _ => s
  match Text.natOfText? digits with
  | some n => if n ≤ 5 then some n else none
  | none => verbosityOfName? (String.ofList s)

def startsWith (c : Char) : Bool := c.isAlphanum || c == '-' || c == ':' || c == '_'

def ofText? (s : List Char) : Option Directive :=
  if s.contains '[' || !s.head?.any startsWith then none
  else
    let target := String.ofList (s.takeWhile (· != '='))
    match s.dropWhile (· != '=') with
    | [] =>
        match verbosity? s with
        | some v => some { target := "", verbosity := v }
        | none => some { target, verbosity := Level.trace.verbosity }
    | ['='] => some { target, verbosity := Level.trace.verbosity }
    | _ :: level => (verbosity? level).map fun v => { target, verbosity := v }

def covers (d : Directive) (target : String) : Bool := d.target.toList.isPrefixOf target.toList

end Directive

abbrev Filter := List Directive

namespace Filter

def ofText (text : String) : Filter := (Text.split ',' text.toList).filterMap Directive.ofText?

def moreExact (earlier : Option Directive) (later : Directive) : Option Directive :=
  match earlier with
  | none => some later
  | some d => if d.target.length ≤ later.target.length then some later else some d

def decisive? (f : Filter) (target : String) : Option Directive :=
  (f.filter fun d => d.covers target).foldl moreExact none

def shows (f : Filter) (n : Notice) : Bool :=
  (f.decisive? n.target).any fun d => n.level.verbosity ≤ d.verbosity

end Filter

end Storefront
