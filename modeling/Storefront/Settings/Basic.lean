import Storefront.Plan.Walk

namespace Storefront

structure Settings where
  scopePrefixes : List String
  repeater : RepeaterNames
  logLevel : String
  deriving DecidableEq, Repr

def Settings.walkOptions (s : Settings) : WalkOptions :=
  { dispatcher := .ofPrefixes s.scopePrefixes, repeater := s.repeater }

end Storefront
