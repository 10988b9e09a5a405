import Storefront.Plan.Basic

namespace Storefront

inductive Sign where
  | plan
  | block (kind : Kind)
  | prop
  | event
  deriving DecidableEq, Repr

namespace Sign

def icon : Sign → String
  | .plan => "⧉"
  | .block .repeater => "⟳"
  | .block .carousel => "⇆"
  | .block .marquee => "⇢"
  | .block .icon => "★"
  | .block .iconButton => "◉"
  | .block .navButton => "➜"
  | .block .textInput => "⌨"
  | .block .element => "□"
  | .prop => "≔"
  | .event => "⚡"

def ofName? : String → Option Sign
  | "Plan" => some .plan
  | "Repeater" => some (.block .repeater)
  | "Carousel" => some (.block .carousel)
  | "Marquee" => some (.block .marquee)
  | "Icon" => some (.block .icon)
  | "IconButton" => some (.block .iconButton)
  | "NavButton" => some (.block .navButton)
  | "TextInput" => some (.block .textInput)
  | "Element" => some (.block .element)
  | "Prop" => some .prop
  | "Event" => some .event
  | _ => none

def iconOfName (name : String) : String := ((ofName? name).map icon).getD "○"

end Sign

namespace Node

def label (n : Node) : String :=
  n.wrapper.selector ++ " " ++ n.key
    ++ (match n.iteration with | some i => " #" ++ toString i | none => "")
    ++ (if n.visible then "" else " (hidden)")

def propLine (e : String × Json) : String :=
  Sign.prop.icon ++ " " ++ e.1 ++ " = " ++ e.2.compress

def eventLine (e : PlannedEvent) : String :=
  Sign.event.icon ++ " " ++ e.action.name ++ " → "
    ++ (match e.invocation with | some i => i.target.display | none => "∅")

def details (n : Node) : List String := n.props.map propLine ++ n.events.map eventLine

def connector (last : Bool) : String := if last then "└─ " else "├─ "

def indentation (last : Bool) : String := if last then "  " else "│ "

def detailLines (lead : String) (followed : Bool) : List String → List String
  | [] => []
  | line :: rest =>
      (lead ++ connector (rest.isEmpty && !followed) ++ line) :: detailLines lead followed rest

mutual
def lines (full : Bool) : Node → String → Bool → List String
  | ⟨key, kind, visible, iteration, wrapper, style, props, events, children⟩, lead, last =>
      let n : Node := { key, kind, visible, iteration, wrapper, style, props, events }
      let below := lead ++ indentation last
      (lead ++ connector last ++ (Sign.block kind).icon ++ " " ++ n.label)
        :: ((if full then detailLines below (!children.isEmpty) n.details else [])
          ++ linesOfAll full children below)

def linesOfAll (full : Bool) : List Node → String → List String
  | [], _ => []
  | n :: rest, lead => n.lines full lead rest.isEmpty ++ linesOfAll full rest lead
end

end Node

namespace Plan

def counted (n : Nat) (noun : String) : String :=
  toString n ++ " " ++ noun ++ if n = 1 then "" else "s"

def headline (p : Plan) : String :=
  Sign.plan.icon ++ " Plan (" ++ counted p.count "node" ++ ", "
    ++ counted p.reports.length "diagnostic" ++ ")"

def draw (p : Plan) (full : Bool) : String :=
  String.join ((p.headline :: p.root.lines full "" true).map (· ++ "\n"))

def wantsFull (params : Dictionary String) : Bool :=
  -- No letter outside ASCII has one of these four as its small letter.
  match params.get? "plan-full" with
  | some value => value.toLower == "true"
  | none => false

end Plan

end Storefront
