import Storefront.Json.Printer
import Storefront.Text.Quoted

namespace Storefront

inductive Action where
  | navigate
  | toggleDrawer
  | toggleTheme
  | search
  | sliderPrev
  | sliderNext
  | sliderGoto
  | toggleAccordion
  | toggleDropdown
  | setStyle
  | other (name : String)
  deriving DecidableEq, Repr

namespace Action

def name : Action → String
  | .navigate => "navigate"
  | .toggleDrawer => "toggle_drawer"
  | .toggleTheme => "toggle_theme"
  | .search => "search"
  | .sliderPrev => "slider_prev"
  | .sliderNext => "slider_next"
  | .sliderGoto => "slider_goto"
  | .toggleAccordion => "toggle_accordion"
  | .toggleDropdown => "toggle_dropdown"
  | .setStyle => "set_style"
  | .other name => name

def known : List Action :=
  [.navigate, .toggleDrawer, .toggleTheme, .search, .sliderPrev, .sliderNext, .sliderGoto,
    .toggleAccordion, .toggleDropdown, .setStyle]

def ofName (name : String) : Action :=
  (known.find? fun a => a.name == name).getD (.other name)

def ofJson : Json → Action
  | .string name => ofName name
  | v => .other v.compress

def missing : Action := .other ""

def isKnown (a : Action) : Bool := a ∈ known

def dump : Action → String
  | .navigate => "Navigate"
  | .toggleDrawer => "ToggleDrawer"
  | .toggleTheme => "ToggleTheme"
  | .search => "Search"
  | .sliderPrev => "SliderPrev"
  | .sliderNext => "SliderNext"
  | .sliderGoto => "SliderGoto"
  | .toggleAccordion => "ToggleAccordion"
  | .toggleDropdown => "ToggleDropdown"
  | .setStyle => "SetStyle"
  | .other name => s!"Other({Text.quoted name})"

end Action

end Storefront
