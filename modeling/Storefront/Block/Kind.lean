namespace Storefront

inductive Kind where
  | repeater
  | carousel
  | marquee
  | icon
  | iconButton
  | navButton
  | textInput
  | element
  deriving DecidableEq, Repr, Inhabited

namespace Kind

def name : Kind → String
  | .repeater => "repeater"
  | .carousel => "carousel"
  | .marquee => "marquee"
  | .icon => "icon"
  | .iconButton => "icon_button"
  | .navButton => "nav_button"
  | .textInput => "text_input"
  | .element => "element"

def ofType : String → Kind
  | "repeater" => .repeater
  | "carousel" => .carousel
  | "marquee" => .marquee
  | "icon" => .icon
  | "icon_button" => .iconButton
  | "icon-button" => .iconButton
  | "nav_button" => .navButton
  | "nav-button" => .navButton
  | "text_input" => .textInput
  | "text-input" => .textInput
  | _ => .element

end Kind

end Storefront
