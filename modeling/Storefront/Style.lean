import Storefront.Json.Basic

namespace Storefront.Style

def table : Array (String × String) :=
  #[("align_content", "align-content"), ("align_items", "align-items"),
    ("align_self", "align-self"), ("aspect_ratio", "aspect-ratio"), ("background", "background"),
    ("background_color", "background-color"), ("background_image", "background-image"),
    ("background_position", "background-position"), ("background_size", "background-size"),
    ("border", "border"), ("border_color", "border-color"), ("border_radius", "border-radius"),
    ("border_width", "border-width"), ("bottom", "bottom"), ("box_shadow", "box-shadow"),
    ("color", "color"), ("column_gap", "column-gap"), ("cursor", "cursor"),
    ("display", "display"), ("flex", "flex"), ("flex_basis", "flex-basis"),
    ("flex_direction", "flex-direction"), ("flex_grow", "flex-grow"),
    ("flex_shrink", "flex-shrink"), ("flex_wrap", "flex-wrap"), ("font_family", "font-family"),
    ("font_size", "font-size"), ("font_style", "font-style"), ("font_weight", "font-weight"),
    ("gap", "gap"), ("grid_column", "grid-column"), ("grid_row", "grid-row"),
    ("grid_template_columns", "grid-template-columns"),
    ("grid_template_rows", "grid-template-rows"), ("height", "height"),
    ("justify_content", "justify-content"), ("left", "left"),
    ("letter_spacing", "letter-spacing"), ("line_height", "line-height"), ("margin", "margin"),
    ("margin_bottom", "margin-bottom"), ("margin_left", "margin-left"),
    ("margin_right", "margin-right"), ("margin_top", "margin-top"), ("max_height", "max-height"),
    ("max_width", "max-width"), ("min_height", "min-height"), ("min_width", "min-width"),
    ("object_fit", "object-fit"), ("opacity", "opacity"), ("overflow", "overflow"),
    ("padding", "padding"), ("padding_bottom", "padding-bottom"),
    ("padding_left", "padding-left"), ("padding_right", "padding-right"),
    ("padding_top", "padding-top"), ("position", "position"), ("right", "right"),
    ("row_gap", "row-gap"), ("text_align", "text-align"), ("text_decoration", "text-decoration"),
    ("text_transform", "text-transform"), ("top", "top"), ("transform", "transform"),
    ("transition", "transition"), ("white_space", "white-space"), ("width", "width"),
    ("z_index", "z-index")]

def property? (name : String) : Option String := Dictionary.bisect table name 0 table.size

def passed (style : Dictionary Json) : List (String × Json) :=
  style.filter fun e => !e.2.isNull && (property? e.1).isNone

def renamed (style : Dictionary Json) : List (String × Json) :=
  style.filterMap fun e => if e.2.isNull then none else (property? e.1).map fun p => (p, e.2)

def translate (style : Dictionary Json) : Dictionary Json :=
  (Dictionary.ofList (passed style)).overlay (renamed style)

end Storefront.Style
