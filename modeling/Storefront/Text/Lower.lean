namespace Storefront.Text

def lower (s : String) : String :=
  s.map fun c => if c = '\u212a' then 'k' else c.toLower

end Storefront.Text
