import Storefront.Url.Address
import Storefront.Url.Domain

namespace Storefront.Url

inductive Host where
  | bytes (parts : List (List Char))
  | groups (text : List Char)
  | domain (labels : List (List Char))
  deriving DecidableEq, Repr

def percentDecode : List UInt8 → List UInt8
  | 37 :: a :: b :: rest =>
      match Address.hexValue? (Char.ofUInt8 a), Address.hexValue? (Char.ofUInt8 b) with
      | some high, some low => UInt8.ofNat (16 * high + low) :: percentDecode rest
      | _, _ => 37 :: percentDecode (a :: b :: rest)
  | c :: rest => c :: percentDecode rest
  | [] => []

def decoded? (s : List Char) : Option (List Char) :=
  let bytes := percentDecode (String.ofList s).toUTF8.toList
  (String.fromUTF8? ⟨bytes.toArray⟩).map String.toList

def Host.ofText? : List Char → Option Host
  | '[' :: rest =>
      if rest.getLast? = some ']' ∧ Address.isGroups rest.dropLast then some (.groups rest.dropLast)
      else none
  | s =>
      match (decoded? s).bind Domain.labels? with
      | none => none
      | some labels =>
          if labels = [[]] then none
          else if Address.endsInNumber labels then
            if Address.isBytes labels then some (.bytes labels) else none
          else some (.domain labels)

end Storefront.Url
