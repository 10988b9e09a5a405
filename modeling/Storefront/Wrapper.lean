import Storefront.Json.Basic
import Storefront.Text.Blank

namespace Storefront

structure Wrapper where
  tag : String
  id : Option String := none
  classes : List String := []
  deriving DecidableEq, Repr, Inhabited

namespace Wrapper

def defaultTag : String := "div"

def bareTags : List String :=
  ["div", "span", "section", "nav", "header", "footer", "article", "aside", "main", "a", "button",
    "input", "img", "h1", "h2", "h3", "h4", "h5", "h6", "p", "ul", "ol", "li", "form", "label",
    "svg", "br"]

inductive Mark where
  | hash
  | dot
  deriving DecidableEq, Repr

def Mark.ofChar? (c : Char) : Option Mark :=
  if c = '#' then some .hash else if c = '.' then some .dot else none

def split : List Char → List Char × List (Mark × List Char)
  | [] => ([], [])
  | c :: rest =>
      let (text, parts) := split rest
      match Mark.ofChar? c with
      | some mark => ([], (mark, text) :: parts)
      | none => (c :: text, parts)

def addPart (w : Wrapper) (part : Mark × List Char) : Wrapper :=
  if part.2.isEmpty then w
  else
    match part.1 with
    | .hash => if w.id.isNone then { w with id := some (String.ofList part.2) } else w
    | .dot => { w with classes := w.classes ++ [String.ofList part.2] }

def tagOfRun : List Char → String
  | [] => defaultTag
  | c :: rest => if c.isAlpha then String.ofList (c :: rest) else defaultTag

def ofTrimmed (s : List Char) : Wrapper :=
  let parts := (split (s.dropWhile Char.isAlphanum)).2
  parts.foldl addPart { tag := tagOfRun (s.takeWhile Char.isAlphanum) }

def parse (text : String) : Wrapper :=
  let s := Text.trim text.toList
  if s.isEmpty then { tag := defaultTag }
  else if String.ofList s ∈ bareTags then { tag := String.ofList s }
  else ofTrimmed s

def ofText? (text : Option String) : Wrapper :=
  match text with
  | some text => parse text
  | none => { tag := defaultTag }

def isBare (w : Wrapper) : Bool := w.id.isNone && w.classes.isEmpty

def selector (w : Wrapper) : String :=
  w.tag ++ (match w.id with | some id => "#" ++ id | none => "")
    ++ String.join (w.classes.map fun c => "." ++ c)

def toJson (w : Wrapper) : Json :=
  .object (("tag", .string w.tag)
    :: ((w.id.map fun id => ("id", Json.string id)).toList ++ [("classes", .ofStrings w.classes)]))

theorem split_fst_no_mark {s : List Char} {c : Char} (h : c ∈ (split s).1) :
    Mark.ofChar? c = none := by
  induction s with
  | nil => simp [split] at h
  | cons d rest ih =>
      simp only [split] at h
      split at h
      · simp at h
      · rcases List.mem_cons.1 h with rfl | h
        · assumption
        · exact ih h

theorem id_addPart {w : Wrapper} (part : Mark × List Char) (h : w.id ≠ some "") :
    (w.addPart part).id ≠ some "" := by
  obtain ⟨mark, text⟩ := part
  cases text with
  | nil => exact h
  | cons c rest =>
      cases mark with
      | dot => exact h
      | hash =>
          simp only [addPart]
          split
          · exact h
          · split
            · intro he
              have := congrArg String.toList (Option.some.inj he)
              simp at this
            · exact h

theorem id_foldl_addPart (parts : List (Mark × List Char)) {w : Wrapper} (h : w.id ≠ some "") :
    (parts.foldl addPart w).id ≠ some "" := by
  induction parts generalizing w with
  | nil => exact h
  | cons part rest ih => exact ih (id_addPart part h)

theorem id_ofText? (text : Option String) : (ofText? text).id ≠ some "" := by
  cases text with
  | none => simp [ofText?]
  | some text =>
      simp only [ofText?, parse]
      split
      · simp
      · split
        · simp
        · exact id_foldl_addPart _ (by simp)

end Wrapper

end Storefront
