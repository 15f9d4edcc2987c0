import PageRules.Text.Basic

/-! Document types. Old types ask for the old layout, in which a table does not end a paragraph. -/

namespace PageRules.Html

structure Doctype where
  name : Text := []
  publicId : Option Text := none
  systemId : Option Text := none
  wellFormed : Bool := true

namespace Doctype

/-- A quoted text at the front and the text after it. -/
def quoted? (t : Text) : Option (Text × Text) :=
  match t with
  | q :: rest => if q == '"' || q == '\'' then Text.splitOnce (· == q) rest else none
  | [] => none

def skip (t : Text) : Text := t.dropWhile Text.isSpace

/-- The text after a word at the front, in any letter case. -/
def afterWord? (word : String) (t : Text) : Option Text :=
  let n := word.length
  if Text.eqIgnoreCase (t.take n) word.toList then some (t.drop n) else none

/-- The type that a text between `<!DOCTYPE` and `>` declares. -/
def read (t : Text) : Doctype :=
  let t := skip t
  let isInName (c : Char) : Bool := !Text.isSpace c
  let d : Doctype := { name := Text.lower (t.takeWhile isInName) }
  let rest := skip (t.dropWhile isInName)
  if d.name = [] then { d with wellFormed := false }
  else if rest = [] then d
  else match afterWord? "public" rest with
    | some rest =>
      match quoted? (skip rest) with
      | none => { d with wellFormed := false }
      | some (publicId, rest) =>
        let d := { d with publicId := some publicId }
        match skip rest with
        | [] => d
        | rest =>
          match quoted? rest with
          | some (systemId, _) => { d with systemId := some systemId }
          | none => { d with wellFormed := false }
    | none =>
      match (afterWord? "system" rest).bind fun rest => quoted? (skip rest) with
      | some (systemId, _) => { d with systemId := some systemId }
      | none => { d with wellFormed := false }

def oldPublicIds : List String :=
  ["-//w3o//dtd w3 html strict 3.0//en//", "-/w3c/dtd html 4.0 transitional/en", "html"]

def oldSystemIds : List String :=
  ["http://www.ibm.com/data/dtd/v11/ibmxhtml1-transitional.dtd"]

def oldPublicStarts : List String :=
  ["+//silmaril//dtd html pro v0r11 19970101//", "-//advasoft ltd//dtd html 3.0 aswedit + extensions//",
   "-//as//dtd html 3.0 aswedit + extensions//", "-//ietf//dtd html 2.0 level 1//",
   "-//ietf//dtd html 2.0 level 2//", "-//ietf//dtd html 2.0 strict level 1//",
   "-//ietf//dtd html 2.0 strict level 2//", "-//ietf//dtd html 2.0 strict//",
   "-//ietf//dtd html 2.0//", "-//ietf//dtd html 2.1e//", "-//ietf//dtd html 3.0//",
   "-//ietf//dtd html 3.2 final//", "-//ietf//dtd html 3.2//", "-//ietf//dtd html 3//",
   "-//ietf//dtd html level 0//", "-//ietf//dtd html level 1//", "-//ietf//dtd html level 2//",
   "-//ietf//dtd html level 3//", "-//ietf//dtd html strict level 0//",
   "-//ietf//dtd html strict level 1//", "-//ietf//dtd html strict level 2//",
   "-//ietf//dtd html strict level 3//", "-//ietf//dtd html strict//", "-//ietf//dtd html//",
   "-//metrius//dtd metrius presentational//", "-//microsoft//dtd internet explorer 2.0 html strict//",
   "-//microsoft//dtd internet explorer 2.0 html//", "-//microsoft//dtd internet explorer 2.0 tables//",
   "-//microsoft//dtd internet explorer 3.0 html strict//",
   "-//microsoft//dtd internet explorer 3.0 html//", "-//microsoft//dtd internet explorer 3.0 tables//",
   "-//netscape comm. corp.//dtd html//", "-//netscape comm. corp.//dtd strict html//",
   "-//o'reilly and associates//dtd html 2.0//", "-//o'reilly and associates//dtd html extended 1.0//",
   "-//o'reilly and associates//dtd html extended relaxed 1.0//",
   "-//softquad software//dtd hotmetal pro 6.0::19990601::extensions to html 4.0//",
   "-//softquad//dtd hotmetal pro 4.0::19971010::extensions to html 4.0//",
   "-//spyglass//dtd html 2.0 extended//", "-//sq//dtd html 2.0 hotmetal + extensions//",
   "-//sun microsystems corp.//dtd hotjava html//",
   "-//sun microsystems corp.//dtd hotjava strict html//", "-//w3c//dtd html 3 1995-03-24//",
   "-//w3c//dtd html 3.2 draft//", "-//w3c//dtd html 3.2 final//", "-//w3c//dtd html 3.2//",
   "-//w3c//dtd html 3.2s draft//", "-//w3c//dtd html 4.0 frameset//",
   "-//w3c//dtd html 4.0 transitional//", "-//w3c//dtd html experimental 19960712//",
   "-//w3c//dtd html experimental 970421//", "-//w3c//dtd w3 html//", "-//w3o//dtd w3 html 3.0//",
   "-//webtechs//dtd mozilla html 2.0//", "-//webtechs//dtd mozilla html//"]

/-- Types that ask for the old layout unless they name a system identifier. -/
def oldUnlessSystem : List String :=
  ["-//w3c//dtd html 4.01 frameset//", "-//w3c//dtd html 4.01 transitional//"]

/-- The type asks for the old layout. -/
def isOld (d : Doctype) : Bool :=
  let publicId := Text.lower (d.publicId.getD [])
  let startsWith (starts : List String) : Bool := starts.any fun s => s.toList.isPrefixOf publicId
  !d.wellFormed || d.name != "html".toList ||
    (d.publicId.isSome && oldPublicIds.any fun s => s.toList == publicId) ||
    oldSystemIds.any (fun s => some s.toList == d.systemId.map Text.lower) ||
    (d.publicId.isSome && startsWith oldPublicStarts) ||
    (d.publicId.isSome && d.systemId.isNone && startsWith oldUnlessSystem)

end Doctype
end PageRules.Html
