import WebAuth.Url.Label

/-!
# Domain names

Domain names are compared and sent in ASCII.  A name is folded, cut into labels at its
full stops, and each label is written in ASCII.  In a name with a label that runs to the
left, all labels have to keep their order when the name is displayed.

Main definitions:

* `Domain.toAscii?`: a domain name in ASCII.
-/

namespace WebAuth.Domain

/-- Whether labels can be displayed side by side. -/
def keepOrder (labels : List Label) : Bool :=
  !labels.any (fun label => label.characters.any Text.Direction.runsLeft) ||
    labels.all (fun label => Label.keepsOrder label.characters)

/-- A domain name in ASCII. -/
def toAscii? (cs : List Char) : Option (List Char) := do
  let folded ← Folding.fold? cs
  let labels ← (folded.splitOn '.').mapM Label.ofFolded?
  if keepOrder labels then some (['.'].intercalate (labels.map Label.written)) else none

end WebAuth.Domain
