import OciCompose.Text.Composed
import OciCompose.Url.Domain.Direction
import OciCompose.Url.Domain.Joining
import OciCompose.Url.Domain.Mapping
import OciCompose.Url.Domain.Punycode

/-
  Domain names in any script and their form in ASCII, in which they are looked up.
  A name is folded first: its characters are mapped and composed. Each of its labels has to be well
  formed then, also one that comes encoded, and those outside ASCII are encoded.
-/

namespace OciCompose.Domain

/-- ASCII characters that no domain name has. -/
def isForbidden (c : Char) : Bool :=
  c.toNat ≤ 0x20 || c.toNat == 0x7F || "%#/:<>?@[\\]^|".toList.contains c

/-- A name in the form in which names are compared. -/
def folded? (s : List Char) : Option (List Char) :=
  match s.mapM mapped? with
  | none => none
  | some texts =>
    let name := Text.composed texts.flatten
    if name.any isForbidden then none else some name

/-- What encoded labels begin with. -/
def encodedMark : List Char := "xn--".toList

def isEncoded (label : List Char) : Bool := encodedMark.isPrefixOf label

/-- The longest encoded label that is read, without its mark. -/
def greatestEncoded : Nat := 2000

/-- The longest label that is encoded. -/
def greatestLabel : Nat := 1000

def isAscii (label : List Char) : Bool := label.all Punycode.isAscii

/-- A label that another one may be the encoding of: it needs encoding, and is folded already. -/
def needsEncoding (label : List Char) : Bool :=
  !isAscii label && !isEncoded label && label.all isKept && Text.composed label == label &&
    !label.any isForbidden

/-- What a label stands for. -/
def decoded? (label : List Char) : Option (List Char) :=
  if isEncoded label then
    let text := label.drop encodedMark.length
    if greatestEncoded < text.length then none
    else (Punycode.decode? text).filter needsEncoding
  else some label

/-- A label of a name: no mark stands first, and joiners only where they belong. -/
def isLabel (label : List Char) : Bool :=
  !label.head?.any Text.isMark && joinersFit [] label &&
    (isAscii label || label.length ≤ greatestLabel)

/-- A label in ASCII. -/
def encoded (label : List Char) : List Char :=
  if isAscii label then label else encodedMark ++ Punycode.encode label

/-- The form of a name in ASCII, if it is one. -/
def ascii? (s : List Char) : Option (List Char) := do
  let name ← folded? s
  let labels ← (name.splitOn '.').mapM decoded?
  if labels.all isLabel && showsConsistently labels then
    some (['.'].intercalate (labels.map encoded))
  else none

end OciCompose.Domain
