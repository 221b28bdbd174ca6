import RegionSync.Yaml.Character
import RegionSync.Yaml.Quoted

/-!
# Tags

A tag says what kind of value a node has.  It is a run of octets rather than
of characters, because a percent sign spells a single octet.  Several of them
in a row spell a character from its first octet on; only the shape of the
octets is checked, so that the result may still be no text at all.

An octet zero ends a tag, and what stands behind it does not count.
-/

namespace RegionSync.Yaml

/-- The octets of a tag, or of a part of one. -/
abbrev Tag := List UInt8

namespace Tag

/-- The octets that a text consists of. -/
def ofText (text : Text) : Tag :=
  text.flatMap String.utf8EncodeChar

/-- The octets that count. -/
def counted (octets : Tag) : Tag :=
  octets.takeWhile (fun octet => octet != 0)

/-- Whether the octets are the UTF-8 form of a text. -/
def isText (octets : Tag) : Bool :=
  (String.fromUTF8? ⟨octets.toArray⟩).isSome

/-- The tag that consists of an exclamation mark. -/
def mark : Tag :=
  ofText ['!']

def standard (name : String) : Tag :=
  ofText ("tag:yaml.org,2002:".toList ++ name.toList)

/-- Whether a tag belongs to the author of the text. -/
def isOwn : Tag → Bool
  | [] => false
  | first :: _ => mark.contains first

/-- Whether a tag of the author's own can be told by name. -/
def isNamed (tag : Tag) : Bool :=
  isOwn tag && isText (tag.drop 1)

/-- A character of a tag; brackets and commas count only in `<…>`. -/
def isTagChar (isVerbatim : Bool) (char : Char) : Bool :=
  isWordChar char || ";/?:@&=+$.%!~*'()".toList.contains char
    || (isVerbatim && ",[]".toList.contains char)

/-- The number of octets that have to follow a first one. -/
def following? (octet : Nat) : Option Nat :=
  if octet < 0x80 then some 0
  else if octet / 32 = 6 then some 1
  else if octet / 16 = 14 then some 2
  else if octet / 8 = 30 then some 3
  else none

/-- The number of octets to come behind an octet, where `left` were to come
before it. -/
def remaining? (left octet : Nat) : Option Nat :=
  if left = 0 then following? octet
  else if octet / 64 = 2 then some (left - 1)
  else none

/-- Reads on in a tag whose octets so far are `read`, from its end.

Inside a character that percent signs spell, `left` octets are still to
come. -/
def readFrom
    (isVerbatim : Bool) :
    (left : Nat) → (read : Tag) → (text : Text) → Option (Tag × Text)
  | left, read, [] => if left = 0 then some (read.reverse, []) else none
  | left, read, '%' :: high :: low :: rest => do
      let octet := 16 * (← Quoted.hexValue? high) + (← Quoted.hexValue? low)
      readFrom isVerbatim (← remaining? left octet)
        (UInt8.ofNat octet :: read) rest
  | left, read, char :: rest =>
      if left ≠ 0 || char = '%' then
        none
      else if isTagChar isVerbatim char then
        readFrom isVerbatim 0 (UInt8.ofNat char.toNat :: read) rest
      else
        some (read.reverse, char :: rest)

/-- The octets of the tag at the start of a text, and the text behind it. -/
def read? (isVerbatim : Bool) (text : Text) : Option (Tag × Text) :=
  readFrom isVerbatim 0 [] text

end Tag

end RegionSync.Yaml
