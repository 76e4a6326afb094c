import AccessPolicy.Yaml.Cursor

namespace AccessPolicy.Yaml

structure Tag where
  text : String
  deriving DecidableEq, Repr

abbrev Handles := List (List Char × List Char)

namespace Tag

def coreHandle : List Char := "tag:yaml.org,2002:".toList

def core (name : String) : Tag := ⟨.ofList (coreHandle ++ name.toList)⟩

-- the tag that is an exclamation mark and nothing else
def bare : Tag := ⟨"!"⟩

def handles : Handles := [(['!'], ['!']), (['!', '!'], coreHandle)]

def ofParts? (hs : Handles) (handle suffix : List Char) : Option Tag :=
  if handle.isEmpty then some ⟨.ofList suffix⟩ else (hs.lookup handle).map fun p => ⟨.ofList (p ++ suffix)⟩

def own? (t : Tag) : Option String :=
  match t.text.toList with
  | ['!'] => some "!"
  | '!' :: name => some (.ofList name)
  | _ => none

end Tag

def isTagChar (verbatim : Bool) (d : Char) : Bool :=
  d.isAlphanum || "_-;/?:@&=+$.!~*'()%".toList.contains d || (verbatim && ",[]".toList.contains d)

-- characters of tags are of one byte each, and a percent sign stands before the digits of any other byte
def tagBytes? : List Char → Option (List UInt8)
  | [] => some []
  | '%' :: a :: b :: cs =>
    if Text.isHexDigit a && Text.isHexDigit b then (tagBytes? cs).map (.ofNat (Text.ofHex [a, b]) :: ·) else none
  | '%' :: _ => none
  | c :: cs => (tagBytes? cs).map (.ofNat c.toNat :: ·)

def tagPart? (verbatim loose : Bool) (c : Cursor) : Option (List Char × Cursor) := do
  let (cs, c) := c.takeWhile (isTagChar verbatim)
  let bytes ← tagBytes? cs
  let text ← String.fromUTF8? ⟨bytes.toArray⟩
  if cs.isEmpty && !loose then none else some (text.toList, c)

def tagParts? (c : Cursor) : Option (List Char × List Char × Cursor) := do
  let (word, d) := c.next.takeWhile isNameChar
  if c.next.isAt '<' then
    let (suffix, c) ← tagPart? true false (c.skip 2)
    if c.isAt '>' then some ([], suffix, c.next) else none
  else if d.isAt '!' then
    let (suffix, c) ← tagPart? false false d.next
    return ('!' :: word ++ ['!'], suffix, c)
  else
    let (suffix, c) ← tagPart? false true c.next
    return if suffix.isEmpty then ([], ['!'], c) else (['!'], suffix, c)

def handle? (c : Cursor) : Option (List Char × List Char × Cursor) := do
  let (word, d) := c.next.takeWhile isNameChar
  let (handle, c) ←
    if !c.isAt '!' then none
    else if d.isAt '!' then some ('!' :: word ++ ['!'], d.next)
    else if word.isEmpty then some (['!'], d)
    else none
  let (blanks, d) := c.takeWhile isSpace
  if blanks.isEmpty then none
  else
    let (expansion, c) ← tagPart? true false d
    return (handle, expansion, c)

end AccessPolicy.Yaml
