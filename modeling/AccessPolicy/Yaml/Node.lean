import AccessPolicy.Yaml.Token

namespace AccessPolicy.Yaml

inductive Node where
  | scalar (text : String) (style : ScalarStyle)
  | sequence (items : List Node) (cut : Bool)
  | mapping (members : List (Node × Node)) (cut : Bool)
  | tagged (tag : Tag) (n : Node)
  | broken
  deriving Repr

namespace Node

instance : Inhabited Node := ⟨.broken⟩

def empty : Node := .scalar "" .plain

end Node

structure Names where
  nodes : List (List Char × Node)
  handles : Handles

structure Reading (α : Type) where
  value : α
  rest : Option (List Token)
  names : Names

def stopped {α : Type} (a : α) : Reading α := ⟨a, none, ⟨[], []⟩⟩

structure Properties where
  anchor : Option (List Char)
  tag : Option Tag

namespace Properties

def isSome (p : Properties) : Bool := p.anchor.isSome || p.tag.isSome

def ofTokens? (hs : Handles) : List Token → Option (Properties × List Token)
  | .anchor n :: .tag h s :: ts => (Tag.ofParts? hs h s).map fun t => (⟨some n, some t⟩, ts)
  | .tag h s :: .anchor n :: ts => (Tag.ofParts? hs h s).map fun t => (⟨some n, some t⟩, ts)
  | .anchor n :: ts => some (⟨some n, none⟩, ts)
  | .tag h s :: ts => (Tag.ofParts? hs h s).map fun t => (⟨none, some t⟩, ts)
  | ts => some (⟨none, none⟩, ts)

-- the bare tag says nothing about a scalar, unless the scalar is not written at all
def before (ts : List Token) (p : Properties) : Properties :=
  match ts with
  | .scalar _ _ :: _ => { p with tag := p.tag.filter (· ≠ .bare) }
  | _ => p

def mark (p : Properties) (n : Node) : Node :=
  match p.tag, n with
  | _, .broken => .broken
  | some t, n => .tagged t n
  | none, n => n

end Properties

mutual

/-- One node. `block` allows blocks, and `loose` entries of a sequence that are not indented. The first argument
bounds the number of nested calls. -/
def readNode (block loose : Bool) : Nat → Names → List Token → Reading Node
  | 0, _, _ => stopped .broken
  | fuel + 1, ns, ts =>
    match ts with
    | .alias n :: ts =>
      match ns.nodes.lookup n with
      | some node => ⟨node, some ts, ns⟩
      | none => stopped .broken
    | ts =>
      match Properties.ofTokens? ns.handles ts with
      | none => stopped .broken
      | some (p, ts) =>
        let p := p.before ts
        let r : Reading Node := match ts with
          | .scalar s style :: ts => ⟨.scalar (String.ofList s) style, some ts, ns⟩
          | .flowSequence :: ts =>
            let r := readFlowItems true fuel ns ts
            ⟨.sequence r.value.1 r.value.2, r.rest, r.names⟩
          | .flowMapping :: ts =>
            let r := readFlowMembers true fuel ns ts
            ⟨.mapping r.value.1 r.value.2, r.rest, r.names⟩
          | .blockEntry :: _ =>
            if loose then
              let r := readLooseItems fuel ns ts
              ⟨.sequence r.value.1 r.value.2, r.rest, r.names⟩
            else if p.isSome then ⟨.empty, some ts, ns⟩
            else stopped .broken
          | .blockSequence :: ts' =>
            if block then
              let r := readBlockItems fuel ns ts'
              ⟨.sequence r.value.1 r.value.2, r.rest, r.names⟩
            else if p.isSome then ⟨.empty, some ts, ns⟩
            else stopped .broken
          | .blockMapping :: ts' =>
            if block then
              let r := readBlockMembers fuel ns ts'
              ⟨.mapping r.value.1 r.value.2, r.rest, r.names⟩
            else if p.isSome then ⟨.empty, some ts, ns⟩
            else stopped .broken
          | [] => stopped .broken
          | ts => if p.isSome then ⟨.empty, some ts, ns⟩ else stopped .broken
        let value := p.mark r.value
        { r with
          value := value
          names := match p.anchor with
            | some n => { r.names with nodes := (n, value) :: r.names.nodes }
            | none => r.names }

def readOptional (block loose : Bool) (ends : Token → Bool) : Nat → Names → List Token → Reading Node
  | 0, _, _ => stopped .broken
  | fuel + 1, ns, ts =>
    match ts with
    | [] => stopped .broken
    | t :: r => if ends t then ⟨.empty, some (t :: r), ns⟩ else readNode block loose fuel ns (t :: r)

def readBlockItems : Nat → Names → List Token → Reading (List Node × Bool)
  | 0, _, _ => stopped ([], true)
  | fuel + 1, ns, ts =>
    match ts with
    | .blockEnd :: ts => ⟨([], false), some ts, ns⟩
    | .blockEntry :: ts =>
      let v := readOptional true false (fun t => t == .blockEntry || t == .blockEnd) fuel ns ts
      match v.rest with
      | none => stopped ([v.value], true)
      | some ts =>
        let r := readBlockItems fuel v.names ts
        ⟨(v.value :: r.value.1, r.value.2), r.rest, r.names⟩
    | _ => stopped ([], true)

def readLooseItems : Nat → Names → List Token → Reading (List Node × Bool)
  | 0, _, _ => stopped ([], true)
  | fuel + 1, ns, ts =>
    match ts with
    | [] => stopped ([], true)
    | .blockEntry :: ts =>
      let v := readOptional true false
        (fun t => t == .blockEntry || t == .key || t == .value || t == .blockEnd) fuel ns ts
      match v.rest with
      | none => stopped ([v.value], true)
      | some ts =>
        let r := readLooseItems fuel v.names ts
        ⟨(v.value :: r.value.1, r.value.2), r.rest, r.names⟩
    | ts => ⟨([], false), some ts, ns⟩

def readValue (block : Bool) (ends : Token → Bool) : Nat → Names → List Token → Reading Node
  | 0, _, _ => stopped .broken
  | fuel + 1, ns, ts =>
    match ts with
    | [] => stopped .broken
    | .value :: ts => readOptional block block ends fuel ns ts
    | ts => ⟨.empty, some ts, ns⟩

def readBlockMembers : Nat → Names → List Token → Reading (List (Node × Node) × Bool)
  | 0, _, _ => stopped ([], true)
  | fuel + 1, ns, ts =>
    let ends (t : Token) : Bool := t == .key || t == .value || t == .blockEnd
    let member (k : Reading Node) : Reading (List (Node × Node) × Bool) :=
      match k.rest with
      | none => stopped ([(k.value, .broken)], true)
      | some ts =>
        let v := readValue true ends fuel k.names ts
        match v.rest with
        | none => stopped ([(k.value, v.value)], true)
        | some ts =>
          let r := readBlockMembers fuel v.names ts
          ⟨((k.value, v.value) :: r.value.1, r.value.2), r.rest, r.names⟩
    match ts with
    | .blockEnd :: ts => ⟨([], false), some ts, ns⟩
    | .key :: ts => member (readOptional true true ends fuel ns ts)
    | _ => stopped ([], true)

def readFlowItems (first : Bool) : Nat → Names → List Token → Reading (List Node × Bool)
  | 0, _, _ => stopped ([], true)
  | fuel + 1, ns, ts =>
    let ends (t : Token) : Bool := t == .value || t == .flowEntry || t == .flowSequenceEnd
    let go (v : Reading Node) : Reading (List Node × Bool) :=
      match v.rest with
      | none => stopped ([v.value], true)
      | some ts =>
        let r := readFlowItems false fuel v.names ts
        ⟨(v.value :: r.value.1, r.value.2), r.rest, r.names⟩
    let item (ts : List Token) : Reading (List Node × Bool) :=
      match ts with
      | .flowSequenceEnd :: ts => ⟨([], false), some ts, ns⟩
      | .key :: ts =>
        let k := readOptional false false ends fuel ns ts
        match k.rest with
        | none => stopped ([.mapping [(k.value, .broken)] true], true)
        | some ts =>
          let v := readValue false ends fuel k.names ts
          go { v with value := .mapping [(k.value, v.value)] v.rest.isNone }
      | ts => go (readNode false false fuel ns ts)
    match ts with
    | .flowSequenceEnd :: ts => ⟨([], false), some ts, ns⟩
    | .flowEntry :: ts => if first then go (readNode false false fuel ns (.flowEntry :: ts)) else item ts
    | ts => if first then item ts else stopped ([], true)

def readFlowMembers (first : Bool) : Nat → Names → List Token → Reading (List (Node × Node) × Bool)
  | 0, _, _ => stopped ([], true)
  | fuel + 1, ns, ts =>
    let ends (t : Token) : Bool := t == .value || t == .flowEntry || t == .flowMappingEnd
    let go (k v : Reading Node) : Reading (List (Node × Node) × Bool) :=
      match v.rest with
      | none => stopped ([(k.value, v.value)], true)
      | some ts =>
        let r := readFlowMembers false fuel v.names ts
        ⟨((k.value, v.value) :: r.value.1, r.value.2), r.rest, r.names⟩
    let member (ts : List Token) : Reading (List (Node × Node) × Bool) :=
      match ts with
      | .flowMappingEnd :: ts => ⟨([], false), some ts, ns⟩
      | .key :: ts =>
        let k := readOptional false false ends fuel ns ts
        match k.rest with
        | none => stopped ([(k.value, .broken)], true)
        | some ts => go k (readValue false ends fuel k.names ts)
      | ts =>
        let k := readNode false false fuel ns ts
        match k.rest with
        | none => stopped ([(k.value, .broken)], true)
        | some _ => go k { k with value := .empty }
    match ts with
    | .flowMappingEnd :: ts => ⟨([], false), some ts, ns⟩
    | .flowEntry :: ts =>
      if first then
        let k := readNode false false fuel ns (.flowEntry :: ts)
        go k { k with value := .empty }
      else member ts
    | ts => if first then member ts else stopped ([], true)

end

structure Document where
  root : Node
  cut : Bool

def skipDirectives (versioned : Bool) (hs : Handles) : List Token → Option (Handles × List Token)
  | .version major minor :: ts =>
    if versioned || major != 1 || (minor != 1 && minor != 2) then none else skipDirectives true hs ts
  | .tagPrefix h t :: ts => if (hs.lookup h).isSome then none else skipDirectives versioned ((h, t) :: hs) ts
  | .documentStart :: ts => some (hs, ts)
  | _ => none

def Names.first (hs : Handles) : Names := ⟨[], hs ++ Tag.handles⟩

def readRoot (fuel : Nat) (ts : List Token) : Reading Node :=
  let content (ns : Names) (ts : List Token) : Reading Node :=
    match ts with
    | .version _ _ :: _ => ⟨.empty, some ts, ns⟩
    | .tagPrefix _ _ :: _ => ⟨.empty, some ts, ns⟩
    | .documentStart :: _ => ⟨.empty, some ts, ns⟩
    | .documentEnd :: _ => ⟨.empty, some ts, ns⟩
    | .streamEnd :: _ => ⟨.empty, some ts, ns⟩
    | ts => readNode true false fuel ns ts
  let explicit : Reading Node :=
    match skipDirectives false [] ts with
    | some (hs, ts) => content (.first hs) ts
    | none => stopped .broken
  match ts with
  | .streamEnd :: _ => ⟨.empty, some ts, .first []⟩
  | .version _ _ :: _ => explicit
  | .tagPrefix _ _ :: _ => explicit
  | .documentStart :: _ => explicit
  | ts => readNode true false fuel (.first []) ts

def read (text : String) : Document :=
  let ts := tokens text
  let r := readRoot (4 * ts.length + 4) ts
  let cut := match r.rest with
    | some ts => ts.dropWhile (· == .documentEnd) != [.streamEnd]
    | none => true
  ⟨r.value, cut⟩

end AccessPolicy.Yaml
