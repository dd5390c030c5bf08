import ApiCheck.Yaml.Token

/-!
# YAML nodes

`parse? s` gives the node of a text that holds exactly one document.  A node is a scalar, a
sequence or a mapping; the members of a mapping keep their order and may share a key.  Where a node
is left out, an empty plain scalar stands for it.

The reader keeps the collections that are still open on a stack (`Frame`) and takes one token after
the other (`State.step?`).  A sequence may stand in a mapping without further indentation; no mark
closes it, so that it ends with the first token that is no dash.
-/

namespace ApiCheck.Yaml

/-! ### Types -/

/-- A value in YAML. -/
inductive Node where
  /-- A scalar, and whether it is written plainly. -/
  | scalar (plain : Bool) (text : String)
  | sequence (items : List Node)
  | mapping (members : List (Node × Node))

/-- The node that stands for one that is left out. -/
def Node.empty : Node :=
  .scalar true ""

/-- An open collection, with the place in it at which a node stands.  Items and members are held in
reverse. -/
inductive Frame where
  /-- An item behind a dash. -/
  | item (items : List Node)
  /-- An item behind a dash, in a sequence without an indentation of its own. -/
  | flatItem (items : List Node)
  /-- A key. -/
  | key (members : List (Node × Node))
  /-- The value of a key. -/
  | value (members : List (Node × Node)) (key : Node)
  /-- An item in brackets. -/
  | flowItem (items : List Node)
  /-- A key in brackets that is marked as one. -/
  | flowKey (members : List (Node × Node))
  /-- A key in brackets without a value. -/
  | flowBareKey (members : List (Node × Node))
  /-- The value of a key in brackets. -/
  | flowValue (members : List (Node × Node)) (key : Node)
  /-- The key of an item in brackets that is a mapping of one member. -/
  | pairKey (items : List Node)
  /-- The value of that member. -/
  | pairValue (items : List Node) (key : Node)

namespace Frame

/-- Whether a node in block form may stand at the place. -/
def allowsBlock : Frame → Bool
  | .item _ | .flatItem _ | .key _ | .value _ _ => true
  | _ => false

/-- Whether a sequence without an indentation of its own may stand at the place. -/
def allowsFlat : Frame → Bool
  | .key _ | .value _ _ => true
  | _ => false

/-- Whether a token tells that the node at the place is left out. -/
def isEmptyBefore : Frame → Token → Bool
  | .item _, t => t = .entry || t = .closeBlock
  | .flatItem _, t => t = .entry || t = .key || t = .value || t = .closeBlock
  | .key _, t | .value _ _, t => t = .key || t = .value || t = .closeBlock
  | .flowKey _, t => t = .value || t = .comma || t = .closeFlowMapping
  | .flowValue _ _, t => t = .comma || t = .closeFlowMapping
  | .pairValue _ _, t => t = .comma || t = .closeFlowSequence
  | _, _ => false

end Frame

/-- What the reader has met so far, the innermost open collection first. -/
inductive State where
  /-- Nothing. -/
  | start
  /-- The mark for the start of the document. -/
  | opened
  /-- A node stands at the place of the innermost frame. -/
  | node (frame : Frame) (stack : List Frame)
  /-- The first dash of a sequence must follow. -/
  | firstEntry (stack : List Frame)
  /-- A member of a block mapping or its end must follow. -/
  | member (members : List (Node × Node)) (stack : List Frame)
  /-- An item in brackets or the end of the sequence must follow. -/
  | flowItem (items : List Node) (stack : List Frame)
  /-- A member in brackets or the end of the mapping must follow. -/
  | flowMember (members : List (Node × Node)) (stack : List Frame)
  /-- A node is complete. -/
  | done (node : Node) (stack : List Frame)
  /-- The document is complete. -/
  | closed (node : Node)
  /-- The text is complete. -/
  | stopped (node : Node)

namespace State

/-! ### Starts of nodes -/

/-- The state after a token with which a node starts that may stand anywhere. -/
def startFlow? (stack : List Frame) : Token → Option State
  | .scalar plain text => some (.done (.scalar plain text) stack)
  | .openFlowSequence => some (.flowItem [] stack)
  | .openFlowMapping => some (.flowMember [] stack)
  | _ => none

/-- The state after a token with which a node starts. -/
def start? (allowsBlock : Bool) (stack : List Frame) : Token → Option State
  | .openSequence => if allowsBlock then some (.firstEntry stack) else none
  | .openMapping => if allowsBlock then some (.member [] stack) else none
  | t => startFlow? stack t

/-! ### Ends of nodes -/

/-- The state after a token behind a member of a block mapping. -/
def afterMember? (members : List (Node × Node)) (stack : List Frame) : Token → Option State
  | .key => some (.node (.key members) stack)
  | .closeBlock => some (.done (.mapping members.reverse) stack)
  | _ => none

/-- The state after a token behind an item in brackets. -/
def afterFlowItem? (items : List Node) (stack : List Frame) : Token → Option State
  | .comma => some (.flowItem items stack)
  | .closeFlowSequence => some (.done (.sequence items.reverse) stack)
  | _ => none

/-- The state after a token behind a member in brackets. -/
def afterFlowMember? (members : List (Node × Node)) (stack : List Frame) : Token → Option State
  | .comma => some (.flowMember members stack)
  | .closeFlowMapping => some (.done (.mapping members.reverse) stack)
  | _ => none

/-- The state after a token behind the node of the document. -/
def afterRoot? (v : Node) : Token → Option State
  | .closeDocument => some (.closed v)
  | .stop => some (.stopped v)
  | _ => none

/-- The state after a token behind a complete node. -/
def afterNode? (v : Node) (t : Token) : List Frame → Option State
  | [] => afterRoot? v t
  | .item items :: stack =>
    match t with
    | .entry => some (.node (.item (v :: items)) stack)
    | .closeBlock => some (.done (.sequence (v :: items).reverse) stack)
    | _ => none
  | .flatItem items :: stack =>
    match t with
    | .entry => some (.node (.flatItem (v :: items)) stack)
    | _ => afterNode? (.sequence (v :: items).reverse) t stack
  | .key members :: stack =>
    match t with
    | .value => some (.node (.value members v) stack)
    | _ => afterMember? ((v, .empty) :: members) stack t
  | .value members k :: stack => afterMember? ((k, v) :: members) stack t
  | .flowItem items :: stack => afterFlowItem? (v :: items) stack t
  | .flowKey members :: stack =>
    match t with
    | .value => some (.node (.flowValue members v) stack)
    | _ => afterFlowMember? ((v, .empty) :: members) stack t
  | .flowBareKey members :: stack => afterFlowMember? ((v, .empty) :: members) stack t
  | .flowValue members k :: stack => afterFlowMember? ((k, v) :: members) stack t
  | .pairKey items :: stack =>
    match t with
    | .value => some (.node (.pairValue items v) stack)
    | _ => afterFlowItem? (.mapping [(v, .empty)] :: items) stack t
  | .pairValue items k :: stack => afterFlowItem? (.mapping [(k, v)] :: items) stack t

/-! ### Steps -/

/-- The state after a token at the place of a frame. -/
def atFrame? (frame : Frame) (stack : List Frame) (t : Token) : Option State :=
  if frame.isEmptyBefore t then afterNode? .empty t (frame :: stack)
  else if frame.allowsFlat && t = .entry then some (.node (.flatItem []) (frame :: stack))
  else start? frame.allowsBlock (frame :: stack) t

/-- The state after one more token. -/
def step? : State → Token → Option State
  | .start, .openDocument => some .opened
  | .start, t => start? true [] t
  | .opened, t =>
    match t with
    | .closeDocument | .stop => afterRoot? .empty t
    | _ => start? true [] t
  | .node frame stack, t => atFrame? frame stack t
  | .firstEntry stack, .entry => some (.node (.item []) stack)
  | .member members stack, t => afterMember? members stack t
  | .flowItem items stack, .closeFlowSequence => some (.done (.sequence items.reverse) stack)
  | .flowItem items stack, .key => some (.node (.pairKey items) stack)
  | .flowItem items stack, t => start? false (.flowItem items :: stack) t
  | .flowMember members stack, .closeFlowMapping =>
    some (.done (.mapping members.reverse) stack)
  | .flowMember members stack, .key => some (.node (.flowKey members) stack)
  | .flowMember members stack, t => start? false (.flowBareKey members :: stack) t
  | .done v stack, t => afterNode? v t stack
  | .closed v, .closeDocument => some (.closed v)
  | .closed v, .stop => some (.stopped v)
  | _, _ => none

end State

/-- The node that a list of tokens spells. -/
def ofTokens? (ts : List Token) : Option Node :=
  match ts.foldlM State.step? .start with
  | some (.stopped v) => some v
  | _ => none

/-- The node that a text spells. -/
def parse? (s : String) : Option Node :=
  tokens? s >>= ofTokens?

end ApiCheck.Yaml
